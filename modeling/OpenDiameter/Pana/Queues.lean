import OpenDiameter.Pana.Ledger
import OpenDiameter.Pana.PaaAuthorization

/-! The queues of clients and of authentication agents. -/

set_option autoImplicit false

namespace OpenDiameter.Pana

open Foundation OpenDiameter.Framework

namespace Session

section Rules

def Keeps (s t : Session) : Prop := t.rxMsgQueue = s.rxMsgQueue ∧ t.txEapMessageQueue = s.txEapMessageQueue

theorem keeps_rfl (s : Session) : s.Keeps s := ⟨rfl, rfl⟩

abbrev Keep {α : Type} (x : Imperative Session Exception α) : Prop := Imperative.Relates Keeps x

variable {α β : Type}

theorem keep_pure (value : α) : Keep (pure value) := Imperative.relates_pure keeps_rfl value

theorem keep_get : Keep get := Imperative.relates_get keeps_rfl

theorem keep_raise (e : Exception) : Keep (Imperative.raise e : Imperative Session Exception α) :=
  Imperative.relates_raise keeps_rfl e

theorem keep_modify {change : Session → Session} (each : ∀ s, Keeps s (change s)) : Keep (modify change) :=
  Imperative.relates_modify each

theorem Keep.bind {x : Imperative Session Exception α} {next : α → Imperative Session Exception β}
    (first : Keep x) (rest : ∀ value, Keep (next value)) : Keep (x >>= next) :=
  Imperative.Relates.bind (fun _ _ _ one two => ⟨two.1.trans one.1, two.2.trans one.2⟩) first rest

theorem Keep.ite {condition : Prop} [Decidable condition] {x y : Imperative Session Exception α} (holds : Keep x)
    (fails : Keep y) : Keep (if condition then x else y) := Imperative.Relates.ite holds fails

variable {s : Session}

theorem takes_rx {next : Message → Imperative Session Exception α} (rest : ∀ msg, Keep (next msg)) :
    ((dequeueRx >>= next).after s).rxMsgQueue = s.rxMsgQueue.tail ∧
      ((dequeueRx >>= next).after s).txEapMessageQueue = s.txEapMessageQueue := by
  rw [after_dequeueRx_bind]
  cases queue : s.rxMsgQueue with
  | nil => exact ⟨queue, rfl⟩
  | cons msg others => exact rest msg _

theorem takes_eap {next : Octets → Imperative Session Exception α} (rest : ∀ block, Keep (next block)) :
    ((dequeueEap >>= next).after s).rxMsgQueue = s.rxMsgQueue ∧
      ((dequeueEap >>= next).after s).txEapMessageQueue = s.txEapMessageQueue.tail := by
  rw [after_dequeueEap_bind]
  cases queue : s.txEapMessageQueue with
  | nil => exact ⟨rfl, queue⟩
  | cons block others => exact rest block _

theorem flushes_rx {next : Message → Imperative Session Exception α} (some : s.rxMsgQueue ≠ [])
    (rest : ∀ msg t,
      ((next msg).after t).rxMsgQueue = [] ∧ ((next msg).after t).txEapMessageQueue = []) :
    ((dequeueRx >>= next).after s).rxMsgQueue = [] ∧ ((dequeueRx >>= next).after s).txEapMessageQueue = [] := by
  rw [after_dequeueRx_bind]
  cases queue : s.rxMsgQueue with
  | nil => exact absurd queue some
  | cons msg others => exact rest msg _

end Rules

section Parts

variable (crypto : Crypto) (config : Config) (draws : Draws)

theorem keep_txLastReqMsg : Keep (txLastReqMsg draws) := by
  intro s
  unfold Imperative.after txLastReqMsg
  cases draws.reScheduled with
  | false => exact ⟨rfl, rfl⟩
  | true =>
    simp only [if_true]
    cases s.lastTxReqMsg <;> exact ⟨rfl, rfl⟩

theorem keep_answer : Keep (modify cancelTxRetry) := keep_modify fun _ => ⟨rfl, rfl⟩

theorem keeps_saveAddress (s : Session) (msg : Message) : s.Keeps (s.saveAddress msg) :=
  ⟨rxMsgQueue_saveAddress s msg, txEapMessageQueue_saveAddress s msg⟩

/-- The first level of validation takes nothing from the queues. -/
theorem demand_cases (request : Bool) (description : String) (msg : Message) (s : Session) :
    (∃ e, demand request description msg s = .error (.thrown e) s) ∨ demand request description msg s = .ok () s := by
  by_cases same : msg.request = request
  · exact Or.inr (demand_of_eq description same)
  · exact Or.inl (demand_of_ne description same)

theorem resolves_of_queued {Event : Type} {filter : RxFilter Event} {event : Message → Event} {draws : Draws}
    (resolve : filter.resolve draws = queued event) (msg : Message) (s : Session) :
    ∃ value t, filter.resolve draws msg s = .ok value t ∧ t.rxMsgQueue = s.rxMsgQueue ++ [msg] ∧
      t.txEapMessageQueue = s.txEapMessageQueue := by
  rw [resolve]
  refine ⟨event msg, ((s.saveAddress msg).saveHeader msg).enqueueRx msg, rfl, ?_, ?_⟩
  · exact congrArg (· ++ [msg]) (rxMsgQueue_saveAddress s msg)
  · exact txEapMessageQueue_saveAddress s msg

/-- An error that finds nothing else queued ends the session. -/
theorem rxPER_flushes {msg : Message} {rcode : UInt32} (result : msg.avpList.resultCode = some rcode) {s : Session}
    (empty : s.rxMsgQueue = []) : ∃ t, rxPER config draws (s.enqueueRx msg) = .ok () t ∧ t.rxMsgQueue = [] ∧
      t.txEapMessageQueue = [] := by
  have first : s.nextRx msg = msg := by
    unfold nextRx
    rw [empty]
    rfl
  rw [rxPER_run, first, result]
  exact ⟨_, rfl, rfl, rfl⟩

end Parts

end Session

namespace Client

open Session

variable (crypto : Crypto) (config : Config) (draws : Draws)

/-- How clients use the queues. The answer to an error message is not passed on. -/
def usage : Usage PacAction Call where
  takesRx
    | .offlineExitActionRxPSR | .waitPaaExitActionRxPAR | .waitPaaExitActionRxPAN | .waitPaaExitActionRxPBR
    | .openExitActionRxPPR | .openExitActionRxPAR | .openExitActionRxPTR | .openExitActionRxPUR
    | .waitPRAAExitActionRxPRA | .waitPPAExitActionRxPPA | .waitPUAExitActionRxPUA | .sessTermExitActionRxPTA
    | .waitPEAExitActionRxPEA => true
    | _ => false
  takesEap
    | .waitEapMsgInExitActionTxPSA | .waitEapMsgExitActionTxPAN | .waitEapMsgExitActionTxPAR => true
    | _ => false
  resets
    | .waitPaaExitActionRxPBR, msg =>
      msg.any fun msg => msg.avpList.eapPayload.isNone && msg.avpList.resultCode.any (· != rcodeSuccess)
    | .openExitActionRxPTR, _ | .sessTermExitActionRxPTA, _ | .waitPEAExitActionRxPEA, _
    | .waitEapSuccessExitActionClose, _ | .waitEapFailExitActionClose, _ | .exitActionTimeout, _ => true
    | _, _ => false
  packet
    | .eapSendResponse response => some response
    | _ => none
  tells msg := msg.request

theorem keep_txPSA_false : Keep (txPSA false) := keep_get.bind fun _ => keep_modify fun _ => ⟨rfl, rfl⟩

theorem takes_txPSA (s : Session) : ((txPSA true).after s).rxMsgQueue = s.rxMsgQueue ∧
    ((txPSA true).after s).txEapMessageQueue = s.txEapMessageQueue.tail := by
  unfold txPSA
  rw [Imperative.after_get_bind]
  exact takes_eap fun block => keep_modify fun _ => ⟨rfl, rfl⟩

theorem keep_txPAN_false : Keep (txPAN crypto draws false) := by
  apply keep_get.bind
  intro s
  apply Keep.ite
  · exact Keep.bind (keep_modify fun _ => ⟨rfl, rfl⟩) fun _ => keep_modify fun _ => ⟨rfl, rfl⟩
  · exact keep_modify fun _ => ⟨rfl, rfl⟩

theorem takes_txPAN (s : Session) : ((txPAN crypto draws true).after s).rxMsgQueue = s.rxMsgQueue ∧
    ((txPAN crypto draws true).after s).txEapMessageQueue = s.txEapMessageQueue.tail := by
  unfold txPAN
  rw [Imperative.after_get_bind]
  cases s.sa.pacNonce.isSet with
  | true =>
    simp only [Bool.not_true, Bool.false_eq_true, if_false, if_true, Imperative.after_modify_bind]
    exact takes_eap fun block => keep_modify fun _ => ⟨rfl, rfl⟩
  | false =>
    simp only [Bool.not_false, Bool.false_eq_true, if_false, if_true, Imperative.after_modify_bind]
    exact takes_eap fun block => keep_modify fun _ => ⟨rfl, rfl⟩

theorem keep_payload (msg : Message) (schedule : Session → Session) (each : ∀ s, Keeps s (schedule s)) (e : Exception) :
    Keep (match msg.avpList.eapPayload with
      | some payload => modify fun s => schedule (notifyEapRequest s payload)
      | none => Imperative.raise e) := by
  cases msg.avpList.eapPayload with
  | some payload => exact keep_modify fun s => each (notifyEapRequest s payload)
  | none => exact keep_raise e

theorem takes_rxPSR (s : Session) : ((rxPSR draws).after s).rxMsgQueue = s.rxMsgQueue.tail ∧
    ((rxPSR draws).after s).txEapMessageQueue = s.txEapMessageQueue := by
  apply takes_rx
  intro msg
  refine Keep.bind (keep_modify fun _ => ⟨rfl, rfl⟩) fun _ => ?_
  cases msg.avpList.eapPayload with
  | some payload => exact keep_modify fun _ => ⟨rfl, rfl⟩
  | none => exact keep_txPSA_false

theorem takes_rxPAR (s : Session) : ((rxPAR crypto config draws).after s).rxMsgQueue = s.rxMsgQueue.tail ∧
    ((rxPAR crypto config draws).after s).txEapMessageQueue = s.txEapMessageQueue := by
  apply takes_rx
  intro msg
  refine Keep.bind keep_answer fun _ => Keep.bind (keep_modify fun s => ?_) fun _ => ?_
  · cases msg.avpList.nonce with
    | none => exact ⟨rfl, rfl⟩
    | some nonce => cases s.sa.paaNonce.isSet <;> exact ⟨rfl, rfl⟩
  · have rest := keep_payload msg scheduleEapResponse (fun _ => ⟨rfl, rfl⟩)
      ⟨.failed, "No EAP-Payload AVP in PAR message"⟩
    apply Keep.ite
    · exact (keep_txPAN_false crypto draws).bind fun _ => rest
    · exact rest

theorem takes_txPAR (s : Session) : ((txPAR crypto).after s).rxMsgQueue = s.rxMsgQueue ∧
    ((txPAR crypto).after s).txEapMessageQueue = s.txEapMessageQueue.tail := by
  unfold txPAR
  rw [Imperative.after_modify_bind]
  exact takes_eap fun _ => keep_modify fun _ => ⟨rfl, rfl⟩

theorem keeps_txPBA (authSuccess : Bool) (s : Session) : s.Keeps (txPBA crypto draws s authSuccess) := by
  unfold txPBA
  cases draws.key with
  | none => exact ⟨rfl, rfl⟩
  | some key => cases authSuccess <;> exact ⟨rfl, rfl⟩

theorem leaves_rxPBR (s : Session) (some : s.rxMsgQueue ≠ []) :
    s.Leaves ((rxPBR config draws).after s) (usage.resets .waitPaaExitActionRxPBR s.rxMsgQueue.head?) true false := by
  unfold rxPBR Leaves
  rw [after_dequeueRx_bind]
  cases queue : s.rxMsgQueue with
  | nil => exact absurd queue some
  | cons msg rest =>
    have value : usage.resets .waitPaaExitActionRxPBR (.some msg) =
        (msg.avpList.eapPayload.isNone && msg.avpList.resultCode.any (· != rcodeSuccess)) := rfl
    rw [List.head?_cons, value]
    dsimp only
    cases msg.avpList.resultCode with
    | none =>
      rw [Option.any_none, Bool.and_false]
      exact ⟨rfl, rfl⟩
    | some rcode =>
      cases msg.avpList.eapPayload with
      | some payload => exact ⟨rfl, rfl⟩
      | none =>
        by_cases success : rcode = rcodeSuccess
        · simp [success]
        · simp [success, error, finish, reset]

theorem describes : usage.Describes (program crypto config) where
  -- `returns` drops the result, which is no part of the queues.
  perform draws action s rx tx := by
    have returns (x : SessionM) : (do x; return none : Imperative Session Exception (Option PacEvent)).after s =
        x.after s := Imperative.after_bind_pure x _ s
    cases action
    case null => exact ⟨rfl, rfl⟩
    case offlineExitActionRxPSR => exact (returns (rxPSR draws)).symm ▸ takes_rxPSR draws s
    case offlineExitActionAuthUser => exact ⟨rfl, rfl⟩
    case waitEapMsgInExitActionTxPSA => exact (returns (txPSA true)).symm ▸ takes_txPSA s
    case waitPaaExitActionRxPAR => exact (returns _).symm ▸ takes_rxPAR crypto config draws s
    case waitPaaExitActionRxPAN => exact (returns rxPAN).symm ▸ takes_rx fun _ => keep_modify fun _ => ⟨rfl, rfl⟩
    case waitPaaExitActionRxPBR => exact (returns _).symm ▸ leaves_rxPBR config draws s (rx rfl)
    case waitEapMsgExitActionTxPAN => exact (returns _).symm ▸ takes_txPAN crypto draws s
    case waitEapMsgExitActionTxPAR => exact (returns _).symm ▸ takes_txPAR crypto s
    -- With piggybacking the PAN that was held back goes out without a payload.
    case waitEapMsgExitActionTxPANTout =>
      have kept : Keep (perform crypto config draws .waitEapMsgExitActionTxPANTout) := by
        have rest : Keep (do modify cancelEapResponse; return none : Imperative Session Exception (Option PacEvent)) :=
          Keep.bind (keep_modify fun _ => ⟨rfl, rfl⟩) fun _ => keep_pure none
        apply Keep.ite
        · exact (keep_txPAN_false crypto draws).bind fun _ => rest
        · exact rest
      exact kept s
    case waitEapResultExitActionEapOpen => exact keeps_txPBA crypto draws true s
    case waitEapSuccessExitActionClose => exact ⟨rfl, rfl⟩
    case waitEapFailExitActionClose => exact ⟨rfl, rfl⟩
    case openExitActionRxPPR => exact (returns (Session.rxPPR crypto)).symm ▸ takes_rx fun _ => keep_modify fun _ => ⟨rfl, rfl⟩
    case openExitActionTxPPR => exact ⟨rfl, rfl⟩
    case openExitActionRxPAR => exact (returns _).symm ▸ takes_rxPAR crypto config draws (notifyEapRestart draws s)
    case openExitActionRxPTR =>
      exact (returns (Session.rxPTR crypto config draws)).symm ▸ flushes_rx (rx rfl) fun _ _ => ⟨rfl, rfl⟩
    case openExitActionTxPTR => exact ⟨rfl, rfl⟩
    case openExitActionTxPUR => exact ⟨rfl, rfl⟩
    case openExitActionRxPUR => exact (returns (Session.rxPUR crypto)).symm ▸ takes_rx fun _ => keep_modify fun _ => ⟨rfl, rfl⟩
    case openExitActionTxPRR => exact ⟨rfl, rfl⟩
    case waitPRAAExitActionRxPRA => exact (returns (rxPRA draws)).symm ▸ takes_rx fun _ => keep_modify fun _ => ⟨rfl, rfl⟩
    case waitPPAExitActionRxPPA => exact (returns Session.rxPPA).symm ▸ takes_rx fun _ => keep_answer
    case waitPUAExitActionRxPUA => exact (returns Session.rxPUA).symm ▸ takes_rx fun _ => keep_answer
    case sessTermExitActionRxPTA =>
      exact (returns (Session.rxPTA config draws)).symm ▸ flushes_rx (rx rfl) fun _ _ => ⟨rfl, rfl⟩
    case exitActionTimeout => exact ⟨rfl, rfl⟩
    case exitActionRetransmission =>
      have kept : Keep (perform crypto config draws .exitActionRetransmission) :=
        (keep_txLastReqMsg draws).bind fun _ => keep_pure _
      exact kept s
    case exitActionTxPEA => exact ⟨rfl, rfl⟩
    case exitActionTxPER => exact ⟨rfl, rfl⟩
    case waitPEAExitActionRxPEA =>
      exact (returns (Session.rxPEA config draws)).symm ▸ flushes_rx (rx rfl) fun _ _ => ⟨rfl, rfl⟩
  call c s := by
    cases c
    case eapSendResponse => exact ⟨rfl, rfl⟩
    all_goals exact ⟨rfl, (List.append_nil _).symm⟩
  -- The first level of a filter: only that of PSR changes the session.
  first {type filter} handles msg s := by
    apply msgHandlers_cases (motive := fun _ filter =>
      (∃ e, filter.first msg s = .error (.thrown e) s) ∨
        ∃ t, filter.first msg s = .ok () t ∧ t.rxMsgQueue = s.rxMsgQueue ∧
          t.txEapMessageQueue = s.txEapMessageQueue) handles
    case psr =>
      rcases demand_cases true "PSA recevied, invalid message" msg s with ⟨e, throws⟩ | passes
      · refine Or.inl ⟨e, ?_⟩
        simp only [csmRxPSR, Imperative.bind_run, throws]
      · refine Or.inr ⟨{ s with sessionId := msg.sessionId }, ?_, rfl, rfl⟩
        simp only [csmRxPSR, Imperative.bind_run, passes, Imperative.modify_run]
    case pbr => exact (demand_cases _ _ msg s).imp_right fun passes => ⟨s, passes, rfl, rfl⟩
    case pra => exact (demand_cases _ _ msg s).imp_right fun passes => ⟨s, passes, rfl, rfl⟩
    all_goals exact Or.inr ⟨s, rfl, rfl, rfl⟩
  -- The second level queues what it accepts, and nothing else.
  resolve {type filter} handles other draws msg s := by
    revert other
    apply msgHandlers_cases (motive := fun type filter => type ≠ mtypePER →
      (∃ event t, filter.resolve draws msg s = .ok event t ∧ t.rxMsgQueue = s.rxMsgQueue ++ [msg] ∧
          t.txEapMessageQueue = s.txEapMessageQueue) ∨
        ∃ e t, filter.resolve draws msg s = .error (.thrown e) t ∧ t.rxMsgQueue = s.rxMsgQueue ∧
          t.txEapMessageQueue = s.txEapMessageQueue) handles
    case pe => exact fun other => absurd rfl other
    case psr =>
      intro _
      have saved := keeps_saveAddress s msg
      simp only [csmRxPSR, Imperative.bind_run, Imperative.modify_run, Imperative.ite_run, Imperative.raise_run,
        Imperative.pure_run]
      by_cases unsupported : msg.avpList.algorithm.any (· ≠ authAlgorithm) = true
      · rw [if_pos unsupported]
        exact Or.inr ⟨_, _, rfl, saved⟩
      · rw [if_neg unsupported]
        exact Or.inl ⟨_, _, rfl, congrArg (· ++ [msg]) saved.1, saved.2⟩
    all_goals exact fun _ => Or.inl (resolves_of_queued rfl msg s)
  -- `RxPER` empties the queues, and the filter of PER calls it itself.
  error {filter} handles := by
    cases handles
    refine ⟨fun msg s => rfl, ?_⟩
    intro draws msg s request result empty
    obtain ⟨rcode, here⟩ := Option.ne_none_iff_exists'.mp result
    obtain ⟨t, ends, rx, tx⟩ := rxPER_flushes config draws here ((keeps_saveAddress s msg).1.trans empty)
    have run : ∃ event, (csmRxPE config).resolve draws msg s = .ok event t := by
      have asks : msg.request = true := request
      simp only [csmRxPE, Imperative.bind_run, Imperative.modify_run, Imperative.get_run, asks, if_true,
        ends, Imperative.pure_run]
      exact ⟨_, rfl⟩
    obtain ⟨event, run⟩ := run
    exact ⟨event, t, run, rx, tx⟩

end Client

namespace Paa

open Session

variable (crypto : Crypto) (config : Config) (draws : Draws)

/-- How agents use the queues. The answer to a termination request is not taken; it is flushed. -/
def usage : Usage PaaAction Call where
  takesRx
    | .exitActionRxPSA | .waitPEAExitActionRxPEA | .exitActionRxPBASuccess | .exitActionRxPBAFail
    | .openExitActionRxPPR | .openExitActionRxPRR | .openExitActionRxPTR | .waitPUAExitActionRxPUA
    | .openExitActionRxPUR | .waitPaaExitActionRxPPA | .waitPANExitActionRxPAN | .waitPANExitActionRxPAR => true
    | _ => false
  takesEap
    | .exitActionTxPSR => config.optimizedHandshake
    | .exitActionTxPAR | .exitActionTxPBREapSuccess | .exitActionTxPBREapSuccessFail | .exitActionTxPBREapFail => true
    | _ => false
  resets
    | .exitActionEapTimeout, _ | .waitPEAExitActionRxPEA, _ | .exitActionRxPBAFail, _ | .openExitActionRxPTR, _
    | .sessExitActionRxPTA, _ | .exitActionTimeout, _ => true
    | _, _ => false
  packet
    | .eapSendRequest req => some req
    | .eapSuccess req _ => req
    | .eapFailure req => req
    | _ => none
  tells _ := true

theorem takes_rxPSA (s : Session) : ((rxPSA config).after s).rxMsgQueue = s.rxMsgQueue.tail ∧
    ((rxPSA config).after s).txEapMessageQueue = s.txEapMessageQueue := by
  apply takes_rx
  intro msg
  have rest : Keep (match msg.avpList.eapPayload with
      | some payload => modify fun s => notifyEapResponse s payload
      | none => modify notifyEapRestart) := by
    cases msg.avpList.eapPayload with
    | some payload => exact keep_modify fun _ => ⟨rfl, rfl⟩
    | none => exact keep_modify fun _ => ⟨rfl, rfl⟩
  apply Keep.ite
  · exact keep_modify fun _ => ⟨rfl, rfl⟩
  · apply Keep.ite
    · exact keep_answer.bind fun _ => rest
    · exact rest

theorem keep_response (msg : Message) : Keep (match msg.avpList.eapPayload with
    | some payload => modify fun s => notifyEapResponse s payload
    | none => pure ()) := by
  cases msg.avpList.eapPayload with
  | some payload => exact keep_modify fun _ => ⟨rfl, rfl⟩
  | none => exact keep_pure _

theorem takes_rxPAN (s : Session) : (rxPAN.after s).rxMsgQueue = s.rxMsgQueue.tail ∧
    (rxPAN.after s).txEapMessageQueue = s.txEapMessageQueue := by
  apply takes_rx
  intro msg
  refine keep_answer.bind fun _ => Keep.bind (keep_modify fun s => ?_) fun _ => keep_response msg
  cases msg.avpList.nonce with
  | none => exact ⟨rfl, rfl⟩
  | some nonce => cases s.sa.pacNonce.isSet <;> exact ⟨rfl, rfl⟩

theorem takes_rxPAR (s : Session) : ((rxPAR crypto).after s).rxMsgQueue = s.rxMsgQueue.tail ∧
    ((rxPAR crypto).after s).txEapMessageQueue = s.txEapMessageQueue := by
  apply takes_rx
  intro msg
  have answers : Keep (modify fun s => txPAN crypto s.cancelTxRetry) := keep_modify fun _ => ⟨rfl, rfl⟩
  cases msg.avpList.eapPayload with
  | some payload => exact Keep.bind (keep_modify fun _ => ⟨rfl, rfl⟩) fun _ => answers
  | none => exact answers

theorem keeps_sendReqMsg (s : Session) (msg : Message) (allowRetry : Bool) : s.Keeps (s.sendReqMsg msg allowRetry) := by
  unfold sendReqMsg
  cases allowRetry <;> exact ⟨rfl, rfl⟩

theorem leaves_txPSR (s : Session) (some : config.optimizedHandshake → s.txEapMessageQueue ≠ []) :
    s.Leaves ((txPSR config).after s) false false config.optimizedHandshake := by
  unfold txPSR
  rw [Imperative.after_modify_bind, Imperative.after_get_bind, Imperative.after_ite]
  cases optimized : config.optimizedHandshake with
  | false =>
    rw [if_neg Bool.false_ne_true]
    exact keeps_sendReqMsg { s with lastTxSeqNum := s.lastTxSeqNum.increment } _ _
  | true =>
    have filled : ¬s.txEapMessageQueue.isEmpty = true := fun empty => some optimized (List.isEmpty_iff.mp empty)
    dsimp only
    rw [if_pos rfl, if_neg filled]
    exact takes_eap fun block => keep_modify fun t => keeps_sendReqMsg t _ _

theorem takes_txPAR (s : Session) (some : s.txEapMessageQueue ≠ []) :
    ((txPAR crypto draws).after s).rxMsgQueue = s.rxMsgQueue ∧
      ((txPAR crypto draws).after s).txEapMessageQueue = s.txEapMessageQueue.tail := by
  have filled : ¬s.txEapMessageQueue.isEmpty = true := fun empty => some (List.isEmpty_iff.mp empty)
  unfold txPAR
  rw [Imperative.after_modify_bind, Imperative.after_get_bind]
  dsimp only
  rw [if_neg filled]
  apply takes_eap
  intro block
  apply Keep.ite
  · exact Keep.bind (keep_modify fun _ => ⟨rfl, rfl⟩) fun _ => keep_modify fun t => keeps_sendReqMsg t _ _
  · exact keep_modify fun t => keeps_sendReqMsg t _ _

theorem takes_txPBR (rcode : UInt32) (ev : EapOutcome) (s : Session) :
    ((txPBR crypto draws rcode ev).after s).rxMsgQueue = s.rxMsgQueue ∧
      ((txPBR crypto draws rcode ev).after s).txEapMessageQueue = s.txEapMessageQueue.tail := by
  unfold txPBR
  rw [Imperative.after_modify_bind]
  refine takes_eap fun block => keep_modify fun t => ?_
  cases ev
  case success =>
    have bound (avpList : AvpList) : t.Keeps (bind crypto draws t avpList).1 := by
      unfold bind
      cases draws.key <;> exact ⟨rfl, rfl⟩
    dsimp only
    rw [if_pos rfl]
    have sends := keeps_sendReqMsg (bind crypto draws t { resultCode := some rcode, eapPayload := some block }).1
    exact ⟨(sends _ _).1.trans (bound _).1, (sends _ _).2.trans (bound _).2⟩
  case failure => exact ⟨rfl, rfl⟩
  case timeout => exact ⟨rfl, rfl⟩

theorem describes : (usage config).Describes (program crypto config) where
  perform draws action s rx tx := by
    have returns (x : SessionM) : (do x; return none : Imperative Session Exception (Option PaaEvent)).after s =
        x.after s := Imperative.after_bind_pure x _ s
    cases action
    case null => exact ⟨rfl, rfl⟩
    case exitActionPaaEapRestart => exact ⟨rfl, rfl⟩
    case exitActionTxPSR => exact (returns _).symm ▸ leaves_txPSR config s tx
    case exitActionRxPSA => exact (returns _).symm ▸ takes_rxPSA config s
    case exitActionEapTimeout => exact ⟨rfl, rfl⟩
    case exitActionTxPAR => exact (returns _).symm ▸ takes_txPAR crypto draws s (tx rfl)
    case exitActionTxPBREapSuccess => exact (returns _).symm ▸ takes_txPBR crypto draws _ _ s
    case exitActionTxPBREapSuccessFail => exact (returns _).symm ▸ takes_txPBR crypto draws _ _ s
    case exitActionTxPBREapFail => exact (returns _).symm ▸ takes_txPBR crypto draws _ _ s
    case exitActionTxPEA => exact ⟨rfl, rfl⟩
    case waitPEAExitActionRxPEA =>
      exact (returns (Session.rxPEA config draws)).symm ▸ flushes_rx (rx rfl) fun _ _ => ⟨rfl, rfl⟩
    case exitActionRxPBASuccess =>
      exact (returns (rxPBA config draws true)).symm ▸ takes_rx fun _ => keep_answer.bind fun _ => keep_modify fun _ => ⟨rfl, rfl⟩
    case exitActionRxPBAFail =>
      exact (returns (rxPBA config draws false)).symm ▸ flushes_rx (rx rfl) fun _ _ => ⟨rfl, rfl⟩
    case openExitActionRxPPR => exact (returns (Session.rxPPR crypto)).symm ▸ takes_rx fun _ => keep_modify fun _ => ⟨rfl, rfl⟩
    case openExitActionRxPRR => exact (returns (rxPRR crypto)).symm ▸ takes_rx fun _ => keep_modify fun _ => ⟨rfl, rfl⟩
    case openExitActionReAuth => exact ⟨rfl, rfl⟩
    case openExitActionTxPPR => exact ⟨rfl, rfl⟩
    case openExitActionTxPTR => exact ⟨rfl, rfl⟩
    case openExitActionRxPTR =>
      exact (returns (Session.rxPTR crypto config draws)).symm ▸ flushes_rx (rx rfl) fun _ _ => ⟨rfl, rfl⟩
    case openExitActionTxPUR => exact ⟨rfl, rfl⟩
    case waitPUAExitActionRxPUA => exact (returns Session.rxPUA).symm ▸ takes_rx fun _ => keep_answer
    case openExitActionRxPUR => exact (returns (Session.rxPUR crypto)).symm ▸ takes_rx fun _ => keep_modify fun _ => ⟨rfl, rfl⟩
    case waitPaaExitActionRxPPA => exact (returns Session.rxPPA).symm ▸ takes_rx fun _ => keep_answer
    case waitPANExitActionRxPAN => exact (returns _).symm ▸ takes_rxPAN s
    case waitPANExitActionRxPAR => exact (returns _).symm ▸ takes_rxPAR crypto s
    case sessExitActionRxPTA => exact ⟨rfl, rfl⟩
    case exitActionTimeout => exact ⟨rfl, rfl⟩
    case exitActionRetransmission =>
      have kept : Keep (perform crypto config draws .exitActionRetransmission) :=
        (keep_txLastReqMsg draws).bind fun _ => keep_pure _
      exact kept s
  call c s := by
    cases c
    case eapSendRequest => exact ⟨rfl, rfl⟩
    case eapSuccess => exact ⟨rfl, rfl⟩
    case eapFailure => exact ⟨rfl, rfl⟩
    all_goals exact ⟨rfl, (List.append_nil _).symm⟩
  first {type filter} handles msg s := by
    have demanded (request : Bool) (description : String) :
        (∃ e, demand request description msg s = .error (.thrown e) s) ∨
          ∃ t, demand request description msg s = .ok () t ∧ t.rxMsgQueue = s.rxMsgQueue ∧
            t.txEapMessageQueue = s.txEapMessageQueue :=
      (demand_cases request description msg s).imp_right fun passes => ⟨s, passes, rfl, rfl⟩
    apply msgHandlers_cases (motive := fun _ filter =>
      (∃ e, filter.first msg s = .error (.thrown e) s) ∨
        ∃ t, filter.first msg s = .ok () t ∧ t.rxMsgQueue = s.rxMsgQueue ∧
          t.txEapMessageQueue = s.txEapMessageQueue) handles
    case pci => exact demanded _ _
    case psa => exact demanded _ _
    case pba => exact demanded _ _
    case prr => exact demanded _ _
    all_goals exact Or.inr ⟨s, rfl, rfl, rfl⟩
  resolve {type filter} handles other draws msg s := by
    revert other
    apply msgHandlers_cases (motive := fun type filter => type ≠ mtypePER →
      (∃ event t, filter.resolve draws msg s = .ok event t ∧ t.rxMsgQueue = s.rxMsgQueue ++ [msg] ∧
          t.txEapMessageQueue = s.txEapMessageQueue) ∨
        ∃ e t, filter.resolve draws msg s = .error (.thrown e) t ∧ t.rxMsgQueue = s.rxMsgQueue ∧
          t.txEapMessageQueue = s.txEapMessageQueue) handles
    case pe => exact fun other => absurd rfl other
    all_goals exact fun _ => Or.inl (resolves_of_queued rfl msg s)
  error {filter} handles := by
    cases handles
    refine ⟨fun msg s => rfl, ?_⟩
    intro draws msg s _ result empty
    obtain ⟨rcode, here⟩ := Option.ne_none_iff_exists'.mp result
    obtain ⟨t, ends, rx, tx⟩ := rxPER_flushes config draws here ((keeps_saveAddress s msg).1.trans empty)
    have run : ∃ event, (psmRxPE config).resolve draws msg s = .ok event t := by
      simp only [psmRxPE, Imperative.bind_run, Imperative.modify_run, Imperative.get_run, ends, Imperative.pure_run]
      exact ⟨_, rfl⟩
    obtain ⟨event, run⟩ := run
    exact ⟨event, t, run, rx, tx⟩

end Paa

section Runs

/-- The queues of clients and of agents stay in step with their events in the runs whose
every step is attended. -/
theorem run_queues_inStep (crypto : Crypto) (config : Config) (sessionId isn mskId : UInt32)
    (pacAddress paaAddress : InetAddr) :
    (∀ inputs : List (Input Client.Call),
      Stepwise (Ledger.step (Client.program crypto config) Client.usage)
          (Ledger.Attended (Client.program crypto config) Client.usage)
          { machine := .opening (.constructed .pac config sessionId isn mskId pacAddress paaAddress) } inputs →
        Stepwise (Ledger.step (Client.program crypto config) Client.usage)
          (Ledger.InStep (Client.program crypto config) Client.usage)
          { machine := .opening (.constructed .pac config sessionId isn mskId pacAddress paaAddress) } inputs) ∧
    ∀ inputs : List (Input Paa.Call),
      Stepwise (Ledger.step (Paa.program crypto config) (Paa.usage config))
          (Ledger.Attended (Paa.program crypto config) (Paa.usage config))
          { machine := .opening (.constructed .paa config sessionId isn mskId pacAddress paaAddress) } inputs →
        Stepwise (Ledger.step (Paa.program crypto config) (Paa.usage config))
          (Ledger.InStep (Paa.program crypto config) (Paa.usage config))
          { machine := .opening (.constructed .paa config sessionId isn mskId pacAddress paaAddress) } inputs :=
  ⟨fun _ => Ledger.run_inStep (Client.describes crypto config) rfl rfl,
    fun _ => Ledger.run_inStep (Paa.describes crypto config) rfl rfl⟩

/-- In one conversation of a client and of an agent all queues stay in step. -/
theorem run_queues_inStep_conversation :
    Stepwise (Ledger.step (Client.program Traffic.plainCrypto ⟨false, false, true, 3600⟩) Client.usage)
        (Ledger.InStep (Client.program Traffic.plainCrypto ⟨false, false, true, 3600⟩) Client.usage)
        { machine := .opening (Traffic.numberedFrom 5 .pac) } clientConversation ∧
      Stepwise (Ledger.step (Paa.program Traffic.plainCrypto ⟨false, false, true, 3600⟩)
          (Paa.usage ⟨false, false, true, 3600⟩))
        (Ledger.InStep (Paa.program Traffic.plainCrypto ⟨false, false, true, 3600⟩)
          (Paa.usage ⟨false, false, true, 3600⟩))
        { machine := .opening (Traffic.numberedFrom 5 .paa) } paaConversation :=
  ⟨(run_queues_inStep Traffic.plainCrypto ⟨false, false, true, 3600⟩ 7 5 1 {} {}).1 clientConversation
      (by decide +kernel),
    (run_queues_inStep Traffic.plainCrypto ⟨false, false, true, 3600⟩ 7 5 1 {} {}).2 paaConversation
      (by decide +kernel)⟩

def lateResponse : List (Input Client.Call) :=
  exchanged true mtypePSR 41 {} ++ exchanged true mtypePAR 42 { eapPayload := some [1] } ++
    [.timeout .eapResp, .serve keyedDraws keyedDraws, .call (.eapSendResponse [2])]

def earlyFailure : List (Input Paa.Call) :=
  called .pacFound ++ exchanged false mtypePSR 6 {} ++ called (.eapSendRequest [1]) ++
    [.call (.eapFailure (some [4]))]

/-- The event is dropped, its packet stays, and the client sends it in its next answer. -/
theorem dropped_event_leaves_packet :
    (¬∀ (crypto : Crypto) (config : Config) (sessionId isn mskId : UInt32) (pacAddress paaAddress : InetAddr)
        (inputs : List (Input Client.Call)),
        Stepwise (Ledger.step (Client.program crypto config) Client.usage)
          (Ledger.InStep (Client.program crypto config) Client.usage)
          { machine := .opening (.constructed .pac config sessionId isn mskId pacAddress paaAddress) } inputs) ∧
      (¬∀ (crypto : Crypto) (config : Config) (sessionId isn mskId : UInt32) (pacAddress paaAddress : InetAddr)
        (inputs : List (Input Paa.Call)),
        Stepwise (Ledger.step (Paa.program crypto config) (Paa.usage config))
          (Ledger.InStep (Paa.program crypto config) (Paa.usage config))
          { machine := .opening (.constructed .paa config sessionId isn mskId pacAddress paaAddress) } inputs) ∧
      (((Client.program Traffic.plainCrypto ⟨true, false, true, 3600⟩).run (.opening (Traffic.numberedFrom 5 .pac))
        (lateResponse ++ [.serve keyedDraws keyedDraws] ++ exchanged true mtypePAR 43 { eapPayload := some [3] } ++
          called (.eapSendResponse [4]))).session.sent.getLast?.bind fun msg => msg.avpList.eapPayload) = some [2] := by
  refine ⟨?client, ?agent, by decide +kernel⟩
  case client =>
    intro always
    have run := always Traffic.plainCrypto ⟨true, false, true, 3600⟩ 7 5 1 {} {}
      (lateResponse ++ [.serve keyedDraws keyedDraws])
    obtain ⟨_, last, _⟩ := stepwise_append.mp run
    have empty := (last.idle (by decide +kernel)).2
    revert empty
    decide +kernel
  case agent =>
    intro always
    have run := always Traffic.plainCrypto ⟨false, false, true, 3600⟩ 7 5 1 {} {}
      (earlyFailure ++ [.serve keyedDraws keyedDraws])
    obtain ⟨_, last, _⟩ := stepwise_append.mp run
    have empty := (last.idle (by decide +kernel)).2
    revert empty
    decide +kernel

end Runs

end OpenDiameter.Pana
