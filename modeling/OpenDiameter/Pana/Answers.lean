import OpenDiameter.Pana.Rejection

/-! Which request an answer belongs to.

An answer takes its number and session id from the session when it is sent, and the
answer that is kept for duplicates is the last one sent, whatever request it was for.
-/

set_option autoImplicit false

namespace OpenDiameter.Pana

open Foundation OpenDiameter.Framework

section Sending

def Message.isAnswer (msg : Message) : Bool := !msg.request && msg.type != mtypePCI

namespace Session

variable (crypto : Crypto) (config : Config) (draws : Draws) (s : Session)

def answered : List Message := s.sent.filter Message.isAnswer

/-- What is kept to be sent again until it is answered is no answer itself. -/
def Asks : Prop := ∀ msg ∈ s.lastTxReqMsg, msg.isAnswer = false

def Idles (t : Session) : Prop := s.Asks → t.answered = s.answered ∧ t.Asks

/-- A session `t` has sent one answer of a type since `s`, with the number and the id of
`s`, or none. -/
def Answers (t : Session) (type : Option MType) : Prop :=
  s.Asks → t.Asks ∧ match type with
    | none => t.answered = s.answered
    | some type => ∃ m, t.answered = s.answered ++ [m] ∧ m.type = type ∧ m.seq = s.lastRxSeqNum ∧
        m.sessionId = s.sessionId

variable {crypto config draws s}

theorem idles_of_eq {t : Session} (sent : t.sent = s.sent) (kept : t.lastTxReqMsg = s.lastTxReqMsg) : s.Idles t := by
  intro asks
  unfold answered Asks
  rw [sent, kept]
  exact ⟨rfl, asks⟩

theorem Idles.trans {t u : Session} (first : s.Idles t) (rest : t.Idles u) : s.Idles u := by
  intro asks
  obtain ⟨sent, kept⟩ := first asks
  exact ⟨(rest kept).1.trans sent, (rest kept).2⟩

theorem Idles.answers {t : Session} (idles : s.Idles t) : s.Answers t none := fun asks => (idles asks).symm

def Idle {α : Type} (x : Imperative Session Exception α) : Prop := Imperative.Relates Idles x

theorem Idle.bind {α β : Type} {x : Imperative Session Exception α} {next : α → Imperative Session Exception β}
    (first : Idle x) (rest : ∀ value, Idle (next value)) : Idle (x >>= next) :=
  Imperative.Relates.bind (fun _ _ _ idles later => idles.trans later) first rest

theorem idle_modify {change : Session → Session} (sent : ∀ s, (change s).sent = s.sent)
    (kept : ∀ s, (change s).lastTxReqMsg = s.lastTxReqMsg) : Idle (modify change) :=
  Imperative.relates_modify fun s => idles_of_eq (sent s) (kept s)

theorem idle_get : Idle get := fun _ => idles_of_eq rfl rfl

theorem idle_pure {α : Type} (value : α) : Idle (pure value) := fun _ => idles_of_eq rfl rfl

theorem idle_raise {α : Type} (e : Exception) : Idle (Imperative.raise e : Imperative Session Exception α) :=
  fun _ => idles_of_eq rfl rfl

theorem idle_dequeueRx : Idle dequeueRx := by
  intro s
  unfold Imperative.after dequeueRx
  cases s.rxMsgQueue <;> exact idles_of_eq rfl rfl

theorem idle_dequeueEap : Idle dequeueEap := by
  intro s
  unfold Imperative.after dequeueEap
  cases s.txEapMessageQueue <;> exact idles_of_eq rfl rfl

/-- What happened before the answer, and did not matter to it. -/
theorem Answers.of_idles {t u : Session} {type : Option MType} (answers : t.Answers u type) (idles : s.Idles t)
    (lastRxSeqNum : t.lastRxSeqNum = s.lastRxSeqNum) (sessionId : t.sessionId = s.sessionId) : s.Answers u type := by
  intro asks
  obtain ⟨sent, kept⟩ := idles asks
  unfold Answers at answers
  rw [sent, lastRxSeqNum, sessionId] at answers
  exact answers kept

theorem Answers.trans {t u : Session} {type : Option MType} (answers : s.Answers t type) (idles : t.Idles u) :
    s.Answers u type := by
  intro asks
  obtain ⟨kept, sends⟩ := answers asks
  obtain ⟨sent, later⟩ := idles kept
  rw [sent]
  exact ⟨later, sends⟩

theorem answers_sendAnsMsg {t : Session} {msg : Message} {type : MType} (other : type ≠ mtypePCI)
    (header : msg.toMsgHeader = (s.answerHeader type).toMsgHeader) (idles : s.Idles t) :
    s.Answers (t.sendAnsMsg msg) (some type) := by
  intro asks
  obtain ⟨sent, kept⟩ := idles asks
  refine ⟨kept, t.txPrepareMessage msg, ?_, ?_, ?_, ?_⟩
  · have answer : (t.txPrepareMessage msg).isAnswer = true := by
      unfold Message.isAnswer
      rw [toMsgHeader_txPrepareMessage, header]
      simp [answerHeader, other]
    rw [← sent]
    show (t.sent ++ [t.txPrepareMessage msg]).filter Message.isAnswer = _
    rw [List.filter_append, List.filter_singleton, answer]
    rfl
  · rw [toMsgHeader_txPrepareMessage, header]
    rfl
  · rw [toMsgHeader_txPrepareMessage, header]
    rfl
  · rw [toMsgHeader_txPrepareMessage, header]
    rfl

theorem answers_txAnswer {type : MType} (other : type ≠ mtypePCI) :
    s.Answers (s.txAnswer crypto type) (some type) :=
  answers_sendAnsMsg other (toMsgHeader_protect _ _ _) (idles_of_eq rfl rfl)

theorem idles_resent {t : Session} {msg : Message} (other : msg.isAnswer = false) :
    s.Idles { t.send msg with sent := s.sent ++ [msg], lastTxReqMsg := some msg } := by
  intro _
  constructor
  · unfold answered
    rw [List.filter_append, List.filter_singleton, other]
    exact List.append_nil _
  · intro kept same
    cases same
    exact other

theorem idles_sendReqMsg {msg : Message} {allowRetry : Bool} (other : msg.isAnswer = false) :
    s.Idles (s.sendReqMsg msg allowRetry) := by
  intro _
  have prepared : (s.txPrepareMessage msg).isAnswer = false := by
    unfold Message.isAnswer
    rw [toMsgHeader_txPrepareMessage]
    exact other
  have sent : (s.sendReqMsg msg allowRetry).sent = s.sent ++ [s.txPrepareMessage msg] := by
    unfold sendReqMsg
    cases allowRetry <;> rfl
  constructor
  · unfold answered
    rw [sent, List.filter_append, List.filter_singleton, prepared]
    exact List.append_nil _
  · intro kept same
    cases same
    exact prepared

theorem idle_sendReqMsg {message : Session → Message} {retry : Bool} (other : ∀ t, (message t).isAnswer = false) :
    Idle (modify fun t => t.sendReqMsg (message t) retry) := by
  apply Imperative.relates_modify
  intro t
  exact idles_sendReqMsg (other t)

theorem isAnswer_protect (crypto : Crypto) (s : Session) (msg : Message) :
    (s.protect crypto msg).isAnswer = msg.isAnswer := by
  unfold Message.isAnswer
  rw [toMsgHeader_protect]

theorem idles_txRequest {type : MType} {avpList : AvpList} : s.Idles (s.txRequest crypto type avpList) := by
  have begun : s.Idles { s with lastTxSeqNum := s.lastTxSeqNum.increment } := idles_of_eq rfl rfl
  apply begun.trans
  exact idles_sendReqMsg (isAnswer_protect crypto _ _)

theorem isAnswer_txPrepareMessage (msg : Message) : (s.txPrepareMessage msg).isAnswer = msg.isAnswer := by
  unfold Message.isAnswer
  rw [toMsgHeader_txPrepareMessage]

theorem idles_txLastReqMsg : s.Idles ((txLastReqMsg draws).after s) := by
  intro asks
  unfold Imperative.after txLastReqMsg
  cases draws.reScheduled with
  | false => exact ⟨rfl, asks⟩
  | true =>
    cases kept : s.lastTxReqMsg with
    | none =>
      simp only [if_true, Imperative.left_error]
      refine ⟨rfl, ?_⟩
      intro msg same
      cases same
    | some msg =>
      simp only [if_true, Imperative.left_ok]
      have other : (s.txPrepareMessage msg).isAnswer = false := (isAnswer_txPrepareMessage msg).trans (asks msg kept)
      exact idles_resent (s := s) (t := s) other asks

theorem idles_finish (config : Config) (draws : Draws) (s : Session) (callback : Callback) :
    s.Idles (s.finish config draws callback) := by
  apply idles_of_eq
  · simp only [finish, reset, Session.tell, cancelEapResponse, cancelSession, cancelTxRetry]
  · simp only [finish, reset, Session.tell, cancelEapResponse, cancelSession, cancelTxRetry]

theorem idles_disconnect {cause : UInt32} : s.Idles (s.disconnect config draws cause) :=
  idles_finish config draws s _

theorem answers_rx {type : MType} {next : Message → SessionM}
    (answers : ∀ msg (t : Session), t.Answers ((next msg).after t) (some type)) :
    s.Answers ((dequeueRx >>= next).after s) (if s.rxMsgQueue.isEmpty then none else some type) := by
  rw [after_dequeueRx_bind]
  cases s.rxMsgQueue with
  | nil => exact (idles_of_eq rfl rfl).answers
  | cons msg rest =>
    exact (answers msg { s with rxMsgQueue := rest }).of_idles (idles_of_eq rfl rfl) rfl rfl

/-- A message is taken from the queue, and no answer is sent. -/
theorem idles_rx {next : Message → SessionM} (idles : ∀ msg, Idle (next msg)) :
    s.Idles ((dequeueRx >>= next).after s) := idle_dequeueRx.bind idles s

end Session

end Sending

structure Duties (Action : Type) where
  /-- The request of the event is taken, to be answered now or later. -/
  takes : Action → Bool
  answers : Action → Session → Option MType

namespace Client

open Session

variable (crypto : Crypto) (config : Config)

def answers (action : PacAction) (s : Session) : Option MType :=
  match action with
  | .offlineExitActionRxPSR =>
    s.rxMsgQueue.head?.bind fun msg => if msg.avpList.eapPayload.isSome then none else some mtypePSR
  | .waitEapMsgInExitActionTxPSA => if s.txEapMessageQueue.isEmpty then none else some mtypePSR
  | .waitPaaExitActionRxPAR => if s.rxMsgQueue.isEmpty || config.eapPiggyback then none else some mtypePAR
  | .openExitActionRxPAR => if s.rxMsgQueue.isEmpty || config.eapPiggyback then none else some mtypePAR
  | .waitEapMsgExitActionTxPAN => if s.txEapMessageQueue.isEmpty then none else some mtypePAR
  | .waitEapMsgExitActionTxPANTout => if config.eapPiggyback then some mtypePAR else none
  | .waitEapResultExitActionEapOpen => some mtypePBR
  | .waitEapSuccessExitActionClose => some mtypePBR
  | .waitEapFailExitActionClose => some mtypePBR
  | .openExitActionRxPPR => if s.rxMsgQueue.isEmpty then none else some mtypePPR
  | .openExitActionRxPUR => if s.rxMsgQueue.isEmpty then none else some mtypePUR
  | .openExitActionRxPTR => if s.rxMsgQueue.isEmpty then none else some mtypePTR
  | .exitActionTxPEA => some mtypePER
  | _ => none

def duties : Duties PacAction where
  takes action := action ∈ [.offlineExitActionRxPSR, .waitPaaExitActionRxPAR, .openExitActionRxPAR,
    .waitPaaExitActionRxPBR, .openExitActionRxPPR, .openExitActionRxPUR, .openExitActionRxPTR, .exitActionTxPEA]
  answers := answers config

variable {crypto config} {draws : Draws} {s : Session}

theorem answers_txPBA {authSuccess : Bool} : s.Answers (txPBA crypto draws s authSuccess) (some mtypePBR) := by
  -- The key may be new, but the answer was begun before.
  have header (sa : SecurityAssociation) : (if sa.msk.isSet then
        sa.addAuthAvp crypto (if sa.mskId ≠ 0 then sa.addKeyIdAvp (s.answerHeader mtypePBR)
          else s.answerHeader mtypePBR)
      else s.answerHeader mtypePBR).toMsgHeader = (s.answerHeader mtypePBR).toMsgHeader := by
    split
    · split <;> rfl
    · rfl
  unfold txPBA
  cases draws.key with
  | none => exact answers_sendAnsMsg (by decide) (header _) (idles_of_eq rfl rfl)
  | some key =>
    cases authSuccess with
    | false => exact answers_sendAnsMsg (by decide) (header _) (idles_of_eq rfl rfl)
    | true => exact answers_sendAnsMsg (by decide) (header _) (idles_of_eq rfl rfl)

theorem answers_txPAN_true : s.Answers ((txPAN crypto draws true).after s)
    (if s.txEapMessageQueue.isEmpty then none else some mtypePAR) := by
  have piggybacks (t : Session) (nonce : Option Octets) (idles : s.Idles t)
      (queue : t.txEapMessageQueue = s.txEapMessageQueue) : s.Answers
        ((do
          modify cancelEapResponse
          let block ← dequeueEap
          modify fun t => t.sendAnsMsg
            (t.protect crypto { s.answerHeader mtypePAR with avpList := { nonce := nonce, eapPayload := some block } }) :
          SessionM).after t)
        (if s.txEapMessageQueue.isEmpty then none else some mtypePAR) := by
    rw [Imperative.after_modify_bind, after_dequeueEap_bind]
    simp only [Session.cancelEapResponse, queue]
    cases s.txEapMessageQueue with
    | nil => exact (idles.trans (idles_of_eq rfl rfl)).answers
    | cons block rest =>
      exact answers_sendAnsMsg (by decide) (toMsgHeader_protect _ _ _) (idles.trans (idles_of_eq rfl rfl))
  unfold txPAN
  rw [Imperative.after_get_bind]
  cases s.sa.pacNonce.isSet with
  | true => exact piggybacks s none (idles_of_eq rfl rfl) rfl
  | false => exact piggybacks _ (some draws.nonce) (idles_of_eq rfl rfl) rfl

theorem answers_txPAN_false : s.Answers ((txPAN crypto draws false).after s) (some mtypePAR) := by
  unfold txPAN
  rw [Imperative.after_get_bind]
  cases s.sa.pacNonce.isSet with
  | true => exact answers_sendAnsMsg (by decide) (toMsgHeader_protect _ _ _) (idles_of_eq rfl rfl)
  | false => exact answers_sendAnsMsg (by decide) (toMsgHeader_protect _ _ _) (idles_of_eq rfl rfl)

theorem exists_txPAN_false (crypto : Crypto) (draws : Draws) (s : Session) :
    ∃ t, txPAN crypto draws false s = .ok () t := by
  unfold txPAN
  rw [Imperative.bind_run, Imperative.get_run]
  dsimp only
  cases s.sa.pacNonce.isSet with
  | true => exact ⟨_, rfl⟩
  | false => exact ⟨_, rfl⟩

theorem idles_notifyEapRequest (s : Session) (payload : Octets) : s.Idles (notifyEapRequest s payload) :=
  idles_of_eq rfl rfl

theorem idles_notifyEapRestart (draws : Draws) (s : Session) : s.Idles (notifyEapRestart draws s) := by
  apply idles_of_eq
  · simp only [notifyEapRestart, cancelSession, Session.tell]
  · simp only [notifyEapRestart, cancelSession, Session.tell]

/-- What follows an answer to an authentication request, or comes without one. -/
theorem idles_payload (msg : Message) (t : Session) :
    t.Idles ((match msg.avpList.eapPayload with
      | some payload => modify fun s => (notifyEapRequest s payload).scheduleEapResponse
      | none => Imperative.raise ⟨.failed, "No EAP-Payload AVP in PAR message"⟩ : SessionM).after t) := by
  cases msg.avpList.eapPayload with
  | some payload =>
    exact (idles_notifyEapRequest t payload).trans (idles_of_eq rfl rfl)
  | none => exact idles_of_eq rfl rfl

theorem idles_nonce (msg : Message) (t : Session) (idles : s.Idles t) (lastRxSeqNum : t.lastRxSeqNum = s.lastRxSeqNum)
    (sessionId : t.sessionId = s.sessionId) {u : Session}
    (noted : u = match msg.avpList.nonce with
      | some nonce => if t.sa.paaNonce.isSet then t else { t with sa := { t.sa with paaNonce := .set nonce } }
      | none => t) :
    s.Idles u ∧ u.lastRxSeqNum = s.lastRxSeqNum ∧ u.sessionId = s.sessionId := by
  cases nonce : msg.avpList.nonce with
  | none =>
    rw [nonce] at noted
    subst noted
    exact ⟨idles, lastRxSeqNum, sessionId⟩
  | some nonce =>
    rw [nonce] at noted
    dsimp only at noted
    split at noted
    · subst noted
      exact ⟨idles, lastRxSeqNum, sessionId⟩
    · subst noted
      exact ⟨idles.trans (idles_of_eq rfl rfl), lastRxSeqNum, sessionId⟩

theorem answers_rxPAR : s.Answers ((rxPAR crypto config draws).after s)
    (if s.rxMsgQueue.isEmpty || config.eapPiggyback then none else some mtypePAR) := by
  unfold rxPAR
  rw [after_dequeueRx_bind]
  cases s.rxMsgQueue with
  | nil => exact (idles_of_eq rfl rfl).answers
  | cons msg rest =>
    dsimp only
    rw [Imperative.after_modify_bind, Imperative.after_modify_bind]
    have answers (t : Session) (idles : s.Idles t) (lastRxSeqNum : t.lastRxSeqNum = s.lastRxSeqNum)
        (sessionId : t.sessionId = s.sessionId) : s.Answers
          ((do
            if !config.eapPiggyback then txPAN crypto draws false
            match msg.avpList.eapPayload with
            | some payload => modify fun s => (notifyEapRequest s payload).scheduleEapResponse
            | none => Imperative.raise ⟨.failed, "No EAP-Payload AVP in PAR message"⟩ : SessionM).after t)
          (if config.eapPiggyback then none else some mtypePAR) := by
      cases config.eapPiggyback with
      | true => exact (idles.trans (idles_payload msg t)).answers
      | false =>
        obtain ⟨u, returns⟩ := exists_txPAN_false crypto draws t
        have sends : t.Answers ((txPAN crypto draws false).after t) (some mtypePAR) := answers_txPAN_false
        rw [Imperative.after_of_ok returns] at sends
        simp only [Bool.not_false, if_true]
        rw [Imperative.after_bind_of_ok returns]
        exact (sends.of_idles idles lastRxSeqNum sessionId).trans (idles_payload msg u)
    obtain ⟨idles, lastRxSeqNum, sessionId⟩ :=
      idles_nonce msg { s with rxMsgQueue := rest }.cancelTxRetry (idles_of_eq rfl rfl) rfl rfl rfl
    exact answers _ idles lastRxSeqNum sessionId

theorem answers_txPSA_false : s.Answers ((txPSA false).after s) (some mtypePSR) :=
  answers_sendAnsMsg (by decide) rfl (idles_of_eq rfl rfl)

theorem answers_txPSA_true : s.Answers ((txPSA true).after s)
    (if s.txEapMessageQueue.isEmpty then none else some mtypePSR) := by
  unfold txPSA
  rw [Imperative.after_get_bind, if_pos rfl, after_dequeueEap_bind]
  cases s.txEapMessageQueue with
  | nil => exact (idles_of_eq rfl rfl).answers
  | cons block rest =>
    dsimp only
    exact answers_sendAnsMsg (by decide) rfl (idles_of_eq rfl rfl)

theorem answers_rxPSR : s.Answers ((rxPSR draws).after s)
    (s.rxMsgQueue.head?.bind fun msg => if msg.avpList.eapPayload.isSome then none else some mtypePSR) := by
  unfold rxPSR
  rw [after_dequeueRx_bind]
  cases s.rxMsgQueue with
  | nil => exact (idles_of_eq rfl rfl).answers
  | cons msg rest =>
    rw [List.head?_cons, Option.bind_some]
    dsimp only
    rw [Imperative.after_modify_bind]
    have restarts : s.Idles (notifyEapRestart draws { s with rxMsgQueue := rest }.cancelTxRetry) :=
      (idles_of_eq rfl rfl).trans (idles_notifyEapRestart draws _)
    cases msg.avpList.eapPayload with
    | some payload =>
      rw [Option.isSome_some, if_pos rfl]
      dsimp only
      rw [Imperative.after_modify]
      apply Idles.answers
      apply restarts.trans
      exact (idles_notifyEapRequest _ payload).trans (idles_of_eq rfl rfl)
    | none =>
      rw [Option.isSome_none, if_neg Bool.false_ne_true]
      dsimp only
      exact answers_txPSA_false.of_idles restarts rfl rfl

theorem idles_rxPBR : s.Idles ((rxPBR config draws).after s) := by
  apply idles_rx
  intro msg
  cases msg.avpList.resultCode with
  | none =>
    intro t
    exact idles_of_eq rfl rfl
  | some rcode =>
    dsimp only
    refine Idle.bind (idle_modify (fun _ => rfl) fun _ => rfl) fun _ => ?_
    refine Idle.bind (idle_modify (fun _ => rfl) fun _ => rfl) fun _ => ?_
    cases msg.avpList.eapPayload with
    | some payload => exact idle_modify (fun _ => rfl) fun _ => rfl
    | none =>
      apply Imperative.Relates.ite
      · apply Imperative.relates_modify
        intro t
        have told : t.Idles (t.tell .eapAltReject) := idles_of_eq rfl rfl
        exact told.trans (idles_finish config draws (t.tell .eapAltReject) _)
      · exact Imperative.relates_raise (fun t => idles_of_eq rfl rfl) _

theorem idles_txPCI : s.Idles (txPCI s) := by
  have begun : s.Idles { s with sessionId := 0 } := idles_of_eq rfl rfl
  apply begun.trans
  exact idles_sendReqMsg rfl

theorem idles_txPAR : s.Idles ((txPAR crypto).after s) := by
  unfold txPAR
  rw [Imperative.after_modify_bind]
  have begun : s.Idles { s with lastTxSeqNum := s.lastTxSeqNum.increment }.cancelEapResponse := idles_of_eq rfl rfl
  apply begun.trans
  exact Idle.bind idle_dequeueEap (fun block => idle_sendReqMsg fun t => isAnswer_protect crypto t _) _

theorem answers_perform (action : PacAction) :
    s.Answers ((perform crypto config draws action).after s) (answers config action s) := by
  have returns {x : SessionM} {event : Option PacEvent} {type : Option MType} (answers : s.Answers (x.after s) type) :
      s.Answers ((do x; return event : Imperative Session Exception _).after s) type := by
    rw [Imperative.after_bind_pure]
    exact answers
  cases action
  case null => exact (idles_of_eq rfl rfl).answers
  case offlineExitActionRxPSR => exact returns answers_rxPSR
  case waitPaaExitActionRxPAR => exact returns answers_rxPAR
  case openExitActionRxPPR => exact returns (answers_rx fun _ _ => answers_txAnswer (by decide))
  case openExitActionRxPUR => exact returns (answers_rx fun _ _ => answers_txAnswer (by decide))
  case openExitActionRxPTR =>
    exact returns (answers_rx fun _ _ => (answers_txAnswer (by decide)).trans idles_disconnect)
  case exitActionTxPEA => exact returns (answers_sendAnsMsg (by decide) rfl (idles_of_eq rfl rfl))
  case waitEapMsgInExitActionTxPSA => exact returns answers_txPSA_true
  case waitEapMsgExitActionTxPAN => exact returns answers_txPAN_true
  case waitEapMsgExitActionTxPANTout =>
    unfold perform answers
    cases config.eapPiggyback with
    | false => exact (idles_of_eq rfl rfl).answers
    | true =>
      obtain ⟨t, same⟩ := exists_txPAN_false crypto draws s
      have sends : s.Answers ((txPAN crypto draws false).after s) (some mtypePAR) := answers_txPAN_false
      rw [Imperative.after_of_ok same] at sends
      simp only [if_true]
      rw [Imperative.after_bind_of_ok same]
      exact sends.trans (idles_of_eq rfl rfl)
  case waitEapResultExitActionEapOpen =>
    apply returns
    have answers : s.Answers (txPBA crypto draws s true) (some mtypePBR) := answers_txPBA
    apply answers.trans
    apply idles_of_eq
    · simp only [notifyAuthorization, notifyScheduleLifetime, scheduleSession, Session.tell, Imperative.after_modify]
    · simp only [notifyAuthorization, notifyScheduleLifetime, scheduleSession, Session.tell, Imperative.after_modify]
  case waitEapSuccessExitActionClose => exact returns (answers_txPBA.trans idles_disconnect)
  case waitEapFailExitActionClose => exact returns (answers_txPBA.trans idles_disconnect)
  case openExitActionRxPAR =>
    have answers : (notifyEapRestart draws s).Answers ((rxPAR crypto config draws).after (notifyEapRestart draws s))
        (if s.rxMsgQueue.isEmpty || config.eapPiggyback then none else some mtypePAR) := answers_rxPAR
    have restarted : s.Answers ((rxPAR crypto config draws).after (notifyEapRestart draws s))
        (if s.rxMsgQueue.isEmpty || config.eapPiggyback then none else some mtypePAR) :=
      answers.of_idles (idles_notifyEapRestart draws s) rfl rfl
    unfold perform
    rw [Imperative.after_modify_bind, Imperative.after_bind_pure]
    exact restarted
  -- What is left sends requests or nothing.
  case waitPaaExitActionRxPAN => exact returns (idles_rx fun _ _ => idles_of_eq rfl rfl).answers
  case waitPaaExitActionRxPBR => exact returns idles_rxPBR.answers
  case waitEapMsgExitActionTxPAR => exact returns idles_txPAR.answers
  case openExitActionTxPPR => exact returns idles_txRequest.answers
  case openExitActionTxPUR => exact returns idles_txRequest.answers
  case openExitActionTxPRR => exact returns idles_txRequest.answers
  case openExitActionTxPTR => exact returns ((idles_of_eq rfl rfl).trans idles_txRequest).answers
  case exitActionTxPER => exact returns ((idles_of_eq rfl rfl).trans idles_txRequest).answers
  case offlineExitActionAuthUser => exact returns idles_txPCI.answers
  case exitActionRetransmission =>
    unfold perform
    rw [Imperative.after_bind_pure]
    exact idles_txLastReqMsg.answers
  case exitActionTimeout => exact returns idles_disconnect.answers
  case waitPEAExitActionRxPEA => exact returns (idles_rx fun _ _ => (idles_of_eq rfl rfl).trans idles_disconnect).answers
  case waitPRAAExitActionRxPRA =>
    exact returns (idles_rx fun _ _ => (idles_of_eq rfl rfl).trans (idles_notifyEapRestart draws _)).answers
  case sessTermExitActionRxPTA => exact returns (idles_rx fun _ _ => idles_disconnect).answers
  case waitPPAExitActionRxPPA => exact returns (idles_rx fun _ _ => idles_of_eq rfl rfl).answers
  case waitPUAExitActionRxPUA => exact returns (idles_rx fun _ _ => idles_of_eq rfl rfl).answers

end Client

namespace Paa

open Session

def answers (action : PaaAction) (s : Session) : Option MType :=
  match action with
  | .openExitActionRxPPR => if s.rxMsgQueue.isEmpty then none else some mtypePPR
  | .openExitActionRxPRR => if s.rxMsgQueue.isEmpty then none else some mtypePRR
  | .openExitActionRxPTR => if s.rxMsgQueue.isEmpty then none else some mtypePTR
  | .openExitActionRxPUR => if s.rxMsgQueue.isEmpty then none else some mtypePUR
  | .waitPANExitActionRxPAR => if s.rxMsgQueue.isEmpty then none else some mtypePAR
  | .exitActionTxPEA => some mtypePER
  | _ => none

def duties : Duties PaaAction where
  takes action := action ∈ [.openExitActionRxPPR, .openExitActionRxPRR, .openExitActionRxPTR, .openExitActionRxPUR,
    .waitPANExitActionRxPAR, .exitActionTxPEA]
  answers := answers

variable {crypto : Crypto} {config : Config} {draws : Draws} {s : Session}

theorem idle_txPSR : Idle (txPSR config) := by
  unfold txPSR
  refine Idle.bind (idle_modify (fun _ => rfl) fun _ => rfl) fun _ => Idle.bind idle_get fun s => ?_
  apply Imperative.Relates.ite
  · apply Imperative.Relates.ite
    · exact Idle.bind (idle_raise _) fun _ => Idle.bind idle_dequeueEap fun _ => idle_sendReqMsg fun _ => rfl
    · exact Idle.bind idle_dequeueEap fun _ => idle_sendReqMsg fun _ => rfl
  · exact idle_sendReqMsg fun _ => rfl

theorem idle_rxPSA : Idle (rxPSA config) := by
  unfold rxPSA
  refine Idle.bind idle_dequeueRx fun msg => ?_
  have payload : Idle (match msg.avpList.eapPayload with
      | some payload => modify fun s => notifyEapResponse s payload
      | none => modify notifyEapRestart) := by
    cases msg.avpList.eapPayload with
    | some payload => exact idle_modify (fun _ => rfl) fun _ => rfl
    | none => exact idle_modify (fun _ => rfl) fun _ => rfl
  apply Imperative.Relates.ite
  · exact idle_modify (fun _ => rfl) fun _ => rfl
  · apply Imperative.Relates.ite
    · exact Idle.bind (idle_modify (fun _ => rfl) fun _ => rfl) fun _ => payload
    · exact payload

theorem idle_txPAR : Idle (txPAR crypto draws) := by
  unfold txPAR
  refine Idle.bind (idle_modify (fun _ => rfl) fun _ => rfl) fun _ => Idle.bind idle_get fun s => ?_
  have sends : Idle (do
      let block ← dequeueEap
      let nonce := if s.sa.paaNonce.isSet then none else some draws.nonce
      if !s.sa.paaNonce.isSet then
        modify fun s => { s with sa := { s.sa with paaNonce := .set draws.nonce } }
      modify fun s => s.sendReqMsg (s.protect crypto
        { type := mtypePAR
          request := true
          sessionId := s.sessionId
          seq := s.lastTxSeqNum
          avpList := { eapPayload := some block, nonce := nonce } }) : SessionM) := by
    refine Idle.bind idle_dequeueEap fun block => ?_
    have request (nonce : Option Octets) : Idle (modify fun s => s.sendReqMsg (s.protect crypto
        { type := mtypePAR
          request := true
          sessionId := s.sessionId
          seq := s.lastTxSeqNum
          avpList := { eapPayload := some block, nonce := nonce } })) :=
      idle_sendReqMsg fun t => isAnswer_protect crypto t _
    apply Imperative.Relates.ite
    · exact Idle.bind (idle_modify (fun _ => rfl) fun _ => rfl) fun _ => request _
    · exact request _
  apply Imperative.Relates.ite
  · exact Idle.bind (idle_raise _) fun _ => sends
  · exact sends

theorem idle_txPBR (rcode : UInt32) (ev : EapOutcome) : Idle (txPBR crypto draws rcode ev) := by
  unfold txPBR
  refine Idle.bind (idle_modify (fun _ => rfl) fun _ => rfl) fun _ => Idle.bind idle_dequeueEap fun block => ?_
  apply Imperative.relates_modify
  intro t
  have bound (avpList : AvpList) : t.Idles (bind crypto draws t avpList).1 := by
    unfold bind
    cases draws.key with
    | none => exact idles_of_eq rfl rfl
    | some key => exact idles_of_eq rfl rfl
  have sends (u : Session) (avpList : AvpList) (idles : t.Idles u) : t.Idles (u.sendReqMsg (u.protect crypto
      { type := mtypePBR
        request := true
        sessionId := t.sessionId
        seq := t.lastTxSeqNum
        avpList := avpList })) :=
    idles.trans (idles_sendReqMsg (isAnswer_protect crypto u _))
  by_cases success : ev = .success
  · simp only [if_pos success]
    exact sends _ _ (bound _)
  · simp only [if_neg success]
    exact sends t _ (idles_of_eq rfl rfl)

theorem idle_rxPBA (success : Bool) : Idle (rxPBA config draws success) := by
  unfold rxPBA
  refine Idle.bind idle_dequeueRx fun _ => Idle.bind (idle_modify (fun _ => rfl) fun _ => rfl) fun _ => ?_
  apply Imperative.Relates.ite
  · exact idle_modify (fun _ => rfl) fun _ => rfl
  · exact Imperative.relates_modify fun _ => idles_disconnect

theorem idle_rxPAN : Idle rxPAN := by
  unfold rxPAN
  refine Idle.bind idle_dequeueRx fun msg => Idle.bind (idle_modify (fun _ => rfl) fun _ => rfl) fun _ => ?_
  refine Idle.bind (Imperative.relates_modify fun t => ?_) fun _ => ?_
  · cases msg.avpList.nonce with
    | none => exact idles_of_eq rfl rfl
    | some nonce =>
      dsimp only
      split
      · exact idles_of_eq rfl rfl
      · exact idles_of_eq rfl rfl
  · cases msg.avpList.eapPayload with
    | some payload => exact idle_modify (fun _ => rfl) fun _ => rfl
    | none => exact idle_pure _

theorem idles_notifyEapTimeout : s.Idles (notifyEapTimeout crypto config draws s) := by
  have requests : s.cancelEapResponse.Idles (s.txPER crypto errorUnableToComply) := idles_txRequest
  have begun : s.Idles s.cancelEapResponse := idles_of_eq rfl rfl
  exact (begun.trans requests).trans idles_disconnect

theorem answers_perform (action : PaaAction) :
    s.Answers ((perform crypto config draws action).after s) (answers action s) := by
  have returns {x : SessionM} {event : Option PaaEvent} {type : Option MType} (answers : s.Answers (x.after s) type) :
      s.Answers ((do x; return event : Imperative Session Exception _).after s) type := by
    rw [Imperative.after_bind_pure]
    exact answers
  cases action
  case null => exact (idles_of_eq rfl rfl).answers
  case exitActionTxPEA => exact returns (answers_sendAnsMsg (by decide) rfl (idles_of_eq rfl rfl))
  case openExitActionRxPPR => exact returns (answers_rx fun _ _ => answers_txAnswer (by decide))
  case openExitActionRxPUR => exact returns (answers_rx fun _ _ => answers_txAnswer (by decide))
  case openExitActionRxPTR =>
    exact returns (answers_rx fun _ _ => (answers_txAnswer (by decide)).trans idles_disconnect)
  case openExitActionRxPRR =>
    exact returns (answers_rx fun _ _ => (answers_txAnswer (by decide)).of_idles (idles_of_eq rfl rfl) rfl rfl)
  case waitPANExitActionRxPAR =>
    apply returns
    apply answers_rx
    intro msg t
    have answers (u : Session) (idles : t.Idles u) (lastRxSeqNum : u.lastRxSeqNum = t.lastRxSeqNum)
        (sessionId : u.sessionId = t.sessionId) : t.Answers (txPAN crypto u.cancelTxRetry) (some mtypePAR) := by
      have kept : u.Idles u.cancelTxRetry := idles_of_eq rfl rfl
      exact (answers_txAnswer (by decide)).of_idles (idles.trans kept) lastRxSeqNum sessionId
    cases msg.avpList.eapPayload with
    | some payload => exact answers (notifyEapResponse t payload) (idles_of_eq rfl rfl) rfl rfl
    | none => exact answers t (idles_of_eq rfl rfl) rfl rfl
  -- What is left sends requests or nothing.
  case exitActionPaaEapRestart => exact returns (idles_of_eq rfl rfl).answers
  case exitActionTxPSR => exact returns (idle_txPSR s).answers
  case exitActionRxPSA => exact returns (idle_rxPSA s).answers
  case exitActionEapTimeout => exact returns idles_notifyEapTimeout.answers
  case exitActionTxPAR => exact returns (idle_txPAR s).answers
  case exitActionTxPBREapSuccess => exact returns (idle_txPBR _ _ s).answers
  case exitActionTxPBREapSuccessFail => exact returns (idle_txPBR _ _ s).answers
  case exitActionTxPBREapFail => exact returns (idle_txPBR _ _ s).answers
  case waitPEAExitActionRxPEA => exact returns (idles_rx fun _ _ => (idles_of_eq rfl rfl).trans idles_disconnect).answers
  case exitActionRxPBASuccess => exact returns (idle_rxPBA _ s).answers
  case exitActionRxPBAFail => exact returns (idle_rxPBA _ s).answers
  case openExitActionReAuth => exact returns (idles_of_eq rfl rfl).answers
  case openExitActionTxPPR => exact returns idles_txRequest.answers
  case openExitActionTxPTR => exact returns ((idles_of_eq rfl rfl).trans idles_txRequest).answers
  case openExitActionTxPUR => exact returns idles_txRequest.answers
  case waitPUAExitActionRxPUA => exact returns (idles_rx fun _ _ => idles_of_eq rfl rfl).answers
  case waitPaaExitActionRxPPA => exact returns (idles_rx fun _ _ => idles_of_eq rfl rfl).answers
  case waitPANExitActionRxPAN => exact returns (idle_rxPAN s).answers
  case sessExitActionRxPTA => exact returns idles_disconnect.answers
  case exitActionTimeout => exact returns idles_disconnect.answers
  case exitActionRetransmission =>
    unfold perform
    rw [Imperative.after_bind_pure]
    exact idles_txLastReqMsg.answers

end Paa

end OpenDiameter.Pana
