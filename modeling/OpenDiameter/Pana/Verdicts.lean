import OpenDiameter.Pana.Client
import OpenDiameter.Pana.Paa
import OpenDiameter.Pana.Validation

/-! Which computations tell the application that it is authorized, or that its session ended. -/

set_option autoImplicit false

namespace OpenDiameter.Pana

open Foundation OpenDiameter.Framework

section Verdicts

def Callback.isAuthorize : Callback → Bool
  | .authorize _ => true
  | _ => false

def Callback.isEnd : Callback → Bool
  | .disconnect _ => true
  | .error _ => true
  | _ => false

def Callback.isVerdict (callback : Callback) : Bool := callback.isAuthorize || callback.isEnd

namespace Session

/-- How often `Authorize` was called. -/
def authorizations (s : Session) : Nat := s.told.countP Callback.isAuthorize

def ends (s : Session) : List Callback := s.told.filter Callback.isEnd

def verdicts (s : Session) : List Callback := s.told.filter Callback.isVerdict

theorem authorizations_of_verdicts {s t : Session} (same : t.verdicts = s.verdicts) :
    t.authorizations = s.authorizations := by
  have counted (u : Session) : u.authorizations = u.verdicts.countP Callback.isAuthorize := by
    unfold authorizations verdicts
    rw [List.countP_filter]
    apply List.countP_congr
    intro callback _
    cases callback <;> simp [Callback.isVerdict, Callback.isAuthorize]
  rw [counted, counted, same]

theorem ends_of_verdicts {s t : Session} (same : t.verdicts = s.verdicts) : t.ends = s.ends := by
  have filtered (u : Session) : u.ends = u.verdicts.filter Callback.isEnd := by
    unfold ends verdicts
    rw [List.filter_filter]
    apply List.filter_congr
    intro callback _
    cases callback <;> rfl
  rw [filtered, filtered, same]

theorem verdicts_tell {s : Session} {callback : Callback} (other : callback.isVerdict = false) :
    (s.tell callback).verdicts = s.verdicts := by
  show (s.told ++ [callback]).filter Callback.isVerdict = s.told.filter Callback.isVerdict
  rw [List.filter_append, List.filter_cons_of_neg (Bool.eq_false_iff.mp other), List.filter_nil, List.append_nil]

theorem authorizations_tell {s : Session} {callback : Callback} (other : callback.isAuthorize = false) :
    (s.tell callback).authorizations = s.authorizations := by
  show (s.told ++ [callback]).countP Callback.isAuthorize = s.told.countP Callback.isAuthorize
  rw [List.countP_append, List.countP_singleton, other]
  rfl

variable (config : Config) (draws : Draws)

theorem authorizations_finish {callback : Callback} (other : callback.isAuthorize = false) (s : Session) :
    (s.finish config draws callback).authorizations = s.authorizations :=
  authorizations_tell (s := s.cancelTxRetry.cancelSession.cancelEapResponse) other

theorem ends_finish {callback : Callback} (ending : callback.isEnd = true) (s : Session) :
    (s.finish config draws callback).ends = s.ends ++ [callback] := by
  show (s.told ++ [callback]).filter Callback.isEnd = _
  rw [List.filter_append, List.filter_cons_of_pos ending, List.filter_nil]
  rfl

end Session

end Verdicts

namespace Session

abbrev Quiet {α : Type} (x : Imperative Session Exception α) : Prop :=
  Imperative.Relates (fun s t => t.verdicts = s.verdicts) x

section Rules

variable {α β : Type}

theorem quiet_pure (value : α) : Quiet (pure value) := by
  apply Imperative.relates_pure
  intro s
  rfl

theorem quiet_get : Quiet get := Imperative.relates_get fun _ => rfl

theorem quiet_raise (e : Exception) : Quiet (Imperative.raise e : Imperative Session Exception α) := by
  apply Imperative.relates_raise
  intro s
  rfl

theorem quiet_modify {change : Session → Session} (each : ∀ s, (change s).verdicts = s.verdicts) :
    Quiet (modify change) := Imperative.relates_modify each

theorem Quiet.bind {x : Imperative Session Exception α} {next : α → Imperative Session Exception β}
    (first : Quiet x) (rest : ∀ value, Quiet (next value)) : Quiet (x >>= next) :=
  Imperative.Relates.bind (fun _ _ _ one two => two.trans one) first rest

theorem Quiet.ite {condition : Prop} [Decidable condition] {x y : Imperative Session Exception α} (holds : Quiet x)
    (fails : Quiet y) : Quiet (if condition then x else y) := Imperative.Relates.ite holds fails

end Rules

section Parts

variable (crypto : Crypto) (config : Config) (draws : Draws)

theorem quiet_dequeueRx : Quiet dequeueRx := by
  intro s
  unfold Imperative.after dequeueRx
  cases s.rxMsgQueue <;> rfl

theorem quiet_dequeueEap : Quiet dequeueEap := by
  intro s
  unfold Imperative.after dequeueEap
  cases s.txEapMessageQueue <;> rfl

/-- One more step, which only takes a message from the queue. -/
theorem quiet_answer {change : Session → Session} (each : ∀ s, (change s).verdicts = s.verdicts) :
    Quiet (do let _ ← dequeueRx; modify change) := quiet_dequeueRx.bind fun _ => quiet_modify each

theorem quiet_txLastReqMsg : Quiet (txLastReqMsg draws) := by
  intro s
  unfold Imperative.after txLastReqMsg
  cases draws.reScheduled with
  | false => rfl
  | true =>
    simp only [if_true]
    cases s.lastTxReqMsg <;> rfl

theorem quiet_rxValidateMsg (msg : Message) (skipAuth : Bool) : Quiet (rxValidateMsg crypto msg skipAuth) := by
  intro s
  have how := s.validates crypto msg skipAuth
  unfold Imperative.after
  generalize rxValidateMsg crypto msg skipAuth s = result at how
  cases how with
  | accepted acceptable =>
    unfold verdicts
    rw [Imperative.left_ok, told_count]
  | unanswered => rfl
  | resent => rfl
  | unexpected => rfl
  | misnumbered => rfl
  | refusedFirst => rfl
  | refused => rfl

theorem verdicts_saveAddress (s : Session) (msg : Message) : (s.saveAddress msg).verdicts = s.verdicts := by
  unfold verdicts
  rw [told_saveAddress]

theorem quiet_demand (request : Bool) (description : String) (msg : Message) :
    Quiet (demand request description msg) := Quiet.ite (quiet_raise _) (quiet_pure _)

theorem quiet_queued {Event : Type} (event : Message → Event) (msg : Message) : Quiet (queued event msg) :=
  Quiet.bind (quiet_modify fun s => verdicts_saveAddress s msg) fun _ => quiet_pure _

variable {crypto config draws}

theorem quiet_of_queued {Event : Type} {filter : RxFilter Event} {event : Message → Event} {msg : Message}
    (first : Quiet (filter.first msg)) (resolve : filter.resolve draws = queued event) :
    Quiet (filter.handleMessage crypto draws msg) := by
  refine first.bind fun _ => (quiet_rxValidateMsg crypto msg filter.skipAuth).bind fun _ => ?_
  rw [resolve]
  exact quiet_queued event msg

end Parts

end Session

namespace Client

open Session

variable (crypto : Crypto) (config : Config) (draws : Draws)

def decides : PacAction → Bool
  | .waitEapResultExitActionEapOpen | .waitPaaExitActionRxPBR | .waitEapSuccessExitActionClose
  | .waitEapFailExitActionClose | .openExitActionRxPTR | .sessTermExitActionRxPTA | .exitActionTimeout
  | .waitPEAExitActionRxPEA => true
  | _ => false

theorem verdicts_notifyEapRestart (s : Session) : (notifyEapRestart draws s).verdicts = s.verdicts :=
  verdicts_tell (s := s.cancelSession) rfl

theorem verdicts_notifyEapRequest (s : Session) (payload : Octets) :
    (notifyEapRequest s payload).verdicts = s.verdicts := verdicts_tell rfl

theorem quiet_txPSA (eapOptimization : Bool) : Quiet (txPSA eapOptimization) := by
  apply quiet_get.bind
  intro s
  apply Quiet.ite
  · exact quiet_dequeueEap.bind fun block => quiet_modify fun s => rfl
  · exact quiet_modify fun s => rfl

theorem quiet_rxPSR : Quiet (rxPSR draws) := by
  apply quiet_dequeueRx.bind
  intro msg
  refine Quiet.bind (quiet_modify fun s => verdicts_notifyEapRestart draws s.cancelTxRetry) fun _ => ?_
  cases msg.avpList.eapPayload with
  | some payload => exact quiet_modify fun s => verdicts_notifyEapRequest s payload
  | none => exact quiet_txPSA false

theorem quiet_piggyBack (eapPiggyBack : Bool) (first : Octets → Session → Message) (second : Session → Message) :
    Quiet (if eapPiggyBack then do
        modify cancelEapResponse
        let block ← dequeueEap
        modify fun s => s.sendAnsMsg (first block s)
      else modify fun s => s.sendAnsMsg (second s)) := by
  apply Quiet.ite
  · refine Quiet.bind (quiet_modify fun s => rfl) fun _ => ?_
    exact quiet_dequeueEap.bind fun block => quiet_modify fun s => rfl
  · exact quiet_modify fun s => rfl

theorem quiet_txPAN (eapPiggyBack : Bool) : Quiet (txPAN crypto draws eapPiggyBack) := by
  apply quiet_get.bind
  intro s
  apply Quiet.ite
  · exact Quiet.bind (quiet_modify fun s => rfl) fun _ => quiet_piggyBack eapPiggyBack _ _
  · exact quiet_piggyBack eapPiggyBack _ _

theorem quiet_rxPAR : Quiet (rxPAR crypto config draws) := by
  apply quiet_dequeueRx.bind
  intro msg
  refine Quiet.bind (quiet_modify fun s => rfl) fun _ => ?_
  apply Quiet.bind
  · apply quiet_modify
    intro s
    cases msg.avpList.nonce with
    | none => rfl
    | some nonce => cases s.sa.paaNonce.isSet <;> rfl
  · intro _
    cases msg.avpList.eapPayload with
    | some payload =>
      have rest := quiet_modify fun s => verdicts_notifyEapRequest s payload
      apply Quiet.ite
      · exact (quiet_txPAN crypto draws false).bind fun _ => rest
      · exact rest
    | none =>
      apply Quiet.ite
      · exact (quiet_txPAN crypto draws false).bind fun _ => quiet_raise _
      · exact quiet_raise _

theorem verdicts_txPBA (authSuccess : Bool) (s : Session) :
    (txPBA crypto draws s authSuccess).verdicts = s.verdicts := by
  unfold txPBA
  cases draws.key <;> cases authSuccess <;> rfl

theorem quiet_perform {action : PacAction} (other : decides action = false) :
    Quiet (perform crypto config draws action) := by
  have returns {x : SessionM} {event : Option PacEvent} (quiet : Quiet x) : Quiet (do x; return event) :=
    quiet.bind fun _ => quiet_pure event
  cases action
  case null => exact quiet_pure none
  case waitEapResultExitActionEapOpen => cases other
  case waitPaaExitActionRxPBR => cases other
  case waitEapSuccessExitActionClose => cases other
  case waitEapFailExitActionClose => cases other
  case openExitActionRxPTR => cases other
  case sessTermExitActionRxPTA => cases other
  case exitActionTimeout => cases other
  case waitPEAExitActionRxPEA => cases other
  case offlineExitActionRxPSR => exact returns (quiet_rxPSR draws)
  case waitEapMsgInExitActionTxPSA => exact returns (quiet_txPSA true)
  case waitPaaExitActionRxPAR => exact returns (quiet_rxPAR crypto config draws)
  case waitPaaExitActionRxPAN => exact returns (quiet_answer fun s => rfl)
  case waitEapMsgExitActionTxPAN => exact returns (quiet_txPAN crypto draws true)
  case waitEapMsgExitActionTxPAR =>
    apply returns
    unfold txPAR
    refine Quiet.bind (quiet_modify fun s => rfl) fun _ => ?_
    exact quiet_dequeueEap.bind fun block => quiet_modify fun s => rfl
  case waitEapMsgExitActionTxPANTout =>
    apply Quiet.ite
    · exact (quiet_txPAN crypto draws false).bind fun _ => returns (quiet_modify fun s => rfl)
    · exact returns (quiet_modify fun s => rfl)
  case openExitActionRxPAR =>
    refine Quiet.bind (quiet_modify (verdicts_notifyEapRestart draws)) fun _ => ?_
    exact returns (quiet_rxPAR crypto config draws)
  case openExitActionRxPPR => exact returns (quiet_answer fun s => rfl)
  case openExitActionRxPUR => exact returns (quiet_answer fun s => rfl)
  case waitPRAAExitActionRxPRA => exact returns (quiet_answer fun s => verdicts_notifyEapRestart draws _)
  case waitPPAExitActionRxPPA => exact returns (quiet_answer fun s => rfl)
  case waitPUAExitActionRxPUA => exact returns (quiet_answer fun s => rfl)
  case exitActionRetransmission => exact (quiet_txLastReqMsg draws).bind fun sent => quiet_pure _
  -- What is left sends a message or nothing.
  all_goals exact returns (quiet_modify fun s => rfl)

theorem quiet_handleMessage {filter : RxFilter PacEvent} {type : MType}
    (handles : msgHandlers config type = some filter) (other : type ≠ mtypePER) (msg : Message) :
    Quiet (filter.handleMessage crypto draws msg) := by
  revert other
  apply msgHandlers_cases
    (motive := fun type filter => type ≠ mtypePER → Quiet (filter.handleMessage crypto draws msg)) handles
  case psr =>
    intro _
    apply Quiet.bind
    · exact (quiet_demand _ _ msg).bind fun _ => quiet_modify fun s => rfl
    · intro _
      apply (quiet_rxValidateMsg crypto msg _).bind
      intro _
      refine Quiet.bind (quiet_modify fun s => verdicts_saveAddress s msg) fun _ => ?_
      have rest : Quiet (do
          modify fun s => s.enqueueRx msg
          return ({ msgType := some .psr, eapPayload := msg.avpList.eapPayload.isSome } : PacEvent)) :=
        Quiet.bind (quiet_modify fun s => rfl) fun _ => quiet_pure _
      apply Quiet.ite
      · exact (quiet_raise _).bind fun _ => rest
      · exact rest
  case pbr => exact fun _ => quiet_of_queued (quiet_demand _ _ msg) rfl
  case pra => exact fun _ => quiet_of_queued (quiet_demand _ _ msg) rfl
  case pe => exact fun other => absurd rfl other
  all_goals exact fun _ => quiet_of_queued (quiet_pure _) rfl

end Client

namespace Paa

open Session

variable (crypto : Crypto) (config : Config) (draws : Draws)

def decides : PaaAction → Bool
  | .exitActionRxPBASuccess | .exitActionRxPBAFail | .exitActionEapTimeout | .waitPEAExitActionRxPEA
  | .openExitActionRxPTR | .sessExitActionRxPTA | .exitActionTimeout => true
  | _ => false

theorem quiet_txPSR : Quiet (txPSR config) := by
  refine Quiet.bind (quiet_modify fun s => rfl) fun _ => ?_
  apply quiet_get.bind
  intro s
  dsimp only
  have rest : Quiet (do
      let block ← dequeueEap
      modify fun t => t.sendReqMsg
        { type := mtypePSR
          request := true
          sessionId := s.sessionId
          seq := s.lastTxSeqNum
          avpList := { eapPayload := some block } } config.retryPSR) :=
    quiet_dequeueEap.bind fun block => quiet_modify fun t => by
      cases config.retryPSR <;> rfl
  apply Quiet.ite
  · apply Quiet.ite
    · exact (quiet_raise _).bind fun _ => rest
    · exact rest
  · apply quiet_modify
    intro t
    cases config.retryPSR <;> rfl

theorem verdicts_notifyEapRestart (s : Session) : (notifyEapRestart s).verdicts = s.verdicts :=
  verdicts_tell (s := s.cancelSession) rfl

theorem verdicts_notifyEapResponse (s : Session) (payload : Octets) :
    (notifyEapResponse s payload).verdicts = s.verdicts := verdicts_tell rfl

theorem verdicts_notifyEapReAuth (s : Session) : (notifyEapReAuth s).verdicts = s.verdicts := by
  have told : (s.tell .eapStart).verdicts = s.verdicts := verdicts_tell rfl
  exact told

theorem quiet_rxPSA : Quiet (rxPSA config) := by
  apply quiet_dequeueRx.bind
  intro msg
  apply Quiet.ite
  · exact quiet_modify verdicts_notifyEapRestart
  · cases msg.avpList.eapPayload with
    | some payload =>
      have rest := quiet_modify fun s => verdicts_notifyEapResponse s payload
      apply Quiet.ite
      · exact Quiet.bind (quiet_modify fun s => rfl) fun _ => rest
      · exact rest
    | none =>
      have rest := quiet_modify verdicts_notifyEapRestart
      apply Quiet.ite
      · exact Quiet.bind (quiet_modify fun s => rfl) fun _ => rest
      · exact rest

theorem quiet_txPAR : Quiet (txPAR crypto draws) := by
  unfold txPAR
  refine Quiet.bind (quiet_modify fun s => rfl) fun _ => Quiet.bind quiet_get fun s => ?_
  apply Quiet.ite
  case' holds => refine Quiet.bind (quiet_raise _) fun _ => ?_
  all_goals
    refine Quiet.bind quiet_dequeueEap fun block => ?_
    apply Quiet.ite
    · exact Quiet.bind (quiet_modify fun s => rfl) fun _ => quiet_modify fun s => rfl
    · exact quiet_modify fun s => rfl

theorem verdicts_bind (s : Session) (avpList : AvpList) : (bind crypto draws s avpList).1.verdicts = s.verdicts := by
  unfold bind
  cases draws.key <;> rfl

theorem quiet_txPBR (rcode : UInt32) (ev : EapOutcome) : Quiet (txPBR crypto draws rcode ev) := by
  refine Quiet.bind (quiet_modify fun s => rfl) fun _ => ?_
  apply quiet_dequeueEap.bind
  intro block
  apply quiet_modify
  intro s
  cases ev with
  | success => exact verdicts_bind crypto draws s _
  | failure => rfl
  | timeout => rfl

theorem quiet_rxPAR : Quiet (rxPAR crypto) := by
  apply quiet_dequeueRx.bind
  intro msg
  cases msg.avpList.eapPayload with
  | some payload =>
    exact Quiet.bind (quiet_modify fun s => verdicts_notifyEapResponse s payload) fun _ => quiet_modify fun s => rfl
  | none => exact quiet_modify fun s => rfl

theorem quiet_rxPAN : Quiet rxPAN := by
  apply quiet_dequeueRx.bind
  intro msg
  refine Quiet.bind (quiet_modify fun s => rfl) fun _ => ?_
  apply Quiet.bind
  · apply quiet_modify
    intro s
    cases msg.avpList.nonce with
    | none => rfl
    | some nonce => cases s.sa.pacNonce.isSet <;> rfl
  · intro _
    cases msg.avpList.eapPayload with
    | some payload => exact quiet_modify fun s => verdicts_notifyEapResponse s payload
    | none => exact quiet_pure _

theorem quiet_perform {action : PaaAction} (other : decides action = false) :
    Quiet (perform crypto config draws action) := by
  have returns {x : SessionM} {event : Option PaaEvent} (quiet : Quiet x) : Quiet (do x; return event) :=
    quiet.bind fun _ => quiet_pure event
  cases action
  case null => exact quiet_pure none
  case exitActionRxPBASuccess => cases other
  case exitActionRxPBAFail => cases other
  case exitActionEapTimeout => cases other
  case waitPEAExitActionRxPEA => cases other
  case openExitActionRxPTR => cases other
  case sessExitActionRxPTA => cases other
  case exitActionTimeout => cases other
  case exitActionPaaEapRestart => exact returns (quiet_modify verdicts_notifyEapRestart)
  case exitActionTxPSR => exact returns (quiet_txPSR config)
  case exitActionRxPSA => exact returns (quiet_rxPSA config)
  case exitActionTxPAR => exact returns (quiet_txPAR crypto draws)
  case exitActionTxPBREapSuccess => exact returns (quiet_txPBR crypto draws _ _)
  case exitActionTxPBREapSuccessFail => exact returns (quiet_txPBR crypto draws _ _)
  case exitActionTxPBREapFail => exact returns (quiet_txPBR crypto draws _ _)
  case openExitActionRxPPR => exact returns (quiet_answer fun s => rfl)
  case openExitActionRxPRR => exact returns (quiet_answer verdicts_notifyEapReAuth)
  case openExitActionReAuth => exact returns (quiet_modify verdicts_notifyEapReAuth)
  case waitPUAExitActionRxPUA => exact returns (quiet_answer fun s => rfl)
  case openExitActionRxPUR => exact returns (quiet_answer fun s => rfl)
  case waitPaaExitActionRxPPA => exact returns (quiet_answer fun s => rfl)
  case waitPANExitActionRxPAN => exact returns quiet_rxPAN
  case waitPANExitActionRxPAR => exact returns (quiet_rxPAR crypto)
  case exitActionRetransmission => exact (quiet_txLastReqMsg draws).bind fun sent => quiet_pure _
  -- What is left sends a message or nothing.
  all_goals exact returns (quiet_modify fun s => rfl)

theorem quiet_handleMessage {filter : RxFilter PaaEvent} {type : MType}
    (handles : msgHandlers config type = some filter) (other : type ≠ mtypePER) (msg : Message) :
    Quiet (filter.handleMessage crypto draws msg) := by
  revert other
  apply msgHandlers_cases
    (motive := fun type filter => type ≠ mtypePER → Quiet (filter.handleMessage crypto draws msg)) handles
  case pci => exact fun _ => quiet_of_queued (quiet_demand _ _ msg) rfl
  case psa => exact fun _ => quiet_of_queued (quiet_demand _ _ msg) rfl
  case pba => exact fun _ => quiet_of_queued (quiet_demand _ _ msg) rfl
  case prr => exact fun _ => quiet_of_queued (quiet_demand _ _ msg) rfl
  case pe => exact fun other => absurd rfl other
  all_goals exact fun _ => quiet_of_queued (quiet_pure _) rfl

end Paa

end OpenDiameter.Pana
