import OpenDiameter.Eap.PeerSwitch

/-! What the actions of an EAP peer switch do to its queue, its key and its events. -/

set_option autoImplicit false

namespace OpenDiameter.Eap.PeerSwitch

open Foundation OpenDiameter.Framework

section Confined

/-- The attributes that only `AcReceiveMsg`, `AcSendSuccess` and the methods write. -/
structure Kept (sm data : PeerData) : Prop where
  decision : data.decision = sm.decision
  keyAvailable : data.keyAvailable = sm.keyAvailable
  rxQueue : data.rxQueue = sm.rxQueue

/-- A reaction other than those of `AcReceiveMsg`, `AcCheckRxQueue` and `AcSendSuccess`. -/
structure Confined (sm : PeerData) (reaction : PeerReaction) : Prop where
  kept : Kept sm reaction.data
  notified : ∀ event ∈ reaction.notified, event = .uct ∨ event = .sgUserInputFinished
  rxMsg : reaction.raised ≠ some .rxMsg
  sgSuccess : reaction.raised = some .sgSuccess → sm.decision ≠ .fail
  success : .success ∉ reaction.callbacks
  blocked : .blocked ∉ reaction.callbacks

variable {sm data : PeerData}

/-- An action that neither takes a message nor calls for one, nor succeeds. -/
theorem Kept.confined {notified : List PeerEvent} {callbacks : List PeerCallback} {raised : Option PeerEvent}
    (kept : Kept sm data)
    (events : (∀ event ∈ notified, event = .uct ∨ event = .sgUserInputFinished) ∧
      raised ≠ some .rxMsg ∧ raised ≠ some .sgSuccess)
    (told : .success ∉ callbacks ∧ .blocked ∉ callbacks) :
    Confined sm { data, notified, callbacks, raised } where
  kept := kept
  notified := events.1
  rxMsg := events.2.1
  sgSuccess same := absurd same events.2.2
  success := told.1
  blocked := told.2

theorem Kept.raise {event : PeerEvent} (kept : Kept sm data)
    (other : event ≠ .rxMsg ∧ event ≠ .sgSuccess) : Confined sm (raise data event) := by
  have raised : some event ≠ some .rxMsg ∧ some event ≠ some .sgSuccess :=
    ⟨fun same => other.1 (Option.some.inj same), fun same => other.2 (Option.some.inj same)⟩
  exact kept.confined ⟨nofun, raised⟩ ⟨List.not_mem_nil, List.not_mem_nil⟩

theorem Kept.nullPointer (kept : Kept sm data) : Confined sm (nullPointer data) :=
  kept.confined (by decide) (by decide)

theorem Kept.subAcSendResp (kept : Kept sm data) : Confined sm (subAcSendResp data) :=
  kept.confined (by decide) (by simp only [List.mem_singleton, reduceCtorEq, not_false_eq_true, and_self])

theorem Kept.rfl : Kept sm sm := ⟨Eq.refl _, Eq.refl _, Eq.refl _⟩

theorem deleteMethodStateMachine_kept (sm : PeerData) : Kept sm (deleteMethodStateMachine sm) := by
  unfold deleteMethodStateMachine
  split
  · exact ⟨Eq.refl _, Eq.refl _, Eq.refl _⟩
  · exact .rfl

end Confined

section Spec

variable (config : PeerConfig) (sm : PeerData)

theorem acRetransmit_confined : Confined sm (acRetransmit sm) := by
  have sent := Kept.subAcSendResp (Kept.rfl : Kept sm sm)
  exact { sent with rxMsg := nofun, sgSuccess := nofun }

theorem acCheckTimeoutCondition_confined : Confined sm (acCheckTimeoutCondition sm) := by
  unfold acCheckTimeoutCondition
  split
  case isTrue satisfied =>
    have conditional : sm.decision = .condSucc := beq_iff_eq.mp (Bool.and_eq_true_iff.mp satisfied).2
    have decided : sm.decision ≠ .fail := by
      rw [conditional]
      exact nofun
    exact ⟨.rfl, nofun, nofun, fun _ => decided, List.not_mem_nil, List.not_mem_nil⟩
  case isFalse => exact Kept.rfl.raise (by decide)

theorem acBuildResp_confined : Confined sm (acBuildResp sm) := by
  unfold acBuildResp
  split
  · exact Kept.rfl.nullPointer
  · dsimp only
    split
    · exact Kept.subAcSendResp ⟨rfl, rfl, rfl⟩
    · split
      · exact Kept.nullPointer ⟨rfl, rfl, rfl⟩
      · apply Kept.subAcSendResp
        split <;> exact ⟨rfl, rfl, rfl⟩

theorem acDoIntegrityCheck_confined : Confined sm (acDoIntegrityCheck sm) := by
  unfold acDoIntegrityCheck
  split
  · exact Kept.rfl.nullPointer
  · exact Kept.confined ⟨rfl, rfl, rfl⟩ (by decide) (by decide)

theorem acDoPolicyCheck_confined : Confined sm (acDoPolicyCheck config sm) := by
  unfold acDoPolicyCheck
  dsimp only
  have deleted := deleteMethodStateMachine_kept { sm with currentMethod := sm.reqMethod }
  -- Whether the method is allowed does not matter here.
  generalize (if sm.reqMethod = { type := 1 } then sm.currentMethod == { type := 0 }
    else sm.policy.allow config.heap sm.reqMethod) = allowMethod
  cases allowMethod with
  | false => exact Kept.rfl.raise (by decide)
  | true =>
    rw [if_pos rfl]
    split
    · exact Kept.raise ⟨deleted.decision, deleted.keyAvailable, deleted.rxQueue⟩ (by decide)
    · exact Kept.confined ⟨deleted.decision, deleted.keyAvailable, deleted.rxQueue⟩ (by decide) (by decide)

theorem acParseNotification_confined : Confined sm (acParseNotification sm) := by
  unfold acParseNotification
  split
  · exact Kept.rfl.nullPointer
  · split
    · exact Kept.confined ⟨rfl, rfl, rfl⟩ (by decide)
        (by simp only [List.mem_singleton, reduceCtorEq, not_false_eq_true, and_self])
    · exact Kept.rfl.raise (by decide)

theorem acParseIdentity_confined : Confined sm (acParseIdentity sm) := by
  unfold acParseIdentity
  split
  · exact Kept.rfl.nullPointer
  · split
    · dsimp only
      split
      · exact Kept.confined ⟨rfl, rfl, rfl⟩ (by decide) (by decide)
      · exact Kept.confined ⟨rfl, rfl, rfl⟩ (by decide) (by decide)
    · exact Kept.rfl.raise (by decide)

theorem acBuildIdentity_confined : Confined sm (acBuildIdentity sm) := by
  unfold acBuildIdentity
  split
  · exact Kept.raise ⟨rfl, rfl, rfl⟩ (by decide)
  · exact Kept.rfl.raise (by decide)

theorem acCheckIdentity_confined : Confined sm (acCheckIdentity sm) := by
  unfold acCheckIdentity
  split
  · exact Kept.confined ⟨rfl, rfl, rfl⟩ (by decide) (by decide)
  · exact Kept.rfl.confined (by decide) (by decide)

theorem perform_confined {ac : PeerAction} (taken : ac ≠ .receiveMsg) (checked : ac ≠ .checkRxQueue)
    (sent : ac ≠ .sendSuccess) : Confined sm (perform config sm ac) := by
  cases ac with
  | null => exact Kept.rfl.confined (by decide) (by decide)
  | acInitialize => exact Kept.raise ⟨rfl, rfl, rfl⟩ (by decide)
  | retransmit => exact acRetransmit_confined sm
  | checkTimeoutCondition => exact acCheckTimeoutCondition_confined sm
  | sendSuccess => exact absurd rfl sent
  | sendFailure => exact Kept.rfl.confined (by decide) (by decide)
  | buildResp => exact acBuildResp_confined sm
  | doIntegrityCheck => exact acDoIntegrityCheck_confined sm
  | doPolicyCheck => exact acDoPolicyCheck_confined config sm
  | discard => exact Kept.raise ⟨rfl, rfl, rfl⟩ (by decide)
  | buildNak => exact Kept.subAcSendResp ⟨rfl, rfl, rfl⟩
  | parseNotification => exact acParseNotification_confined sm
  | buildNotification => exact Kept.raise ⟨rfl, rfl, rfl⟩ (by decide)
  | parseIdentity => exact acParseIdentity_confined sm
  | buildIdentity => exact acBuildIdentity_confined sm
  | startTimer => exact Kept.rfl.confined (by decide) (by decide)
  | checkRxQueue => exact absurd rfl checked
  | receiveMsg => exact absurd rfl taken
  | checkIdentity => exact acCheckIdentity_confined sm

end Spec

section Receiving

variable (sm : PeerData)

theorem subAcCheckSuccessCondition_confined : Confined sm (subAcCheckSuccessCondition sm) := by
  unfold subAcCheckSuccessCondition
  split
  case isTrue decided =>
    exact ⟨.rfl, nofun, nofun, fun _ => decided, List.not_mem_nil, List.not_mem_nil⟩
  case isFalse => split <;> exact Kept.rfl.raise (by decide)

theorem subAcCheckFailureCondition_confined : Confined sm (subAcCheckFailureCondition sm) := by
  unfold subAcCheckFailureCondition
  split <;> exact Kept.rfl.raise (by decide)

theorem subAcParseRequest_confined (msg : EapMessage) : Confined sm (subAcParseRequest sm msg) := by
  unfold subAcParseRequest
  dsimp only
  split
  · split <;> exact Kept.raise ⟨rfl, rfl, rfl⟩ (by decide)
  · split
    · exact Kept.raise ⟨rfl, rfl, rfl⟩ (by decide)
    · split
      · exact Kept.raise ⟨rfl, rfl, rfl⟩ (by decide)
      · split <;> exact Kept.raise ⟨rfl, rfl, rfl⟩ (by decide)

theorem acReceiveMsg_cons {msg : EapMessage} {rest : List EapMessage} (queue : sm.rxQueue = msg :: rest) :
    Confined { sm with rxQueue := rest } (acReceiveMsg sm) := by
  unfold acReceiveMsg
  rw [queue]
  dsimp only
  split
  · exact Kept.raise ⟨rfl, rfl, rfl⟩ (by decide)
  · split
    · split
      · split <;> exact Kept.raise ⟨rfl, rfl, rfl⟩ (by decide)
      · have parsed := subAcParseRequest_confined
          { sm with rxQueue := rest, rxMessage := some msg, currentIdentifier := msg.identifier
                    receivedFirstRequest := true } msg
        exact { parsed with kept := ⟨parsed.kept.decision, parsed.kept.keyAvailable, parsed.kept.rxQueue⟩ }
    · split
      · have checked := subAcCheckSuccessCondition_confined { sm with rxQueue := rest, rxMessage := some msg }
        exact { checked with kept := ⟨checked.kept.decision, checked.kept.keyAvailable, checked.kept.rxQueue⟩ }
      · have checked := subAcCheckFailureCondition_confined { sm with rxQueue := rest, rxMessage := some msg }
        exact { checked with kept := ⟨checked.kept.decision, checked.kept.keyAvailable, checked.kept.rxQueue⟩ }

theorem acReceiveMsg_nil (queue : sm.rxQueue = []) :
    acReceiveMsg sm = { data := sm, callbacks := [.blocked] } := by
  unfold acReceiveMsg
  rw [queue]

end Receiving

section Methods

@[elab_as_elim]
theorem method_elim (machine : Machine) (turn : MethodTurn) {motive : Machine → Prop} (kept : motive machine)
    (turned : ∀ msm, machine.raised = none → machine.data.methodStateMachine = some msm → msm.asked ≠ 0 →
      motive { machine with
        data := turn.apply machine.data msm
        raised := turn.event.map (·.peerEvent)
        events := machine.events ++ (turn.notified.map (·.peerEvent)).toList }) :
    motive (method machine turn) := by
  unfold method
  split
  case h_1 msm nothing waiting =>
    split
    case isTrue => exact kept
    case isFalse asked => exact turned msm nothing waiting asked
  case h_2 => exact kept

theorem reported {report : Option MethodReport} {event : PeerEvent}
    (mem : event ∈ (report.map (·.peerEvent)).toList) : event = .sgValidReq ∨ event = .sgInvalidReq := by
  cases report with
  | none => cases mem
  | some report =>
    cases report with
    | valid => exact Or.inl (List.mem_singleton.mp mem)
    | invalid => exact Or.inr (List.mem_singleton.mp mem)

end Methods

section Performed

inductive Performed (sm : PeerData) : PeerAction → PeerReaction → Prop where
  | success : Performed sm .sendSuccess (acSendSuccess sm)
  | blocked (queue : sm.rxQueue = []) : Performed sm .receiveMsg { data := sm, callbacks := [.blocked] }
  | received {msg : EapMessage} {rest : List EapMessage} {reaction : PeerReaction} (queue : sm.rxQueue = msg :: rest)
      (confined : Confined { sm with rxQueue := rest } reaction) : Performed sm .receiveMsg reaction
  | checked : Performed sm .checkRxQueue (acCheckRxQueue sm)
  | confined {ac : PeerAction} {reaction : PeerReaction} (taken : ac ≠ .receiveMsg) (unchecked : ac ≠ .checkRxQueue)
      (confined : Confined sm reaction) : Performed sm ac reaction

theorem performed (config : PeerConfig) (sm : PeerData) (ac : PeerAction) :
    Performed sm ac (perform config sm ac) := by
  by_cases taken : ac = .receiveMsg
  · rw [taken]
    show Performed sm .receiveMsg (acReceiveMsg sm)
    cases queue : sm.rxQueue with
    | nil =>
      rw [acReceiveMsg_nil sm queue]
      exact .blocked queue
    | cons msg rest => exact .received queue (acReceiveMsg_cons sm queue)
  · by_cases sent : ac = .sendSuccess
    · rw [sent]
      exact .success
    · by_cases checks : ac = .checkRxQueue
      · rw [checks]
        exact .checked
      · exact .confined taken checks (perform_confined config sm taken checks sent)

variable {sm : PeerData} {ac : PeerAction} {reaction : PeerReaction}

theorem Performed.decision (performed : Performed sm ac reaction) : reaction.data.decision = sm.decision := by
  cases performed with
  | success | blocked => rfl
  | checked =>
    unfold acCheckRxQueue
    split <;> rfl
  | received _ confined | confined _ _ confined => exact confined.kept.decision

theorem Performed.notified (performed : Performed sm ac reaction) :
    ∀ event ∈ reaction.notified, event = .uct ∨ event = .sgUserInputFinished := by
  cases performed with
  | success | blocked => exact nofun
  | checked =>
    unfold acCheckRxQueue
    split <;> exact nofun
  | received _ confined | confined _ _ confined => exact confined.notified

/-- The switch tells itself to succeed only on a decision of a method. -/
theorem Performed.sgSuccess (performed : Performed sm ac reaction) (raised : reaction.raised = some .sgSuccess) :
    sm.decision ≠ .fail := by
  cases performed with
  | success | blocked => cases raised
  | checked =>
    unfold acCheckRxQueue at raised
    split at raised <;> cases raised
  | received _ confined | confined _ _ confined => exact confined.sgSuccess raised

theorem Performed.silent (performed : Performed sm ac reaction) (sent : ac ≠ .sendSuccess) :
    .success ∉ reaction.callbacks ∧ reaction.data.keyAvailable = sm.keyAvailable := by
  cases performed with
  | success => exact absurd rfl sent
  | blocked => exact ⟨fun told => PeerCallback.noConfusion (List.mem_singleton.mp told), rfl⟩
  | checked =>
    unfold acCheckRxQueue
    split <;> exact ⟨List.not_mem_nil, rfl⟩
  | received _ confined | confined _ _ confined => exact ⟨confined.success, confined.kept.keyAvailable⟩

end Performed

end OpenDiameter.Eap.PeerSwitch
