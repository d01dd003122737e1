import OpenDiameter.Eap.AuthSwitch

/-! What the actions of the EAP authenticator switches do to their policy, their
method, their queues and their events. -/

set_option autoImplicit false

namespace OpenDiameter.Eap

open Foundation OpenDiameter.Framework

section Signatures

def AuthAction.raises : AuthAction → List AuthEvent
  | .acDisable => [.sgPortEnabled]
  | .acInitialize | .buildRequest | .discard | .discard2 | .resetMethod | .aaaRequest | .prepareRequest => [.uct]
  | .backendInitialize => [.evElse, .rxNonResp, .rxNak]
  | .pickUpMethod => [.evElse, .sgNoMethod]
  | .methodResponse => [.sgEndMethod, .evElse]
  | .doPolicyCheck => [.sgPolicySat, .sgPolicyNotSatEndSess, .sgPassThrough, .evElse]
  | .retransmit => [.sgMaxRetransmission]
  | .receiveMsg => [.rxNak, .evElse, .rxMethodResp]
  | .receiveMsg2 => [.rxMethodResp]
  | .pickUpInitCheck => [.sgNoPickUpInit, .sgPickUpInit]
  | .aaaContinue => [.sgDiscard, .rxAaaEapReq]
  | .aaaSuccess => [.sgDiscard, .evSgAaaSuccess]
  | .aaaFailure => [.sgDiscard, .evSgAaaFailure]
  | .null | .sendSuccess | .sendFailure | .sendRequest | .doIntegrityCheck | .proposeMethod | .discard3
  | .doIntegrityCheck2 | .completePassThroughWithSuccess | .completePassThroughWithFailure => []

def AuthAction.notifies : AuthAction → List AuthEvent
  | .sendRequest => [.uct]
  | .retransmit | .receiveMsg | .receiveMsg2 => [.evElse]
  | _ => []

/-- The actions that take a message from `rxQueue`. -/
def AuthAction.takesRx : AuthAction → Bool
  | .discard2 | .receiveMsg | .receiveMsg2 => true
  | _ => false

/-- The actions that take a message from `aaaRxQueue`. -/
def AuthAction.takesAaa : AuthAction → Bool
  | .discard3 | .aaaContinue | .aaaSuccess | .aaaFailure => true
  | _ => false

def AuthAction.turnsMethod : AuthAction → Bool
  | .pickUpMethod | .doIntegrityCheck | .proposeMethod => true
  | _ => false

end Signatures

namespace AuthSwitch

section Effects

structure Kept (ac : AuthAction) (sm data : AuthData) : Prop where
  policy : ac ≠ .resetMethod → data.policy = sm.policy
  methodStateMachine : ac.turnsMethod = false → data.methodStateMachine = sm.methodStateMachine
  rxQueue : ac.takesRx = false → data.rxQueue = sm.rxQueue
  aaaRxQueue : ac.takesAaa = false → data.aaaRxQueue = sm.aaaRxQueue

structure Told (ac : AuthAction) (sm : AuthData) (told : List AuthCallback) : Prop where
  success : ∀ msg, .success msg ∈ told → ac = .sendSuccess ∨ ac = .completePassThroughWithSuccess
  forwardResponse : ∀ msg, .forwardResponse msg ∈ told → ac = .doIntegrityCheck2
  blocked : .blocked ∈ told → ac.takesRx = true ∧ sm.rxQueue = [] ∨ ac = .discard3 ∧ sm.aaaRxQueue = []

structure Effect (ac : AuthAction) (sm : AuthData) (reaction : AuthReaction) : Prop where
  kept : Kept ac sm reaction.data
  told : Told ac sm reaction.callbacks
  raised : ∀ event, reaction.raised = some event → event ∈ ac.raises
  notified : ∀ event ∈ reaction.notified, event ∈ ac.notifies

variable {ac : AuthAction} {sm data : AuthData} {event : AuthEvent} {callback : AuthCallback}

theorem Kept.rfl : Kept ac sm sm := ⟨fun _ => Eq.refl _, fun _ => Eq.refl _, fun _ => Eq.refl _, fun _ => Eq.refl _⟩

theorem Told.nothing : Told ac sm [] := ⟨nofun, nofun, nofun⟩

def quiet : AuthCallback → Bool
  | .success _ | .forwardResponse _ | .blocked => false
  | _ => true

theorem Told.of_quiet {told : List AuthCallback} (each : ∀ callback ∈ told, quiet callback = true) :
    Told ac sm told where
  success msg mem := by cases each _ mem
  forwardResponse msg mem := by cases each _ mem
  blocked mem := by cases each _ mem

theorem Kept.raise (kept : Kept ac sm data) (mem : event ∈ ac.raises) : Effect ac sm (raise data event) where
  kept := kept
  told := .nothing
  raised _ same := Option.some.inj same ▸ mem
  notified := nofun

theorem Kept.stop (kept : Kept ac sm data) (silent : quiet callback = true) :
    Effect ac sm (stop data callback) where
  kept := kept
  told := .of_quiet fun _ mem => List.mem_singleton.mp mem ▸ silent
  raised := nofun
  notified := nofun

theorem Kept.wait (kept : Kept ac sm data)
    (empty : ac.takesRx = true ∧ sm.rxQueue = [] ∨ ac = .discard3 ∧ sm.aaaRxQueue = []) :
    Effect ac sm (AuthSwitch.stop data .blocked) where
  kept := kept
  told := {
    success := fun _ mem => by cases List.mem_singleton.mp mem
    forwardResponse := fun _ mem => by cases List.mem_singleton.mp mem
    blocked := fun _ => empty }
  raised := nofun
  notified := nofun

end Effects

section Actions

variable (config : AuthConfig) (sm : AuthData)

theorem acBackendInitialize_effect : Effect .backendInitialize sm (acBackendInitialize config sm) := by
  have kept (id : UInt8) (type : EapType) :
      Kept .backendInitialize sm { sm with currentIdentifier := id, currentMethod := type } :=
    ⟨fun _ => rfl, fun _ => rfl, fun _ => rfl, fun _ => rfl⟩
  unfold acBackendInitialize
  split
  · exact (kept 0 sm.currentMethod).raise (by decide)
  · split
    · exact (kept 0 sm.currentMethod).raise (by decide)
    case isFalse msg _ _ =>
      dsimp only
      split
      · exact (kept msg.identifier sm.currentMethod).stop rfl
      · split
        · exact (kept msg.identifier sm.currentMethod).raise (by decide)
        · apply (kept msg.identifier msg.type).raise
          split <;> decide

theorem acPickUpMethod_effect : Effect .pickUpMethod sm (acPickUpMethod config sm) := by
  unfold acPickUpMethod createMethodStateMachine
  split
  · exact Kept.rfl.stop rfl
  case h_2 type _ =>
    split
    · by_cases registered : config.registered type = true
      · rw [if_pos registered]
        exact Kept.raise ⟨fun _ => rfl, nofun, fun _ => rfl, fun _ => rfl⟩ (by decide)
      · rw [if_neg registered]
        exact Kept.stop ⟨fun _ => rfl, fun _ => rfl, fun _ => rfl, fun _ => rfl⟩ rfl
    · exact Kept.rfl.raise (by decide)

theorem acMethodResponse_effect : Effect .methodResponse sm (acMethodResponse config sm) := by
  unfold acMethodResponse
  split
  · exact Kept.rfl.stop rfl
  · split
    · exact Kept.raise ⟨fun _ => rfl, fun _ => rfl, fun _ => rfl, fun _ => rfl⟩ (by decide)
    · exact Kept.raise ⟨fun _ => rfl, fun _ => rfl, fun _ => rfl, fun _ => rfl⟩ (by decide)

theorem acBuildRequest_effect : Effect .buildRequest sm (acBuildRequest sm) := by
  unfold acBuildRequest
  split
  · exact Kept.rfl.stop rfl
  · dsimp only
    split
    · exact Kept.stop ⟨fun _ => rfl, fun _ => rfl, fun _ => rfl, fun _ => rfl⟩ rfl
    · exact Kept.raise ⟨fun _ => rfl, fun _ => rfl, fun _ => rfl, fun _ => rfl⟩ (by decide)

theorem acSendRequest_effect : Effect .sendRequest sm (acSendRequest sm) where
  kept := ⟨fun _ => rfl, fun _ => rfl, fun _ => rfl, fun _ => rfl⟩
  told := by
    apply Told.of_quiet
    unfold acSendRequest
    dsimp only
    split <;> simp [quiet]
  raised := nofun
  notified _ mem := mem

theorem acDoIntegrityCheck_effect : Effect .doIntegrityCheck sm (acDoIntegrityCheck sm) := by
  unfold acDoIntegrityCheck
  split
  · exact Kept.rfl.stop rfl
  · exact ⟨⟨fun _ => rfl, nofun, fun _ => rfl, fun _ => rfl⟩, .nothing, nofun, nofun⟩

theorem acProposeMethod_effect : Effect .proposeMethod sm (acProposeMethod config sm) := by
  unfold acProposeMethod createMethodStateMachine
  split
  · exact Kept.rfl.stop rfl
  case h_2 type _ =>
    dsimp only
    have quiets : ∀ callback ∈ [AuthCallback.abort, .nullPointer], quiet callback = true := by decide
    by_cases registered : config.registered type = true
    · rw [if_pos registered]
      exact ⟨⟨fun _ => rfl, nofun, fun _ => rfl, fun _ => rfl⟩, .nothing, nofun, nofun⟩
    · rw [if_neg registered]
      exact ⟨⟨fun _ => rfl, nofun, fun _ => rfl, fun _ => rfl⟩, .of_quiet quiets, nofun, nofun⟩

theorem acDoPolicyCheck_effect : Effect .doPolicyCheck sm (acDoPolicyCheck config sm) := by
  unfold acDoPolicyCheck
  split <;> exact Kept.rfl.raise (by decide)

theorem acDiscard2_effect : Effect .discard2 sm (acDiscard2 config sm) := by
  unfold acDiscard2
  dsimp only
  split
  case h_1 empty => exact Kept.wait ⟨fun _ => rfl, fun _ => rfl, fun _ => rfl, fun _ => rfl⟩ (Or.inl ⟨rfl, empty⟩)
  case h_2 =>
    refine ⟨⟨fun _ => rfl, fun _ => rfl, nofun, fun _ => rfl⟩, .nothing, ?_, nofun⟩
    intro event raised
    dsimp only at raised
    split at raised
    · exact Option.some.inj raised ▸ List.mem_singleton_self _
    · cases raised

theorem acDiscard3_effect : Effect .discard3 sm (acDiscard3 sm) := by
  unfold acDiscard3
  split
  case h_1 empty => exact Kept.rfl.wait (Or.inr ⟨rfl, empty⟩)
  case h_2 => exact ⟨⟨fun _ => rfl, fun _ => rfl, fun _ => rfl, nofun⟩, .nothing, nofun, nofun⟩

theorem acResetMethod_effect : Effect .resetMethod sm (acResetMethod config sm) := by
  unfold acResetMethod
  split
  · exact Kept.rfl.stop rfl
  · exact Kept.raise ⟨fun other => absurd rfl other, fun _ => rfl, fun _ => rfl, fun _ => rfl⟩ (by decide)

theorem acRetransmit_effect : Effect .retransmit sm (acRetransmit sm) := by
  unfold acRetransmit
  split
  · refine ⟨⟨fun _ => rfl, fun _ => rfl, fun _ => rfl, fun _ => rfl⟩, .of_quiet ?_, nofun, fun _ mem => mem⟩
    exact fun _ mem => List.mem_singleton.mp mem ▸ rfl
  · have quiets : ∀ callback ∈ [AuthCallback.cancelTimer], quiet callback = true := by decide
    refine ⟨.rfl, .of_quiet quiets, ?_, nofun⟩
    exact fun _ raised => Option.some.inj raised ▸ List.mem_singleton_self _

theorem subAcParseResponse_effect (msg : EapMessage) {taken : AuthData} (kept : Kept .receiveMsg sm taken) :
    Effect .receiveMsg sm (subAcParseResponse config taken msg) := by
  have deleted : Kept .receiveMsg sm { taken with rxMessage := none } :=
    ⟨kept.policy, kept.methodStateMachine, kept.rxQueue, kept.aaaRxQueue⟩
  unfold subAcParseResponse
  dsimp only
  split
  · split
    · exact kept.raise (by decide)
    · exact deleted.raise (by decide)
  · split
    · exact deleted.raise (by decide)
    · exact kept.raise (by decide)

theorem acReceiveMsg_effect : Effect .receiveMsg sm (acReceiveMsg config sm) := by
  unfold acReceiveMsg
  split
  case h_1 empty => exact Kept.rfl.wait (Or.inl ⟨rfl, empty⟩)
  case h_2 msg rest _ =>
    dsimp only
    split
    · exact ⟨⟨fun _ => rfl, fun _ => rfl, nofun, fun _ => rfl⟩, .nothing, nofun, fun _ mem => mem⟩
    · exact subAcParseResponse_effect config sm msg ⟨fun _ => rfl, fun _ => rfl, nofun, fun _ => rfl⟩

theorem acReceiveMsg2_effect : Effect .receiveMsg2 sm (acReceiveMsg2 sm) := by
  unfold acReceiveMsg2
  split
  case h_1 empty => exact Kept.rfl.wait (Or.inl ⟨rfl, empty⟩)
  case h_2 msg rest _ =>
    dsimp only
    split
    · exact ⟨⟨fun _ => rfl, fun _ => rfl, nofun, fun _ => rfl⟩, .nothing, nofun, fun _ mem => mem⟩
    · exact Kept.raise ⟨fun _ => rfl, fun _ => rfl, nofun, fun _ => rfl⟩ (by decide)

theorem acPickUpInitCheck_effect : Effect .pickUpInitCheck sm (acPickUpInitCheck sm) := by
  apply Kept.rfl.raise
  split <;> decide

theorem acDoIntegrityCheck2_effect : Effect .doIntegrityCheck2 sm (acDoIntegrityCheck2 sm) where
  kept := .rfl
  told := {
    success := fun _ mem => by cases List.mem_singleton.mp mem
    forwardResponse := fun _ _ => rfl
    blocked := fun mem => by cases List.mem_singleton.mp mem }
  raised := nofun
  notified := nofun

theorem subAcAaaMessage_effect {ac : AuthAction} (msg : EapMessage) (rest : List EapMessage) (code : UInt8)
    {event : AuthEvent} (takes : ac.takesAaa = true) (raises : .sgDiscard ∈ ac.raises ∧ event ∈ ac.raises) :
    Effect ac sm (subAcAaaMessage sm msg rest code event) := by
  have untaken {p : Prop} (left : ac.takesAaa = false) : p := by
    rw [takes] at left
    cases left
  unfold subAcAaaMessage
  dsimp only
  split
  · exact Kept.raise ⟨fun _ => rfl, fun _ => rfl, fun _ => rfl, untaken⟩ raises.1
  · exact Kept.raise ⟨fun _ => rfl, fun _ => rfl, fun _ => rfl, untaken⟩ raises.2

theorem acAaaContinue_effect : Effect .aaaContinue sm (acAaaContinue sm) := by
  unfold acAaaContinue
  split
  · exact Kept.stop ⟨fun _ => rfl, fun _ => rfl, fun _ => rfl, fun _ => rfl⟩ rfl
  · exact subAcAaaMessage_effect sm _ _ _ rfl (by decide)

theorem acAaaSuccess_effect : Effect .aaaSuccess sm (acAaaSuccess sm) := by
  unfold acAaaSuccess
  split
  · exact Kept.raise ⟨fun _ => rfl, fun _ => rfl, fun _ => rfl, fun _ => rfl⟩ (by decide)
  · exact subAcAaaMessage_effect sm _ _ _ rfl (by decide)

theorem acAaaFailure_effect : Effect .aaaFailure sm (acAaaFailure sm) := by
  unfold acAaaFailure
  split
  · exact Kept.raise ⟨fun _ => rfl, fun _ => rfl, fun _ => rfl, fun _ => rfl⟩ (by decide)
  · exact subAcAaaMessage_effect sm _ _ _ rfl (by decide)

theorem succeed_effect {ac : AuthAction} {data : AuthData} (msg : Option AuthMessage)
    (ends : ac = .sendSuccess ∨ ac = .completePassThroughWithSuccess) (kept : Kept ac sm data) :
    Effect ac sm (succeed data msg) where
  kept := ⟨kept.policy, kept.methodStateMachine, kept.rxQueue, kept.aaaRxQueue⟩
  told := ⟨fun _ _ => ends, fun _ mem => by simp [succeed] at mem, fun mem => by simp [succeed] at mem⟩
  raised := nofun
  notified := nofun

theorem fail_effect {ac : AuthAction} {data : AuthData} (msg : Option AuthMessage) (kept : Kept ac sm data) :
    Effect ac sm (fail data msg) where
  kept := ⟨kept.policy, kept.methodStateMachine, kept.rxQueue, kept.aaaRxQueue⟩
  told := .of_quiet fun _ mem => by
    rcases List.mem_cons.mp mem with rfl | later
    · rfl
    · exact List.mem_singleton.mp later ▸ rfl
  raised := nofun
  notified := nofun

theorem perform_effect (ac : AuthAction) : Effect ac sm (perform config sm ac) := by
  cases ac with
  | null => exact ⟨.rfl, .nothing, nofun, nofun⟩
  | acDisable => exact Kept.rfl.raise (by decide)
  | acInitialize => exact Kept.raise ⟨fun _ => rfl, fun _ => rfl, fun _ => rfl, fun _ => rfl⟩ (by decide)
  | backendInitialize => exact acBackendInitialize_effect config sm
  | pickUpMethod => exact acPickUpMethod_effect config sm
  | sendSuccess => exact succeed_effect sm _ (Or.inl rfl) .rfl
  | sendFailure => exact fail_effect sm _ .rfl
  | methodResponse => exact acMethodResponse_effect config sm
  | buildRequest => exact acBuildRequest_effect sm
  | sendRequest => exact acSendRequest_effect sm
  | doIntegrityCheck => exact acDoIntegrityCheck_effect sm
  | proposeMethod => exact acProposeMethod_effect config sm
  | doPolicyCheck => exact acDoPolicyCheck_effect config sm
  | discard => exact Kept.raise ⟨fun _ => rfl, fun _ => rfl, fun _ => rfl, fun _ => rfl⟩ (by decide)
  | discard2 => exact acDiscard2_effect config sm
  | discard3 => exact acDiscard3_effect sm
  | resetMethod => exact acResetMethod_effect config sm
  | retransmit => exact acRetransmit_effect sm
  | receiveMsg => exact acReceiveMsg_effect config sm
  | receiveMsg2 => exact acReceiveMsg2_effect sm
  | pickUpInitCheck => exact acPickUpInitCheck_effect sm
  | aaaRequest | prepareRequest => exact Kept.rfl.raise (by decide)
  | doIntegrityCheck2 => exact acDoIntegrityCheck2_effect sm
  | aaaContinue => exact acAaaContinue_effect sm
  | aaaSuccess => exact acAaaSuccess_effect sm
  | aaaFailure => exact acAaaFailure_effect sm
  | completePassThroughWithSuccess =>
    exact succeed_effect sm _ (Or.inr rfl) ⟨fun _ => rfl, fun _ => rfl, fun _ => rfl, fun _ => rfl⟩
  | completePassThroughWithFailure =>
    exact fail_effect sm _ ⟨fun _ => rfl, fun _ => rfl, fun _ => rfl, fun _ => rfl⟩

end Actions

end AuthSwitch

end OpenDiameter.Eap
