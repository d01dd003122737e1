import OpenDiameter.Eap.PeerQueue
import OpenDiameter.Eap.PeerSuccess

/-! Requests that a peer receives again.

The identifier of the last request is noted with a response of a method, of an identity or
a notification, but not with a `Nak`, and no start of the switch forgets it.
-/

set_option autoImplicit false

namespace OpenDiameter.Eap.PeerSwitch

open Foundation OpenDiameter.Framework

section Conversations

variable (config : PeerConfig)

/-- The request that the next call of `Event` takes. -/
def requested (machine : Machine) : Option EapMessage :=
  if (program config).acting machine = some .receiveMsg then
    machine.data.rxQueue.head?.filter fun msg => msg.code = codeRequest
  else none

def sending (told : List PeerCallback) : Option TxMessage :=
  told.findSome? fun
    | .send msg => msg
    | _ => none

/-- A switch with what it took and answered since its last `Start`. -/
structure Conversation where
  machine : Machine
  taken : Option UInt8 := none
  answered : Option (UInt8 × TxMessage) := none
  settled : Bool := false

namespace Conversation

variable (c : Conversation)

/-- A call of `Event` that takes no request. -/
def respond : Conversation :=
  match c.taken, sending (callbacks config c.machine .handle) with
  | some identifier, some response =>
    { machine := take config c.machine .handle
      taken := some identifier
      answered := some (identifier, response)
      settled := true }
  | _, _ => { c with machine := take config c.machine .handle }

def take (input : Input) : Conversation :=
  match input with
  | .start => { machine := PeerSwitch.take config c.machine .start }
  | .handle =>
    match requested config c.machine with
    | some msg =>
      { machine := PeerSwitch.take config c.machine .handle
        taken := some msg.identifier
        answered := c.answered
        settled := false }
    | none => c.respond config
  | input => { c with machine := PeerSwitch.take config c.machine input }

end Conversation

/-- Three calls of `Event`. -/
def settle (machine : Machine) : Machine × List PeerCallback :=
  let first := (program config).handle machine
  let second := (program config).handle first.1
  let third := (program config).handle second.1
  (third.1, first.2 ++ second.2 ++ third.2)

/-- The method and what the switch knows of the conversation are the same. -/
structure SameHistory (sm data : PeerData) : Prop where
  methodStateMachine : data.methodStateMachine = sm.methodStateMachine
  methodState : data.methodState = sm.methodState
  decision : data.decision = sm.decision
  policy : data.policy = sm.policy
  currentMethod : data.currentMethod = sm.currentMethod
  keyData : data.keyData = sm.keyData
  keyAvailable : data.keyAvailable = sm.keyAvailable
  txMessage : data.txMessage = sm.txMessage
  lastIdentifier : data.lastIdentifier = sm.lastIdentifier
  lastIdValidity : data.lastIdValidity = sm.lastIdValidity

def Idempotent (c : Conversation) : Input → Prop
  | .handle => ∀ msg ∈ requested config c.machine,
    (∀ answer ∈ c.answered, answer.1 = msg.identifier → c.settled = true →
      (settle config c.machine).2 = [.send (some answer.2)] ∧
        SameHistory c.machine.data (settle config c.machine).1.data) ∧
    ((∀ answer ∈ c.answered, answer.1 ≠ msg.identifier) →
      (program config).handle c.machine = (program config).handle
        { c.machine with data := { c.machine.data with receivedFirstRequest := false } })
  | _ => True

def Distinguishes (c : Conversation) : Input → Prop
  | .handle => ∀ msg ∈ requested config c.machine,
    (∀ answer ∈ c.answered, answer.1 = msg.identifier → c.settled = true →
      c.machine.state = .idle ∧ (c.machine.data.lastIdentifier = msg.identifier ∨
        msg.type ≠ { type := 1 } ∧ c.machine.data.policy.allow config.heap msg.type = false)) ∧
    ((∀ answer ∈ c.answered, answer.1 ≠ msg.identifier) →
      c.machine.data.receivedFirstRequest = true → c.machine.data.lastIdentifier ≠ msg.identifier)
  | .method turn => c.settled = true → turn.txMessage = none
  | _ => True

end Conversations

section Rows

def processes : PeerState → Option PeerEvent → Bool
  | .identity, _ | .notification, _ | .getMethod, _ | .method, _ => true
  | .received, some event => event ∈ [.rxNotification, .rxIdentity, .sgNewMethod, .sgContMethod]
  | _, _ => false

def repeats (state : PeerState) (event : Option PeerEvent) : Bool :=
  state == .received && event == some .sgRetransmit

def harmless : PeerAction → Bool
  | .null | .acInitialize | .checkTimeoutCondition | .sendSuccess | .sendFailure | .discard | .startTimer
  | .checkRxQueue | .receiveMsg => true
  | _ => false

theorem processing_rows : ∀ row ∈ peerSwitchStateTable,
    (row.nextState = .received → row.action = .receiveMsg ∧ row.prevState = .idle) ∧
      (row.nextState ≠ .received → processes row.nextState none = true → processes row.prevState row.event = true) ∧
      (harmless row.action = false →
        processes row.prevState row.event = true ∨ repeats row.prevState row.event = true) ∧
      (row.action = .receiveMsg → row.event = some .rxMsg ∧ processes row.nextState none = false) := by
  decide +kernel

theorem answering_rows : ∀ row ∈ peerSwitchStateTable,
    (row.action = .buildResp ∨ row.action = .buildNak → row.nextState = .sendResponse ∧
        processes row.prevState row.event = true) ∧
      (row.action = .buildNak → row.prevState = .getMethod ∧ row.event = some .sgNoEnterMethod) ∧
      (row.action = .retransmit → row.nextState = .retransmit ∧ repeats row.prevState row.event = true) ∧
      (row.action = .doPolicyCheck → row.prevState = .received ∧ row.event = some .sgNewMethod) ∧
      (row.nextState = .getMethod → row.action = .doPolicyCheck ∨ row.action = .null) := by
  decide +kernel

end Rows

section Receiving

variable (sm : PeerData)

/-- What responses are made of and recognized by. -/
structure SameAnswer (sm data : PeerData) : Prop where
  txMessage : data.txMessage = sm.txMessage
  receivedFirstRequest : data.receivedFirstRequest = sm.receivedFirstRequest
  lastIdValidity : data.lastIdValidity = sm.lastIdValidity
  lastIdentifier : data.lastIdentifier = sm.lastIdentifier
  currentIdentifier : data.currentIdentifier = sm.currentIdentifier
  currentMethod : data.currentMethod = sm.currentMethod
  policy : data.policy = sm.policy

theorem SameAnswer.rfl : SameAnswer sm sm :=
  ⟨Eq.refl _, Eq.refl _, Eq.refl _, Eq.refl _, Eq.refl _, Eq.refl _, Eq.refl _⟩

theorem parses (msg : EapMessage) : ∃ data event, subAcParseRequest sm msg = raise data event ∧
    data.currentIdentifier = sm.currentIdentifier ∧ data.receivedFirstRequest = sm.receivedFirstRequest ∧
      event ≠ .sgRetransmit ∧ event ≠ .sgNoEnterMethod ∧ (event = .sgNewMethod → data.currentMethod = { type := 0 }) := by
  unfold subAcParseRequest
  dsimp only
  split
  · split
    · exact ⟨_, _, rfl, rfl, rfl, nofun, nofun, nofun⟩
    · exact ⟨_, _, rfl, rfl, rfl, nofun, nofun, nofun⟩
  · split
    · exact ⟨_, _, rfl, rfl, rfl, nofun, nofun, nofun⟩
    · split
      case isTrue none => exact ⟨_, _, rfl, rfl, rfl, nofun, nofun, fun _ => none⟩
      case isFalse =>
        split
        · exact ⟨_, _, rfl, rfl, rfl, nofun, nofun, nofun⟩
        · exact ⟨_, _, rfl, rfl, rfl, nofun, nofun, nofun⟩

inductive Receives (msg : EapMessage) (rest : List EapMessage) : PeerReaction → Prop
  | other (data : PeerData) (event : PeerEvent) (code : msg.code ≠ codeRequest) (same : SameAnswer sm data)
      (plain : event = .evElse ∨ event = .sgSuccess ∨ event = .sgFailure) : Receives msg rest (raise data event)
  | duplicate (code : msg.code = codeRequest) (received : sm.receivedFirstRequest = true)
      (noted : msg.identifier = sm.lastIdentifier) :
      Receives msg rest (raise { sm with rxQueue := rest, rxMessage := some msg }
        (if sm.lastIdValidity then .sgRetransmit else .evElse))
  | fresh (code : msg.code = codeRequest) (unnoted : ¬(sm.receivedFirstRequest = true ∧ msg.identifier = sm.lastIdentifier)) :
      Receives msg rest (subAcParseRequest
        { sm with
          rxQueue := rest
          rxMessage := some msg
          currentIdentifier := msg.identifier
          receivedFirstRequest := true } msg)

theorem receives {msg : EapMessage} {rest : List EapMessage} (queue : sm.rxQueue = msg :: rest) :
    Receives sm msg rest (acReceiveMsg sm) := by
  have same : SameAnswer sm { sm with rxQueue := rest, rxMessage := some msg } := ⟨rfl, rfl, rfl, rfl, rfl, rfl, rfl⟩
  unfold acReceiveMsg
  rw [queue]
  dsimp only
  split
  case isTrue strange => exact .other _ _ strange.1 same (Or.inl rfl)
  case isFalse =>
    split
    case isTrue code =>
      split
      case isTrue noted =>
        have duplicate : Receives sm msg rest (raise { sm with rxQueue := rest, rxMessage := some msg }
            (if sm.lastIdValidity then .sgRetransmit else .evElse)) := .duplicate code noted.1 noted.2
        split
        case isTrue valid => rwa [if_pos valid] at duplicate
        case isFalse invalid => rwa [if_neg invalid] at duplicate
      case isFalse unnoted => exact .fresh code unnoted
    case isFalse code =>
      split
      · unfold subAcCheckSuccessCondition
        split
        · exact .other _ _ code same (Or.inr (Or.inl rfl))
        · split
          · exact .other _ _ code same (Or.inr (Or.inr rfl))
          · exact .other _ _ code same (Or.inl rfl)
      · unfold subAcCheckFailureCondition
        split
        · exact .other _ _ code same (Or.inr (Or.inr rfl))
        · exact .other _ _ code same (Or.inl rfl)

end Receiving

section Actions

variable (config : PeerConfig) (sm : PeerData)

theorem identifier_perform {ac : PeerAction} (other : ac ≠ .receiveMsg) :
    (perform config sm ac).data.currentIdentifier = sm.currentIdentifier ∧
      (perform config sm ac).data.receivedFirstRequest = sm.receivedFirstRequest := by
  -- A new method does not matter either.
  have deleted (sm : PeerData) : (deleteMethodStateMachine sm).currentIdentifier = sm.currentIdentifier ∧
      (deleteMethodStateMachine sm).receivedFirstRequest = sm.receivedFirstRequest := by
    unfold deleteMethodStateMachine
    split <;> exact ⟨rfl, rfl⟩
  cases ac with
  | receiveMsg => exact absurd rfl other
  | buildResp =>
    unfold perform acBuildResp
    cases sm.txMessage with
    | none => exact ⟨rfl, rfl⟩
    | some msg =>
      dsimp only
      split
      · exact ⟨rfl, rfl⟩
      · split
        · exact ⟨rfl, rfl⟩
        · unfold subAcSendResp
          dsimp only
          split <;> exact ⟨rfl, rfl⟩
  | doPolicyCheck =>
    unfold perform acDoPolicyCheck
    dsimp only
    generalize (if sm.reqMethod = { type := 1 } then sm.currentMethod == { type := 0 }
      else sm.policy.allow config.heap sm.reqMethod) = allowMethod
    have same := deleted { sm with currentMethod := sm.reqMethod }
    cases allowMethod with
    | false => exact ⟨rfl, rfl⟩
    | true =>
      rw [if_pos rfl]
      split
      · exact ⟨same.1, same.2⟩
      · exact ⟨same.1, same.2⟩
  | checkTimeoutCondition => simp only [perform, acCheckTimeoutCondition]; split <;> exact ⟨rfl, rfl⟩
  | doIntegrityCheck => simp only [perform, acDoIntegrityCheck]; split <;> exact ⟨rfl, rfl⟩
  | parseNotification =>
    simp only [perform, acParseNotification]
    split
    · exact ⟨rfl, rfl⟩
    · split <;> exact ⟨rfl, rfl⟩
  | parseIdentity =>
    simp only [perform, acParseIdentity]
    split
    · exact ⟨rfl, rfl⟩
    · split
      · split <;> exact ⟨rfl, rfl⟩
      · exact ⟨rfl, rfl⟩
  | buildIdentity => simp only [perform, acBuildIdentity]; split <;> exact ⟨rfl, rfl⟩
  | checkRxQueue => simp only [perform, acCheckRxQueue]; split <;> exact ⟨rfl, rfl⟩
  | checkIdentity => simp only [perform, acCheckIdentity]; split <;> exact ⟨rfl, rfl⟩
  | null | acInitialize | retransmit | sendSuccess | sendFailure | discard | buildNak | buildNotification
  | startTimer => exact ⟨rfl, rfl⟩

theorem harmless_perform {ac : PeerAction} (safe : harmless ac = true) (other : ac ≠ .receiveMsg) :
    SameAnswer sm (perform config sm ac).data ∧ sending (perform config sm ac).callbacks = none := by
  cases ac with
  | receiveMsg => exact absurd rfl other
  | checkTimeoutCondition => simp only [perform, acCheckTimeoutCondition]; split <;> exact ⟨.rfl _, rfl⟩
  | checkRxQueue => simp only [perform, acCheckRxQueue]; split <;> exact ⟨.rfl _, rfl⟩
  | null | acInitialize | sendSuccess | sendFailure | discard | startTimer =>
    exact ⟨⟨rfl, rfl, rfl, rfl, rfl, rfl, rfl⟩, rfl⟩
  | retransmit | buildResp | doIntegrityCheck | doPolicyCheck | buildNak | parseNotification | buildNotification
  | parseIdentity | buildIdentity | checkIdentity => cases safe

theorem policy_refuses (raised : (acDoPolicyCheck config sm).raised = some .sgNoEnterMethod) :
    (acDoPolicyCheck config sm).data = sm := by
  unfold acDoPolicyCheck at raised ⊢
  dsimp only at raised ⊢
  generalize (if sm.reqMethod = { type := 1 } then sm.currentMethod == { type := 0 }
    else sm.policy.allow config.heap sm.reqMethod) = allowMethod at raised ⊢
  cases allowMethod with
  | false => rfl
  | true =>
    rw [if_pos rfl] at raised
    split at raised <;> cases raised

theorem sending_send (msg : Option TxMessage) : sending [.send msg] = msg := by
  cases msg <;> rfl

theorem sending_perform {ac : PeerAction} {response : TxMessage}
    (sends : sending (perform config sm ac).callbacks = some response) :
    ac = .retransmit ∧ sm.txMessage = some response ∨
      ac = .buildResp ∧ (perform config sm ac).data.txMessage = some response ∧
        (perform config sm ac).data.lastIdentifier = sm.currentIdentifier ∧
          (perform config sm ac).data.lastIdValidity = true ∨
      ac = .buildNak ∧ response =
        ⟨.nak (sm.policy.makeTypeList config.heap sm.currentMethod.isVSE), some sm.currentIdentifier⟩ := by
  -- Three actions send, and the others are shown not to.
  cases ac with
  | retransmit => exact Or.inl ⟨rfl, (sending_send sm.txMessage).symm.trans sends⟩
  | buildNak =>
    refine Or.inr (Or.inr ⟨rfl, ?_⟩)
    cases sends
    rfl
  -- The message is sent whether the method is there or not, with a key or without one.
  | buildResp =>
    refine Or.inr (Or.inl ⟨rfl, ?_⟩)
    unfold perform acBuildResp at sends ⊢
    cases kept : sm.txMessage with
    | none =>
      rw [kept] at sends
      cases sends
    | some msg =>
      rw [kept] at sends
      dsimp only at sends ⊢
      split
      case isTrue idle =>
        rw [if_pos idle] at sends
        exact ⟨sends, rfl, rfl⟩
      case isFalse busy =>
        rw [if_neg busy] at sends
        cases method : sm.methodStateMachine with
        | none =>
          rw [method] at sends
          cases sends
        | some msm =>
          rw [method] at sends
          dsimp only at sends ⊢
          split at sends
          case isTrue keyless =>
            rw [if_pos keyless]
            exact ⟨sends, rfl, rfl⟩
          case isFalse keyed =>
            rw [if_neg keyed]
            exact ⟨sends, rfl, rfl⟩
  | doPolicyCheck =>
    unfold perform acDoPolicyCheck at sends
    dsimp only at sends
    generalize (if sm.reqMethod = { type := 1 } then sm.currentMethod == { type := 0 }
      else sm.policy.allow config.heap sm.reqMethod) = allowMethod at sends
    cases allowMethod with
    | false => cases sends
    | true =>
      rw [if_pos rfl] at sends
      split at sends <;> cases sends
  -- Receiving sends nothing: a duplicate is retransmitted by an action of its own.
  | receiveMsg =>
    change sending (acReceiveMsg sm).callbacks = _ at sends
    cases queue : sm.rxQueue with
    | nil =>
      rw [acReceiveMsg_nil sm queue] at sends
      cases sends
    | cons msg rest =>
      have how := receives sm queue
      generalize acReceiveMsg sm = reaction at how sends
      cases how with
      | other => cases sends
      | duplicate => cases sends
      | fresh =>
        obtain ⟨data, event, same, _⟩ := parses
          { sm with
            rxQueue := rest
            rxMessage := some msg
            currentIdentifier := msg.identifier
            receivedFirstRequest := true } msg
        rw [same] at sends
        cases sends
  | checkTimeoutCondition | doIntegrityCheck | buildIdentity | checkRxQueue | checkIdentity =>
    simp only [perform, acCheckTimeoutCondition, acDoIntegrityCheck, acBuildIdentity, acCheckRxQueue, acCheckIdentity] at sends
    split at sends <;> cases sends
  | parseNotification =>
    simp only [perform, acParseNotification] at sends
    split at sends
    · cases sends
    · split at sends <;> cases sends
  | parseIdentity =>
    simp only [perform, acParseIdentity] at sends
    split at sends
    · cases sends
    · split at sends
      · split at sends <;> cases sends
      · cases sends
  | null | acInitialize | sendSuccess | sendFailure | discard | buildNotification | startTimer => cases sends

end Actions

section Invariant

variable {config : PeerConfig} {c : Conversation} {machine : Machine}

/-- Events that no queue holds: those that decide about a request. -/
def decides (event : PeerEvent) : Bool :=
  event ∈ [.rxNotification, .rxIdentity, .sgNewMethod, .sgContMethod, .sgRetransmit, .sgNoEnterMethod]

structure Noted (config : PeerConfig) (sm : PeerData) (identifier : UInt8) (response : TxMessage) : Prop where
  txMessage : sm.txMessage = some response
  receivedFirstRequest : sm.receivedFirstRequest = true
  lastIdValidity : sm.lastIdValidity = true
  again : sm.lastIdentifier = identifier ∨
    sm.currentMethod = { type := 0 } ∧
      response = ⟨.nak (sm.policy.makeTypeList config.heap sm.currentMethod.isVSE), some identifier⟩

structure Remembers (config : PeerConfig) (c : Conversation) : Prop where
  events : ∀ event ∈ c.machine.events, decides event = false
  processing : processes c.machine.state c.machine.raised = true → ∀ identifier ∈ c.taken,
    c.machine.data.currentIdentifier = identifier ∧ c.machine.data.receivedFirstRequest = true
  repeating : repeats c.machine.state c.machine.raised = true →
    c.machine.data.receivedFirstRequest = true ∧ c.machine.data.lastIdValidity = true ∧
      ∀ identifier ∈ c.taken, c.machine.data.lastIdentifier = identifier
  methodless : c.machine.state = .received ∧ c.machine.raised = some .sgNewMethod ∨
      c.machine.state = .getMethod ∧ c.machine.raised = some .sgNoEnterMethod →
    c.machine.data.currentMethod = { type := 0 }
  settled : c.settled = true → processes c.machine.state c.machine.raised = false ∧
    repeats c.machine.state c.machine.raised = false ∧
      ∃ answer ∈ c.answered, Noted config c.machine.data answer.1 answer.2

theorem Noted.of_same {sm data : PeerData} {identifier : UInt8} {response : TxMessage}
    (noted : Noted config sm identifier response) (same : SameAnswer sm data) :
    Noted config data identifier response where
  txMessage := same.txMessage.trans noted.txMessage
  receivedFirstRequest := same.receivedFirstRequest.trans noted.receivedFirstRequest
  lastIdValidity := same.lastIdValidity.trans noted.lastIdValidity
  again := by
    rw [same.lastIdentifier, same.currentMethod, same.policy]
    exact noted.again

theorem processes_of_none {state : PeerState} (event : Option PeerEvent) (processing : processes state none = true) :
    processes state event = true := by
  cases state with
  | identity | notification | getMethod | method => rfl
  | disabled | stInitialize | idle | received | discard | retransmit | sendResponse | success | failure => cases processing

theorem processes_of_other {state : PeerState} (other : state ≠ .received) (event : Option PeerEvent)
    (processing : processes state event = true) : processes state none = true := by
  cases state with
  | identity | notification | getMethod | method => rfl
  | received => exact absurd rfl other
  | disabled | stInitialize | idle | discard | retransmit | sendResponse | success | failure => cases processing

theorem processes_of_row {event : PeerEvent} {row : StateTableEntry PeerState PeerEvent PeerAction}
    (takes : (program config).Takes machine event row) (processing : processes row.prevState row.event = true) :
    processes machine.state machine.raised = true := by
  rw [takes.prevState] at processing
  rw [takes.raised]
  rcases takes.named with wild | exactly
  · rw [wild] at processing
    exact processes_of_none _ processing
  · rwa [exactly] at processing

theorem repeats_of_row {event : PeerEvent} {row : StateTableEntry PeerState PeerEvent PeerAction}
    (takes : (program config).Takes machine event row) (repeating : repeats row.prevState row.event = true) :
    repeats machine.state machine.raised = true := by
  rw [takes.prevState] at repeating
  rw [takes.raised]
  rcases takes.named with wild | exactly
  · rw [wild] at repeating
    simp [repeats] at repeating
  · rwa [exactly] at repeating

theorem takes_of_requested {msg : EapMessage} (requests : requested config machine = some msg) :
    msg.code = codeRequest ∧ ∃ rest row, machine.data.rxQueue = msg :: rest ∧
      (program config).Takes machine .rxMsg row ∧ row.action = .receiveMsg := by
  unfold requested at requests
  split at requests
  case isFalse => cases requests
  case isTrue acts =>
    obtain ⟨head, code⟩ := Option.filter_eq_some_iff.mp requests
    obtain ⟨event, row, takes, action⟩ := MachineProgram.takes_of_acting acts
    have message := takes.event_eq (receiveMsg_rows row takes.mem action).1
    obtain ⟨rest, queue⟩ := List.head?_eq_some_iff.mp head
    exact ⟨of_decide_eq_true code, rest, row, queue, message ▸ takes, action⟩

theorem Remembers.requests (remembers : Remembers config c) {msg : EapMessage}
    (requests : requested config c.machine = some msg) : Remembers config (c.take config .handle) := by
  obtain ⟨code, rest, row, queue, takes, action⟩ := takes_of_requested requests
  obtain ⟨_, _, _, quiet⟩ := processing_rows row takes.mem
  obtain ⟨_, _, _, _, policies⟩ := answering_rows row takes.mem
  have unprocessed := (quiet action).2
  have received {event : PeerEvent} (processing : processes row.nextState (some event) = true) :
      row.nextState = .received := by
    by_contra other
    rw [processes_of_other other _ processing] at unprocessed
    cases unprocessed
  have unpoliced : row.nextState ≠ .getMethod := by
    intro next
    rcases policies next with policy | null
    · rw [action] at policy
      cases policy
    · rw [action] at null
      cases null
  have how := receives c.machine.data queue
  have handled : (program config).handle c.machine = (c.machine.react row.nextState (acReceiveMsg c.machine.data),
      (acReceiveMsg c.machine.data).callbacks) := by
    rw [takes.handle, action]
    rfl
  unfold Conversation.take PeerSwitch.take
  dsimp only
  rw [requests, handled]
  dsimp only
  generalize acReceiveMsg c.machine.data = reaction at how
  -- A request is a duplicate of the one that was answered last, or fresh.
  cases how with
  | other data event other => exact absurd code other
  | duplicate _ seen noted =>
    have events : ∀ event ∈ c.machine.events ++ [], decides event = false := by
      rw [List.append_nil]
      exact remembers.events
    cases valid : c.machine.data.lastIdValidity with
    -- Nothing was answered yet: the identifier is not valid.
    | false =>
      simp only [Bool.false_eq_true, if_false]
      refine ⟨events, fun processing => ?_, fun repeating => ?_, fun methodless => ?_, nofun⟩
      · cases received processing ▸ processing
      · simp [EventMachine.react, raise, repeats] at repeating
      · rcases methodless with ⟨_, raised⟩ | ⟨_, raised⟩ <;> cases raised
    | true =>
      simp only [if_true]
      refine ⟨events, fun processing => ?_, fun repeating => ⟨seen, rfl, ?_⟩, fun methodless => ?_, nofun⟩
      · cases received processing ▸ processing
      · intro identifier same
        cases same
        exact noted.symm
      · rcases methodless with ⟨_, raised⟩ | ⟨_, raised⟩ <;> cases raised
  | fresh _ unnoted =>
    obtain ⟨data, event, parsed, identifier, seen, single, entered, methodless⟩ := parses
      { c.machine.data with
        rxQueue := rest
        rxMessage := some msg
        currentIdentifier := msg.identifier
        receivedFirstRequest := true } msg
    rw [parsed]
    refine ⟨?_, fun processing => ?_, fun repeating => ?_, fun new => ?_, nofun⟩
    · show ∀ event ∈ c.machine.events ++ [], decides event = false
      rw [List.append_nil]
      exact remembers.events
    · intro other same
      cases same
      exact ⟨identifier, seen⟩
    · have retransmits : (some event == some PeerEvent.sgRetransmit) = true := (Bool.and_eq_true_iff.mp repeating).2
      exact absurd (Option.some.inj (eq_of_beq retransmits)) single
    · rcases new with ⟨_, raised⟩ | ⟨state, _⟩
      · exact methodless (Option.some.inj raised)
      · exact absurd state unpoliced

theorem Remembers.noted (remembers : Remembers config c) {event : PeerEvent}
    {row : StateTableEntry PeerState PeerEvent PeerAction} (takes : (program config).Takes c.machine event row)
    {identifier : UInt8} {response : TxMessage} (taken : c.taken = some identifier)
    (sends : sending (perform config c.machine.data row.action).callbacks = some response) :
    processes row.nextState none = false ∧ row.nextState ≠ .received ∧
      Noted config (perform config c.machine.data row.action).data identifier response := by
  obtain ⟨responds, naks, repeated, _⟩ := answering_rows row takes.mem
  rcases sending_perform config c.machine.data sends with ⟨action, kept⟩ | ⟨action, kept, last, valid⟩ | ⟨action, same⟩
  · obtain ⟨next, again⟩ := repeated action
    obtain ⟨seen, valid, last⟩ := remembers.repeating (repeats_of_row takes again)
    rw [next, action]
    exact ⟨rfl, nofun, kept, seen, valid, Or.inl (last identifier taken)⟩
  · obtain ⟨next, processing⟩ := responds (Or.inl action)
    obtain ⟨current, seen⟩ := remembers.processing (processes_of_row takes processing) identifier taken
    have other : row.action ≠ .receiveMsg := by
      rw [action]
      exact nofun
    have keeps := identifier_perform config c.machine.data other
    rw [next]
    exact ⟨rfl, nofun, kept, keeps.2.trans seen, valid, Or.inl (last.trans current)⟩
  · obtain ⟨next, processing⟩ := responds (Or.inr action)
    obtain ⟨current, seen⟩ := remembers.processing (processes_of_row takes processing) identifier taken
    obtain ⟨state, named⟩ := naks action
    have methodless := remembers.methodless
      (Or.inr ⟨takes.prevState ▸ state, takes.raised_named named⟩)
    rw [next, action]
    rw [current] at same
    refine ⟨rfl, nofun, ?_, seen, rfl, Or.inr ⟨methodless, same⟩⟩
    rw [same, ← current]
    rfl

theorem unrequested_receiveMsg {event : PeerEvent} {row : StateTableEntry PeerState PeerEvent PeerAction}
    (takes : (program config).Takes machine event row) (action : row.action = .receiveMsg)
    (requests : requested config machine = none) :
    SameAnswer machine.data (acReceiveMsg machine.data).data ∧ sending (acReceiveMsg machine.data).callbacks = none ∧
      (acReceiveMsg machine.data).notified = [] ∧
        ∀ event, (acReceiveMsg machine.data).raised = some event →
          event = .evElse ∨ event = .sgSuccess ∨ event = .sgFailure := by
  cases queue : machine.data.rxQueue with
  | nil =>
    rw [acReceiveMsg_nil machine.data queue]
    exact ⟨.rfl _, rfl, rfl, nofun⟩
  | cons msg rest =>
    have code : msg.code ≠ codeRequest := by
      intro request
      unfold requested at requests
      rw [takes.acting, action, if_pos rfl, queue, List.head?_cons, Option.filter_some,
        if_pos (decide_eq_true request)] at requests
      cases requests
    have how := receives machine.data queue
    generalize acReceiveMsg machine.data = reaction at how
    cases how with
    | duplicate request => exact absurd request code
    | fresh request => exact absurd request code
    | other data event _ same plain =>
      refine ⟨same, rfl, rfl, ?_⟩
      intro other raised
      cases raised
      exact plain

theorem Remembers.responds (remembers : Remembers config c) {event : PeerEvent}
    {row : StateTableEntry PeerState PeerEvent PeerAction} (takes : (program config).Takes c.machine event row)
    (requests : requested config c.machine = none) : Remembers config (c.take config .handle) := by
  obtain ⟨receiving, processed, dangerous, quiet⟩ := processing_rows row takes.mem
  obtain ⟨_, _, _, checks, policies⟩ := answering_rows row takes.mem
  have performs := performed config c.machine.data row.action
  have told : callbacks config c.machine .handle = (perform config c.machine.data row.action).callbacks := by
    show ((program config).handle c.machine).2 = _
    rw [takes.handle]
    rfl
  have taken : PeerSwitch.take config c.machine .handle =
      c.machine.react row.nextState (perform config c.machine.data row.action) := by
    show ((program config).handle c.machine).1 = _
    rw [takes.handle]
    rfl
  have events : ∀ event ∈ c.machine.events ++ (perform config c.machine.data row.action).notified,
      decides event = false := by
    intro event mem
    rcases List.mem_append.mp mem with waiting | new
    · exact remembers.events event waiting
    · rcases performs.notified event new with rfl | rfl <;> rfl
  -- What happens to the switch, whether it sends a response or not.
  have before (next : processes row.nextState (perform config c.machine.data row.action).raised = true) :
      processes c.machine.state c.machine.raised = true ∧ row.action ≠ .receiveMsg := by
    by_cases received : row.nextState = .received
    · obtain ⟨action, _⟩ := receiving received
      have plain := (unrequested_receiveMsg takes action requests).2.2.2
      rw [action] at next
      change processes row.nextState (acReceiveMsg c.machine.data).raised = true at next
      rw [received] at next
      cases raised : (acReceiveMsg c.machine.data).raised with
      | none =>
        rw [raised] at next
        cases next
      | some event =>
        rw [raised] at next
        rcases plain event raised with rfl | rfl | rfl <;> cases next
    · have unnamed := processes_of_other received _ next
      refine ⟨processes_of_row takes (processed received unnamed), ?_⟩
      intro action
      rw [(quiet action).2] at unnamed
      cases unnamed
  have unrepeated : repeats row.nextState (perform config c.machine.data row.action).raised = false := by
    apply Bool.eq_false_iff.mpr
    intro again
    obtain ⟨state, raised⟩ := Bool.and_eq_true_iff.mp again
    obtain ⟨action, _⟩ := receiving (eq_of_beq state)
    rw [action] at raised
    have plain := (unrequested_receiveMsg takes action requests).2.2.2 _ (eq_of_beq raised)
    rcases plain with same | same | same <;> cases same
  have processing (next : processes row.nextState (perform config c.machine.data row.action).raised = true) :
      ∀ identifier ∈ c.taken, (perform config c.machine.data row.action).data.currentIdentifier = identifier ∧
        (perform config c.machine.data row.action).data.receivedFirstRequest = true := by
    obtain ⟨earlier, other⟩ := before next
    intro identifier same
    obtain ⟨current, seen⟩ := remembers.processing earlier identifier same
    have keeps := identifier_perform config c.machine.data other
    exact ⟨keeps.1.trans current, keeps.2.trans seen⟩
  have methodless (new : row.nextState = .received ∧ (perform config c.machine.data row.action).raised = some .sgNewMethod ∨
      row.nextState = .getMethod ∧ (perform config c.machine.data row.action).raised = some .sgNoEnterMethod) :
      (perform config c.machine.data row.action).data.currentMethod = { type := 0 } := by
    rcases new with ⟨received, raised⟩ | ⟨next, raised⟩
    · obtain ⟨action, _⟩ := receiving received
      rw [action] at raised
      have plain := (unrequested_receiveMsg takes action requests).2.2.2 _ raised
      rcases plain with same | same | same <;> cases same
    · rcases policies next with policy | null
      · obtain ⟨state, named⟩ := checks policy
        have none := remembers.methodless (Or.inl ⟨takes.prevState ▸ state, takes.raised_named named⟩)
        rw [policy] at raised ⊢
        exact (congrArg PeerData.currentMethod (policy_refuses config c.machine.data raised)).trans none
      · rw [null] at raised
        cases raised
  -- A response is noted, and nothing else changes what was noted.
  have kept (settled : c.settled = true) :
      processes row.nextState (perform config c.machine.data row.action).raised = false ∧
        ∃ answer ∈ c.answered, Noted config (perform config c.machine.data row.action).data answer.1 answer.2 := by
    obtain ⟨unprocessed, unrepeating, answer, here, noted⟩ := remembers.settled settled
    have safe : harmless row.action = true := by
      by_contra danger
      rcases dangerous (Bool.eq_false_iff.mpr danger) with processing | repeating
      · rw [processes_of_row takes processing] at unprocessed
        cases unprocessed
      · rw [repeats_of_row takes repeating] at unrepeating
        cases unrepeating
    have same : SameAnswer c.machine.data (perform config c.machine.data row.action).data := by
      by_cases action : row.action = .receiveMsg
      · rw [action]
        exact (unrequested_receiveMsg takes action requests).1
      · exact (harmless_perform config c.machine.data safe action).1
    refine ⟨?_, answer, here, noted.of_same same⟩
    apply Bool.eq_false_iff.mpr
    intro next
    rw [(before next).1] at unprocessed
    cases unprocessed
  unfold Conversation.take
  dsimp only
  rw [requests]
  dsimp only
  unfold Conversation.respond
  rw [told, taken]
  have left : Remembers config
      { c with machine := c.machine.react row.nextState (perform config c.machine.data row.action) } := by
    refine ⟨events, processing, fun again => ?_, methodless, fun settled => ?_⟩
    · cases unrepeated.symm.trans again
    · obtain ⟨unprocessed, answer⟩ := kept settled
      exact ⟨unprocessed, unrepeated, answer⟩
  cases request : c.taken with
  | none =>
    rw [request] at left
    exact left
  | some identifier =>
    cases sends : sending (perform config c.machine.data row.action).callbacks with
    | none =>
      rw [request] at left
      exact left
    | some response =>
      obtain ⟨unprocessed, other, noted⟩ := remembers.noted takes request sends
      rw [request] at processing
      refine ⟨events, processing, fun again => ?_, methodless, fun _ => ⟨?_, unrepeated, _, rfl, noted⟩⟩
      · cases unrepeated.symm.trans again
      apply Bool.eq_false_iff.mpr
      intro next
      rw [processes_of_other other _ next] at unprocessed
      cases unprocessed

theorem processes_of_undecided {state : PeerState} {raised : Option PeerEvent}
    (undecided : ∀ event ∈ raised, decides event = false) (before : Option PeerEvent)
    (processing : processes state raised = true) : processes state before = true := by
  by_cases received : state = .received
  · rw [received] at processing
    cases raised with
    | none => cases processing
    | some event =>
      have decided : decides event = true := by
        cases event <;> first | rfl | cases processing
      cases decided.symm.trans (undecided event rfl)
  · exact processes_of_none _ (processes_of_other received _ processing)

theorem repeats_of_undecided {state : PeerState} {raised : Option PeerEvent}
    (undecided : ∀ event ∈ raised, decides event = false) : repeats state raised = false := by
  apply Bool.eq_false_iff.mpr
  intro again
  have retransmits : raised = some .sgRetransmit := eq_of_beq (Bool.and_eq_true_iff.mp again).2
  cases undecided .sgRetransmit retransmits

theorem Remembers.raise (remembers : Remembers config c) {raised : Option PeerEvent} {events : List PeerEvent}
    (undecided : ∀ event ∈ raised, decides event = false) (waiting : ∀ event ∈ events, decides event = false) :
    Remembers config { c with machine := { c.machine with raised := raised, events := events } } where
  events := waiting
  processing processing := remembers.processing (processes_of_undecided undecided _ processing)
  repeating again := by
    cases (repeats_of_undecided undecided).symm.trans again
  methodless new := by
    rcases new with ⟨_, named⟩ | ⟨_, named⟩
    · cases undecided .sgNewMethod named
    · cases undecided .sgNoEnterMethod named
  settled settled := by
    obtain ⟨unprocessed, _, answer⟩ := remembers.settled settled
    refine ⟨?_, repeats_of_undecided undecided, answer⟩
    apply Bool.eq_false_iff.mpr
    intro processing
    rw [processes_of_undecided undecided _ processing] at unprocessed
    cases unprocessed

theorem Remembers.handles (remembers : Remembers config c) : Remembers config (c.take config .handle) := by
  cases requests : requested config c.machine with
  | some msg => exact remembers.requests requests
  | none =>
    rcases (program config).handle_cases c.machine with ⟨nothing, same⟩ | ⟨event, raised, _, same⟩ | ⟨event, row, takes⟩
    · have taken : c.take config .handle = c := by
        unfold Conversation.take Conversation.respond callbacks PeerSwitch.take
        dsimp only
        rw [requests, same]
        dsimp only
        split
        case h_1 sends => cases sends
        case h_2 => rfl
      rw [taken]
      exact remembers
    · have taken : c.take config .handle = { c with machine := { c.machine with raised := none } } := by
        unfold Conversation.take Conversation.respond callbacks PeerSwitch.take
        dsimp only
        rw [requests, same]
        dsimp only
        split
        case h_1 sends => cases sends
        case h_2 => rfl
      rw [taken]
      refine remembers.raise (fun event mem => ?_) remembers.events
      cases mem
    · exact remembers.responds takes requests

/-- What the switch is told while it handles nothing changes no more than its queue. -/
theorem Remembers.notify {data : PeerData} (remembers : Remembers config c) (same : SameAnswer c.machine.data data)
    {event : PeerEvent} (plain : decides event = false) :
    Remembers config { c with machine := { c.machine with data := data, events := c.machine.events ++ [event] } } where
  events other mem := by
    rcases List.mem_append.mp mem with waiting | new
    · exact remembers.events other waiting
    · rwa [List.mem_singleton.mp new]
  processing processing identifier taken := by
    obtain ⟨current, seen⟩ := remembers.processing processing identifier taken
    exact ⟨same.currentIdentifier.trans current, same.receivedFirstRequest.trans seen⟩
  repeating again := by
    obtain ⟨seen, valid, last⟩ := remembers.repeating again
    exact ⟨same.receivedFirstRequest.trans seen, same.lastIdValidity.trans valid,
      fun identifier taken => same.lastIdentifier.trans (last identifier taken)⟩
  methodless new := same.currentMethod.trans (remembers.methodless new)
  settled settled := by
    obtain ⟨unprocessed, unrepeated, answer, here, noted⟩ := remembers.settled settled
    exact ⟨unprocessed, unrepeated, answer, here, noted.of_same same⟩

theorem Remembers.serve (remembers : Remembers config c) :
    Remembers config { c with machine := c.machine.serve } := by
  rcases c.machine.serve_cases with kept | ⟨event, rest, nothing, waiting, served⟩
  · rw [kept]
    exact remembers
  · rw [served]
    have undecided := remembers.events
    rw [waiting] at undecided
    obtain ⟨first, later⟩ := List.forall_mem_cons.mp undecided
    refine remembers.raise (fun other mem => ?_) later
    cases mem
    exact first

theorem Remembers.method (remembers : Remembers config c) (turn : MethodTurn)
    (prepares : c.settled = true → turn.txMessage = none) :
    Remembers config { c with machine := PeerSwitch.method c.machine turn } := by
  refine method_elim c.machine turn (motive := fun machine => Remembers config { c with machine := machine }) remembers ?_
  intro msm nothing waiting asked
  have plain {report : Option MethodReport} {event : PeerEvent} (mem : event ∈ (report.map (·.peerEvent)).toList) :
      decides event = false := by
    rcases reported mem with rfl | rfl <;> rfl
  have undecided : ∀ event ∈ turn.event.map (·.peerEvent), decides event = false :=
    fun event mem => plain (Option.mem_toList.mpr mem)
  have all : ∀ event ∈ c.machine.events ++ (turn.notified.map (·.peerEvent)).toList, decides event = false := by
    intro event mem
    rcases List.mem_append.mp mem with old | new
    · exact remembers.events event old
    · exact plain new
  have raised := remembers.raise undecided all
  refine ⟨all, raised.processing, fun again => ?_, fun new => ?_, fun settled => ?_⟩
  · cases (repeats_of_undecided undecided).symm.trans again
  · rcases new with ⟨_, named⟩ | ⟨_, named⟩
    · cases undecided .sgNewMethod named
    · cases undecided .sgNoEnterMethod named
  · obtain ⟨unprocessed, unrepeated, answer, here, noted⟩ := raised.settled settled
    have message : (turn.apply c.machine.data msm).txMessage = c.machine.data.txMessage := by
      unfold MethodTurn.apply
      dsimp only
      rw [prepares settled]
      rfl
    exact ⟨unprocessed, unrepeated, answer, here,
      ⟨message.trans noted.txMessage, noted.receivedFirstRequest, noted.lastIdValidity, noted.again⟩⟩

theorem Remembers.take (remembers : Remembers config c) {input : Input} (distinct : Distinguishes config c input) :
    Remembers config (c.take config input) := by
  have same : SameAnswer c.machine.data c.machine.data := .rfl _
  cases input with
  | start =>
    refine ⟨fun event mem => ?_, fun _ => nofun, nofun, ?_, nofun⟩
    · rcases List.mem_append.mp mem with waiting | new
      · exact remembers.events event waiting
      · rw [List.mem_singleton.mp new]
        rfl
    · rintro (⟨state, _⟩ | ⟨state, _⟩) <;> cases state
  | receive msg =>
    have plain : decides .rxMsg = false := rfl
    have queued : SameAnswer c.machine.data { c.machine.data with rxQueue := c.machine.data.rxQueue ++ [msg] } :=
      ⟨rfl, rfl, rfl, rfl, rfl, rfl, rfl⟩
    exact remembers.notify queued plain
  | handle => exact remembers.handles
  | serve => exact remembers.serve
  | method turn => exact remembers.method turn distinct
  | timeout timer => exact remembers.notify same (by cases timer <;> rfl)
  | identity answer =>
    exact ⟨remembers.events, remembers.processing, remembers.repeating, remembers.methodless, fun settled =>
      (remembers.settled settled).imp_right fun ⟨unrepeated, answer, here, noted⟩ =>
        ⟨unrepeated, answer, here, noted.of_same ⟨rfl, rfl, rfl, rfl, rfl, rfl, rfl⟩⟩⟩

theorem repeating_rows :
    peerSwitchStateTable.findStateTableEntry .received .sgRetransmit =
        some (peerEntry .received .sgRetransmit .retransmit .retransmit) ∧
      peerSwitchStateTable.findStateTableEntry .retransmit .uct = some (peerEntry .retransmit .uct .sendResponse) ∧
      peerSwitchStateTable.findStateTableEntry .received .sgNewMethod =
        some (peerEntry .received .sgNewMethod .getMethod .doPolicyCheck) ∧
      peerSwitchStateTable.findStateTableEntry .getMethod .sgNoEnterMethod =
        some (peerEntry .getMethod .sgNoEnterMethod .sendResponse .buildNak) := by
  decide +kernel

theorem handle_row {state next : PeerState} {event : PeerEvent} {action : PeerAction}
    (found : peerSwitchStateTable.findStateTableEntry state event = some (peerEntry state event next action))
    (machine : Machine) (here : machine.state = state) (raised : machine.raised = some event)
    (running : machine.running = true) :
    (program config).handle machine =
      (machine.react next (perform config machine.data action), (perform config machine.data action).callbacks) := by
  subst here
  have takes : (program config).Takes machine event (peerEntry machine.state event next action) := ⟨raised, running, found⟩
  exact takes.handle

theorem settle_rows {s₀ s₁ s₂ s₃ : PeerState} {e₀ e₁ e₂ : PeerEvent} {a₀ a₁ a₂ : PeerAction} {r₀ r₁ r₂ : PeerReaction}
    (here : machine.state = s₀) (raised : machine.raised = some e₀) (running : machine.running = true)
    (found₀ : peerSwitchStateTable.findStateTableEntry s₀ e₀ = some (peerEntry s₀ e₀ s₁ a₀))
    (first : perform config machine.data a₀ = r₀) (raised₀ : r₀.raised = some e₁)
    (found₁ : peerSwitchStateTable.findStateTableEntry s₁ e₁ = some (peerEntry s₁ e₁ s₂ a₁))
    (second : perform config r₀.data a₁ = r₁) (raised₁ : r₁.raised = some e₂)
    (found₂ : peerSwitchStateTable.findStateTableEntry s₂ e₂ = some (peerEntry s₂ e₂ s₃ a₂))
    (third : perform config r₁.data a₂ = r₂) :
    (settle config machine).1.data = r₂.data ∧
      (settle config machine).2 = r₀.callbacks ++ r₁.callbacks ++ r₂.callbacks := by
  have one : (program config).handle machine = (machine.react s₁ r₀, r₀.callbacks) := by
    rw [handle_row found₀ machine here raised running, first]
  have two : (program config).handle (machine.react s₁ r₀) = ((machine.react s₁ r₀).react s₂ r₁, r₁.callbacks) := by
    rw [handle_row found₁ (machine.react s₁ r₀) rfl raised₀ running, ← second]
    rfl
  have three : (program config).handle ((machine.react s₁ r₀).react s₂ r₁) =
      (((machine.react s₁ r₀).react s₂ r₁).react s₃ r₂, r₂.callbacks) := by
    rw [handle_row found₂ ((machine.react s₁ r₀).react s₂ r₁) rfl raised₁ running, ← third]
    rfl
  unfold settle
  rw [one]
  dsimp only
  rw [two]
  dsimp only
  rw [three]
  exact ⟨rfl, rfl⟩

theorem settle_noted {msg : EapMessage} {rest : List EapMessage} (queue : machine.data.rxQueue = msg :: rest)
    (code : msg.code = codeRequest) (idle : machine.state = .idle) (raised : machine.raised = some .rxMsg)
    (running : machine.running = true) (seen : machine.data.receivedFirstRequest = true)
    (valid : machine.data.lastIdValidity = true) (noted : machine.data.lastIdentifier = msg.identifier) :
    (settle config machine).2 = [.send machine.data.txMessage] ∧
      SameHistory machine.data (settle config machine).1.data := by
  have received : perform config machine.data .receiveMsg =
      raise { machine.data with rxQueue := rest, rxMessage := some msg } .sgRetransmit := by
    simp only [perform, acReceiveMsg]
    rw [queue]
    dsimp only
    rw [if_neg fun strange => strange.1 code, if_pos code, if_pos ⟨seen, noted.symm⟩, if_pos valid]
  obtain ⟨again, sends, _⟩ := repeating_rows
  obtain ⟨data, told⟩ := settle_rows idle raised running found_rxMsg received rfl again rfl rfl sends rfl
  rw [data, told]
  exact ⟨rfl, rfl, rfl, rfl, rfl, rfl, rfl, rfl, rfl, rfl, rfl⟩

theorem settle_nak {msg : EapMessage} {rest : List EapMessage} (queue : machine.data.rxQueue = msg :: rest)
    (code : msg.code = codeRequest) (idle : machine.state = .idle) (raised : machine.raised = some .rxMsg)
    (running : machine.running = true) (valid : machine.data.lastIdValidity = true)
    (unnoted : machine.data.lastIdentifier ≠ msg.identifier) (methodless : machine.data.currentMethod = { type := 0 })
    (other : msg.type ≠ { type := 1 }) (refused : machine.data.policy.allow config.heap msg.type = false)
    (sent : machine.data.txMessage =
      some ⟨.nak (machine.data.policy.makeTypeList config.heap machine.data.currentMethod.isVSE), some msg.identifier⟩) :
    (settle config machine).2 = [.send machine.data.txMessage] ∧
      SameHistory machine.data (settle config machine).1.data := by
  have named : msg.type ≠ { type := 2 } := by
    intro notification
    rw [notification] at refused
    cases refused
  have received : perform config machine.data .receiveMsg = raise
      { machine.data with
        rxQueue := rest
        rxMessage := some msg
        currentIdentifier := msg.identifier
        receivedFirstRequest := true
        reqMethod := msg.type } .sgNewMethod := by
    simp only [perform, acReceiveMsg, subAcParseRequest]
    rw [queue]
    dsimp only
    rw [if_neg fun strange => strange.1 code, if_pos code, if_neg fun noted => unnoted noted.2.symm, if_neg named,
      if_neg fun identity => other identity.2, if_pos methodless]
  have checked (sm : PeerData) (method : sm.reqMethod = msg.type) (policy : sm.policy = machine.data.policy) :
      perform config sm .doPolicyCheck = raise sm .sgNoEnterMethod := by
    simp only [perform, acDoPolicyCheck]
    rw [method, policy, if_neg other, if_neg (Bool.eq_false_iff.mp refused)]
  obtain ⟨_, _, again, sends⟩ := repeating_rows
  obtain ⟨data, told⟩ :=
    settle_rows idle raised running found_rxMsg received rfl again (checked _ rfl rfl) rfl sends rfl
  rw [data, told, sent]
  exact ⟨rfl, rfl, rfl, rfl, rfl, rfl, rfl, rfl, sent.symm, rfl, valid.symm⟩

theorem Remembers.idempotent (remembers : Remembers config c) {input : Input} (distinct : Distinguishes config c input) :
    Idempotent config c input := by
  cases input with
  | handle =>
    intro msg requests
    obtain ⟨code, rest, row, queue, takes, action⟩ := takes_of_requested requests
    obtain ⟨last, others⟩ := distinct msg requests
    constructor
    · intro answer here same settled
      obtain ⟨idle, again⟩ := last answer here same settled
      obtain ⟨_, _, _, there, noted⟩ := remembers.settled settled
      cases here.symm.trans there
      have kept := noted.txMessage
      by_cases identified : c.machine.data.lastIdentifier = msg.identifier
      · rw [← kept]
        exact settle_noted queue code idle takes.raised takes.running noted.receivedFirstRequest noted.lastIdValidity identified
      · rcases noted.again with identical | ⟨methodless, nak⟩
        · exact absurd (identical.trans same) identified
        · rcases again with identical | ⟨other, refused⟩
          · exact absurd identical identified
          · rw [nak, same] at kept
            rw [nak, same, ← kept]
            exact settle_nak queue code idle takes.raised takes.running noted.lastIdValidity identified methodless other
              refused kept
    · intro different
      have unknown := others different
      have received : acReceiveMsg c.machine.data =
          acReceiveMsg { c.machine.data with receivedFirstRequest := false } := by
        unfold acReceiveMsg
        rw [queue]
        dsimp only
        rw [if_neg fun strange => strange.1 code, if_pos code, if_neg fun noted => unknown noted.1 noted.2.symm,
          if_neg fun strange => strange.1 code, if_pos code, if_neg fun noted => Bool.false_ne_true noted.1]
      have again : (program config).Takes
          { c.machine with data := { c.machine.data with receivedFirstRequest := false } } .rxMsg row :=
        ⟨takes.raised, takes.running, takes.found⟩
      rw [takes.handle, again.handle, action]
      change (c.machine.react row.nextState (acReceiveMsg c.machine.data), (acReceiveMsg c.machine.data).callbacks) = _
      rw [received]
      rfl
  | start | receive | serve | method | timeout | identity => trivial

theorem Remembers.run {machine : Machine} (constructed : Constructed machine) {inputs : List Input}
    (distinct : Stepwise (Conversation.take config) (Distinguishes config) { machine := machine } inputs) :
    Stepwise (Conversation.take config) (Idempotent config) { machine := machine } inputs := by
  have initially : Remembers config { machine := machine } := by
    refine ⟨fun event mem => ?_, fun _ => nofun, fun again => ?_, ?_, nofun⟩
    · rw [constructed.events] at mem
      cases mem
    · have retransmits := eq_of_beq (Bool.and_eq_true_iff.mp again).2
      cases constructed.raised.symm.trans retransmits
    · rintro (⟨_, raised⟩ | ⟨_, raised⟩)
      · cases constructed.raised.symm.trans raised
      · cases constructed.raised.symm.trans raised
  exact distinct.imp (fun _ _ remembers _ meets => remembers.idempotent meets)
    (fun _ _ remembers _ meets => remembers.take meets) initially fun _ _ => trivial

end Invariant

section Runs

/-- A peer whose requests are told apart answers each of them once, and its duplicates as before. -/
theorem duplicates_idempotent (config : PeerConfig) {machine : Machine} (constructed : Constructed machine)
    {inputs : List Input}
    (distinct : Stepwise (Conversation.take config) (Distinguishes config) { machine := machine } inputs) :
    Stepwise (Conversation.take config) (Idempotent config) { machine := machine } inputs :=
  Remembers.run constructed distinct

instance (c : Conversation) : DecidablePred (Distinguishes md5Config c) := fun input =>
  match input with
  | .handle => inferInstanceAs (Decidable (∀ msg ∈ requested md5Config c.machine, _ ∧ _))
  | .method _ => inferInstanceAs (Decidable (_ → _))
  | .start | .receive _ | .serve | .timeout _ | .identity _ => .isTrue trivial

/-- An identity is asked for twice, and then a method. -/
theorem duplicates_idempotent_identity :
    Stepwise (Conversation.take md5Config) (Idempotent md5Config) { machine := md5Peer }
      ([.identity [0x61]] ++ started ++ answered ⟨codeRequest, 1, [1]⟩ ++ [.serve, .handle, .handle, .serve, .handle] ++
        answered ⟨codeRequest, 1, [1]⟩ ++ [.serve, .handle] ++ answered ⟨codeRequest, 2, [4]⟩) :=
  duplicates_idempotent md5Config md5Peer_constructed (by decide +kernel)

/-- After the next start the first request is taken for the last of the run before. -/
theorem start_keeps_identifier : ¬∀ (config : PeerConfig) (machine : Machine) (inputs : List Input),
    Constructed machine → Stepwise (Conversation.take config) (Idempotent config) { machine := machine } inputs := by
  intro idempotent
  have run := idempotent md5Config md5Peer
    ([.identity [0x61]] ++ started ++ answered ⟨codeRequest, 1, [1]⟩ ++ [.serve, .handle, .handle, .serve, .handle] ++
      started ++ [.receive ⟨codeRequest, 1, [1]⟩, .serve] ++ [.handle]) md5Peer_constructed
  have different := ((stepwise_append.mp run).2.1 ⟨codeRequest, 1, [1]⟩ (by decide +kernel)).2 (by decide +kernel)
  have raised := congrArg (fun handled => handled.1.raised) different
  revert raised
  decide +kernel

end Runs

end OpenDiameter.Eap.PeerSwitch
