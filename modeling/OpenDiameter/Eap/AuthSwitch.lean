import OpenDiameter.Eap.Policy
import OpenDiameter.Framework.EventMachine

/-! The switch state machines of an EAP authenticator: stand-alone, backend and pass-through.

Each has a table of its own; most of the actions are the same. What a method does to
the switch is an input, as the calls of the AAA client and the timers are.
-/

set_option autoImplicit false

namespace OpenDiameter.Eap

open Foundation OpenDiameter.Framework

inductive AuthKind where
  | standalone | backend | passthrough
  deriving DecidableEq, Repr

inductive AuthState where
  | stBegin | disabled | stInitialize | pickUpMethod | selectAction | proposeMethod | idle | integrityCheck
  | methodRequest | methodResponse | sendRequest | nak | retransmit | discard | success | failure
  | timeoutFailure | received
  | initializePassThrough | aaaRequest | aaaIdle | aaaResponse | idle2 | received2 | success2 | failure2
  | sendRequest2 | discard2 | retransmit2 | timeoutFailure2
  deriving DecidableEq, Repr

/-- `EapAuthSwitchStateMachine::event` and the internal events of the tables. -/
inductive AuthEvent where
  | rxMsg | sgPortEnabled | sgValidResp | sgInvalidResp | sgEndMethod | sgRestart
  | sgAaaContinue | sgAaaSuccess | sgAaaFailure
  | uct | sgPolicySat | sgPolicyNotSatEndSess | sgNoMethod | rxMethodResp | rxNonResp | rxNak | timeout
  | sgMaxRetransmission | evElse | sgPassThrough | sgPickUpInit | sgNoPickUpInit | rxAaaEapReq
  /-- The `EvSgAaaSuccess` and `EvSgAaaFailure` of the pass-through table. -/
  | evSgAaaSuccess | evSgAaaFailure
  | sgDiscard
  deriving DecidableEq, Repr

inductive AuthAction where
  | null | acDisable | acInitialize | backendInitialize | pickUpMethod | sendSuccess | sendFailure
  | methodResponse | buildRequest | sendRequest | doIntegrityCheck | proposeMethod | doPolicyCheck
  | discard | discard2 | discard3 | resetMethod | retransmit | receiveMsg | receiveMsg2
  | pickUpInitCheck | aaaRequest | doIntegrityCheck2 | aaaContinue | aaaSuccess | aaaFailure
  | prepareRequest | completePassThroughWithSuccess | completePassThroughWithFailure
  deriving DecidableEq, Repr

section Tables

def authEntry (prev : AuthState) (ev : AuthEvent) (next : AuthState) (ac : AuthAction := .null) :
    StateTableEntry AuthState AuthEvent AuthAction :=
  ⟨prev, some ev, next, ac⟩

def authWildcardEntry (prev next : AuthState) : StateTableEntry AuthState AuthEvent AuthAction :=
  ⟨prev, none, next, .null⟩

/-- `EapStandAloneAuthSwitchStateTable_S`. -/
def standaloneTable : StateTable AuthState AuthEvent AuthAction :=
  [ authEntry .stBegin .sgRestart .disabled .acDisable,
    authEntry .disabled .sgPortEnabled .stInitialize .acInitialize,
    authEntry .stInitialize .uct .selectAction .doPolicyCheck,
    authEntry .selectAction .sgPolicySat .success .sendSuccess,
    authEntry .selectAction .sgPolicyNotSatEndSess .failure .sendFailure,
    authEntry .selectAction .evElse .proposeMethod .proposeMethod,
    authEntry .proposeMethod .sgValidResp .methodRequest .buildRequest,
    authEntry .methodRequest .uct .sendRequest .sendRequest,
    authEntry .integrityCheck .sgValidResp .methodResponse .methodResponse,
    authEntry .integrityCheck .sgInvalidResp .discard .discard,
    authEntry .integrityCheck .rxMsg .integrityCheck .discard2,
    authWildcardEntry .integrityCheck .integrityCheck,
    authEntry .methodResponse .sgEndMethod .selectAction .doPolicyCheck,
    authEntry .methodResponse .evElse .methodRequest .buildRequest,
    authEntry .sendRequest .uct .idle,
    authEntry .idle .timeout .retransmit .retransmit,
    authEntry .idle .rxMsg .received .receiveMsg,
    authEntry .received .rxMethodResp .integrityCheck .doIntegrityCheck,
    authEntry .received .rxNak .nak .resetMethod,
    authEntry .received .evElse .discard .discard,
    authEntry .retransmit .sgMaxRetransmission .timeoutFailure,
    authEntry .retransmit .evElse .idle,
    authEntry .nak .uct .selectAction .doPolicyCheck,
    authEntry .discard .uct .idle,
    authEntry .success .rxMsg .success .discard2,
    authWildcardEntry .success .success,
    authEntry .failure .rxMsg .failure .discard2,
    authWildcardEntry .failure .failure ]

/-- `EapBackendAuthSwitchStateTable_S`. -/
def backendTable : StateTable AuthState AuthEvent AuthAction :=
  [ authEntry .stBegin .sgRestart .disabled .acDisable,
    authEntry .disabled .sgPortEnabled .stInitialize .backendInitialize,
    authEntry .stInitialize .rxNonResp .selectAction .doPolicyCheck,
    authEntry .stInitialize .evElse .pickUpMethod .pickUpMethod,
    authEntry .pickUpMethod .sgNoMethod .selectAction .doPolicyCheck,
    authEntry .pickUpMethod .evElse .integrityCheck .doIntegrityCheck,
    authEntry .stInitialize .rxNak .nak .resetMethod,
    authEntry .selectAction .sgPolicySat .success .sendSuccess,
    authEntry .selectAction .sgPolicyNotSatEndSess .failure .sendFailure,
    authEntry .selectAction .evElse .proposeMethod .proposeMethod,
    authEntry .proposeMethod .sgValidResp .methodRequest .buildRequest,
    authEntry .methodRequest .uct .sendRequest .sendRequest,
    authEntry .integrityCheck .sgValidResp .methodResponse .methodResponse,
    authEntry .integrityCheck .sgInvalidResp .discard .discard,
    authEntry .integrityCheck .rxMsg .integrityCheck .discard2,
    authEntry .methodResponse .sgEndMethod .selectAction .doPolicyCheck,
    authEntry .methodResponse .evElse .methodRequest .buildRequest,
    authEntry .sendRequest .uct .idle,
    authEntry .idle .timeout .retransmit .retransmit,
    authEntry .idle .rxMsg .received .receiveMsg,
    authEntry .received .rxMethodResp .integrityCheck .doIntegrityCheck,
    authEntry .received .rxNak .nak .resetMethod,
    authEntry .received .evElse .discard .discard,
    authEntry .retransmit .sgMaxRetransmission .timeoutFailure,
    authEntry .retransmit .evElse .idle,
    authEntry .nak .uct .selectAction .doPolicyCheck,
    authEntry .discard .uct .idle,
    authEntry .success .rxMsg .success .discard2,
    authWildcardEntry .success .success,
    authEntry .failure .rxMsg .failure .discard2,
    authWildcardEntry .failure .failure ]

/-- `EapPassThroughAuthSwitchStateTable_S`. -/
def passThroughTable : StateTable AuthState AuthEvent AuthAction :=
  [ authEntry .stBegin .sgRestart .disabled .acDisable,
    authEntry .disabled .sgPortEnabled .stInitialize .acInitialize,
    authEntry .stInitialize .uct .selectAction .doPolicyCheck,
    authEntry .selectAction .sgPolicySat .success .sendSuccess,
    authEntry .selectAction .sgPolicyNotSatEndSess .failure .sendFailure,
    authEntry .selectAction .evElse .proposeMethod .proposeMethod,
    authEntry .selectAction .sgPassThrough .initializePassThrough .pickUpInitCheck,
    authEntry .proposeMethod .sgValidResp .methodRequest .buildRequest,
    authEntry .methodRequest .uct .sendRequest .sendRequest,
    authEntry .integrityCheck .sgValidResp .methodResponse .methodResponse,
    authEntry .integrityCheck .sgInvalidResp .discard .discard,
    authEntry .integrityCheck .rxMsg .integrityCheck .discard2,
    authEntry .methodResponse .sgEndMethod .selectAction .doPolicyCheck,
    authEntry .methodResponse .evElse .methodRequest .buildRequest,
    authEntry .sendRequest .uct .idle,
    authEntry .idle .timeout .retransmit .retransmit,
    authEntry .idle .rxMsg .received .receiveMsg,
    authEntry .received .rxMethodResp .integrityCheck .doIntegrityCheck,
    authEntry .received .rxNak .nak .resetMethod,
    authEntry .received .evElse .discard .discard,
    authEntry .retransmit .sgMaxRetransmission .timeoutFailure,
    authEntry .retransmit .evElse .idle,
    authEntry .nak .uct .selectAction .doPolicyCheck,
    authEntry .discard .uct .idle,
    authEntry .success .rxMsg .success .discard2,
    authWildcardEntry .success .success,
    authEntry .failure .rxMsg .failure .discard2,
    authWildcardEntry .failure .failure,
    authEntry .initializePassThrough .sgPickUpInit .aaaRequest .aaaRequest,
    authEntry .initializePassThrough .sgNoPickUpInit .aaaIdle .doIntegrityCheck2,
    authEntry .aaaRequest .uct .aaaIdle .doIntegrityCheck2,
    authEntry .aaaIdle .rxAaaEapReq .aaaResponse .prepareRequest,
    authEntry .aaaIdle .evSgAaaSuccess .success2 .completePassThroughWithSuccess,
    authEntry .aaaIdle .evSgAaaFailure .failure2 .completePassThroughWithFailure,
    authEntry .aaaIdle .sgAaaContinue .aaaIdle .aaaContinue,
    authEntry .aaaIdle .sgAaaSuccess .aaaIdle .aaaSuccess,
    authEntry .aaaIdle .sgAaaFailure .aaaIdle .aaaFailure,
    authEntry .aaaIdle .sgDiscard .discard2 .discard3,
    authWildcardEntry .aaaIdle .aaaIdle,
    authEntry .discard2 .uct .idle2,
    authEntry .received2 .rxMethodResp .aaaRequest .aaaRequest,
    authEntry .received2 .evElse .discard2 .discard,
    authEntry .idle2 .rxMsg .received2 .receiveMsg2,
    authEntry .idle2 .sgAaaContinue .idle2 .discard3,
    authEntry .idle2 .timeout .retransmit2 .retransmit,
    authWildcardEntry .idle2 .idle2,
    authEntry .aaaResponse .uct .sendRequest2 .sendRequest,
    authEntry .sendRequest2 .uct .idle2,
    authEntry .success2 .sgAaaContinue .success2 .discard3,
    authWildcardEntry .success2 .success2,
    authEntry .failure2 .sgAaaContinue .failure2 .discard3,
    authWildcardEntry .failure2 .failure2,
    authEntry .retransmit2 .sgMaxRetransmission .timeoutFailure2,
    authEntry .retransmit2 .evElse .idle2 ]

def AuthKind.table : AuthKind → StateTable AuthState AuthEvent AuthAction
  | .standalone => standaloneTable
  | .backend => backendTable
  | .passthrough => passThroughTable

theorem AuthKind.table_constructs (kind : AuthKind) : StateTable.construct kind.table = some kind.table := by
  cases kind <;> decide +kernel

end Tables

inductive AuthMethodState where
  | proposed | cont | ended
  deriving DecidableEq, Repr

inductive AuthDecision where
  | success | failure | continued | passthrough
  deriving DecidableEq, Repr

inductive AuthMessage where
  | request (payload : Octets) (identifier : Option UInt8)
  | header (code identifier : UInt8)
  | aaa (msg : EapMessage)
  deriving DecidableEq, Repr

def AuthMessage.compose (id : UInt8) : AuthMessage → AuthMessage
  | .request payload _ => .request payload (some id)
  | .header _ _ => .header codeRequest id
  | .aaa msg => .aaa { msg with code := codeRequest, identifier := id }

/-- `keyData` and `isDone` of a method, and the integrity checks it has been asked for. -/
structure AuthMethod where
  keyData : Octets
  isDone : Bool
  asked : Nat
  deriving DecidableEq, Repr

/-- The attributes of an `EapAuthSwitchStateMachine`; `aaaRxQueue` is one of the
pass-through authenticator. -/
structure AuthData where
  policy : EapPolicy
  methodState : AuthMethodState
  keyData : Octets
  keyAvailable : Bool
  currentIdentifier : UInt8
  currentMethod : EapType
  discardCount : Nat
  retransmissionCount : Nat
  maxRetransmissionCount : Nat
  retransmissionInterval : Nat
  rxQueue : List EapMessage
  aaaRxQueue : List EapMessage
  rxMessage : Option EapMessage
  txMessage : Option AuthMessage
  methodStateMachine : Option AuthMethod
  deriving DecidableEq, Repr

/-- What a switch asks of the application and of the timers. -/
inductive AuthCallback where
  | success (msg : Option AuthMessage)
  | failure (msg : Option AuthMessage)
  | abort
  | send (msg : Option AuthMessage)
  | forwardResponse (msg : Option EapMessage)
  | scheduleTimer (event : AuthEvent)
  | cancelTimer
  /-- `dequeue_head` of an empty queue waits for a message. -/
  | blocked
  | nullPointer
  /-- `NoCurrentMethod` leaves the action. -/
  | uncaught
  deriving DecidableEq, Repr

structure AuthConfig where
  kind : AuthKind
  heap : PolicyHeap
  registered : EapType → Bool

namespace AuthSwitch

abbrev AuthReaction := Reaction AuthEvent AuthData AuthCallback

variable (config : AuthConfig) (sm : AuthData)

section Actions

def raise (event : AuthEvent) : AuthReaction := { data := sm, raised := some event }

def stop (callback : AuthCallback) : AuthReaction := { data := sm, callbacks := [callback] }

def decision : AuthDecision :=
  match config.kind with
  | .standalone | .backend =>
    if sm.policy.isSatisfied then .success
    else if (sm.policy.currentMethod config.heap).isNone then .failure
    else .continued
  | .passthrough => if (sm.policy.currentMethod config.heap).isNone then .passthrough else .continued

def acDisable : AuthReaction := raise sm .sgPortEnabled

def acInitialize : AuthReaction := raise { sm with currentIdentifier := 0 } .uct

def acBackendInitialize : AuthReaction :=
  match sm.rxMessage with
  | none => raise { sm with currentIdentifier := 0 } .evElse
  | some msg =>
    if msg.code ≠ codeResponse then raise { sm with currentIdentifier := 0 } .rxNonResp
    else
      let identified := { sm with currentIdentifier := msg.identifier }
      match sm.policy.currentMethod config.heap with
      | none => stop identified .uncaught
      | some current =>
        if current ≠ msg.type then raise identified .rxNonResp
        else
          raise { identified with currentMethod := msg.type } (if msg.type = { type := 3 } then .rxNak else .evElse)

def createMethodStateMachine (type : EapType) : Option AuthData :=
  if config.registered type then some { sm with methodStateMachine := some ⟨[], false, 0⟩ } else none

def acPickUpMethod : AuthReaction :=
  match sm.policy.currentMethod config.heap with
  | none => stop sm .uncaught
  | some type =>
    if EapPolicy.supportPickUp type then
      match createMethodStateMachine config { sm with currentMethod := type } type with
      | none => stop { sm with currentMethod := type } .abort
      | some created => raise created .evElse
    else raise sm .sgNoMethod

def succeed (msg : Option AuthMessage) : AuthReaction where
  data := { sm with retransmissionCount := 0, keyAvailable := sm.keyAvailable || !sm.keyData.isEmpty }
  callbacks := [.cancelTimer, .success msg]

def fail (msg : Option AuthMessage) : AuthReaction where
  data := { sm with retransmissionCount := 0 }
  callbacks := [.cancelTimer, .failure msg]

def acSendSuccess : AuthReaction := succeed sm (some (.header codeSuccess sm.currentIdentifier))

def acSendFailure : AuthReaction := fail sm (some (.header codeFailure sm.currentIdentifier))

def acMethodResponse : AuthReaction :=
  match sm.methodStateMachine with
  | none => stop sm .nullPointer
  | some msm =>
    if msm.isDone then
      let keyData := if config.kind = .standalone ∧ msm.keyData.isEmpty then sm.keyData else msm.keyData
      raise { sm with keyData, methodState := .ended } .sgEndMethod
    else raise { sm with methodState := .cont } .evElse

def acBuildRequest : AuthReaction :=
  match sm.methodStateMachine with
  | none => stop sm .nullPointer
  | some _ =>
    let id := sm.currentIdentifier + 1
    match sm.txMessage with
    | none => stop { sm with currentIdentifier := id } .nullPointer
    | some msg => raise { sm with currentIdentifier := id, txMessage := some (msg.compose id) } .uct

def acSendRequest : AuthReaction where
  data := { sm with retransmissionCount := 1 }
  notified := [.uct]
  callbacks :=
    .cancelTimer :: (if sm.retransmissionInterval ≠ 0 then [.scheduleTimer .timeout] else []) ++ [.send sm.txMessage]

def acDoIntegrityCheck : AuthReaction :=
  match sm.methodStateMachine with
  | none => stop sm .nullPointer
  | some msm => { data := { sm with methodStateMachine := some { msm with asked := msm.asked + 1 } } }

/-- The stand-alone switch tests for the type 1 twice. -/
def acProposeMethod : AuthReaction :=
  match sm.policy.currentMethod config.heap with
  | none => stop sm .uncaught
  | some type =>
    let deleted := { sm with methodStateMachine := none, currentMethod := type }
    match createMethodStateMachine config deleted type with
    | none => { data := deleted, callbacks := [.abort, .nullPointer] }
    | some created =>
      let wanted := type = { type := 1 } ∨ config.kind ≠ .standalone ∧ type = { type := 2 }
      acDoIntegrityCheck { created with methodState := if wanted then .cont else .proposed }

def acDoPolicyCheck : AuthReaction :=
  match decision config sm with
  | .success => raise sm .sgPolicySat
  | .failure => raise sm .sgPolicyNotSatEndSess
  | .passthrough => raise sm .sgPassThrough
  | .continued => raise sm .evElse

def acDiscard : AuthReaction := raise { sm with discardCount := sm.discardCount + 1 } .uct

def acDiscard2 : AuthReaction :=
  let counted := { sm with discardCount := sm.discardCount + 1 }
  match sm.rxQueue with
  | [] => stop counted .blocked
  | _ :: rest =>
    { data := { counted with rxQueue := rest }, raised := if config.kind = .passthrough then some .uct else none }

def acDiscard3 : AuthReaction :=
  match sm.aaaRxQueue with
  | [] => stop sm .blocked
  | _ :: rest => { data := { sm with aaaRxQueue := rest } }

def acResetMethod : AuthReaction :=
  match sm.rxMessage with
  | none => stop sm .nullPointer
  | some msg =>
    raise { sm with rxMessage := none, policy := sm.policy.updateList config.heap (nakTypeList msg) } .uct

def acRetransmit : AuthReaction :=
  if sm.retransmissionCount < sm.maxRetransmissionCount then
    { data := { sm with retransmissionCount := sm.retransmissionCount + 1 }
      notified := [.evElse]
      callbacks := [.send sm.txMessage] }
  else { data := sm, callbacks := [.cancelTimer], raised := some .sgMaxRetransmission }

/-- A message with the wrong code or identifier is deleted, and `EvElse` is notified. -/
def unexpected (msg : EapMessage) : Bool := msg.code != codeResponse || msg.identifier != sm.currentIdentifier

def subAcParseResponse (msg : EapMessage) : AuthReaction :=
  let passing := decision config sm == .passthrough
  if msg.type = { type := 3 } ∧ !passing then
    if sm.methodState = .proposed then raise sm .rxNak else raise { sm with rxMessage := none } .evElse
  else if msg.type ≠ sm.currentMethod ∧ !passing then raise { sm with rxMessage := none } .evElse
  else raise sm .rxMethodResp

def acReceiveMsg : AuthReaction :=
  match sm.rxQueue with
  | [] => stop sm .blocked
  | msg :: rest =>
    let taken := { sm with rxQueue := rest, rxMessage := some msg }
    if unexpected sm msg then { data := { taken with rxMessage := none }, notified := [.evElse] }
    else subAcParseResponse config taken msg

def acReceiveMsg2 : AuthReaction :=
  match sm.rxQueue with
  | [] => stop sm .blocked
  | msg :: rest =>
    let taken := { sm with rxQueue := rest, rxMessage := some msg }
    if unexpected sm msg then { data := { taken with rxMessage := none }, notified := [.evElse] }
    else raise taken .rxMethodResp

def acPickUpInitCheck : AuthReaction := raise sm (if sm.rxMessage.isNone then .sgNoPickUpInit else .sgPickUpInit)

def acDoIntegrityCheck2 : AuthReaction := { data := sm, callbacks := [.forwardResponse sm.rxMessage] }

/-- What `AcAaaContinue`, `AcAaaSuccess` and `AcAaaFailure` do with a message. -/
def subAcAaaMessage (msg : EapMessage) (rest : List EapMessage) (code : UInt8) (event : AuthEvent) : AuthReaction :=
  let taken := { sm with aaaRxQueue := rest }
  if msg.code ≠ code then raise taken .sgDiscard
  else raise { taken with currentIdentifier := msg.identifier, txMessage := some (.aaa msg) } event

def acAaaContinue : AuthReaction :=
  match sm.aaaRxQueue with
  | [] => stop { sm with txMessage := none } .abort
  | msg :: rest => subAcAaaMessage sm msg rest codeRequest .rxAaaEapReq

def acAaaSuccess : AuthReaction :=
  match sm.aaaRxQueue with
  | [] => raise { sm with txMessage := none } .evSgAaaSuccess
  | msg :: rest => subAcAaaMessage sm msg rest codeSuccess .evSgAaaSuccess

def acAaaFailure : AuthReaction :=
  match sm.aaaRxQueue with
  | [] => raise { sm with txMessage := none } .evSgAaaFailure
  | msg :: rest => subAcAaaMessage sm msg rest codeFailure .evSgAaaFailure

def acCompletePassThroughWithSuccess : AuthReaction := succeed { sm with txMessage := none } sm.txMessage

def acCompletePassThroughWithFailure : AuthReaction := fail { sm with txMessage := none } sm.txMessage

def perform (ac : AuthAction) : AuthReaction :=
  match ac with
  | .null => { data := sm }
  | .acDisable => acDisable sm
  | .acInitialize => acInitialize sm
  | .backendInitialize => acBackendInitialize config sm
  | .pickUpMethod => acPickUpMethod config sm
  | .sendSuccess => acSendSuccess sm
  | .sendFailure => acSendFailure sm
  | .methodResponse => acMethodResponse config sm
  | .buildRequest => acBuildRequest sm
  | .sendRequest => acSendRequest sm
  | .doIntegrityCheck => acDoIntegrityCheck sm
  | .proposeMethod => acProposeMethod config sm
  | .doPolicyCheck => acDoPolicyCheck config sm
  | .discard => acDiscard sm
  | .discard2 => acDiscard2 config sm
  | .discard3 => acDiscard3 sm
  | .resetMethod => acResetMethod config sm
  | .retransmit => acRetransmit sm
  | .receiveMsg => acReceiveMsg config sm
  | .receiveMsg2 => acReceiveMsg2 sm
  | .pickUpInitCheck => acPickUpInitCheck sm
  | .aaaRequest | .prepareRequest => raise sm .uct
  | .doIntegrityCheck2 => acDoIntegrityCheck2 sm
  | .aaaContinue => acAaaContinue sm
  | .aaaSuccess => acAaaSuccess sm
  | .aaaFailure => acAaaFailure sm
  | .completePassThroughWithSuccess => acCompletePassThroughWithSuccess sm
  | .completePassThroughWithFailure => acCompletePassThroughWithFailure sm

end Actions

def program : MachineProgram AuthState AuthEvent AuthAction AuthData AuthCallback where
  table := config.kind.table
  initialState := .stBegin
  perform ac sm := perform config sm ac

abbrev Machine := EventMachine AuthState AuthEvent AuthData

inductive MethodReport where
  | valid | invalid
  deriving DecidableEq, Repr

def MethodReport.authEvent : MethodReport → AuthEvent
  | .valid => .sgValidResp
  | .invalid => .sgInvalidResp

structure MethodTurn where
  txMessage : Option Octets := none
  keyData : Option Octets := none
  outcome : Option PolicySwitch := none
  notified : Option MethodReport := none
  deriving DecidableEq, Repr

inductive AaaReport where
  | success (aaaKey : Option Octets)
  | failure
  | continued
  deriving DecidableEq, Repr

def AaaReport.aaaKey : AaaReport → Option Octets
  | .success aaaKey => aaaKey
  | _ => none

def AaaReport.authEvent : AaaReport → AuthEvent
  | .success _ => .sgAaaSuccess
  | .failure => .sgAaaFailure
  | .continued => .sgAaaContinue

inductive Input where
  | start
  /-- `Start` of the backend authenticator with a message, which may be null. -/
  | startBackend (msg : Option EapMessage)
  | receive (msg : EapMessage)
  /-- The event passed to `Event` is handled. -/
  | handle
  /-- The next event is taken off the queue. -/
  | serve
  | method (turn : MethodTurn)
  /-- The retransmission timer expires. -/
  | timeout
  | aaa (report : AaaReport) (msg : Option EapMessage)
  deriving DecidableEq, Repr

def deleteMethodStateMachine : AuthData :=
  if sm.methodStateMachine.isSome then { sm with methodStateMachine := none, currentMethod := { type := 0 } } else sm

/-- `Start`; the stand-alone authenticator deletes its method. -/
def start (machine : Machine) : Machine :=
  let sm := if config.kind = .standalone then deleteMethodStateMachine machine.data else machine.data
  { (program config).start machine with
    data := { sm with policy := sm.policy.restart, keyData := [], keyAvailable := false } }.notify .sgRestart

/-- `EapBackendAuthSwitchStateMachine::Start` with a message; no other switch has it. -/
def startBackend (machine : Machine) (msg : Option EapMessage) : Machine :=
  if config.kind = .backend then
    { (program config).start machine with
      data := { machine.data with
        policy := machine.data.policy.restart
        rxMessage := msg.orElse fun _ => machine.data.rxMessage } }.notify .sgRestart
  else machine

/-- `EapAuthSwitchStateMachine::Receive`. -/
def receive (machine : Machine) (msg : EapMessage) : Machine :=
  { machine with data := { machine.data with rxQueue := machine.data.rxQueue ++ [msg] } }.notify .rxMsg

def methodAwaited (machine : Machine) : Option AuthMethod :=
  if machine.raised.isSome then none else machine.data.methodStateMachine.filter (·.asked ≠ 0)

def MethodTurn.apply (turn : MethodTurn) (msm : AuthMethod) : AuthData :=
  { sm with
    policy := (turn.outcome.map (sm.policy.update config.heap)).getD sm.policy
    txMessage := (turn.txMessage.map fun payload => .request payload none).orElse fun _ => sm.txMessage
    methodStateMachine := some ⟨turn.keyData.getD msm.keyData, turn.outcome.isSome, msm.asked - 1⟩ }

def method (machine : Machine) (turn : MethodTurn) : Machine :=
  match methodAwaited machine with
  | none => machine
  | some msm =>
    if msm.isDone then
      { machine with data := { machine.data with methodStateMachine := some { msm with asked := msm.asked - 1 } } }
    else
      { machine with
        data := turn.apply config machine.data msm
        events := machine.events ++ (turn.notified.map (·.authEvent)).toList }

/-- A call of the AAA client takes effect. It throws when the switch does not pass
messages through, and `AAA_Continue` also when there is no message. -/
def accepted (machine : Machine) (report : AaaReport) (msg : Option EapMessage) : Bool :=
  config.kind == .passthrough && decision config machine.data == .passthrough &&
    (report != .continued || msg.isSome)

def aaa (machine : Machine) (report : AaaReport) (msg : Option EapMessage) : Machine :=
  if accepted config machine report msg then
    { machine with
      data := { machine.data with
        keyData := report.aaaKey.getD machine.data.keyData
        aaaRxQueue := machine.data.aaaRxQueue ++ msg.toList } }.notify report.authEvent
  else machine

def take (machine : Machine) : Input → Machine
  | .start => start config machine
  | .startBackend msg => startBackend config machine msg
  | .receive msg => receive machine msg
  | .handle => ((program config).handle machine).1
  | .serve => machine.serve
  | .method turn => method config machine turn
  | .timeout => machine.notify .timeout
  | .aaa report msg => aaa config machine report msg

def callbacks (machine : Machine) : Input → List AuthCallback
  | .handle => ((program config).handle machine).2
  | _ => []

end AuthSwitch

end OpenDiameter.Eap
