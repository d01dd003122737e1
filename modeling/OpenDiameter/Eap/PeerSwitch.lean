import OpenDiameter.Eap.Policy
import OpenDiameter.Framework.EventMachine

/-! The switch state machine of an EAP peer.

Methods are other machines that are served from the same queue of jobs: what they
do to the switch is an input of it. So are the timers that expire and the answers
of the application. The encoding of the messages sent and log output are left out.
-/

set_option autoImplicit false

namespace OpenDiameter.Eap

open Foundation OpenDiameter.Framework

inductive PeerState where
  | disabled | stInitialize | idle | received | method | getMethod | discard | retransmit | sendResponse
  | identity | notification | success | failure
  deriving DecidableEq, Repr

/-- `EapPeerSwitchStateMachine::event` and the internal events of the table. -/
inductive PeerEvent where
  | rxMsg | sgPortEnabled | sgValidReq | sgInvalidReq
  | uct | sgNewMethod | sgContMethod | sgEnterMethod | sgNoEnterMethod | sgSuccess | sgFailure | sgRetransmit
  | sgUserInputFinished | sgNotificationOutputFinished | rxNotification | rxIdentity | evElse | timeout
  | toCheckIdentity
  deriving DecidableEq, Repr

inductive PeerAction where
  | null | acInitialize | retransmit | checkTimeoutCondition | sendSuccess | sendFailure | buildResp
  | doIntegrityCheck | doPolicyCheck | discard | buildNak | parseNotification | buildNotification
  | parseIdentity | buildIdentity | startTimer | checkRxQueue | receiveMsg | checkIdentity
  deriving DecidableEq, Repr

section Table

def peerEntry (prev : PeerState) (ev : PeerEvent) (next : PeerState) (ac : PeerAction := .null) :
    StateTableEntry PeerState PeerEvent PeerAction :=
  ⟨prev, some ev, next, ac⟩

def peerWildcardEntry (prev next : PeerState) : StateTableEntry PeerState PeerEvent PeerAction :=
  ⟨prev, none, next, .null⟩

/-- `EapPeerSwitchStateTable_S`. -/
def peerSwitchStateTable : StateTable PeerState PeerEvent PeerAction :=
  [ peerEntry .disabled .sgPortEnabled .stInitialize .acInitialize,
    peerEntry .stInitialize .uct .idle .startTimer,
    peerEntry .idle .rxMsg .received .receiveMsg,
    peerEntry .idle .timeout .idle .checkTimeoutCondition,
    peerEntry .idle .sgSuccess .success .sendSuccess,
    peerEntry .idle .sgFailure .failure .sendFailure,
    peerEntry .received .sgSuccess .success .sendSuccess,
    peerEntry .received .sgFailure .failure .sendFailure,
    peerEntry .received .sgRetransmit .retransmit .retransmit,
    peerEntry .received .sgContMethod .method .doIntegrityCheck,
    peerEntry .received .sgNewMethod .getMethod .doPolicyCheck,
    peerEntry .received .rxNotification .notification .parseNotification,
    peerEntry .received .rxIdentity .identity .parseIdentity,
    peerEntry .received .evElse .discard .discard,
    peerEntry .identity .sgUserInputFinished .identity .buildIdentity,
    peerEntry .identity .uct .sendResponse .buildResp,
    peerEntry .identity .timeout .failure .sendFailure,
    peerEntry .identity .toCheckIdentity .identity .checkIdentity,
    peerWildcardEntry .identity .identity,
    peerEntry .notification .sgNotificationOutputFinished .notification .buildNotification,
    peerEntry .notification .uct .sendResponse .buildResp,
    peerEntry .notification .timeout .failure .sendFailure,
    peerEntry .notification .evElse .discard .discard,
    peerWildcardEntry .notification .identity,
    peerEntry .getMethod .sgEnterMethod .method .doIntegrityCheck,
    peerEntry .getMethod .sgNoEnterMethod .sendResponse .buildNak,
    peerWildcardEntry .getMethod .getMethod,
    peerEntry .method .sgValidReq .sendResponse .buildResp,
    peerEntry .method .sgInvalidReq .discard .discard,
    peerEntry .method .sgFailure .failure .sendFailure,
    peerEntry .method .timeout .method .checkTimeoutCondition,
    peerEntry .method .sgSuccess .success .sendSuccess,
    peerWildcardEntry .method .method,
    peerEntry .discard .uct .idle .checkRxQueue,
    peerEntry .success .rxMsg .success .receiveMsg,
    peerWildcardEntry .success .success,
    peerEntry .failure .rxMsg .failure .receiveMsg,
    peerWildcardEntry .failure .failure,
    peerEntry .retransmit .uct .sendResponse,
    peerEntry .sendResponse .uct .idle .checkRxQueue ]

theorem peerSwitchStateTable_constructs :
    StateTable.construct peerSwitchStateTable = some peerSwitchStateTable := by
  decide +kernel

end Table

inductive PeerDecision where
  | fail | condSucc | uncondSucc
  deriving DecidableEq, Repr

inductive PeerMethodState where
  | none | init | cont | mayCont | done
  deriving DecidableEq, Repr

/-- What a message to be sent contains, before it is encoded. -/
inductive TxContent where
  | nak (types : List EapType)
  | notification
  | identity (data : Octets)
  | method (payload : Octets)
  deriving DecidableEq, Repr

/-- The message last handed to `SetTxMessage`, with the identifier of its header once
that is composed. -/
structure TxMessage where
  content : TxContent
  identifier : Option UInt8 := none
  deriving DecidableEq, Repr

/-- `keyData` of a method, and the integrity checks it has been asked for. -/
structure MethodMachine where
  keyData : Octets
  asked : Nat
  deriving DecidableEq, Repr

/-- The attributes of an `EapPeerSwitchStateMachine`. The application may answer
`InputIdentity` before the switch looks at the future (`prompt`) or later. -/
structure PeerData where
  policy : EapPolicy
  notificationAllowed : Bool
  methodState : PeerMethodState
  decision : PeerDecision
  keyData : Octets
  keyAvailable : Bool
  currentIdentifier : UInt8
  lastIdentifier : UInt8
  lastIdValidity : Bool
  receivedFirstRequest : Bool
  currentMethod : EapType
  reqMethod : EapType
  rxQueue : List EapMessage
  rxMessage : Option EapMessage
  txMessage : Option TxMessage
  discardCount : Nat
  methodStateMachine : Option MethodMachine
  peerIdentity : Octets
  authenticatorIdentity : Octets
  notificationStr : Octets
  prompt : Option Octets
  futureIdentity : Option Octets
  deriving DecidableEq, Repr

/-- What a switch asks of the application and of the timers. -/
inductive PeerCallback where
  | success | failure | abort
  | send (msg : Option TxMessage)
  | notification (str : Octets)
  | inputIdentity
  | scheduleTimer (event : PeerEvent)
  | cancelTimer (event : PeerEvent)
  /-- `dequeue_head` of an empty queue waits for a message. -/
  | blocked
  | nullPointer
  deriving DecidableEq, Repr

structure PeerConfig where
  heap : PolicyHeap
  registered : EapType → Bool

namespace PeerSwitch

abbrev PeerReaction := Reaction PeerEvent PeerData PeerCallback

variable (config : PeerConfig) (sm : PeerData)

section Actions

def raise (event : PeerEvent) : PeerReaction := { data := sm, raised := some event }

def nullPointer : PeerReaction := { data := sm, callbacks := [.nullPointer] }

def subAcSendResp : PeerReaction := { data := sm, notified := [.uct], callbacks := [.send sm.txMessage] }

def composed (content : TxContent) : PeerData :=
  { sm with txMessage := some ⟨content, some sm.currentIdentifier⟩, lastIdValidity := true }

def acInitialize : PeerReaction :=
  raise { sm with notificationAllowed := true, methodState := .none } .uct

def acRetransmit : PeerReaction := { subAcSendResp sm with raised := some .uct }

def acCheckTimeoutCondition : PeerReaction :=
  if sm.policy.isSatisfied && sm.decision == .condSucc then raise sm .sgSuccess else raise sm .sgFailure

def acSendSuccess : PeerReaction where
  data := { sm with keyAvailable := sm.keyAvailable || !sm.keyData.isEmpty }
  callbacks := [.cancelTimer .timeout, .success]

def acSendFailure : PeerReaction := { data := sm, callbacks := [.cancelTimer .timeout, .failure] }

def acBuildResp : PeerReaction :=
  match sm.txMessage with
  | none => nullPointer sm
  | some msg =>
    let responded := { composed sm msg.content with lastIdentifier := sm.currentIdentifier }
    if sm.methodState = .none ∨ sm.methodState = .init then subAcSendResp responded
    else
      match sm.methodStateMachine with
      | none => nullPointer responded
      | some method =>
        subAcSendResp (if method.keyData.isEmpty then responded else { responded with keyData := method.keyData })

def acDoIntegrityCheck : PeerReaction :=
  match sm.methodStateMachine with
  | none => nullPointer sm
  | some method => { data := { sm with methodStateMachine := some { method with asked := method.asked + 1 } } }

def deleteMethodStateMachine : PeerData :=
  if sm.methodStateMachine.isSome then { sm with methodStateMachine := none, currentMethod := { type := 0 } } else sm

def acDoPolicyCheck : PeerReaction :=
  let type := sm.reqMethod
  let allowMethod :=
    if type = { type := 1 } then sm.currentMethod == { type := 0 } else sm.policy.allow config.heap type
  if allowMethod then
    let deleted := deleteMethodStateMachine { sm with currentMethod := type }
    if config.registered type then
      raise { deleted with methodStateMachine := some ⟨[], 0⟩, methodState := .init } .sgEnterMethod
    else { data := { deleted with methodState := .init }, callbacks := [.abort, .nullPointer] }
  else raise sm .sgNoEnterMethod

def acDiscard : PeerReaction := raise { sm with discardCount := sm.discardCount + 1 } .uct

def acBuildNak : PeerReaction :=
  subAcSendResp (composed sm (.nak (sm.policy.makeTypeList config.heap sm.currentMethod.isVSE)))

def acParseNotification : PeerReaction :=
  match sm.rxMessage with
  | none => nullPointer sm
  | some msg =>
    if utf8Checker msg.typeData then
      { data := { sm with notificationStr := msg.typeData }
        callbacks := [.notification msg.typeData]
        raised := some .sgNotificationOutputFinished }
    else raise sm .evElse

def acBuildNotification : PeerReaction := raise { sm with txMessage := some { content := .notification } } .uct

def acParseIdentity : PeerReaction :=
  match sm.rxMessage with
  | none => nullPointer sm
  | some msg =>
    if utf8Checker msg.typeData then
      let asked := { sm with authenticatorIdentity := msg.typeData, futureIdentity := sm.prompt }
      match sm.prompt with
      | some identity =>
        { data := { asked with peerIdentity := identity }
          notified := [.sgUserInputFinished]
          callbacks := [.inputIdentity] }
      | none =>
        { data := asked, callbacks := [.inputIdentity, .cancelTimer .toCheckIdentity, .scheduleTimer .toCheckIdentity] }
    else raise sm .evElse

def acBuildIdentity : PeerReaction :=
  if utf8Checker sm.peerIdentity then
    raise { sm with txMessage := some { content := .identity sm.peerIdentity }, lastIdValidity := true } .uct
  else raise sm .evElse

def acStartTimer : PeerReaction := { data := sm, callbacks := [.cancelTimer .timeout, .scheduleTimer .timeout] }

def acCheckRxQueue : PeerReaction := if sm.rxQueue.isEmpty then { data := sm } else raise sm .rxMsg

def subAcCheckSuccessCondition : PeerReaction :=
  if sm.decision ≠ .fail then raise sm .sgSuccess
  else if sm.methodState ≠ .cont then raise sm .sgFailure
  else raise sm .evElse

def subAcCheckFailureCondition : PeerReaction :=
  if sm.methodState ≠ .cont ∧ sm.decision ≠ .uncondSucc then raise sm .sgFailure else raise sm .evElse

def subAcParseRequest (msg : EapMessage) : PeerReaction :=
  let type := msg.type
  let parsed := { sm with reqMethod := type }
  if type = { type := 2 } then
    if !sm.notificationAllowed then raise parsed .evElse
    else raise { parsed with currentMethod := type } .rxNotification
  else if sm.currentMethod = { type := 0 } ∧ type = { type := 1 } then raise parsed .rxIdentity
  else if sm.currentMethod = { type := 0 } then raise parsed .sgNewMethod
  else if type = sm.currentMethod ∧ sm.methodState ≠ .done then raise parsed .sgContMethod
  else raise parsed .evElse

def acReceiveMsg : PeerReaction :=
  match sm.rxQueue with
  | [] => { data := sm, callbacks := [.blocked] }
  | msg :: rest =>
    let taken := { sm with rxQueue := rest, rxMessage := some msg }
    if msg.code ≠ codeRequest ∧ msg.code ≠ codeSuccess ∧ msg.code ≠ codeFailure then raise taken .evElse
    else if msg.code = codeRequest then
      if sm.receivedFirstRequest ∧ msg.identifier = sm.lastIdentifier then
        if sm.lastIdValidity then raise taken .sgRetransmit else raise taken .evElse
      else
        subAcParseRequest { taken with currentIdentifier := msg.identifier, receivedFirstRequest := true } msg
    else if msg.code = codeSuccess then subAcCheckSuccessCondition taken
    else subAcCheckFailureCondition taken

def acCheckIdentity : PeerReaction :=
  match sm.futureIdentity with
  | some identity =>
    { data := { sm with peerIdentity := identity }
      notified := [.sgUserInputFinished]
      callbacks := [.cancelTimer .toCheckIdentity, .cancelTimer .toCheckIdentity] }
  | none =>
    { data := sm
      callbacks := [.cancelTimer .toCheckIdentity, .cancelTimer .toCheckIdentity, .scheduleTimer .toCheckIdentity] }

def perform (ac : PeerAction) : PeerReaction :=
  match ac with
  | .null => { data := sm }
  | .acInitialize => acInitialize sm
  | .retransmit => acRetransmit sm
  | .checkTimeoutCondition => acCheckTimeoutCondition sm
  | .sendSuccess => acSendSuccess sm
  | .sendFailure => acSendFailure sm
  | .buildResp => acBuildResp sm
  | .doIntegrityCheck => acDoIntegrityCheck sm
  | .doPolicyCheck => acDoPolicyCheck config sm
  | .discard => acDiscard sm
  | .buildNak => acBuildNak config sm
  | .parseNotification => acParseNotification sm
  | .buildNotification => acBuildNotification sm
  | .parseIdentity => acParseIdentity sm
  | .buildIdentity => acBuildIdentity sm
  | .startTimer => acStartTimer sm
  | .checkRxQueue => acCheckRxQueue sm
  | .receiveMsg => acReceiveMsg sm
  | .checkIdentity => acCheckIdentity sm

end Actions

def program : MachineProgram PeerState PeerEvent PeerAction PeerData PeerCallback where
  table := peerSwitchStateTable
  initialState := .disabled
  perform ac sm := perform config sm ac

abbrev Machine := EventMachine PeerState PeerEvent PeerData

/-- `EvSgValidReq` or `EvSgInvalidReq`, the events that are for methods to use. -/
inductive MethodReport where
  | valid | invalid
  deriving DecidableEq, Repr

def MethodReport.peerEvent : MethodReport → PeerEvent
  | .valid => .sgValidReq
  | .invalid => .sgInvalidReq

/-- What a method does in a turn: it may set the variables of the switch, prepare a
message, and report to the switch by `Event` or by `Notify`. -/
structure MethodTurn where
  methodState : Option PeerMethodState := none
  decision : Option PeerDecision := none
  keyData : Option Octets := none
  txMessage : Option TxMessage := none
  event : Option MethodReport := none
  notified : Option MethodReport := none
  deriving DecidableEq, Repr

inductive PeerTimer where
  | auth | inputIdentity
  deriving DecidableEq, Repr

def PeerTimer.event : PeerTimer → PeerEvent
  | .auth => .timeout
  | .inputIdentity => .toCheckIdentity

inductive Input where
  | start
  | receive (msg : EapMessage)
  /-- The event passed to `Event` is handled. -/
  | handle
  /-- The next event is taken off the queue. -/
  | serve
  | method (turn : MethodTurn)
  | timeout (timer : PeerTimer)
  /-- `InputIdentity` returns, or will return when it is called. -/
  | identity (answer : Octets)
  deriving DecidableEq, Repr

def MethodTurn.apply (turn : MethodTurn) (method : MethodMachine) : PeerData :=
  { sm with
    methodState := turn.methodState.getD sm.methodState
    decision := turn.decision.getD sm.decision
    txMessage := turn.txMessage.orElse fun _ => sm.txMessage
    methodStateMachine := some ⟨turn.keyData.getD method.keyData, method.asked - 1⟩ }

/-- `EapPeerSwitchStateMachine::Start`. -/
def start (machine : Machine) : Machine :=
  let sm := deleteMethodStateMachine { machine.data with policy := machine.data.policy.restart }
  { (program config).start machine with
    data := { sm with
      lastIdValidity := false
      currentIdentifier := 0
      currentMethod := { type := 0 }
      keyAvailable := false
      keyData := [] } }.notify .sgPortEnabled

/-- `EapPeerSwitchStateMachine::Receive`. -/
def receive (machine : Machine) (msg : EapMessage) : Machine :=
  { machine with data := { machine.data with rxQueue := machine.data.rxQueue ++ [msg] } }.notify .rxMsg

def method (machine : Machine) (turn : MethodTurn) : Machine :=
  match machine.raised, machine.data.methodStateMachine with
  | none, some msm =>
    if msm.asked = 0 then machine
    else
      { machine with
        data := turn.apply machine.data msm
        raised := turn.event.map (·.peerEvent)
        events := machine.events ++ (turn.notified.map (·.peerEvent)).toList }
  | _, _ => machine

def take (machine : Machine) : Input → Machine
  | .start => start config machine
  | .receive msg => receive machine msg
  | .handle => ((program config).handle machine).1
  | .serve => machine.serve
  | .method turn => method machine turn
  | .timeout timer => machine.notify timer.event
  | .identity answer =>
    { machine with data := { machine.data with prompt := some answer, futureIdentity := some answer } }

def callbacks (machine : Machine) : Input → List PeerCallback
  | .handle => ((program config).handle machine).2
  | _ => []

/-- What the constructors set of the attributes; all others are arbitrary. -/
structure Constructed (machine : Machine) : Prop where
  running : machine.running = false
  raised : machine.raised = none
  events : machine.events = []
  currentMethod : machine.data.currentMethod = { type := 0 }
  rxQueue : machine.data.rxQueue = []
  txMessage : machine.data.txMessage = none
  rxMessage : machine.data.rxMessage = none
  methodStateMachine : machine.data.methodStateMachine = none
  keyAvailable : machine.data.keyAvailable = false
  receivedFirstRequest : machine.data.receivedFirstRequest = false

end PeerSwitch

end OpenDiameter.Eap
