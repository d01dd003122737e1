import OpenDiameter.Framework.StateTable
import OpenDiameter.Peer.Capabilities

/-! The accounting sub-session of a client and its state machine.

An event is handled at once when it is notified, also one that `TxACR` notifies from
within the action of another. What the record collector and the router return comes
with each input, and the attributes are what the application, the configuration and
the answers make of them.
-/

set_option autoImplicit false

namespace OpenDiameter.Session

open Foundation OpenDiameter.Framework OpenDiameter.Peer

section Vocabulary

inductive AcctState where
  | idle | opened | pendingS | pendingI | pendingE | pendingB | pendingL
  deriving DecidableEq, Repr

/-- `AAA_SESSION_EV_ACCT`, as far as a client notifies them. -/
inductive AcctEvent where
  | requestAccess | requestOnetimeAccess | recInStorage | rxAcaOk | ftsNotDag | ftsAndGal | ftsNotGal
  | rxAcaFailAndGal | rxAcaFailNotGal | intExpire | rxAcaFail | fts | ftsBuf | ftsNoBuf | sessionTout | stop
  deriving DecidableEq, Repr

/-- `DIAMETER_MSGCODE_ACCOUNTING`. -/
def msgCodeAccounting : UInt32 := 271

/-- `DIAMETER_ACCT_RECTYPE`. -/
def rectypeEvent : UInt32 := 1
def rectypeStart : UInt32 := 2
def rectypeInterim : UInt32 := 3
def rectypeStop : UInt32 := 4

/-- `DIAMETER_ACCT_REALTIME`. -/
def realtimeDeliverAndGrant : UInt32 := 1
def realtimeGrantAndStore : UInt32 := 2
def realtimeGrantAndLose : UInt32 := 3

inductive AcctTimer where
  | interval | session
  deriving DecidableEq, Repr

def AcctTimer.event : AcctTimer → AcctEvent
  | .interval => .intExpire
  | .session => .sessionTout

/-- `DiameterAcctSessionAttributes`, as far as the machine reads or sends them. -/
structure AcctAttributes where
  sessionTimeout : UInt32
  realtimeRequired : UInt32
  interimInterval : UInt32
  recordType : UInt32 := rectypeEvent
  recordNumber : UInt32 := 0
  radiusAcctSessionId : Option Octets := none
  multiSessionId : Option Octets := none
  backwardCompatibility : Bool := false
  deriving DecidableEq, Repr

/-- The AVPs of an ACR that depend on the attributes. -/
structure AccountingRequest where
  recordNumber : UInt32
  recordType : UInt32
  realtimeRequired : UInt32
  interimInterval : UInt32
  radiusAcctSessionId : Option Octets
  multiSessionId : Option Octets
  deriving DecidableEq, Repr

/-- An answer, and the AVPs that `RxAnswer` looks for. -/
structure AccountingAnswer where
  code : UInt32
  resultCode : Option UInt32
  recordType : Option UInt32 := none
  realtimeRequired : Option UInt32 := none
  interimInterval : Option UInt32 := none
  deriving DecidableEq, Repr

def AccountingAnswer.succeeds (answer : AccountingAnswer) : Bool :=
  answer.resultCode.getD 0 != 0 && interpretedResultCode (answer.resultCode.getD 0) == .success

structure AcctTurn where
  /-- `TxDelivery` returns `AAA_ERR_SUCCESS`. -/
  delivered : Bool
  recordInStorage : Bool
  storageSpace : Bool
  deriving DecidableEq, Repr

inductive AcctEffect where
  | dumpEvent (state : AcctState) (event : AcctEvent)
  | generateRecord (recordType recordNumber : UInt32)
  /-- `TxDelivery`, the state it is called in, and whether it returned `AAA_ERR_SUCCESS`. The
  message is an ACR or one of the application. -/
  | txDelivery (state : AcctState) (request : Option AccountingRequest) (delivered : Bool)
  | storeLastRecord (recordType : UInt32)
  | deleteLastRecord (recordType : UInt32)
  | failed (recordNumber : UInt32)
  | success | reset
  deriving DecidableEq, Repr

/-- `DiameterClientAcctSubSession` and the state and timers of its machine. -/
structure AcctSession where
  state : AcctState
  attributes : AcctAttributes
  timers : AcctTimer → Option UInt32

/-- The constructor, with what it takes from the configuration. -/
def AcctSession.initial (attributes : AcctAttributes) : AcctSession where
  state := .idle
  attributes
  timers _ := none

end Vocabulary

section Table

inductive AcctAction where
  | null | txACR | rxACASuccess | interimTimeout | storeStartRecord | storeStopRecord | storeInterimRecord
  | storeEventRecord | startIntTimer | deleteRecord | disconnect
  deriving DecidableEq, Repr

def acctEntry (prev : AcctState) (ev : AcctEvent) (next : AcctState) (ac : AcctAction) :
    StateTableEntry AcctState AcctEvent AcctAction :=
  ⟨prev, some ev, next, ac⟩

def acctWildcardEntry (prev next : AcctState) : StateTableEntry AcctState AcctEvent AcctAction :=
  ⟨prev, none, next, .null⟩

/-- `DiameterSessAcctClientStateTable`. -/
def acctClientStateTable : StateTable AcctState AcctEvent AcctAction :=
  [ acctEntry .idle .requestAccess .pendingS .txACR,
    acctEntry .idle .requestOnetimeAccess .pendingE .txACR,
    acctEntry .idle .recInStorage .pendingB .txACR,
    acctWildcardEntry .idle .idle,
    acctEntry .pendingS .rxAcaOk .opened .rxACASuccess,
    acctEntry .pendingS .ftsNotDag .opened .storeStartRecord,
    acctEntry .pendingS .ftsAndGal .opened .startIntTimer,
    acctEntry .pendingS .ftsNotGal .idle .disconnect,
    acctEntry .pendingS .rxAcaFailAndGal .opened .startIntTimer,
    acctEntry .pendingS .rxAcaFailNotGal .idle .disconnect,
    acctEntry .pendingS .stop .pendingS .storeStopRecord,
    acctWildcardEntry .pendingS .pendingS,
    acctEntry .opened .intExpire .pendingI .interimTimeout,
    acctEntry .opened .stop .pendingL .txACR,
    acctWildcardEntry .opened .opened,
    acctEntry .pendingI .rxAcaOk .opened .rxACASuccess,
    acctEntry .pendingI .ftsNotDag .opened .storeInterimRecord,
    acctEntry .pendingI .ftsAndGal .opened .startIntTimer,
    acctEntry .pendingI .ftsNotGal .idle .disconnect,
    acctEntry .pendingI .rxAcaFailAndGal .opened .startIntTimer,
    acctEntry .pendingI .rxAcaFailNotGal .idle .disconnect,
    acctEntry .pendingI .stop .pendingI .storeStopRecord,
    acctWildcardEntry .pendingI .pendingI,
    acctEntry .pendingE .rxAcaOk .idle .rxACASuccess,
    acctEntry .pendingE .ftsBuf .idle .storeEventRecord,
    acctEntry .pendingE .ftsNoBuf .idle .null,
    acctEntry .pendingE .rxAcaFail .idle .null,
    acctWildcardEntry .pendingE .pendingE,
    acctEntry .pendingB .rxAcaOk .idle .rxACASuccess,
    acctEntry .pendingB .fts .idle .null,
    acctEntry .pendingB .rxAcaFail .idle .deleteRecord,
    acctWildcardEntry .pendingB .pendingB,
    acctEntry .pendingL .rxAcaOk .idle .rxACASuccess,
    acctEntry .pendingL .ftsBuf .idle .storeStopRecord,
    acctEntry .pendingL .ftsNoBuf .idle .null,
    acctEntry .pendingL .rxAcaFail .idle .null,
    acctWildcardEntry .pendingL .pendingL ]

theorem acctClientStateTable_constructs :
    StateTable.construct acctClientStateTable = some acctClientStateTable := by
  decide +kernel

end Table

section Actions

namespace AcctSession

variable (session : AcctSession)

def cancelAllTimer : AcctSession := { session with timers := fun _ => none }

def scheduleTimer (timer : AcctTimer) (sec : UInt32) : AcctSession :=
  { session with timers := Function.update session.timers timer (some sec) }

def setRecordType (recordType : UInt32) : AcctSession :=
  { session with attributes := { session.attributes with recordType } }

/-- `++ RecordNumber()()`. -/
def nextRecord : AcctSession :=
  { session with attributes := { session.attributes with recordNumber := session.attributes.recordNumber + 1 } }

def request : AccountingRequest where
  recordNumber := session.attributes.recordNumber
  recordType := session.attributes.recordType
  realtimeRequired := session.attributes.realtimeRequired
  interimInterval := session.attributes.interimInterval
  radiusAcctSessionId := session.attributes.radiusAcctSessionId
  multiSessionId := session.attributes.multiSessionId

/-- The event of a failure to send; `TxACR` and `Send` have a copy each. -/
def ftsEvent (turn : AcctTurn) : AcctEvent :=
  if turn.recordInStorage then .fts
  else if session.attributes.recordType = rectypeEvent ∨ session.attributes.recordType = rectypeStop then
    if turn.storageSpace then .ftsBuf else .ftsNoBuf
  else if turn.storageSpace ∧ session.attributes.realtimeRequired ≠ realtimeDeliverAndGrant then .ftsNotDag
  else if session.attributes.realtimeRequired = realtimeGrantAndLose then .ftsAndGal
  else .ftsNotGal

def failureEvent (turn : AcctTurn) : AcctEvent :=
  if turn.recordInStorage ∨ session.attributes.recordType = rectypeStop ∨
      session.attributes.recordType = rectypeEvent then .rxAcaFail
  else if session.attributes.realtimeRequired = realtimeDeliverAndGrant then .rxAcaFailAndGal
  else .rxAcaFailNotGal

/-- A call of `TxACR` or `Send` that could not deliver. -/
def failToSend (notify : AcctSession → AcctEvent → AcctSession × List AcctEffect) (turn : AcctTurn) :
    AcctSession × List AcctEffect :=
  let (after, effects) := notify session (session.ftsEvent turn)
  (after, effects ++ [.failed after.attributes.recordNumber])

def txACR (notify : AcctSession → AcctEvent → AcctSession × List AcctEffect) (turn : AcctTurn) :
    AcctSession × List AcctEffect :=
  let next := session.nextRecord
  let record := .generateRecord next.attributes.recordType next.attributes.recordNumber
  if next.attributes.backwardCompatibility then (next, [record])
  else if turn.delivered then (next, [record, .txDelivery next.state (some next.request) true])
  else
    let (after, effects) := next.failToSend notify turn
    (after, record :: .txDelivery next.state (some next.request) false :: effects)

def rxACASuccess (turn : AcctTurn) : AcctSession × List AcctEffect :=
  if turn.recordInStorage then (session, [.deleteLastRecord session.attributes.recordType, .success])
  else if session.attributes.recordType = rectypeStart ∨ session.attributes.recordType = rectypeInterim then
    (session.cancelAllTimer.scheduleTimer .interval session.attributes.interimInterval, [.success])
  else (session, [.success])

/-- `DiameterSessAcctClient_StoreRecord<REC_TYPE>`. -/
def storeRecord (recordType : UInt32) : AcctSession × List AcctEffect :=
  let cancelled := session.cancelAllTimer
  if recordType = rectypeStart ∨ recordType = rectypeInterim then
    (cancelled.scheduleTimer .interval session.attributes.interimInterval, [.storeLastRecord recordType])
  else (cancelled, [.storeLastRecord recordType])

def perform (notify : AcctSession → AcctEvent → AcctSession × List AcctEffect) (turn : AcctTurn) :
    AcctAction → AcctSession × List AcctEffect
  | .null => (session, [])
  | .txACR => session.cancelAllTimer.txACR notify turn
  | .rxACASuccess => session.rxACASuccess turn
  | .interimTimeout => (session.cancelAllTimer.setRecordType rectypeInterim).txACR notify turn
  | .storeStartRecord => session.storeRecord rectypeStart
  | .storeStopRecord => session.storeRecord rectypeStop
  | .storeInterimRecord => session.storeRecord rectypeInterim
  | .storeEventRecord => session.storeRecord rectypeEvent
  | .startIntTimer =>
    (session.cancelAllTimer.scheduleTimer .session session.attributes.sessionTimeout, [])
  | .deleteRecord => (session, [.deleteLastRecord session.attributes.recordType])
  | .disconnect => (session.cancelAllTimer, [.reset])

/-- `Process`, where `notify` is what the action calls. -/
def process (notify : AcctSession → AcctEvent → AcctSession × List AcctEffect) (turn : AcctTurn)
    (event : AcctEvent) : AcctSession × List AcctEffect :=
  match acctClientStateTable.findStateTableEntry session.state event with
  | none => (session, [.dumpEvent session.state event])
  | some entry =>
    let (after, effects) := { session with state := entry.nextState }.perform notify turn entry.action
    (after, .dumpEvent session.state event :: effects)

/-- `Notify`, from within `TxACR`. -/
def renotify (turn : AcctTurn) (session : AcctSession) (event : AcctEvent) : AcctSession × List AcctEffect :=
  session.process (fun session _ => (session, [])) turn event

def notify (turn : AcctTurn) (session : AcctSession) (event : AcctEvent) : AcctSession × List AcctEffect :=
  session.process (renotify turn) turn event

end AcctSession

end Actions

section Calls

/-- What the application sets when the recording begins. -/
structure AcctSettings where
  radiusAcctSessionId : Option Octets := none
  multiSessionId : Option Octets := none
  realtimeRequired : Option UInt32 := none
  interimInterval : Option UInt32 := none
  deriving DecidableEq, Repr

inductive AcctInput where
  /-- `Begin`, and what `IsLastRecordInStorage` returns to it. -/
  | begin (oneTime : Bool) (settings : AcctSettings) (recordInStorage : Bool) (turn : AcctTurn)
  /-- `Send`, with a message of the application. -/
  | send (turn : AcctTurn)
  | rxAnswer (answer : AccountingAnswer) (turn : AcctTurn)
  /-- A timer has fired; it may have been cancelled since. -/
  | timeout (timer : AcctTimer) (turn : AcctTurn)
  | endRecording (turn : AcctTurn)
  deriving DecidableEq, Repr

def AcctInput.turn : AcctInput → AcctTurn
  | .begin _ _ _ turn | .send turn | .rxAnswer _ turn | .timeout _ turn | .endRecording turn => turn

namespace AcctSession

variable (session : AcctSession)

/-- `Begin`, as far as the attributes; a multi-session id is taken from the RADIUS id. -/
def adopt (settings : AcctSettings) : AcctSession :=
  { session with
    attributes :=
      { session.attributes with
        radiusAcctSessionId := settings.radiusAcctSessionId.or session.attributes.radiusAcctSessionId
        multiSessionId :=
          if settings.multiSessionId.isSome then settings.radiusAcctSessionId else session.attributes.multiSessionId
        realtimeRequired := settings.realtimeRequired.getD session.attributes.realtimeRequired
        interimInterval := settings.interimInterval.getD session.attributes.interimInterval } }

def «begin» (oneTime : Bool) (settings : AcctSettings) (recordInStorage : Bool) (turn : AcctTurn) :
    AcctSession × List AcctEffect :=
  let session := session.adopt settings
  if recordInStorage then session.notify turn .recInStorage
  else if oneTime then (session.setRecordType rectypeEvent).notify turn .requestOnetimeAccess
  else (session.setRecordType rectypeStart).notify turn .requestAccess

def send (turn : AcctTurn) : AcctSession × List AcctEffect :=
  if turn.delivered then (session, [.txDelivery session.state none true])
  else
    let (after, effects) := session.failToSend (notify turn) turn
    (after, .txDelivery session.state none false :: effects)

def filter (answer : AccountingAnswer) : AcctSession :=
  { session with
    attributes :=
      { session.attributes with
        recordType := answer.recordType.getD session.attributes.recordType
        realtimeRequired := answer.realtimeRequired.getD session.attributes.realtimeRequired
        interimInterval := answer.interimInterval.getD session.attributes.interimInterval } }

def rxAnswer (answer : AccountingAnswer) (turn : AcctTurn) : AcctSession × List AcctEffect :=
  if answer.code ≠ msgCodeAccounting then (session, [])
  else
    let session := session.filter answer
    if answer.succeeds then session.notify turn .rxAcaOk
    else
      let (after, effects) := session.notify turn (session.failureEvent turn)
      (after, effects ++ [.failed after.attributes.recordNumber])

def step : AcctInput → AcctSession × List AcctEffect
  | .begin oneTime settings recordInStorage turn => session.begin oneTime settings recordInStorage turn
  | .send turn => session.send turn
  | .rxAnswer answer turn => session.rxAnswer answer turn
  | .timeout timer turn => session.notify turn timer.event
  | .endRecording turn => (session.setRecordType rectypeStop).cancelAllTimer.notify turn .stop

def take (input : AcctInput) : AcctSession := (session.step input).1

end AcctSession

end Calls

end OpenDiameter.Session
