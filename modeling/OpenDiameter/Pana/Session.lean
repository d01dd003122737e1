import OpenDiameter.Pana.Message

/-! The part of a PANA session that clients and authentication agents share.

Random numbers, the clock of the retransmissions and the answers of the application
come with each step. What is passed to the channel and to the application is recorded;
the release of messages and log output are left out.
-/

set_option autoImplicit false

namespace OpenDiameter.Pana

open Foundation

section Attributes

/-- Whose `TxPrepareMessage` is called. -/
inductive Role where
  | pac | paa
  deriving DecidableEq, Repr

structure Timers where
  retry : Bool := false
  session : Bool := false
  eapResp : Bool := false
  deriving DecidableEq, Repr

structure AuthorizationArgs where
  pacAddress : InetAddr
  paaAddress : InetAddr
  key : Option Octets
  lifetime : UInt32
  deriving DecidableEq, Repr

/-- The calls of a `PANA_SessionEventInterface`. -/
inductive Callback where
  | eapStart
  | authorize (args : AuthorizationArgs)
  | disconnect (cause : UInt32)
  | eapAltReject
  | error (resultCode : UInt32)
  | eapRequest (payload : Octets)
  | eapResponse (payload : Octets)
  deriving DecidableEq, Repr

/-- `PANA_SessionAttribute`, the auxillary variables and the security association. -/
structure Session where
  role : Role
  sessionId : UInt32
  pacAddress : InetAddr
  paaAddress : InetAddr
  lastTxSeqNum : SerialNumber
  lastRxSeqNum : SerialNumber
  lastTxReqMsg : Option Message
  cachedAnsMsg : Option Message
  sessionLifetime : UInt32
  lastRxHeader : MsgHeader
  sa : SecurityAssociation
  authorized : Bool
  algorithmIsSet : Bool
  rxMsgQueue : List Message
  txEapMessageQueue : List Octets
  timers : Timers
  sent : List Message
  /-- What the application was called with, the oldest first. -/
  told : List Callback
  deriving DecidableEq, Repr

structure Config where
  eapPiggyback : Bool
  optimizedHandshake : Bool
  retryPSR : Bool
  sessionLifetime : UInt32
  deriving DecidableEq, Repr

structure Draws where
  isn : UInt32
  /-- The next value of `PANA_MSK::m_GlobalId`. -/
  mskId : UInt32
  nonce : Octets
  key : Option Octets
  reScheduled : Bool
  deriving DecidableEq, Repr

abbrev SessionM := Imperative Session Exception Unit

end Attributes

namespace Session

/-- A session as its constructors leave it, with the number `GenerateISN` draws. The
factory of a PAA chooses the session id, and takes the number of a stateless handshake. -/
def constructed (role : Role) (config : Config) (sessionId isn mskId : UInt32) (pacAddress paaAddress : InetAddr) :
    Session where
  role := role
  sessionId := sessionId
  pacAddress := pacAddress
  paaAddress := paaAddress
  lastTxSeqNum := isn
  lastRxSeqNum := 0
  lastTxReqMsg := none
  cachedAnsMsg := none
  sessionLifetime := config.sessionLifetime
  lastRxHeader := {}
  sa := { mskId := mskId }
  authorized := false
  algorithmIsSet := false
  rxMsgQueue := []
  txEapMessageQueue := []
  timers := {}
  sent := []
  told := []

variable (crypto : Crypto) (config : Config) (draws : Draws) (s : Session)

section Timers

def scheduleSession : Session := { s with timers := { s.timers with session := true } }

def cancelSession : Session := { s with timers := { s.timers with session := false } }

def scheduleEapResponse : Session := { s with timers := { s.timers with eapResp := true } }

def cancelEapResponse : Session := { s with timers := { s.timers with eapResp := false } }

def scheduleTxRetry : Session := { s with timers := { s.timers with retry := true } }

def cancelTxRetry : Session := { s with timers := { s.timers with retry := false } }

def notifyScheduleLifetime : Session := s.scheduleSession

end Timers

section Sending

def txPrepareMessage (msg : Message) : Message :=
  match s.role with
  | .pac => { msg with srcAddress := s.pacAddress, destAddress := s.paaAddress }
  | .paa => { msg with srcAddress := s.paaAddress, destAddress := s.pacAddress }

def send (msg : Message) : Session := { s with sent := s.sent ++ [msg] }

def tell (callback : Callback) : Session := { s with told := s.told ++ [callback] }

def sendReqMsg (msg : Message) (allowRetry : Bool := true) : Session :=
  let prepared := s.txPrepareMessage msg
  let sending := s.send prepared
  { if allowRetry then sending.scheduleTxRetry else sending with lastTxReqMsg := some prepared }

def sendAnsMsg (msg : Message) : Session :=
  let prepared := s.txPrepareMessage msg
  { s.send prepared with cachedAnsMsg := some prepared }

def protect (msg : Message) : Message := if s.sa.authKey.isSet then s.sa.addAuthAvp crypto msg else msg

@[simp] theorem toMsgHeader_txPrepareMessage (msg : Message) :
    (s.txPrepareMessage msg).toMsgHeader = msg.toMsgHeader := by
  unfold txPrepareMessage
  cases s.role <;> rfl

@[simp] theorem avpList_txPrepareMessage (msg : Message) : (s.txPrepareMessage msg).avpList = msg.avpList := by
  unfold txPrepareMessage
  cases s.role <;> rfl

@[simp] theorem toMsgHeader_protect (msg : Message) : (s.protect crypto msg).toMsgHeader = msg.toMsgHeader := by
  unfold protect
  cases s.sa.authKey.isSet <;> rfl

def txRequest (type : MType) (avpList : AvpList := {}) : Session :=
  let s := { s with lastTxSeqNum := s.lastTxSeqNum.increment }
  s.sendReqMsg (s.protect crypto
    { type := type, request := true, sessionId := s.sessionId, seq := s.lastTxSeqNum, avpList := avpList })

def answerHeader (type : MType) : Message := { type := type, seq := s.lastRxSeqNum, sessionId := s.sessionId }

def txAnswer (type : MType) : Session := s.sendAnsMsg (s.protect crypto (s.answerHeader type))

def txPUR : Session := s.txRequest crypto mtypePUR

def txPUA : Session := s.txAnswer crypto mtypePUR

def txPPR : Session := s.txRequest crypto mtypePPR

def txPPA : Session := s.txAnswer crypto mtypePPR

def txPTR (cause : UInt32) : Session := s.cancelSession.txRequest crypto mtypePTR { termCause := some cause }

def txPTA : Session := s.txAnswer crypto mtypePTR

def txPER (rcode : UInt32) : Session :=
  s.cancelEapResponse.txRequest crypto mtypePER
    { resultCode := some rcode, failedMsgHdr := some s.lastRxHeader }

def txPEA : Session := s.sendAnsMsg (s.answerHeader mtypePER)

/-- `TxLastReqMsg`; the last request is sent again unless the retransmission gives up. -/
def txLastReqMsg : Imperative Session Exception Bool := fun s =>
  let s := { s with timers := { s.timers with retry := draws.reScheduled } }
  if draws.reScheduled then
    match s.lastTxReqMsg with
    | none => .error .fault s
    | some msg =>
      let prepared := s.txPrepareMessage msg
      .ok true { s.send prepared with lastTxReqMsg := some prepared }
  else .ok false s

def txLastAnsMsg : SessionM := fun s =>
  match s.cachedAnsMsg with
  | none => .error .fault s
  | some msg => .ok () (s.sendAnsMsg msg)

end Sending

section Ending

/-- `PANA_Session::Reset`. -/
def reset : Session :=
  { s with
    sa := s.sa.reset draws.mskId
    authorized := false
    algorithmIsSet := false
    rxMsgQueue := []
    txEapMessageQueue := []
    sessionId := 0
    lastTxSeqNum := draws.isn
    lastRxSeqNum := 0
    sessionLifetime := config.sessionLifetime }

def finish (callback : Callback) : Session :=
  (s.cancelTxRetry.cancelSession.cancelEapResponse.tell callback).reset config draws

def disconnect (cause : UInt32 := 0) : Session := s.finish config draws (.disconnect cause)

def error (resultCode : UInt32 := 0) : Session := s.finish config draws (.error resultCode)

/-- `IsFatalError`: everything is fatal for the moment. -/
def isFatalError (_ : Session) : Bool := true

end Ending

section Validation

/-- `PANA_Exception` with the code `INVALID_MESSAGE`. -/
def invalid {α : Type} (description : String) : Imperative Session Exception α :=
  Imperative.raise ⟨.invalidMessage, description⟩

/-- The number of a message in `RxValidateMsg`; tells whether it is still to be counted. -/
def validateSeq (msg : Message) : Imperative Session Exception Bool := do
  let s ← get
  if msg.request then
    -- The first request sets the number before anything else of it is checked.
    if s.lastRxSeqNum = 0 then
      modify fun s => { s with lastRxSeqNum := msg.seq }
      return false
    else if s.lastRxSeqNum = msg.seq then
      -- `CachedAnsMsg()` is dereferenced without a test.
      match s.cachedAnsMsg with
      | none => Imperative.fault
      | some cached =>
        if msg.type = cached.type then
          txLastAnsMsg
          invalid "Re-transmitting answer message"
        else invalid "unexpected request msg with invalid seq number"
    else if msg.seq ≠ s.lastRxSeqNum + 1 then invalid "request msg with invalid seq number"
    else return true
  else if msg.seq ≠ s.lastTxSeqNum then invalid "answer msg with invalid seq number"
  else return true

def validateAuth (msg : Message) (skipAuth : Bool) : SessionM := do
  let s ← get
  if !skipAuth && msg.avpList.auth.isSome && s.sa.authKey.isSet && !s.sa.validateAuthAvp crypto msg then
    invalid "PANA session received msg with invalid AUTH value"

def validateSessionId (msg : Message) : SessionM := do
  let s ← get
  if msg.type ≠ mtypePCI ∧ msg.sessionId ≠ s.sessionId then invalid "Received invalid session id"

/-- `RxValidateMsg` after the number. -/
def validateRest (msg : Message) (skipAuth doUpdate : Bool) : SessionM := do
  validateAuth crypto msg skipAuth
  validateSessionId msg
  if msg.request && doUpdate then
    modify fun s => { s with lastRxSeqNum := s.lastRxSeqNum.increment }

def rxValidateMsg (msg : Message) (skipAuth : Bool := false) : SessionM := do
  let doUpdate ← validateSeq msg
  validateRest crypto msg skipAuth doUpdate

end Validation

section Filtering

def saveAddress (msg : Message) : Session :=
  match s.role with
  | .pac => { s with paaAddress := msg.srcAddress }
  | .paa => { s with pacAddress := msg.srcAddress }

@[simp] theorem role_saveAddress (msg : Message) : (s.saveAddress msg).role = s.role := by
  unfold saveAddress
  cases s.role <;> rfl

@[simp] theorem sessionId_saveAddress (msg : Message) : (s.saveAddress msg).sessionId = s.sessionId := by
  unfold saveAddress
  cases s.role <;> rfl

@[simp] theorem lastTxSeqNum_saveAddress (msg : Message) : (s.saveAddress msg).lastTxSeqNum = s.lastTxSeqNum := by
  unfold saveAddress
  cases s.role <;> rfl

@[simp] theorem lastRxSeqNum_saveAddress (msg : Message) : (s.saveAddress msg).lastRxSeqNum = s.lastRxSeqNum := by
  unfold saveAddress
  cases s.role <;> rfl

@[simp] theorem lastTxReqMsg_saveAddress (msg : Message) : (s.saveAddress msg).lastTxReqMsg = s.lastTxReqMsg := by
  unfold saveAddress
  cases s.role <;> rfl

@[simp] theorem cachedAnsMsg_saveAddress (msg : Message) : (s.saveAddress msg).cachedAnsMsg = s.cachedAnsMsg := by
  unfold saveAddress
  cases s.role <;> rfl

@[simp] theorem sa_saveAddress (msg : Message) : (s.saveAddress msg).sa = s.sa := by
  unfold saveAddress
  cases s.role <;> rfl

@[simp] theorem rxMsgQueue_saveAddress (msg : Message) : (s.saveAddress msg).rxMsgQueue = s.rxMsgQueue := by
  unfold saveAddress
  cases s.role <;> rfl

@[simp] theorem sent_saveAddress (msg : Message) : (s.saveAddress msg).sent = s.sent := by
  unfold saveAddress
  cases s.role <;> rfl

@[simp] theorem told_saveAddress (msg : Message) : (s.saveAddress msg).told = s.told := by
  unfold saveAddress
  cases s.role <;> rfl

def saveHeader (msg : Message) : Session := { s with lastRxHeader := msg.toMsgHeader }

def enqueueRx (msg : Message) : Session := { s with rxMsgQueue := s.rxMsgQueue ++ [msg] }

def demand (request : Bool) (description : String) (msg : Message) : SessionM := do
  if msg.request ≠ request then invalid description

def queued {Event : Type} (event : Message → Event) (msg : Message) : Imperative Session Exception Event := do
  modify fun s => ((s.saveAddress msg).saveHeader msg).enqueueRx msg
  return event msg

end Filtering

section Receiving

/-- `RxMsgQueue().Dequeue()`; an empty queue has no front. -/
def dequeueRx : Imperative Session Exception Message := fun s =>
  match s.rxMsgQueue with
  | [] => .error .fault s
  | msg :: rest => .ok msg { s with rxMsgQueue := rest }

/-- `TxEapMessageQueue().Dequeue()`. -/
def dequeueEap : Imperative Session Exception Octets := fun s =>
  match s.txEapMessageQueue with
  | [] => .error .fault s
  | block :: rest => .ok block { s with txEapMessageQueue := rest }

theorem after_dequeueRx_bind {α : Type} (next : Message → Imperative Session Exception α) :
    (dequeueRx >>= next).after s = match s.rxMsgQueue with
      | [] => s
      | msg :: rest => (next msg).after { s with rxMsgQueue := rest } := by
  unfold Imperative.after
  rw [Imperative.bind_run]
  unfold dequeueRx
  cases s.rxMsgQueue <;> rfl

theorem after_dequeueEap_bind {α : Type} (next : Octets → Imperative Session Exception α) :
    (dequeueEap >>= next).after s = match s.txEapMessageQueue with
      | [] => s
      | block :: rest => (next block).after { s with txEapMessageQueue := rest } := by
  unfold Imperative.after
  rw [Imperative.bind_run]
  unfold dequeueEap
  cases s.txEapMessageQueue <;> rfl

def rxPUA : SessionM := do
  let _ ← dequeueRx
  modify cancelTxRetry

def rxPPR : SessionM := do
  let _ ← dequeueRx
  modify (txPPA crypto)

def rxPUR : SessionM := do
  let _ ← dequeueRx
  modify (txPUA crypto)

def rxPPA : SessionM := do
  let _ ← dequeueRx
  modify cancelTxRetry

def rxPTR : SessionM := do
  let msg ← dequeueRx
  modify (txPTA crypto)
  modify fun s => s.disconnect config draws (msg.avpList.termCause.getD termCauseAdministrative)

def rxPTA : SessionM := do
  let _ ← dequeueRx
  modify fun s => s.disconnect config draws termCauseLogout

def rxPER : SessionM := do
  let msg ← dequeueRx
  match msg.avpList.resultCode with
  | none => Imperative.raise ⟨.failed, "No Result-Code AVP in PER message"⟩
  | some rcode => modify fun s => s.error config draws rcode

def rxPEA : SessionM := do
  let _ ← dequeueRx
  modify cancelTxRetry
  modify fun s => s.disconnect config draws

end Receiving

end Session

end OpenDiameter.Pana
