import OpenDiameter.Eap.AuthSwitch
import OpenDiameter.Foundation.Outcome

/-! The EAP-TLS method of an authenticator.

The TLS library is a parameter: any machine that is given octets and answers with
others, an error code, and whether the handshake is finished.
-/

set_option autoImplicit false

namespace OpenDiameter.Eap

open Foundation OpenDiameter.Framework

section Packets

def tlsMethodType : UInt8 := 13

def tlsStart (flags : UInt8) : Bool := (flags &&& 0x20) >>> 5 != 0

def tlsMoreFragments (flags : UInt8) : Bool := (flags &&& 0x40) >>> 6 != 0

def tlsLengthIncluded (flags : UInt8) : Bool := (flags &&& 0x80) >>> 7 != 0

def setStart (flags : UInt8) : UInt8 := flags ||| 0x20

def setMoreFragments (flags : UInt8) : UInt8 := flags ||| 0x40

def setLengthIncluded (flags : UInt8) : UInt8 := flags ||| 0x80

/-- A received message: the length in its header, and the octets after its type. -/
structure TlsPacket where
  length : UInt16
  octets : Octets
  deriving DecidableEq, Repr

structure EapRequestTls where
  flags : UInt8
  tlsMessageLength : Nat := 0
  data : Option Octets := none
  isAck : Bool := false
  deriving DecidableEq, Repr

def readOctets (block : Octets) (count : Nat) : Octets := (block.take count).rightpad count 0

namespace EapRequestTls

def parsed (flags : UInt8) (tlsMessageLength : Nat) (data : Octets) : EapRequestTls where
  flags := flags
  tlsMessageLength := tlsMessageLength
  data := if data.isEmpty then none else some data
  isAck := data.isEmpty && flags == 0

/-- `EapRequestTlsParser::parseRawToApp`. The length of the header is a signed number. -/
def parseRawToApp (packet : TlsPacket) : Outcome Int EapRequestTls :=
  let lengthPacket := packet.length.toInt16.toInt
  let flags := packet.octets.getD 0 0
  let rest := packet.octets.drop 1
  if !tlsStart flags && lengthPacket < 6 then .thrown (-1)
  else if tlsLengthIncluded flags then
    if lengthPacket < 10 then .thrown (-1)
    else
      .returned (parsed flags (bigEndianValue (readOctets rest 4)) (readOctets (rest.drop 4) (lengthPacket - 10).toNat))
  -- A Start may be shorter than its header: `length_data` wraps, and about 4 GiB are copied.
  else if lengthPacket < 6 then .fault
  else .returned (parsed flags 0 (readOctets rest (lengthPacket - 6).toNat))

/-- `EapRequestTlsParser::parseAppToRaw` into a block of a size: what follows the header. -/
def parseAppToRaw (request : EapRequestTls) (size : Nat) : Octets :=
  let included := tlsLengthIncluded request.flags
  let data := request.data.getD []
  tlsMethodType :: request.flags :: (if included then bigEndian 4 data.length else []) ++
    if tlsStart request.flags then [] else data.take (if included then size - 10 else size - 6)

end EapRequestTls

end Packets

section Sessions

/-- `SSL_get_error` after `SSL_read`. -/
inductive SslError where
  | none | wantRead | syscall | ssl
  deriving DecidableEq, Repr

structure TlsAnswer where
  /-- What is written to the outgoing buffer. -/
  output : Octets
  error : SslError
  finished : Bool
  /-- The content type of the last record is `application_data`. -/
  applicationData : Bool := false
  deriving DecidableEq, Repr

/-- The TLS library on the side of a server. -/
structure TlsEngine where
  State : Type
  accept : State
  read : State → Octets → State × TlsAnswer
  session : State → Bool

def TlsEngine.Waits (engine : TlsEngine) : Prop :=
  ∀ state, (engine.read state []).2.error = .wantRead ∧ (engine.read state []).2.finished = false

structure TlsConfig where
  fragmentSize : Nat
  includeLength : Bool

def maxRecordSize : Nat := 16384

/-- `EAPTLS_session_t_auth`. The library has reported that the handshake is `finished`;
the code has no such attribute. -/
structure TlsSession (engine : TlsEngine) where
  tls : engine.State
  finished : Bool := false
  tlsOut : Octets := []
  dirtyIn : Octets := []
  dirtyOut : Octets := []
  lengthToSend : Nat := 0
  flagsToSend : UInt8 := 0

inductive TlsStatus where
  | stOk | stAlertReceive | stAlertSend
  deriving DecidableEq, Repr

namespace TlsSession

variable {engine : TlsEngine} (ssn : TlsSession engine)

/-- `append_dirty_in`; a record that does not fit is not copied. -/
def appendDirtyIn (record : Option Octets) : TlsSession engine :=
  match record with
  | none => ssn
  | some octets =>
    if ssn.dirtyIn.length + octets.length ≤ maxRecordSize then { ssn with dirtyIn := ssn.dirtyIn ++ octets } else ssn

def setDirtyIn (record : Option Octets) : TlsSession engine := { ssn with dirtyIn := [] }.appendDirtyIn record

/-- `EAPTLS_tls_mng::tls_handshake_recv`. -/
def tlsHandshakeRecv : TlsSession engine × TlsStatus :=
  let (tls, answer) := engine.read ssn.tls ssn.dirtyIn
  let tlsOut := ssn.tlsOut ++ answer.output
  let read := { ssn with tls, finished := ssn.finished || answer.finished, dirtyIn := [] }
  let silent := !answer.applicationData && tlsOut.isEmpty
  let status := if answer.error ≠ .syscall then .stOk else if silent then .stAlertReceive else .stAlertSend
  if answer.applicationData then ({ read with tlsOut }, status)
  else ({ read with dirtyOut := tlsOut.take maxRecordSize, tlsOut := tlsOut.drop maxRecordSize }, status)

/-- `session_close`, which looks at the session that `SSL_get1_session` returns. -/
def sessionClose : Option (TlsSession engine) :=
  if engine.session ssn.tls then some { ssn with dirtyIn := [], dirtyOut := [] } else none

end TlsSession

end Sessions

section Table

/-- The states of `EapAuthTlsStateTable_S`, in the order of their numbers. -/
inductive TlsState where
  | stInitialize | buildStart | processResponseClientHello | verifyAuthMoreFragments | recvAck | sentAck
  | verifyPeerMoreFragments | processResponseSecondWay | sentRequestFinish | processResponseFinish
  | success | buildRequestAlert | processResponseAckAlert | failure
  deriving DecidableEq, Repr

inductive TlsEvent where
  | integrityCheck
  | valid | invalid | moreFragments | noMoreFragments | alertReceive | alertSend
  | unnamed (number : Nat)
  deriving DecidableEq, Repr

def TlsEvent.ofNumber : Nat → TlsEvent
  | 0 => .valid
  | 1 => .invalid
  | 2 => .moreFragments
  | 3 => .noMoreFragments
  | 4 => .alertReceive
  | 5 => .alertSend
  | number => .unnamed number

/-- The event that an action raises once it has called `tls_handshake_recv`. -/
def TlsStatus.event : TlsStatus → TlsEvent
  | .stOk => .valid
  | .stAlertReceive => .alertReceive
  | .stAlertSend => .alertSend

inductive TlsAction where
  | null | buildStart | processResponseClientHello | verifyAuthMoreFragments | recvAck | sendFragment | sendAck
  | processResponseSecondWay | verifyPeerMoreFragments | processResponseFinish | notifySuccess | notifyInvalid
  | buildRequestAlert | processResponseAckAlert | notifyFailure
  deriving DecidableEq, Repr

def tlsEntry (prev : TlsState) (ev : TlsEvent) (next : TlsState) (ac : TlsAction := .null) :
    StateTableEntry TlsState TlsEvent TlsAction :=
  ⟨prev, some ev, next, ac⟩

/-- `AddStateTableEntry(st, st, 0)`: the state's number is taken for an event, and 0 for
the next state, which is `StInitialize`. -/
def tlsSelfEntry (st : TlsState) : StateTableEntry TlsState TlsEvent TlsAction :=
  tlsEntry st (.ofNumber st.ctorIdx) .stInitialize

/-- `EapAuthTlsStateTable_S`. -/
def authTlsStateTable : StateTable TlsState TlsEvent TlsAction :=
  [ tlsEntry .stInitialize .integrityCheck .buildStart .buildStart,
    tlsSelfEntry .stInitialize,
    tlsEntry .buildStart .integrityCheck .processResponseClientHello .processResponseClientHello,
    tlsSelfEntry .buildStart,
    tlsEntry .processResponseClientHello .invalid .stInitialize .notifyInvalid,
    tlsEntry .processResponseClientHello .valid .verifyAuthMoreFragments .verifyAuthMoreFragments,
    tlsEntry .processResponseClientHello .alertReceive .failure .notifyFailure,
    tlsEntry .processResponseClientHello .alertSend .buildRequestAlert .buildRequestAlert,
    tlsEntry .buildRequestAlert .integrityCheck .processResponseAckAlert .processResponseAckAlert,
    tlsSelfEntry .buildRequestAlert,
    tlsEntry .processResponseAckAlert .invalid .stInitialize .notifyInvalid,
    tlsEntry .processResponseAckAlert .valid .failure .notifyFailure,
    tlsEntry .verifyAuthMoreFragments .moreFragments .recvAck .sendFragment,
    tlsEntry .verifyAuthMoreFragments .noMoreFragments .processResponseSecondWay .sendFragment,
    tlsEntry .verifyAuthMoreFragments .invalid .stInitialize .notifyInvalid,
    tlsEntry .recvAck .integrityCheck .processResponseClientHello .recvAck,
    tlsSelfEntry .recvAck,
    tlsEntry .processResponseSecondWay .integrityCheck .verifyPeerMoreFragments .verifyPeerMoreFragments,
    tlsSelfEntry .processResponseSecondWay,
    tlsEntry .verifyPeerMoreFragments .moreFragments .processResponseSecondWay .sendAck,
    tlsEntry .verifyPeerMoreFragments .noMoreFragments .sentRequestFinish .processResponseSecondWay,
    tlsEntry .verifyPeerMoreFragments .invalid .stInitialize .notifyInvalid,
    tlsEntry .sentRequestFinish .integrityCheck .processResponseFinish .processResponseFinish,
    tlsSelfEntry .sentRequestFinish,
    tlsEntry .sentRequestFinish .alertReceive .failure .notifyFailure,
    tlsEntry .sentRequestFinish .alertSend .buildRequestAlert .buildRequestAlert,
    tlsEntry .processResponseFinish .invalid .stInitialize .notifyInvalid,
    tlsEntry .processResponseFinish .valid .success .notifySuccess,
    tlsEntry .processResponseFinish .alertReceive .failure .notifyFailure,
    tlsEntry .processResponseFinish .alertSend .buildRequestAlert .buildRequestAlert,
    tlsSelfEntry .failure,
    tlsSelfEntry .success ]

theorem authTlsStateTable_constructs : StateTable.construct authTlsStateTable = some authTlsStateTable := by
  decide +kernel

end Table

/-- The attributes of an `EapAuthTlsStateMachine`, the message that its switch has
received, and the two static variables `first_fragment`, which all sessions share. -/
structure TlsData (engine : TlsEngine) where
  ssn : Option (TlsSession engine)
  isDone : Bool
  rxMessage : Option TlsPacket
  firstFragmentAuth : Bool
  firstFragmentPeer : Bool

inductive TlsCallback where
  | setTxMessage (payload : Octets)
  | update (sw : PolicySwitch)
  | notify (report : AuthSwitch.MethodReport)
  /-- A null pointer is dereferenced, or memory is read that there is not. -/
  | crash
  deriving DecidableEq, Repr

namespace AuthTls

variable {engine : TlsEngine} (config : TlsConfig) (sm : TlsData engine)

abbrev TlsReaction (engine : TlsEngine) := Reaction TlsEvent (TlsData engine) TlsCallback

section Actions

def raise (event : TlsEvent) : TlsReaction engine := { data := sm, raised := some event }

def crash : TlsReaction engine := { data := sm, callbacks := [.crash] }

def send (payload : Octets) : TlsReaction engine :=
  { data := sm, callbacks := [.setTxMessage payload, .notify .valid] }

def parse (next : EapRequestTls → TlsReaction engine) : TlsReaction engine :=
  match sm.rxMessage with
  | none => crash sm
  | some packet =>
    match EapRequestTls.parseRawToApp packet with
    | .returned response => next response
    | .thrown _ | .escaped => raise sm .invalid
    | .fault => crash sm

def withSession (next : TlsSession engine → TlsReaction engine) : TlsReaction engine :=
  match sm.ssn with
  | none => crash sm
  | some ssn => next ssn

end Actions

section Reactions

def acBuildStart : TlsReaction engine :=
  send { sm with ssn := some { tls := engine.accept } } (EapRequestTls.parseAppToRaw { flags := setStart 0 } 6)

def acProcessResponseClientHello : TlsReaction engine :=
  parse sm fun response => withSession sm fun ssn =>
    let (ssn, status) := (ssn.setDirtyIn response.data).tlsHandshakeRecv
    raise { sm with ssn := some ssn } status.event

/-- It tells how much of the records is sent next. -/
def acVerifyAuthMoreFragments : TlsReaction engine :=
  withSession sm fun ssn =>
    let lengthToSend := ssn.dirtyOut.length + 6
    if config.fragmentSize ≠ 0 ∧ config.fragmentSize < lengthToSend then
      let flags := setMoreFragments 0
      let flagsToSend := if sm.firstFragmentAuth then setLengthIncluded flags else flags
      raise { sm with
        ssn := some { ssn with lengthToSend := config.fragmentSize, flagsToSend }
        firstFragmentAuth := false } .moreFragments
    else
      raise { sm with ssn := some { ssn with lengthToSend, flagsToSend := 0 }, firstFragmentAuth := true }
        .noMoreFragments

def acSendFragment : TlsReaction engine :=
  withSession sm fun ssn =>
    let request : EapRequestTls := { flags := ssn.flagsToSend, data := some ssn.dirtyOut }
    let sent := if tlsLengthIncluded ssn.flagsToSend then ssn.lengthToSend - 10 else ssn.lengthToSend - 6
    send { sm with ssn := some { ssn with dirtyOut := ssn.dirtyOut.drop sent } }
      (request.parseAppToRaw ssn.lengthToSend)

def acRecvAck : TlsReaction engine :=
  parse sm fun response => raise sm (if response.isAck then .valid else .invalid)

def acSendAck : TlsReaction engine := send sm (EapRequestTls.parseAppToRaw { flags := 0 } 6)

def acVerifyPeerMoreFragments : TlsReaction engine :=
  parse sm fun response => withSession sm fun ssn =>
    if tlsMoreFragments response.flags then
      if tlsLengthIncluded response.flags && sm.firstFragmentPeer then
        if 0 < response.tlsMessageLength then
          raise { sm with ssn := some (ssn.setDirtyIn response.data), firstFragmentPeer := false } .moreFragments
        else raise sm .invalid
      else if !tlsLengthIncluded response.flags && !sm.firstFragmentPeer then
        -- A fragment without data is a null pointer.
        match response.data with
        | none => crash sm
        | some data =>
          if 0 < data.length then raise { sm with ssn := some (ssn.appendDirtyIn data) } .moreFragments
          else raise sm .invalid
      else raise sm .invalid
    else
      let gathered := if sm.firstFragmentPeer then ssn.setDirtyIn response.data else ssn.appendDirtyIn response.data
      raise { sm with ssn := some gathered, firstFragmentPeer := true } .noMoreFragments

def acProcessResponseSecondWay : TlsReaction engine :=
  withSession sm fun ssn =>
    let (ssn, status) := ssn.tlsHandshakeRecv
    let received := { sm with ssn := some ssn }
    if status = .stOk then
      let flags := if config.includeLength then setLengthIncluded 0 else 0
      let request : EapRequestTls := { flags, data := some ssn.dirtyOut, tlsMessageLength := ssn.dirtyOut.length }
      send received (request.parseAppToRaw ((if config.includeLength then 10 else 6) + ssn.dirtyOut.length))
    else raise received status.event

def acProcessResponseFinish : TlsReaction engine :=
  parse sm fun _ => withSession sm fun ssn =>
    let (ssn, status) := ssn.tlsHandshakeRecv
    raise { sm with ssn := some ssn } status.event

def close (sw : PolicySwitch) : TlsReaction engine :=
  withSession sm fun ssn =>
    match ssn.sessionClose with
    | none => crash sm
    | some ssn => { data := { sm with ssn := some ssn, isDone := true }, callbacks := [.update sw, .notify .valid] }

def acNotifySuccess : TlsReaction engine := close sm .policyOnSuccess

def acNotifyInvalid : TlsReaction engine := { data := sm, callbacks := [.notify .invalid] }

def acBuildRequestAlert : TlsReaction engine :=
  withSession sm fun ssn =>
    let request : EapRequestTls := { flags := 0, data := some ssn.dirtyOut }
    send sm (request.parseAppToRaw (6 + ssn.dirtyOut.length))

def acProcessResponseAckAlert : TlsReaction engine :=
  parse sm fun response => withSession sm fun ssn =>
    raise { sm with ssn := some (ssn.setDirtyIn response.data) } .valid

def acNotifyFailure : TlsReaction engine := close sm .policyOnFailure

def perform (ac : TlsAction) : TlsReaction engine :=
  match ac with
  | .null => { data := sm }
  | .buildStart => acBuildStart sm
  | .processResponseClientHello => acProcessResponseClientHello sm
  | .verifyAuthMoreFragments => acVerifyAuthMoreFragments config sm
  | .recvAck => acRecvAck sm
  | .sendFragment => acSendFragment sm
  | .sendAck => acSendAck sm
  | .processResponseSecondWay => acProcessResponseSecondWay config sm
  | .verifyPeerMoreFragments => acVerifyPeerMoreFragments sm
  | .processResponseFinish => acProcessResponseFinish sm
  | .notifySuccess => acNotifySuccess sm
  | .notifyInvalid => acNotifyInvalid sm
  | .buildRequestAlert => acBuildRequestAlert sm
  | .processResponseAckAlert => acProcessResponseAckAlert sm
  | .notifyFailure => acNotifyFailure sm

end Reactions

section Machines

def program (engine : TlsEngine) : MachineProgram TlsState TlsEvent TlsAction (TlsData engine) TlsCallback where
  table := authTlsStateTable
  initialState := .stInitialize
  perform ac sm := perform config sm ac

abbrev Machine (engine : TlsEngine) := EventMachine TlsState TlsEvent (TlsData engine)

inductive Input where
  | start
  | share (firstFragmentAuth firstFragmentPeer : Bool)
  /-- The switch has received a message, or none yet, and notifies the method. -/
  | integrityCheck (msg : Option TlsPacket)
  | serve
  /-- The event passed to `Event` is handled. -/
  | handle
  deriving DecidableEq, Repr

def take (machine : Machine engine) : Input → Machine engine
  | .start => (program config engine).start machine
  | .share firstFragmentAuth firstFragmentPeer =>
    { machine with data := { machine.data with firstFragmentAuth, firstFragmentPeer } }
  | .integrityCheck msg =>
    EventMachine.notify { machine with data := { machine.data with rxMessage := msg } } .integrityCheck
  | .serve => machine.serve
  | .handle => ((program config engine).handle machine).1

def callbacks (machine : Machine engine) : Input → List TlsCallback
  | .handle => ((program config engine).handle machine).2
  | _ => []

end Machines

end AuthTls

end OpenDiameter.Eap
