import OpenDiameter.Framework.StateTable
import OpenDiameter.Peer.Capabilities

/-! The peer state machine: its table, its actions, and one served event.

An action changes the machine and leaves a list of effects in order: what is
handed to the transmitter and on which connection, what becomes of connections
that are given up, and what is asked of the rest of the program. Log output and
the values of timers are left out.
-/

set_option autoImplicit false

namespace OpenDiameter.Peer

open Foundation OpenDiameter.Framework

inductive PeerState where
  | closed | waitConnAck | waitICEA | waitConnAckElect | waitReturns | iOpen | rOpen | closing
  deriving DecidableEq, Repr

inductive PeerEvent where
  | start | stop | timeout | connRetry | rConnCER | iRcvConnAck | iRcvConnNack | rRcvCEA | iRcvCEA
  | iPeerDisc | rPeerDisc | iRcvNonCEA | winElection | sendMessage | rRcvMessage | iRcvMessage
  | rRcvDWR | iRcvDWR | rRcvDWA | iRcvDWA | rRcvDPR | iRcvDPR | rRcvCER | iRcvCER | rRcvDPA | iRcvDPA
  | watchdog
  deriving DecidableEq, Repr

inductive PeerAction where
  | null | iSendConnReq | rAcceptSendCEA | iSendCER | connNack | cleanup | retry | rAccept | error
  | processCEA | rAcceptElect | disconnect | disconnectDPA | iSendCERElect | rSendCEA | rSendCEAOpen
  | rDisconnectResp | rDisconnectIOpen | rReject | iDisconnectSendCEA | rSendMessage | process
  | processDWRSendDWA | processDWA | iSendMessage | iSendDPR | rSendDPR | iSendDPADisconnect
  | rSendDPADisconnect | iSendCEA | watchdog
  deriving DecidableEq, Repr

section Table

abbrev PeerRow := StateTableEntry PeerState PeerEvent PeerAction

def addStateTableEntry (prev : PeerState) (ev : PeerEvent) (next : PeerState) (ac : PeerAction) :
    PeerRow :=
  ⟨prev, some ev, next, ac⟩

def addWildcardStateTableEntry (prev next : PeerState) (ac : PeerAction) : PeerRow :=
  ⟨prev, none, next, ac⟩

def closedRows : List PeerRow :=
  [ addStateTableEntry .closed .start .waitConnAck .iSendConnReq,
    addStateTableEntry .closed .rConnCER .rOpen .rAcceptSendCEA,
    addStateTableEntry .closed .connRetry .closed .retry,
    addWildcardStateTableEntry .closed .closed .cleanup ]

def waitConnAckRows : List PeerRow :=
  [ addStateTableEntry .waitConnAck .iRcvConnAck .waitICEA .iSendCER,
    addStateTableEntry .waitConnAck .iRcvConnNack .closed .connNack,
    addStateTableEntry .waitConnAck .rConnCER .waitConnAckElect .rAccept,
    addStateTableEntry .waitConnAck .timeout .closed .error,
    addStateTableEntry .waitConnAck .stop .closed .error ]

def waitICEARows : List PeerRow :=
  [ addStateTableEntry .waitICEA .iRcvCEA .iOpen .processCEA,
    addStateTableEntry .waitICEA .rConnCER .waitReturns .rAcceptElect,
    addStateTableEntry .waitICEA .iPeerDisc .closed .disconnect,
    addStateTableEntry .waitICEA .iRcvNonCEA .closed .error,
    addStateTableEntry .waitICEA .timeout .closed .error,
    addStateTableEntry .waitICEA .stop .closed .error ]

def waitConnAckElectRows : List PeerRow :=
  [ addStateTableEntry .waitConnAckElect .iRcvConnAck .waitReturns .iSendCERElect,
    addStateTableEntry .waitConnAckElect .iRcvConnNack .rOpen .rSendCEA,
    addStateTableEntry .waitConnAckElect .rPeerDisc .waitConnAck .rDisconnectResp,
    addStateTableEntry .waitConnAckElect .rConnCER .waitConnAckElect .rReject,
    addStateTableEntry .waitConnAckElect .timeout .closed .error ]

def waitReturnsRows : List PeerRow :=
  [ addStateTableEntry .waitReturns .winElection .rOpen .iDisconnectSendCEA,
    addStateTableEntry .waitReturns .iPeerDisc .rOpen .iDisconnectSendCEA,
    addStateTableEntry .waitReturns .iRcvCEA .iOpen .rDisconnectIOpen,
    addStateTableEntry .waitReturns .rPeerDisc .waitICEA .rDisconnectResp,
    addStateTableEntry .waitReturns .rConnCER .waitReturns .rReject,
    addStateTableEntry .waitReturns .timeout .closed .error ]

def rOpenRows : List PeerRow :=
  [ addStateTableEntry .rOpen .sendMessage .rOpen .rSendMessage,
    addStateTableEntry .rOpen .rRcvMessage .rOpen .process,
    addStateTableEntry .rOpen .rRcvDWR .rOpen .processDWRSendDWA,
    addStateTableEntry .rOpen .rRcvDWA .rOpen .processDWA,
    addStateTableEntry .rOpen .rConnCER .rOpen .rReject,
    addStateTableEntry .rOpen .stop .closing .rSendDPR,
    addStateTableEntry .rOpen .rRcvDPR .closed .rSendDPADisconnect,
    addStateTableEntry .rOpen .rPeerDisc .closed .disconnect,
    addStateTableEntry .rOpen .rRcvCER .rOpen .rSendCEAOpen,
    addStateTableEntry .rOpen .rRcvCEA .rOpen .processCEA,
    addStateTableEntry .rOpen .watchdog .rOpen .watchdog ]

def iOpenRows : List PeerRow :=
  [ addStateTableEntry .iOpen .sendMessage .iOpen .iSendMessage,
    addStateTableEntry .iOpen .iRcvMessage .iOpen .process,
    addStateTableEntry .iOpen .iRcvDWR .iOpen .processDWRSendDWA,
    addStateTableEntry .iOpen .iRcvDWA .iOpen .processDWA,
    addStateTableEntry .iOpen .rConnCER .iOpen .rReject,
    addStateTableEntry .iOpen .stop .closing .iSendDPR,
    addStateTableEntry .iOpen .iRcvDPR .closed .iSendDPADisconnect,
    addStateTableEntry .iOpen .iPeerDisc .closed .disconnect,
    addStateTableEntry .iOpen .iRcvCER .iOpen .iSendCEA,
    addStateTableEntry .iOpen .iRcvCEA .iOpen .processCEA,
    addStateTableEntry .iOpen .watchdog .iOpen .watchdog ]

def closingRows : List PeerRow :=
  [ addStateTableEntry .closing .iRcvDPA .closed .disconnectDPA,
    addStateTableEntry .closing .rRcvDPA .closed .disconnectDPA,
    addStateTableEntry .closing .timeout .closed .error,
    addStateTableEntry .closing .iPeerDisc .closed .disconnect,
    addStateTableEntry .closing .rPeerDisc .closed .disconnect,
    addWildcardStateTableEntry .closing .closing .null ]

/-- `DiameterPeerStateTable`. -/
def peerStateTable : StateTable PeerState PeerEvent PeerAction :=
  closedRows ++ waitConnAckRows ++ waitICEARows ++ waitConnAckElectRows ++ waitReturnsRows ++
    rOpenRows ++ iOpenRows ++ closingRows

/-- The constructor adds every entry: no state has two entries for an event. -/
theorem peerStateTable_constructs : StateTable.construct peerStateTable = some peerStateTable := by
  decide +kernel

end Table

section Election

/-- How `Elect` ends. -/
inductive Election where
  | sameHost | localWins | peerWins
  deriving DecidableEq, Repr

/-- The comparing loop of `Elect`; `char` is signed. -/
def compareHosts : Octets → Octets → Election
  | l :: localHost, p :: peerHost =>
    if l = p then compareHosts localHost peerHost
    else if p.toInt8 < l.toInt8 then .localWins
    else .peerWins
  | _, _ => .peerWins

/-- A host name filled up to a length with `char(0x08)`. -/
def padHost (host : Octets) (length : Nat) : Octets := host ++ List.replicate (length - host.length) 0x08

def electHosts (localHost peerHost : Octets) : Election :=
  if localHost.length < peerHost.length then compareHosts (padHost localHost peerHost.length) peerHost
  else if peerHost.length < localHost.length then
    compareHosts localHost (padHost peerHost localHost.length)
  else if localHost = peerHost then .sameHost
  else compareHosts localHost peerHost

end Election

structure PeerEventParam (Io : Type) where
  event : PeerEvent
  msg : Option PeerMsg
  io : Option Io
  deriving Repr

/-- What an action does outside the machine. -/
inductive Effect (Io : Type) where
  | transmit (msg : PeerMsg) (io : Option Io)
  /-- A method called on a connection by `TransportProtocolInUse`. -/
  | readTransport (io : Option Io)
  | scheduleForDeletion (io : Io)
  /-- A connection deleted by the `auto_ptr` that owns it. -/
  | destroyed (io : Io)
  | notify (event : PeerEvent)
  | connect
  | connected
  | error (resultCode : UInt32)
  | disconnected (cause : UInt32)
  | routed (msg : PeerMsg)
  | scheduleTimer (event : PeerEvent)
  | cancelTimer (event : PeerEvent)
  | nullMessage
  deriving Repr

/-- `DiameterPeerStateMachine`, `m_Data` and `m_CurrentPeerEventParam` included;
`drawn` counts the ids drawn from the generators. -/
structure PeerFsm (Io : Type) where
  state : PeerState
  running : Bool
  ioInitiator : Option Io
  ioResponder : Option Io
  capabilities : PeerCapabilities
  msgIds : MsgIds
  drawn : Nat
  disconnectCause : UInt32
  reconnectAttempt : Nat
  current : PeerEventParam Io
  effects : List (Effect Io)
  deriving Repr

namespace PeerFsm

variable {Io : Type}

/-- The machine of a new `DiameterPeerEntry`, started in the initial state;
`m_DisconnectCause` is `AAA_DISCONNECT_DONTWANTTOTALK`. -/
def initial : PeerFsm Io where
  state := .closed
  running := true
  ioInitiator := none
  ioResponder := none
  capabilities := .blank
  msgIds := ⟨[], [], [], []⟩
  drawn := 0
  disconnectCause := 2
  reconnectAttempt := 0
  current := ⟨.start, none, none⟩
  effects := []

def emit (fsm : PeerFsm Io) (effect : Effect Io) : PeerFsm Io :=
  { fsm with effects := fsm.effects ++ [effect] }

section Connections

/-- `m_IOInitiator = m_CurrentPeerEventParam->m_IO`. -/
def takeInitiator (fsm : PeerFsm Io) : PeerFsm Io :=
  { fsm with
    ioInitiator := fsm.current.io
    current := { fsm.current with io := none }
    effects := fsm.effects ++ (fsm.ioInitiator.map .destroyed).toList }

/-- `m_IOResponder = m_CurrentPeerEventParam->m_IO`. -/
def takeResponder (fsm : PeerFsm Io) : PeerFsm Io :=
  { fsm with
    ioResponder := fsm.current.io
    current := { fsm.current with io := none }
    effects := fsm.effects ++ (fsm.ioResponder.map .destroyed).toList }

/-- `ScheduleForDeletion(m_IOInitiator)`. -/
def dropInitiator (fsm : PeerFsm Io) : PeerFsm Io :=
  { fsm with
    ioInitiator := none
    effects := fsm.effects ++ (fsm.ioInitiator.map .scheduleForDeletion).toList }

/-- `ScheduleForDeletion(m_IOResponder)`. -/
def dropResponder (fsm : PeerFsm Io) : PeerFsm Io :=
  { fsm with
    ioResponder := none
    effects := fsm.effects ++ (fsm.ioResponder.map .scheduleForDeletion).toList }

/-- `ScheduleForDeletion(m_CurrentPeerEventParam->m_IO)`. -/
def dropCurrent (fsm : PeerFsm Io) : PeerFsm Io :=
  { fsm with
    current := { fsm.current with msg := none, io := none }
    effects := fsm.effects ++ (fsm.current.io.map .scheduleForDeletion).toList }

/-- The owner of the current event is deleted with the connection it still holds. -/
def forgetCurrent (fsm : PeerFsm Io) : PeerFsm Io :=
  { fsm with
    current := { fsm.current with msg := none, io := none }
    effects := fsm.effects ++ (fsm.current.io.map .destroyed).toList }

/-- `std::auto_ptr<DiameterMsg> msg = m_CurrentPeerEventParam->m_Msg` and what
follows with `*msg`. -/
def withMsg (fsm : PeerFsm Io) (handle : PeerMsg → PeerFsm Io → PeerFsm Io) : PeerFsm Io :=
  match fsm.current.msg with
  | some msg => handle msg { fsm with current := { fsm.current with msg := none } }
  | none => fsm.emit .nullMessage

end Connections

section Sending

variable (config : PeerConfig)

def drawIds (fsm : PeerFsm Io) : PeerFsm Io × UInt32 × UInt32 :=
  let hopId := config.hopByHopGen fsm.drawn
  let endId := config.endToEndGen fsm.drawn
  ({ fsm with drawn := fsm.drawn + 1, msgIds := fsm.msgIds.txRequest hopId endId }, hopId, endId)

def answerIds (fsm : PeerFsm Io) : PeerFsm Io × UInt32 × UInt32 :=
  let (msgIds, hopId, endId) := fsm.msgIds.txAnswer
  ({ fsm with msgIds }, hopId, endId)

def transportProtocolInUse (fsm : PeerFsm Io) : PeerFsm Io :=
  fsm.emit (.readTransport (if fsm.ioInitiator.isSome then fsm.ioInitiator else fsm.ioResponder))

def selectedIo (fsm : PeerFsm Io) : Option Io :=
  if fsm.state = .iOpen then fsm.ioInitiator else fsm.ioResponder

def sendCER (fsm : PeerFsm Io) : PeerFsm Io :=
  let (drawn, hh, ee) := fsm.drawIds config
  let msg := assembleCE config true hh ee
  drawn.transportProtocolInUse.emit (.transmit msg fsm.ioInitiator)

def sendCEA (fsm : PeerFsm Io) (rcode : UInt32) (message : String) : PeerFsm Io :=
  let (answering, hh, ee) := fsm.answerIds
  let interpreted := interpretedResultCode rcode
  let msg := { assembleCE config false hh ee with
    resultCode := some rcode
    errorMessage :=
      if message.length > 0 && interpreted ≠ .notPresent && interpreted ≠ .success then some message
      else none }
  answering.transportProtocolInUse.emit (.transmit msg fsm.selectedIo)

/-- The messages of `AssembleDW` and `AssembleDP`. -/
def assemble (code : UInt32) (request : Bool) (hh ee : UInt32) : PeerMsg :=
  { code, request, hh, ee, originHost := some config.identity }

def sendDWR (fsm : PeerFsm Io) : PeerFsm Io :=
  let (drawn, hh, ee) := fsm.drawIds config
  drawn.emit (.transmit (assemble config msgCodeWatchdog true hh ee) fsm.selectedIo)

def sendDWA (fsm : PeerFsm Io) (rcode : UInt32) (message : String) : PeerFsm Io :=
  let (answering, hh, ee) := fsm.answerIds
  let msg := { assemble config msgCodeWatchdog false hh ee with
    resultCode := some rcode
    errorMessage :=
      if message.length > 0 && interpretedResultCode rcode = .success then some message else none }
  answering.emit (.transmit msg fsm.selectedIo)

def sendDPR (fsm : PeerFsm Io) (initiator : Bool) : PeerFsm Io :=
  let (drawn, hh, ee) := fsm.drawIds config
  let msg := { assemble config msgCodeDisconnectPeer true hh ee with
    disconnectCause := some fsm.disconnectCause }
  drawn.emit (.transmit msg (if initiator then fsm.ioInitiator else fsm.ioResponder))

def sendDPA (fsm : PeerFsm Io) (initiator : Bool) (rcode : UInt32) : PeerFsm Io :=
  let (answering, hh, ee) := fsm.answerIds
  let msg := { assemble config msgCodeDisconnectPeer false hh ee with resultCode := some rcode }
  answering.emit (.transmit msg (if initiator then fsm.ioInitiator else fsm.ioResponder))

end Sending

section Helpers

variable (config : PeerConfig)

def scheduleTimer (fsm : PeerFsm Io) (event : PeerEvent) : PeerFsm Io :=
  (fsm.emit (.cancelTimer event)).emit (.scheduleTimer event)

def cancelTimer (fsm : PeerFsm Io) (event : PeerEvent) : PeerFsm Io := fsm.emit (.cancelTimer event)

def stopReConnect (fsm : PeerFsm Io) : PeerFsm Io := fsm.cancelTimer .connRetry

def doReConnect (fsm : PeerFsm Io) : PeerFsm Io :=
  if fsm.reconnectAttempt < config.reconnectMax then
    if 0 < config.reconnectInterval then
      { fsm with reconnectAttempt := fsm.reconnectAttempt + 1 }.scheduleTimer .connRetry
    else fsm
  else { fsm with reconnectAttempt := 0 }

structure CleanupFlags where
  ioI : Bool
  ioR : Bool
  fsm : Bool

def CleanupFlags.all : CleanupFlags := ⟨true, true, true⟩

/-- `Cleanup(flags)`; with the machine flag it stops and starts again, which
leads to the initial state. -/
def cleanup (fsm : PeerFsm Io) (flags : CleanupFlags) : PeerFsm Io :=
  let reset := { fsm with capabilities := .blank }
  let idle := ((reset.stopReConnect).cancelTimer .timeout).cancelTimer .watchdog
  let responderless := if flags.ioR then idle.dropResponder else idle
  let initiatorless := if flags.ioI then responderless.dropInitiator else responderless
  if flags.fsm then { initiatorless.dropCurrent with state := .closed, running := true }
  else initiatorless

def elect (fsm : PeerFsm Io) : PeerFsm Io :=
  match electHosts config.identity fsm.capabilities.host with
  | .sameHost => fsm.cleanup .all
  | .localWins => fsm.emit (.notify .winElection)
  | .peerWins => fsm

def watch (fsm : PeerFsm Io) : PeerFsm Io := (fsm.cancelTimer .timeout).scheduleTimer .watchdog

/-- `DisassembleCE`. -/
def disassemble (fsm : PeerFsm Io) (msg : PeerMsg) : PeerFsm Io :=
  { fsm with capabilities := disassembleCE msg }

def winElectionMessage : String :=
  "Capabilities negotiation completed successfully (win-election)"

end Helpers

section Actions

variable (config : PeerConfig)

def actISendConnReq (fsm : PeerFsm Io) : PeerFsm Io := fsm.scheduleTimer .timeout

def actRAcceptSendCEA (fsm : PeerFsm Io) : PeerFsm Io :=
  fsm.takeResponder.withMsg fun cer fsm =>
    let known := fsm.disassemble cer
    let (valid, rcode, message) := validatePeer config known.capabilities
    let sent := known.sendCEA config rcode message
    if !valid then sent.cleanup .all else (sent.watch.stopReConnect).emit .connected

def actISendCER (fsm : PeerFsm Io) : PeerFsm Io := fsm.takeInitiator.sendCER config

def actConnNack (fsm : PeerFsm Io) : PeerFsm Io :=
  ((fsm.cleanup .all).doReConnect config).emit (.error 5012)

def actCleanup (fsm : PeerFsm Io) : PeerFsm Io := fsm.cleanup .all

/-- `DiameterPeer_ReConnect`, with `DiameterPeerEntry::Start`. -/
def actReConnect (fsm : PeerFsm Io) : PeerFsm Io :=
  (fsm.stopReConnect.emit (.notify .start)).emit .connect

def actRAccept (fsm : PeerFsm Io) : PeerFsm Io :=
  fsm.takeResponder.withMsg fun cer fsm =>
    let known := fsm.disassemble cer
    if !(validatePeer config known.capabilities).1 then known.cleanup .all else known

def actError (fsm : PeerFsm Io) : PeerFsm Io := (fsm.cleanup .all).emit (.error 2002)

def actProcessCEA (fsm : PeerFsm Io) : PeerFsm Io :=
  fsm.withMsg fun cea fsm =>
    if cea.resultClass = .success then ((fsm.disassemble cea).stopReConnect.watch).emit .connected
    else fsm.cleanup .all

/-- `CLEANUP_ALL & ~CLEANUP_IO_I` keeps the machine flag. -/
def actRAcceptElect (fsm : PeerFsm Io) : PeerFsm Io :=
  fsm.takeResponder.withMsg fun cer fsm =>
    let known := fsm.disassemble cer
    if !(validatePeer config known.capabilities).1 then known.cleanup ⟨false, true, true⟩
    else known.elect config

def actISendCERElect (fsm : PeerFsm Io) : PeerFsm Io := (fsm.takeInitiator.sendCER config).elect config

def actRSendCEA (fsm : PeerFsm Io) : PeerFsm Io :=
  (fsm.takeResponder.sendCEA config aaaSuccess winElectionMessage).watch.emit .connected

def actRSendCEAOpen (fsm : PeerFsm Io) : PeerFsm Io :=
  fsm.withMsg fun cer fsm =>
    let known := fsm.disassemble cer
    let (_, rcode, message) := validatePeer config known.capabilities
    known.sendCEA config rcode message

def actRDisconnectResp (fsm : PeerFsm Io) : PeerFsm Io := fsm.dropResponder

def actRDisconnectIOpen (fsm : PeerFsm Io) : PeerFsm Io :=
  fsm.withMsg fun cea fsm =>
    if cea.resultClass = .success then (fsm.disassemble cea).watch.dropResponder.emit .connected
    else fsm.cleanup .all

def actRReject (fsm : PeerFsm Io) : PeerFsm Io := fsm.forgetCurrent

def actIDisconnectSendCEA (fsm : PeerFsm Io) : PeerFsm Io :=
  (fsm.dropInitiator.sendCEA config aaaSuccess winElectionMessage).watch.emit .connected

/-- `ASYNC_SEND` is not defined. -/
def actSendMessage (fsm : PeerFsm Io) : PeerFsm Io := fsm

def actProcess (fsm : PeerFsm Io) : PeerFsm Io := fsm.withMsg fun msg fsm => fsm.emit (.routed msg)

def actProcessDWRSendDWA (fsm : PeerFsm Io) : PeerFsm Io :=
  fsm.withMsg fun _ fsm => fsm.sendDWA config aaaSuccess "Successful device watchdog"

def actProcessDWA (fsm : PeerFsm Io) : PeerFsm Io :=
  fsm.withMsg fun dwa fsm => if dwa.resultClass = .success then fsm else fsm.cleanup .all

/-- `DiameterPeerI_SendCEA`, which does the same as `DiameterPeerR_SendCEAOpen`. -/
def actISendCEA (fsm : PeerFsm Io) : PeerFsm Io := fsm.actRSendCEAOpen config

def actSendDPR (fsm : PeerFsm Io) (initiator : Bool) : PeerFsm Io :=
  ((fsm.cancelTimer .watchdog).scheduleTimer .timeout).sendDPR config initiator

def actISendDPR (fsm : PeerFsm Io) : PeerFsm Io := fsm.actSendDPR config true

def actRSendDPR (fsm : PeerFsm Io) : PeerFsm Io := fsm.actSendDPR config false

def actSendDPADisconnect (fsm : PeerFsm Io) (initiator : Bool) : PeerFsm Io :=
  fsm.withMsg fun dpr fsm =>
    ((fsm.sendDPA config initiator aaaSuccess).cleanup .all).emit
      (.disconnected (dpr.disconnectCause.getD 1000))

def actISendDPADisconnect (fsm : PeerFsm Io) : PeerFsm Io := fsm.actSendDPADisconnect config true

def actRSendDPADisconnect (fsm : PeerFsm Io) : PeerFsm Io := fsm.actSendDPADisconnect config false

/-- The cause is `AAA_DISCONNECT_TRANSPORT`. -/
def actDisconnect (fsm : PeerFsm Io) : PeerFsm Io :=
  ((fsm.cleanup .all).doReConnect config).emit (.disconnected 10001)

def actDisconnectDPA (fsm : PeerFsm Io) : PeerFsm Io :=
  fsm.withMsg fun _ fsm =>
    let clean := (fsm.emit (.disconnected fsm.disconnectCause)).cleanup .all
    if clean.disconnectCause = 0 then clean.doReConnect config else clean

def actWatchdog (fsm : PeerFsm Io) : PeerFsm Io := fsm.sendDWR config

def perform (fsm : PeerFsm Io) : PeerAction → PeerFsm Io
  | .null => fsm
  | .iSendConnReq => fsm.actISendConnReq
  | .rAcceptSendCEA => fsm.actRAcceptSendCEA config
  | .iSendCER => fsm.actISendCER config
  | .connNack => fsm.actConnNack config
  | .cleanup => fsm.actCleanup
  | .retry => fsm.actReConnect
  | .rAccept => fsm.actRAccept config
  | .error => fsm.actError
  | .processCEA => fsm.actProcessCEA
  | .rAcceptElect => fsm.actRAcceptElect config
  | .disconnect => fsm.actDisconnect config
  | .disconnectDPA => fsm.actDisconnectDPA config
  | .iSendCERElect => fsm.actISendCERElect config
  | .rSendCEA => fsm.actRSendCEA config
  | .rSendCEAOpen => fsm.actRSendCEAOpen config
  | .rDisconnectResp => fsm.actRDisconnectResp
  | .rDisconnectIOpen => fsm.actRDisconnectIOpen
  | .rReject => fsm.actRReject
  | .iDisconnectSendCEA => fsm.actIDisconnectSendCEA config
  | .rSendMessage => fsm.actSendMessage
  | .process => fsm.actProcess
  | .processDWRSendDWA => fsm.actProcessDWRSendDWA config
  | .processDWA => fsm.actProcessDWA
  | .iSendMessage => fsm.actSendMessage
  | .iSendDPR => fsm.actISendDPR config
  | .rSendDPR => fsm.actRSendDPR config
  | .iSendDPADisconnect => fsm.actISendDPADisconnect config
  | .rSendDPADisconnect => fsm.actRSendDPADisconnect config
  | .iSendCEA => fsm.actISendCEA config
  | .watchdog => fsm.actWatchdog config

/-- `AAA_StateMachine::Event`: the state changes before the action runs. -/
def event (fsm : PeerFsm Io) (ev : PeerEvent) : PeerFsm Io :=
  if !fsm.running then fsm
  else
    match peerStateTable.findStateTableEntry fsm.state ev with
    | none => fsm
    | some entry => { fsm with state := entry.nextState }.perform config entry.action

/-- `Serve` with the event it takes off the queue; the list of effects starts anew. -/
def serve (fsm : PeerFsm Io) (param : PeerEventParam Io) : PeerFsm Io :=
  ({ fsm with current := param, effects := [] }.event config param.event).forgetCurrent

/-- `Send`: the connection the message is queued for, if it is, and the value returned. -/
def send (fsm : PeerFsm Io) : Option (Option Io) × Int :=
  if !fsm.running then (none, -1)
  else
    match fsm.state with
    | .iOpen => (some fsm.ioInitiator, 0)
    | .rOpen => (some fsm.ioResponder, 0)
    | _ => (none, 0)

end Actions

end PeerFsm

end OpenDiameter.Peer
