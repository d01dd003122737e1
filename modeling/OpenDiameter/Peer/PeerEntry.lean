import OpenDiameter.Foundation.TwoParty
import OpenDiameter.Peer.StateMachine

/-! Peer entries: how connections and the messages on them reach the state machine.

An entry turns what happens on a connection into events of its machine. Two
nodes that each have an entry for the other make a network of two parties.
-/

set_option autoImplicit false

namespace OpenDiameter.Peer

open Foundation

section Identity

def toLower (c : UInt8) : UInt8 := if 65 ≤ c && c ≤ 90 then c + 32 else c

/-- `! strcasecmp(x.c_str(), y.c_str())`. -/
def sameName (x y : Octets) : Bool :=
  (x.takeWhile (· ≠ 0)).map toLower == (y.takeWhile (· ≠ 0)).map toLower

end Identity

inductive CollectorError where
  | parsingError | bugInParsingCode | memoryAllocError | corruptedByteStream | invalidMsg
  | transportError
  deriving DecidableEq, Repr

/-- One column of `cmdCode` and of the four event tables of `DiameterPeerEntry::Message`. -/
structure CommandEvents where
  cmdCode : UInt32
  requestIEv : PeerEvent
  requestREv : PeerEvent
  answerIEv : PeerEvent
  answerREv : PeerEvent

def commandEvents : List CommandEvents :=
  [ ⟨msgCodeCapabilitiesExchg, .iRcvCER, .rRcvCER, .iRcvCEA, .rRcvCEA⟩,
    ⟨msgCodeWatchdog, .iRcvDWR, .rRcvDWR, .iRcvDWA, .rRcvDWA⟩,
    ⟨msgCodeDisconnectPeer, .iRcvDPR, .rRcvDPR, .iRcvDPA, .rRcvDPA⟩ ]

def CommandEvents.initiator (events : CommandEvents) (request : Bool) : PeerEvent :=
  if request then events.requestIEv else events.answerIEv

def CommandEvents.responder (events : CommandEvents) (request : Bool) : PeerEvent :=
  if request then events.requestREv else events.answerREv

namespace PeerFsm

section Entry

variable {Io : Type}

/-- `Notify`: what it puts on the event queue. -/
def notify (fsm : PeerFsm Io) (event : PeerEvent) (msg : Option PeerMsg) (io : Option Io) :
    List (PeerEventParam Io) :=
  if fsm.running then [⟨event, msg, io⟩] else []

/-- `DiameterPeerEntry::Start`; the connector is started after the event is queued. -/
def start (fsm : PeerFsm Io) : List (PeerEventParam Io) := fsm.notify .start none none

/-- The machine after `MsgIdRxMessage`, and whether the message is expected. -/
def msgIdRxMessage (fsm : PeerFsm Io) (msg : PeerMsg) : PeerFsm Io × Bool :=
  ({ fsm with msgIds := (fsm.msgIds.rxMessage msg).1 }, (fsm.msgIds.rxMessage msg).2)

def incommingConnectionRequest (fsm : PeerFsm Io) (io : Io) (cer : PeerMsg) :
    PeerFsm Io × List (PeerEventParam Io) :=
  ((fsm.msgIdRxMessage cer).1, fsm.notify .rConnCER (some cer) (some io))

def connectionRequestAccepted (fsm : PeerFsm Io) (io : Io) : List (PeerEventParam Io) :=
  fsm.notify .iRcvConnAck none (some io)

def connectionRequestFailed (fsm : PeerFsm Io) : List (PeerEventParam Io) :=
  fsm.notify .iRcvConnNack none none

/-- The switch of `Message` on the state, for a message of the base protocol. -/
def baseMessage (fsm : PeerFsm Io) (events : CommandEvents) (msg : PeerMsg) : List (PeerEventParam Io) :=
  match fsm.state with
  | .iOpen => fsm.notify (events.initiator msg.request) (some msg) none
  | .rOpen => fsm.notify (events.responder msg.request) (some msg) none
  | .closing =>
    if fsm.ioInitiator.isSome then fsm.notify (events.initiator msg.request) (some msg) none
    else fsm.notify (events.responder msg.request) (some msg) none
  | .waitReturns | .waitICEA =>
    if msg.isCapabilities && !msg.request then fsm.notify .iRcvCEA (some msg) none else []
  | _ => []

/-- `DiameterPeerEntry::Message`. -/
def message (fsm : PeerFsm Io) (msg : PeerMsg) : PeerFsm Io × List (PeerEventParam Io) :=
  if fsm.state = .waitICEA ∧ (!msg.isCapabilities || msg.request) then
    (fsm, fsm.notify .iRcvNonCEA none none)
  else
    match commandEvents.find? fun events => events.cmdCode == msg.code with
    | some events =>
      let (received, known) := fsm.msgIdRxMessage msg
      if !known && !msg.request then (received, []) else (received, received.baseMessage events msg)
    | none =>
      match fsm.state with
      | .iOpen => (fsm, fsm.notify .iRcvMessage (some msg) none)
      | .rOpen => (fsm, fsm.notify .rRcvMessage (some msg) none)
      | _ => (fsm, [])

/-- `DiameterPeerEntry::Error`, with the name of the connection. -/
def error (fsm : PeerFsm Io) (error : CollectorError) (ioName : String) :
    PeerFsm Io × List (PeerEventParam Io) :=
  match error with
  | .corruptedByteStream | .transportError =>
    if ioName = "Acceptor" then (fsm, fsm.notify .rPeerDisc none none)
    else if ioName = "Connector" then (fsm, fsm.notify .iPeerDisc none none)
    else (fsm.cleanup .all, [])
  | .parsingError => (fsm, [])
  | _ => (fsm.cleanup .all, [])

end Entry

section Network

def effectAct : Effect Conn → Option (Act PeerMsg (PeerEventParam Conn))
  | .transmit msg (some conn) => some (.transmit conn msg)
  | .scheduleForDeletion conn => some (.schedule conn)
  | .destroyed conn => some (.destroy conn)
  | .notify event => some (.notify ⟨event, none, none⟩)
  | _ => none

def connName : Conn → String
  | .mine => "Connector"
  | .theirs => "Acceptor"

/-- `PendingResponder::Message`: a request with a known Origin-Host is passed on,
everything else closes the connection. -/
def pendingResponder (peerIdentity : Octets) (fsm : PeerFsm Conn) (msg : PeerMsg) :
    Option (PeerFsm Conn × List (PeerEventParam Conn)) :=
  if msg.isCapabilities && msg.request && msg.originHost.any (sameName peerIdentity) then
    some (fsm.incommingConnectionRequest .theirs msg)
  else none

def peerProtocol (config : PeerConfig) (peerIdentity : Octets) :
    Protocol (PeerFsm Conn) PeerMsg (PeerEventParam Conn) where
  start fsm := (fsm, fsm.start.map .notify)
  connected fsm := (fsm, (fsm.connectionRequestAccepted .mine).map .notify)
  incoming fsm msg := (fsm.pendingResponder peerIdentity msg).map fun entered =>
    (entered.1, entered.2.map .notify)
  message _ fsm msg := ((fsm.message msg).1, (fsm.message msg).2.map .notify)
  lost conn fsm :=
    ((fsm.error .transportError (connName conn)).1,
      (fsm.error .transportError (connName conn)).2.map .notify)
  serve fsm param := (fsm.serve config param, (fsm.serve config param).effects.filterMap effectAct)

/-- Two nodes, each with an entry for the other. -/
def peers (config : Side → PeerConfig) (side : Side) :
    Protocol (PeerFsm Conn) PeerMsg (PeerEventParam Conn) :=
  peerProtocol (config side) (config side.other).identity

abbrev PeerNetwork := Network (PeerFsm Conn) PeerMsg (PeerEventParam Conn)

def beginPeers : PeerNetwork := .begin initial initial

end Network

end PeerFsm

section Election

theorem compareHosts_opposite {x y : Octets} (length : x.length = y.length) (distinct : x ≠ y) :
    compareHosts x y = .localWins ∧ compareHosts y x = .peerWins ∨
      compareHosts x y = .peerWins ∧ compareHosts y x = .localWins := by
  induction x generalizing y with
  | nil =>
    cases y with
    | nil => exact absurd rfl distinct
    | cons => cases length
  | cons a x ih =>
    cases y with
    | nil => cases length
    | cons b y =>
      rw [compareHosts, compareHosts]
      by_cases same : a = b
      · subst same
        rw [if_pos rfl, if_pos rfl]
        exact ih (Nat.succ.inj length) (fun equal => distinct (congrArg _ equal))
      · rw [if_neg same, if_neg (Ne.symm same)]
        have differs : a.toInt8.toInt ≠ b.toInt8.toInt :=
          fun equal => same (congrArg Int8.toUInt8 (Int8.toInt_inj.mp equal))
        simp only [Int8.lt_iff_toInt_lt]
        rcases Int.lt_or_gt_of_ne differs with less | greater
        · rw [if_neg (Int.not_lt.mpr (Int.le_of_lt less)), if_pos less]
          exact Or.inr ⟨rfl, rfl⟩
        · rw [if_pos greater, if_neg (Int.not_lt.mpr (Int.le_of_lt greater))]
          exact Or.inl ⟨rfl, rfl⟩

theorem padHost_ne {host other : Octets} (shorter : host.length < other.length)
    (clean : (0x08 : UInt8) ∉ other) : padHost host other.length ≠ other := by
  intro same
  apply clean
  rw [← same]
  apply List.mem_append_right
  exact List.mem_replicate.mpr ⟨Nat.sub_ne_zero_of_lt shorter, rfl⟩

theorem length_padHost {host : Octets} {length : Nat} (shorter : host.length ≤ length) :
    (padHost host length).length = length := by
  rw [padHost, List.length_append, List.length_replicate, Nat.add_sub_cancel' shorter]

/-- Names without the octet of the padding: one host wins and the other knows it. -/
theorem electHosts_clean {x y : Octets} (cleanX : (0x08 : UInt8) ∉ x) (cleanY : (0x08 : UInt8) ∉ y) (distinct : x ≠ y) :
    electHosts x y = .localWins ∧ electHosts y x = .peerWins ∨
      electHosts x y = .peerWins ∧ electHosts y x = .localWins := by
  unfold electHosts
  rcases Nat.lt_trichotomy x.length y.length with shorter | equal | longer
  · rw [if_pos shorter, if_neg (Nat.lt_asymm shorter), if_pos shorter]
    exact compareHosts_opposite (length_padHost (Nat.le_of_lt shorter)) (padHost_ne shorter cleanY)
  · have notShorter : ¬x.length < y.length := Nat.not_lt.mpr (Nat.le_of_eq equal.symm)
    have notLonger : ¬y.length < x.length := Nat.not_lt.mpr (Nat.le_of_eq equal)
    rw [if_neg notShorter, if_neg notLonger, if_neg distinct, if_neg notLonger, if_neg notShorter,
      if_neg distinct.symm]
    exact compareHosts_opposite equal distinct
  · rw [if_neg (Nat.lt_asymm longer), if_pos longer, if_pos longer]
    exact compareHosts_opposite (length_padHost (Nat.le_of_lt longer)).symm
      (padHost_ne longer cleanX).symm

end Election

end OpenDiameter.Peer
