import OpenDiameter.Foundation.Runs
import OpenDiameter.Peer.PeerEntry
import OpenDiameter.Peer.Sending
import OpenDiameter.Foundation.Lists

/-! The identifiers of the messages that peers exchange.

The ids of a request wait in two queues, apart from the request, until some answer
takes them, and those of the requests sent are the keys of two maps. Both tell the
truth as long as every request that comes in is answered in its turn, and no answer
mixes the ids of two requests.
-/

set_option autoImplicit false

namespace OpenDiameter.Peer

open Foundation OpenDiameter.Framework

variable {Io : Type}

section Ledgers

/-- The queues hold the ids of the requests that are still to be answered. -/
structure MsgIds.Waits (ids : MsgIds) (pending : List PeerMsg) : Prop where
  hops : ids.lastRxHopId = pending.map (·.hh)
  ends : ids.lastRxEndId = pending.map (·.ee)

structure MsgIds.Tracks (ids : MsgIds) (outstanding : List (UInt32 × UInt32)) : Prop where
  hops : ids.lastTxHopId = outstanding.map Prod.fst
  ends : ids.lastTxEndId = outstanding.map Prod.snd
  distinctHops : (outstanding.map Prod.fst).Nodup
  distinctEnds : (outstanding.map Prod.snd).Nodup

variable {ids : MsgIds} {pending : List PeerMsg} {outstanding : List (UInt32 × UInt32)} {msg : PeerMsg}

theorem MsgIds.Waits.txAnswer (waits : ids.Waits (msg :: pending)) :
    ids.txAnswer.1.Waits pending ∧ ids.txAnswer.2 = (msg.hh, msg.ee) := by
  unfold MsgIds.txAnswer
  rw [waits.hops, waits.ends]
  exact ⟨⟨rfl, rfl⟩, rfl⟩

theorem MsgIds.Waits.rxRequest (waits : ids.Waits pending) (request : msg.request = true) :
    (ids.rxMessage msg).1.Waits (pending ++ [msg]) := by
  unfold MsgIds.rxMessage
  rw [if_pos request]
  constructor
  · rw [waits.hops, List.map_append]
    rfl
  · rw [waits.ends, List.map_append]
    rfl

theorem MsgIds.Waits.rxAnswer (waits : ids.Waits pending) (answer : msg.request = false) :
    (ids.rxMessage msg).1.Waits pending := by
  unfold MsgIds.rxMessage
  rw [if_neg (by rw [answer]; nofun)]
  split
  · exact waits
  · split
    · exact ⟨waits.hops, waits.ends⟩
    · exact ⟨waits.hops, waits.ends⟩

theorem MsgIds.Tracks.rxRequest (tracks : ids.Tracks outstanding) (request : msg.request = true) :
    (ids.rxMessage msg).1.Tracks outstanding := by
  unfold MsgIds.rxMessage
  rw [if_pos request]
  exact ⟨tracks.hops, tracks.ends, tracks.distinctHops, tracks.distinctEnds⟩

theorem addKey_of_not_mem {keys : List UInt32} {key : UInt32} (fresh : key ∉ keys) : addKey keys key = key :: keys :=
  if_neg fresh

theorem MsgIds.Tracks.txRequest {hopId endId : UInt32} (tracks : ids.Tracks outstanding)
    (freshHop : hopId ∉ outstanding.map Prod.fst) (freshEnd : endId ∉ outstanding.map Prod.snd) :
    (ids.txRequest hopId endId).Tracks ((hopId, endId) :: outstanding) := by
  constructor
  · show addKey ids.lastTxHopId hopId = _
    rw [tracks.hops, addKey_of_not_mem freshHop]
    rfl
  · show addKey ids.lastTxEndId endId = _
    rw [tracks.ends, addKey_of_not_mem freshEnd]
    rfl
  · exact List.nodup_cons.mpr ⟨freshHop, tracks.distinctHops⟩
  · exact List.nodup_cons.mpr ⟨freshEnd, tracks.distinctEnds⟩

theorem MsgIds.Tracks.erase (tracks : ids.Tracks outstanding) {pair : UInt32 × UInt32} (mem : pair ∈ outstanding) :
    ({ ids with lastTxHopId := ids.lastTxHopId.erase pair.1, lastTxEndId := ids.lastTxEndId.erase pair.2 } :
      MsgIds).Tracks (outstanding.erase pair) := by
  have hops := map_erase_of_nodup Prod.fst tracks.distinctHops mem
  have ends := map_erase_of_nodup Prod.snd tracks.distinctEnds mem
  constructor
  · rw [hops, tracks.hops]
  · rw [ends, tracks.ends]
  · rw [hops]
    exact tracks.distinctHops.erase _
  · rw [ends]
    exact tracks.distinctEnds.erase _

/-- An answer whose hop-by-hop id is outstanding has the ids of one request. -/
def Unmixed (outstanding : List (UInt32 × UInt32)) (msg : PeerMsg) : Prop :=
  msg.hh ∈ outstanding.map Prod.fst → (msg.hh, msg.ee) ∈ outstanding

instance (outstanding : List (UInt32 × UInt32)) (msg : PeerMsg) : Decidable (Unmixed outstanding msg) :=
  inferInstanceAs (Decidable (_ → _))

theorem MsgIds.Tracks.rxAnswer (tracks : ids.Tracks outstanding) (answer : msg.request = false)
    (unmixed : Unmixed outstanding msg) :
    ((ids.rxMessage msg).2 = true ↔ (msg.hh, msg.ee) ∈ outstanding) ∧
      ((ids.rxMessage msg).2 = false → (ids.rxMessage msg).1 = ids) ∧
      (ids.rxMessage msg).1.Tracks (outstanding.erase (msg.hh, msg.ee)) := by
  unfold MsgIds.rxMessage
  rw [if_neg (by rw [answer]; nofun), tracks.hops]
  by_cases hop : msg.hh ∈ outstanding.map Prod.fst
  · have mem := unmixed hop
    have last : msg.ee ∈ ids.lastTxEndId := by
      rw [tracks.ends]
      exact List.mem_map_of_mem mem
    rw [if_neg (not_not_intro hop)]
    dsimp only
    rw [if_neg (not_not_intro last)]
    refine ⟨iff_of_true rfl mem, nofun, ?_⟩
    have erased := tracks.erase mem
    rw [tracks.hops] at erased
    exact erased
  · have absent : (msg.hh, msg.ee) ∉ outstanding := fun mem => hop (List.mem_map_of_mem mem)
    rw [if_pos hop, List.erase_of_not_mem absent]
    exact ⟨iff_of_false nofun absent, fun _ => rfl, tracks⟩

end Ledgers

section Requests

def PeerMsg.isBase (msg : PeerMsg) : Bool := commandEvents.any fun events => events.cmdCode == msg.code

def PeerEventParam.request (param : PeerEventParam Io) : Option PeerMsg :=
  if param.event.isRequest then param.msg else none

def answersRequest : PeerState → PeerEvent → Bool
  | .closed, .rConnCER | .iOpen, .iRcvCER | .iOpen, .iRcvDWR | .iOpen, .iRcvDPR | .rOpen, .rRcvCER
  | .rOpen, .rRcvDWR | .rOpen, .rRcvDPR => true
  | _, _ => false

/-- A `CER` with which an election begins, to be answered when it is won. -/
def opensElection (config : PeerConfig) (state : PeerState) (event : PeerEvent) (cer : PeerMsg) : Bool :=
  match state, event with
  | .waitConnAck, .rConnCER => validates config cer
  | .waitICEA, .rConnCER =>
    validates config cer && electHosts config.identity (disassembleCE cer).host != .sameHost
  | _, _ => false

def draws : PeerState → PeerEvent → Bool
  | .waitConnAck, .iRcvConnAck | .waitConnAckElect, .iRcvConnAck | .iOpen, .watchdog | .rOpen, .watchdog
  | .iOpen, .stop | .rOpen, .stop => true
  | _, _ => false

end Requests

namespace PeerFsm

def accepts (fsm : PeerFsm Io) (msg : PeerMsg) : Bool :=
  !(fsm.state == .waitICEA && !msg.isCapabilities) && (fsm.msgIds.rxMessage msg).2

def cleansUp (error : CollectorError) (ioName : String) : Bool :=
  match error with
  | .corruptedByteStream | .transportError => ioName != "Acceptor" && ioName != "Connector"
  | .parsingError => false
  | _ => true

/-- Events that leave the `CER` of an election to be answered, or answer it. -/
def keepsElected (config : PeerConfig) (fsm : PeerFsm Io) (event : PeerEvent) : Bool :=
  match fsm.state, event with
  | .waitConnAckElect, .iRcvConnAck => electHosts config.identity fsm.capabilities.host != .sameHost
  | .waitConnAckElect, .iRcvConnNack | .waitReturns, .winElection | .waitReturns, .iPeerDisc => true
  | state, event => (peerStateTable.findStateTableEntry state event).isNone

end PeerFsm

/-- A `DiameterPeerEntry`: its machine and `m_EventQueue`, the `CER` of the election
that is on, and the ids of the requests sent that have no answer yet. -/
structure PeerEntry (Io : Type) where
  fsm : PeerFsm Io
  events : List (PeerEventParam Io)
  elected : Option PeerMsg
  outstanding : List (UInt32 × UInt32)

inductive EntryInput (Io : Type) where
  | incommingConnectionRequest (io : Io) (cer : PeerMsg)
  | message (msg : PeerMsg)
  | error (error : CollectorError) (ioName : String)
  | notified (event : PeerEvent) (io : Option Io)
  | stop (cause : UInt32)
  | serve

def EntryInput.Admitted : EntryInput Io → Prop
  | .incommingConnectionRequest _ cer => cer.request = true
  | .notified event io => event.carriesMsg = false ∧ io.isSome = event.carriesIo
  | _ => True

namespace PeerEntry

section Inputs

variable (config : PeerConfig)

def initial : PeerEntry Io := ⟨.initial, [], none, []⟩

def called (entry : PeerEntry Io) (result : PeerFsm Io × List (PeerEventParam Io)) : PeerEntry Io :=
  { entry with fsm := result.1, events := entry.events ++ result.2 }

def notification : Effect Io → Option (PeerEventParam Io)
  | .notify event => some ⟨event, none, none⟩
  | _ => none

def electedAfter (entry : PeerEntry Io) (param : PeerEventParam Io) : Option PeerMsg :=
  match entry.fsm.state, param.event with
  | .waitConnAck, .rConnCER | .waitICEA, .rConnCER => param.msg
  | _, _ => entry.elected

def requestsSent (effects : List (Effect Io)) : List (UInt32 × UInt32) :=
  ((transmitted effects).filter (·.request)).map fun msg => (msg.hh, msg.ee)

def served (entry : PeerEntry Io) (param : PeerEventParam Io) (rest : List (PeerEventParam Io)) : PeerEntry Io where
  fsm := entry.fsm.serve config param
  events := rest ++ (entry.fsm.serve config param).effects.filterMap notification
  elected := entry.electedAfter param
  outstanding := requestsSent (entry.fsm.serve config param).effects ++ entry.outstanding

def take (entry : PeerEntry Io) : EntryInput Io → PeerEntry Io
  | .incommingConnectionRequest io cer => entry.called (entry.fsm.incommingConnectionRequest io cer)
  | .message msg =>
    { entry.called (entry.fsm.message msg) with
      outstanding :=
        if msg.isBase && !msg.request && entry.fsm.accepts msg then entry.outstanding.erase (msg.hh, msg.ee)
        else entry.outstanding }
  | .error error ioName => entry.called (entry.fsm.error error ioName)
  | .notified event io => entry.called (entry.fsm, entry.fsm.notify event none io)
  | .stop cause =>
    entry.called ({ entry.fsm with disconnectCause := cause }, entry.fsm.notify .stop none none)
  | .serve =>
    match entry.events with
    | [] => entry
    | param :: rest => entry.served config param rest

def answered (entry : PeerEntry Io) (param : PeerEventParam Io) : Option PeerMsg :=
  if param.event.isRequest then param.msg else entry.elected

def Echoes (entry : PeerEntry Io) : EntryInput Io → Prop
  | .serve => ∀ param rest, entry.events = param :: rest →
      ∀ msg ∈ transmitted (entry.fsm.serve config param).effects, msg.request = false →
        ∃ request, entry.answered param = some request ∧ msg.hh = request.hh ∧ msg.ee = request.ee
  | .message msg => msg.isBase = true → msg.request = false →
      (entry.fsm.accepts msg = true ↔ (msg.hh, msg.ee) ∈ entry.outstanding) ∧
        (entry.fsm.accepts msg = false → (entry.fsm.message msg).1.msgIds = entry.fsm.msgIds)
  | _ => True

/-- What an event may do for the ids to stay in order: its request is answered now
or at the end of an election, the `CER` of an election is not given up, and ids that
are drawn are not those of an outstanding request. -/
structure ServeMeets (entry : PeerEntry Io) (param : PeerEventParam Io) : Prop where
  answered : param.event.isRequest = true → answersRequest entry.fsm.state param.event = true ∨
    ∀ cer, param.msg = some cer → opensElection config entry.fsm.state param.event cer = true
  kept : entry.fsm.state.elects = true → entry.fsm.keepsElected config param.event = true
  fresh : draws entry.fsm.state param.event = true →
    config.hopByHopGen entry.fsm.drawn ∉ entry.outstanding.map Prod.fst ∧
      config.endToEndGen entry.fsm.drawn ∉ entry.outstanding.map Prod.snd

/-- A request must not come where it is discarded, an answer must not mix the ids of
two requests nor come for an outstanding one in place of a `CEA`, and a connection
must not fail in the middle of an election. -/
def Meets (entry : PeerEntry Io) : EntryInput Io → Prop
  | .serve => ∀ param rest, entry.events = param :: rest → entry.ServeMeets config param
  | .message msg => msg.isBase = true →
      if msg.request then entry.fsm.state ∈ [.waitICEA, .iOpen, .rOpen]
      else if entry.fsm.state = .waitICEA ∧ msg.isCapabilities = false then
        (msg.hh, msg.ee) ∉ entry.outstanding
      else Unmixed entry.outstanding msg
  | .error error ioName => PeerFsm.cleansUp error ioName = true → entry.fsm.state.elects = false
  | _ => True

end Inputs

section Matching

variable {config : PeerConfig} {entry after : PeerEntry Io}

def electing (entry : PeerEntry Io) : List PeerMsg :=
  if entry.fsm.state.elects then entry.elected.toList else []

def pending (entry : PeerEntry Io) : List PeerMsg := entry.electing ++ entry.events.filterMap (·.request)

structure Matched (entry : PeerEntry Io) : Prop where
  running : entry.fsm.running = true
  notified : ∀ param ∈ entry.events, param.event.isRequest = true → param.msg.isSome
  elected : entry.fsm.state.elects = true → entry.elected.isSome
  waits : entry.fsm.msgIds.Waits entry.pending
  tracks : entry.fsm.msgIds.Tracks entry.outstanding

theorem initial_matched : (initial : PeerEntry Io).Matched :=
  ⟨rfl, List.forall_mem_nil _, nofun, ⟨rfl, rfl⟩, ⟨rfl, rfl, List.nodup_nil, List.nodup_nil⟩⟩

structure Queues (entry after : PeerEntry Io) (queued : List (PeerEventParam Io)) : Prop where
  running : after.fsm.running = entry.fsm.running
  elects : after.fsm.state.elects = entry.fsm.state.elects
  elected : after.elected = entry.elected
  events : after.events = entry.events ++ queued

theorem Queues.pending {queued : List (PeerEventParam Io)} (queues : entry.Queues after queued) :
    after.pending = entry.pending ++ queued.filterMap (·.request) := by
  unfold PeerEntry.pending electing
  rw [queues.elects, queues.elected, queues.events, List.filterMap_append, List.append_assoc]

theorem Matched.queues {queued : List (PeerEventParam Io)} (matched : entry.Matched)
    (queues : entry.Queues after queued) (notified : ∀ param ∈ queued, param.event.isRequest = true → param.msg.isSome)
    (waits : after.fsm.msgIds.Waits (entry.pending ++ queued.filterMap (·.request)))
    (tracks : after.fsm.msgIds.Tracks after.outstanding) : after.Matched := by
  constructor
  · exact queues.running.trans matched.running
  · rw [queues.events]
    exact List.forall_mem_append.mpr ⟨matched.notified, notified⟩
  · rw [queues.elects, queues.elected]
    exact matched.elected
  · rw [queues.pending]
    exact waits
  · exact tracks

theorem filterMap_request_of_others {queued : List (PeerEventParam Io)}
    (others : ∀ param ∈ queued, param.event.isRequest = false) : queued.filterMap (·.request) = [] := by
  apply List.filterMap_eq_nil_iff.mpr
  intro param mem
  rw [PeerEventParam.request, others param mem]
  rfl

theorem Matched.others {queued : List (PeerEventParam Io)} (matched : entry.Matched)
    (queues : entry.Queues after queued) (others : ∀ param ∈ queued, param.event.isRequest = false)
    (waits : after.fsm.msgIds.Waits entry.pending) (tracks : after.fsm.msgIds.Tracks after.outstanding) :
    after.Matched := by
  apply matched.queues queues _ _ tracks
  · intro param mem request
    rw [others param mem] at request
    cases request
  · rw [filterMap_request_of_others others, List.append_nil]
    exact waits

theorem Matched.request {param : PeerEventParam Io} {msg : PeerMsg} (matched : entry.Matched)
    (queues : entry.Queues after [param]) (carried : param.event.isRequest = true ∧ param.msg = some msg)
    (request : msg.request = true) (msgIds : after.fsm.msgIds = (entry.fsm.msgIds.rxMessage msg).1)
    (outstanding : after.outstanding = entry.outstanding) : after.Matched := by
  apply matched.queues queues
  · intro queued mem _
    rw [List.mem_singleton.mp mem, carried.2]
    rfl
  · have queued : [param].filterMap (·.request) = [msg] := by
      rw [List.filterMap_cons, PeerEventParam.request, if_pos carried.1, carried.2]
      rfl
    rw [queued, msgIds]
    exact matched.waits.rxRequest request
  · rw [msgIds, outstanding]
    exact matched.tracks.rxRequest request

end Matching

section Calls

variable {config : PeerConfig} {entry : PeerEntry Io}

theorem notify_eq {fsm : PeerFsm Io} (running : fsm.running = true) (event : PeerEvent) (msg : Option PeerMsg)
    (io : Option Io) : fsm.notify event msg io = [⟨event, msg, io⟩] := by
  rw [PeerFsm.notify, if_pos running]

theorem notify_other (fsm : PeerFsm Io) {event : PeerEvent} (msg : Option PeerMsg) (io : Option Io)
    (other : event.isRequest = false) : ∀ param ∈ fsm.notify event msg io, param.event.isRequest = false := by
  unfold PeerFsm.notify
  split
  · exact List.forall_mem_singleton.mpr other
  · exact List.forall_mem_nil _

theorem incomming_matched (matched : entry.Matched) (io : Io) {cer : PeerMsg} (request : cer.request = true) :
    (entry.take config (.incommingConnectionRequest io cer)).Matched := by
  have queues : entry.Queues (entry.take config (.incommingConnectionRequest io cer)) [⟨.rConnCER, some cer, some io⟩] := by
    refine ⟨rfl, rfl, rfl, ?_⟩
    rw [← notify_eq matched.running]
    rfl
  exact matched.request queues ⟨rfl, rfl⟩ request rfl rfl

/-- Messages of the base protocol in the two open states. -/
theorem commandEvents_request : ∀ events ∈ commandEvents,
    events.requestIEv.isRequest = true ∧ events.requestREv.isRequest = true ∧
      events.answerIEv.isRequest = false ∧ events.answerREv.isRequest = false := by
  decide

theorem baseMessage_answer (fsm : PeerFsm Io) {events : CommandEvents} (mem : events ∈ commandEvents) {msg : PeerMsg}
    (answer : msg.request = false) : ∀ param ∈ fsm.baseMessage events msg, param.event.isRequest = false := by
  obtain ⟨_, _, initiator, responder⟩ := commandEvents_request events mem
  have initiatorEv : (events.initiator msg.request).isRequest = false := by
    rw [CommandEvents.initiator, answer]
    exact initiator
  have responderEv : (events.responder msg.request).isRequest = false := by
    rw [CommandEvents.responder, answer]
    exact responder
  unfold PeerFsm.baseMessage
  split
  · exact notify_other fsm _ _ initiatorEv
  · exact notify_other fsm _ _ responderEv
  · split
    · exact notify_other fsm _ _ initiatorEv
    · exact notify_other fsm _ _ responderEv
  all_goals
    try
      split
      · exact notify_other fsm _ _ rfl
      · exact List.forall_mem_nil _
  exact List.forall_mem_nil _

theorem find_of_isBase {msg : PeerMsg} (base : msg.isBase = true) :
    ∃ events ∈ commandEvents, (commandEvents.find? fun events => events.cmdCode == msg.code) = some events := by
  obtain ⟨events, found⟩ := Option.isSome_iff_exists.mp (List.find?_isSome.mpr (List.any_eq_true.mp base))
  exact ⟨events, List.mem_of_find?_eq_some found, found⟩

theorem find_of_not_isBase {msg : PeerMsg} (other : msg.isBase = false) :
    (commandEvents.find? fun events => events.cmdCode == msg.code) = none := by
  apply List.find?_eq_none.mpr
  intro events mem same
  exact List.any_eq_false.mp other events mem same

theorem message_other (fsm : PeerFsm Io) {msg : PeerMsg} (other : msg.isBase = false) :
    (fsm.message msg).1 = fsm ∧ ∀ param ∈ (fsm.message msg).2, param.event.isRequest = false := by
  unfold PeerFsm.message
  split
  · exact ⟨rfl, notify_other fsm _ _ rfl⟩
  · rw [find_of_not_isBase other]
    dsimp only
    split
    · exact ⟨rfl, notify_other fsm _ _ rfl⟩
    · exact ⟨rfl, notify_other fsm _ _ rfl⟩
    · exact ⟨rfl, List.forall_mem_nil _⟩

/-- While a `CEA` is waited for, nothing else gets to the check of the ids. -/
theorem message_barred {fsm : PeerFsm Io} {msg : PeerMsg}
    (barred : fsm.state = .waitICEA ∧ (!msg.isCapabilities || msg.request) = true) :
    fsm.message msg = (fsm, fsm.notify .iRcvNonCEA none none) :=
  if_pos barred

theorem message_answer {fsm : PeerFsm Io} {msg : PeerMsg} (base : msg.isBase = true) (answer : msg.request = false)
    (checked : ¬(fsm.state = .waitICEA ∧ msg.isCapabilities = false)) :
    (fsm.message msg).1 = (fsm.msgIdRxMessage msg).1 ∧
      ∀ param ∈ (fsm.message msg).2, param.event.isRequest = false := by
  obtain ⟨events, mem, found⟩ := find_of_isBase base
  have passed : ¬(fsm.state = .waitICEA ∧ (!msg.isCapabilities || msg.request) = true) := by
    rw [answer, Bool.or_false, Bool.not_eq_true']
    exact checked
  rw [PeerFsm.message, if_neg passed, found]
  dsimp only
  split
  · exact ⟨rfl, List.forall_mem_nil _⟩
  · exact ⟨rfl, baseMessage_answer _ mem answer⟩

theorem message_request {fsm : PeerFsm Io} {msg : PeerMsg} (running : fsm.running = true) (base : msg.isBase = true)
    (request : msg.request = true) (opened : fsm.state = .iOpen ∨ fsm.state = .rOpen) :
    ∃ event : PeerEvent, event.isRequest = true ∧
      fsm.message msg = ((fsm.msgIdRxMessage msg).1, [⟨event, some msg, none⟩]) := by
  obtain ⟨events, mem, found⟩ := find_of_isBase base
  obtain ⟨initiator, responder, _, _⟩ := commandEvents_request events mem
  have expected : ¬((!(fsm.msgIdRxMessage msg).2 && !msg.request) = true) := by
    rw [request, Bool.not_true, Bool.and_false]
    nofun
  unfold PeerFsm.message
  rcases opened with state | state
  · refine ⟨events.requestIEv, initiator, ?_⟩
    rw [if_neg (by rw [state]; nofun), found]
    dsimp only
    rw [if_neg expected]
    have served : (fsm.msgIdRxMessage msg).1.state = .iOpen := state
    rw [PeerFsm.baseMessage, served]
    dsimp only
    rw [notify_eq (show (fsm.msgIdRxMessage msg).1.running = true from running), CommandEvents.initiator, if_pos request]
  · refine ⟨events.requestREv, responder, ?_⟩
    rw [if_neg (by rw [state]; nofun), found]
    dsimp only
    rw [if_neg expected]
    have served : (fsm.msgIdRxMessage msg).1.state = .rOpen := state
    rw [PeerFsm.baseMessage, served]
    dsimp only
    rw [notify_eq (show (fsm.msgIdRxMessage msg).1.running = true from running), CommandEvents.responder, if_pos request]

theorem Matched.unrelated {after : PeerEntry Io} {queued : List (PeerEventParam Io)} (matched : entry.Matched)
    (queues : entry.Queues after queued) (others : ∀ param ∈ queued, param.event.isRequest = false)
    (msgIds : after.fsm.msgIds = entry.fsm.msgIds) (outstanding : after.outstanding = entry.outstanding) :
    after.Matched := by
  apply matched.others queues others
  · rw [msgIds]
    exact matched.waits
  · rw [msgIds, outstanding]
    exact matched.tracks

theorem outstanding_message (entry : PeerEntry Io) {msg : PeerMsg}
    (kept : msg.isBase = false ∨ msg.request = true ∨ entry.fsm.accepts msg = false) :
    (entry.take config (.message msg)).outstanding = entry.outstanding := by
  apply if_neg
  rcases kept with other | request | rejected
  · rw [other]
    nofun
  · rw [request, Bool.not_true, Bool.and_false]
    nofun
  · rw [rejected, Bool.and_false]
    nofun

theorem Queues.message {msg : PeerMsg} (elects : (entry.fsm.message msg).1.state = entry.fsm.state)
    (running : (entry.fsm.message msg).1.running = entry.fsm.running) :
    entry.Queues (entry.take config (.message msg)) (entry.fsm.message msg).2 :=
  ⟨running, congrArg PeerState.elects elects, rfl, rfl⟩

theorem accepts_of_checked {fsm : PeerFsm Io} {msg : PeerMsg}
    (checked : ¬(fsm.state = .waitICEA ∧ msg.isCapabilities = false)) :
    fsm.accepts msg = (fsm.msgIds.rxMessage msg).2 := by
  have passed : (fsm.state == .waitICEA && !msg.isCapabilities) = false := by
    apply Bool.eq_false_iff.mpr
    intro barred
    rw [Bool.and_eq_true, beq_iff_eq, Bool.not_eq_true'] at barred
    exact checked barred
  rw [PeerFsm.accepts, passed, Bool.not_false, Bool.true_and]

theorem accepts_of_barred {fsm : PeerFsm Io} {msg : PeerMsg} (state : fsm.state = .waitICEA)
    (other : msg.isCapabilities = false) : fsm.accepts msg = false := by
  rw [PeerFsm.accepts, state, other]
  rfl

theorem answer_matched {msg : PeerMsg} (matched : entry.Matched) (base : msg.isBase = true)
    (answer : msg.request = false) (unmixed : Unmixed entry.outstanding msg)
    (checked : ¬(entry.fsm.state = .waitICEA ∧ msg.isCapabilities = false)) :
    (entry.take config (.message msg)).Matched := by
  obtain ⟨received, others⟩ := message_answer base answer checked
  obtain ⟨accepted, _, tracks⟩ := matched.tracks.rxAnswer answer unmixed
  have msgIds : (entry.take config (.message msg)).fsm.msgIds = (entry.fsm.msgIds.rxMessage msg).1 :=
    congrArg PeerFsm.msgIds received
  have queues : entry.Queues (entry.take config (.message msg)) (entry.fsm.message msg).2 :=
    .message ((congrArg PeerFsm.state received).trans rfl) ((congrArg PeerFsm.running received).trans rfl)
  have outstanding : (entry.take config (.message msg)).outstanding = entry.outstanding.erase (msg.hh, msg.ee) := by
    cases verdict : entry.fsm.accepts msg with
    | true =>
      apply if_pos
      rw [base, answer, verdict]
      rfl
    | false =>
      rw [outstanding_message entry (Or.inr (Or.inr verdict)), List.erase_of_not_mem]
      rw [← accepted, ← accepts_of_checked checked, verdict]
      nofun
  apply matched.others queues others
  · rw [msgIds]
    exact matched.waits.rxAnswer answer
  · rw [msgIds, outstanding]
    exact tracks

theorem message_matched {msg : PeerMsg} (matched : entry.Matched) (meets : entry.Meets config (.message msg)) :
    (entry.take config (.message msg)).Matched := by
  cases base : msg.isBase with
  | false =>
    obtain ⟨same, others⟩ := message_other entry.fsm base
    exact matched.unrelated (.message (congrArg PeerFsm.state same) (congrArg PeerFsm.running same)) others
      (congrArg PeerFsm.msgIds same) (outstanding_message entry (Or.inl base))
  | true =>
    have meets := meets base
    by_cases barred : entry.fsm.state = .waitICEA ∧ (!msg.isCapabilities || msg.request) = true
    · -- the answer that ends the attempt is not for an outstanding request
      have result := message_barred barred
      apply matched.unrelated (.message (by rw [result]) (by rw [result])) (by rw [result]; exact notify_other _ _ _ rfl)
      · exact congrArg (PeerFsm.msgIds ∘ Prod.fst) result
      · apply outstanding_message
        cases request : msg.request with
        | true => exact Or.inr (Or.inl rfl)
        | false =>
          have other : msg.isCapabilities = false := by
            rw [← Bool.not_eq_true', ← Bool.or_false (!msg.isCapabilities), ← request]
            exact barred.2
          exact Or.inr (Or.inr (accepts_of_barred barred.1 other))
    · cases request : msg.request with
      | true =>
        rw [if_pos request] at meets
        have opened : entry.fsm.state = .iOpen ∨ entry.fsm.state = .rOpen := by
          simp only [List.mem_cons, List.not_mem_nil, or_false] at meets
          rcases meets with waits | opened
          · rw [request, Bool.or_true] at barred
            exact absurd ⟨waits, rfl⟩ barred
          · exact opened
        obtain ⟨event, carries, result⟩ := message_request matched.running base request opened
        have queues : entry.Queues (entry.take config (.message msg)) [⟨event, some msg, none⟩] := by
          refine ⟨?_, ?_, rfl, ?_⟩
          · exact congrArg (PeerFsm.running ∘ Prod.fst) result
          · exact congrArg (PeerState.elects ∘ PeerFsm.state ∘ Prod.fst) result
          · exact congrArg ((entry.events ++ ·) ∘ Prod.snd) result
        exact matched.request queues ⟨carries, rfl⟩ request (congrArg (PeerFsm.msgIds ∘ Prod.fst) result)
          (outstanding_message entry (Or.inr (Or.inl request)))
      | false =>
        have checked : ¬(entry.fsm.state = .waitICEA ∧ msg.isCapabilities = false) := by
          rintro ⟨waits, other⟩
          rw [other] at barred
          exact barred ⟨waits, rfl⟩
        rw [if_neg (by rw [request]; nofun), if_neg checked] at meets
        exact answer_matched matched base request meets checked

theorem message_echoes {msg : PeerMsg} (matched : entry.Matched) (meets : entry.Meets config (.message msg)) :
    entry.Echoes config (.message msg) := by
  intro base answer
  have meets := meets base
  rw [if_neg (by rw [answer]; nofun)] at meets
  by_cases barred : entry.fsm.state = .waitICEA ∧ msg.isCapabilities = false
  · rw [if_pos barred] at meets
    have rejected := accepts_of_barred barred.1 barred.2
    have result : entry.fsm.message msg = (entry.fsm, entry.fsm.notify .iRcvNonCEA none none) := by
      apply message_barred
      rw [barred.2]
      exact ⟨barred.1, rfl⟩
    refine ⟨iff_of_false (by rw [rejected]; nofun) meets, fun _ => ?_⟩
    exact congrArg (PeerFsm.msgIds ∘ Prod.fst) result
  · rw [if_neg barred] at meets
    obtain ⟨accepted, rejected, _⟩ := matched.tracks.rxAnswer answer meets
    rw [accepts_of_checked barred]
    refine ⟨accepted, fun refused => ?_⟩
    have received := congrArg PeerFsm.msgIds (message_answer base answer barred).1
    exact received.trans (rejected refused)

theorem cleanup_matched (matched : entry.Matched) (elects : entry.fsm.state.elects = false) :
    (entry.called (entry.fsm.cleanup .all, [])).Matched := by
  have cleaned := PeerFsm.silent_cleanup entry.fsm .all
  have queues : entry.Queues (entry.called (entry.fsm.cleanup .all, [])) [] := by
    refine ⟨matched.running.symm, ?_, rfl, rfl⟩
    exact elects.symm
  exact matched.unrelated queues (List.forall_mem_nil _) cleaned.msgIds rfl

theorem error_cases (fsm : PeerFsm Io) (error : CollectorError) (ioName : String) :
    (∃ event : PeerEvent, event.isRequest = false ∧ fsm.error error ioName = (fsm, fsm.notify event none none)) ∨
      fsm.error error ioName = (fsm, []) ∨
      PeerFsm.cleansUp error ioName = true ∧ fsm.error error ioName = (fsm.cleanup .all, []) := by
  have disconnected : ∀ lost : CollectorError, lost = .corruptedByteStream ∨ lost = .transportError →
      (∃ event : PeerEvent, event.isRequest = false ∧ fsm.error lost ioName = (fsm, fsm.notify event none none)) ∨
        PeerFsm.cleansUp lost ioName = true ∧ fsm.error lost ioName = (fsm.cleanup .all, []) := by
    intro lost named
    have result : fsm.error lost ioName = fsm.error .transportError ioName ∧
        PeerFsm.cleansUp lost ioName = (ioName != "Acceptor" && ioName != "Connector") := by
      rcases named with rfl | rfl <;> exact ⟨rfl, rfl⟩
    rw [result.1, result.2, PeerFsm.error]
    by_cases acceptor : ioName = "Acceptor"
    · rw [if_pos acceptor]
      exact Or.inl ⟨.rPeerDisc, rfl, rfl⟩
    · rw [if_neg acceptor]
      by_cases connector : ioName = "Connector"
      · rw [if_pos connector]
        exact Or.inl ⟨.iPeerDisc, rfl, rfl⟩
      · rw [if_neg connector]
        exact Or.inr ⟨by rw [bne_iff_ne.mpr acceptor, bne_iff_ne.mpr connector]; rfl, rfl⟩
  cases error with
  | corruptedByteStream => exact (disconnected _ (Or.inl rfl)).imp_right Or.inr
  | transportError => exact (disconnected _ (Or.inr rfl)).imp_right Or.inr
  | parsingError => exact Or.inr (Or.inl rfl)
  | bugInParsingCode | memoryAllocError | invalidMsg => exact Or.inr (Or.inr ⟨rfl, rfl⟩)

theorem error_matched {error : CollectorError} {ioName : String} (matched : entry.Matched)
    (meets : entry.Meets config (.error error ioName)) : (entry.take config (.error error ioName)).Matched := by
  show (entry.called (entry.fsm.error error ioName)).Matched
  rcases error_cases entry.fsm error ioName with ⟨event, other, told⟩ | ignored | ⟨cleans, cleaned⟩
  · rw [told]
    exact matched.unrelated ⟨rfl, rfl, rfl, rfl⟩ (notify_other _ _ _ other) rfl rfl
  · rw [ignored]
    exact matched.unrelated ⟨rfl, rfl, rfl, rfl⟩ (List.forall_mem_nil _) rfl rfl
  · rw [cleaned]
    exact cleanup_matched matched (meets cleans)

theorem isRequest_of_not_carriesMsg {event : PeerEvent} (empty : event.carriesMsg = false) : event.isRequest = false := by
  cases event <;> first | rfl | cases empty

end Calls

section Serving

variable {config : PeerConfig} {entry : PeerEntry Io} {param : PeerEventParam Io} {rest : List (PeerEventParam Io)}

def given (entry : PeerEntry Io) (param : PeerEventParam Io) : PeerFsm Io := entry.fsm.given param

inductive Turn (config : PeerConfig) (entry : PeerEntry Io) (param : PeerEventParam Io) (rest : List (PeerEventParam Io)) : Prop
  | silent (turn : (entry.given param).Silent (entry.fsm.serve config param))
      (waiting : (entry.served config param rest).electing = entry.electing ++ param.request.toList)
  | requested (turn : (entry.given param).Requested config (entry.fsm.serve config param))
      (fresh : config.hopByHopGen entry.fsm.drawn ∉ entry.outstanding.map Prod.fst ∧
        config.endToEndGen entry.fsm.drawn ∉ entry.outstanding.map Prod.snd)
      (waiting : (entry.served config param rest).electing = entry.electing ++ param.request.toList)
  | answered (turn : (entry.given param).Answered (entry.fsm.serve config param)) (request : PeerMsg)
      (waiting : request :: (entry.served config param rest).electing = entry.electing ++ param.request.toList)
      (answered : entry.answered param = some request)

theorem Turn.unnoticed (turn : Turn config entry param rest) :
    (entry.given param).Unnoticed (entry.fsm.serve config param) := by
  cases turn with
  | silent turn => exact turn.unnoticed
  | requested turn => exact turn.unnoticed
  | answered turn => exact turn.unnoticed

theorem Turn.notifications (turn : Turn config entry param rest) :
    ∀ told ∈ (entry.fsm.serve config param).effects.filterMap notification, told.event.isRequest = false := by
  intro told mem
  obtain ⟨effect, listed, noted⟩ := List.mem_filterMap.mp mem
  cases effect with
  | notify event =>
    cases noted
    rcases turn.unnoticed event listed with earlier | other
    · cases earlier
    · exact other
  | _ => cases noted

theorem Turn.pending (turn : Turn config entry param rest) :
    (entry.served config param rest).pending =
      (entry.served config param rest).electing ++ rest.filterMap (·.request) := by
  have events : (entry.served config param rest).events.filterMap (·.request) = rest.filterMap (·.request) := by
    show (rest ++ _).filterMap (·.request) = _
    rw [List.filterMap_append, filterMap_request_of_others turn.notifications, List.append_nil]
  rw [PeerEntry.pending, events]

theorem pending_of_queue (queue : entry.events = param :: rest) :
    entry.pending = entry.electing ++ param.request.toList ++ rest.filterMap (·.request) := by
  unfold PeerEntry.pending
  rw [queue, List.filterMap_cons, List.append_assoc]
  cases param.request <;> rfl

theorem Turn.sent (turn : Turn config entry param rest) (matched : entry.Matched) (queue : entry.events = param :: rest) :
    ∀ msg ∈ transmitted (entry.fsm.serve config param).effects, msg.request = false →
      ∃ request, entry.answered param = some request ∧ msg.hh = request.hh ∧ msg.ee = request.ee := by
  intro msg mem answer
  cases turn with
  | silent turn =>
    rw [turn.sent] at mem
    cases mem
  | requested turn =>
    obtain ⟨sent, only, request, _⟩ := turn.sent
    rw [only] at mem
    rw [List.mem_singleton.mp mem, request] at answer
    cases answer
  | answered turn request waiting answered =>
    obtain ⟨sent, only, _, hh, ee⟩ := turn.sent
    rw [only] at mem
    have waits := matched.waits
    rw [pending_of_queue queue, ← waiting, List.cons_append] at waits
    have ids := waits.txAnswer.2
    refine ⟨request, answered, ?_, ?_⟩
    · rw [List.mem_singleton.mp mem, hh]
      exact congrArg Prod.fst ids
    · rw [List.mem_singleton.mp mem, ee]
      exact congrArg Prod.snd ids

theorem Turn.matched (turn : Turn config entry param rest) (matched : entry.Matched) (queue : entry.events = param :: rest)
    (running : (entry.fsm.serve config param).running = true)
    (elected : (entry.fsm.serve config param).state.elects = true → (entry.electedAfter param).isSome) :
    (entry.served config param rest).Matched := by
  have waits := matched.waits
  rw [pending_of_queue queue] at waits
  have outstanding : (entry.served config param rest).outstanding =
      requestsSent (entry.fsm.serve config param).effects ++ entry.outstanding := rfl
  refine ⟨running, ?_, elected, ?_, ?_⟩
  · have notified := matched.notified
    rw [queue] at notified
    -- A turn makes no notification of a request.
    have news : ∀ told ∈ (entry.fsm.serve config param).effects.filterMap notification,
        told.event.isRequest = true → told.msg.isSome := by
      intro told mem request
      rw [turn.notifications told mem] at request
      cases request
    exact List.forall_mem_append.mpr ⟨(List.forall_mem_cons.mp notified).2, news⟩
  · rw [turn.pending]
    cases turn with
    | silent turn waiting =>
      rw [waiting]
      show (entry.fsm.serve config param).msgIds.Waits _
      rw [turn.msgIds]
      exact waits
    | requested turn fresh waiting =>
      rw [waiting]
      show (entry.fsm.serve config param).msgIds.Waits _
      rw [turn.msgIds]
      exact ⟨waits.hops, waits.ends⟩
    | answered turn request waiting answered =>
      rw [← waiting, List.cons_append] at waits
      show (entry.fsm.serve config param).msgIds.Waits _
      rw [turn.msgIds]
      exact waits.txAnswer.1
  · rw [outstanding, requestsSent]
    cases turn with
    | silent turn waiting =>
      show (entry.fsm.serve config param).msgIds.Tracks _
      rw [turn.msgIds, turn.sent]
      exact matched.tracks
    | requested turn fresh waiting =>
      obtain ⟨sent, only, request, hh, ee⟩ := turn.sent
      have drawn : ([sent].filter (·.request)).map (fun msg => (msg.hh, msg.ee)) =
          [(config.hopByHopGen entry.fsm.drawn, config.endToEndGen entry.fsm.drawn)] := by
        rw [List.filter_cons_of_pos request, List.filter_nil, List.map_singleton, hh, ee]
        rfl
      show (entry.fsm.serve config param).msgIds.Tracks _
      rw [turn.msgIds, only]
      show MsgIds.Tracks _ (([sent].filter (·.request)).map (fun msg => (msg.hh, msg.ee)) ++ _)
      rw [drawn]
      exact matched.tracks.txRequest fresh.1 fresh.2
    | answered turn request waiting answered =>
      obtain ⟨sent, only, answer, _⟩ := turn.sent
      have none : ([sent].filter (·.request)).map (fun msg => (msg.hh, msg.ee)) = [] := by
        rw [List.filter_cons_of_neg (by rw [answer]; nofun), List.filter_nil, List.map_nil]
      show (entry.fsm.serve config param).msgIds.Tracks _
      rw [turn.msgIds, only]
      show MsgIds.Tracks _ (([sent].filter (·.request)).map (fun msg => (msg.hh, msg.ee)) ++ _)
      rw [none]
      exact ⟨matched.tracks.hops, matched.tracks.ends, matched.tracks.distinctHops, matched.tracks.distinctEnds⟩

end Serving

section Turns

variable {config : PeerConfig} {entry : PeerEntry Io} {param : PeerEventParam Io} {rest : List (PeerEventParam Io)}
  {row : PeerRow}

theorem row_answers : ∀ row ∈ peerStateTable, row.action.sent = .answer →
    row.prevState.elects = true ∨ row.event.any PeerEvent.isRequest = true := by
  decide +kernel

theorem row_elects : ∀ row ∈ peerStateTable, row.nextState.elects = true →
    row.prevState.elects = true ∨ row.event.any PeerEvent.isRequest = true := by
  decide +kernel

theorem row_draws : ∀ row ∈ peerStateTable, row.action.sent = .request →
    row.event.any (draws row.prevState) = true := by
  decide +kernel

theorem found_any {fsm : PeerFsm Io} {event : PeerEvent} {p : PeerEvent → Bool}
    (found : peerStateTable.findStateTableEntry fsm.state event = some row) (any : row.event.any p = true) :
    p event = true := by
  obtain ⟨_, _, wildcard | named⟩ := StateTable.findStateTableEntry_mem found
  · rw [wildcard] at any
    cases any
  · rw [named] at any
    exact any

theorem silent_moved (entry : PeerEntry Io) (param : PeerEventParam Io) (row : PeerRow) :
    (entry.given param).Silent ((entry.given param).moved row) :=
  PeerFsm.silent_of_eq rfl rfl rfl

theorem serve_silent (running : entry.fsm.running = true)
    (found : peerStateTable.findStateTableEntry entry.fsm.state param.event = some row)
    (silent : row.action.sent = .nothing) : (entry.given param).Silent (entry.fsm.serve config param) := by
  rw [PeerFsm.serve_of_row config param running found]
  exact ((silent_moved entry param row).trans (PeerFsm.perform_silent silent)).trans (PeerFsm.silent_forgetCurrent _)

theorem serve_requested (running : entry.fsm.running = true)
    (found : peerStateTable.findStateTableEntry entry.fsm.state param.event = some row)
    (requests : row.action.sent = .request) :
    (entry.given param).Requested config (entry.fsm.serve config param) := by
  rw [PeerFsm.serve_of_row config param running found]
  exact ((silent_moved entry param row).requested (PeerFsm.perform_requested requests)).silent
    (PeerFsm.silent_forgetCurrent _)

theorem serve_answered (running : entry.fsm.running = true)
    (found : peerStateTable.findStateTableEntry entry.fsm.state param.event = some row)
    (answers : row.action.sent = .answer) (present : row.action.answersLate = true ∨ param.msg.isSome) :
    (entry.given param).Answered (entry.fsm.serve config param) := by
  rw [PeerFsm.serve_of_row config param running found]
  exact ((silent_moved entry param row).answered (PeerFsm.perform_answered answers present)).silent
    (PeerFsm.silent_forgetCurrent _)

theorem serve_settles (running : entry.fsm.running = true)
    (found : peerStateTable.findStateTableEntry entry.fsm.state param.event = some row) :
    (entry.fsm.serve config param).running = true ∧
      ((entry.fsm.serve config param).state = row.nextState ∨ (entry.fsm.serve config param).state = .closed) := by
  rw [PeerFsm.serve_of_row config param running found]
  have settles : ((entry.given param).moved row).Settles
      (((entry.given param).moved row).perform config row.action) := PeerFsm.perform_settles _
  exact ⟨settles.running running, settles.state⟩

theorem serve_not_electing (config : PeerConfig) (running : entry.fsm.running = true)
    (found : peerStateTable.findStateTableEntry entry.fsm.state param.event = some row)
    (next : row.nextState.elects = false) : (entry.fsm.serve config param).state.elects = false := by
  rcases (serve_settles running found).2 with moved | closed
  · rw [moved]
    exact next
  · rw [closed]
    rfl

theorem electing_of_not {entry : PeerEntry Io} (idle : entry.fsm.state.elects = false) : entry.electing = [] := by
  rw [electing, idle]
  rfl

theorem electing_of_elects {entry : PeerEntry Io} (elects : entry.fsm.state.elects = true) :
    entry.electing = entry.elected.toList := by
  rw [electing, elects]
  rfl

theorem answersRequest_row {state : PeerState} {event : PeerEvent} (answers : answersRequest state event = true) :
    state.elects = false ∧ ∃ row, peerStateTable.findStateTableEntry state event = some row ∧
      row.action.sent = .answer ∧ row.nextState.elects = false := by
  unfold answersRequest at answers
  split at answers
  case h_8 => cases answers
  all_goals
    refine ⟨rfl, _, rfl, ?_⟩
    exact ⟨rfl, rfl⟩

theorem opensElection_row {state : PeerState} {event : PeerEvent} {cer : PeerMsg}
    (opens : opensElection config state event cer = true) :
    event = .rConnCER ∧ (state = .waitConnAck ∧ validates config cer = true ∨
      state = .waitICEA ∧ validates config cer = true ∧
        electHosts config.identity (disassembleCE cer).host ≠ .sameHost) := by
  unfold opensElection at opens
  split at opens
  · exact ⟨rfl, Or.inl ⟨rfl, opens⟩⟩
  · rw [Bool.and_eq_true, bne_iff_ne] at opens
    exact ⟨rfl, Or.inr ⟨rfl, opens⟩⟩
  · cases opens

theorem serve_opens {cer : PeerMsg} (running : entry.fsm.running = true) (msg : param.msg = some cer)
    (opens : opensElection config entry.fsm.state param.event cer = true) :
    entry.fsm.state.elects = false ∧ (entry.fsm.serve config param).state.elects = true ∧
      entry.electedAfter param = param.msg ∧ (entry.given param).Silent (entry.fsm.serve config param) := by
  obtain ⟨event, ⟨state, accepted⟩ | ⟨state, accepted, distinct⟩⟩ := opensElection_row opens
  · have found : peerStateTable.findStateTableEntry entry.fsm.state param.event =
        some ⟨.waitConnAck, some .rConnCER, .waitConnAckElect, .rAccept⟩ := by
      rw [state, event]
      rfl
    have stays : (entry.fsm.serve config param).state = .waitConnAckElect := by
      rw [PeerFsm.serve_of_row config param running found]
      exact PeerFsm.actRAccept_stays msg accepted
    refine ⟨congrArg PeerState.elects state, congrArg PeerState.elects stays, ?_, serve_silent running found rfl⟩
    rw [electedAfter, state, event]
  · have found : peerStateTable.findStateTableEntry entry.fsm.state param.event =
        some ⟨.waitICEA, some .rConnCER, .waitReturns, .rAcceptElect⟩ := by
      rw [state, event]
      rfl
    have stays : (entry.fsm.serve config param).state = .waitReturns := by
      rw [PeerFsm.serve_of_row config param running found]
      exact PeerFsm.actRAcceptElect_stays msg accepted distinct
    refine ⟨congrArg PeerState.elects state, congrArg PeerState.elects stays, ?_, serve_silent running found rfl⟩
    rw [electedAfter, state, event]

theorem electedAfter_of_other (entry : PeerEntry Io) (other : param.event.isRequest = false) :
    entry.electedAfter param = entry.elected := by
  unfold electedAfter
  split
  · rename_i event
    rw [event] at other
    cases other
  · rename_i event
    rw [event] at other
    cases other
  · rfl

theorem keepsElected_row {fsm : PeerFsm Io} {event : PeerEvent} (keeps : fsm.keepsElected config event = true) :
    (fsm.state = .waitConnAckElect ∧ event = .iRcvConnAck ∧ electHosts config.identity fsm.capabilities.host ≠ .sameHost) ∨
      (∃ row, peerStateTable.findStateTableEntry fsm.state event = some row ∧ row.action.sent = .answer ∧
        row.action.answersLate = true ∧ row.nextState.elects = false) ∨
      peerStateTable.findStateTableEntry fsm.state event = none := by
  unfold PeerFsm.keepsElected at keeps
  split at keeps
  · rename_i state
    exact Or.inl ⟨state, rfl, bne_iff_ne.mp keeps⟩
  · rename_i state
    rw [state]
    exact Or.inr (Or.inl ⟨_, rfl, rfl, rfl, rfl⟩)
  · rename_i state
    rw [state]
    exact Or.inr (Or.inl ⟨_, rfl, rfl, rfl, rfl⟩)
  · rename_i state
    rw [state]
    exact Or.inr (Or.inl ⟨_, rfl, rfl, rfl, rfl⟩)
  · exact Or.inr (Or.inr (Option.isNone_iff_eq_none.mp keeps))

theorem request_turn {cer : PeerMsg} (running : entry.fsm.running = true) (meets : entry.ServeMeets config param)
    (request : param.event.isRequest = true) (msg : param.msg = some cer) :
    Turn config entry param rest ∧
      ((entry.fsm.serve config param).state.elects = true → (entry.electedAfter param).isSome) := by
  have carried : param.request = some cer := by
    rw [PeerEventParam.request, if_pos request, msg]
  rcases meets.answered request with answers | opens
  · obtain ⟨idle, row, found, sent, next⟩ := answersRequest_row answers
    have after := serve_not_electing config running found next
    constructor
    · apply Turn.answered (serve_answered running found sent (Or.inr (by rw [msg]; rfl))) cer
      · rw [electing_of_not idle, carried]
        exact congrArg (cer :: ·) (electing_of_not after)
      · rw [answered, if_pos request, msg]
    · rw [after]
      nofun
  · obtain ⟨idle, after, elected, silent⟩ := serve_opens running msg (opens cer msg)
    constructor
    · apply Turn.silent silent
      rw [electing_of_not idle, carried]
      have on : (entry.served config param rest).electing = (entry.electedAfter param).toList :=
        electing_of_elects after
      rw [on, elected, msg]
      rfl
    · intro _
      rw [elected, msg]
      rfl

theorem idle_turn (running : entry.fsm.running = true) (meets : entry.ServeMeets config param)
    (other : param.event.isRequest = false) (idle : entry.fsm.state.elects = false) :
    Turn config entry param rest ∧
      ((entry.fsm.serve config param).state.elects = true → (entry.electedAfter param).isSome) := by
  have none : param.request = none := by
    rw [PeerEventParam.request, other]
    rfl
  have waiting (after : (entry.fsm.serve config param).state.elects = false) :
      (entry.served config param rest).electing = entry.electing ++ param.request.toList := by
    rw [electing_of_not idle, none]
    exact electing_of_not after
  cases found : peerStateTable.findStateTableEntry entry.fsm.state param.event with
  | none =>
    have absent := PeerFsm.serve_of_no_row config param running found
    have after : (entry.fsm.serve config param).state.elects = false := by
      rw [absent]
      exact idle
    refine ⟨.silent ?_ (waiting after), by rw [after]; nofun⟩
    rw [absent]
    exact PeerFsm.silent_forgetCurrent _
  | some row =>
    obtain ⟨mem, prev, _⟩ := StateTable.findStateTableEntry_mem found
    have notLate : row.prevState.elects = false := (congrArg PeerState.elects prev).trans idle
    have notPrompt : row.event.any PeerEvent.isRequest ≠ true := by
      intro any
      rw [found_any found any] at other
      cases other
    have next : row.nextState.elects = false := by
      apply Bool.eq_false_iff.mpr
      intro elects
      rcases row_elects row mem elects with late | prompt
      · rw [notLate] at late
        cases late
      · exact notPrompt prompt
    have after := serve_not_electing config running found next
    refine ⟨?_, by rw [after]; nofun⟩
    cases sent : row.action.sent with
    | nothing => exact .silent (serve_silent running found sent) (waiting after)
    | request =>
      have drawn := found_any found (row_draws row mem sent)
      rw [prev] at drawn
      exact .requested (serve_requested running found sent) (meets.fresh drawn) (waiting after)
    | answer =>
      rcases row_answers row mem sent with late | prompt
      · rw [notLate] at late
        cases late
      · exact absurd prompt notPrompt

theorem electing_turn (matched : entry.Matched) (meets : entry.ServeMeets config param)
    (other : param.event.isRequest = false) (elects : entry.fsm.state.elects = true) :
    Turn config entry param rest ∧
      ((entry.fsm.serve config param).state.elects = true → (entry.electedAfter param).isSome) := by
  have none : param.request = none := by
    rw [PeerEventParam.request, other]
    rfl
  have running := matched.running
  have elected := matched.elected elects
  have kept : (entry.electedAfter param).isSome := by
    rw [electedAfter_of_other entry other]
    exact elected
  have lasts (after : (entry.fsm.serve config param).state.elects = true) :
      (entry.served config param rest).electing = entry.electing ++ param.request.toList := by
    rw [electing_of_elects elects, none, Option.toList_none, List.append_nil, ← electedAfter_of_other entry other]
    exact electing_of_elects after
  rcases keepsElected_row (meets.kept elects) with ⟨state, event, distinct⟩ | answers | absent
  · have found : peerStateTable.findStateTableEntry entry.fsm.state param.event =
        some ⟨.waitConnAckElect, some .iRcvConnAck, .waitReturns, .iSendCERElect⟩ := by
      rw [state, event]
      rfl
    have stays : (entry.fsm.serve config param).state = .waitReturns := by
      rw [PeerFsm.serve_of_row config param running found]
      exact PeerFsm.actISendCERElect_stays distinct
    have fresh : draws entry.fsm.state param.event = true := by
      rw [state, event]
      rfl
    refine ⟨.requested (serve_requested running found rfl) (meets.fresh fresh) (lasts ?_), fun _ => kept⟩
    exact congrArg PeerState.elects stays
  · obtain ⟨row, found, sent, late, next⟩ := answers
    have after := serve_not_electing config running found next
    obtain ⟨cer, won⟩ := Option.isSome_iff_exists.mp elected
    refine ⟨.answered (serve_answered running found sent (Or.inl late)) cer ?_ ?_, by rw [after]; nofun⟩
    · rw [electing_of_elects elects, won, none]
      exact congrArg (cer :: ·) (electing_of_not after)
    · rw [answered, if_neg (by rw [other]; nofun), won]
  · have unmoved := PeerFsm.serve_of_no_row config param running absent
    refine ⟨.silent ?_ (lasts ?_), fun _ => kept⟩
    · rw [unmoved]
      exact PeerFsm.silent_forgetCurrent _
    · rw [unmoved]
      exact elects

theorem serve_turn (matched : entry.Matched) (queue : entry.events = param :: rest)
    (meets : entry.ServeMeets config param) :
    Turn config entry param rest ∧
      ((entry.fsm.serve config param).state.elects = true → (entry.electedAfter param).isSome) := by
  cases request : param.event.isRequest with
  | true =>
    have queued : param ∈ entry.events := by
      rw [queue]
      exact List.mem_cons_self
    obtain ⟨cer, msg⟩ := Option.isSome_iff_exists.mp (matched.notified param queued request)
    exact request_turn matched.running meets request msg
  | false =>
    cases elects : entry.fsm.state.elects with
    | true => exact electing_turn matched meets request elects
    | false => exact idle_turn matched.running meets request elects

end Turns

section Runs

variable {config : PeerConfig} {entry : PeerEntry Io}

theorem running_serve (running : entry.fsm.running = true) (param : PeerEventParam Io) :
    (entry.fsm.serve config param).running = true := by
  cases found : peerStateTable.findStateTableEntry entry.fsm.state param.event with
  | none =>
    rw [PeerFsm.serve_of_no_row config param running found]
    exact running
  | some row => exact (serve_settles running found).1

theorem serve_matched (matched : entry.Matched) (meets : entry.Meets config .serve) :
    (entry.take config .serve).Matched := by
  cases queue : entry.events with
  | nil =>
    have idle : entry.take config .serve = entry := by
      rw [take, queue]
    rw [idle]
    exact matched
  | cons param rest =>
    have next : entry.take config .serve = entry.served config param rest := by
      rw [take, queue]
    obtain ⟨turn, elected⟩ := serve_turn matched queue (meets param rest queue)
    rw [next]
    exact turn.matched matched queue (running_serve matched.running param) elected

theorem take_matched {input : EntryInput Io} (matched : entry.Matched) (admitted : input.Admitted)
    (meets : entry.Meets config input) : (entry.take config input).Matched := by
  cases input with
  | incommingConnectionRequest io cer => exact incomming_matched matched io admitted
  | message msg => exact message_matched matched meets
  | error error ioName => exact error_matched matched meets
  | notified event io =>
    have other := isRequest_of_not_carriesMsg admitted.1
    exact matched.unrelated ⟨rfl, rfl, rfl, rfl⟩ (notify_other entry.fsm none io other) rfl rfl
  | stop cause =>
    exact matched.unrelated ⟨rfl, rfl, rfl, rfl⟩ (notify_other entry.fsm none none rfl) rfl rfl
  | serve => exact serve_matched matched meets

theorem take_echoes {input : EntryInput Io} (matched : entry.Matched) (meets : entry.Meets config input) :
    entry.Echoes config input := by
  cases input with
  | message msg => exact message_echoes matched meets
  | serve =>
    intro param rest queue
    exact (serve_turn matched queue (meets param rest queue)).1.sent matched queue
  | _ => trivial

/-- In a run in which every request is answered in its turn, all answers have the ids
of their requests, and the answers accepted are those of outstanding requests. -/
theorem answers_echo (config : PeerConfig) (inputs : List (EntryInput Io))
    (admitted : ∀ input ∈ inputs, input.Admitted)
    (meets : Stepwise (take config) (Meets config) initial inputs) :
    Stepwise (take config) (Echoes config) initial inputs := by
  have echoes : ∀ (entry : PeerEntry Io) (input : EntryInput Io), entry.Matched → input.Admitted →
      entry.Meets config input → entry.Echoes config input :=
    fun _ _ matched _ => take_echoes matched
  exact meets.imp echoes (fun _ _ => take_matched) initial_matched admitted

instance : (input : EntryInput Io) → Decidable input.Admitted
  | .incommingConnectionRequest _ cer => inferInstanceAs (Decidable (cer.request = true))
  | .notified event io => inferInstanceAs (Decidable (event.carriesMsg = false ∧ io.isSome = event.carriesIo))
  | .message _ | .error _ _ | .stop _ | .serve => .isTrue trivial

instance decidableServeMeets (entry : PeerEntry Io) (param : PeerEventParam Io) :
    Decidable (entry.ServeMeets config param) :=
  decidable_of_iff
    ((param.event.isRequest = true → answersRequest entry.fsm.state param.event = true ∨
        param.msg.all (opensElection config entry.fsm.state param.event) = true) ∧
      (entry.fsm.state.elects = true → entry.fsm.keepsElected config param.event = true) ∧
      (draws entry.fsm.state param.event = true →
        config.hopByHopGen entry.fsm.drawn ∉ entry.outstanding.map Prod.fst ∧
          config.endToEndGen entry.fsm.drawn ∉ entry.outstanding.map Prod.snd))
    (by
      rw [Option.all_eq_true]
      exact ⟨fun ⟨answered, kept, fresh⟩ => ⟨answered, kept, fresh⟩, fun meets => ⟨meets.answered, meets.kept, meets.fresh⟩⟩)

instance decidableMeets (entry : PeerEntry Io) : (input : EntryInput Io) → Decidable (entry.Meets config input)
  | .serve =>
    decidable_of_iff (∀ param ∈ entry.events.head?, entry.ServeMeets config param) (by
      constructor
      · intro meets param rest queue
        exact meets param (by rw [queue]; rfl)
      · intro meets param head
        obtain ⟨rest, queue⟩ := List.head?_eq_some_iff.mp head
        exact meets param rest queue)
  | .message msg => inferInstanceAs (Decidable (msg.isBase = true → _))
  | .error error ioName => inferInstanceAs (Decidable (PeerFsm.cleansUp error ioName = true → _))
  | .incommingConnectionRequest _ _ | .notified _ _ | .stop _ => .isTrue trivial

def sampleDWR : PeerMsg := { code := msgCodeWatchdog, request := true, hh := 9, ee := 10 }

/-- The peer opens a connection and watches it. -/
theorem answers_echo_watched : Stepwise (take PeerFsm.sampleConfig) (Echoes PeerFsm.sampleConfig)
    (initial : PeerEntry Nat)
    [.incommingConnectionRequest 7 PeerFsm.sampleCER, .serve, .message sampleDWR, .serve] :=
  answers_echo _ _ (by decide) (by decide +kernel)

def rejectedInputs : List (EntryInput Nat) :=
  [.incommingConnectionRequest 7 PeerFsm.sampleCER, .serve,
    .incommingConnectionRequest 8 { PeerFsm.sampleCER with hh := 11, ee := 12 }, .serve, .message sampleDWR]

/-- The ids of the rejected `CER` stay in the queues, and the next answer has them. -/
theorem rejected_answers_later : (∀ input ∈ rejectedInputs ++ [.serve], input.Admitted) ∧
    ¬Stepwise (take PeerFsm.sampleConfig) (Echoes PeerFsm.sampleConfig) initial (rejectedInputs ++ [.serve]) := by
  refine ⟨by decide, fun echo => ?_⟩
  have echoes := (stepwise_append.mp echo).2.1
  have answered := echoes ⟨.rRcvDWR, some sampleDWR, none⟩ [] rfl
  have sent : ∃ msg ∈ transmitted (PeerFsm.serve PeerFsm.sampleConfig
      (rejectedInputs.foldl (take PeerFsm.sampleConfig) initial).fsm ⟨.rRcvDWR, some sampleDWR, none⟩).effects,
      msg.request = false ∧ msg.hh ≠ sampleDWR.hh := by
    decide +kernel
  obtain ⟨msg, mem, answer, differs⟩ := sent
  obtain ⟨request, own, hh, _⟩ := answered msg mem answer
  cases own
  exact differs hh

end Runs

end PeerEntry

end OpenDiameter.Peer
