import OpenDiameter.Peer.Election
import OpenDiameter.Peer.Ownership

/-! Two peers that connect to each other at the same time.

Stages say how far a peer has got, tokens what it is told. The peer entries
follow a protocol of stages and tokens, and that protocol has few enough
networks to look at all of them.
-/

set_option autoImplicit false

namespace OpenDiameter.Peer

open Foundation OpenDiameter.Framework

namespace Simultaneous

section Model

/-- How far a peer has got; `accepted` and `won` are both `DIAMETER_PEER_ST_R_OPEN`. -/
inductive Stage where
  | closed | waitConnAck | waitConnAckElect | waitICEA | waitReturns | iOpen | accepted | won | lost
  deriving DecidableEq, Repr

inductive Token where
  | start | connAck | request | answer | winElection | mineGone | theirsGone
  deriving DecidableEq, Repr

/-- The two messages of an exchange of capabilities. -/
inductive Exchange where
  | cer | cea
  deriving DecidableEq, Repr

/-- A stage, whether the peer's request has come in, and whether the own one is answered. -/
structure Brain where
  stage : Stage
  heard : Bool
  answered : Bool
  deriving DecidableEq, Repr

def Brain.enter (brain : Brain) (stage : Stage) : Brain := { brain with stage }

/-- Not off the paths that simultaneous connects take. -/
def Brain.Fine (brain : Brain) : Prop := brain.stage ≠ .lost

instance (brain : Brain) : Decidable brain.Fine := inferInstanceAs (Decidable (_ ≠ _))

abbrev Acts := List (Act Exchange Token)

def elected (wins : Bool) : Acts := if wins then [.notify .winElection] else []

/-- How a stage answers a token; whatever two peers never run into is `lost`. -/
def react (wins heard : Bool) : Stage → Token → Stage × Acts
  | .closed, .start => (.waitConnAck, [])
  | .closed, .request => if heard then (.accepted, [.transmit .theirs .cea]) else (.lost, [])
  | .waitConnAck, .connAck => (.waitICEA, [.transmit .mine .cer])
  | .waitConnAck, .request => (.waitConnAckElect, [])
  | .waitConnAckElect, .connAck => (.waitReturns, .transmit .mine .cer :: elected wins)
  | .waitICEA, .answer => (.iOpen, [])
  | .waitICEA, .request => (.waitReturns, elected wins)
  | .waitICEA, .theirsGone => (.waitICEA, [])
  | .waitReturns, .winElection =>
    if heard then (.won, [.schedule .mine, .transmit .theirs .cea]) else (.lost, [])
  | .waitReturns, .answer => (.iOpen, [.schedule .theirs])
  | .waitReturns, .theirsGone => (.waitICEA, [.schedule .theirs])
  | .iOpen, .request => (.iOpen, [.destroy .theirs])
  | .iOpen, .theirsGone => (.iOpen, [])
  | .accepted, .start => (.accepted, [])
  | .accepted, .connAck => (.accepted, [.destroy .mine])
  | .won, .mineGone => (.won, [])
  | _, _ => (.lost, [])

def Stage.requested : Stage → Bool
  | .waitICEA | .waitReturns | .iOpen | .won => true
  | _ => false

def Stage.replied : Stage → Bool
  | .accepted | .won => true
  | _ => false

def Brain.awaits (brain : Brain) : Bool :=
  (brain.stage == .waitICEA || brain.stage == .waitReturns) && !brain.answered

def modelProtocol (wins : Bool) : Protocol Brain Exchange Token where
  start brain := (brain, [.notify .start])
  connected brain := (brain, [.notify .connAck])
  incoming brain
    | .cer =>
      if brain.heard || brain.stage.replied then some (brain.enter .lost, [])
      else some ({ brain with heard := true }, [.notify .request])
    | .cea => none
  message conn brain exchange :=
    if conn = .mine ∧ exchange = .cea ∧ brain.awaits then ({ brain with answered := true }, [.notify .answer])
    else (brain.enter .lost, [])
  lost conn brain := (brain, [.notify (match conn with | .mine => .mineGone | .theirs => .theirsGone)])
  serve brain token :=
    (brain.enter (react wins brain.heard brain.stage token).1, (react wins brain.heard brain.stage token).2)

def model (winner side : Side) : Protocol Brain Exchange Token := modelProtocol (side == winner)

abbrev ModelNetwork := Network Brain Exchange Token

def beginModel : ModelNetwork := .begin ⟨.closed, false, false⟩ ⟨.closed, false, false⟩

end Model

section Exploring

def partyKey (p : Party Brain Exchange Token) : Nat :=
  p.brain.stage.ctorIdx + 9 * (p.mine.ctorIdx + 6 * (p.theirs.ctorIdx + 6 * p.queue.length))

def networkKey (net : ModelNetwork) : Nat := partyKey net.left + 4096 * partyKey net.right

def EndGone (state : EndState) : Prop := state = .scheduled ∨ state = .released ∨ state = .destroyed

instance (state : EndState) : Decidable (EndGone state) := inferInstanceAs (Decidable (_ ∨ _ ∨ _))

def ModelAgreed (initiator responder : Party Brain Exchange Token) : Prop :=
  initiator.brain.stage = .iOpen ∧ (responder.brain.stage = .accepted ∨ responder.brain.stage = .won) ∧
    (initiator.mine = .live ∧ responder.theirs = .live) ∧ EndGone initiator.theirs ∧ EndGone responder.mine

instance (initiator responder : Party Brain Exchange Token) :
    Decidable (ModelAgreed initiator responder) :=
  inferInstanceAs (Decidable (_ ∧ _))

def exploration (winner : Side) : Exploration ModelNetwork :=
  explore networkKey (Network.successors (model winner)) 500 ⟨[beginModel], []⟩

def checkNetwork (winner : Side) (net : ModelNetwork) : Bool :=
  net.left.brain.Fine && net.right.brain.Fine &&
    (!decide (net.Quiescent (model winner)) || decide (ModelAgreed net.left net.right) ||
      decide (ModelAgreed net.right net.left))

def checkExploration (winner : Side) (stage : Exploration ModelNetwork) : Bool :=
  match stage with
  | ⟨todo, seen⟩ => todo.isEmpty && seen.all (checkNetwork winner)

set_option maxRecDepth 20000 in
theorem checked : ∀ winner, checkExploration winner (exploration winner) = true := by
  intro winner
  cases winner <;> decide +kernel

end Exploring

section Following

variable {config peer : PeerConfig} {wins : Bool}

def requestOf (config : PeerConfig) : PeerMsg :=
  assembleCE config true (config.hopByHopGen 0) (config.endToEndGen 0)

def answerOf (config peer : PeerConfig) : PeerMsg :=
  { assembleCE config false (peer.hopByHopGen 0) (peer.endToEndGen 0) with resultCode := some aaaSuccess }

def vocabularyOf (config peer : PeerConfig) :
    Vocabulary PeerMsg (PeerEventParam Conn) Exchange Token where
  sends
    | .cer => requestOf config
    | .cea => answerOf config peer
  event
    | .start => ⟨.start, none, none⟩
    | .connAck => ⟨.iRcvConnAck, none, some .mine⟩
    | .request => ⟨.rConnCER, some (requestOf peer), some .theirs⟩
    | .answer => ⟨.iRcvCEA, some (answerOf peer config), none⟩
    | .winElection => ⟨.winElection, none, none⟩
    | .mineGone => ⟨.iPeerDisc, none, none⟩
    | .theirsGone => ⟨.rPeerDisc, none, none⟩

structure Accepts (config peer : PeerConfig) (wins : Bool) : Prop where
  valid : validates config (requestOf peer) = true
  elects : electHosts config.identity peer.identity = if wins then .localWins else .peerWins

def Stage.state : Stage → PeerState
  | .closed => .closed
  | .waitConnAck => .waitConnAck
  | .waitConnAckElect => .waitConnAckElect
  | .waitICEA => .waitICEA
  | .waitReturns => .waitReturns
  | .iOpen => .iOpen
  | .accepted | .won => .rOpen
  | .lost => .closing

def Stage.initiator : Stage → Option Conn
  | .waitICEA | .waitReturns | .iOpen => some .mine
  | _ => none

def Stage.responder : Stage → Option Conn
  | .waitConnAckElect | .waitReturns | .accepted | .won => some .theirs
  | _ => none

def Brain.msgIds (config peer : PeerConfig) (brain : Brain) : MsgIds where
  lastTxHopId := if brain.stage.requested && !brain.answered then [config.hopByHopGen 0] else []
  lastTxEndId := if brain.stage.requested && !brain.answered then [config.endToEndGen 0] else []
  lastRxHopId := if brain.heard && !brain.stage.replied then [peer.hopByHopGen 0] else []
  lastRxEndId := if brain.heard && !brain.stage.replied then [peer.endToEndGen 0] else []

/-- A machine that a brain of the model stands for. -/
structure Sees (config peer : PeerConfig) (fsm : PeerFsm Conn) (brain : Brain) : Prop where
  running : fsm.running = true
  state : fsm.state = brain.stage.state
  initiator : fsm.ioInitiator = brain.stage.initiator
  responder : fsm.ioResponder = brain.stage.responder
  msgIds : fsm.msgIds = brain.msgIds config peer
  drawn : brain.stage.requested = false → fsm.drawn = 0
  unanswered : brain.stage.requested = false → brain.answered = false
  host : brain.stage = .waitConnAckElect → fsm.capabilities.host = peer.identity

theorem validatePeer_accepted {cap : PeerCapabilities} (valid : (validatePeer config cap).1 = true) :
    validatePeer config cap = (true, aaaSuccess, "Capabilities negotiation completed successfully") := by
  unfold validatePeer at valid ⊢
  by_cases common : (!commonApplication config cap) = true
  · rw [if_pos common] at valid
    cases valid
  · rw [if_neg common] at valid ⊢
    by_cases secure : (if config.tls then 1 else 0) ≠ cap.inbandSecurityId
    · rw [if_pos secure] at valid
      cases valid
    · rw [if_neg secure]

theorem interpreted_success : interpretedResultCode aaaSuccess = .success := by decide

section Actions

variable {Io : Type} {fsm : PeerFsm Io} {msg : PeerMsg}

theorem sendCEA_success (fsm : PeerFsm Io) (message : String) :
    fsm.sendCEA config aaaSuccess message =
      fsm.answerIds.1.transportProtocolInUse.emit (.transmit
        { assembleCE config false fsm.answerIds.2.1 fsm.answerIds.2.2 with resultCode := some aaaSuccess }
        fsm.selectedIo) := by
  simp [PeerFsm.sendCEA, interpreted_success, PeerFsm.selectedIo, PeerFsm.transportProtocolInUse,
    PeerFsm.emit, PeerFsm.answerIds, assembleCE]

/-- The machine that has taken the message out of the current event. -/
def readMsg (fsm : PeerFsm Io) : PeerFsm Io := { fsm with current := { fsm.current with msg := none } }

theorem withMsg_some (here : fsm.current.msg = some msg) (handle : PeerMsg → PeerFsm Io → PeerFsm Io) :
    fsm.withMsg handle = handle msg (readMsg fsm) := by
  unfold PeerFsm.withMsg
  rw [here]
  rfl

theorem actRAcceptSendCEA_valid (here : fsm.current.msg = some msg) (valid : validates config msg) :
    fsm.actRAcceptSendCEA config =
      ((((readMsg fsm.takeResponder).disassemble msg).sendCEA config aaaSuccess
        "Capabilities negotiation completed successfully").watch.stopReConnect).emit .connected := by
  have taken : fsm.takeResponder.current.msg = some msg := here
  unfold PeerFsm.actRAcceptSendCEA
  rw [withMsg_some taken]
  have accepted := @validatePeer_accepted config ((readMsg fsm.takeResponder).disassemble msg).capabilities valid
  simp [accepted]

theorem actRAccept_valid (here : fsm.current.msg = some msg) (valid : validates config msg) :
    fsm.actRAccept config = (readMsg fsm.takeResponder).disassemble msg := by
  have taken : fsm.takeResponder.current.msg = some msg := here
  unfold PeerFsm.actRAccept
  rw [withMsg_some taken]
  have accepted := @validatePeer_accepted config ((readMsg fsm.takeResponder).disassemble msg).capabilities valid
  simp [accepted]

theorem actRAcceptElect_valid (here : fsm.current.msg = some msg) (valid : validates config msg) :
    fsm.actRAcceptElect config = ((readMsg fsm.takeResponder).disassemble msg).elect config := by
  have taken : fsm.takeResponder.current.msg = some msg := here
  unfold PeerFsm.actRAcceptElect
  rw [withMsg_some taken]
  have accepted := @validatePeer_accepted config ((readMsg fsm.takeResponder).disassemble msg).capabilities valid
  simp [accepted]

theorem elect_decided (host : electHosts config.identity fsm.capabilities.host =
      if wins then .localWins else .peerWins) :
    fsm.elect config = if wins then fsm.emit (.notify .winElection) else fsm := by
  unfold PeerFsm.elect
  rw [host]
  cases wins <;> rfl

theorem actProcessCEA_success (here : fsm.current.msg = some msg) (success : msg.resultClass = .success) :
    fsm.actProcessCEA =
      (((readMsg fsm).disassemble msg).stopReConnect.watch).emit .connected := by
  unfold PeerFsm.actProcessCEA
  rw [withMsg_some here]
  exact if_pos success

theorem actRDisconnectIOpen_success (here : fsm.current.msg = some msg)
    (success : msg.resultClass = .success) :
    fsm.actRDisconnectIOpen =
      (((readMsg fsm).disassemble msg).watch.dropResponder).emit .connected := by
  unfold PeerFsm.actRDisconnectIOpen
  rw [withMsg_some here]
  exact if_pos success

theorem answerOf_success : (answerOf config peer).resultClass = .success := by
  have present : aaaSuccess ≠ 0 := by decide
  exact (if_neg present).trans interpreted_success

end Actions

theorem serve_follows (accepts : Accepts config peer wins) (fsm : PeerFsm Conn) (brain : Brain)
    (token : Token) (seen : Sees config peer fsm brain) :
    Renders (vocabularyOf config peer) (Sees config peer) Brain.Fine
      ((PeerFsm.peerProtocol config peer.identity).serve fsm ((vocabularyOf config peer).event token))
      ((modelProtocol wins).serve brain token) := by
  intro fine
  obtain ⟨state, running, ioI, ioR, caps, ids, drawn, dc, ra, cur, eff⟩ := fsm
  obtain ⟨rfl, rfl, rfl, rfl, rfl, undrawn, unanswered, host⟩ := seen
  obtain ⟨stage, heard, answered⟩ := brain
  unfold PeerFsm.peerProtocol
  dsimp only
  -- Most pairs are fatal, or have no row; the others are the rows of the abstract table.
  cases stage <;> cases token <;>
    first
    | exact absurd rfl fine
    | rw [PeerFsm.serve_of_found rfl rfl]
    | rw [PeerFsm.serve_of_absent rfl rfl]
  case closed.start => exact ⟨⟨rfl, rfl, rfl, rfl, rfl, undrawn, unanswered, Stage.noConfusion⟩, rfl⟩
  case closed.request =>
    cases heard with
    | false => exact absurd rfl fine
    | true =>
      simp only [addStateTableEntry, PeerFsm.perform]
      rw [actRAcceptSendCEA_valid (by rfl) accepts.valid, sendCEA_success]
      exact ⟨⟨rfl, rfl, rfl, rfl, rfl, undrawn, unanswered, Stage.noConfusion⟩, rfl⟩
  case waitConnAck.connAck =>
    cases undrawn rfl
    cases unanswered rfl
    exact ⟨⟨rfl, rfl, rfl, rfl, rfl, Bool.noConfusion, Bool.noConfusion, Stage.noConfusion⟩, rfl⟩
  case waitConnAck.request =>
    simp only [addStateTableEntry, PeerFsm.perform]
    rw [actRAccept_valid (by rfl) accepts.valid]
    exact ⟨⟨rfl, rfl, rfl, rfl, rfl, undrawn, unanswered, fun _ => rfl⟩, rfl⟩
  -- Both sides compare the same two identities.
  case waitConnAckElect.connAck =>
    cases undrawn rfl
    cases unanswered rfl
    simp only [addStateTableEntry, PeerFsm.perform, PeerFsm.actISendCERElect]
    rw [elect_decided (by exact (congrArg _ (host rfl)).trans accepts.elects)]
    cases wins <;> exact ⟨⟨rfl, rfl, rfl, rfl, rfl, Bool.noConfusion, Bool.noConfusion, Stage.noConfusion⟩, rfl⟩
  case waitICEA.request =>
    simp only [addStateTableEntry, PeerFsm.perform]
    rw [actRAcceptElect_valid (by rfl) accepts.valid, elect_decided accepts.elects]
    cases wins <;> exact ⟨⟨rfl, rfl, rfl, rfl, rfl, Bool.noConfusion, Bool.noConfusion, Stage.noConfusion⟩, rfl⟩
  case waitICEA.answer =>
    simp only [addStateTableEntry, PeerFsm.perform]
    rw [actProcessCEA_success (by rfl) answerOf_success]
    exact ⟨⟨rfl, rfl, rfl, rfl, rfl, Bool.noConfusion, Bool.noConfusion, Stage.noConfusion⟩, rfl⟩
  case waitICEA.theirsGone => exact ⟨⟨rfl, rfl, rfl, rfl, rfl, Bool.noConfusion, Bool.noConfusion, Stage.noConfusion⟩, rfl⟩
  case waitReturns.answer =>
    simp only [addStateTableEntry, PeerFsm.perform]
    rw [actRDisconnectIOpen_success (by rfl) answerOf_success]
    exact ⟨⟨rfl, rfl, rfl, rfl, rfl, Bool.noConfusion, Bool.noConfusion, Stage.noConfusion⟩, rfl⟩
  case waitReturns.winElection =>
    cases heard with
    | false => exact absurd rfl fine
    | true =>
      simp only [addStateTableEntry, PeerFsm.perform, PeerFsm.actIDisconnectSendCEA]
      rw [sendCEA_success]
      exact ⟨⟨rfl, rfl, rfl, rfl, rfl, Bool.noConfusion, Bool.noConfusion, Stage.noConfusion⟩, rfl⟩
  case waitReturns.theirsGone => exact ⟨⟨rfl, rfl, rfl, rfl, rfl, Bool.noConfusion, Bool.noConfusion, Stage.noConfusion⟩, rfl⟩
  case iOpen.request => exact ⟨⟨rfl, rfl, rfl, rfl, rfl, Bool.noConfusion, Bool.noConfusion, Stage.noConfusion⟩, rfl⟩
  case iOpen.theirsGone => exact ⟨⟨rfl, rfl, rfl, rfl, rfl, Bool.noConfusion, Bool.noConfusion, Stage.noConfusion⟩, rfl⟩
  case accepted.start => exact ⟨⟨rfl, rfl, rfl, rfl, rfl, undrawn, unanswered, Stage.noConfusion⟩, rfl⟩
  case accepted.connAck => exact ⟨⟨rfl, rfl, rfl, rfl, rfl, undrawn, unanswered, Stage.noConfusion⟩, rfl⟩
  case won.mineGone => exact ⟨⟨rfl, rfl, rfl, rfl, rfl, Bool.noConfusion, Bool.noConfusion, Stage.noConfusion⟩, rfl⟩

theorem request_admitted (seen : PeerFsm Conn) :
    seen.pendingResponder peer.identity (requestOf peer) =
      some (seen.incommingConnectionRequest .theirs (requestOf peer)) := by
  apply if_pos
  simp [requestOf, assembleCE, PeerMsg.isCapabilities, sameName]

theorem answer_refused (seen : PeerFsm Conn) : seen.pendingResponder peer.identity (answerOf peer config) = none := by
  apply if_neg
  simp [answerOf, assembleCE]

theorem message_expected {fsm : PeerFsm Conn} {msg : PeerMsg}
    (state : fsm.state = .waitICEA ∨ fsm.state = .waitReturns) (code : msg.code = msgCodeCapabilitiesExchg)
    (answer : msg.request = false) (known : (fsm.msgIds.rxMessage msg).2 = true) :
    fsm.message msg = ((fsm.msgIdRxMessage msg).1, fsm.notify .iRcvCEA (some msg) none) := by
  have capabilities : msg.isCapabilities = true := by simp [PeerMsg.isCapabilities, code]
  have found : (commandEvents.find? fun events => events.cmdCode == msg.code) =
      some ⟨msgCodeCapabilitiesExchg, .iRcvCER, .rRcvCER, .iRcvCEA, .rRcvCEA⟩ := by
    rw [code]
    rfl
  unfold PeerFsm.message
  rw [if_neg (by simp [capabilities, answer]), found]
  have base : (fsm.msgIdRxMessage msg).1.baseMessage
      ⟨msgCodeCapabilitiesExchg, .iRcvCER, .rRcvCER, .iRcvCEA, .rRcvCEA⟩ msg =
        fsm.notify .iRcvCEA (some msg) none := by
    rcases state with state | state <;>
      simp [PeerFsm.baseMessage, PeerFsm.msgIdRxMessage, state, capabilities, answer, PeerFsm.notify]
  have expected : (fsm.msgIdRxMessage msg).2 = true := known
  dsimp only
  rw [if_neg (by rw [expected]; nofun), base]

theorem message_follows {fsm : PeerFsm Conn} {brain : Brain} (seen : Sees config peer fsm brain)
    (awaits : brain.awaits = true) :
    Sees config peer (fsm.message (answerOf peer config)).1 { brain with answered := true } ∧
      (fsm.message (answerOf peer config)).2 = [(vocabularyOf config peer).event .answer] := by
  obtain ⟨waiting, unanswered⟩ := Bool.and_eq_true_iff.mp awaits
  have unanswered : brain.answered = false := by simpa using unanswered
  have waiting : brain.stage = .waitICEA ∨ brain.stage = .waitReturns := by simpa using waiting
  have requested : brain.stage.requested = true := by
    rcases waiting with stage | stage <;> rw [stage] <;> rfl
  have state : fsm.state = .waitICEA ∨ fsm.state = .waitReturns := by
    rw [seen.state]
    rcases waiting with stage | stage <;> simp [stage, Stage.state]
  have received : fsm.msgIds.rxMessage (answerOf peer config) =
      (({ brain with answered := true } : Brain).msgIds config peer, true) := by
    rw [seen.msgIds]
    simp [MsgIds.rxMessage, Brain.msgIds, requested, unanswered, answerOf, assembleCE]
  have told := message_expected state (by rfl) (by rfl) (congrArg Prod.snd received)
  rw [told]
  constructor
  · exact ⟨seen.running, seen.state, seen.initiator, seen.responder, congrArg Prod.fst received, seen.drawn,
      fun idle => absurd (requested.symm.trans idle) nofun, seen.host⟩
  · simp [PeerFsm.notify, seen.running]
    rfl

theorem incoming_follows {fsm : PeerFsm Conn} {brain : Brain} (seen : Sees config peer fsm brain)
    (fresh : (brain.heard || brain.stage.replied) = false) :
    Sees config peer (fsm.incommingConnectionRequest .theirs (requestOf peer)).1 { brain with heard := true } ∧
      (fsm.incommingConnectionRequest .theirs (requestOf peer)).2 =
        [(vocabularyOf config peer).event .request] := by
  obtain ⟨unheard, unreplied⟩ := Bool.or_eq_false_iff.mp fresh
  have received : (fsm.msgIds.rxMessage (requestOf peer)).1 =
      ({ brain with heard := true } : Brain).msgIds config peer := by
    rw [seen.msgIds]
    simp [MsgIds.rxMessage, Brain.msgIds, unheard, unreplied, requestOf, assembleCE]
  constructor
  · exact ⟨seen.running, seen.state, seen.initiator, seen.responder, received, seen.drawn, seen.unanswered,
      seen.host⟩
  · simp [PeerFsm.incommingConnectionRequest, PeerFsm.notify, seen.running]
    rfl

theorem peers_follow (accepts : Accepts config peer wins) :
    (PeerFsm.peerProtocol config peer.identity).Follows (modelProtocol wins) (vocabularyOf config peer)
      (vocabularyOf peer config) (Sees config peer) Brain.Fine where
  start fsm brain seen := by
    intro _
    refine ⟨seen, ?_⟩
    simp [PeerFsm.peerProtocol, PeerFsm.start, PeerFsm.notify, seen.running]
    rfl
  connected fsm brain seen := by
    intro _
    refine ⟨seen, ?_⟩
    simp [PeerFsm.peerProtocol, PeerFsm.connectionRequestAccepted, PeerFsm.notify, seen.running]
    rfl
  admits fsm brain exchange answer' seen admitted fine := by
    cases exchange with
    | cea => cases admitted
    | cer =>
      simp only [modelProtocol] at admitted
      split at admitted
      · cases admitted
        exact absurd rfl fine
      · rename_i fresh
        cases admitted
        obtain ⟨seen', told⟩ := incoming_follows seen (Bool.not_eq_true _ ▸ fresh)
        refine ⟨_, congrArg (Option.map _) (request_admitted fsm), fun _ => ⟨seen', ?_⟩⟩
        exact congrArg (List.map Act.notify) told
  refuses fsm brain exchange seen refused := by
    cases exchange with
    | cea =>
      simp [PeerFsm.peerProtocol, vocabularyOf, answer_refused]
    | cer =>
      simp only [modelProtocol] at refused
      split at refused <;> cases refused
  message fsm brain conn exchange seen := by
    intro fine
    simp only [modelProtocol] at fine ⊢
    split at fine
    · rename_i expected
      rw [if_pos expected]
      obtain ⟨-, rfl, awaits⟩ := expected
      obtain ⟨seen', told⟩ := message_follows seen awaits
      refine ⟨seen', ?_⟩
      exact congrArg (List.map _) told
    · exact absurd rfl fine
  lost fsm brain conn seen := by
    intro _
    cases conn <;> simp [PeerFsm.peerProtocol, PeerFsm.error, PeerFsm.connName, PeerFsm.notify, seen.running] <;>
      exact ⟨seen, rfl⟩
  serve fsm brain token seen := serve_follows accepts fsm brain token seen

end Following

section Agreement

theorem explored (winner : Side) :
    beginModel ∈ (exploration winner).seen ∧
      (∀ net ∈ (exploration winner).seen, ∀ next ∈ net.successors (model winner),
        next ∈ (exploration winner).seen) ∧
      ∀ net ∈ (exploration winner).seen, checkNetwork winner net = true := by
  have complete := checked winner
  simp only [checkExploration, Bool.and_eq_true, List.isEmpty_iff, List.all_eq_true] at complete
  obtain ⟨located, closed⟩ := explore_closed complete.1
  exact ⟨located, closed, complete.2⟩

variable {config : Side → PeerConfig}

/-- Open on the two ends of the connection that the first party made; the other
connection is in use on neither side. -/
structure Opened (initiator responder : Party (PeerFsm Conn) PeerMsg (PeerEventParam Conn)) : Prop where
  iOpen : initiator.brain.state = .iOpen ∧ initiator.brain.ioInitiator = some .mine
  rOpen : responder.brain.state = .rOpen ∧ responder.brain.ioResponder = some .theirs
  live : initiator.mine = .live ∧ responder.theirs = .live
  dropped : initiator.brain.ioResponder = none ∧ responder.brain.ioInitiator = none
  gone : EndGone initiator.theirs ∧ EndGone responder.mine

def Agreed (net : PeerFsm.PeerNetwork) : Prop :=
  ∃ side, Opened (net.party side) (net.party side.other)

theorem opened_of_model {initiator responder : Party (PeerFsm Conn) PeerMsg (PeerEventParam Conn)}
    {initiator' responder' : Party Brain Exchange Token} {configs : PeerConfig × PeerConfig}
    (seenInitiator : Sees configs.1 configs.2 initiator.brain initiator'.brain)
    (seenResponder : Sees configs.2 configs.1 responder.brain responder'.brain)
    (sameInitiator : initiator.mine = initiator'.mine ∧ initiator.theirs = initiator'.theirs)
    (sameResponder : responder.mine = responder'.mine ∧ responder.theirs = responder'.theirs)
    (agreed : ModelAgreed initiator' responder') : Opened initiator responder := by
  obtain ⟨opened, answered, live, gone⟩ := agreed
  have replied : responder'.brain.stage.state = .rOpen ∧ responder'.brain.stage.responder = some .theirs ∧
      responder'.brain.stage.initiator = none := by
    rcases answered with stage | stage <;> rw [stage] <;> exact ⟨rfl, rfl, rfl⟩
  constructor
  · rw [seenInitiator.state, seenInitiator.initiator, opened]
    exact ⟨rfl, rfl⟩
  · rw [seenResponder.state, seenResponder.responder]
    exact ⟨replied.1, replied.2.1⟩
  · rw [sameInitiator.1, sameResponder.2]
    exact live
  · rw [seenInitiator.responder, seenResponder.initiator, opened]
    exact ⟨rfl, replied.2.2⟩
  · rw [sameInitiator.2, sameResponder.1]
    exact gone

theorem agreed_of_model {net : PeerFsm.PeerNetwork} {net' : ModelNetwork}
    (stands : net.Stands (fun side => vocabularyOf (config side) (config side.other))
      (fun side => Sees (config side) (config side.other)) net')
    (agreed : ModelAgreed net'.left net'.right ∨ ModelAgreed net'.right net'.left) : Agreed net := by
  obtain ⟨brains, seen, rfl⟩ := stands
  cases agreed with
  | inl left =>
    refine ⟨.left, ?_⟩
    exact @opened_of_model _ _ net'.left net'.right (config .left, config .right) (seen .left) (seen .right)
      ⟨rfl, rfl⟩ ⟨rfl, rfl⟩ left
  | inr right =>
    refine ⟨.right, ?_⟩
    exact @opened_of_model _ _ net'.right net'.left (config .right, config .left) (seen .right) (seen .left)
      ⟨rfl, rfl⟩ ⟨rfl, rfl⟩ right

theorem agreed_of_winner {winner : Side}
    (accepts : ∀ side, Accepts (config side) (config side.other) (side == winner))
    {moves : List (Side × Move)} {net : PeerFsm.PeerNetwork}
    (run : PeerFsm.beginPeers.run (PeerFsm.peers config) moves = some net)
    (quiet : net.Quiescent (PeerFsm.peers config)) : Agreed net := by
  obtain ⟨located, closed, found⟩ := explored winner
  have follows : ∀ side, (PeerFsm.peers config side).Follows (model winner side)
      (vocabularyOf (config side) (config side.other))
      (vocabularyOf (config side.other) (config side.other.other))
      (Sees (config side) (config side.other)) Brain.Fine := by
    intro side
    cases side <;> exact peers_follow (accepts _)
  have good : ∀ net' ∈ (exploration winner).seen, ∀ side, (net'.party side).brain.Fine := by
    intro net' listed side
    have fine := found net' listed
    simp only [checkNetwork, Bool.and_eq_true, decide_eq_true_eq] at fine
    cases side with
    | left => exact fine.1.1
    | right => exact fine.1.2
  have begun : PeerFsm.beginPeers.Stands (fun side => vocabularyOf (config side) (config side.other))
      (fun side => Sees (config side) (config side.other)) beginModel := by
    refine ⟨fun _ => PeerFsm.initial, ?_, rfl⟩
    intro side
    cases side <;> exact ⟨rfl, rfl, rfl, rfl, rfl, fun _ => rfl, fun _ => rfl, nofun⟩
  obtain ⟨net', listed, stands⟩ := begun.run follows closed good located run
  have quiet' := stands.quiescent follows closed good listed quiet
  apply agreed_of_model stands
  have settled := found net' listed
  simp only [checkNetwork, Bool.and_eq_true, Bool.or_eq_true, Bool.not_eq_true', decide_eq_false_iff_not,
    decide_eq_true_eq] at settled
  rcases settled.2 with (busy | left) | right
  · exact absurd quiet' busy
  · exact Or.inl left
  · exact Or.inr right

/-- Peers with different identities that accept each other: however their moves
interleave, when nothing is left to happen they are open on one connection and
have given the other one up on both sides. -/
theorem peers_agree (accepted : ∀ side, Parser.spirit.diamident (config side).identity = true)
    (distinct : (config .left).identity ≠ (config .right).identity)
    (valid : ∀ side, validates (config side) (requestOf (config side.other)) = true)
    {moves : List (Side × Move)} {net : PeerFsm.PeerNetwork}
    (run : PeerFsm.beginPeers.run (PeerFsm.peers config) moves = some net)
    (quiet : net.Quiescent (PeerFsm.peers config)) : Agreed net := by
  have clean (side : Side) := pad_not_mem (accepted side)
  rcases electHosts_clean (clean .left) (clean .right) distinct with ⟨left, right⟩ | ⟨left, right⟩
  · refine @agreed_of_winner config .left ?_ moves net run quiet
    intro side
    cases side with
    | left => exact ⟨valid .left, left⟩
    | right => exact ⟨valid .right, right⟩
  · refine @agreed_of_winner config .right ?_ moves net run quiet
    intro side
    cases side with
    | left => exact ⟨valid .left, left⟩
    | right => exact ⟨valid .right, right⟩

def sampleConfigs : Side → PeerConfig
  | .left => PeerFsm.sampleConfig
  | .right => { PeerFsm.sampleConfig with identity := [98] }

/-- Both peers connect and send their requests before either is answered. -/
def electionRun : List (Side × Move) :=
  [(.left, .start), (.right, .start), (.left, .connect), (.right, .connect), (.left, .serve),
    (.right, .serve), (.left, .serve), (.right, .serve), (.left, .deliver .theirs),
    (.right, .deliver .theirs), (.left, .serve), (.right, .serve), (.right, .serve),
    (.left, .deliver .mine), (.left, .serve)]

theorem peers_agree_election : ∃ net,
    PeerFsm.beginPeers.run (PeerFsm.peers sampleConfigs) electionRun = some net ∧ Agreed net := by
  have ends : (PeerFsm.beginPeers.run (PeerFsm.peers sampleConfigs) electionRun).any
      (fun net => decide (net.Quiescent (PeerFsm.peers sampleConfigs))) = true := by decide +kernel
  obtain ⟨net, run, quiet⟩ := (Option.any_eq_true _ _).mp ends
  refine ⟨net, run, peers_agree ?_ ?_ ?_ run (of_decide_eq_true quiet)⟩
  · intro side
    cases side <;> decide
  · decide
  · intro side
    cases side <;> decide

def lateStart : List (Side × Move) :=
  [(.left, .start), (.left, .connect), (.left, .serve), (.left, .serve), (.right, .deliver .theirs),
    (.right, .serve), (.left, .deliver .mine), (.left, .serve), (.right, .start), (.right, .serve),
    (.right, .connect), (.right, .serve), (.left, .deliver .theirs)]

def Scheduled (state : EndState) : Prop := state = .scheduled ∨ state = .released

/-- A connection that opens on a machine that is open already is destroyed with
its event, without being scheduled for deletion. -/
theorem given_up_not_scheduled :
    ¬∀ (config : Side → PeerConfig), (∀ side, Parser.spirit.diamident (config side).identity = true) →
      (config .left).identity ≠ (config .right).identity →
      (∀ side, validates (config side) (requestOf (config side.other)) = true) →
      ∀ (moves : List (Side × Move)) (net : PeerFsm.PeerNetwork),
        PeerFsm.beginPeers.run (PeerFsm.peers config) moves = some net →
        net.Quiescent (PeerFsm.peers config) →
        ∃ side, Opened (net.party side) (net.party side.other) ∧
          Scheduled (net.party side).theirs ∧ Scheduled (net.party side.other).mine := by
  intro claim
  have ends : (PeerFsm.beginPeers.run (PeerFsm.peers sampleConfigs) lateStart).any
      (fun net => decide (net.Quiescent (PeerFsm.peers sampleConfigs) ∧ net.right.mine = .destroyed)) = true := by
    decide +kernel
  obtain ⟨net, run, settled⟩ := (Option.any_eq_true _ _).mp ends
  obtain ⟨quiet, destroyed⟩ := of_decide_eq_true settled
  obtain ⟨side, opened, -, scheduled⟩ := claim sampleConfigs (by intro side; cases side <;> decide) (by decide)
    (by intro side; cases side <;> decide) lateStart net run quiet
  cases side with
  | left =>
    have dropped : Scheduled net.right.mine := scheduled
    rw [destroyed] at dropped
    exact dropped.elim nofun nofun
  | right =>
    have live : net.right.mine = .live := opened.live.1
    rw [destroyed] at live
    cases live

end Agreement

end Simultaneous

end OpenDiameter.Peer
