import OpenDiameter.Peer.Timers

/-! Whose capabilities an open peer has.

Capabilities are stored in place, some of them before `ValidatePeer` and some
without it. The states of an election hold the capabilities of a `CER` that has
passed, and an open state those of the last exchange, which need not have.
-/

set_option autoImplicit false

namespace OpenDiameter.Peer

open Foundation OpenDiameter.Framework

variable {Io : Type}

section Exchanges

def PeerState.keepsCapabilities : PeerState → Bool
  | .iOpen | .rOpen | .waitConnAckElect | .waitReturns => true
  | _ => false

/-- A `CER` or `CEA` of the peer, unless it is turned away with its connection. -/
def exchanges : PeerState → PeerEvent → Bool
  | .closed, .rConnCER | .waitConnAck, .rConnCER | .waitICEA, .rConnCER | .waitICEA, .iRcvCEA
  | .waitReturns, .iRcvCEA | .iOpen, .iRcvCER | .iOpen, .iRcvCEA | .rOpen, .rRcvCER
  | .rOpen, .rRcvCEA => true
  | _, _ => false

def opensByCEA : PeerState → PeerEvent → Bool
  | .waitICEA, .iRcvCEA | .waitReturns, .iRcvCEA | .iOpen, .iRcvCEA | .rOpen, .rRcvCEA => true
  | _, _ => false

def renegotiates : PeerState → PeerEvent → Bool
  | .iOpen, .iRcvCER | .rOpen, .rRcvCER => true
  | _, _ => false

/-- Capabilities that are stored for an open connection whatever `ValidatePeer` says. -/
def storedUntested (state : PeerState) (event : PeerEvent) (msg : PeerMsg) : Bool :=
  opensByCEA state event && msg.resultClass == .success || renegotiates state event

end Exchanges

structure ExchangedFsm (Io : Type) where
  fsm : PeerFsm Io
  last : Option PeerMsg

def exchanged (fsm : PeerFsm Io) (param : PeerEventParam Io) (last : Option PeerMsg) : Option PeerMsg :=
  if exchanges fsm.state param.event then param.msg else last

namespace ExchangedFsm

def initial : ExchangedFsm Io := ⟨.initial, none⟩

def take (config : PeerConfig) (peer : ExchangedFsm Io) : PeerInput Io → ExchangedFsm Io
  | .served param => ⟨peer.fsm.serve config param, exchanged peer.fsm param peer.last⟩
  | .stopCalled cause => { peer with fsm := { peer.fsm with disconnectCause := cause } }

def Validated (config : PeerConfig) (peer : ExchangedFsm Io) : Prop :=
  peer.fsm.state = .iOpen ∨ peer.fsm.state = .rOpen →
    (∃ msg, peer.last = some msg ∧ peer.fsm.capabilities = disassembleCE msg) ∧
      (validatePeer config peer.fsm.capabilities).1 = true

/-- Capabilities stored without a test would have passed it. -/
def Accepts (config : PeerConfig) (peer : ExchangedFsm Io) : PeerInput Io → Prop
  | .served param => ∀ msg, param.msg = some msg → storedUntested peer.fsm.state param.event msg = true →
      validates config msg = true
  | .stopCalled _ => True

end ExchangedFsm

namespace PeerFsm

section Vouching

variable {config : PeerConfig} {last : Option PeerMsg} {fsm after : PeerFsm Io}

/-- What a run keeps: capabilities that are kept for an open connection are those
of the last exchange and have passed the test. -/
structure Vouched (config : PeerConfig) (last : Option PeerMsg) (fsm : PeerFsm Io) : Prop where
  running : fsm.running = true
  accepted : fsm.state.keepsCapabilities = true →
    ∃ msg, last = some msg ∧ fsm.capabilities = disassembleCE msg ∧ validates config msg = true

/-- `after` follows `before` with its state and its capabilities. -/
structure Carries (before after : PeerFsm Io) : Prop where
  running : after.running = before.running
  state : after.state = before.state
  capabilities : after.capabilities = before.capabilities

theorem Carries.trans {before middle after : PeerFsm Io} (first : before.Carries middle)
    (second : middle.Carries after) : before.Carries after :=
  ⟨second.running.trans first.running, second.state.trans first.state,
    second.capabilities.trans first.capabilities⟩

section Frame

variable (fsm : PeerFsm Io) (config : PeerConfig)

theorem carries_emit (effect : Effect Io) : fsm.Carries (fsm.emit effect) := ⟨rfl, rfl, rfl⟩

theorem carries_takeInitiator : fsm.Carries fsm.takeInitiator := ⟨rfl, rfl, rfl⟩

theorem carries_takeResponder : fsm.Carries fsm.takeResponder := ⟨rfl, rfl, rfl⟩

theorem carries_dropInitiator : fsm.Carries fsm.dropInitiator := ⟨rfl, rfl, rfl⟩

theorem carries_dropResponder : fsm.Carries fsm.dropResponder := ⟨rfl, rfl, rfl⟩

theorem carries_forgetCurrent : fsm.Carries fsm.forgetCurrent := ⟨rfl, rfl, rfl⟩

theorem carries_scheduleTimer (event : PeerEvent) : fsm.Carries (fsm.scheduleTimer event) :=
  (carries_emit fsm _).trans (carries_emit _ _)

theorem carries_watch : fsm.Carries fsm.watch := (carries_emit fsm _).trans (carries_scheduleTimer _ .watchdog)

theorem carries_drawIds : fsm.Carries (fsm.drawIds config).1 := ⟨rfl, rfl, rfl⟩

theorem carries_answerIds : fsm.Carries fsm.answerIds.1 := ⟨rfl, rfl, rfl⟩

theorem carries_sendCER : fsm.Carries (fsm.sendCER config) :=
  ((carries_drawIds fsm config).trans (carries_emit _ _)).trans (carries_emit _ _)

theorem carries_sendCEA (rcode : UInt32) (message : String) : fsm.Carries (fsm.sendCEA config rcode message) :=
  ((carries_answerIds fsm).trans (carries_emit _ _)).trans (carries_emit _ _)

end Frame

theorem Vouched.carries (vouched : fsm.Vouched config last) (carries : fsm.Carries after) :
    after.Vouched config last := by
  constructor
  · rw [carries.running]
    exact vouched.running
  · rw [carries.state, carries.capabilities]
    exact vouched.accepted

theorem vouched_of_state (running : fsm.running = true) (state : fsm.state.keepsCapabilities = false) :
    fsm.Vouched config last := by
  refine ⟨running, ?_⟩
  intro keeps
  rw [state] at keeps
  cases keeps

theorem vouched_cleanup (flags : CleanupFlags) (machine : flags.fsm = true) :
    (fsm.cleanup flags).Vouched config last := by
  apply vouched_of_state
  · unfold cleanup
    rw [machine]
    rfl
  · rw [state_cleanup flags machine]
    rfl

theorem vouched_doReConnect (effect : Effect Io) :
    (((fsm.cleanup .all).doReConnect config).emit effect).Vouched config last := by
  apply vouched_of_state
  · unfold doReConnect
    split
    · split <;> rfl
    · rfl
  · exact congrArg PeerState.keepsCapabilities (fsm.cleanup .all).state_doReConnect

theorem vouched_elect (vouched : fsm.Vouched config last) : (fsm.elect config).Vouched config last := by
  unfold elect
  split
  · exact vouched_cleanup .all rfl
  · exact vouched.carries (carries_emit fsm _)
  · exact vouched

theorem vouched_disassemble {msg : PeerMsg} (running : fsm.running = true) (accepted : validates config msg = true) :
    (fsm.disassemble msg).Vouched config (some msg) :=
  ⟨running, fun _ => ⟨msg, rfl, rfl, accepted⟩⟩

theorem test_passed {test : Bool} (passed : ¬(!test) = true) : test = true := by
  cases test with
  | false => exact absurd rfl passed
  | true => rfl

theorem actRAcceptSendCEA_vouched {cer : PeerMsg} (running : fsm.running = true)
    (arrived : fsm.current.msg = some cer) : (fsm.actRAcceptSendCEA config).Vouched config (some cer) := by
  have present : fsm.takeResponder.current.msg = some cer := arrived
  rw [actRAcceptSendCEA, withMsg_of_some present]
  dsimp only
  split
  · exact vouched_cleanup .all rfl
  · rename_i valid
    have accepted : validates config cer = true := test_passed valid
    let taken : PeerFsm Io :=
      { fsm.takeResponder with current := { fsm.takeResponder.current with msg := none } }
    have known : (taken.disassemble cer).Vouched config (some cer) := vouched_disassemble running accepted
    apply known.carries
    exact ((carries_sendCEA _ config _ _).trans (carries_watch _)).trans ((carries_emit _ _).trans (carries_emit _ _))

theorem actRAccept_vouched {cer : PeerMsg} (running : fsm.running = true)
    (arrived : fsm.current.msg = some cer) : (fsm.actRAccept config).Vouched config (some cer) := by
  have present : fsm.takeResponder.current.msg = some cer := arrived
  rw [actRAccept, withMsg_of_some present]
  dsimp only
  split
  · exact vouched_cleanup .all rfl
  · rename_i valid
    have accepted : validates config cer = true := test_passed valid
    exact vouched_disassemble running accepted

theorem actRAcceptElect_vouched {cer : PeerMsg} (running : fsm.running = true)
    (arrived : fsm.current.msg = some cer) : (fsm.actRAcceptElect config).Vouched config (some cer) := by
  have present : fsm.takeResponder.current.msg = some cer := arrived
  rw [actRAcceptElect, withMsg_of_some present]
  dsimp only
  split
  · exact vouched_cleanup _ rfl
  · rename_i valid
    have accepted : validates config cer = true := test_passed valid
    exact vouched_elect (vouched_disassemble running accepted)

theorem actProcessCEA_stores {cea : PeerMsg} (arrived : fsm.current.msg = some cea)
    (success : cea.resultClass = .success) : (fsm.disassemble cea).Carries fsm.actProcessCEA := by
  rw [actProcessCEA, withMsg_of_some arrived, if_pos success]
  let taken : PeerFsm Io := { fsm with current := { fsm.current with msg := none } }
  have known : (fsm.disassemble cea).Carries (taken.disassemble cea) := ⟨rfl, rfl, rfl⟩
  exact ((known.trans (carries_emit _ _)).trans (carries_watch _)).trans (carries_emit _ _)

theorem actRDisconnectIOpen_stores {cea : PeerMsg} (arrived : fsm.current.msg = some cea)
    (success : cea.resultClass = .success) : (fsm.disassemble cea).Carries fsm.actRDisconnectIOpen := by
  rw [actRDisconnectIOpen, withMsg_of_some arrived, if_pos success]
  let taken : PeerFsm Io := { fsm with current := { fsm.current with msg := none } }
  have known : (fsm.disassemble cea).Carries (taken.disassemble cea) := ⟨rfl, rfl, rfl⟩
  exact ((known.trans (carries_watch _)).trans (carries_dropResponder _)).trans (carries_emit _ _)

theorem actRSendCEAOpen_stores {cer : PeerMsg} (arrived : fsm.current.msg = some cer) :
    (fsm.disassemble cer).Carries (fsm.actRSendCEAOpen config) := by
  rw [actRSendCEAOpen, withMsg_of_some arrived]
  let taken : PeerFsm Io := { fsm with current := { fsm.current with msg := none } }
  have known : (fsm.disassemble cer).Carries (taken.disassemble cer) := ⟨rfl, rfl, rfl⟩
  exact known.trans (carries_sendCEA _ config _ _)

theorem actProcessCEA_vouched {cea : PeerMsg} (running : fsm.running = true) (arrived : fsm.current.msg = some cea)
    (accepted : cea.resultClass = .success → validates config cea = true) :
    fsm.actProcessCEA.Vouched config (some cea) := by
  by_cases success : cea.resultClass = .success
  · exact (vouched_disassemble running (accepted success)).carries (actProcessCEA_stores arrived success)
  · rw [actProcessCEA, withMsg_of_some arrived, if_neg success]
    exact vouched_cleanup .all rfl

theorem actRDisconnectIOpen_vouched {cea : PeerMsg} (running : fsm.running = true)
    (arrived : fsm.current.msg = some cea)
    (accepted : cea.resultClass = .success → validates config cea = true) :
    fsm.actRDisconnectIOpen.Vouched config (some cea) := by
  by_cases success : cea.resultClass = .success
  · exact (vouched_disassemble running (accepted success)).carries (actRDisconnectIOpen_stores arrived success)
  · rw [actRDisconnectIOpen, withMsg_of_some arrived, if_neg success]
    exact vouched_cleanup .all rfl

theorem actRSendCEAOpen_vouched {cer : PeerMsg} (running : fsm.running = true)
    (arrived : fsm.current.msg = some cer) (accepted : validates config cer = true) :
    (fsm.actRSendCEAOpen config).Vouched config (some cer) :=
  (vouched_disassemble running accepted).carries (actRSendCEAOpen_stores arrived)

theorem withMsg_vouched {handle : PeerMsg → PeerFsm Io → PeerFsm Io} (vouched : fsm.Vouched config last)
    (each : ∀ (msg : PeerMsg) (after : PeerFsm Io), after.Vouched config last →
      (handle msg after).Vouched config last) : (fsm.withMsg handle).Vouched config last := by
  unfold withMsg
  split
  · exact each _ _ (vouched.carries ⟨rfl, rfl, rfl⟩)
  · exact vouched.carries (carries_emit fsm .nullMessage)

end Vouching

section Rows

variable {config : PeerConfig} {last : Option PeerMsg} {fsm : PeerFsm Io} {row : PeerRow}

def storesCapabilities : PeerAction → Bool
  | .rAcceptSendCEA | .rAccept | .rAcceptElect | .processCEA | .rSendCEAOpen | .rDisconnectIOpen
  | .iSendCEA => true
  | _ => false

theorem actProcessDWA_vouched (vouched : fsm.Vouched config last) : fsm.actProcessDWA.Vouched config last := by
  apply withMsg_vouched vouched
  intro dwa after vouched
  split
  · exact vouched
  · exact vouched_cleanup .all rfl

theorem actSendDPADisconnect_vouched (vouched : fsm.Vouched config last) (initiator : Bool) :
    (fsm.actSendDPADisconnect config initiator).Vouched config last := by
  apply withMsg_vouched vouched
  intro dpr after vouched
  exact (vouched_cleanup .all rfl).carries (carries_emit _ _)

theorem actDisconnectDPA_vouched (vouched : fsm.Vouched config last) :
    (fsm.actDisconnectDPA config).Vouched config last := by
  apply withMsg_vouched vouched
  intro dpa after vouched
  dsimp only
  split
  · let told := after.emit (.disconnected after.disconnectCause)
    have closed : (((told.cleanup .all).doReConnect config).emit .connected).Vouched config last :=
      vouched_doReConnect .connected
    exact closed.carries ⟨rfl, rfl, rfl⟩
  · exact vouched_cleanup .all rfl

theorem actProcess_vouched (vouched : fsm.Vouched config last) : fsm.actProcess.Vouched config last := by
  apply withMsg_vouched vouched
  intro msg after vouched
  exact vouched.carries (carries_emit after _)

theorem actProcessDWRSendDWA_vouched (vouched : fsm.Vouched config last) :
    (fsm.actProcessDWRSendDWA config).Vouched config last := by
  apply withMsg_vouched vouched
  intro dwr after vouched
  exact vouched.carries ((carries_answerIds after).trans (carries_emit _ _))

theorem perform_vouched {action : PeerAction} (other : storesCapabilities action = false)
    (vouched : fsm.Vouched config last) : (fsm.perform config action).Vouched config last := by
  cases action with
  | rAcceptSendCEA | rAccept | rAcceptElect | processCEA | rSendCEAOpen | rDisconnectIOpen | iSendCEA =>
    cases other
  | connNack | disconnect => exact vouched_doReConnect _
  | cleanup => exact vouched_cleanup .all rfl
  | error => exact (vouched_cleanup .all rfl).carries (carries_emit _ _)
  | iSendCERElect =>
    exact vouched_elect (vouched.carries ((carries_takeInitiator fsm).trans (carries_sendCER _ config)))
  | processDWA => exact actProcessDWA_vouched vouched
  | iSendDPADisconnect => exact actSendDPADisconnect_vouched vouched true
  | rSendDPADisconnect => exact actSendDPADisconnect_vouched vouched false
  | disconnectDPA => exact actDisconnectDPA_vouched vouched
  | process => exact actProcess_vouched vouched
  | processDWRSendDWA => exact actProcessDWRSendDWA_vouched vouched
  | null | rSendMessage | iSendMessage => exact vouched
  | iSendConnReq => exact vouched.carries (carries_scheduleTimer fsm .timeout)
  | iSendCER => exact vouched.carries ((carries_takeInitiator fsm).trans (carries_sendCER _ config))
  | retry => exact vouched.carries (((carries_emit fsm _).trans (carries_emit _ _)).trans (carries_emit _ _))
  | rSendCEA =>
    have sent : (fsm.takeResponder.sendCEA config aaaSuccess winElectionMessage).Vouched config last :=
      vouched.carries ((carries_takeResponder fsm).trans (carries_sendCEA _ config _ _))
    exact sent.carries ((carries_watch _).trans (carries_emit _ _))
  | rDisconnectResp => exact vouched.carries (carries_dropResponder fsm)
  | rReject => exact vouched.carries (carries_forgetCurrent fsm)
  | iDisconnectSendCEA =>
    have sent : (fsm.dropInitiator.sendCEA config aaaSuccess winElectionMessage).Vouched config last :=
      vouched.carries ((carries_dropInitiator fsm).trans (carries_sendCEA _ config _ _))
    exact sent.carries ((carries_watch _).trans (carries_emit _ _))
  | iSendDPR | rSendDPR =>
    have limited : ((fsm.cancelTimer .watchdog).scheduleTimer .timeout).Vouched config last :=
      vouched.carries ((carries_emit fsm _).trans (carries_scheduleTimer _ .timeout))
    exact limited.carries ((carries_drawIds _ config).trans (carries_emit _ _))
  | watchdog => exact vouched.carries ((carries_drawIds fsm config).trans (carries_emit _ _))

theorem quietRows : ∀ row ∈ peerStateTable, storesCapabilities row.action = false →
    row.nextState.keepsCapabilities = true →
      row.prevState.keepsCapabilities = true ∧
        ∃ ev ∈ row.event, exchanges row.prevState ev = false := by
  decide +kernel

theorem storingRows : ∀ row ∈ peerStateTable, storesCapabilities row.action = true →
    ∃ ev ∈ row.event, exchanges row.prevState ev = true ∧ ev.carriesMsg = true ∧
      (row.action = .processCEA ∨ row.action = .rDisconnectIOpen → opensByCEA row.prevState ev = true) ∧
      (row.action = .rSendCEAOpen ∨ row.action = .iSendCEA → renegotiates row.prevState ev = true) := by
  decide +kernel

theorem stored_vouched {action : PeerAction} {msg : PeerMsg} (stores : storesCapabilities action = true)
    (running : fsm.running = true) (arrived : fsm.current.msg = some msg)
    (answered : action = .processCEA ∨ action = .rDisconnectIOpen → msg.resultClass = .success →
      validates config msg = true)
    (renegotiated : action = .rSendCEAOpen ∨ action = .iSendCEA → validates config msg = true) :
    (fsm.perform config action).Vouched config (some msg) := by
  cases action with
  | rAcceptSendCEA => exact actRAcceptSendCEA_vouched running arrived
  | rAccept => exact actRAccept_vouched running arrived
  | rAcceptElect => exact actRAcceptElect_vouched running arrived
  | processCEA => exact actProcessCEA_vouched running arrived (answered (Or.inl rfl))
  | rDisconnectIOpen => exact actRDisconnectIOpen_vouched running arrived (answered (Or.inr rfl))
  | rSendCEAOpen => exact actRSendCEAOpen_vouched running arrived (renegotiated (Or.inl rfl))
  | iSendCEA => exact actRSendCEAOpen_vouched running arrived (renegotiated (Or.inr rfl))
  | _ => cases stores

theorem row_vouched (mem : row ∈ peerStateTable) (vouched : fsm.Vouched config last) (arrives : fsm.Arrives row)
    (accepts : ∀ msg, fsm.current.msg = some msg → storedUntested fsm.state fsm.current.event msg = true →
      validates config msg = true) :
    ((fsm.moved row).perform config row.action).Vouched config (exchanged fsm fsm.current last) := by
  cases stores : storesCapabilities row.action with
  | false =>
    apply perform_vouched stores
    refine ⟨vouched.running, ?_⟩
    intro keeps
    obtain ⟨kept, ev, named, noExchange⟩ := quietRows row mem stores keeps
    rw [arrives.state] at kept noExchange
    rw [arrives.event ev named] at noExchange
    rw [exchanged, noExchange]
    exact vouched.accepted kept
  | true =>
    obtain ⟨ev, named, exchange, carries, opens, renegotiating⟩ := storingRows row mem stores
    obtain ⟨msg, arrived⟩ := Option.isSome_iff_exists.mp (arrives.msg named carries)
    rw [arrives.state] at exchange opens renegotiating
    rw [arrives.event ev named] at exchange opens renegotiating
    have taken : exchanged fsm fsm.current last = some msg := by
      rw [exchanged, exchange]
      exact arrived
    rw [taken]
    have entered : (fsm.moved row).running = true := vouched.running
    apply stored_vouched stores entered arrived
    · intro action success
      apply accepts msg arrived
      simp [storedUntested, opens action, success]
    · intro action
      apply accepts msg arrived
      simp [storedUntested, renegotiating action]

end Rows

section Serving

variable {config : PeerConfig} {last : Option PeerMsg} {fsm : PeerFsm Io} {param : PeerEventParam Io}

theorem no_exchange_of_absent {state : PeerState} {event : PeerEvent}
    (absent : peerStateTable.findStateTableEntry state event = none) : exchanges state event = false := by
  revert absent
  cases state <;> cases event <;> first | (intro _; rfl) | (intro absent; cases absent)

theorem serve_vouched (vouched : fsm.Vouched config last) (notified : param.AsNotified)
    (accepts : ExchangedFsm.Accepts config ⟨fsm, last⟩ (.served param)) :
    (fsm.serve config param).Vouched config (exchanged fsm param last) := by
  have given : (fsm.given param).Vouched config last := vouched.carries ⟨rfl, rfl, rfl⟩
  cases found : peerStateTable.findStateTableEntry fsm.state param.event with
  | none =>
    rw [serve_of_no_row config param vouched.running found, exchanged, no_exchange_of_absent found]
    exact given.carries (carries_forgetCurrent _)
  | some row =>
    obtain ⟨mem, state, named⟩ := StateTable.findStateTableEntry_mem found
    have arrives : (fsm.given param).Arrives row := by
      refine ⟨state, ?_, notified⟩
      intro ev event
      rcases named with wildcard | named
      · rw [wildcard] at event
        cases event
      · rw [named] at event
        cases event
        rfl
    rw [serve_of_row config param vouched.running found]
    exact (row_vouched mem given arrives accepts).carries (carries_forgetCurrent _)

def Stores (Io : Type) (action : PeerAction) (msg : PeerMsg) : Prop :=
  ∀ (config : PeerConfig) (fsm : PeerFsm Io), fsm.current.msg = some msg →
    (fsm.disassemble msg).Carries (fsm.perform config action)

theorem opensByCEA_row {state : PeerState} {event : PeerEvent} (opens : opensByCEA state event = true) :
    ∃ row, peerStateTable.findStateTableEntry state event = some row ∧
      (row.nextState = .iOpen ∨ row.nextState = .rOpen) ∧
      (row.action = .processCEA ∨ row.action = .rDisconnectIOpen) := by
  revert opens
  cases state <;> cases event <;> first
    | exact fun opens => absurd opens (by decide)
    | exact fun _ => ⟨_, rfl, Or.inl rfl, Or.inl rfl⟩
    | exact fun _ => ⟨_, rfl, Or.inl rfl, Or.inr rfl⟩
    | exact fun _ => ⟨_, rfl, Or.inr rfl, Or.inl rfl⟩

theorem renegotiates_row {state : PeerState} {event : PeerEvent} (renegotiating : renegotiates state event = true) :
    ∃ row, peerStateTable.findStateTableEntry state event = some row ∧
      (row.nextState = .iOpen ∨ row.nextState = .rOpen) ∧
      (row.action = .rSendCEAOpen ∨ row.action = .iSendCEA) := by
  revert renegotiating
  cases state <;> cases event <;> first
    | exact fun renegotiating => absurd renegotiating (by decide)
    | exact fun _ => ⟨_, rfl, Or.inl rfl, Or.inr rfl⟩
    | exact fun _ => ⟨_, rfl, Or.inr rfl, Or.inl rfl⟩

theorem untested_row {state : PeerState} {event : PeerEvent} {msg : PeerMsg}
    (untested : storedUntested state event msg = true) :
    ∃ row, peerStateTable.findStateTableEntry state event = some row ∧
      (row.nextState = .iOpen ∨ row.nextState = .rOpen) ∧ Stores Io row.action msg := by
  rw [storedUntested, Bool.or_eq_true, Bool.and_eq_true, beq_iff_eq] at untested
  rcases untested with ⟨opens, success⟩ | renegotiating
  · obtain ⟨row, found, next, action | action⟩ := opensByCEA_row opens
    · exact ⟨row, found, next, action ▸ fun _ _ arrived => actProcessCEA_stores arrived success⟩
    · exact ⟨row, found, next, action ▸ fun _ _ arrived => actRDisconnectIOpen_stores arrived success⟩
  · obtain ⟨row, found, next, action | action⟩ := renegotiates_row renegotiating
    · exact ⟨row, found, next, action ▸ fun _ _ arrived => actRSendCEAOpen_stores arrived⟩
    · exact ⟨row, found, next, action ▸ fun _ _ arrived => actRSendCEAOpen_stores arrived⟩

/-- What is stored without a test is what the open machine has. -/
theorem serve_stored (config : PeerConfig) {msg : PeerMsg} (running : fsm.running = true) (arrived : param.msg = some msg)
    (untested : storedUntested fsm.state param.event msg = true) :
    ((fsm.serve config param).state = .iOpen ∨ (fsm.serve config param).state = .rOpen) ∧
      (fsm.serve config param).capabilities = disassembleCE msg := by
  obtain ⟨row, found, opens, stores⟩ := untested_row untested
  have stored := (stores config ((fsm.given param).moved row) arrived).trans (carries_forgetCurrent _)
  rw [serve_of_row config param running found]
  refine ⟨?_, stored.capabilities⟩
  have stays : (((fsm.given param).moved row).perform config row.action).forgetCurrent.state = row.nextState :=
    stored.state
  exact stays.symm ▸ opens

end Serving

end PeerFsm

namespace ExchangedFsm

section Runs

variable {config : PeerConfig}

theorem take_vouched {peer : ExchangedFsm Io} {input : PeerInput Io} (vouched : peer.fsm.Vouched config peer.last)
    (notified : input.AsNotified) (accepts : peer.Accepts config input) :
    (peer.take config input).fsm.Vouched config (peer.take config input).last := by
  cases input with
  | served param => exact PeerFsm.serve_vouched vouched notified accepts
  | stopCalled cause => exact vouched.carries ⟨rfl, rfl, rfl⟩

theorem validated_of_vouched {peer : ExchangedFsm Io} (vouched : peer.fsm.Vouched config peer.last) :
    peer.Validated config := by
  intro opened
  have keeps : peer.fsm.state.keepsCapabilities = true := by
    rcases opened with initiator | responder
    · rw [initiator]
      rfl
    · rw [responder]
      rfl
  obtain ⟨msg, last, stored, accepted⟩ := vouched.accepted keeps
  refine ⟨⟨msg, last, stored⟩, ?_⟩
  rw [stored]
  exact accepted

theorem take_validated_iff {peer : ExchangedFsm Io} {input : PeerInput Io}
    (vouched : peer.fsm.Vouched config peer.last) (notified : input.AsNotified) :
    (peer.take config input).Validated config ↔ peer.Accepts config input := by
  constructor
  · intro validated
    cases input with
    | stopCalled cause => trivial
    | served param =>
      intro msg arrived untested
      obtain ⟨opened, stored⟩ := PeerFsm.serve_stored config vouched.running arrived untested
      have valid := (validated opened).2
      have same : (peer.take config (.served param)).fsm.capabilities = disassembleCE msg := stored
      rw [same] at valid
      exact valid
  · intro accepts
    exact validated_of_vouched (take_vouched vouched notified accepts)

theorem initial_vouched : (initial : ExchangedFsm Io).fsm.Vouched config none := ⟨rfl, nofun⟩

/-- In whatever order events come, an open peer has the capabilities of its last
exchange and they are accepted, exactly in the runs in which every successful
answer, and every request on an open connection, carries capabilities that pass. -/
theorem capabilities_validated_iff (config : PeerConfig) (inputs : List (PeerInput Io))
    (notified : ∀ input ∈ inputs, input.AsNotified) :
    Stepwise (take config) (fun peer input => (peer.take config input).Validated config) initial inputs ↔
      Stepwise (take config) (Accepts config) (initial : ExchangedFsm Io) inputs := by
  have agree : ∀ (peer : ExchangedFsm Io) (input : PeerInput Io), peer.fsm.Vouched config peer.last →
      input.AsNotified → ((peer.take config input).Validated config ↔ peer.Accepts config input) :=
    fun _ _ => take_validated_iff
  have keeps : ∀ (peer : ExchangedFsm Io) (input : PeerInput Io), peer.fsm.Vouched config peer.last →
      input.AsNotified → peer.Accepts config input →
      (peer.take config input).fsm.Vouched config (peer.take config input).last :=
    fun _ _ => take_vouched
  exact stepwise_iff agree keeps initial_vouched notified

/-- A peer that opens the connection and offers application 1, then, in another
`CER`, application 2. -/
def renegotiation (offered : UInt32) : List (PeerInput Nat) :=
  [.served ⟨.rConnCER, some PeerFsm.sampleCER, some 7⟩,
    .served ⟨.rRcvCER, some { PeerFsm.sampleCER with authAppIds := [offered] }, none⟩]

theorem capabilities_validated_renegotiated :
    Stepwise (take PeerFsm.sampleConfig)
      (fun peer input => (peer.take PeerFsm.sampleConfig input).Validated PeerFsm.sampleConfig) initial
      (renegotiation 1) := by
  apply (capabilities_validated_iff PeerFsm.sampleConfig (renegotiation 1) (by decide)).mpr
  refine ⟨?_, ?_, trivial⟩
  · intro msg _ untested
    cases untested
  · intro msg arrived _
    cases arrived
    decide

/-- Application 2 is not supported, and the peer stays open with it. -/
theorem renegotiated_unsupported : (∀ input ∈ renegotiation 2, input.AsNotified) ∧
    ¬((renegotiation 2).foldl (take PeerFsm.sampleConfig) initial).Validated PeerFsm.sampleConfig := by
  refine ⟨by decide, ?_⟩
  intro validated
  have accepted := (validated (Or.inr (by decide +kernel))).2
  revert accepted
  decide +kernel

end Runs

end ExchangedFsm

end OpenDiameter.Peer
