import OpenDiameter.Peer.Reconnect
import OpenDiameter.Peer.Validation

/-! What a stop leaves of a connection and of an attempt.

Closed or closing, the machine is led back to an open state by a new connection or
a new attempt only. Two of the states of an attempt have no entry for the stop,
and there the attempt goes on as if it had not been stopped.
-/

set_option autoImplicit false

namespace OpenDiameter.Peer

open Foundation OpenDiameter.Framework

variable {Io : Type}

namespace PeerFsm

/-- The event that `DiameterPeerEntry::Stop` notifies. -/
def stopEvent : PeerEventParam Io := ⟨.stop, none, none⟩

/-- A machine that an event alone does not open. -/
structure Resting (fsm : PeerFsm Io) : Prop where
  running : fsm.running = true
  state : fsm.state = .closed ∨ fsm.state = .closing

section Steps

variable {config : PeerConfig} {fsm : PeerFsm Io} {param : PeerEventParam Io}

theorem Resting.not_watched (resting : fsm.Resting) : fsm.state.watched = false := by
  rcases resting.state with closed | closing
  · rw [closed]
    rfl
  · rw [closing]
    rfl

theorem Resting.forgetCurrent (resting : fsm.Resting) : fsm.forgetCurrent.Resting :=
  ⟨resting.running, resting.state⟩

theorem resting_cleanup (fsm : PeerFsm Io) : (fsm.cleanup .all).Resting := ⟨rfl, Or.inl rfl⟩

theorem resting_doReConnect (fsm : PeerFsm Io) : ((fsm.cleanup .all).doReConnect config).Resting := by
  unfold doReConnect
  split
  · split
    · exact ⟨rfl, Or.inl rfl⟩
    · exact resting_cleanup fsm
  · exact ⟨rfl, Or.inl rfl⟩

theorem resting_actDisconnect (fsm : PeerFsm Io) : (fsm.actDisconnect config).Resting :=
  ⟨(resting_doReConnect fsm).running, (resting_doReConnect fsm).state⟩

theorem resting_actDisconnectDPA (running : fsm.running = true) (state : fsm.state = .closed) :
    (fsm.actDisconnectDPA config).Resting := by
  unfold actDisconnectDPA withMsg
  split
  · dsimp only
    split
    · exact resting_doReConnect _
    · exact resting_cleanup _
  · exact ⟨running, Or.inl state⟩

theorem closingRows_rest (running : fsm.running = true) :
    ∀ row ∈ closingRows, ((fsm.moved row).perform config row.action).Resting := by
  simp only [closingRows, addStateTableEntry, addWildcardStateTableEntry, List.forall_mem_cons]
  exact ⟨resting_actDisconnectDPA running rfl, resting_actDisconnectDPA running rfl,
    ⟨rfl, Or.inl rfl⟩, resting_actDisconnect _, resting_actDisconnect _, ⟨running, Or.inr rfl⟩,
    List.forall_mem_nil _⟩

/-- Without a new connection or a new attempt a machine at rest stays at rest. -/
theorem serve_resting (resting : fsm.Resting) (stray : param.event.endsWait = false) :
    (fsm.serve config param).Resting := by
  rcases resting.state with closed | closing
  · rw [serve_stray resting.running closed stray]
    exact (resting_cleanup _).forgetCurrent
  · cases found : peerStateTable.findStateTableEntry fsm.state param.event with
    | none =>
      rw [serve_of_no_row config param resting.running found]
      exact ⟨resting.running, Or.inr closing⟩
    | some row =>
      rw [serve_of_row config param resting.running found]
      have listed : row ∈ closingRows := by
        rw [closing] at found
        revert found
        cases param.event <;> intro found <;> cases found <;> decide
      have fresh : (fsm.given param).running = true := resting.running
      exact (closingRows_rest fresh row listed).forgetCurrent

theorem run_resting {strays : List (PeerInput Io)} (resting : fsm.Resting)
    (each : ∀ stray ∈ strays, stray.Strays) : (fsm.run config strays).Resting := by
  apply (stepwise_of_forall_mem each).invariant _ resting
  intro fsm stray resting strays
  cases stray with
  | served param => exact serve_resting resting strays
  | stopCalled cause => exact ⟨resting.running, resting.state⟩

theorem serve_stop (config : PeerConfig) (running : fsm.running = true) (settled : fsm.state.elects = false) :
    (fsm.serve config stopEvent).Resting := by
  have taken : ∀ row, peerStateTable.findStateTableEntry fsm.state .stop = some row →
      ((((fsm.given stopEvent).moved row).perform config row.action).Resting) →
      (fsm.serve config stopEvent).Resting := by
    intro row found performed
    rw [serve_of_row config stopEvent running found]
    exact performed.forgetCurrent
  cases state : fsm.state with
  | closed => exact serve_resting ⟨running, Or.inl state⟩ rfl
  | closing => exact serve_resting ⟨running, Or.inr state⟩ rfl
  | waitConnAck =>
    apply taken (addStateTableEntry .waitConnAck .stop .closed .error)
    · rw [state]
      rfl
    · exact ⟨rfl, Or.inl rfl⟩
  | waitICEA =>
    apply taken (addStateTableEntry .waitICEA .stop .closed .error)
    · rw [state]
      rfl
    · exact ⟨rfl, Or.inl rfl⟩
  | rOpen =>
    apply taken (addStateTableEntry .rOpen .stop .closing .rSendDPR)
    · rw [state]
      rfl
    · exact ⟨running, Or.inr rfl⟩
  | iOpen =>
    apply taken (addStateTableEntry .iOpen .stop .closing .iSendDPR)
    · rw [state]
      rfl
    · exact ⟨running, Or.inr rfl⟩
  | waitConnAckElect | waitReturns =>
    rw [state] at settled
    cases settled

end Steps

section Elections

variable (config : PeerConfig) {fsm : PeerFsm Io}

def At (state : PeerState) (fsm : PeerFsm Io) : Prop := fsm.running = true ∧ fsm.state = state

theorem serve_stop_dropped (running : fsm.running = true) (elects : fsm.state.elects = true) :
    (fsm.serve config stopEvent).At fsm.state := by
  have absent : peerStateTable.findStateTableEntry fsm.state .stop = none := by
    cases state : fsm.state <;> rw [state] at elects <;> first | rfl | cases elects
  rw [serve_of_no_row config stopEvent running absent]
  exact ⟨running, rfl⟩

theorem serve_answered {state : PeerState} {action : PeerAction} (here : fsm.At state)
    (found : peerStateTable.findStateTableEntry state .iRcvCEA =
      some (addStateTableEntry state .iRcvCEA .iOpen action))
    (processes : action = .processCEA ∨ action = .rDisconnectIOpen) :
    (fsm.serve config ⟨.iRcvCEA, some TimedFsm.sampleCEA, none⟩).state = .iOpen := by
  have success : TimedFsm.sampleCEA.resultClass = .success := by decide
  rw [← here.2] at found
  rw [serve_of_row config ⟨.iRcvCEA, some TimedFsm.sampleCEA, none⟩ here.1 found]
  rcases processes with rfl | rfl
  · exact ((actProcessCEA_stores rfl success).trans (carries_forgetCurrent _)).state
  · exact ((actRDisconnectIOpen_stores rfl success).trans (carries_forgetCurrent _)).state

/-- The peer gives up the connection that it opened itself. -/
theorem serve_responder_lost (here : fsm.At .waitConnAckElect) :
    (fsm.serve config ⟨.rPeerDisc, none, none⟩).At .waitConnAck := by
  have found : peerStateTable.findStateTableEntry fsm.state .rPeerDisc =
      some (addStateTableEntry .waitConnAckElect .rPeerDisc .waitConnAck .rDisconnectResp) := by
    rw [here.2]
    rfl
  rw [serve_of_row config ⟨.rPeerDisc, none, none⟩ here.1 found]
  exact ⟨here.1, rfl⟩

theorem serve_acknowledged (here : fsm.At .waitConnAck) (io : Io) :
    (fsm.serve config ⟨.iRcvConnAck, none, some io⟩).At .waitICEA := by
  have found : peerStateTable.findStateTableEntry fsm.state .iRcvConnAck =
      some (addStateTableEntry .waitConnAck .iRcvConnAck .waitICEA .iSendCER) := by
    rw [here.2]
    rfl
  rw [serve_of_row config ⟨.iRcvConnAck, none, some io⟩ here.1 found]
  exact ⟨here.1, rfl⟩

theorem opens_of_elects [Inhabited Io] (running : fsm.running = true)
    (elects : fsm.state.elects = true) : ∃ strays : List (PeerInput Io),
      (∀ stray ∈ strays, stray.AsNotified ∧ stray.Strays) ∧
        ((fsm.serve config stopEvent).run config strays).state = .iOpen := by
  have dropped := serve_stop_dropped config running elects
  cases state : fsm.state with
  | waitConnAckElect =>
    rw [state] at dropped
    refine ⟨[.served ⟨.rPeerDisc, none, none⟩, .served ⟨.iRcvConnAck, none, some default⟩,
      .served ⟨.iRcvCEA, some TimedFsm.sampleCEA, none⟩], ?_, ?_⟩
    · simp only [List.forall_mem_cons]
      exact ⟨⟨⟨rfl, rfl⟩, rfl⟩, ⟨⟨rfl, rfl⟩, rfl⟩, ⟨⟨rfl, rfl⟩, rfl⟩, List.forall_mem_nil _⟩
    · have waits := serve_acknowledged config (serve_responder_lost config dropped) default
      exact serve_answered config waits rfl (Or.inl rfl)
  | waitReturns =>
    rw [state] at dropped
    refine ⟨[.served ⟨.iRcvCEA, some TimedFsm.sampleCEA, none⟩], ?_, ?_⟩
    · simp only [List.forall_mem_cons]
      exact ⟨⟨⟨rfl, rfl⟩, rfl⟩, List.forall_mem_nil _⟩
    · exact serve_answered config dropped rfl (Or.inr rfl)
  | _ =>
    rw [state] at elects
    cases elects

end Elections

section Runs

variable {config : PeerConfig}

theorem fsm_run (timed : TimedFsm Io) (inputs : List (PeerInput Io)) :
    (timed.run config inputs).fsm = timed.fsm.run config inputs := by
  induction inputs generalizing timed with
  | nil => rfl
  | cons input inputs ih =>
    have first : (timed.take config input).fsm = timed.fsm.take config input := by
      cases input <;> rfl
    rw [TimedFsm.run, List.foldl_cons, run, List.foldl_cons, ← first]
    exact ih (timed.take config input)

theorem run_running {inputs : List (PeerInput Io)} (notified : ∀ input ∈ inputs, input.AsNotified) :
    ((initial : PeerFsm Io).run config inputs).running = true := by
  have kept : ((TimedFsm.initial : TimedFsm Io).run config inputs).Kept :=
    TimedFsm.run_kept TimedFsm.initial_kept notified
  have running := kept.running
  rw [fsm_run] at running
  exact running

/-- A stop keeps the machine from opening until something new starts, exactly in
the states that have an entry for it. -/
theorem stop_honoured_iff [Inhabited Io] (config : PeerConfig) (inputs : List (PeerInput Io))
    (notified : ∀ input ∈ inputs, input.AsNotified) :
    let fsm := (initial : PeerFsm Io).run config inputs
    (∀ strays : List (PeerInput Io), (∀ stray ∈ strays, stray.AsNotified ∧ stray.Strays) →
      ((fsm.serve config stopEvent).run config strays).state ≠ .iOpen ∧
        ((fsm.serve config stopEvent).run config strays).state ≠ .rOpen) ↔
      fsm.state ≠ .waitConnAckElect ∧ fsm.state ≠ .waitReturns := by
  intro fsm
  have running : fsm.running = true := run_running notified
  constructor
  · intro honoured
    by_contra during
    have elects : fsm.state.elects = true := by
      revert during
      cases fsm.state <;> decide
    obtain ⟨strays, each, opened⟩ := opens_of_elects config running elects
    exact (honoured strays each).1 opened
  · rintro ⟨notAck, notReturns⟩ strays each
    have settled : fsm.state.elects = false := by
      revert notAck notReturns
      cases fsm.state <;> decide
    have resting : ((fsm.serve config stopEvent).run config strays).Resting :=
      run_resting (serve_stop config running settled) fun stray mem => (each stray mem).2
    have closed := resting.not_watched
    constructor
    · intro opened
      rw [opened] at closed
      cases closed
    · intro opened
      rw [opened] at closed
      cases closed

/-- An attempt that waits for its answer is stopped: the answer comes too late. -/
theorem stop_honoured_iff_waiting : ((((initial : PeerFsm Nat).run sampleConfig
    [.served ⟨.start, none, none⟩, .served ⟨.iRcvConnAck, none, some 7⟩]).serve sampleConfig stopEvent).run
      sampleConfig [.served ⟨.iRcvCEA, some TimedFsm.sampleCEA, none⟩]).state ≠ .iOpen :=
  ((stop_honoured_iff sampleConfig [.served ⟨.start, none, none⟩, .served ⟨.iRcvConnAck, none, some 7⟩]
    (by decide)).mpr (by decide +kernel) [.served ⟨.iRcvCEA, some TimedFsm.sampleCEA, none⟩] (by decide)).1

/-- Two peers connect to each other at once, the attempt is stopped, and the
answer of the peer opens it. -/
theorem stop_ignored : ¬∀ (inputs strays : List (PeerInput Nat)), (∀ input ∈ inputs, input.AsNotified) →
    (∀ stray ∈ strays, stray.AsNotified ∧ stray.Strays) →
    (((initial.run sampleConfig inputs).serve sampleConfig stopEvent).run sampleConfig strays).state ≠ .iOpen := by
  intro honoured
  have closed := honoured
    [.served ⟨.start, none, none⟩, .served ⟨.iRcvConnAck, none, some 7⟩, .served ⟨.rConnCER, some sampleCER, some 8⟩]
    [.served ⟨.iRcvCEA, some TimedFsm.sampleCEA, none⟩] (by decide) (by decide)
  revert closed
  decide +kernel

end Runs

end PeerFsm

end OpenDiameter.Peer
