import OpenDiameter.Peer.Timers

/-! Retries of a lost connection.

A retry is scheduled when an attempt fails and when a connection is lost, always
on the way to the closed state. There it survives nothing but its own firing: the
cleanup of any other event cancels it. Whether a lost connection is retried at all
depends on an attempt counter that a connection does not reset.
-/

set_option autoImplicit false

namespace OpenDiameter.Peer

open Foundation OpenDiameter.Framework

variable {Io : Type}

deriving instance DecidableEq for Effect

section Events

def PeerEvent.endsWait : PeerEvent → Bool
  | .start | .rConnCER | .connRetry => true
  | _ => false

/-- Nothing that starts a connection, or a retry that fires, is served. -/
def PeerInput.Strays : PeerInput Io → Prop
  | .served param => param.event.endsWait = false
  | .stopCalled _ => True

instance : (input : PeerInput Io) → Decidable input.Strays
  | .served param => inferInstanceAs (Decidable (param.event.endsWait = false))
  | .stopCalled _ => .isTrue trivial

def PeerInput.isServed : PeerInput Io → Bool
  | .served _ => true
  | .stopCalled _ => false

/-- The loss of a connection that was established, whether or not it is already
being closed. -/
def transportDisconnect : PeerState → PeerEvent → Bool
  | .iOpen, .iPeerDisc | .rOpen, .rPeerDisc | .closing, .iPeerDisc | .closing, .rPeerDisc => true
  | _, _ => false

def PeerAction.reconnects : PeerAction → Bool
  | .connNack | .disconnect | .disconnectDPA => true
  | _ => false

end Events

namespace PeerFsm

section Unretried

/-- No retry has been scheduled by the event that is being served. -/
def Unretried (fsm : PeerFsm Io) : Prop := Effect.scheduleTimer .connRetry ∉ fsm.effects

variable {config : PeerConfig} {fsm : PeerFsm Io}

theorem unretried_append {after : PeerFsm Io} {added : List (Effect Io)}
    (effects : after.effects = fsm.effects ++ added) (without : Effect.scheduleTimer .connRetry ∉ added) :
    after.Unretried ↔ fsm.Unretried := by
  unfold Unretried
  rw [effects, List.mem_append]
  exact not_congr (or_iff_left without)

theorem Idles.unretried {before after : PeerFsm Io} (idles : before.Idles after) :
    after.Unretried ↔ before.Unretried := by
  obtain ⟨added, effects, idle⟩ := idles.effects
  apply unretried_append effects
  intro scheduled
  cases idle _ scheduled

theorem unretried_cleanup (flags : CleanupFlags) : (fsm.cleanup flags).Unretried ↔ fsm.Unretried := by
  obtain ⟨added, effects, idle⟩ := fsm.effects_cleanup flags
  rw [List.append_assoc] at effects
  apply unretried_append effects
  intro scheduled
  rcases List.mem_append.mp scheduled with cancelled | scheduled
  · simp at cancelled
  · cases idle _ scheduled

theorem Unretried.emit (unretried : fsm.Unretried) (effect : Effect Io)
    (other : effect ≠ .scheduleTimer .connRetry) : (fsm.emit effect).Unretried := by
  apply (unretried_append rfl _).mpr unretried
  intro scheduled
  exact other (List.mem_singleton.mp scheduled).symm

theorem Unretried.cancelTimer (unretried : fsm.Unretried) (event : PeerEvent) :
    (fsm.cancelTimer event).Unretried :=
  unretried.emit (.cancelTimer event) nofun

theorem Unretried.scheduleTimer (unretried : fsm.Unretried) {event : PeerEvent} (other : event ≠ .connRetry) :
    (fsm.scheduleTimer event).Unretried := by
  apply (unretried.cancelTimer event).emit (.scheduleTimer event)
  intro same
  injection same with same
  exact other same

theorem Unretried.watch (unretried : fsm.Unretried) : fsm.watch.Unretried :=
  (unretried.cancelTimer .timeout).scheduleTimer nofun

theorem withMsg_unretried {handle : PeerMsg → PeerFsm Io → PeerFsm Io} (unretried : fsm.Unretried)
    (each : ∀ (msg : PeerMsg) (after : PeerFsm Io), after.Unretried → (handle msg after).Unretried) :
    (fsm.withMsg handle).Unretried := by
  unfold withMsg
  split
  · exact each _ _ unretried
  · exact unretried.emit .nullMessage nofun

theorem elect_unretried (unretried : fsm.Unretried) : (fsm.elect config).Unretried := by
  unfold elect
  split
  · exact (unretried_cleanup .all).mpr unretried
  · exact unretried.emit (.notify .winElection) nofun
  · exact unretried

theorem actSendDPADisconnect_unretried (unretried : fsm.Unretried) (initiator : Bool) :
    (fsm.actSendDPADisconnect config initiator).Unretried := by
  apply withMsg_unretried unretried
  intro dpr after unretried
  have sent := (idles_sendDPA after config initiator aaaSuccess).unretried.mpr unretried
  exact ((unretried_cleanup .all).mpr sent).emit (.disconnected _) nofun

theorem perform_unretried (unretried : fsm.Unretried) {action : PeerAction} (other : action.reconnects = false) :
    (fsm.perform config action).Unretried := by
  have cleaned : ∀ after : PeerFsm Io, after.Unretried → (after.cleanup .all).Unretried :=
    fun after => (unretried_cleanup .all).mpr
  have responding := (idles_takeResponder fsm).unretried.mpr unretried
  have initiating := (idles_takeInitiator fsm).unretried.mpr unretried
  cases action with
  -- The three actions that reconnect are excluded; no other schedules the timer.
  | connNack | disconnect | disconnectDPA => cases other
  | null | rSendMessage | iSendMessage => exact unretried
  | iSendConnReq => exact unretried.scheduleTimer nofun
  | rAcceptSendCEA =>
    apply withMsg_unretried responding
    intro cer after unretried
    have sent := (idles_sendCEA (after.disassemble cer) config
      (validatePeer config (disassembleCE cer)).2.1 (validatePeer config (disassembleCE cer)).2.2).unretried.mpr unretried
    dsimp only
    split
    · exact cleaned _ sent
    · exact (sent.watch.cancelTimer .connRetry).emit .connected nofun
  | iSendCER => exact (idles_sendCER _ config).unretried.mpr initiating
  | cleanup => exact cleaned _ unretried
  | retry => exact ((unretried.cancelTimer .connRetry).emit (.notify .start) nofun).emit .connect nofun
  | rAccept =>
    apply withMsg_unretried responding
    intro cer after unretried
    dsimp only
    split
    · exact cleaned _ unretried
    · exact unretried
  | error => exact (cleaned _ unretried).emit (.error 2002) nofun
  | processCEA =>
    apply withMsg_unretried unretried
    intro cea after unretried
    split
    · have known : (after.disassemble cea).Unretried := unretried
      exact (known.cancelTimer .connRetry).watch.emit .connected nofun
    · exact cleaned _ unretried
  | rAcceptElect =>
    apply withMsg_unretried responding
    intro cer after unretried
    dsimp only
    split
    · exact (unretried_cleanup _).mpr unretried
    · exact elect_unretried unretried
  | iSendCERElect => exact elect_unretried ((idles_sendCER _ config).unretried.mpr initiating)
  | rSendCEA =>
    have sent := (idles_sendCEA fsm.takeResponder config aaaSuccess winElectionMessage).unretried.mpr responding
    exact sent.watch.emit .connected nofun
  | rSendCEAOpen | iSendCEA =>
    apply withMsg_unretried unretried
    intro cer after unretried
    exact (idles_sendCEA (after.disassemble cer) config _ _).unretried.mpr unretried
  | rDisconnectResp => exact (idles_dropResponder fsm).unretried.mpr unretried
  | rDisconnectIOpen =>
    apply withMsg_unretried unretried
    intro cea after unretried
    split
    · have known : (after.disassemble cea).Unretried := unretried
      exact Unretried.emit ((idles_dropResponder _).unretried.mpr known.watch) .connected nofun
    · exact cleaned _ unretried
  | rReject => exact (idles_forgetCurrent fsm).unretried.mpr unretried
  | iDisconnectSendCEA =>
    have dropped := (idles_dropInitiator fsm).unretried.mpr unretried
    have sent := (idles_sendCEA fsm.dropInitiator config aaaSuccess winElectionMessage).unretried.mpr dropped
    exact sent.watch.emit .connected nofun
  | process =>
    apply withMsg_unretried unretried
    intro msg after unretried
    exact unretried.emit (.routed msg) nofun
  | processDWRSendDWA =>
    apply withMsg_unretried unretried
    intro dwr after unretried
    exact (idles_sendDWA after config _ _).unretried.mpr unretried
  | processDWA =>
    apply withMsg_unretried unretried
    intro dwa after unretried
    split
    · exact unretried
    · exact cleaned _ unretried
  | iSendDPR | rSendDPR =>
    have limited : ((fsm.cancelTimer .watchdog).scheduleTimer .timeout).Unretried :=
      (unretried.cancelTimer .watchdog).scheduleTimer nofun
    exact (idles_sendDPR _ config _).unretried.mpr limited
  | iSendDPADisconnect | rSendDPADisconnect => exact actSendDPADisconnect_unretried unretried _
  | watchdog => exact (idles_sendDWR fsm config).unretried.mpr unretried

end Unretried

section Scheduling

variable {config : PeerConfig} {fsm : PeerFsm Io} {armed : PeerEvent → Bool}

/-- A machine in which the retry has just been scheduled. -/
structure Retrying (armed : PeerEvent → Bool) (fsm : PeerFsm Io) : Prop where
  running : fsm.running = true
  state : fsm.state = .closed
  armed : fsm.timers armed .connRetry = true

theorem Retrying.idles {after : PeerFsm Io} (retrying : fsm.Retrying armed) (idles : fsm.Idles after) :
    after.Retrying armed := by
  constructor
  · rw [idles.running]
    exact retrying.running
  · rw [idles.state]
    exact retrying.state
  · rw [idles.timers]
    exact retrying.armed

/-- What `DoReConnect` makes of a machine that has been cleaned up. -/
theorem doReConnect_cleaned (fsm : PeerFsm Io) (interval : 0 < config.reconnectInterval) :
    ((fsm.cleanup .all).doReConnect config).timers armed .connRetry = decide (fsm.reconnectAttempt < config.reconnectMax) := by
  have unarmed : (fsm.cleanup .all).timers armed .connRetry = false := (fsm.cleanup_unarmed .all).connRetry
  unfold doReConnect
  split
  · rename_i fewer
    rw [timers_scheduleTimer, Function.update_self]
    exact (decide_eq_true fewer).symm
  · rename_i enough
    exact unarmed.trans (decide_eq_false enough).symm

theorem doReConnect_retrying (running : fsm.running = true) (state : fsm.state = .closed)
    (unretried : fsm.Unretried) (scheduled : ¬(fsm.doReConnect config).Unretried) :
    (fsm.doReConnect config).Retrying armed := by
  unfold doReConnect at scheduled ⊢
  split
  · split
    · refine ⟨running, state, ?_⟩
      rw [timers_scheduleTimer]
      exact Function.update_self _ _ _
    · rename_i fewer never
      rw [if_pos fewer, if_neg never] at scheduled
      exact absurd unretried scheduled
  · rename_i enough
    rw [if_neg enough] at scheduled
    exact absurd unretried scheduled

theorem cleanup_retrying {effect : Effect Io} (idle : effect.idle = true) (unretried : fsm.Unretried)
    (scheduled : ¬(((fsm.cleanup .all).doReConnect config).emit effect).Unretried) :
    (((fsm.cleanup .all).doReConnect config).emit effect).Retrying armed := by
  have idles := idles_emit ((fsm.cleanup .all).doReConnect config) effect idle
  rw [idles.unretried] at scheduled
  exact (doReConnect_retrying rfl rfl ((unretried_cleanup .all).mpr unretried) scheduled).idles idles

theorem actDisconnectDPA_retrying (unretried : fsm.Unretried)
    (scheduled : ¬(fsm.actDisconnectDPA config).Unretried) : (fsm.actDisconnectDPA config).Retrying armed := by
  unfold actDisconnectDPA withMsg at scheduled ⊢
  cases arrived : fsm.current.msg with
  | none =>
    rw [arrived] at scheduled
    exact absurd (unretried.emit .nullMessage nofun) scheduled
  | some dpa =>
    rw [arrived] at scheduled
    dsimp only at scheduled ⊢
    let told : PeerFsm Io :=
      ({ fsm with current := { fsm.current with msg := none } } : PeerFsm Io).emit (.disconnected fsm.disconnectCause)
    have clean : (told.cleanup .all).Unretried :=
      (unretried_cleanup .all).mpr (unretried.emit (.disconnected fsm.disconnectCause) nofun)
    split
    · rename_i rebooting
      rw [if_pos rebooting] at scheduled
      exact doReConnect_retrying rfl rfl clean scheduled
    · rename_i stays
      rw [if_neg stays] at scheduled
      exact absurd clean scheduled

theorem perform_retrying {action : PeerAction} (unretried : fsm.Unretried)
    (scheduled : ¬(fsm.perform config action).Unretried) : (fsm.perform config action).Retrying armed := by
  cases reconnects : action.reconnects with
  | false => exact absurd (perform_unretried unretried reconnects) scheduled
  | true =>
    cases action with
    | connNack => exact cleanup_retrying rfl unretried scheduled
    | disconnect => exact cleanup_retrying rfl unretried scheduled
    | disconnectDPA => exact actDisconnectDPA_retrying unretried scheduled
    | _ => cases reconnects

theorem serve_retrying {param : PeerEventParam Io} (running : fsm.running = true) (notified : param.AsNotified)
    (scheduled : .scheduleTimer .connRetry ∈ (fsm.serve config param).effects) :
    (fsm.serve config param).Retrying armed := by
  have unretried : (fsm.given param).Unretried := List.not_mem_nil
  rcases serve_cases config running notified with absent | ⟨row, mem, arrives, taken⟩
  · have none := (idles_forgetCurrent (fsm.given param)).unretried.mpr unretried
    rw [← absent] at none
    exact absurd scheduled none
  · have idles := idles_forgetCurrent (((fsm.given param).moved row).perform config row.action)
    rw [← taken] at idles
    have performed : ¬(((fsm.given param).moved row).perform config row.action).Unretried :=
      fun without => idles.unretried.mpr without scheduled
    have entered : ((fsm.given param).moved row).Unretried := unretried
    exact (perform_retrying entered performed).idles idles

theorem serve_stray {param : PeerEventParam Io} (running : fsm.running = true) (state : fsm.state = .closed)
    (stray : param.event.endsWait = false) :
    fsm.serve config param =
      (((fsm.given param).moved ⟨.closed, none, .closed, .cleanup⟩).cleanup .all).forgetCurrent := by
  have found : peerStateTable.findStateTableEntry fsm.state param.event =
      some (addWildcardStateTableEntry .closed .closed .cleanup) := by
    rw [state]
    cases event : param.event <;> rw [event] at stray <;> first | rfl | cases stray
  rw [serve_of_row config param running found]
  rfl

end Scheduling

end PeerFsm

namespace TimedFsm

section Outages

variable {config : PeerConfig}

structure Stranded (timed : TimedFsm Io) : Prop where
  running : timed.fsm.running = true
  state : timed.fsm.state = .closed
  unarmed : timed.armed .connRetry = false

theorem serve_stranded {timed : TimedFsm Io} {param : PeerEventParam Io} (running : timed.fsm.running = true)
    (state : timed.fsm.state = .closed) (stray : param.event.endsWait = false) :
    (timed.serve config param).Stranded := by
  let fresh := (timed.fsm.given param).moved ⟨.closed, none, .closed, .cleanup⟩
  have idles : (fresh.cleanup .all).Idles (timed.fsm.serve config param) := by
    rw [PeerFsm.serve_stray running state stray]
    exact PeerFsm.idles_forgetCurrent (fresh.cleanup .all)
  constructor
  · exact idles.running
  · exact idles.state
  · have timers := congrFun (idles.timers timed.armed) .connRetry
    exact timers.trans (fresh.cleanup_unarmed .all).connRetry

theorem run_stranded {timed : TimedFsm Io} {strays : List (PeerInput Io)} (stranded : timed.Stranded)
    (each : ∀ stray ∈ strays, stray.Strays) : (timed.run config strays).Stranded := by
  apply (stepwise_of_forall_mem each).invariant _ stranded
  intro timed stray stranded strays
  cases stray with
  | served param => exact serve_stranded stranded.running stranded.state strays
  | stopCalled cause => exact ⟨stranded.running, stranded.state, stranded.unarmed⟩

structure Awaiting (timed : TimedFsm Io) : Prop where
  running : timed.fsm.running = true
  state : timed.fsm.state = .closed
  armed : timed.armed .connRetry = true

theorem run_awaiting_iff {timed : TimedFsm Io} {strays : List (PeerInput Io)} (awaiting : timed.Awaiting)
    (each : ∀ stray ∈ strays, stray.Strays) :
    (timed.run config strays).armed .connRetry = true ↔ ∀ stray ∈ strays, stray.isServed = false := by
  induction strays generalizing timed with
  | nil => exact iff_of_true awaiting.armed (List.forall_mem_nil _)
  | cons stray strays ih =>
    obtain ⟨first, rest⟩ := List.forall_mem_cons.mp each
    rw [List.forall_mem_cons]
    cases stray with
    | served param =>
      have lost : (timed.serve config param).Stranded := serve_stranded awaiting.running awaiting.state first
      have stranded : ((timed.serve config param).run config strays).Stranded := run_stranded lost rest
      apply iff_of_false
      · intro still
        cases stranded.unarmed.symm.trans still
      · intro none
        cases none.1
    | stopCalled cause =>
      have still : (timed.take config (.stopCalled cause)).Awaiting :=
        ⟨awaiting.running, awaiting.state, awaiting.armed⟩
      exact (ih still rest).trans (and_iff_right rfl).symm

theorem serve_disconnected {timed : TimedFsm Io} {lost : PeerEventParam Io} (interval : 0 < config.reconnectInterval)
    (running : timed.fsm.running = true) (loss : transportDisconnect timed.fsm.state lost.event = true) :
    (timed.serve config lost).armed .connRetry = decide (timed.fsm.reconnectAttempt < config.reconnectMax) := by
  have found : peerStateTable.findStateTableEntry timed.fsm.state lost.event =
      some (addStateTableEntry timed.fsm.state lost.event .closed .disconnect) := by
    revert loss
    cases timed.fsm.state <;> cases lost.event <;> intro loss <;> first | rfl | cases loss
  let fresh := (timed.fsm.given lost).moved (addStateTableEntry timed.fsm.state lost.event .closed .disconnect)
  have idles : ((fresh.cleanup .all).doReConnect config).Idles (timed.fsm.serve config lost) := by
    rw [PeerFsm.serve_of_row config lost running found]
    exact (PeerFsm.idles_emit _ (.disconnected 10001) rfl).trans (PeerFsm.idles_forgetCurrent _)
  have timers := congrFun (idles.timers timed.armed) .connRetry
  exact timers.trans (fresh.doReConnect_cleaned interval)

/-- Once a retry is scheduled it stays armed as long as no other event is served
that starts nothing, and no longer. The loss of an established connection is
retried exactly when the attempts so far are fewer than the maximum. -/
theorem retry_kept_iff (config : PeerConfig) (interval : 0 < config.reconnectInterval)
    (inputs : List (PeerInput Io)) (notified : ∀ input ∈ inputs, input.AsNotified) :
    let timed := initial.run config inputs
    (∀ failing : PeerEventParam Io, failing.AsNotified →
      .scheduleTimer .connRetry ∈ (timed.serve config failing).fsm.effects →
      ∀ strays : List (PeerInput Io), (∀ stray ∈ strays, stray.Strays) →
        (((timed.serve config failing).run config strays).armed .connRetry = true ↔
          ∀ stray ∈ strays, stray.isServed = false)) ∧
    (∀ lost : PeerEventParam Io, transportDisconnect timed.fsm.state lost.event = true →
      ((timed.serve config lost).armed .connRetry = true ↔
        timed.fsm.reconnectAttempt < config.reconnectMax)) := by
  intro timed
  have running : timed.fsm.running = true := (run_kept initial_kept notified).running
  constructor
  · intro failing carried scheduled strays each
    have retrying : (timed.fsm.serve config failing).Retrying timed.armed :=
      PeerFsm.serve_retrying running carried scheduled
    have awaiting : (timed.serve config failing).Awaiting := ⟨retrying.running, retrying.state, retrying.armed⟩
    exact run_awaiting_iff awaiting each
  · intro lost loss
    rw [serve_disconnected interval running loss]
    exact decide_eq_true_iff

def sampleCEA : PeerMsg := { PeerFsm.sampleCER with request := false, resultCode := some 2001 }

def outage : List (PeerInput Nat) :=
  [.served ⟨.start, none, none⟩, .served ⟨.iRcvConnAck, none, some 7⟩, .served ⟨.iRcvCEA, some sampleCEA, none⟩]

/-- An attempt fails and is retried, the retry succeeds, and the connection is lost. -/
def secondOutage : List (PeerInput Nat) :=
  [.served ⟨.start, none, none⟩, .served ⟨.iRcvConnNack, none, none⟩, .served ⟨.connRetry, none, none⟩] ++ outage

/-- A late disconnect cancels the retry, which a call of `Stop` does not; the first loss of a connection is retried,
and the one after a retry is not. -/
theorem retry_kept_iff_failed :
    let failed := ((initial : TimedFsm Nat).run PeerFsm.sampleConfig [.served ⟨.start, none, none⟩]).serve
      PeerFsm.sampleConfig ⟨.iRcvConnNack, none, none⟩
    let lost (inputs : List (PeerInput Nat)) := (initial.run PeerFsm.sampleConfig inputs).serve
      PeerFsm.sampleConfig ⟨.iPeerDisc, none, none⟩
    (failed.run PeerFsm.sampleConfig [.stopCalled 0]).armed .connRetry = true ∧
      (failed.run PeerFsm.sampleConfig [.stopCalled 0, .served ⟨.iPeerDisc, none, none⟩]).armed .connRetry ≠ true ∧
      (lost outage).armed .connRetry = true ∧ (lost secondOutage).armed .connRetry ≠ true := by
  intro failed lost
  have kept := (retry_kept_iff PeerFsm.sampleConfig (by decide) [.served (⟨.start, none, none⟩ : PeerEventParam Nat)]
    (by decide)).1 ⟨.iRcvConnNack, none, none⟩ (by decide) (by decide +kernel)
  have first := (retry_kept_iff PeerFsm.sampleConfig (by decide) outage (by decide)).2
    ⟨.iPeerDisc, none, none⟩ (by decide +kernel)
  have second := (retry_kept_iff PeerFsm.sampleConfig (by decide) secondOutage (by decide)).2
    ⟨.iPeerDisc, none, none⟩ (by decide +kernel)
  refine ⟨(kept _ (by decide)).mpr (by decide), ?_, first.mpr (by decide +kernel), ?_⟩
  · exact (not_congr (kept _ (by decide))).mpr (by decide)
  · exact (not_congr second).mpr (by decide +kernel)

def KeepsRetry (Io : Type) (config : PeerConfig) : Prop :=
  ∀ (inputs strays : List (PeerInput Io)) (failing : PeerEventParam Io),
    (∀ input ∈ inputs ++ .served failing :: strays, input.AsNotified) →
    .scheduleTimer .connRetry ∈ ((initial.run config inputs).serve config failing).fsm.effects →
    (∀ stray ∈ strays, stray.Strays) →
    (((initial.run config inputs).serve config failing).run config strays).armed .connRetry = true

def RetriesLoss (Io : Type) (config : PeerConfig) : Prop :=
  ∀ (inputs : List (PeerInput Io)) (lost : PeerEventParam Io),
    (∀ input ∈ inputs ++ [.served lost], input.AsNotified) →
    transportDisconnect (initial.run config inputs).fsm.state lost.event = true →
    ((initial.run config inputs).serve config lost).armed .connRetry = true

/-- A late disconnect after a refused attempt cancels the retry, and the outage
after a retried attempt is not retried at all. -/
theorem retry_lost : (0 < PeerFsm.sampleConfig.reconnectInterval ∧ 1 ≤ PeerFsm.sampleConfig.reconnectMax) ∧
    ¬KeepsRetry Nat PeerFsm.sampleConfig ∧ ¬RetriesLoss Nat PeerFsm.sampleConfig := by
  refine ⟨by decide, ?_, ?_⟩
  · intro keeps
    have kept := keeps [.served ⟨.start, none, none⟩] [.served ⟨.iPeerDisc, none, none⟩]
      ⟨.iRcvConnNack, none, none⟩ (by decide) (by decide +kernel) (by decide)
    revert kept
    decide +kernel
  · intro retries
    have retried := retries secondOutage ⟨.iPeerDisc, none, none⟩ (by decide) (by decide +kernel)
    revert retried
    decide +kernel

end Outages

end TimedFsm

end OpenDiameter.Peer
