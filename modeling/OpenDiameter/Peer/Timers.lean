import OpenDiameter.Foundation.Runs
import OpenDiameter.Peer.Ownership

/-! Which timers of the peer state machine are armed in each state.

A timer that is scheduled fires again and again until it is cancelled, and its
event comes from the queue like any other. What is armed is therefore what the
events served so far have scheduled and not cancelled.
-/

set_option autoImplicit false

namespace OpenDiameter.Peer

open Foundation OpenDiameter.Framework

variable {Io : Type}

section States

def PeerState.watched : PeerState → Bool
  | .iOpen | .rOpen => true
  | _ => false

/-- The states of an attempt and of a pending disconnect. -/
def PeerState.limited : PeerState → Bool
  | .waitConnAck | .waitICEA | .waitConnAckElect | .waitReturns | .closing => true
  | _ => false

def PeerState.elects : PeerState → Bool
  | .waitConnAckElect | .waitReturns => true
  | _ => false

end States

section Inputs

/-- What happens to the machine of an entry: an event is served, or
`DiameterPeerEntry::Stop` sets the cause that it gives. -/
inductive PeerInput (Io : Type) where
  | served (param : PeerEventParam Io)
  | stopCalled (cause : UInt32)

def PeerInput.AsNotified : PeerInput Io → Prop
  | .served param => param.AsNotified
  | .stopCalled _ => True

instance : (input : PeerInput Io) → Decidable input.AsNotified
  | .served param => inferInstanceAs (Decidable param.AsNotified)
  | .stopCalled _ => .isTrue trivial

def PeerFsm.take (config : PeerConfig) (fsm : PeerFsm Io) : PeerInput Io → PeerFsm Io
  | .served param => fsm.serve config param
  | .stopCalled cause => { fsm with disconnectCause := cause }

def PeerFsm.run (config : PeerConfig) (fsm : PeerFsm Io) (inputs : List (PeerInput Io)) : PeerFsm Io :=
  inputs.foldl (take config) fsm

end Inputs

/-- What an effect does to `timerHandleMap`: the types for which it has a handle. -/
def Effect.rearm (armed : PeerEvent → Bool) : Effect Io → PeerEvent → Bool
  | .scheduleTimer event => Function.update armed event true
  | .cancelTimer event => Function.update armed event false
  | _ => armed

def Effect.idle : Effect Io → Bool
  | .scheduleTimer _ | .cancelTimer _ => false
  | _ => true

theorem foldl_rearm_of_idle {effects : List (Effect Io)} (idle : ∀ effect ∈ effects, effect.idle = true)
    (armed : PeerEvent → Bool) : effects.foldl Effect.rearm armed = armed := by
  induction effects with
  | nil => rfl
  | cons effect rest ih =>
    obtain ⟨first, later⟩ := List.forall_mem_cons.mp idle
    have untouched : effect.rearm armed = armed := by
      cases effect <;> first | rfl | cases first
    rw [List.foldl_cons, untouched]
    exact ih later

structure TimedFsm (Io : Type) where
  fsm : PeerFsm Io
  armed : PeerEvent → Bool

namespace TimedFsm

def initial : TimedFsm Io := ⟨.initial, fun _ => false⟩

def serve (config : PeerConfig) (timed : TimedFsm Io) (param : PeerEventParam Io) : TimedFsm Io where
  fsm := timed.fsm.serve config param
  armed := (timed.fsm.serve config param).effects.foldl Effect.rearm timed.armed

def take (config : PeerConfig) (timed : TimedFsm Io) : PeerInput Io → TimedFsm Io
  | .served param => timed.serve config param
  | .stopCalled cause => { timed with fsm := { timed.fsm with disconnectCause := cause } }

def run (config : PeerConfig) (timed : TimedFsm Io) (inputs : List (PeerInput Io)) : TimedFsm Io :=
  inputs.foldl (take config) timed

/-- The watchdog runs exactly in the open states, the limit exactly in the
states of an attempt and of a pending disconnect. -/
structure Disciplined (timed : TimedFsm Io) : Prop where
  watchdog : timed.armed .watchdog = timed.fsm.state.watched
  timeout : timed.armed .timeout = timed.fsm.state.limited

end TimedFsm

namespace PeerFsm

def timers (fsm : PeerFsm Io) (armed : PeerEvent → Bool) : PeerEvent → Bool :=
  fsm.effects.foldl Effect.rearm armed

section Idling

/-- `after` follows `before` in the same state and touches no timer. -/
structure Idles (before after : PeerFsm Io) : Prop where
  running : after.running = before.running
  state : after.state = before.state
  effects : ∃ added, after.effects = before.effects ++ added ∧ ∀ effect ∈ added, effect.idle = true

variable {before fsm after : PeerFsm Io} {config : PeerConfig}

theorem Idles.refl (fsm : PeerFsm Io) : fsm.Idles fsm :=
  ⟨rfl, rfl, [], (List.append_nil _).symm, List.forall_mem_nil _⟩

theorem Idles.trans (first : before.Idles fsm) (second : fsm.Idles after) : before.Idles after := by
  obtain ⟨added, effects, idle⟩ := first.effects
  obtain ⟨added', effects', idle'⟩ := second.effects
  refine ⟨second.running.trans first.running, second.state.trans first.state, added ++ added', ?_, ?_⟩
  · rw [effects', effects, List.append_assoc]
  · exact List.forall_mem_append.mpr ⟨idle, idle'⟩

theorem Idles.timers (idles : before.Idles after) (armed : PeerEvent → Bool) :
    after.timers armed = before.timers armed := by
  obtain ⟨added, effects, idle⟩ := idles.effects
  rw [PeerFsm.timers, effects, List.foldl_append]
  exact foldl_rearm_of_idle idle _

theorem Idles.of_eq (running : after.running = before.running) (state : after.state = before.state)
    (effects : after.effects = before.effects) : before.Idles after :=
  ⟨running, state, [], by rw [effects, List.append_nil], List.forall_mem_nil _⟩

theorem idles_emit (fsm : PeerFsm Io) (effect : Effect Io) (idle : effect.idle = true) :
    fsm.Idles (fsm.emit effect) :=
  ⟨rfl, rfl, [effect], rfl, List.forall_mem_singleton.mpr idle⟩

theorem idle_of_option (io : Option Io) (make : Io → Effect Io) (idle : ∀ io, (make io).idle = true) :
    ∀ effect ∈ (io.map make).toList, effect.idle = true := by
  intro effect mem
  cases io with
  | none => cases mem
  | some io =>
    rw [List.mem_singleton.mp mem]
    exact idle io

theorem idles_takeInitiator (fsm : PeerFsm Io) : fsm.Idles fsm.takeInitiator :=
  ⟨rfl, rfl, _, rfl, idle_of_option fsm.ioInitiator .destroyed fun _ => rfl⟩

theorem idles_takeResponder (fsm : PeerFsm Io) : fsm.Idles fsm.takeResponder :=
  ⟨rfl, rfl, _, rfl, idle_of_option fsm.ioResponder .destroyed fun _ => rfl⟩

theorem idles_dropInitiator (fsm : PeerFsm Io) : fsm.Idles fsm.dropInitiator :=
  ⟨rfl, rfl, _, rfl, idle_of_option fsm.ioInitiator .scheduleForDeletion fun _ => rfl⟩

theorem idles_dropResponder (fsm : PeerFsm Io) : fsm.Idles fsm.dropResponder :=
  ⟨rfl, rfl, _, rfl, idle_of_option fsm.ioResponder .scheduleForDeletion fun _ => rfl⟩

theorem idles_forgetCurrent (fsm : PeerFsm Io) : fsm.Idles fsm.forgetCurrent :=
  ⟨rfl, rfl, _, rfl, idle_of_option fsm.current.io .destroyed fun _ => rfl⟩

theorem idles_sendCER (fsm : PeerFsm Io) (config : PeerConfig) : fsm.Idles (fsm.sendCER config) := by
  have drawn : fsm.Idles (fsm.drawIds config).1 := .of_eq rfl rfl rfl
  exact (drawn.trans (idles_emit _ _ rfl)).trans (idles_emit _ _ rfl)

theorem idles_sendCEA (fsm : PeerFsm Io) (config : PeerConfig) (rcode : UInt32) (message : String) :
    fsm.Idles (fsm.sendCEA config rcode message) := by
  have answering : fsm.Idles fsm.answerIds.1 := .of_eq rfl rfl rfl
  exact (answering.trans (idles_emit _ _ rfl)).trans (idles_emit _ _ rfl)

theorem idles_sendDWR (fsm : PeerFsm Io) (config : PeerConfig) : fsm.Idles (fsm.sendDWR config) :=
  have drawn : fsm.Idles (fsm.drawIds config).1 := .of_eq rfl rfl rfl
  drawn.trans (idles_emit _ _ rfl)

theorem idles_sendDWA (fsm : PeerFsm Io) (config : PeerConfig) (rcode : UInt32) (message : String) :
    fsm.Idles (fsm.sendDWA config rcode message) :=
  have answering : fsm.Idles fsm.answerIds.1 := .of_eq rfl rfl rfl
  answering.trans (idles_emit _ _ rfl)

theorem idles_sendDPR (fsm : PeerFsm Io) (config : PeerConfig) (initiator : Bool) :
    fsm.Idles (fsm.sendDPR config initiator) :=
  have drawn : fsm.Idles (fsm.drawIds config).1 := .of_eq rfl rfl rfl
  drawn.trans (idles_emit _ _ rfl)

theorem idles_sendDPA (fsm : PeerFsm Io) (config : PeerConfig) (initiator : Bool) (rcode : UInt32) :
    fsm.Idles (fsm.sendDPA config initiator rcode) :=
  have answering : fsm.Idles fsm.answerIds.1 := .of_eq rfl rfl rfl
  answering.trans (idles_emit _ _ rfl)

/-- A message that is there is handled by a machine that has only given it up. -/
theorem withMsg_of_some {handle : PeerMsg → PeerFsm Io → PeerFsm Io} {msg : PeerMsg}
    (arrived : fsm.current.msg = some msg) :
    fsm.withMsg handle = handle msg { fsm with current := { fsm.current with msg := none } } := by
  unfold withMsg
  rw [arrived]

end Idling

section Discipline

variable {config : PeerConfig} {fsm after : PeerFsm Io} {armed : PeerEvent → Bool}

structure Clocked (armed : PeerEvent → Bool) (fsm : PeerFsm Io) : Prop where
  running : fsm.running = true
  watchdog : fsm.timers armed .watchdog = fsm.state.watched
  timeout : fsm.timers armed .timeout = fsm.state.limited

theorem Clocked.idles (clocked : fsm.Clocked armed) (idles : fsm.Idles after) : after.Clocked armed := by
  constructor
  · rw [idles.running]
    exact clocked.running
  · rw [idles.timers, idles.state]
    exact clocked.watchdog
  · rw [idles.timers, idles.state]
    exact clocked.timeout

theorem timers_emit (effect : Effect Io) : (fsm.emit effect).timers armed = effect.rearm (fsm.timers armed) := by
  simp only [timers, emit, List.foldl_append, List.foldl_cons, List.foldl_nil]

theorem timers_scheduleTimer (event : PeerEvent) :
    (fsm.scheduleTimer event).timers armed = Function.update (fsm.timers armed) event true := by
  rw [scheduleTimer, timers_emit, timers_emit]
  exact Function.update_idem _ _ _

theorem timers_cancelTimer (event : PeerEvent) :
    (fsm.cancelTimer event).timers armed = Function.update (fsm.timers armed) event false :=
  timers_emit _

/-- The three timers of the machine, none of them armed. -/
structure Unarmed (armed : PeerEvent → Bool) : Prop where
  connRetry : armed .connRetry = false
  timeout : armed .timeout = false
  watchdog : armed .watchdog = false

theorem effects_cleanup (flags : CleanupFlags) : ∃ added, (fsm.cleanup flags).effects =
    fsm.effects ++ [.cancelTimer .connRetry, .cancelTimer .timeout, .cancelTimer .watchdog] ++ added ∧
      ∀ effect ∈ added, effect.idle = true := by
  let responder := if flags.ioR then (fsm.ioResponder.map Effect.scheduleForDeletion).toList else []
  let initiator := if flags.ioI then (fsm.ioInitiator.map Effect.scheduleForDeletion).toList else []
  let own := if flags.fsm then (fsm.current.io.map Effect.scheduleForDeletion).toList else []
  refine ⟨responder ++ initiator ++ own, ?_, ?_⟩
  · obtain ⟨ioI, ioR, machine⟩ := flags
    cases ioI <;> cases ioR <;> cases machine <;>
      simp [cleanup, responder, initiator, own, stopReConnect, cancelTimer, emit, dropResponder,
        dropInitiator, dropCurrent]
  · have idle : ∀ (flag : Bool) (io : Option Io),
        ∀ effect ∈ (if flag then (io.map Effect.scheduleForDeletion).toList else []), effect.idle = true := by
      intro flag io
      cases flag
      · exact List.forall_mem_nil _
      · exact idle_of_option io .scheduleForDeletion fun _ => rfl
    simp only [List.forall_mem_append]
    exact ⟨⟨idle _ _, idle _ _⟩, idle _ _⟩

/-- Whatever else is cleaned up, the three timers are cancelled. -/
theorem cleanup_unarmed (flags : CleanupFlags) : Unarmed ((fsm.cleanup flags).timers armed) := by
  obtain ⟨added, effects, idle⟩ := fsm.effects_cleanup flags
  have timers : (fsm.cleanup flags).timers armed =
      Function.update (Function.update (Function.update (fsm.timers armed) .connRetry false) .timeout false)
        .watchdog false := by
    rw [PeerFsm.timers, effects, List.foldl_append, List.foldl_append, foldl_rearm_of_idle idle]
    rfl
  rw [timers]
  exact ⟨rfl, rfl, rfl⟩

theorem state_cleanup (flags : CleanupFlags) (machine : flags.fsm = true) :
    (fsm.cleanup flags).state = .closed := by
  unfold cleanup
  rw [machine]
  rfl

theorem cleanup_clocked (flags : CleanupFlags) (machine : flags.fsm = true) :
    (fsm.cleanup flags).Clocked armed := by
  have unarmed : Unarmed ((fsm.cleanup flags).timers armed) := fsm.cleanup_unarmed flags
  constructor
  · unfold cleanup
    rw [machine]
    rfl
  · rw [state_cleanup flags machine]
    exact unarmed.watchdog
  · rw [state_cleanup flags machine]
    exact unarmed.timeout

theorem Clocked.rearm (clocked : fsm.Clocked armed) (effect : Effect Io) {event : PeerEvent}
    (touched : effect = .scheduleTimer event ∨ effect = .cancelTimer event)
    (notWatchdog : event ≠ .watchdog) (notTimeout : event ≠ .timeout) : (fsm.emit effect).Clocked armed := by
  constructor
  · exact clocked.running
  · rw [timers_emit]
    rcases touched with rfl | rfl <;>
      exact (Function.update_of_ne notWatchdog.symm _ _).trans clocked.watchdog
  · rw [timers_emit]
    rcases touched with rfl | rfl <;>
      exact (Function.update_of_ne notTimeout.symm _ _).trans clocked.timeout

theorem Clocked.stopReConnect (clocked : fsm.Clocked armed) : fsm.stopReConnect.Clocked armed :=
  clocked.rearm _ (Or.inr rfl) nofun nofun

theorem Clocked.emit (clocked : fsm.Clocked armed) (effect : Effect Io) (idle : effect.idle = true) :
    (fsm.emit effect).Clocked armed :=
  clocked.idles (idles_emit fsm effect idle)

theorem Clocked.doReConnect (clocked : fsm.Clocked armed) : (fsm.doReConnect config).Clocked armed := by
  unfold PeerFsm.doReConnect
  split
  · split
    · have counted : ({ fsm with reconnectAttempt := fsm.reconnectAttempt + 1 } : PeerFsm Io).Clocked armed :=
        clocked.idles (.of_eq rfl rfl rfl)
      exact (counted.rearm (.cancelTimer .connRetry) (Or.inr rfl) nofun nofun).rearm
        (.scheduleTimer .connRetry) (Or.inl rfl) nofun nofun
    · exact clocked
  · exact clocked.idles (.of_eq rfl rfl rfl)

theorem watch_clocked (running : fsm.running = true) (opened : fsm.state.watched = true) :
    fsm.watch.Clocked armed := by
  have unlimited : fsm.state.limited = false := by
    cases state : fsm.state <;> rw [state] at opened <;> first | rfl | cases opened
  have timers : fsm.watch.timers armed =
      Function.update (Function.update (fsm.timers armed) .timeout false) .watchdog true := by
    rw [watch, timers_scheduleTimer, timers_cancelTimer]
  constructor
  · exact running
  · rw [timers]
    exact opened.symm
  · rw [timers]
    exact unlimited.symm

end Discipline

section Actions

variable {config : PeerConfig} {fsm : PeerFsm Io} {armed : PeerEvent → Bool}

theorem withMsg_clocked {handle : PeerMsg → PeerFsm Io → PeerFsm Io} (present : fsm.current.msg.isSome)
    (each : ∀ msg after, fsm.Idles after → (handle msg after).Clocked armed) :
    (fsm.withMsg handle).Clocked armed := by
  obtain ⟨msg, arrived⟩ := Option.isSome_iff_exists.mp present
  rw [withMsg_of_some arrived]
  exact each msg _ (.of_eq rfl rfl rfl)

/-- An action that handles its message without touching a timer. -/
theorem withMsg_idles {handle : PeerMsg → PeerFsm Io → PeerFsm Io} (present : fsm.current.msg.isSome)
    (each : ∀ msg after, (after : PeerFsm Io).Idles (handle msg after)) : fsm.Idles (fsm.withMsg handle) := by
  obtain ⟨msg, arrived⟩ := Option.isSome_iff_exists.mp present
  rw [withMsg_of_some arrived]
  have taken : fsm.Idles { fsm with current := { fsm.current with msg := none } } := .of_eq rfl rfl rfl
  exact taken.trans (each msg _)

theorem actISendConnReq_clocked (running : fsm.running = true) (unwatched : fsm.timers armed .watchdog = false)
    (state : fsm.state = .waitConnAck) : fsm.actISendConnReq.Clocked armed := by
  have timers : (fsm.scheduleTimer .timeout).timers armed = Function.update (fsm.timers armed) .timeout true :=
    timers_scheduleTimer .timeout
  constructor
  · exact running
  · rw [actISendConnReq, timers]
    exact unwatched.trans (congrArg PeerState.watched state).symm
  · rw [actISendConnReq, timers]
    exact (congrArg PeerState.limited state).symm

theorem actRAcceptSendCEA_clocked (running : fsm.running = true) (state : fsm.state = .rOpen) (msg : fsm.current.msg.isSome) :
    (fsm.actRAcceptSendCEA config).Clocked armed := by
  apply withMsg_clocked (show fsm.takeResponder.current.msg.isSome from msg)
  intro cer after idles
  have opened : after.state = .rOpen := idles.state.trans state
  dsimp only
  split
  · exact cleanup_clocked .all rfl
  · apply Clocked.emit _ _ rfl
    apply Clocked.stopReConnect
    exact watch_clocked (idles.running.trans running) (congrArg PeerState.watched opened)

theorem actConnNack_clocked : (fsm.actConnNack config).Clocked armed :=
  (cleanup_clocked .all rfl).doReConnect.emit _ rfl

theorem actReConnect_clocked (clocked : fsm.Clocked armed) : fsm.actReConnect.Clocked armed :=
  (clocked.stopReConnect.emit _ rfl).emit _ rfl

theorem actRAccept_clocked (clocked : fsm.Clocked armed) (msg : fsm.current.msg.isSome) :
    (fsm.actRAccept config).Clocked armed := by
  apply withMsg_clocked (show fsm.takeResponder.current.msg.isSome from msg)
  intro cer after idles
  dsimp only
  split
  · exact cleanup_clocked .all rfl
  · exact clocked.idles ((fsm.idles_takeResponder.trans idles).trans (.of_eq rfl rfl rfl))

theorem actError_clocked : fsm.actError.Clocked armed := (cleanup_clocked .all rfl).emit _ rfl

theorem actProcessCEA_clocked (running : fsm.running = true) (opened : fsm.state.watched = true) (msg : fsm.current.msg.isSome) :
    fsm.actProcessCEA.Clocked armed := by
  apply withMsg_clocked msg
  intro cea after idles
  rw [← idles.running] at running
  rw [← idles.state] at opened
  split
  · have watched : (after.disassemble cea).stopReConnect.watch.Clocked armed := watch_clocked running opened
    exact watched.emit _ rfl
  · exact cleanup_clocked .all rfl

theorem elect_clocked (clocked : fsm.Clocked armed) : (fsm.elect config).Clocked armed := by
  unfold elect
  split
  · exact cleanup_clocked .all rfl
  · exact clocked.emit _ rfl
  · exact clocked

theorem actRAcceptElect_clocked (clocked : fsm.Clocked armed) (msg : fsm.current.msg.isSome) :
    (fsm.actRAcceptElect config).Clocked armed := by
  apply withMsg_clocked (show fsm.takeResponder.current.msg.isSome from msg)
  intro cer after idles
  dsimp only
  split
  · exact cleanup_clocked _ rfl
  · apply elect_clocked
    exact clocked.idles ((fsm.idles_takeResponder.trans idles).trans (.of_eq rfl rfl rfl))

theorem actDisconnect_clocked : (fsm.actDisconnect config).Clocked armed :=
  (cleanup_clocked .all rfl).doReConnect.emit _ rfl

theorem actDisconnectDPA_clocked (msg : fsm.current.msg.isSome) : (fsm.actDisconnectDPA config).Clocked armed := by
  apply withMsg_clocked msg
  intro dpa after _
  dsimp only
  split
  · exact (cleanup_clocked .all rfl).doReConnect
  · exact cleanup_clocked .all rfl

theorem actISendCERElect_clocked (clocked : fsm.Clocked armed) : (fsm.actISendCERElect config).Clocked armed :=
  elect_clocked (clocked.idles (fsm.idles_takeInitiator.trans (idles_sendCER _ config)))

theorem actRSendCEA_clocked (running : fsm.running = true) (opened : fsm.state.watched = true) : (fsm.actRSendCEA config).Clocked armed := by
  apply Clocked.emit _ _ rfl
  exact watch_clocked running opened

theorem idles_actRSendCEAOpen (msg : fsm.current.msg.isSome) : fsm.Idles (fsm.actRSendCEAOpen config) := by
  apply withMsg_idles msg
  intro cer after
  have known : after.Idles (after.disassemble cer) := .of_eq rfl rfl rfl
  exact known.trans (idles_sendCEA _ config _ _)

theorem actRDisconnectIOpen_clocked (running : fsm.running = true) (opened : fsm.state.watched = true) (msg : fsm.current.msg.isSome) :
    fsm.actRDisconnectIOpen.Clocked armed := by
  apply withMsg_clocked msg
  intro cea after idles
  rw [← idles.running] at running
  rw [← idles.state] at opened
  split
  · apply Clocked.emit _ _ rfl
    have watched : (after.disassemble cea).watch.Clocked armed := watch_clocked running opened
    exact watched.idles (idles_dropResponder _)
  · exact cleanup_clocked .all rfl

theorem actIDisconnectSendCEA_clocked (running : fsm.running = true) (opened : fsm.state.watched = true) :
    (fsm.actIDisconnectSendCEA config).Clocked armed := by
  apply Clocked.emit _ _ rfl
  exact watch_clocked running opened

theorem actProcessDWA_clocked (clocked : fsm.Clocked armed) (msg : fsm.current.msg.isSome) :
    fsm.actProcessDWA.Clocked armed := by
  apply withMsg_clocked msg
  intro dwa after idles
  split
  · exact clocked.idles idles
  · exact cleanup_clocked .all rfl

theorem actSendDPR_clocked (running : fsm.running = true) (state : fsm.state = .closing) (initiator : Bool) :
    (fsm.actSendDPR config initiator).Clocked armed := by
  have timers : ((fsm.cancelTimer .watchdog).scheduleTimer .timeout).timers armed =
      Function.update (Function.update (fsm.timers armed) .watchdog false) .timeout true := by
    rw [timers_scheduleTimer, timers_cancelTimer]
  have limited : ((fsm.cancelTimer .watchdog).scheduleTimer .timeout).Clocked armed := by
    constructor
    · exact running
    · rw [timers]
      exact (congrArg PeerState.watched state).symm
    · rw [timers]
      exact (congrArg PeerState.limited state).symm
  exact limited.idles (idles_sendDPR _ config initiator)

theorem actSendDPADisconnect_clocked (initiator : Bool) (msg : fsm.current.msg.isSome) :
    (fsm.actSendDPADisconnect config initiator).Clocked armed := by
  apply withMsg_clocked msg
  intro dpr after _
  exact (cleanup_clocked .all rfl).emit _ rfl

end Actions

section Rows

variable {config : PeerConfig} {fsm : PeerFsm Io} {row : PeerRow} {armed : PeerEvent → Bool}

/-- A machine about to take a row of the table for the event it is given. -/
structure Arrives (fsm : PeerFsm Io) (row : PeerRow) : Prop where
  state : row.prevState = fsm.state
  event : ∀ ev, row.event = some ev → ev = fsm.current.event
  notified : fsm.current.AsNotified

theorem Arrives.msg (arrives : fsm.Arrives row) {ev : PeerEvent} (named : row.event = some ev)
    (carries : ev.carriesMsg = true) : (fsm.moved row).current.msg.isSome := by
  have carried : fsm.current.msg.isSome = ev.carriesMsg := by
    rw [arrives.notified.1, ← arrives.event ev named]
  exact carried.trans carries

theorem moved_clocked (clocked : fsm.Clocked armed) (arrives : fsm.Arrives row)
    (watched : row.nextState.watched = row.prevState.watched)
    (limited : row.nextState.limited = row.prevState.limited) : (fsm.moved row).Clocked armed := by
  rw [arrives.state] at watched limited
  exact ⟨clocked.running, clocked.watchdog.trans watched.symm, clocked.timeout.trans limited.symm⟩

def RowClocked (Io : Type) (config : PeerConfig) (row : PeerRow) : Prop :=
  ∀ (fsm : PeerFsm Io) (armed : PeerEvent → Bool), fsm.Clocked armed → fsm.Arrives row →
    ((fsm.moved row).perform config row.action).Clocked armed

theorem closedRows_clocked (config : PeerConfig) : ∀ row ∈ closedRows, RowClocked Io config row := by
  simp only [closedRows, addStateTableEntry, addWildcardStateTableEntry, List.forall_mem_cons]
  refine ⟨?_, ?_, ?_, ?_, List.forall_mem_nil _⟩
  · intro fsm armed clocked arrives
    have unwatched : fsm.timers armed .watchdog = false :=
      clocked.watchdog.trans (congrArg PeerState.watched arrives.state).symm
    exact actISendConnReq_clocked clocked.running unwatched rfl
  · intro fsm armed clocked arrives
    exact actRAcceptSendCEA_clocked clocked.running rfl (arrives.msg rfl rfl)
  · intro fsm armed clocked arrives
    exact actReConnect_clocked (moved_clocked clocked arrives rfl rfl)
  · intro fsm armed _ _
    exact cleanup_clocked .all rfl

theorem waitConnAckRows_clocked (config : PeerConfig) :
    ∀ row ∈ waitConnAckRows, RowClocked Io config row := by
  simp only [waitConnAckRows, addStateTableEntry, List.forall_mem_cons]
  refine ⟨?_, ?_, ?_, ?_, ?_, List.forall_mem_nil _⟩
  · intro fsm armed clocked arrives
    have entered := moved_clocked clocked arrives rfl rfl
    exact entered.idles ((idles_takeInitiator _).trans (idles_sendCER _ config))
  · intro fsm armed _ _
    exact actConnNack_clocked
  · intro fsm armed clocked arrives
    exact actRAccept_clocked (moved_clocked clocked arrives rfl rfl) (arrives.msg rfl rfl)
  · intro fsm armed _ _
    exact actError_clocked
  · intro fsm armed _ _
    exact actError_clocked

theorem waitICEARows_clocked (config : PeerConfig) : ∀ row ∈ waitICEARows, RowClocked Io config row := by
  simp only [waitICEARows, addStateTableEntry, List.forall_mem_cons]
  refine ⟨?_, ?_, ?_, ?_, ?_, ?_, List.forall_mem_nil _⟩
  · intro fsm armed clocked arrives
    exact actProcessCEA_clocked clocked.running rfl (arrives.msg rfl rfl)
  · intro fsm armed clocked arrives
    exact actRAcceptElect_clocked (moved_clocked clocked arrives rfl rfl) (arrives.msg rfl rfl)
  · intro fsm armed _ _
    exact actDisconnect_clocked
  all_goals
    intro fsm armed _ _
    exact actError_clocked

theorem waitConnAckElectRows_clocked (config : PeerConfig) :
    ∀ row ∈ waitConnAckElectRows, RowClocked Io config row := by
  simp only [waitConnAckElectRows, addStateTableEntry, List.forall_mem_cons]
  refine ⟨?_, ?_, ?_, ?_, ?_, List.forall_mem_nil _⟩
  · intro fsm armed clocked arrives
    exact actISendCERElect_clocked (moved_clocked clocked arrives rfl rfl)
  · intro fsm armed clocked _
    exact actRSendCEA_clocked clocked.running rfl
  · intro fsm armed clocked arrives
    exact (moved_clocked clocked arrives rfl rfl).idles (idles_dropResponder _)
  · intro fsm armed clocked arrives
    exact (moved_clocked clocked arrives rfl rfl).idles (idles_forgetCurrent _)
  · intro fsm armed _ _
    exact actError_clocked

theorem waitReturnsRows_clocked (config : PeerConfig) :
    ∀ row ∈ waitReturnsRows, RowClocked Io config row := by
  simp only [waitReturnsRows, addStateTableEntry, List.forall_mem_cons]
  refine ⟨?_, ?_, ?_, ?_, ?_, ?_, List.forall_mem_nil _⟩
  · intro fsm armed clocked _
    exact actIDisconnectSendCEA_clocked clocked.running rfl
  · intro fsm armed clocked _
    exact actIDisconnectSendCEA_clocked clocked.running rfl
  · intro fsm armed clocked arrives
    exact actRDisconnectIOpen_clocked clocked.running rfl (arrives.msg rfl rfl)
  · intro fsm armed clocked arrives
    exact (moved_clocked clocked arrives rfl rfl).idles (idles_dropResponder _)
  · intro fsm armed clocked arrives
    exact (moved_clocked clocked arrives rfl rfl).idles (idles_forgetCurrent _)
  · intro fsm armed _ _
    exact actError_clocked

theorem rOpenRows_clocked (config : PeerConfig) : ∀ row ∈ rOpenRows, RowClocked Io config row := by
  simp only [rOpenRows, addStateTableEntry, List.forall_mem_cons]
  refine ⟨?_, ?_, ?_, ?_, ?_, ?_, ?_, ?_, ?_, ?_, ?_, List.forall_mem_nil _⟩
  · intro fsm armed clocked arrives
    exact moved_clocked clocked arrives rfl rfl
  · intro fsm armed clocked arrives
    apply (moved_clocked clocked arrives rfl rfl).idles
    exact withMsg_idles (arrives.msg rfl rfl) fun _ _ => idles_emit _ _ rfl
  · intro fsm armed clocked arrives
    apply (moved_clocked clocked arrives rfl rfl).idles
    exact withMsg_idles (arrives.msg rfl rfl) fun _ _ => idles_sendDWA _ config _ _
  · intro fsm armed clocked arrives
    exact actProcessDWA_clocked (moved_clocked clocked arrives rfl rfl) (arrives.msg rfl rfl)
  · intro fsm armed clocked arrives
    exact (moved_clocked clocked arrives rfl rfl).idles (idles_forgetCurrent _)
  · intro fsm armed clocked _
    apply actSendDPR_clocked _ rfl false
    exact clocked.running
  · intro fsm armed _ arrives
    exact actSendDPADisconnect_clocked false (arrives.msg rfl rfl)
  · intro fsm armed _ _
    exact actDisconnect_clocked
  · intro fsm armed clocked arrives
    exact (moved_clocked clocked arrives rfl rfl).idles (idles_actRSendCEAOpen (arrives.msg rfl rfl))
  · intro fsm armed clocked arrives
    exact actProcessCEA_clocked clocked.running rfl (arrives.msg rfl rfl)
  · intro fsm armed clocked arrives
    exact (moved_clocked clocked arrives rfl rfl).idles (idles_sendDWR _ config)

theorem iOpenRows_clocked (config : PeerConfig) : ∀ row ∈ iOpenRows, RowClocked Io config row := by
  simp only [iOpenRows, addStateTableEntry, List.forall_mem_cons]
  refine ⟨?_, ?_, ?_, ?_, ?_, ?_, ?_, ?_, ?_, ?_, ?_, List.forall_mem_nil _⟩
  · intro fsm armed clocked arrives
    exact moved_clocked clocked arrives rfl rfl
  · intro fsm armed clocked arrives
    apply (moved_clocked clocked arrives rfl rfl).idles
    exact withMsg_idles (arrives.msg rfl rfl) fun _ _ => idles_emit _ _ rfl
  · intro fsm armed clocked arrives
    apply (moved_clocked clocked arrives rfl rfl).idles
    exact withMsg_idles (arrives.msg rfl rfl) fun _ _ => idles_sendDWA _ config _ _
  · intro fsm armed clocked arrives
    exact actProcessDWA_clocked (moved_clocked clocked arrives rfl rfl) (arrives.msg rfl rfl)
  · intro fsm armed clocked arrives
    exact (moved_clocked clocked arrives rfl rfl).idles (idles_forgetCurrent _)
  · intro fsm armed clocked _
    apply actSendDPR_clocked _ rfl true
    exact clocked.running
  · intro fsm armed _ arrives
    exact actSendDPADisconnect_clocked true (arrives.msg rfl rfl)
  · intro fsm armed _ _
    exact actDisconnect_clocked
  · intro fsm armed clocked arrives
    exact (moved_clocked clocked arrives rfl rfl).idles (idles_actRSendCEAOpen (arrives.msg rfl rfl))
  · intro fsm armed clocked arrives
    exact actProcessCEA_clocked clocked.running rfl (arrives.msg rfl rfl)
  · intro fsm armed clocked arrives
    exact (moved_clocked clocked arrives rfl rfl).idles (idles_sendDWR _ config)

theorem closingRows_clocked (config : PeerConfig) : ∀ row ∈ closingRows, RowClocked Io config row := by
  simp only [closingRows, addStateTableEntry, addWildcardStateTableEntry, List.forall_mem_cons]
  refine ⟨?_, ?_, ?_, ?_, ?_, ?_, List.forall_mem_nil _⟩
  · intro fsm armed _ arrives
    exact actDisconnectDPA_clocked (arrives.msg rfl rfl)
  · intro fsm armed _ arrives
    exact actDisconnectDPA_clocked (arrives.msg rfl rfl)
  · intro fsm armed _ _
    exact actError_clocked
  · intro fsm armed _ _
    exact actDisconnect_clocked
  · intro fsm armed _ _
    exact actDisconnect_clocked
  · intro fsm armed clocked arrives
    exact moved_clocked clocked arrives rfl rfl

theorem row_clocked (config : PeerConfig) : ∀ row ∈ peerStateTable, RowClocked Io config row := by
  simp only [peerStateTable, List.forall_mem_append]
  exact ⟨⟨⟨⟨⟨⟨⟨closedRows_clocked config, waitConnAckRows_clocked config⟩, waitICEARows_clocked config⟩,
    waitConnAckElectRows_clocked config⟩, waitReturnsRows_clocked config⟩, rOpenRows_clocked config⟩,
    iOpenRows_clocked config⟩, closingRows_clocked config⟩

end Rows

section Limits

variable {config : PeerConfig} {fsm : PeerFsm Io} {row : PeerRow}

def Lapses (before after : PeerFsm Io) : Prop := after.state.limited = false ∨ before.Idles after

theorem lapses_cleanup (before : PeerFsm Io) (flags : CleanupFlags) (machine : flags.fsm = true) :
    before.Lapses (fsm.cleanup flags) :=
  Or.inl (congrArg PeerState.limited (state_cleanup flags machine))

theorem lapses_actError (before : PeerFsm Io) : before.Lapses fsm.actError := Or.inl rfl

theorem state_doReConnect : (fsm.doReConnect config).state = fsm.state := by
  unfold doReConnect
  split
  · split <;> rfl
  · rfl

/-- A failed attempt and a lost connection close the machine before a retry is scheduled. -/
theorem lapses_doReConnect (before : PeerFsm Io) (effect : Effect Io) :
    before.Lapses (((fsm.cleanup .all).doReConnect config).emit effect) :=
  Or.inl (congrArg PeerState.limited state_doReConnect)

theorem withMsg_lapses {handle : PeerMsg → PeerFsm Io → PeerFsm Io} (present : fsm.current.msg.isSome)
    (each : ∀ msg after, fsm.Idles after → after.state = fsm.state → fsm.Lapses (handle msg after)) :
    fsm.Lapses (fsm.withMsg handle) := by
  obtain ⟨msg, arrived⟩ := Option.isSome_iff_exists.mp present
  rw [withMsg_of_some arrived]
  exact each msg _ (.of_eq rfl rfl rfl) rfl

theorem Lapses.idles {before middle after : PeerFsm Io} (lapses : before.Lapses middle)
    (idles : middle.Idles after) : before.Lapses after := by
  apply lapses.imp
  · intro unlimited
    rw [idles.state]
    exact unlimited
  · intro first
    exact first.trans idles

theorem Idles.lapses {before middle after : PeerFsm Io} (idles : before.Idles middle)
    (lapses : middle.Lapses after) : before.Lapses after :=
  lapses.imp_right idles.trans

theorem lapses_elect (fsm : PeerFsm Io) (config : PeerConfig) : fsm.Lapses (fsm.elect config) := by
  unfold elect
  split
  · exact lapses_cleanup fsm .all rfl
  · exact Or.inr (idles_emit _ _ rfl)
  · exact Or.inr (.refl fsm)

theorem lapses_actRAccept (msg : fsm.current.msg.isSome) : fsm.Lapses (fsm.actRAccept config) := by
  apply (idles_takeResponder fsm).lapses
  apply withMsg_lapses (show fsm.takeResponder.current.msg.isSome from msg)
  intro cer after idles _
  dsimp only
  split
  · exact lapses_cleanup _ .all rfl
  · exact Or.inr (idles.trans (.of_eq rfl rfl rfl))

theorem lapses_actRAcceptElect (msg : fsm.current.msg.isSome) : fsm.Lapses (fsm.actRAcceptElect config) := by
  apply (idles_takeResponder fsm).lapses
  apply withMsg_lapses (show fsm.takeResponder.current.msg.isSome from msg)
  intro cer after idles _
  dsimp only
  split
  · exact lapses_cleanup _ _ rfl
  · have known : after.Idles (after.disassemble cer) := .of_eq rfl rfl rfl
    exact (idles.trans known).lapses (lapses_elect _ config)

theorem lapses_actDisconnectDPA (msg : fsm.current.msg.isSome) :
    fsm.Lapses (fsm.actDisconnectDPA config) := by
  apply withMsg_lapses msg
  intro dpa after _ _
  dsimp only
  split
  · exact Or.inl (congrArg PeerState.limited state_doReConnect)
  · exact lapses_cleanup _ .all rfl

def RowLapses (Io : Type) (config : PeerConfig) (row : PeerRow) : Prop :=
  ∀ fsm : PeerFsm Io, fsm.Arrives row → row.prevState.limited = true →
    (fsm.moved row).Lapses ((fsm.moved row).perform config row.action)

theorem attemptRows_lapse (config : PeerConfig) :
    ∀ row ∈ waitConnAckRows ++ waitICEARows, RowLapses Io config row := by
  simp only [waitConnAckRows, waitICEARows, addStateTableEntry, List.cons_append, List.nil_append,
    List.forall_mem_cons]
  refine ⟨?_, ?_, ?_, ?_, ?_, ?_, ?_, ?_, ?_, ?_, ?_, List.forall_mem_nil _⟩
  · intro fsm _ _
    exact Or.inr ((idles_takeInitiator _).trans (idles_sendCER _ config))
  · intro fsm _ _
    exact lapses_doReConnect _ _
  · intro fsm arrives _
    exact lapses_actRAccept (arrives.msg rfl rfl)
  · intro fsm _ _
    exact lapses_actError _
  · intro fsm _ _
    exact lapses_actError _
  · intro fsm arrives _
    -- an answer either opens the connection or closes the machine
    apply withMsg_lapses (arrives.msg rfl rfl)
    intro cea after _ state
    split
    · exact Or.inl (congrArg PeerState.limited state)
    · exact lapses_cleanup _ .all rfl
  · intro fsm arrives _
    exact lapses_actRAcceptElect (arrives.msg rfl rfl)
  · intro fsm _ _
    exact lapses_doReConnect _ _
  all_goals
    intro fsm _ _
    exact lapses_actError _

theorem electionRows_lapse (config : PeerConfig) :
    ∀ row ∈ waitConnAckElectRows ++ waitReturnsRows, RowLapses Io config row := by
  simp only [waitConnAckElectRows, waitReturnsRows, addStateTableEntry, List.cons_append, List.nil_append,
    List.forall_mem_cons]
  refine ⟨?_, ?_, ?_, ?_, ?_, ?_, ?_, ?_, ?_, ?_, ?_, List.forall_mem_nil _⟩
  · intro fsm _ _
    exact ((idles_takeInitiator _).trans (idles_sendCER _ config)).lapses (lapses_elect _ config)
  · intro fsm _ _
    exact Or.inl rfl
  · intro fsm _ _
    exact Or.inr (idles_dropResponder _)
  · intro fsm _ _
    exact Or.inr (idles_forgetCurrent _)
  · intro fsm _ _
    exact lapses_actError _
  · intro fsm _ _
    exact Or.inl rfl
  · intro fsm _ _
    exact Or.inl rfl
  · intro fsm arrives _
    apply withMsg_lapses (arrives.msg rfl rfl)
    intro cea after _ state
    split
    · exact Or.inl (congrArg PeerState.limited state)
    · exact lapses_cleanup _ .all rfl
  · intro fsm _ _
    exact Or.inr (idles_dropResponder _)
  · intro fsm _ _
    exact Or.inr (idles_forgetCurrent _)
  · intro fsm _ _
    exact lapses_actError _

theorem closingRows_lapse (config : PeerConfig) : ∀ row ∈ closingRows, RowLapses Io config row := by
  simp only [closingRows, addStateTableEntry, addWildcardStateTableEntry, List.forall_mem_cons]
  refine ⟨?_, ?_, ?_, ?_, ?_, ?_, List.forall_mem_nil _⟩
  · intro fsm arrives _
    exact lapses_actDisconnectDPA (arrives.msg rfl rfl)
  · intro fsm arrives _
    exact lapses_actDisconnectDPA (arrives.msg rfl rfl)
  · intro fsm _ _
    exact lapses_actError _
  · intro fsm _ _
    exact lapses_doReConnect _ _
  · intro fsm _ _
    exact lapses_doReConnect _ _
  · intro fsm _ _
    exact Or.inr (.refl _)

theorem unlimitedRows (config : PeerConfig) :
    ∀ row ∈ closedRows ++ rOpenRows ++ iOpenRows, RowLapses Io config row := by
  have unlimited : ∀ row ∈ closedRows ++ rOpenRows ++ iOpenRows, row.prevState.limited = false := by
    decide
  intro row mem fsm _ limited
  rw [unlimited row mem] at limited
  cases limited

theorem row_lapses (config : PeerConfig) : ∀ row ∈ peerStateTable, RowLapses Io config row := by
  have attempt : ∀ row ∈ _, RowLapses Io config row := attemptRows_lapse config
  have election : ∀ row ∈ _, RowLapses Io config row := electionRows_lapse config
  have others : ∀ row ∈ _, RowLapses Io config row := unlimitedRows config
  simp only [List.forall_mem_append] at attempt election others
  simp only [peerStateTable, List.forall_mem_append]
  exact ⟨⟨⟨⟨⟨⟨⟨others.1.1, attempt.1⟩, attempt.2⟩, election.1⟩, election.2⟩, others.1.2⟩, others.2⟩,
    closingRows_lapse config⟩

end Limits

section Serving

variable {config : PeerConfig} {fsm : PeerFsm Io} {param : PeerEventParam Io} {armed : PeerEvent → Bool}

def given (fsm : PeerFsm Io) (param : PeerEventParam Io) : PeerFsm Io :=
  { fsm with current := param, effects := [] }

theorem serve_of_row (config : PeerConfig) (param : PeerEventParam Io) {row : PeerRow} (running : fsm.running = true)
    (found : peerStateTable.findStateTableEntry fsm.state param.event = some row) :
    fsm.serve config param = (((fsm.given param).moved row).perform config row.action).forgetCurrent :=
  serve_of_found running found

theorem serve_of_no_row (config : PeerConfig) (param : PeerEventParam Io) (running : fsm.running = true)
    (absent : peerStateTable.findStateTableEntry fsm.state param.event = none) :
    fsm.serve config param = (fsm.given param).forgetCurrent :=
  serve_of_absent running absent

theorem serve_cases (config : PeerConfig) (running : fsm.running = true) (notified : param.AsNotified) :
    fsm.serve config param = (fsm.given param).forgetCurrent ∨
      ∃ row ∈ peerStateTable, (fsm.given param).Arrives row ∧
        fsm.serve config param = (((fsm.given param).moved row).perform config row.action).forgetCurrent := by
  cases found : peerStateTable.findStateTableEntry fsm.state param.event with
  | none => exact Or.inl (serve_of_no_row config param running found)
  | some row =>
    obtain ⟨mem, state, named⟩ := StateTable.findStateTableEntry_mem found
    refine Or.inr ⟨row, mem, ⟨state, ?_, notified⟩, serve_of_row config param running found⟩
    intro ev event
    rcases named with wildcard | named
    · rw [wildcard] at event
      cases event
    · rw [named] at event
      cases event
      rfl

theorem serve_clocked (disciplined : TimedFsm.Disciplined ⟨fsm, armed⟩) (running : fsm.running = true)
    (notified : param.AsNotified) : (fsm.serve config param).Clocked armed := by
  have given : (fsm.given param).Clocked armed := ⟨running, disciplined.watchdog, disciplined.timeout⟩
  rcases serve_cases config running notified with absent | ⟨row, mem, arrives, taken⟩
  · rw [absent]
    exact given.idles (idles_forgetCurrent _)
  · rw [taken]
    exact (row_clocked config row mem _ armed given arrives).idles (idles_forgetCurrent _)

theorem serve_idle (running : fsm.running = true) (notified : param.AsNotified)
    (before : fsm.state.limited = true) (after : (fsm.serve config param).state.limited = true) :
    ∀ effect ∈ (fsm.serve config param).effects, effect.idle = true := by
  have lapses : ∃ fresh : PeerFsm Io, fresh.effects = [] ∧ fresh.Lapses (fsm.serve config param) := by
    rcases serve_cases config running notified with absent | ⟨row, mem, arrives, taken⟩
    · rw [absent]
      exact ⟨fsm.given param, rfl, Or.inr (idles_forgetCurrent _)⟩
    · rw [taken]
      have performed := row_lapses config row mem _ arrives (arrives.state ▸ before)
      exact ⟨(fsm.given param).moved row, rfl, performed.idles (idles_forgetCurrent _)⟩
  obtain ⟨fresh, empty, unlimited | idles⟩ := lapses
  · rw [unlimited] at after
    cases after
  · obtain ⟨added, effects, idle⟩ := idles.effects
    rw [effects, empty]
    exact idle

/-- The limit ends the attempt or the disconnect that is pending. -/
theorem serve_timeout (config : PeerConfig) (running : fsm.running = true)
    (limited : fsm.state.limited = true) : (fsm.serve config ⟨.timeout, none, none⟩).state = .closed := by
  have found : peerStateTable.findStateTableEntry fsm.state .timeout =
      some ⟨fsm.state, some .timeout, .closed, .error⟩ := by
    cases state : fsm.state <;> rw [state] at limited <;> first | rfl | cases limited
  rw [serve_of_row config ⟨.timeout, none, none⟩ running found]
  rfl

end Serving

end PeerFsm

namespace TimedFsm

section Runs

variable {config : PeerConfig}

structure Kept (timed : TimedFsm Io) : Prop where
  running : timed.fsm.running = true
  disciplined : timed.Disciplined

theorem initial_kept : (initial : TimedFsm Io).Kept := ⟨rfl, ⟨rfl, rfl⟩⟩

theorem serve_kept {timed : TimedFsm Io} {param : PeerEventParam Io} (kept : timed.Kept)
    (notified : param.AsNotified) : (timed.serve config param).Kept := by
  have clocked : (timed.fsm.serve config param).Clocked timed.armed :=
    PeerFsm.serve_clocked kept.disciplined kept.running notified
  exact ⟨clocked.running, ⟨clocked.watchdog, clocked.timeout⟩⟩

theorem take_kept {timed : TimedFsm Io} {input : PeerInput Io} (kept : timed.Kept)
    (notified : input.AsNotified) : (timed.take config input).Kept := by
  cases input with
  | served param => exact serve_kept kept notified
  | stopCalled cause => exact ⟨kept.running, ⟨kept.disciplined.watchdog, kept.disciplined.timeout⟩⟩

theorem run_kept {timed : TimedFsm Io} {inputs : List (PeerInput Io)} (kept : timed.Kept)
    (notified : ∀ input ∈ inputs, input.AsNotified) : (timed.run config inputs).Kept :=
  (stepwise_of_forall_mem notified).invariant (fun _ _ kept => take_kept kept) kept

end Runs

end TimedFsm

end OpenDiameter.Peer
