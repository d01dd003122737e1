import OpenDiameter.Peer.StateMachine

/-! Which connections the peer state machine owns in each state.

A run is a list of events with the parameters that the notifiers attach. What
the states promise about the two connections holds in every state of a run
exactly when no step of it takes one of two wrong turns.
-/

set_option autoImplicit false

namespace OpenDiameter.Peer

open Foundation OpenDiameter.Framework

variable {Io : Type}

section Parameters

def PeerEvent.carriesMsg : PeerEvent → Bool
  | .rConnCER | .rRcvCEA | .iRcvCEA | .rRcvMessage | .iRcvMessage | .rRcvDWR | .iRcvDWR | .rRcvDWA
  | .iRcvDWA | .rRcvDPR | .iRcvDPR | .rRcvCER | .iRcvCER | .rRcvDPA | .iRcvDPA => true
  | _ => false

def PeerEvent.carriesIo : PeerEvent → Bool
  | .rConnCER | .iRcvConnAck => true
  | _ => false

def PeerEventParam.AsNotified (param : PeerEventParam Io) : Prop :=
  param.msg.isSome = param.event.carriesMsg ∧ param.io.isSome = param.event.carriesIo

instance (param : PeerEventParam Io) : Decidable param.AsNotified :=
  inferInstanceAs (Decidable (_ ∧ _))

end Parameters

def Effect.Sound : Effect Io → Prop
  | .transmit _ io | .readTransport io => io.isSome
  | .nullMessage => False
  | _ => True

/-- The part of a machine that ownership is about. -/
structure Holding (Io : Type) where
  state : PeerState
  initiator : Option Io
  responder : Option Io

def Holding.Promises (holding : Holding Io) : Prop :=
  match holding.state with
  | .iOpen | .waitICEA => holding.initiator.isSome
  | .rOpen | .waitConnAckElect => holding.responder.isSome
  | .waitReturns => holding.initiator.isSome ∧ holding.responder.isSome
  | .closed => holding.initiator = none ∧ holding.responder = none
  | .waitConnAck | .closing => True

instance (holding : Holding Io) : Decidable holding.Promises :=
  match holding with
  | ⟨.iOpen, initiator, _⟩ | ⟨.waitICEA, initiator, _⟩ => inferInstanceAs (Decidable (initiator.isSome = true))
  | ⟨.rOpen, _, responder⟩ | ⟨.waitConnAckElect, _, responder⟩ =>
    inferInstanceAs (Decidable (responder.isSome = true))
  | ⟨.waitReturns, initiator, responder⟩ =>
    inferInstanceAs (Decidable (initiator.isSome = true ∧ responder.isSome = true))
  | ⟨.closed, initiator, responder⟩ => inferInstanceAs (Decidable (initiator = none ∧ responder = none))
  | ⟨.waitConnAck, _, _⟩ | ⟨.closing, _, _⟩ => inferInstanceAs (Decidable True)

namespace PeerFsm

def holding (fsm : PeerFsm Io) : Holding Io := ⟨fsm.state, fsm.ioInitiator, fsm.ioResponder⟩

/-- Between two events: the states keep their promise, the last event used no
missing connection, and neither would `Send`. -/
structure Owned (fsm : PeerFsm Io) : Prop where
  owns : fsm.holding.Promises
  sound : ∀ effect ∈ fsm.effects, effect.Sound
  sends : ∀ io, fsm.send.1 = some io → io.isSome

def Meets (config : PeerConfig) (fsm : PeerFsm Io) (param : PeerEventParam Io) : Prop :=
  ¬(fsm.state = .waitConnAckElect ∧ param.event = .iRcvConnNack) ∧
    ¬(fsm.state = .waitICEA ∧ param.event = .rConnCER ∧ param.msg.any (validates config) = false)

instance (config : PeerConfig) (fsm : PeerFsm Io) (param : PeerEventParam Io) :
    Decidable (fsm.Meets config param) :=
  inferInstanceAs (Decidable (_ ∧ _))

def AllMeet (config : PeerConfig) (fsm : PeerFsm Io) : List (PeerEventParam Io) → Prop
  | [] => True
  | param :: params => fsm.Meets config param ∧ (fsm.serve config param).AllMeet config params

def OwnedThroughout (config : PeerConfig) (fsm : PeerFsm Io) : List (PeerEventParam Io) → Prop
  | [] => fsm.Owned
  | param :: params => fsm.Owned ∧ (fsm.serve config param).OwnedThroughout config params

section Bookkeeping

structure Sound (fsm : PeerFsm Io) : Prop where
  running : fsm.running = true
  sound : ∀ effect ∈ fsm.effects, effect.Sound

variable {fsm : PeerFsm Io}

theorem Sound.append (held : fsm.Sound) {added : List (Effect Io)} (sound : ∀ effect ∈ added, effect.Sound)
    {after : PeerFsm Io} (running : after.running = fsm.running)
    (effects : after.effects = fsm.effects ++ added) : after.Sound := by
  constructor
  · rw [running]
    exact held.running
  · intro effect mem
    rw [effects, List.mem_append] at mem
    exact mem.elim (held.sound effect) (sound effect)

theorem Sound.emit (held : fsm.Sound) (effect : Effect Io) (sound : effect.Sound) :
    (fsm.emit effect).Sound :=
  held.append (List.forall_mem_singleton.mpr sound) rfl rfl

/-- What becomes of a connection that is given up uses no missing one. -/
theorem sound_of_option (io : Option Io) (make : Io → Effect Io) (sound : ∀ io, (make io).Sound) :
    ∀ effect ∈ (io.map make).toList, effect.Sound := by
  intro effect mem
  cases io with
  | none => cases mem
  | some io =>
    rw [List.mem_singleton.mp mem]
    exact sound io

theorem Sound.takeInitiator (held : fsm.Sound) : fsm.takeInitiator.Sound :=
  held.append (sound_of_option fsm.ioInitiator .destroyed fun _ => trivial) rfl rfl

theorem Sound.takeResponder (held : fsm.Sound) : fsm.takeResponder.Sound :=
  held.append (sound_of_option fsm.ioResponder .destroyed fun _ => trivial) rfl rfl

theorem Sound.dropInitiator (held : fsm.Sound) : fsm.dropInitiator.Sound :=
  held.append (sound_of_option fsm.ioInitiator .scheduleForDeletion fun _ => trivial) rfl rfl

theorem Sound.dropResponder (held : fsm.Sound) : fsm.dropResponder.Sound :=
  held.append (sound_of_option fsm.ioResponder .scheduleForDeletion fun _ => trivial) rfl rfl

theorem Sound.dropCurrent (held : fsm.Sound) : fsm.dropCurrent.Sound :=
  held.append (sound_of_option fsm.current.io .scheduleForDeletion fun _ => trivial) rfl rfl

theorem Sound.forgetCurrent (held : fsm.Sound) : fsm.forgetCurrent.Sound :=
  held.append (sound_of_option fsm.current.io .destroyed fun _ => trivial) rfl rfl

theorem Sound.cancelTimer (held : fsm.Sound) (event : PeerEvent) : (fsm.cancelTimer event).Sound :=
  held.emit (.cancelTimer event) trivial

theorem Sound.scheduleTimer (held : fsm.Sound) (event : PeerEvent) : (fsm.scheduleTimer event).Sound :=
  (held.cancelTimer event).emit (.scheduleTimer event) trivial

theorem Sound.watch (held : fsm.Sound) : fsm.watch.Sound :=
  (held.cancelTimer .timeout).scheduleTimer .watchdog

theorem Sound.disassemble (held : fsm.Sound) (msg : PeerMsg) : (fsm.disassemble msg).Sound :=
  ⟨held.running, held.sound⟩

theorem Sound.drawIds (held : fsm.Sound) (config : PeerConfig) : (fsm.drawIds config).1.Sound :=
  ⟨held.running, held.sound⟩

theorem Sound.answerIds (held : fsm.Sound) : fsm.answerIds.1.Sound := ⟨held.running, held.sound⟩

theorem Sound.doReConnect (held : fsm.Sound) (config : PeerConfig) : (fsm.doReConnect config).Sound := by
  unfold PeerFsm.doReConnect
  split
  · split
    · have counted : ({ fsm with reconnectAttempt := fsm.reconnectAttempt + 1 } : PeerFsm Io).Sound :=
        ⟨held.running, held.sound⟩
      exact counted.scheduleTimer .connRetry
    · exact held
  · exact ⟨held.running, held.sound⟩

theorem Sound.cleanup (held : fsm.Sound) (flags : CleanupFlags) : (fsm.cleanup flags).Sound := by
  have reset : ({ fsm with capabilities := .blank } : PeerFsm Io).Sound := ⟨held.running, held.sound⟩
  have idle := ((reset.cancelTimer .connRetry).cancelTimer .timeout).cancelTimer .watchdog
  obtain ⟨ioI, ioR, machine⟩ := flags
  cases ioI <;> cases ioR <;> cases machine
  · exact idle
  · exact ⟨rfl, idle.dropCurrent.sound⟩
  · exact idle.dropResponder
  · exact ⟨rfl, idle.dropResponder.dropCurrent.sound⟩
  · exact idle.dropInitiator
  · exact ⟨rfl, idle.dropInitiator.dropCurrent.sound⟩
  · exact idle.dropResponder.dropInitiator
  · exact ⟨rfl, idle.dropResponder.dropInitiator.dropCurrent.sound⟩

theorem Sound.transportProtocolInUse (held : fsm.Sound)
    (present : fsm.ioInitiator.isSome ∨ fsm.ioResponder.isSome) : fsm.transportProtocolInUse.Sound := by
  apply held.emit
  show Option.isSome (if fsm.ioInitiator.isSome then fsm.ioInitiator else fsm.ioResponder)
  split
  · assumption
  · exact present.resolve_left ‹_›

theorem Sound.sendCER (held : fsm.Sound) (config : PeerConfig) (present : fsm.ioInitiator.isSome) :
    (fsm.sendCER config).Sound :=
  ((held.drawIds config).transportProtocolInUse (Or.inl present)).emit _ present

theorem Sound.sendCEA (held : fsm.Sound) (config : PeerConfig) (rcode : UInt32) (message : String)
    (present : fsm.selectedIo.isSome) : (fsm.sendCEA config rcode message).Sound := by
  have used : fsm.ioInitiator.isSome ∨ fsm.ioResponder.isSome := by
    unfold selectedIo at present
    split at present
    · exact Or.inl present
    · exact Or.inr present
  exact (held.answerIds.transportProtocolInUse used).emit _ present

theorem Sound.sendDWR (held : fsm.Sound) (config : PeerConfig) (present : fsm.selectedIo.isSome) :
    (fsm.sendDWR config).Sound :=
  (held.drawIds config).emit _ present

theorem Sound.sendDWA (held : fsm.Sound) (config : PeerConfig) (rcode : UInt32) (message : String)
    (present : fsm.selectedIo.isSome) : (fsm.sendDWA config rcode message).Sound :=
  held.answerIds.emit _ present

theorem Sound.sendDPR (held : fsm.Sound) (config : PeerConfig) (initiator : Bool)
    (present : (if initiator then fsm.ioInitiator else fsm.ioResponder).isSome) :
    (fsm.sendDPR config initiator).Sound :=
  (held.drawIds config).emit _ present

theorem Sound.sendDPA (held : fsm.Sound) (config : PeerConfig) (initiator : Bool) (rcode : UInt32)
    (present : (if initiator then fsm.ioInitiator else fsm.ioResponder).isSome) :
    (fsm.sendDPA config initiator rcode).Sound :=
  held.answerIds.emit _ present

end Bookkeeping

section Holding

variable {fsm : PeerFsm Io} {config : PeerConfig}

@[simp] theorem holding_state : fsm.holding.state = fsm.state := rfl

@[simp] theorem holding_initiator : fsm.holding.initiator = fsm.ioInitiator := rfl

@[simp] theorem holding_responder : fsm.holding.responder = fsm.ioResponder := rfl

@[simp] theorem holding_emit (effect : Effect Io) : (fsm.emit effect).holding = fsm.holding := rfl

@[simp] theorem holding_takeInitiator :
    fsm.takeInitiator.holding = { fsm.holding with initiator := fsm.current.io } := rfl

@[simp] theorem holding_takeResponder :
    fsm.takeResponder.holding = { fsm.holding with responder := fsm.current.io } := rfl

@[simp] theorem holding_dropInitiator :
    fsm.dropInitiator.holding = { fsm.holding with initiator := none } := rfl

@[simp] theorem holding_dropResponder :
    fsm.dropResponder.holding = { fsm.holding with responder := none } := rfl

@[simp] theorem holding_forgetCurrent : fsm.forgetCurrent.holding = fsm.holding := rfl

@[simp] theorem holding_stopReConnect : fsm.stopReConnect.holding = fsm.holding := rfl

@[simp] theorem holding_scheduleTimer (event : PeerEvent) :
    (fsm.scheduleTimer event).holding = fsm.holding := rfl

@[simp] theorem holding_cancelTimer (event : PeerEvent) :
    (fsm.cancelTimer event).holding = fsm.holding := rfl

@[simp] theorem holding_watch : fsm.watch.holding = fsm.holding := rfl

@[simp] theorem holding_disassemble (msg : PeerMsg) : (fsm.disassemble msg).holding = fsm.holding := rfl

@[simp] theorem holding_cleanup_all : (fsm.cleanup .all).holding = ⟨.closed, none, none⟩ := rfl

@[simp] theorem holding_doReConnect : (fsm.doReConnect config).holding = fsm.holding := by
  unfold doReConnect
  split
  · split <;> rfl
  · rfl

@[simp] theorem holding_sendCER : (fsm.sendCER config).holding = fsm.holding := rfl

@[simp] theorem holding_sendCEA (rcode : UInt32) (message : String) :
    (fsm.sendCEA config rcode message).holding = fsm.holding := rfl

@[simp] theorem holding_sendDWR : (fsm.sendDWR config).holding = fsm.holding := rfl

@[simp] theorem holding_sendDWA (rcode : UInt32) (message : String) :
    (fsm.sendDWA config rcode message).holding = fsm.holding := rfl

@[simp] theorem holding_sendDPR (initiator : Bool) :
    (fsm.sendDPR config initiator).holding = fsm.holding := rfl

end Holding

/-- The promise of the state, and nothing wrong done. -/
structure Kept (fsm : PeerFsm Io) : Prop where
  owns : fsm.holding.Promises
  sound : fsm.Sound

section Actions

variable {config : PeerConfig} {fsm : PeerFsm Io}

theorem cleanup_kept (sound : fsm.Sound) : (fsm.cleanup .all).Kept := ⟨⟨rfl, rfl⟩, sound.cleanup .all⟩

theorem Kept.emit (kept : fsm.Kept) (effect : Effect Io) (sound : effect.Sound) :
    (fsm.emit effect).Kept :=
  ⟨kept.owns, kept.sound.emit effect sound⟩

theorem Kept.doReConnect (kept : fsm.Kept) : (fsm.doReConnect config).Kept :=
  ⟨by simpa using kept.owns, kept.sound.doReConnect config⟩

theorem elect_kept (kept : fsm.Kept) : (fsm.elect config).Kept := by
  unfold elect
  split
  · exact cleanup_kept kept.sound
  · exact kept.emit _ trivial
  · exact kept

theorem selectedIo_present (owns : fsm.holding.Promises)
    (opened : fsm.state = .iOpen ∨ fsm.state = .rOpen) : fsm.selectedIo.isSome := by
  unfold selectedIo
  cases opened with
  | inl initiator => simpa [Holding.Promises, initiator] using owns
  | inr responder => simpa [Holding.Promises, responder] using owns

theorem withMsg_kept {handle : PeerMsg → PeerFsm Io → PeerFsm Io} (present : fsm.current.msg.isSome)
    (each : ∀ msg after, fsm.current.msg = some msg → after.holding = fsm.holding →
      (fsm.Sound → after.Sound) → (handle msg after).Kept) :
    (fsm.withMsg handle).Kept := by
  obtain ⟨msg, same⟩ := Option.isSome_iff_exists.mp present
  unfold withMsg
  rw [same]
  exact each msg _ same rfl (fun sound => ⟨sound.running, sound.sound⟩)

theorem actISendCER_kept (sound : fsm.Sound) (state : fsm.state = .waitICEA)
    (io : fsm.current.io.isSome) : (fsm.actISendCER config).Kept := by
  constructor
  · simpa [actISendCER, Holding.Promises, state] using io
  · exact sound.takeInitiator.sendCER config io

theorem actRAcceptSendCEA_kept (sound : fsm.Sound) (state : fsm.state = .rOpen)
    (io : fsm.current.io.isSome) (msg : fsm.current.msg.isSome) :
    (fsm.actRAcceptSendCEA config).Kept := by
  have owns : fsm.takeResponder.holding.Promises := by
    simpa [Holding.Promises, state] using io
  apply withMsg_kept (show fsm.takeResponder.current.msg.isSome from msg)
  intro cer after _ same sound'
  rw [← same] at owns
  have opened : after.state = .rOpen := (congrArg Holding.state same).trans state
  have sent := ((sound' sound.takeResponder).disassemble cer).sendCEA config
    (validatePeer config (disassembleCE cer)).2.1 (validatePeer config (disassembleCE cer)).2.2
    (selectedIo_present owns (Or.inr opened))
  dsimp only
  split
  · exact cleanup_kept sent
  · constructor
    · simpa using owns
    · exact (sent.watch.cancelTimer .connRetry).emit .connected trivial

theorem actConnNack_kept (sound : fsm.Sound) : (fsm.actConnNack config).Kept :=
  (cleanup_kept sound).doReConnect.emit (.error 5012) trivial

theorem actError_kept (sound : fsm.Sound) : fsm.actError.Kept :=
  (cleanup_kept sound).emit (.error 2002) trivial

theorem actDisconnect_kept (sound : fsm.Sound) : (fsm.actDisconnect config).Kept :=
  (cleanup_kept sound).doReConnect.emit (.disconnected 10001) trivial

theorem actDisconnectDPA_kept (sound : fsm.Sound) (msg : fsm.current.msg.isSome) :
    (fsm.actDisconnectDPA config).Kept := by
  apply withMsg_kept msg
  intro dpa after _ _ sound'
  have clean := cleanup_kept ((sound' sound).emit (.disconnected after.disconnectCause) trivial)
  dsimp only
  split
  · exact clean.doReConnect
  · exact clean

theorem actReConnect_kept (kept : fsm.Kept) : fsm.actReConnect.Kept :=
  ((kept.emit (.cancelTimer .connRetry) trivial).emit (.notify .start) trivial).emit .connect trivial

theorem actRAccept_kept (sound : fsm.Sound) (state : fsm.state = .waitConnAckElect)
    (io : fsm.current.io.isSome) (msg : fsm.current.msg.isSome) : (fsm.actRAccept config).Kept := by
  have owns : fsm.takeResponder.holding.Promises := by
    simpa [Holding.Promises, state] using io
  apply withMsg_kept (show fsm.takeResponder.current.msg.isSome from msg)
  intro cer after _ same sound'
  rw [← same] at owns
  have known := (sound' sound.takeResponder).disassemble cer
  dsimp only
  split
  · exact cleanup_kept known
  · exact ⟨owns, known⟩

theorem actProcessCEA_kept (kept : fsm.Kept) (msg : fsm.current.msg.isSome) : fsm.actProcessCEA.Kept := by
  apply withMsg_kept msg
  intro cea after _ same sound'
  have sound := sound' kept.sound
  split
  · constructor
    · simpa [same] using kept.owns
    · exact ((sound.disassemble cea).cancelTimer .connRetry).watch.emit .connected trivial
  · exact cleanup_kept sound

theorem actRAcceptElect_kept (sound : fsm.Sound) (state : fsm.state = .waitReturns)
    (initiator : fsm.ioInitiator.isSome) (io : fsm.current.io.isSome)
    (valid : fsm.current.msg.any (validates config)) : (fsm.actRAcceptElect config).Kept := by
  have owns : fsm.takeResponder.holding.Promises := by
    simpa [Holding.Promises, state] using And.intro initiator io
  obtain ⟨cer, arrived, accepted⟩ := (Option.any_eq_true _ _).mp valid
  apply withMsg_kept (show fsm.takeResponder.current.msg.isSome by simp [takeResponder, arrived])
  intro cer' after arrived' same sound'
  rw [← same] at owns
  have known := (sound' sound.takeResponder).disassemble cer'
  have identical : cer' = cer := Option.some.inj (arrived'.symm.trans arrived)
  have passes : (validatePeer config (after.disassemble cer').capabilities).1 = true := by
    rw [identical]
    exact accepted
  dsimp only
  rw [if_neg (by rw [passes]; nofun)]
  exact elect_kept ⟨owns, known⟩

theorem actISendCERElect_kept (sound : fsm.Sound) (state : fsm.state = .waitReturns)
    (responder : fsm.ioResponder.isSome) (io : fsm.current.io.isSome) :
    (fsm.actISendCERElect config).Kept := by
  apply elect_kept
  constructor
  · simpa [Holding.Promises, state] using And.intro io responder
  · exact sound.takeInitiator.sendCER config io

theorem actRSendCEAOpen_kept (kept : fsm.Kept) (opened : fsm.state = .iOpen ∨ fsm.state = .rOpen)
    (msg : fsm.current.msg.isSome) : (fsm.actRSendCEAOpen config).Kept := by
  apply withMsg_kept msg
  intro cer after _ same sound'
  have owns : after.holding.Promises := same ▸ kept.owns
  have opened' : after.state = .iOpen ∨ after.state = .rOpen := by
    rwa [← holding_state, same]
  exact ⟨owns, ((sound' kept.sound).disassemble cer).sendCEA config _ _ (selectedIo_present owns opened')⟩

theorem actRDisconnectResp_kept (sound : fsm.Sound)
    (owns : ({ fsm.holding with responder := none } : Holding Io).Promises) :
    fsm.actRDisconnectResp.Kept :=
  ⟨owns, sound.dropResponder⟩

theorem actRDisconnectIOpen_kept (sound : fsm.Sound) (state : fsm.state = .iOpen)
    (initiator : fsm.ioInitiator.isSome) (msg : fsm.current.msg.isSome) :
    fsm.actRDisconnectIOpen.Kept := by
  apply withMsg_kept msg
  intro cea after _ same sound'
  have sound := sound' sound
  split
  · constructor
    · simpa [same, Holding.Promises, state] using initiator
    · exact (sound.disassemble cea).watch.dropResponder.emit .connected trivial
  · exact cleanup_kept sound

theorem actRReject_kept (kept : fsm.Kept) : fsm.actRReject.Kept := ⟨kept.owns, kept.sound.forgetCurrent⟩

theorem actIDisconnectSendCEA_kept (sound : fsm.Sound) (state : fsm.state = .rOpen)
    (responder : fsm.ioResponder.isSome) : (fsm.actIDisconnectSendCEA config).Kept := by
  have owns : fsm.dropInitiator.holding.Promises := by
    simpa [Holding.Promises, state] using responder
  constructor
  · simpa [actIDisconnectSendCEA] using owns
  · exact (sound.dropInitiator.sendCEA config _ _ (selectedIo_present owns (Or.inr state))).watch.emit
      .connected trivial

theorem actProcess_kept (kept : fsm.Kept) (msg : fsm.current.msg.isSome) : fsm.actProcess.Kept := by
  apply withMsg_kept msg
  intro msg after _ same sound'
  exact ⟨same ▸ kept.owns, (sound' kept.sound).emit (.routed msg) trivial⟩

theorem actProcessDWRSendDWA_kept (kept : fsm.Kept) (opened : fsm.state = .iOpen ∨ fsm.state = .rOpen)
    (msg : fsm.current.msg.isSome) : (fsm.actProcessDWRSendDWA config).Kept := by
  apply withMsg_kept msg
  intro dwr after _ same sound'
  have owns : after.holding.Promises := same ▸ kept.owns
  have opened' : after.state = .iOpen ∨ after.state = .rOpen := by
    rwa [← holding_state, same]
  exact ⟨owns, (sound' kept.sound).sendDWA config _ _ (selectedIo_present owns opened')⟩

theorem actProcessDWA_kept (kept : fsm.Kept) (msg : fsm.current.msg.isSome) : fsm.actProcessDWA.Kept := by
  apply withMsg_kept msg
  intro dwa after _ same sound'
  split
  · exact ⟨same ▸ kept.owns, sound' kept.sound⟩
  · exact cleanup_kept (sound' kept.sound)

theorem actSendDPR_kept (sound : fsm.Sound) (state : fsm.state = .closing) (initiator : Bool)
    (io : (if initiator then fsm.ioInitiator else fsm.ioResponder).isSome) :
    (fsm.actSendDPR config initiator).Kept := by
  constructor
  · simp [actSendDPR, Holding.Promises, state]
  · exact ((sound.cancelTimer .watchdog).scheduleTimer .timeout).sendDPR config initiator io

theorem actSendDPADisconnect_kept (sound : fsm.Sound) (initiator : Bool)
    (io : (if initiator then fsm.ioInitiator else fsm.ioResponder).isSome)
    (msg : fsm.current.msg.isSome) : (fsm.actSendDPADisconnect config initiator).Kept := by
  apply withMsg_kept msg
  intro dpr after _ same sound'
  have io' : (if initiator then after.ioInitiator else after.ioResponder).isSome := by
    rwa [← holding_initiator, ← holding_responder, same]
  exact (cleanup_kept ((sound' sound).sendDPA config initiator aaaSuccess io')).emit _ trivial

theorem actWatchdog_kept (kept : fsm.Kept) (opened : fsm.state = .iOpen ∨ fsm.state = .rOpen) :
    (fsm.actWatchdog config).Kept :=
  ⟨kept.owns, kept.sound.sendDWR config (selectedIo_present kept.owns opened)⟩

end Actions

section Rows

variable {config : PeerConfig}

/-- A machine about to take a row of the table, with what holds before it. -/
structure Entered (config : PeerConfig) (fsm : PeerFsm Io) (row : PeerRow) : Prop where
  owns : fsm.holding.Promises
  sound : fsm.Sound
  state : row.prevState = fsm.state
  event : ∀ ev, row.event = some ev → ev = fsm.current.event
  notified : fsm.current.AsNotified
  meets : fsm.Meets config fsm.current

variable {fsm : PeerFsm Io} {row : PeerRow}

def moved (fsm : PeerFsm Io) (row : PeerRow) : PeerFsm Io := { fsm with state := row.nextState }

theorem Entered.moved_sound (entered : Entered config fsm row) : (fsm.moved row).Sound :=
  ⟨entered.sound.running, entered.sound.sound⟩

theorem Entered.promise (entered : Entered config fsm row) :
    (⟨row.prevState, fsm.ioInitiator, fsm.ioResponder⟩ : Holding Io).Promises := by
  rw [entered.state]
  exact entered.owns

theorem Entered.moved_kept (entered : Entered config fsm row) (stays : row.nextState = row.prevState) :
    (fsm.moved row).Kept := by
  refine ⟨?_, entered.moved_sound⟩
  have promise := entered.promise
  rw [← stays] at promise
  exact promise

theorem Entered.msg (entered : Entered config fsm row) {ev : PeerEvent} (named : row.event = some ev)
    (carries : ev.carriesMsg = true) : fsm.current.msg.isSome := by
  rw [entered.notified.1, ← entered.event ev named]
  exact carries

theorem Entered.io (entered : Entered config fsm row) {ev : PeerEvent} (named : row.event = some ev)
    (carries : ev.carriesIo = true) : fsm.current.io.isSome := by
  rw [entered.notified.2, ← entered.event ev named]
  exact carries

theorem Entered.valid (entered : Entered config fsm row) (named : row.event = some .rConnCER)
    (waits : row.prevState = .waitICEA) : fsm.current.msg.any (validates config) = true := by
  have meets := entered.meets.2
  rw [← entered.state, ← entered.event _ named] at meets
  exact eq_true_of_ne_false fun refused => meets ⟨waits, rfl, refused⟩

theorem Entered.not_nack (entered : Entered config fsm row) (named : row.event = some .iRcvConnNack)
    (waits : row.prevState = .waitConnAckElect) : False :=
  entered.meets.1 ⟨entered.state ▸ waits, (entered.event _ named).symm⟩

def RowKept (Io : Type) (config : PeerConfig) (row : PeerRow) : Prop :=
  ∀ fsm : PeerFsm Io, Entered config fsm row → ((fsm.moved row).perform config row.action).Kept

theorem closedRows_kept (config : PeerConfig) : ∀ row ∈ closedRows, RowKept Io config row := by
  simp only [closedRows, addStateTableEntry, addWildcardStateTableEntry, List.forall_mem_cons]
  refine ⟨fun _ h => ⟨trivial, h.moved_sound.scheduleTimer .timeout⟩,
    fun _ h => actRAcceptSendCEA_kept h.moved_sound rfl (h.io rfl rfl) (h.msg rfl rfl),
    fun _ h => actReConnect_kept (h.moved_kept rfl),
    fun _ h => cleanup_kept h.moved_sound,
    List.forall_mem_nil _⟩

theorem waitConnAckRows_kept (config : PeerConfig) : ∀ row ∈ waitConnAckRows, RowKept Io config row := by
  simp only [waitConnAckRows, addStateTableEntry, List.forall_mem_cons]
  refine ⟨fun _ h => actISendCER_kept h.moved_sound rfl (h.io rfl rfl),
    fun _ h => actConnNack_kept h.moved_sound,
    fun _ h => actRAccept_kept h.moved_sound rfl (h.io rfl rfl) (h.msg rfl rfl),
    fun _ h => actError_kept h.moved_sound,
    fun _ h => actError_kept h.moved_sound,
    List.forall_mem_nil _⟩

theorem waitICEARows_kept (config : PeerConfig) : ∀ row ∈ waitICEARows, RowKept Io config row := by
  simp only [waitICEARows, addStateTableEntry, List.forall_mem_cons]
  refine ⟨fun _ h => actProcessCEA_kept ⟨h.promise, h.moved_sound⟩ (h.msg rfl rfl),
    fun _ h => actRAcceptElect_kept h.moved_sound rfl h.promise (h.io rfl rfl) (h.valid rfl rfl),
    fun _ h => actDisconnect_kept h.moved_sound,
    fun _ h => actError_kept h.moved_sound,
    fun _ h => actError_kept h.moved_sound,
    fun _ h => actError_kept h.moved_sound,
    List.forall_mem_nil _⟩

theorem waitConnAckElectRows_kept (config : PeerConfig) : ∀ row ∈ waitConnAckElectRows, RowKept Io config row := by
  simp only [waitConnAckElectRows, addStateTableEntry, List.forall_mem_cons]
  refine ⟨fun _ h => actISendCERElect_kept h.moved_sound rfl h.promise (h.io rfl rfl),
    fun _ h => (h.not_nack rfl rfl).elim,
    fun _ h => actRDisconnectResp_kept h.moved_sound trivial,
    fun _ h => actRReject_kept (h.moved_kept rfl),
    fun _ h => actError_kept h.moved_sound,
    List.forall_mem_nil _⟩

theorem waitReturnsRows_kept (config : PeerConfig) : ∀ row ∈ waitReturnsRows, RowKept Io config row := by
  simp only [waitReturnsRows, addStateTableEntry, List.forall_mem_cons]
  refine ⟨fun _ h => actIDisconnectSendCEA_kept h.moved_sound rfl h.promise.2,
    fun _ h => actIDisconnectSendCEA_kept h.moved_sound rfl h.promise.2,
    fun _ h => actRDisconnectIOpen_kept h.moved_sound rfl h.promise.1 (h.msg rfl rfl),
    fun _ h => actRDisconnectResp_kept h.moved_sound h.promise.1,
    fun _ h => actRReject_kept (h.moved_kept rfl),
    fun _ h => actError_kept h.moved_sound,
    List.forall_mem_nil _⟩

theorem rOpenRows_kept (config : PeerConfig) : ∀ row ∈ rOpenRows, RowKept Io config row := by
  simp only [rOpenRows, addStateTableEntry, List.forall_mem_cons]
  refine ⟨fun _ h => h.moved_kept rfl,
    fun _ h => actProcess_kept (h.moved_kept rfl) (h.msg rfl rfl),
    fun _ h => actProcessDWRSendDWA_kept (h.moved_kept rfl) (Or.inr rfl) (h.msg rfl rfl),
    fun _ h => actProcessDWA_kept (h.moved_kept rfl) (h.msg rfl rfl),
    fun _ h => actRReject_kept (h.moved_kept rfl),
    fun _ h => actSendDPR_kept h.moved_sound rfl false h.promise,
    fun _ h => actSendDPADisconnect_kept h.moved_sound false h.promise (h.msg rfl rfl),
    fun _ h => actDisconnect_kept h.moved_sound,
    fun _ h => actRSendCEAOpen_kept (h.moved_kept rfl) (Or.inr rfl) (h.msg rfl rfl),
    fun _ h => actProcessCEA_kept (h.moved_kept rfl) (h.msg rfl rfl),
    fun _ h => actWatchdog_kept (h.moved_kept rfl) (Or.inr rfl),
    List.forall_mem_nil _⟩

theorem iOpenRows_kept (config : PeerConfig) : ∀ row ∈ iOpenRows, RowKept Io config row := by
  simp only [iOpenRows, addStateTableEntry, List.forall_mem_cons]
  refine ⟨fun _ h => h.moved_kept rfl,
    fun _ h => actProcess_kept (h.moved_kept rfl) (h.msg rfl rfl),
    fun _ h => actProcessDWRSendDWA_kept (h.moved_kept rfl) (Or.inl rfl) (h.msg rfl rfl),
    fun _ h => actProcessDWA_kept (h.moved_kept rfl) (h.msg rfl rfl),
    fun _ h => actRReject_kept (h.moved_kept rfl),
    fun _ h => actSendDPR_kept h.moved_sound rfl true h.promise,
    fun _ h => actSendDPADisconnect_kept h.moved_sound true h.promise (h.msg rfl rfl),
    fun _ h => actDisconnect_kept h.moved_sound,
    fun _ h => actRSendCEAOpen_kept (h.moved_kept rfl) (Or.inl rfl) (h.msg rfl rfl),
    fun _ h => actProcessCEA_kept (h.moved_kept rfl) (h.msg rfl rfl),
    fun _ h => actWatchdog_kept (h.moved_kept rfl) (Or.inl rfl),
    List.forall_mem_nil _⟩

theorem closingRows_kept (config : PeerConfig) : ∀ row ∈ closingRows, RowKept Io config row := by
  simp only [closingRows, addStateTableEntry, addWildcardStateTableEntry, List.forall_mem_cons]
  refine ⟨fun _ h => actDisconnectDPA_kept h.moved_sound (h.msg rfl rfl),
    fun _ h => actDisconnectDPA_kept h.moved_sound (h.msg rfl rfl),
    fun _ h => actError_kept h.moved_sound,
    fun _ h => actDisconnect_kept h.moved_sound,
    fun _ h => actDisconnect_kept h.moved_sound,
    fun _ h => h.moved_kept rfl,
    List.forall_mem_nil _⟩

theorem row_kept (config : PeerConfig) : ∀ row ∈ peerStateTable, RowKept Io config row := by
  simp only [peerStateTable, List.forall_mem_append]
  exact ⟨⟨⟨⟨⟨⟨⟨closedRows_kept config, waitConnAckRows_kept config⟩, waitICEARows_kept config⟩,
    waitConnAckElectRows_kept config⟩, waitReturnsRows_kept config⟩, rOpenRows_kept config⟩,
    iOpenRows_kept config⟩, closingRows_kept config⟩

end Rows

section Runs

variable {config : PeerConfig} {fsm : PeerFsm Io} {param : PeerEventParam Io}

theorem event_kept {ev : PeerEvent} (owns : fsm.holding.Promises) (sound : fsm.Sound)
    (notified : fsm.current.AsNotified) (meets : fsm.Meets config fsm.current)
    (same : fsm.current.event = ev) : (fsm.event config ev).Kept := by
  unfold event
  rw [if_neg (by rw [sound.running]; nofun)]
  split
  · exact ⟨owns, sound⟩
  · rename_i row found
    obtain ⟨mem, state, named⟩ := StateTable.findStateTableEntry_mem found
    apply row_kept config row mem fsm
    refine ⟨owns, sound, state, ?_, notified, meets⟩
    intro ev' named'
    rw [same]
    cases named with
    | inl wildcard => rw [wildcard] at named'; cases named'
    | inr named => rw [named] at named'; cases named'; rfl

structure Between (fsm : PeerFsm Io) : Prop where
  owned : fsm.Owned
  running : fsm.running = true

theorem sends_present (owns : fsm.holding.Promises) (io : Option Io) (sends : fsm.send.1 = some io) :
    io.isSome := by
  unfold send at sends
  split at sends
  · cases sends
  · split at sends <;> rename_i state
    · cases sends
      simpa [Holding.Promises, state] using owns
    · cases sends
      simpa [Holding.Promises, state] using owns
    · cases sends

theorem Kept.between (kept : fsm.Kept) : fsm.forgetCurrent.Between :=
  ⟨⟨kept.owns, kept.sound.forgetCurrent.sound, sends_present kept.owns⟩, kept.sound.running⟩

theorem serve_between (between : fsm.Between) (notified : param.AsNotified)
    (meets : fsm.Meets config param) : (fsm.serve config param).Between := by
  have sound : ({ fsm with current := param, effects := [] } : PeerFsm Io).Sound :=
    ⟨between.running, List.forall_mem_nil _⟩
  exact (@event_kept _ config { fsm with current := param, effects := [] } _ between.owned.owns sound
    notified meets rfl).between

theorem serve_of_found {row : PeerRow} (running : fsm.running = true)
    (found : peerStateTable.findStateTableEntry fsm.state param.event = some row) :
    fsm.serve config param =
      ((({ fsm with current := param, effects := [] } : PeerFsm Io).moved row).perform config
        row.action).forgetCurrent := by
  unfold serve event
  rw [if_neg (by rw [running]; nofun)]
  dsimp only
  rw [found]
  rfl

theorem serve_of_absent (running : fsm.running = true)
    (absent : peerStateTable.findStateTableEntry fsm.state param.event = none) :
    fsm.serve config param = ({ fsm with current := param, effects := [] } : PeerFsm Io).forgetCurrent := by
  unfold serve event
  rw [if_neg (by rw [running]; nofun)]
  dsimp only
  rw [absent]

theorem nack_not_owned (running : fsm.running = true) (state : fsm.state = .waitConnAckElect)
    (event : param.event = .iRcvConnNack) (io : param.io = none) : ¬(fsm.serve config param).Owned := by
  intro owned
  have owns := owned.owns
  have found : peerStateTable.findStateTableEntry fsm.state param.event =
      some (addStateTableEntry .waitConnAckElect .iRcvConnNack .rOpen .rSendCEA) := by
    rw [state, event]
    rfl
  rw [serve_of_found running found] at owns
  simp [addStateTableEntry, perform, actRSendCEA, moved, Holding.Promises, io] at owns

/-- `CLEANUP_IO_I` is left out of the flags, the machine flag is not. -/
theorem actRAcceptElect_refused {cer : PeerMsg} (msg : fsm.current.msg = some cer)
    (refused : validates config cer = false) :
    (fsm.actRAcceptElect config).holding = ⟨.closed, fsm.ioInitiator, none⟩ := by
  have arrived : fsm.takeResponder.current.msg = some cer := msg
  simp only [actRAcceptElect, withMsg, arrived]
  rw [if_pos]
  · rfl
  · exact (Bool.not_eq_true' _).mpr refused

theorem refused_not_owned (running : fsm.running = true) (state : fsm.state = .waitICEA)
    (initiator : fsm.ioInitiator.isSome) (event : param.event = .rConnCER) {cer : PeerMsg}
    (msg : param.msg = some cer) (refused : validates config cer = false) :
    ¬(fsm.serve config param).Owned := by
  intro owned
  have owns := owned.owns
  have found : peerStateTable.findStateTableEntry fsm.state param.event =
      some (addStateTableEntry .waitICEA .rConnCER .waitReturns .rAcceptElect) := by
    rw [state, event]
    rfl
  rw [serve_of_found running found, holding_forgetCurrent] at owns
  simp only [addStateTableEntry, perform] at owns
  rw [actRAcceptElect_refused (by exact msg) refused] at owns
  have none : fsm.ioInitiator = none := owns.1
  rw [none] at initiator
  cases initiator

theorem serve_owned_iff (between : fsm.Between) (notified : param.AsNotified) :
    (fsm.serve config param).Owned ↔ fsm.Meets config param := by
  constructor
  · intro owned
    constructor
    · rintro ⟨state, event⟩
      have absent : param.io = none := by
        apply Option.not_isSome_iff_eq_none.mp
        rw [notified.2, event]
        nofun
      exact nack_not_owned between.running state event absent owned
    · rintro ⟨state, event, refused⟩
      have arrived : param.msg.isSome := by rw [notified.1, event]; rfl
      obtain ⟨cer, msg⟩ := Option.isSome_iff_exists.mp arrived
      have initiator : fsm.ioInitiator.isSome := by
        simpa [Holding.Promises, state] using between.owned.owns
      rw [msg] at refused
      exact refused_not_owned between.running state initiator event msg refused owned
  · intro meets
    exact (serve_between between notified meets).owned

theorem initial_between : (initial : PeerFsm Io).Between :=
  ⟨⟨⟨rfl, rfl⟩, List.forall_mem_nil _, nofun⟩, rfl⟩

theorem owned_throughout_iff {params : List (PeerEventParam Io)} (between : fsm.Between)
    (notified : ∀ param ∈ params, param.AsNotified) :
    fsm.OwnedThroughout config params ↔ fsm.AllMeet config params := by
  induction params generalizing fsm with
  | nil => exact iff_of_true between.owned trivial
  | cons param params ih =>
    obtain ⟨first, rest⟩ := List.forall_mem_cons.mp notified
    constructor
    · rintro ⟨-, later⟩
      have owned : (fsm.serve config param).Owned := by
        cases params with
        | nil => exact later
        | cons => exact later.1
      have meets := (serve_owned_iff between first).mp owned
      exact ⟨meets, (ih (serve_between between first meets) rest).mp later⟩
    · rintro ⟨meets, later⟩
      exact ⟨between.owned, (ih (serve_between between first meets) rest).mpr later⟩

/-- From the initial state on, in whatever order events come, the states keep
their promises exactly in the runs that take neither wrong turn. -/
theorem connection_owned_iff (config : PeerConfig) (params : List (PeerEventParam Io))
    (notified : ∀ param ∈ params, param.AsNotified) :
    (initial : PeerFsm Io).OwnedThroughout config params ↔ initial.AllMeet config params :=
  owned_throughout_iff initial_between notified

/-- A node that supports application 1, and a peer's request that offers it. -/
def sampleConfig : PeerConfig where
  identity := [97]
  tls := false
  authAppIdLst := [1]
  acctAppIdLst := []
  vendorSpecificId := []
  reconnectMax := 1
  reconnectInterval := 30
  hopByHopGen := fun drawn => drawn.toUInt32
  endToEndGen := fun drawn => drawn.toUInt32

def sampleCER : PeerMsg :=
  { code := msgCodeCapabilitiesExchg, request := true, hh := 5, ee := 6, originHost := some [98], authAppIds := [1] }

/-- A connection opened by the initiator, watched, and closed by the peer. -/
theorem connection_owned_opened : (initial : PeerFsm Nat).OwnedThroughout sampleConfig
    [⟨.start, none, none⟩, ⟨.iRcvConnAck, none, some 7⟩,
      ⟨.iRcvCEA, some { sampleCER with request := false, resultCode := some 2001 }, none⟩,
      ⟨.watchdog, none, none⟩, ⟨.iPeerDisc, none, none⟩] := by
  apply (connection_owned_iff sampleConfig _ (by decide)).mpr
  exact ⟨by decide +kernel, by decide +kernel, by decide +kernel, by decide +kernel, by decide +kernel, trivial⟩

/-- The responder that an election had accepted is dropped when the initiator's
own connection is refused, and the machine opens on nothing. -/
theorem refused_connection_not_owned :
    (∀ param ∈ ([⟨.start, none, none⟩, ⟨.rConnCER, some sampleCER, some 7⟩,
      ⟨.iRcvConnNack, none, none⟩] : List (PeerEventParam Nat)), param.AsNotified) ∧
    ¬(initial : PeerFsm Nat).OwnedThroughout sampleConfig
      [⟨.start, none, none⟩, ⟨.rConnCER, some sampleCER, some 7⟩, ⟨.iRcvConnNack, none, none⟩] := by
  refine ⟨by decide, ?_⟩
  rintro ⟨-, -, -, owned⟩
  have opened := owned.owns
  revert opened
  decide +kernel

end Runs

end PeerFsm

end OpenDiameter.Peer
