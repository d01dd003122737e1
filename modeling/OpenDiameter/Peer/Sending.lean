import OpenDiameter.Peer.Validation

/-! What the actions of the peer state machine send.

An action sends nothing, or one answer with the ids at the head of two queues, or
one request with the next ids of two generators. It stays in the state of its row or
closes the machine.
-/

set_option autoImplicit false

namespace OpenDiameter.Peer

open Foundation OpenDiameter.Framework

variable {Io : Type}

section Sending

inductive Sent where
  | nothing | answer | request
  deriving DecidableEq, Repr

def PeerAction.sent : PeerAction → Sent
  | .rAcceptSendCEA | .rSendCEA | .rSendCEAOpen | .iDisconnectSendCEA | .processDWRSendDWA
  | .iSendDPADisconnect | .rSendDPADisconnect | .iSendCEA => .answer
  | .iSendCER | .iSendCERElect | .iSendDPR | .rSendDPR | .watchdog => .request
  | _ => .nothing

def PeerAction.answersLate : PeerAction → Bool
  | .rSendCEA | .iDisconnectSendCEA => true
  | _ => false

def PeerEvent.isRequest : PeerEvent → Bool
  | .rConnCER | .rRcvCER | .iRcvCER | .rRcvDWR | .iRcvDWR | .rRcvDPR | .iRcvDPR => true
  | _ => false

def transmitted (effects : List (Effect Io)) : List PeerMsg :=
  effects.filterMap fun
    | .transmit msg _ => some msg
    | _ => none

theorem transmitted_append (first second : List (Effect Io)) :
    transmitted (first ++ second) = transmitted first ++ transmitted second :=
  List.filterMap_append

/-- The transport is looked up before the message is handed over. -/
theorem transmitted_ce (effects : List (Effect Io)) (used io : Option Io) (msg : PeerMsg) :
    transmitted ((effects ++ [.readTransport used]) ++ [.transmit msg io]) = transmitted effects ++ [msg] := by
  rw [transmitted_append, transmitted_append]
  exact congrArg (· ++ [msg]) (List.append_nil _)

def Effect.mute : Effect Io → Bool
  | .transmit _ _ => false
  | .notify event => !event.isRequest
  | _ => true

theorem transmitted_of_mute {effects : List (Effect Io)} (mute : ∀ effect ∈ effects, effect.mute = true) :
    transmitted effects = [] := by
  apply List.filterMap_eq_nil_iff.mpr
  intro effect mem
  have silent := mute effect mem
  cases effect <;> first | rfl | cases silent

theorem mute_of_option (io : Option Io) {make : Io → Effect Io} (mute : ∀ io, (make io).mute = true) :
    ∀ effect ∈ (io.map make).toList, effect.mute = true := by
  cases io with
  | none => exact List.forall_mem_nil _
  | some io => exact List.forall_mem_singleton.mpr (mute io)

end Sending

namespace PeerFsm

section Sent

variable {config : PeerConfig} {before fsm after : PeerFsm Io}

def Unnoticed (before after : PeerFsm Io) : Prop :=
  ∀ event, .notify event ∈ after.effects → .notify event ∈ before.effects ∨ event.isRequest = false

theorem Unnoticed.trans (first : before.Unnoticed fsm) (second : fsm.Unnoticed after) : before.Unnoticed after := by
  intro event notified
  rcases second event notified with earlier | other
  · exact first event earlier
  · exact Or.inr other

/-- `after` follows `before` with its ids and sends nothing. -/
structure Silent (before after : PeerFsm Io) : Prop where
  msgIds : after.msgIds = before.msgIds
  drawn : after.drawn = before.drawn
  sent : transmitted after.effects = transmitted before.effects
  unnoticed : before.Unnoticed after

structure Answered (before after : PeerFsm Io) : Prop where
  msgIds : after.msgIds = before.msgIds.txAnswer.1
  drawn : after.drawn = before.drawn
  sent : ∃ msg, transmitted after.effects = transmitted before.effects ++ [msg] ∧ msg.request = false ∧
    msg.hh = before.msgIds.txAnswer.2.1 ∧ msg.ee = before.msgIds.txAnswer.2.2
  unnoticed : before.Unnoticed after

structure Requested (config : PeerConfig) (before after : PeerFsm Io) : Prop where
  msgIds : after.msgIds =
    before.msgIds.txRequest (config.hopByHopGen before.drawn) (config.endToEndGen before.drawn)
  drawn : after.drawn = before.drawn + 1
  sent : ∃ msg, transmitted after.effects = transmitted before.effects ++ [msg] ∧ msg.request = true ∧
    msg.hh = config.hopByHopGen before.drawn ∧ msg.ee = config.endToEndGen before.drawn
  unnoticed : before.Unnoticed after

theorem Silent.trans (first : before.Silent fsm) (second : fsm.Silent after) : before.Silent after :=
  ⟨second.msgIds.trans first.msgIds, second.drawn.trans first.drawn, second.sent.trans first.sent,
    first.unnoticed.trans second.unnoticed⟩

theorem Silent.answered (first : before.Silent fsm) (second : fsm.Answered after) : before.Answered after := by
  obtain ⟨msg, sent, answer, hh, ee⟩ := second.sent
  rw [first.msgIds] at hh ee
  refine ⟨?_, second.drawn.trans first.drawn, ⟨msg, ?_, answer, hh, ee⟩, first.unnoticed.trans second.unnoticed⟩
  · rw [second.msgIds, first.msgIds]
  · rw [sent, first.sent]

theorem Answered.silent (first : before.Answered fsm) (second : fsm.Silent after) : before.Answered after := by
  obtain ⟨msg, sent, answer⟩ := first.sent
  exact ⟨second.msgIds.trans first.msgIds, second.drawn.trans first.drawn,
    ⟨msg, second.sent.trans sent, answer⟩, first.unnoticed.trans second.unnoticed⟩

theorem Silent.requested (first : before.Silent fsm) (second : fsm.Requested config after) :
    before.Requested config after := by
  obtain ⟨msg, sent, request, hh, ee⟩ := second.sent
  rw [first.drawn] at hh ee
  refine ⟨?_, ?_, ⟨msg, ?_, request, hh, ee⟩, first.unnoticed.trans second.unnoticed⟩
  · rw [second.msgIds, first.msgIds, first.drawn]
  · rw [second.drawn, first.drawn]
  · rw [sent, first.sent]

theorem Requested.silent (first : before.Requested config fsm) (second : fsm.Silent after) :
    before.Requested config after := by
  obtain ⟨msg, sent, request⟩ := first.sent
  exact ⟨second.msgIds.trans first.msgIds, second.drawn.trans first.drawn,
    ⟨msg, second.sent.trans sent, request⟩, first.unnoticed.trans second.unnoticed⟩

theorem unnoticed_of_append {added : List (Effect Io)} (effects : after.effects = fsm.effects ++ added)
    (unnoticed : ∀ event, .notify event ∈ added → event.isRequest = false) : fsm.Unnoticed after := by
  intro event notified
  rw [effects, List.mem_append] at notified
  exact notified.imp_right (unnoticed event)

theorem silent_of_append {added : List (Effect Io)} (msgIds : after.msgIds = fsm.msgIds)
    (drawn : after.drawn = fsm.drawn) (effects : after.effects = fsm.effects ++ added)
    (mute : ∀ effect ∈ added, effect.mute = true) : fsm.Silent after := by
  refine ⟨msgIds, drawn, ?_, unnoticed_of_append effects ?_⟩
  · rw [effects, transmitted_append, transmitted_of_mute mute, List.append_nil]
  · intro event notified
    exact (Bool.not_eq_true' _).mp (mute _ notified)

theorem silent_of_eq (msgIds : after.msgIds = fsm.msgIds) (drawn : after.drawn = fsm.drawn)
    (effects : after.effects = fsm.effects) : fsm.Silent after :=
  silent_of_append msgIds drawn (effects.trans (List.append_nil _).symm) (List.forall_mem_nil _)

theorem Silent.refl (fsm : PeerFsm Io) : fsm.Silent fsm := silent_of_eq rfl rfl rfl

end Sent

section Frame

variable (fsm : PeerFsm Io) (config : PeerConfig)

theorem silent_emit (effect : Effect Io) (mute : effect.mute = true) : fsm.Silent (fsm.emit effect) :=
  silent_of_append rfl rfl rfl (List.forall_mem_singleton.mpr mute)

theorem silent_takeInitiator : fsm.Silent fsm.takeInitiator :=
  silent_of_append rfl rfl rfl (mute_of_option fsm.ioInitiator fun _ => rfl)

theorem silent_takeResponder : fsm.Silent fsm.takeResponder :=
  silent_of_append rfl rfl rfl (mute_of_option fsm.ioResponder fun _ => rfl)

theorem silent_dropInitiator : fsm.Silent fsm.dropInitiator :=
  silent_of_append rfl rfl rfl (mute_of_option fsm.ioInitiator fun _ => rfl)

theorem silent_dropResponder : fsm.Silent fsm.dropResponder :=
  silent_of_append rfl rfl rfl (mute_of_option fsm.ioResponder fun _ => rfl)

theorem silent_dropCurrent : fsm.Silent fsm.dropCurrent :=
  silent_of_append rfl rfl rfl (mute_of_option fsm.current.io fun _ => rfl)

theorem silent_forgetCurrent : fsm.Silent fsm.forgetCurrent :=
  silent_of_append rfl rfl rfl (mute_of_option fsm.current.io fun _ => rfl)

theorem silent_cancelTimer (event : PeerEvent) : fsm.Silent (fsm.cancelTimer event) := silent_emit fsm _ rfl

theorem silent_scheduleTimer (event : PeerEvent) : fsm.Silent (fsm.scheduleTimer event) :=
  (silent_emit fsm _ rfl).trans (silent_emit _ _ rfl)

theorem silent_watch : fsm.Silent fsm.watch :=
  (silent_cancelTimer fsm .timeout).trans (silent_scheduleTimer _ .watchdog)

theorem silent_cleanup (flags : CleanupFlags) : fsm.Silent (fsm.cleanup flags) := by
  have reset : fsm.Silent { fsm with capabilities := .blank } := silent_of_eq rfl rfl rfl
  have idle := ((reset.trans (silent_cancelTimer _ .connRetry)).trans (silent_cancelTimer _ .timeout)).trans
    (silent_cancelTimer _ .watchdog)
  have restarted : ∀ stopped : PeerFsm Io,
      stopped.Silent { stopped.dropCurrent with state := .closed, running := true } :=
    fun stopped => (silent_dropCurrent stopped).trans (silent_of_eq rfl rfl rfl)
  obtain ⟨ioI, ioR, machine⟩ := flags
  cases ioI <;> cases ioR <;> cases machine
  · exact idle
  · exact idle.trans (restarted _)
  · exact idle.trans (silent_dropResponder _)
  · exact (idle.trans (silent_dropResponder _)).trans (restarted _)
  · exact idle.trans (silent_dropInitiator _)
  · exact (idle.trans (silent_dropInitiator _)).trans (restarted _)
  · exact (idle.trans (silent_dropResponder _)).trans (silent_dropInitiator _)
  · exact ((idle.trans (silent_dropResponder _)).trans (silent_dropInitiator _)).trans (restarted _)

theorem silent_doReConnect : fsm.Silent (fsm.doReConnect config) := by
  unfold doReConnect
  split
  · split
    · have counted : fsm.Silent { fsm with reconnectAttempt := fsm.reconnectAttempt + 1 } :=
        silent_of_eq rfl rfl rfl
      exact counted.trans (silent_scheduleTimer _ .connRetry)
    · exact .refl fsm
  · exact silent_of_eq rfl rfl rfl

theorem silent_elect : fsm.Silent (fsm.elect config) := by
  unfold elect
  split
  · exact silent_cleanup fsm .all
  · exact silent_emit fsm _ rfl
  · exact .refl fsm

theorem silent_disassemble (msg : PeerMsg) : fsm.Silent (fsm.disassemble msg) := silent_of_eq rfl rfl rfl

theorem unnoticed_ce {after : PeerFsm Io} {used io : Option Io} {msg : PeerMsg}
    (effects : after.effects = (fsm.effects ++ [.readTransport used]) ++ [.transmit msg io]) :
    fsm.Unnoticed after := by
  rw [List.append_assoc] at effects
  exact unnoticed_of_append effects (by simp)

theorem requested_sendCER : fsm.Requested config (fsm.sendCER config) :=
  ⟨rfl, rfl, ⟨_, transmitted_ce _ _ _ _, rfl, rfl, rfl⟩, unnoticed_ce fsm rfl⟩

theorem requested_sendDWR : fsm.Requested config (fsm.sendDWR config) :=
  ⟨rfl, rfl, ⟨_, transmitted_append _ _, rfl, rfl, rfl⟩, unnoticed_of_append rfl (by simp)⟩

theorem requested_sendDPR (initiator : Bool) : fsm.Requested config (fsm.sendDPR config initiator) :=
  ⟨rfl, rfl, ⟨_, transmitted_append _ _, rfl, rfl, rfl⟩, unnoticed_of_append rfl (by simp)⟩

theorem answered_sendCEA (rcode : UInt32) (message : String) :
    fsm.Answered (fsm.sendCEA config rcode message) :=
  ⟨rfl, rfl, ⟨_, transmitted_ce _ _ _ _, rfl, rfl, rfl⟩, unnoticed_ce fsm rfl⟩

theorem answered_sendDWA (rcode : UInt32) (message : String) :
    fsm.Answered (fsm.sendDWA config rcode message) :=
  ⟨rfl, rfl, ⟨_, transmitted_append _ _, rfl, rfl, rfl⟩, unnoticed_of_append rfl (by simp)⟩

theorem answered_sendDPA (initiator : Bool) (rcode : UInt32) :
    fsm.Answered (fsm.sendDPA config initiator rcode) :=
  ⟨rfl, rfl, ⟨_, transmitted_append _ _, rfl, rfl, rfl⟩, unnoticed_of_append rfl (by simp)⟩

end Frame

section Actions

variable {config : PeerConfig} {fsm : PeerFsm Io}

/-- A message that is taken out of the event to be handled. -/
theorem silent_taken (fsm : PeerFsm Io) : fsm.Silent { fsm with current := { fsm.current with msg := none } } :=
  silent_of_eq rfl rfl rfl

theorem withMsg_silent {handle : PeerMsg → PeerFsm Io → PeerFsm Io}
    (each : ∀ (msg : PeerMsg) (after : PeerFsm Io), after.Silent (handle msg after)) :
    fsm.Silent (fsm.withMsg handle) := by
  unfold withMsg
  split
  · exact (silent_taken fsm).trans (each _ _)
  · exact silent_emit fsm .nullMessage rfl

theorem withMsg_answered {handle : PeerMsg → PeerFsm Io → PeerFsm Io} (present : fsm.current.msg.isSome)
    (each : ∀ (msg : PeerMsg) (after : PeerFsm Io), after.Answered (handle msg after)) :
    fsm.Answered (fsm.withMsg handle) := by
  obtain ⟨msg, arrived⟩ := Option.isSome_iff_exists.mp present
  rw [withMsg_of_some arrived]
  exact (silent_taken fsm).answered (each msg _)

theorem perform_silent {action : PeerAction} (silent : action.sent = .nothing) :
    fsm.Silent (fsm.perform config action) := by
  cases action with
  | rAcceptSendCEA | rSendCEA | rSendCEAOpen | iDisconnectSendCEA | processDWRSendDWA | iSendDPADisconnect
  | rSendDPADisconnect | iSendCEA | iSendCER | iSendCERElect | iSendDPR | rSendDPR | watchdog => cases silent
  | null | rSendMessage | iSendMessage => exact .refl fsm
  | iSendConnReq => exact silent_scheduleTimer fsm .timeout
  | connNack | disconnect =>
    exact ((silent_cleanup fsm .all).trans (silent_doReConnect _ config)).trans (silent_emit _ _ rfl)
  | cleanup => exact silent_cleanup fsm .all
  | retry =>
    exact ((silent_cancelTimer fsm .connRetry).trans (silent_emit _ _ rfl)).trans (silent_emit _ _ rfl)
  | rAccept =>
    apply (silent_takeResponder fsm).trans
    show fsm.takeResponder.Silent (fsm.actRAccept config)
    apply withMsg_silent
    intro cer after
    dsimp only
    split
    · exact (silent_disassemble after cer).trans (silent_cleanup _ .all)
    · exact silent_disassemble after cer
  | error => exact (silent_cleanup fsm .all).trans (silent_emit _ _ rfl)
  | processCEA =>
    show fsm.Silent fsm.actProcessCEA
    apply withMsg_silent
    intro cea after
    split
    · have known := (silent_disassemble after cea).trans (silent_cancelTimer _ .connRetry)
      exact (known.trans (silent_watch _)).trans (silent_emit _ _ rfl)
    · exact silent_cleanup after .all
  | rAcceptElect =>
    apply (silent_takeResponder fsm).trans
    show fsm.takeResponder.Silent (fsm.actRAcceptElect config)
    apply withMsg_silent
    intro cer after
    dsimp only
    split
    · exact (silent_disassemble after cer).trans (silent_cleanup _ _)
    · exact (silent_disassemble after cer).trans (silent_elect _ config)
  | disconnectDPA =>
    show fsm.Silent (fsm.actDisconnectDPA config)
    apply withMsg_silent
    intro dpa after
    have clean := (silent_emit after (.disconnected after.disconnectCause) rfl).trans (silent_cleanup _ .all)
    dsimp only
    split
    · exact clean.trans (silent_doReConnect _ config)
    · exact clean
  | rDisconnectResp => exact silent_dropResponder fsm
  | rDisconnectIOpen =>
    show fsm.Silent fsm.actRDisconnectIOpen
    apply withMsg_silent
    intro cea after
    split
    · have known := (silent_disassemble after cea).trans (silent_watch _)
      exact (known.trans (silent_dropResponder _)).trans (silent_emit _ _ rfl)
    · exact silent_cleanup after .all
  | rReject => exact silent_forgetCurrent fsm
  | process =>
    show fsm.Silent fsm.actProcess
    apply withMsg_silent
    intro msg after
    exact silent_emit after _ rfl
  | processDWA =>
    show fsm.Silent fsm.actProcessDWA
    apply withMsg_silent
    intro dwa after
    split
    · exact .refl after
    · exact silent_cleanup after .all

theorem perform_requested {action : PeerAction} (requests : action.sent = .request) :
    fsm.Requested config (fsm.perform config action) := by
  have limited := (silent_cancelTimer fsm .watchdog).trans (silent_scheduleTimer _ .timeout)
  cases action with
  | iSendCER => exact (silent_takeInitiator fsm).requested (requested_sendCER _ config)
  | iSendCERElect =>
    have sent := (silent_takeInitiator fsm).requested (requested_sendCER _ config)
    exact sent.silent (silent_elect _ config)
  | iSendDPR => exact limited.requested (requested_sendDPR _ config true)
  | rSendDPR => exact limited.requested (requested_sendDPR _ config false)
  | watchdog => exact requested_sendDWR fsm config
  | _ => cases requests

theorem actSendDPADisconnect_answered (initiator : Bool) (present : fsm.current.msg.isSome) :
    fsm.Answered (fsm.actSendDPADisconnect config initiator) := by
  apply withMsg_answered present
  intro dpr after
  have sent := answered_sendDPA after config initiator aaaSuccess
  exact (sent.silent (silent_cleanup _ .all)).silent (silent_emit _ _ rfl)

theorem actRSendCEAOpen_answered (present : fsm.current.msg.isSome) :
    fsm.Answered (fsm.actRSendCEAOpen config) := by
  apply withMsg_answered present
  intro cer after
  exact (silent_disassemble after cer).answered (answered_sendCEA _ config _ _)

theorem perform_answered {action : PeerAction} (answers : action.sent = .answer)
    (present : action.answersLate = true ∨ fsm.current.msg.isSome) :
    fsm.Answered (fsm.perform config action) := by
  have msg : action.answersLate = false → fsm.current.msg.isSome := by
    intro prompt
    rcases present with late | present
    · rw [prompt] at late
      cases late
    · exact present
  cases action with
  | rAcceptSendCEA =>
    apply (silent_takeResponder fsm).answered
    show fsm.takeResponder.Answered (fsm.actRAcceptSendCEA config)
    apply withMsg_answered (show fsm.takeResponder.current.msg.isSome from msg rfl)
    intro cer after
    have sent := (silent_disassemble after cer).answered (answered_sendCEA (after.disassemble cer) config
      (validatePeer config (after.disassemble cer).capabilities).2.1
      (validatePeer config (after.disassemble cer).capabilities).2.2)
    dsimp only
    split
    · exact sent.silent (silent_cleanup _ .all)
    · exact sent.silent (((silent_watch _).trans (silent_cancelTimer _ .connRetry)).trans (silent_emit _ _ rfl))
  | rSendCEA =>
    have sent := (silent_takeResponder fsm).answered (answered_sendCEA _ config aaaSuccess winElectionMessage)
    exact sent.silent ((silent_watch _).trans (silent_emit _ _ rfl))
  | iDisconnectSendCEA =>
    have sent := (silent_dropInitiator fsm).answered (answered_sendCEA _ config aaaSuccess winElectionMessage)
    exact sent.silent ((silent_watch _).trans (silent_emit _ _ rfl))
  | rSendCEAOpen | iSendCEA => exact actRSendCEAOpen_answered (msg rfl)
  | processDWRSendDWA =>
    show fsm.Answered (fsm.actProcessDWRSendDWA config)
    apply withMsg_answered (msg rfl)
    intro dwr after
    exact answered_sendDWA after config _ _
  | iSendDPADisconnect => exact actSendDPADisconnect_answered true (msg rfl)
  | rSendDPADisconnect => exact actSendDPADisconnect_answered false (msg rfl)
  | _ => cases answers

end Actions

section States

variable {config : PeerConfig} {before fsm after : PeerFsm Io}

structure Settles (before after : PeerFsm Io) : Prop where
  running : before.running = true → after.running = true
  state : after.state = before.state ∨ after.state = .closed

theorem Carries.settles (carries : before.Carries after) : before.Settles after :=
  ⟨carries.running.trans, Or.inl carries.state⟩

theorem Settles.trans (first : before.Settles fsm) (second : fsm.Settles after) : before.Settles after := by
  refine ⟨fun running => second.running (first.running running), ?_⟩
  rcases second.state with same | closed
  · rw [same]
    exact first.state
  · exact Or.inr closed

theorem Settles.carries (settles : before.Settles fsm) (carries : fsm.Carries after) : before.Settles after :=
  settles.trans carries.settles

theorem Settles.refl (fsm : PeerFsm Io) : fsm.Settles fsm := ⟨id, Or.inl rfl⟩

theorem settles_cleanup (before : PeerFsm Io) (flags : CleanupFlags) (machine : flags.fsm = true) :
    before.Settles (fsm.cleanup flags) := by
  refine ⟨fun _ => ?_, Or.inr (state_cleanup flags machine)⟩
  unfold cleanup
  rw [machine]
  rfl

theorem withMsg_settles {handle : PeerMsg → PeerFsm Io → PeerFsm Io}
    (each : ∀ (msg : PeerMsg) (after : PeerFsm Io), after.Settles (handle msg after)) :
    fsm.Settles (fsm.withMsg handle) := by
  unfold withMsg
  split
  · have taken : fsm.Carries { fsm with current := { fsm.current with msg := none } } := ⟨rfl, rfl, rfl⟩
    exact taken.settles.trans (each _ _)
  · exact (carries_emit fsm .nullMessage).settles

theorem settles_elect (fsm : PeerFsm Io) (config : PeerConfig) : fsm.Settles (fsm.elect config) := by
  unfold elect
  split
  · exact settles_cleanup fsm .all rfl
  · exact (carries_emit fsm _).settles
  · exact .refl fsm

theorem settles_doReConnect (before : PeerFsm Io) (effect : Effect Io) :
    before.Settles (((fsm.cleanup .all).doReConnect config).emit effect) := by
  refine ⟨fun _ => ?_, Or.inr (fsm.cleanup .all).state_doReConnect⟩
  unfold doReConnect
  split
  · split <;> rfl
  · rfl

theorem settles_disassemble (fsm : PeerFsm Io) (msg : PeerMsg) : fsm.Settles (fsm.disassemble msg) :=
  ⟨id, Or.inl rfl⟩

theorem actSendDPADisconnect_settles (initiator : Bool) :
    fsm.Settles (fsm.actSendDPADisconnect config initiator) := by
  apply withMsg_settles
  intro dpr after
  exact (settles_cleanup after .all rfl).carries (carries_emit _ _)

theorem actRSendCEAOpen_settles : fsm.Settles (fsm.actRSendCEAOpen config) := by
  apply withMsg_settles
  intro cer after
  exact (settles_disassemble after cer).carries (carries_sendCEA _ config _ _)

/-- An action stays in the state of its row, or closes the machine. -/
theorem perform_settles (action : PeerAction) : fsm.Settles (fsm.perform config action) := by
  cases action with
  | null | rSendMessage | iSendMessage => exact .refl fsm
  | iSendConnReq => exact (carries_scheduleTimer fsm .timeout).settles
  -- Of what an action does only `Cleanup` and `DoReConnect` change the state, and both settle.
  | rAcceptSendCEA =>
    apply (carries_takeResponder fsm).settles.trans
    show fsm.takeResponder.Settles (fsm.actRAcceptSendCEA config)
    apply withMsg_settles
    intro cer after
    dsimp only
    split
    · exact settles_cleanup _ .all rfl
    · have sent := carries_sendCEA (after.disassemble cer) config
        (validatePeer config (after.disassemble cer).capabilities).2.1
        (validatePeer config (after.disassemble cer).capabilities).2.2
      exact (settles_disassemble after cer).carries
        (((sent.trans (carries_watch _)).trans (carries_emit _ _)).trans (carries_emit _ _))
  | iSendCER => exact ((carries_takeInitiator fsm).trans (carries_sendCER _ config)).settles
  | connNack | disconnect => exact settles_doReConnect fsm _
  | cleanup => exact settles_cleanup fsm .all rfl
  | retry => exact (((carries_emit fsm _).trans (carries_emit _ _)).trans (carries_emit _ _)).settles
  | rAccept =>
    apply (carries_takeResponder fsm).settles.trans
    show fsm.takeResponder.Settles (fsm.actRAccept config)
    apply withMsg_settles
    intro cer after
    dsimp only
    split
    · exact settles_cleanup _ .all rfl
    · exact settles_disassemble after cer
  | error => exact (settles_cleanup fsm .all rfl).carries (carries_emit _ _)
  | processCEA =>
    show fsm.Settles fsm.actProcessCEA
    apply withMsg_settles
    intro cea after
    split
    · exact (settles_disassemble after cea).carries
        (((carries_emit _ _).trans (carries_watch _)).trans (carries_emit _ _))
    · exact settles_cleanup _ .all rfl
  | rAcceptElect =>
    apply (carries_takeResponder fsm).settles.trans
    show fsm.takeResponder.Settles (fsm.actRAcceptElect config)
    apply withMsg_settles
    intro cer after
    dsimp only
    split
    · exact settles_cleanup _ _ rfl
    · exact (settles_disassemble after cer).trans (settles_elect _ config)
  | disconnectDPA =>
    show fsm.Settles (fsm.actDisconnectDPA config)
    apply withMsg_settles
    intro dpa after
    let told := after.emit (.disconnected after.disconnectCause)
    have closed : after.Settles (((told.cleanup .all).doReConnect config).emit .connected) :=
      settles_doReConnect after .connected
    dsimp only
    split
    · exact ⟨closed.running, closed.state⟩
    · exact settles_cleanup _ .all rfl
  | iSendCERElect =>
    have sent := (carries_takeInitiator fsm).trans (carries_sendCER _ config)
    exact sent.settles.trans (settles_elect _ config)
  | rSendCEA =>
    have sent := (carries_takeResponder fsm).trans (carries_sendCEA _ config aaaSuccess winElectionMessage)
    exact (sent.trans ((carries_watch _).trans (carries_emit _ _))).settles
  | rSendCEAOpen | iSendCEA => exact actRSendCEAOpen_settles
  | rDisconnectResp => exact (carries_dropResponder fsm).settles
  | rDisconnectIOpen =>
    show fsm.Settles fsm.actRDisconnectIOpen
    apply withMsg_settles
    intro cea after
    split
    · exact (settles_disassemble after cea).carries
        (((carries_watch _).trans (carries_dropResponder _)).trans (carries_emit _ _))
    · exact settles_cleanup _ .all rfl
  | rReject => exact (carries_forgetCurrent fsm).settles
  | iDisconnectSendCEA =>
    have sent := (carries_dropInitiator fsm).trans (carries_sendCEA _ config aaaSuccess winElectionMessage)
    exact (sent.trans ((carries_watch _).trans (carries_emit _ _))).settles
  | process =>
    show fsm.Settles fsm.actProcess
    apply withMsg_settles
    intro msg after
    exact (carries_emit after _).settles
  | processDWRSendDWA =>
    show fsm.Settles (fsm.actProcessDWRSendDWA config)
    apply withMsg_settles
    intro dwr after
    exact ((carries_answerIds after).trans (carries_emit _ _)).settles
  | processDWA =>
    show fsm.Settles fsm.actProcessDWA
    apply withMsg_settles
    intro dwa after
    split
    · exact .refl after
    · exact settles_cleanup _ .all rfl
  | iSendDPR | rSendDPR =>
    have limited := (carries_emit fsm (.cancelTimer .watchdog)).trans (carries_scheduleTimer _ .timeout)
    exact (limited.trans ((carries_drawIds _ config).trans (carries_emit _ _))).settles
  | iSendDPADisconnect => exact actSendDPADisconnect_settles true
  | rSendDPADisconnect => exact actSendDPADisconnect_settles false
  | watchdog => exact ((carries_drawIds fsm config).trans (carries_emit _ _)).settles

/-- An election between different hosts leaves the machine where it is. -/
theorem elect_stays (distinct : electHosts config.identity fsm.capabilities.host ≠ .sameHost) :
    (fsm.elect config).state = fsm.state := by
  unfold elect
  split
  · rename_i same
    exact absurd same distinct
  · rfl
  · rfl

theorem not_refused {test : Bool} (accepted : test = true) : ¬(!test) = true := by
  rw [accepted]
  nofun

theorem actRAccept_stays {cer : PeerMsg} (arrived : fsm.current.msg = some cer)
    (accepted : validates config cer = true) : (fsm.actRAccept config).state = fsm.state := by
  have present : fsm.takeResponder.current.msg = some cer := arrived
  rw [actRAccept, withMsg_of_some present]
  dsimp only
  split
  · rename_i refused
    cases not_refused accepted refused
  · rfl

theorem actRAcceptElect_stays {cer : PeerMsg} (arrived : fsm.current.msg = some cer)
    (accepted : validates config cer = true)
    (distinct : electHosts config.identity (disassembleCE cer).host ≠ .sameHost) :
    (fsm.actRAcceptElect config).state = fsm.state := by
  have present : fsm.takeResponder.current.msg = some cer := arrived
  rw [actRAcceptElect, withMsg_of_some present]
  dsimp only
  split
  · rename_i refused
    cases not_refused accepted refused
  · exact elect_stays distinct

theorem actISendCERElect_stays (distinct : electHosts config.identity fsm.capabilities.host ≠ .sameHost) :
    (fsm.actISendCERElect config).state = fsm.state := by
  have sent := (carries_takeInitiator fsm).trans (carries_sendCER _ config)
  rw [← sent.capabilities] at distinct
  exact (elect_stays distinct).trans sent.state

end States

end PeerFsm

end OpenDiameter.Peer
