import OpenDiameter.Session.LocalHandler

/-! The session database holds the sessions that live, and no others.

A session that runs is reset at most once, and does not run after that; so what a call
leaves of its running flag and how often it resets are one sum.
-/

set_option autoImplicit false

namespace OpenDiameter.Session

open Foundation OpenDiameter.Framework OpenDiameter.Peer

namespace LocalHandler

variable (abortRetryTm : UInt32)

section Spending

theorem perform_resets (fsm : AuthData) (ac : ServerAction) :
    (Server.perform abortRetryTm fsm ac).callbacks.count .reset ≤ 1 := by
  cases ac with
  | txSsa =>
    simp only [Server.perform, Server.txSsa]
    split <;> simp
  | txRar => cases value : fsm.turn.attributes.reAuthRequestValue <;> simp [Server.perform, value]
  | txAsr =>
    simp only [Server.perform, Server.txAsr]
    split <;> simp
  | rxRaa => cases value : fsm.turn.attributes.reAuthRequestValue <;> simp [Server.perform, value]
  | sessionReclaim =>
    simp only [Server.perform, Server.sessionReclaim]
    split <;> simp
  | _ => simp [Server.perform, Server.grantAccess, Server.ends]

theorem settle_spends {handled : AuthMachine × List AuthCallback} {running : Bool} (same : handled.1.running = running)
    (once : handled.2.count .reset ≤ running.toNat) :
    handled.2.count .reset + (AuthMachine.settle handled).running.toNat = running.toNat := by
  unfold AuthMachine.settle
  split
  case isTrue resets =>
    have some := List.count_pos_iff.mpr resets
    have most := running.toNat_le
    simp only [Bool.toNat_false]
    omega
  case isFalse never =>
    rw [List.count_eq_zero.mpr never, same, Nat.zero_add]

theorem event_spends (machine : AuthMachine) (ev : AuthEvent) (turn : AuthTurn) :
    (event abortRetryTm machine ev turn).2.count .reset + (event abortRetryTm machine ev turn).1.running.toNat =
      machine.running.toNat := by
  refine @settle_spends ((Server.program abortRetryTm).handle
    { machine with raised := some ev, data := { machine.data with turn } }) machine.running
    (MachineProgram.running_handle _ _) ?_
  rcases (Server.program abortRetryTm).handle_cases
      { machine with raised := some ev, data := { machine.data with turn } } with
    ⟨none, _⟩ | ⟨_, _, _, same⟩ | ⟨_, row, takes⟩
  · cases none
  · rw [same]
    exact Nat.zero_le _
  · have running : machine.running = true := takes.running
    rw [takes.handle, running]
    exact perform_resets _ _ _

theorem events_spend (machine : AuthMachine) (list : List (AuthEvent × AuthTurn)) :
    (events abortRetryTm machine list).2.count .reset + (events abortRetryTm machine list).1.running.toNat =
      machine.running.toNat := by
  induction list generalizing machine with
  | nil => simp [events]
  | cons first rest ih =>
    have now := event_spends abortRetryTm machine first.1 first.2
    have later := ih (event abortRetryTm machine first.1 first.2).1
    simp only [events, List.count_append]
    omega

theorem rxMessage_spends (machine : AuthMachine) (ev : AuthEvent) (turn : Turn) :
    (rxMessage abortRetryTm machine ev turn).2.count .reset + (rxMessage abortRetryTm machine ev turn).1.running.toNat =
      machine.running.toNat := by
  have now := event_spends abortRetryTm machine ev turn.auth
  simp only [rxMessage, List.count_append]
  generalize (_ ++ _ : List (AuthEvent × AuthTurn)) = list
  have later := events_spend abortRetryTm (event abortRetryTm machine ev turn.auth).1 list
  omega

theorem authRequest_spends (machine : AuthMachine) (code : UInt32) (turn : Turn) :
    (authRequest abortRetryTm machine code turn).2.count .reset +
      (authRequest abortRetryTm machine code turn).1.running.toNat = machine.running.toNat := by
  unfold authRequest
  split
  · exact event_spends _ _ _ _
  · split
    · simp
    · split
      · simp
      · exact rxMessage_spends _ _ _ _

theorem authAnswer_spends (machine : AuthMachine) (answer : Answer) (turn : Turn) :
    (authAnswer abortRetryTm machine answer turn).2.count .reset +
      (authAnswer abortRetryTm machine answer turn).1.running.toNat = machine.running.toNat := by
  unfold authAnswer
  split
  · split
    · exact event_spends _ _ _ _
    · simp
  · split
    · simp
    · split
      · split
        · exact event_spends _ _ _ _
        · simp
      · exact rxMessage_spends _ _ _ _

theorem notify_spends (session : AcctServer.ServerSession) (ev : AcctServer.Event) :
    (session.notify ev).2.count .reset + (session.notify ev).1.running.toNat = session.running.toNat := by
  unfold AcctServer.ServerSession.notify
  split
  case isTrue running =>
    split
    · simp
    · next row _ =>
      cases row.action <;>
        simp [AcctServer.ServerSession.perform, AcctServer.ServerSession.reset, AcctServer.ServerSession.storeRecord,
          AcctServer.ServerSession.txACA, running] <;>
        split <;> simp
  case isFalse => simp

theorem acctRequest_spends (session : AcctServer.ServerSession) (request : AcctServer.Request) (turn : AcctServer.Turn) :
    (session.rxRequest request turn).2.count .reset + (session.rxRequest request turn).1.running.toNat =
      session.running.toNat := by
  unfold AcctServer.ServerSession.rxRequest
  split
  · simp
  · split
    · simp
    · show _ = (session.filter request turn).running.toNat
      generalize session.filter request turn = filtered
      unfold AcctServer.ServerSession.formulate
      split
      · split
        · split
          · exact notify_spends _ _
          · simp
        · exact notify_spends _ _
      · split <;> simp [AcctServer.ServerSession.storeRecord, AcctServer.ServerSession.txACA] <;> split <;> simp

end Spending

section Objects

variable {object : Object}

/-- The id of a session is the one that it was created for, unless no request of
accounting has come to a session of accounting yet. -/
def Object.Addressed (object : Object) : Prop :=
  object.sessionId = object.key ∨
    object.sessionId.diameterId = [] ∧ ∃ session, object.session = .acct session ∧ session.state = .idle

structure Object.Keeps (object : Object) (after : Object × Nat) : Prop where
  key : after.1.key = object.key
  spent : after.2 + after.1.session.running.toNat = object.session.running.toNat
  named : 0 < after.2 → after.1.sessionId = object.key
  addressed : after.1.Addressed

theorem keeps_unchanged (addressed : object.Addressed) : object.Keeps (object, 0) :=
  ⟨rfl, Nat.zero_add _, nofun, addressed⟩

theorem address_key (id : SessionId) : (object.address id).key = object.key := by
  unfold Object.address
  split <;> rfl

theorem address_named (fits : object.sessionId = object.key ∨ object.sessionId.diameterId = []) :
    (object.address object.key).sessionId = object.key := by
  unfold Object.address
  split
  case isTrue => rfl
  case isFalse full => exact fits.resolve_right fun empty => full (List.isEmpty_iff.mpr empty)

theorem addressed_auth {machine : AuthMachine} (auth : object.session = .auth machine) (addressed : object.Addressed) :
    object.sessionId = object.key := by
  rcases addressed with named | ⟨_, session, acct, _⟩
  · exact named
  · rw [auth] at acct
    cases acct

theorem keeps_ofAuth {machine : AuthMachine} {after : AuthMachine × List AuthCallback}
    (auth : object.session = .auth machine) (addressed : object.Addressed)
    (spends : after.2.count .reset + after.1.running.toNat = machine.running.toNat) :
    object.Keeps (object.ofAuth after) := by
  have named := addressed_auth auth addressed
  refine ⟨rfl, ?_, fun _ => named, .inl named⟩
  rw [auth]
  exact spends

theorem rxRequest_keeps {request : Request} {turn : Turn}
    (fits : object.Addressed ∨ object.sessionId.diameterId = [] ∧ ∃ machine, object.session = .auth machine) :
    object.Keeps (object.rxRequest abortRetryTm object.key request turn) := by
  have named : (object.address object.key).sessionId = object.key := by
    refine address_named ?_
    rcases fits with (named | ⟨empty, _⟩) | ⟨empty, _⟩
    · exact .inl named
    · exact .inr empty
    · exact .inr empty
  have addressed (session : ServerSession) : Object.Addressed { object.address object.key with session } :=
    .inl (named.trans (address_key object.key).symm)
  unfold Object.rxRequest
  cases kind : object.session with
  | auth machine =>
    refine ⟨address_key _, ?_, fun _ => named, addressed _⟩
    rw [kind]
    exact authRequest_spends _ _ _ _
  | acct session =>
    dsimp only
    split
    · refine keeps_unchanged (fits.resolve_right ?_)
      rintro ⟨_, machine, auth⟩
      rw [kind] at auth
      cases auth
    · split
      · refine ⟨address_key _, ?_, fun _ => named, addressed _⟩
        rw [kind]
        exact Nat.zero_add _
      · refine ⟨address_key _, ?_, fun _ => named, addressed _⟩
        rw [kind]
        exact acctRequest_spends _ _ _

theorem rxAnswer_keeps {answer : Answer} {turn : Turn} (addressed : object.Addressed) :
    object.Keeps (object.rxAnswer abortRetryTm answer turn) := by
  unfold Object.rxAnswer
  cases kind : object.session with
  | auth machine => exact keeps_ofAuth kind addressed (authAnswer_spends _ _ _ _)
  | acct session => exact keeps_unchanged addressed

theorem idle_timeout {session : AcctServer.ServerSession} (idle : session.state = .idle) :
    session.notify .sessionTout = (session, []) := by
  obtain ⟨stateful, running, state, timer, attributes⟩ := session
  obtain rfl : state = .idle := idle
  cases running <;> rfl

theorem timeout_keeps {type : TimerType} {turn : AuthTurn} (addressed : object.Addressed) :
    object.Keeps (object.timeout abortRetryTm type turn) := by
  unfold Object.timeout
  cases kind : object.session with
  | auth machine =>
    dsimp only
    split
    · exact keeps_ofAuth kind addressed (event_spends _ _ _ _)
    · exact keeps_unchanged addressed
  | acct session =>
    dsimp only
    split
    · rcases addressed with named | ⟨empty, session', same, idle⟩
      · refine ⟨rfl, ?_, fun _ => named, .inl named⟩
        rw [kind]
        exact notify_spends _ _
      · obtain rfl : session = session' := ServerSession.acct.inj (kind.symm.trans same)
        rw [idle_timeout idle]
        refine ⟨rfl, ?_, nofun, .inr ⟨empty, session, rfl, idle⟩⟩
        rw [kind]
        exact Nat.zero_add _
    · exact keeps_unchanged addressed

theorem call_keeps {appCall : AppCall} {turn : AuthTurn} (addressed : object.Addressed) :
    object.Keeps (object.call abortRetryTm appCall turn) := by
  unfold Object.call
  cases kind : object.session with
  | auth machine => exact keeps_ofAuth kind addressed (event_spends _ _ _ _)
  | acct session => exact keeps_unchanged addressed

end Objects

section Welcome

def Factory.Welcomes (factory : Factory) (request : Request) (turn : Turn) : Prop :=
  match factory with
  | .auth _ =>
    request.message.code = msgCodeAbortSession ∨
      ¬(request.message.code = msgCodeSessionTermination ∧ turn.maintained = true) ∧ turn.throws = false ∧
        (∀ call ∈ turn.calls, call.1 ≠ .endSession) ∧
        (turn.auth.attributes.maintained = true → turn.auth.rc = .success ∨ turn.auth.rc = .incomplete)
  | .acct stateful _ =>
    request.message.code = msgCodeAccounting →
      turn.throws = false ∧ (stateful = true → turn.acct.spaceAvailable = true)

instance (factory : Factory) (request : Request) (turn : Turn) : Decidable (factory.Welcomes request turn) :=
  match factory with
  | .auth _ => inferInstanceAs (Decidable (_ ∨ ¬(_ ∧ _) ∧ _ ∧ _ ∧ (_ → _ ∨ _)))
  | .acct _ _ => inferInstanceAs (Decidable (_ → _ ∧ (_ → _)))

/-- A machine that waits for access to be granted. -/
structure Resting (machine : AuthMachine) : Prop where
  running : machine.running = true
  idle : machine.state = .idle

/-- Events that an idle session takes and stays idle. -/
def mild : AuthEvent → Bool
  | .rxSsar | .txSsar | .txSsaa | .reauth => true
  | _ => false

def accepted : AuthEvent → Bool
  | .ssarOk | .requestAccess => true
  | _ => false

def harmless : ServerAction → Bool
  | .null | .rxSsa | .txSsa | .grantAccess => true
  | _ => false

theorem mild_rows (ev : AuthEvent) (isMild : mild ev = true) :
    ∃ row, serverTable.findStateTableEntry .idle ev = some row ∧ row.nextState = .idle ∧ harmless row.action = true := by
  cases ev <;> first
    | exact absurd isMild Bool.false_ne_true
    | exact ⟨_, rfl, rfl, rfl⟩

theorem accepted_rows (ev : AuthEvent) (isAccepted : accepted ev = true) :
    ∃ row, serverTable.findStateTableEntry .idle ev = some row ∧ harmless row.action = true := by
  cases ev <;> first
    | exact absurd isAccepted Bool.false_ne_true
    | exact ⟨_, rfl, rfl⟩

theorem perform_harmless (fsm : AuthData) {ac : ServerAction} (isHarmless : harmless ac = true) :
    .reset ∉ (Server.perform abortRetryTm fsm ac).callbacks := by
  cases ac with
  | null | rxSsa | grantAccess => simp [Server.perform, Server.grantAccess]
  | txSsa =>
    simp only [Server.perform, Server.txSsa]
    split <;> simp
  | _ => cases isHarmless

theorem event_harmless {machine : AuthMachine} (resting : Resting machine) {ev : AuthEvent}
    {row : StateTableEntry AuthState AuthEvent ServerAction}
    (found : serverTable.findStateTableEntry .idle ev = some row) (isHarmless : harmless row.action = true)
    (turn : AuthTurn) :
    let fsm : AuthData := { machine.data with turn }
    event abortRetryTm machine ev turn =
        ({ machine with
            state := row.nextState
            data := (Server.perform abortRetryTm fsm row.action).data
            events := machine.events ++ (Server.perform abortRetryTm fsm row.action).notified
            raised := (Server.perform abortRetryTm fsm row.action).raised },
          (Server.perform abortRetryTm fsm row.action).callbacks) ∧
      (event abortRetryTm machine ev turn).2.count .reset = 0 := by
  intro fsm
  have takes : (Server.program abortRetryTm).Takes { machine with raised := some ev, data := fsm } ev row :=
    ⟨rfl, resting.running, by rw [resting.idle]; exact found⟩
  have quiet := perform_harmless abortRetryTm fsm isHarmless
  have same : event abortRetryTm machine ev turn =
      (AuthMachine.settle _, _) := congrArg (fun handled => (AuthMachine.settle handled, handled.2)) takes.handle
  rw [same]
  exact ⟨Prod.ext (if_neg quiet) rfl, List.count_eq_zero.mpr quiet⟩

theorem event_mild {machine : AuthMachine} (resting : Resting machine) {ev : AuthEvent} (isMild : mild ev = true)
    (turn : AuthTurn) :
    (event abortRetryTm machine ev turn).2.count .reset = 0 ∧ Resting (event abortRetryTm machine ev turn).1 := by
  obtain ⟨row, found, idle, isHarmless⟩ := mild_rows ev isMild
  obtain ⟨same, quiet⟩ := event_harmless abortRetryTm resting found isHarmless turn
  refine ⟨quiet, ?_⟩
  rw [same]
  exact ⟨resting.running, idle⟩

theorem events_mild {machine : AuthMachine} (resting : Resting machine) {list : List (AuthEvent × AuthTurn)}
    (each : ∀ pair ∈ list, mild pair.1 = true) :
    (events abortRetryTm machine list).2.count .reset = 0 ∧ Resting (events abortRetryTm machine list).1 := by
  induction list generalizing machine with
  | nil => exact ⟨rfl, resting⟩
  | cons first rest ih =>
    obtain ⟨isMild, each⟩ := List.forall_mem_cons.mp each
    obtain ⟨quiet, resting⟩ := event_mild abortRetryTm resting isMild first.2
    obtain ⟨later, resting⟩ := ih resting each
    exact ⟨by simp [events, List.count_append, quiet, later], resting⟩

theorem events_append (machine : AuthMachine) (first second : List (AuthEvent × AuthTurn)) :
    events abortRetryTm machine (first ++ second) =
      ((events abortRetryTm (events abortRetryTm machine first).1 second).1,
        (events abortRetryTm machine first).2 ++ (events abortRetryTm (events abortRetryTm machine first).1 second).2) := by
  induction first generalizing machine with
  | nil => simp [events]
  | cons head rest ih => simp [events, ih]

theorem rxMessage_welcome {machine : AuthMachine} (resting : Resting machine) {turn : Turn}
    (calls : ∀ call ∈ turn.calls, call.1 ≠ .endSession)
    (returns : ∀ ev ∈ Server.rxDelivery turn.auth, accepted ev = true) :
    (rxMessage abortRetryTm machine .rxSsar turn).2.count .reset = 0 := by
  obtain ⟨same, quiet⟩ := @event_harmless abortRetryTm machine resting .rxSsar ⟨.idle, some .rxSsar, .idle, .rxSsa⟩ rfl rfl
    turn.auth
  have waits := (@event_mild abortRetryTm machine resting .rxSsar rfl turn.auth).2
  have raised : (event abortRetryTm machine .rxSsar turn.auth).1.raised = Server.rxDelivery turn.auth := by
    rw [same]
    rfl
  have within : ∀ pair ∈ (if .receive ∈ (event abortRetryTm machine .rxSsar turn.auth).2
      then turn.calls.map fun call => (call.1.event, call.2) else []), mild pair.1 = true := by
    intro pair mem
    split at mem
    · obtain ⟨⟨appCall, answer⟩, made, rfl⟩ := List.mem_map.mp mem
      cases appCall with
      | endSession => exact absurd rfl (calls _ made)
      | reAuth => rfl
      | send request => cases request <;> rfl
    · cases mem
  obtain ⟨told, waits⟩ := events_mild abortRetryTm waits within
  simp only [rxMessage, List.count_append, quiet, events_append, told, raised]
  cases delivered : Server.rxDelivery turn.auth with
  | none => rfl
  | some ev =>
    obtain ⟨row, found, isHarmless⟩ := accepted_rows ev (returns ev delivered)
    have last := (event_harmless abortRetryTm waits found isHarmless turn.auth).2
    simp [events, last]

theorem idle_keeps {session : AcctServer.ServerSession} (idle : session.state = .idle) {ev : AcctServer.Event}
    (space : ev ≠ .rxAcrNoBuf) : (session.notify ev).2.count .reset = 0 := by
  obtain ⟨stateful, running, state, timer, attributes⟩ := session
  obtain rfl : state = .idle := idle
  obtain ⟨_, _, _, _, _, _, _, _, _, compatible, _, _⟩ := attributes
  cases ev <;> cases running <;> cases compatible <;> first | rfl | exact absurd rfl space

theorem formulate_welcome {session : AcctServer.ServerSession} (idle : session.state = .idle) {turn : AcctServer.Turn}
    (space : session.stateful = true → turn.spaceAvailable = true) : (session.formulate turn).2.count .reset = 0 := by
  unfold AcctServer.ServerSession.formulate
  split
  case isTrue stateful =>
    rw [if_pos (space stateful)]
    split
    case h_1 ev found =>
      refine idle_keeps idle ?_
      rintro rfl
      unfold AcctServer.ServerSession.okEvent at found
      repeat' split at found
      all_goals cases found
    case h_2 => rfl
  case isFalse =>
    split <;> simp [AcctServer.ServerSession.storeRecord, AcctServer.ServerSession.txACA] <;> split <;> simp

theorem rxRequest_welcome {factory : Factory} {request : Request} {turn : Turn} (welcomes : factory.Welcomes request turn)
    (key : SessionId) :
    let object : Object := { key, session := factory.createInstance abortRetryTm }
    (object.rxRequest abortRetryTm key request turn).2 = 0 ∧ object.throws request turn = false := by
  cases factory with
  | auth attributes =>
    have resting : Resting (constructed abortRetryTm attributes) := ⟨rfl, rfl⟩
    rcases welcomes with abort | ⟨lives, returns, calls, accepts⟩
    · have differ : ¬(request.message.code = msgCodeSessionTermination ∧ turn.maintained = true) := by
        rintro ⟨terminates, _⟩
        exact absurd (abort.symm.trans terminates) (by decide)
      have nothing : authRequest abortRetryTm (constructed abortRetryTm attributes) request.message.code turn =
          (constructed abortRetryTm attributes, []) := by
        rw [authRequest, if_neg differ, if_pos abort]
      constructor
      · exact congrArg (fun after : AuthMachine × List AuthCallback => after.2.count .reset) nothing
      · simp [Object.throws, Factory.createInstance, abort]
    · constructor
      · show (authRequest abortRetryTm (constructed abortRetryTm attributes) request.message.code turn).2.count _ = 0
        rw [authRequest, if_neg lives]
        split
        · rfl
        · rw [returns, if_neg Bool.false_ne_true]
          refine rxMessage_welcome _ resting calls ?_
          intro ev delivered
          simp only [Server.rxDelivery] at delivered
          split at delivered
          case isTrue maintained =>
            rcases accepts maintained with success | incomplete
            · rw [success] at delivered
              obtain rfl := Option.some.inj delivered
              rfl
            · rw [incomplete] at delivered
              obtain rfl := Option.some.inj delivered
              rfl
          case isFalse => cases delivered
      · simp [Object.throws, returns]
  | acct stateful attributes =>
    by_cases accounting : request.message.code = msgCodeAccounting
    · obtain ⟨returns, space⟩ := welcomes accounting
      constructor
      · simp only [Object.rxRequest, Factory.createInstance, accounting, ne_eq, not_true_eq_false, if_false, returns,
          Bool.false_eq_true, Object.ofAcct, AcctServer.ServerSession.rxRequest]
        split
        · rfl
        · exact formulate_welcome rfl space
      · simp [Object.throws, returns]
    · simp [Object.rxRequest, Object.throws, Factory.createInstance, accounting]

end Welcome

end LocalHandler

section Condition

variable (abortRetryTm : UInt32) (fuel : Nat) (handler : LocalHandler)

namespace LocalHandler

def Fits (id : SessionId) : Prop :=
  ∀ object ∈ handler.objects, Comparable (Database.searchNode id) (Database.searchNode object.key) ∧
    Comparable (Database.searchNode object.key) (Database.searchNode id)

def Meets : Input → Prop
  | .request request turn supply =>
    ∀ id ∈ request.id, handler.Fits id ∧
      (handler.db.lookup fuel id = some none → ∀ factory ∈ handler.factories.lookup request.appId,
        id.toCounter ≠ .null ∧ factory.Welcomes request turn ∧
          handler.db.Supplied (.add id handler.objects.length supply.now supply.object supply.block))
  | .answer answer _ => ∀ id ∈ answer.id, handler.Fits id
  | .error target => ∀ id ∈ target, handler.Fits id
  | .timeout .. | .call .. => True

instance (p q : EntryNode) : Decidable (Comparable p q) := inferInstanceAs (Decidable ((_ → _) ∧ (_ → _ ∨ _)))

instance (id : SessionId) : Decidable (handler.Fits id) := inferInstanceAs (Decidable (∀ _ ∈ _, _ ∧ _))

instance (id : SessionId) (n : Nat) (supply : Supply) :
    Decidable (handler.db.Supplied (.add id n supply.now supply.object supply.block)) :=
  inferInstanceAs (Decidable (_ = none ∧ _ = none ∧ _ < _))

instance (input : Input) : Decidable (handler.Meets fuel input) :=
  match input with
  | .request .. => inferInstanceAs (Decidable (∀ _ ∈ _, _ ∧ (_ → ∀ _ ∈ _, _ ∧ _ ∧ _)))
  | .answer .. | .error _ => inferInstanceAs (Decidable (∀ _ ∈ _, _))
  | .timeout .. | .call .. => .isTrue trivial

def MeetsAll : LocalHandler → List Input → Prop
  | _, [] => True
  | handler, input :: inputs => handler.Meets fuel input ∧
      match handler.step abortRetryTm fuel input with
      | none => True
      | some handler => MeetsAll handler inputs

instance decidableMeetsAll : (handler : LocalHandler) → (inputs : List Input) →
    Decidable (handler.MeetsAll abortRetryTm fuel inputs)
  | _, [] => .isTrue trivial
  | handler, input :: inputs =>
    haveI : Decidable (match handler.step abortRetryTm fuel input with
        | none => True
        | some handler => handler.MeetsAll abortRetryTm fuel inputs) :=
      match handler.step abortRetryTm fuel input with
      | none => .isTrue trivial
      | some handler => decidableMeetsAll handler inputs
    inferInstanceAs (Decidable (_ ∧ _))

/-- The database holds the sessions that live. -/
structure Live : Prop where
  found : ∀ id n, handler.db.lookup fuel id = some (some n) → n ∉ handler.scheduled
  once : handler.scheduled.Nodup
  kept : ∀ n object, handler.objects[n]? = some object → n ∉ handler.scheduled →
    handler.db.lookup fuel object.key = some (some n)

end LocalHandler

end Condition

section Invariant

namespace LocalHandler

variable {abortRetryTm : UInt32} {fuel : Nat} {handler : LocalHandler} {elements : List EntryNode}
  {content : SessionId → Option Nat} {id : SessionId}

def registry (handler : LocalHandler) (content : SessionId → Option Nat) : Registry SessionId :=
  ⟨content, handler.objects.map Object.key, handler.scheduled⟩

structure Sound (handler : LocalHandler) (elements : List EntryNode) (content : SessionId → Option Nat) : Prop where
  stored : Stored handler.db elements content
  registry : (handler.registry content).Sound
  running : ∀ n object, handler.objects[n]? = some object → object.session.running = true → n ∉ handler.scheduled
  addressed : ∀ object ∈ handler.objects, object.Addressed
  nodes : ∀ e ∈ elements, ∃ object ∈ handler.objects, e.Of object.key
  ordered : ∀ object ∈ handler.objects, handler.Fits object.key

theorem comparable_of {p q : EntryNode} {a b : SessionId} (ofP : p.Of a) (ofQ : q.Of b)
    (comparable : Comparable (Database.searchNode a) (Database.searchNode b)) : Comparable p q := by
  obtain ⟨object, diameterId, optionalVal⟩ := p
  obtain ⟨object', diameterId', optionalVal'⟩ := q
  obtain ⟨rfl, rfl⟩ := ofP
  obtain ⟨rfl, rfl⟩ := ofQ
  exact comparable

theorem comparable_self (e : EntryNode) : Comparable e e := by
  refine ⟨fun _ => rfl, fun smaller => ?_⟩
  exact absurd (of_decide_eq_true smaller) (lt_irrefl _)

theorem Sound.orders (sound : Sound handler elements content) (fits : handler.Fits id) (p q : EntryNode)
    (inUse : handler.db.InUse id p) (inUse' : handler.db.InUse id q) : Comparable p q := by
  have owner (e : EntryNode) (holds : handler.db.Holds e) : ∃ object ∈ handler.objects, e.Of object.key := by
    obtain ⟨block, node, here, data⟩ := holds
    exact sound.nodes e (holds_kept sound.stored.kept here data)
  rcases inUse with held | of
  · obtain ⟨object, mem, of⟩ := owner p held
    rcases inUse' with held' | of'
    · obtain ⟨other, mem', of'⟩ := owner q held'
      exact comparable_of of of' (sound.ordered object mem other mem').1
    · exact comparable_of of of' (fits object mem).2
  · rcases inUse' with held' | of'
    · obtain ⟨other, mem', of'⟩ := owner q held'
      exact comparable_of of of' (fits other mem').1
    · exact comparable_of of of' (comparable_self _)

theorem Sound.live (sound : Sound handler elements content) (enough : elements.length < fuel) : handler.Live fuel where
  found := by
    intro id n found
    obtain ⟨other, stored⟩ := sound.stored.lookup_stored found
    exact sound.registry.found other n stored
  once := sound.registry.once
  kept := by
    intro n object here live
    have named : (handler.objects.map Object.key)[n]? = some object.key := by rw [List.getElem?_map, here, Option.map_some]
    have mem := List.mem_of_getElem? here
    rw [sound.stored.lookup_spec enough (sound.orders (sound.ordered object mem))]
    exact congrArg some (sound.registry.kept n object.key named live)

theorem keys_set {n : Nat} {object object' : Object} {objects : List Object} (here : objects[n]? = some object)
    (same : object'.key = object.key) : (objects.set n object').map Object.key = objects.map Object.key := by
  apply List.ext_getElem?
  intro m
  rw [List.getElem?_map, List.getElem?_map]
  by_cases own : n = m
  · subst own
    rw [List.getElem?_set_self (List.getElem?_eq_some_iff.mp here).1, here, Option.map_some, Option.map_some, same]
  · rw [List.getElem?_set_ne own]

/-- What is kept of a session that a call has changed but not reset, or that it is about to. -/
theorem Sound.set (sound : Sound handler elements content) {n : Nat} {object object' : Object}
    (here : handler.objects[n]? = some object) (same : object'.key = object.key)
    (runs : object'.session.running = true → object.session.running = true) (addressed : object'.Addressed) :
    Sound { handler with objects := handler.objects.set n object' } elements content := by
  have mem := List.mem_of_getElem? here
  -- The keys are the same, and nothing else of a session is looked at by the ids that fit.
  have keyed (other : Object) (inside : other ∈ handler.objects.set n object') :
      ∃ before ∈ handler.objects, before.key = other.key := by
    rcases List.mem_or_eq_of_mem_set inside with inside | rfl
    · exact ⟨other, inside, rfl⟩
    · exact ⟨object, mem, same.symm⟩
  refine ⟨sound.stored, ?_, ?_, ?_, ?_, ?_⟩
  · show (Registry.mk content ((handler.objects.set n object').map Object.key) handler.scheduled).Sound
    rw [keys_set here same]
    exact sound.registry
  · intro m other here' running
    by_cases own : n = m
    · subst own
      rw [List.getElem?_set_self (List.getElem?_eq_some_iff.mp here).1] at here'
      obtain rfl := Option.some.inj here'
      exact sound.running n object here (runs running)
    · rw [List.getElem?_set_ne own] at here'
      exact sound.running m other here' running
  · intro other inside
    rcases List.mem_or_eq_of_mem_set inside with inside | rfl
    · exact sound.addressed other inside
    · exact addressed
  · intro e inside
    obtain ⟨owner, owned, of⟩ := sound.nodes e inside
    obtain ⟨m, placed⟩ := List.mem_iff_getElem?.mp owned
    by_cases own : n = m
    · subst own
      obtain rfl := Option.some.inj (here.symm.trans placed)
      exact ⟨object', List.mem_set (List.getElem?_eq_some_iff.mp here).1 _, same ▸ of⟩
    · exact ⟨owner, List.mem_of_getElem? ((List.getElem?_set_ne own).trans placed), of⟩
  · intro first inside second inside'
    obtain ⟨before, mem, key⟩ := keyed first inside
    obtain ⟨before', mem', key'⟩ := keyed second inside'
    rw [← key, ← key']
    exact sound.ordered before mem before' mem'

/-- A session that does not run any more takes itself out. -/
theorem Sound.reset (sound : Sound handler elements content) (enough : elements.length < fuel) {n : Nat} {object : Object}
    (here : handler.objects[n]? = some object) (stopped : object.session.running = false)
    (live : n ∉ handler.scheduled) (named : object.sessionId = object.key) :
    ∃ handler' elements' content', LocalHandler.reset fuel n 1 handler = some handler' ∧
      Sound handler' elements' content' ∧ elements'.length ≤ elements.length := by
  have mem := List.mem_of_getElem? here
  obtain ⟨db, elements', removed, stored, fewer, subset⟩ :=
    sound.stored.remove_spec enough (sound.orders (sound.ordered object mem))
  refine ⟨{ handler with db, scheduled := handler.scheduled ++ [n] }, elements', Function.update content object.key none,
    ?_, ?_, fewer⟩
  · simp only [LocalHandler.reset, Option.bind_eq_bind, here, Option.bind_some, named, removed]
  · have key : (handler.objects.map Object.key)[n]? = some object.key := by rw [List.getElem?_map, here, Option.map_some]
    refine ⟨stored, sound.registry.retire key live, ?_, sound.addressed, fun e inside => sound.nodes e (subset e inside),
      sound.ordered⟩
    intro m other here' running scheduled
    rcases List.mem_append.mp scheduled with scheduled | last
    · exact sound.running m other here' running scheduled
    · obtain rfl := List.mem_singleton.mp last
      obtain rfl := Option.some.inj (here.symm.trans here')
      rw [stopped] at running
      cases running

theorem Sound.deliver (sound : Sound handler elements content) (enough : elements.length < fuel) {n : Nat} {object : Object}
    (here : handler.objects[n]? = some object) {call : Object → Object × Nat} (keeps : object.Keeps (call object)) :
    ∃ handler' elements' content', handler.deliver fuel n call = some handler' ∧ Sound handler' elements' content' ∧
      elements'.length ≤ elements.length := by
  have spent := keeps.spent
  have bound := (List.getElem?_eq_some_iff.mp here).1
  have most := object.session.running.toNat_le
  have runs (running : (call object).1.session.running = true) : object.session.running = true := by
    rw [running, Bool.toNat_true] at spent
    cases before : object.session.running with
    | true => rfl
    | false =>
      rw [before, Bool.toNat_false] at spent
      omega
  have changed := sound.set here keeps.key runs keeps.addressed
  have delivers : handler.deliver fuel n call =
      LocalHandler.reset fuel n (call object).2 { handler with objects := handler.objects.set n (call object).1 } := by
    rw [LocalHandler.deliver, here]
    rfl
  rw [delivers]
  cases resets : (call object).2 with
  | zero => exact ⟨_, elements, content, rfl, changed, le_refl _⟩
  | succ more =>
    -- It ran, so that it is reset once, and runs no more.
    rw [resets] at spent
    obtain rfl : more = 0 := by omega
    have ran : object.session.running = true := by
      cases before : object.session.running with
      | true => rfl
      | false =>
        rw [before, Bool.toNat_false] at spent
        omega
    have stopped : (call object).1.session.running = false := by
      cases after : (call object).1.session.running with
      | false => rfl
      | true =>
        rw [after, Bool.toNat_true] at spent
        omega
    have named := keeps.named (by omega)
    exact changed.reset enough (List.getElem?_set_self bound) stopped (sound.running n object here ran)
      (named.trans keeps.key.symm)

theorem Sound.create (sound : Sound handler elements content) (enough : elements.length < fuel) (fits : handler.Fits id)
    (absent : content id = none) (notNull : id.toCounter ≠ .null) {factory : Factory} {request : Request} {turn : Turn}
    (welcomes : factory.Welcomes request turn) {supply : Supply}
    (supplied : handler.db.Supplied (.add id handler.objects.length supply.now supply.object supply.block)) :
    ∃ handler' elements' content', handler.create abortRetryTm fuel id factory request turn supply = some handler' ∧
      Sound handler' elements' content' ∧ elements'.length ≤ elements.length + 1 := by
  let object : Object := { key := id, session := factory.createInstance abortRetryTm }
  obtain ⟨unreset, returns⟩ := rxRequest_welcome abortRetryTm welcomes id
  -- The first request is handled before the session enters the database.
  have keeps : object.Keeps (object.rxRequest abortRetryTm object.key request turn) := by
    refine rxRequest_keeps abortRetryTm ?_
    cases factory with
    | auth attributes => exact .inr ⟨rfl, _, rfl⟩
    | acct stateful attributes => exact .inl (.inr ⟨rfl, _, rfl, rfl⟩)
  let after := (object.rxRequest abortRetryTm id request turn).1
  have handled : { handler with objects := handler.objects ++ [object] }.deliver fuel handler.objects.length
      (·.rxRequest abortRetryTm id request turn) = some { handler with objects := handler.objects ++ [after] } := by
    rw [LocalHandler.deliver]
    simp only [List.getElem?_concat_length, Option.bind_eq_bind, Option.bind_some, unreset, LocalHandler.reset, object]
    simp [after, object]
  obtain ⟨ok, id', db, elements', content', added, step, stored, more, nodes⟩ :=
    sound.stored.add_spec enough supplied (sound.orders fits) (fun null => absurd null notNull)
  -- The id is not there and not null, so that `Add` enters it.
  have entered : content' = Function.update content id (some handler.objects.length) := by
    cases step with
    | added => rfl
    | refused _ present =>
      rw [absent] at present
      cases present
    | generated null => exact absurd null notNull
  subst entered
  refine ⟨{ handler with objects := handler.objects ++ [after], db }, elements',
    Function.update content id (some handler.objects.length), ?_, ?_, more⟩
  · rw [LocalHandler.create]
    simp only [Option.bind_eq_bind]
    rw [handled, Option.bind_some, returns, if_neg Bool.false_ne_true, added]
    rfl
  · have key : after.key = id := keeps.key
    -- What is scheduled was made before, and the new object has the next index.
    have fresh : handler.objects.length ∉ handler.scheduled := by
      intro scheduled
      have bound := sound.registry.made _ scheduled
      simp [LocalHandler.registry] at bound
    refine ⟨stored, ?_, ?_, ?_, ?_, ?_⟩
    · have enter := sound.registry.enter absent
      simp only [Registry.enter, LocalHandler.registry, List.length_map] at enter
      simp only [LocalHandler.registry, List.map_append, List.map_cons, List.map_nil, key]
      exact enter
    · intro n other here running
      by_cases last : n = handler.objects.length
      · subst last
        exact fresh
      · have bound := (List.getElem?_eq_some_iff.mp here).1
        rw [List.length_append, List.length_singleton] at bound
        rw [List.getElem?_append_left (by omega)] at here
        exact sound.running n other here running
    · intro other inside
      rcases List.mem_append.mp inside with inside | last
      · exact sound.addressed other inside
      · rw [List.mem_singleton.mp last]
        exact keeps.addressed
    · intro e inside
      rcases nodes e inside with inside | of
      · obtain ⟨owner, owned, of⟩ := sound.nodes e inside
        exact ⟨owner, List.mem_append_left _ owned, of⟩
      · exact ⟨after, List.mem_append_right _ List.mem_cons_self, key ▸ of⟩
    · intro first inside second inside'
      rcases List.mem_append.mp inside with inside | last
      · rcases List.mem_append.mp inside' with inside' | last'
        · exact sound.ordered first inside second inside'
        · rw [List.mem_singleton.mp last', key]
          exact (fits first inside).symm
      · rw [List.mem_singleton.mp last, key]
        rcases List.mem_append.mp inside' with inside' | last'
        · exact fits second inside'
        · rw [List.mem_singleton.mp last', key]
          exact ⟨comparable_self _, comparable_self _⟩

theorem Sound.found (sound : Sound handler elements content) {n : Nat} (found : content id = some n) :
    ∃ object, handler.objects[n]? = some object ∧ object.key = id := by
  have named := sound.registry.named id n found
  rw [LocalHandler.registry, List.getElem?_map] at named
  exact Option.map_eq_some_iff.mp named

theorem Sound.step (sound : Sound handler elements content) (enough : elements.length < fuel) {input : Input}
    (meets : handler.Meets fuel input) :
    ∃ handler' elements' content', handler.step abortRetryTm fuel input = some handler' ∧
      Sound handler' elements' content' ∧ elements'.length ≤ elements.length + 1 := by
  have still : ∃ handler' elements' content', some handler = some handler' ∧ Sound handler' elements' content' ∧
      elements'.length ≤ elements.length + 1 := ⟨handler, elements, content, rfl, sound, Nat.le_succ _⟩
  have delivered {n : Nat} {object : Object} (here : handler.objects[n]? = some object) {call : Object → Object × Nat}
      (keeps : object.Keeps (call object)) : ∃ handler' elements' content', handler.deliver fuel n call = some handler' ∧
      Sound handler' elements' content' ∧ elements'.length ≤ elements.length + 1 := by
    obtain ⟨handler', elements', content', ran, sound', fewer⟩ := sound.deliver enough here keeps
    exact ⟨handler', elements', content', ran, sound', Nat.le_succ_of_le fewer⟩
  cases input with
  | request request turn supply =>
    cases named : request.id with
    | none =>
      simp only [LocalHandler.step, named]
      exact still
    | some id =>
      obtain ⟨fits, first⟩ := meets id named
      have looked := sound.stored.lookup_spec enough (sound.orders fits)
      simp only [LocalHandler.step, named, looked, Option.bind_eq_bind, Option.bind_some]
      cases held : content id with
      | some n =>
        obtain ⟨object, here, rfl⟩ := sound.found held
        exact @delivered n object here (·.rxRequest abortRetryTm object.key request turn)
          (rxRequest_keeps abortRetryTm (.inl (sound.addressed object (List.mem_of_getElem? here))))
      | none =>
        rw [held] at looked
        cases registered : handler.factories.lookup request.appId with
        | none => exact still
        | some factory =>
          obtain ⟨notNull, welcomes, supplied⟩ := first looked factory registered
          exact sound.create enough fits held notNull welcomes supplied
  | answer answer turn =>
    cases named : answer.id with
    | none =>
      simp only [LocalHandler.step, named]
      exact still
    | some id =>
      have looked := sound.stored.lookup_spec enough (sound.orders (meets id named))
      simp only [LocalHandler.step, named, looked, Option.bind_eq_bind, Option.bind_some]
      cases held : content id with
      | some n =>
        obtain ⟨object, here, -⟩ := sound.found held
        exact @delivered n object here (·.rxAnswer abortRetryTm answer turn)
          (rxAnswer_keeps abortRetryTm (sound.addressed object (List.mem_of_getElem? here)))
      | none => exact still
  | error target =>
    cases target with
    | none => exact still
    | some id =>
      have looked := sound.stored.lookup_spec enough (sound.orders (meets id rfl))
      simp only [LocalHandler.step, looked, Option.bind_eq_bind, Option.bind_some]
      exact still
  | timeout n type turn =>
    by_cases bound : n < handler.objects.length
    · have here := List.getElem?_eq_getElem bound
      simp only [LocalHandler.step, bound, if_true]
      exact @delivered n _ here (·.timeout abortRetryTm type turn)
        (timeout_keeps abortRetryTm (sound.addressed _ (List.mem_of_getElem? here)))
    · simp only [LocalHandler.step, bound, if_false]
      exact still
  | call n appCall turn =>
    by_cases bound : n < handler.objects.length
    · have here := List.getElem?_eq_getElem bound
      simp only [LocalHandler.step, bound, if_true]
      exact @delivered n _ here (·.call abortRetryTm appCall turn)
        (call_keeps abortRetryTm (sound.addressed _ (List.mem_of_getElem? here)))
    · simp only [LocalHandler.step, bound, if_false]
      exact still

theorem Sound.run (sound : Sound handler elements content) {inputs : List Input}
    (enough : elements.length + inputs.length < fuel) (meets : handler.MeetsAll abortRetryTm fuel inputs) :
    ∃ handler', handler.run abortRetryTm fuel inputs = some handler' ∧ handler'.Live fuel := by
  induction inputs generalizing handler elements content with
  | nil => exact ⟨handler, rfl, sound.live enough⟩
  | cons input inputs ih =>
    rw [List.length_cons] at enough
    obtain ⟨here, later⟩ := meets
    have stepped : ∃ handler' elements' content', handler.step abortRetryTm fuel input = some handler' ∧
        Sound handler' elements' content' ∧ elements'.length ≤ elements.length + 1 :=
      sound.step (by omega) here
    obtain ⟨handler', elements', content', ran, sound', more⟩ := stepped
    rw [ran] at later
    obtain ⟨final, rest, live⟩ := ih sound' (by omega) later
    exact ⟨final, by simp [LocalHandler.run, ran, rest], live⟩

theorem sound_new (factories : List (UInt32 × Factory)) : Sound (new factories) [] fun _ => none where
  stored := stored_new
  registry := by
    refine ⟨?_, ?_, ?_, List.nodup_nil, List.forall_mem_nil _⟩
    · intro key n found
      cases found
    · intro key n found
      cases found
    · intro n key named
      cases named
  running := by
    intro n object here
    cases here
  addressed := List.forall_mem_nil _
  nodes := List.forall_mem_nil _
  ordered := List.forall_mem_nil _

end LocalHandler

end Invariant

section Runs

namespace LocalHandler

variable {abortRetryTm : UInt32} {fuel : Nat}

/-- In a run whose steps all meet the condition, what is found in the database lives, no
session is scheduled for deletion twice, and a session that was not reset is found. -/
theorem database_holds_live_sessions {factories : List (UInt32 × Factory)} {inputs : List Input}
    (enough : inputs.length < fuel) (meets : (new factories).MeetsAll abortRetryTm fuel inputs) :
    ∃ handler, (new factories).run abortRetryTm fuel inputs = some handler ∧ handler.Live fuel :=
  (sound_new factories).run (by simpa using enough) meets

section Samples

def sampleFactories : List (UInt32 × Factory) :=
  [ (3, .acct true { subSessionId := 0, realtimeRequired := ⟨1, false⟩, interimInterval := ⟨60, false⟩, sessionTimeout := 600 }),
    (4, .auth { maintained := true, sessionTimeout := 600, authLifetime := 300, authGrace := 5, reAuthRequestValue := none }) ]

def sampleId : SessionId := ⟨⟨1, 1⟩, [97], []⟩

def sampleRecord (recordType : UInt32) : Request where
  id := some sampleId
  appId := 3
  message :=
    { hopByHop := 7, endToEnd := 8, sessionId := some [97], subSessionId := some 0, recordNumber := some 0,
      recordType := some recordType }

def sampleTurn (spaceAvailable : Bool) (rc : ReturnCode) : Turn where
  maintained := true
  auth :=
    { attributes :=
        { maintained := true, sessionTimeout := 600, authLifetime := 300, authGrace := 5, reAuthRequestValue := none }
      rc }
  acct := { spaceAvailable }

def sampleSupply : Supply := ⟨⟨9, 3⟩, 0, 0⟩

end Samples

/-- A session of accounting is opened, ended by its stop record, and opened once more. -/
theorem database_holds_live_sessions_accounting :
    ∃ handler, (new sampleFactories).run 60 4
        [.request (sampleRecord rectypeStart) (sampleTurn true .success) sampleSupply,
          .request (sampleRecord rectypeStop) (sampleTurn true .success) sampleSupply,
          .request (sampleRecord rectypeStart) (sampleTurn true .success) sampleSupply] = some handler ∧ handler.Live 4 := by
  exact database_holds_live_sessions (by decide) (by decide +kernel)

/-- The first record finds no space: the session resets itself, and is added after that. -/
theorem out_of_space_session_found :
    ∃ handler, (new sampleFactories).run 60 2
        [.request (sampleRecord rectypeStart) (sampleTurn false .success) sampleSupply] = some handler ∧
      ¬handler.Live 2 := by
  refine ⟨_, rfl, fun live => ?_⟩
  exact live.found sampleId 0 (by decide +kernel) (by decide +kernel)

end LocalHandler

end Runs

end OpenDiameter.Session
