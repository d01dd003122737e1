import Mathlib.Data.List.Forall2
import OpenDiameter.Foundation.Runs
import OpenDiameter.Pana.Conversation
import OpenDiameter.Pana.Exchange
import OpenDiameter.Foundation.Lists

/-! The queues of a session, and who owns what is in them.

The messages that are received and the EAP packets that the application gives are numbered.
Beside the machine it is recorded which of them came with which event, and which messages
were destroyed: those that an action takes from the queue or that a reset flushes, and those
that a filter refuses. A message without a handler is never destroyed.
-/

set_option autoImplicit false

namespace OpenDiameter.Pana

open Foundation OpenDiameter.Framework

/-- Something that was passed to a machine, numbered in the order in which it was passed. -/
structure Numbered (α : Type) where
  number : Nat
  value : α
  deriving DecidableEq, Repr

structure Freight where
  message : Option (Numbered Message) := none
  packet : Option (Numbered Octets) := none
  deriving DecidableEq, Repr

def Freight.empty : Freight := {}

/-- How the sessions of a class use the queues. -/
structure Usage (Action Call : Type) where
  takesRx : Action → Bool
  takesEap : Action → Bool
  resets : Action → Option Message → Bool
  packet : Call → Option Octets
  /-- The error messages that the filter passes to `RxPER`. -/
  tells : Message → Bool

structure Ledger (Event : Type) where
  machine : Machine Event
  freights : List Freight := []
  /-- The queue of the machine, and those of its session. -/
  arriving : List (Numbered Message) := []
  held : List (Numbered Message) := []
  packets : List (Numbered Octets) := []
  destroyed : List (Numbered Message) := []
  received : Nat := 0
  called : Nat := 0
  deriving DecidableEq, Repr

namespace Ledger

section Steps

variable {Event Action Call : Type} [DecidableEq Event] (program : Program Event Action Call)
  (usage : Usage Action Call) (ledger : Ledger Event)

def settle (held : List (Numbered Message)) : Ledger Event :=
  let gone := held.length - ledger.machine.session.rxMsgQueue.length
  let lost := ledger.packets.length - ledger.machine.session.txEapMessageQueue.length
  { ledger with
    held := held.drop gone
    destroyed := ledger.destroyed ++ held.take gone
    packets := ledger.packets.drop lost }

def destroy (msg : Numbered Message) : Ledger Event := { ledger with destroyed := ledger.destroyed ++ [msg] }

def bring (freight : Freight) : Ledger Event := { ledger with freights := ledger.freights ++ [freight] }

def enqueues (filter : RxFilter Event) (filtering : Draws) (msg : Message) (s : Session) : Bool :=
  if msg.type = mtypePER then usage.tells msg && s.accepts program.crypto msg filter.skipAuth
  else
    match filter.handleMessage program.crypto filtering msg s with
    | .ok _ _ => true
    | .error _ _ => false

/-- A message that was filtered in a session `s`. It is destroyed where its filter throws, also
when it was queued; the event of an error message comes without the message. -/
def handled (filter : RxFilter Event) (filtering : Draws) (msg : Numbered Message) (s : Session) : Ledger Event :=
  let entered := if enqueues program usage filter filtering msg.value s then [msg] else []
  match filter.handleMessage program.crypto filtering msg.value s with
  | .ok _ _ => (ledger.settle (ledger.held ++ entered)).bring
      { message := if msg.value.type = mtypePER then none else some msg }
  | .error (.thrown _) _ => (ledger.settle (ledger.held ++ entered)).destroy msg
  | .error .fault _ => ledger.settle (ledger.held ++ entered)

/-- `PANA_SessionRxInterfaceTable::Receive`. -/
def filter (filtering : Draws) : Ledger Event :=
  let served := { ledger with machine := program.serveMessage ledger.machine filtering, arriving := ledger.arriving.tail }
  match ledger.arriving with
  | [] => served
  | msg :: _ =>
    match program.msgHandlers msg.value.type with
    | none => served
    | some filter =>
      if ledger.machine.state ∈ filter.validStates then
        served.handled program usage filter filtering msg ledger.machine.session
      else served.destroy msg

/-- The second half of `Serve`; an event that an action notifies comes with nothing. -/
def act (acting : Draws) : Ledger Event :=
  let machine := program.serveEvent ledger.machine acting
  let added := machine.eventQueue.length - ledger.machine.eventQueue.tail.length
  let freights := ledger.freights.tail ++ List.replicate added .empty
  settle { ledger with machine := machine, freights := freights } ledger.held

def step (input : Input Call) : Ledger Event :=
  if ledger.machine.faulted then ledger
  else
    let machine := program.step ledger.machine input
    match input with
    | .receive msg =>
      { ledger with
        machine := machine
        arriving := ledger.arriving ++ [⟨ledger.received, msg⟩]
        received := ledger.received + 1 }
    | .serve filtering acting =>
      let filtered := ledger.filter program usage filtering
      if filtered.machine.faulted then filtered else filtered.act program acting
    | .call c =>
      let packet := (usage.packet c).map (Numbered.mk ledger.called)
      { ledger with
        machine := machine
        packets := ledger.packets ++ packet.toList
        freights := ledger.freights ++ [{ packet := packet }]
        called := ledger.called + 1 }
    -- An expiry raises an event that brings neither a message nor a packet.
    | .timeout tid =>
      if ledger.machine.session.timers.scheduled tid then
        { ledger with machine := machine, freights := ledger.freights ++ [.empty] }
      else ledger

end Steps

section Purposes

variable {Event Action Call : Type} [DecidableEq Event] (program : Program Event Action Call)
  (usage : Usage Action Call) (ledger : Ledger Event)

structure Fed : Prop where
  message : ∀ notice entry, program.next ledger.machine = some (notice, entry) → usage.takesRx entry.action →
    ∃ msg, ledger.freights.head?.bind Freight.message = some msg ∧ ledger.held.head? = some msg ∧
      ledger.machine.session.rxMsgQueue.head? = some msg.value ∧ notice.cause = some msg.value
  packet : ∀ notice entry, program.next ledger.machine = some (notice, entry) → usage.takesEap entry.action →
    ∃ packet, ledger.freights.head?.bind Freight.packet = some packet ∧ ledger.packets.head? = some packet ∧
      ledger.machine.session.txEapMessageQueue.head? = some packet.value

def Accounted : Prop :=
  ((ledger.arriving ++ ledger.held ++ ledger.destroyed).map Numbered.number).Perm (List.range ledger.received)

structure InStep (input : Input Call) : Prop where
  fed : ∀ filtering acting, input = .serve filtering acting → ledger.machine.faulted = false →
    (ledger.filter program usage filtering).machine.faulted = false →
    (ledger.filter program usage filtering).Fed program usage
  idle : (ledger.step program usage input).machine.eventQueue = [] →
    (ledger.step program usage input).machine.session.rxMsgQueue = [] ∧
      (ledger.step program usage input).machine.session.txEapMessageQueue = []
  accounted : (ledger.step program usage input).Accounted

def Unladen (freights : List Freight) : Prop := ∀ freight ∈ freights, freight = .empty

instance (freights : List Freight) : Decidable (Unladen freights) :=
  inferInstanceAs (Decidable (∀ freight ∈ freights, freight = .empty))

structure Received (msg : Message) : Prop where
  handled : (program.msgHandlers msg.type).isSome
  answered : ∀ next ∈ program.validating ledger.machine, next.2.1.Repeats msg → next.2.1.cachedAnsMsg ≠ none
  error : ∀ next ∈ program.validating ledger.machine, msg.type = mtypePER →
    next.2.1.Acceptable program.crypto msg next.1.skipAuth →
      usage.tells msg ∧ msg.avpList.resultCode ≠ none ∧ Unladen ledger.freights

instance (msg : Message) : Decidable (ledger.Received program usage msg) :=
  decidable_of_iff
    ((program.msgHandlers msg.type).isSome ∧
      (∀ next ∈ program.validating ledger.machine, next.2.1.Repeats msg → next.2.1.cachedAnsMsg ≠ none) ∧
        ∀ next ∈ program.validating ledger.machine, msg.type = mtypePER →
          next.2.1.Acceptable program.crypto msg next.1.skipAuth →
            usage.tells msg ∧ msg.avpList.resultCode ≠ none ∧ Unladen ledger.freights)
    ⟨fun ⟨handled, answered, error⟩ => ⟨handled, answered, error⟩,
      fun ⟨handled, answered, error⟩ => ⟨handled, answered, error⟩⟩

structure Matched (freight : Freight) (action : Action) : Prop where
  needs : (usage.takesRx action → freight.message ≠ none) ∧ (usage.takesEap action → freight.packet ≠ none)
  leaves : if usage.resets action ledger.machine.session.rxMsgQueue.head? then Unladen ledger.freights.tail
    else (freight.message ≠ none → usage.takesRx action) ∧ (freight.packet ≠ none → usage.takesEap action)

instance (freight : Freight) (action : Action) : Decidable (ledger.Matched usage freight action) :=
  decidable_of_iff
    (((usage.takesRx action → freight.message ≠ none) ∧ (usage.takesEap action → freight.packet ≠ none)) ∧
      if usage.resets action ledger.machine.session.rxMsgQueue.head? then Unladen ledger.freights.tail
      else (freight.message ≠ none → usage.takesRx action) ∧ (freight.packet ≠ none → usage.takesEap action))
    ⟨fun ⟨needs, leaves⟩ => ⟨needs, leaves⟩, fun ⟨needs, leaves⟩ => ⟨needs, leaves⟩⟩

/-- What holds of the event that `Serve` handles. -/
def Handled : Prop :=
  ∀ freight ∈ ledger.freights.head?,
    match program.next ledger.machine with
    | none => freight = .empty
    | some (_, entry) => ledger.Matched usage freight entry.action

instance : Decidable (ledger.Handled program usage) := by
  unfold Handled
  cases program.next ledger.machine with
  | none => infer_instance
  | some pair => infer_instance

/-- What the surroundings of a session see to. -/
def Attended (input : Input Call) : Prop :=
  match input with
  | .serve filtering _ => (∀ msg ∈ ledger.arriving.head?, ledger.Received program usage msg.value) ∧
      (ledger.filter program usage filtering).Handled program usage
  | _ => True

instance (input : Input Call) : Decidable (ledger.Attended program usage input) :=
  match input with
  | .serve _ _ => by
    unfold Attended
    infer_instance
  | .receive _ | .call _ | .timeout _ => isTrue trivial

end Purposes

end Ledger

def Session.Leaves (s t : Session) (resets takesRx takesEap : Bool) : Prop :=
  t.rxMsgQueue = (if resets then [] else if takesRx then s.rxMsgQueue.tail else s.rxMsgQueue) ∧
    t.txEapMessageQueue = if resets then [] else if takesEap then s.txEapMessageQueue.tail else s.txEapMessageQueue

structure Usage.Describes {Event Action Call : Type} (usage : Usage Action Call)
    (program : Program Event Action Call) : Prop where
  perform : ∀ draws action (s : Session), (usage.takesRx action → s.rxMsgQueue ≠ []) →
    (usage.takesEap action → s.txEapMessageQueue ≠ []) →
    s.Leaves ((program.perform draws action).after s) (usage.resets action s.rxMsgQueue.head?) (usage.takesRx action)
      (usage.takesEap action)
  call : ∀ c s, (program.call c s).1.rxMsgQueue = s.rxMsgQueue ∧
    (program.call c s).1.txEapMessageQueue = s.txEapMessageQueue ++ (usage.packet c).toList
  first : ∀ {type filter}, program.msgHandlers type = some filter → ∀ msg s,
    (∃ e, filter.first msg s = .error (.thrown e) s) ∨
      ∃ t, filter.first msg s = .ok () t ∧ t.rxMsgQueue = s.rxMsgQueue ∧ t.txEapMessageQueue = s.txEapMessageQueue
  resolve : ∀ {type filter}, program.msgHandlers type = some filter → type ≠ mtypePER → ∀ draws msg s,
    (∃ event t, filter.resolve draws msg s = .ok event t ∧ t.rxMsgQueue = s.rxMsgQueue ++ [msg] ∧
        t.txEapMessageQueue = s.txEapMessageQueue) ∨
      ∃ e t, filter.resolve draws msg s = .error (.thrown e) t ∧ t.rxMsgQueue = s.rxMsgQueue ∧
        t.txEapMessageQueue = s.txEapMessageQueue
  error : ∀ {filter}, program.msgHandlers mtypePER = some filter → (∀ msg s, filter.first msg s = .ok () s) ∧
    ∀ draws msg s, usage.tells msg → msg.avpList.resultCode ≠ none → s.rxMsgQueue = [] →
      ∃ event t, filter.resolve draws msg s = .ok event t ∧ t.rxMsgQueue = [] ∧ t.txEapMessageQueue = []

namespace Session

/-- What validation leaves of the queues, unless it faults. -/
theorem queues_rxValidateMsg (crypto : Crypto) (s : Session) (msg : Message) (skipAuth : Bool)
    (answered : s.Repeats msg → s.cachedAnsMsg ≠ none) :
    (s.Acceptable crypto msg skipAuth ∧ rxValidateMsg crypto msg skipAuth s = .ok () (s.count msg)) ∨
      ∃ e t, rxValidateMsg crypto msg skipAuth s = .error (.thrown e) t ∧ t.rxMsgQueue = s.rxMsgQueue ∧
        t.txEapMessageQueue = s.txEapMessageQueue := by
  have how := s.validates crypto msg skipAuth
  generalize rxValidateMsg crypto msg skipAuth s = result at how
  cases how with
  | accepted acceptable => exact Or.inl ⟨acceptable, rfl⟩
  | unanswered repeats empty => exact absurd empty (answered repeats)
  | resent repeats cached kept same e => exact Or.inr ⟨e, _, rfl, rfl, rfl⟩
  | unexpected repeats cached kept other e => exact Or.inr ⟨e, _, rfl, rfl, rfl⟩
  | misnumbered misnumbered fresh e => exact Or.inr ⟨e, _, rfl, rfl, rfl⟩
  | refusedFirst first refused e => exact Or.inr ⟨e, _, rfl, rfl, rfl⟩
  | refused later numbered refused e => exact Or.inr ⟨e, _, rfl, rfl, rfl⟩

@[simp] theorem txEapMessageQueue_count (s : Session) (msg : Message) :
    (s.count msg).txEapMessageQueue = s.txEapMessageQueue := by
  unfold count
  cases msg.request <;> rfl

@[simp] theorem txEapMessageQueue_saveAddress (s : Session) (msg : Message) :
    (s.saveAddress msg).txEapMessageQueue = s.txEapMessageQueue := by
  unfold saveAddress
  cases s.role <;> rfl

end Session

namespace Program

variable {Event Action Call : Type} {program : Program Event Action Call} {machine : Machine Event}
  {filter : RxFilter Event} {msg : Message}

theorem serveMessage_of_ok (meets : program.filters machine = some (filter, msg)) {filtering : Draws} {event : Event}
    {t : Session} (returns : filter.handleMessage program.crypto filtering msg machine.session = .ok event t) :
    program.serveMessage machine filtering =
      { machine with rxMsgQueue := machine.rxMsgQueue.tail, session := t }.notify ⟨event, some msg⟩ := by
  rw [serveMessage_eq, meets]
  dsimp only
  unfold handleMessage
  rw [if_pos (filters_mem meets).2.2]
  dsimp only
  rw [returns]

theorem serveMessage_of_thrown (meets : program.filters machine = some (filter, msg)) {filtering : Draws}
    {e : Exception} {t : Session}
    (throws : filter.handleMessage program.crypto filtering msg machine.session = .error (.thrown e) t) :
    program.serveMessage machine filtering =
      { machine with rxMsgQueue := machine.rxMsgQueue.tail, session := t } := by
  rw [serveMessage_eq, meets]
  dsimp only
  unfold handleMessage
  rw [if_pos (filters_mem meets).2.2]
  dsimp only
  rw [throws]

theorem serveMessage_of_unfiltered (drops : program.filters machine = none) (filtering : Draws) :
    program.serveMessage machine filtering = { machine with rxMsgQueue := machine.rxMsgQueue.tail } := by
  rw [serveMessage_eq, drops]

theorem serveEvent_eq [DecidableEq Event] (acting : Draws) :
    program.serveEvent machine acting = match program.next machine with
      | none => { machine with eventQueue := machine.eventQueue.tail }
      | some (_, entry) => program.act { machine with eventQueue := machine.eventQueue.tail } acting entry := by
  unfold serveEvent next
  cases queue : machine.eventQueue with
  | nil =>
    cases machine
    cases queue
    rfl
  | cons notice rest =>
    dsimp only
    rw [List.head?_cons, Option.bind_some]
    cases program.table.findStateTableEntry machine.state notice.event <;> rfl

theorem rxMsgQueue_act (acting : Draws) (entry : StateTableEntry State Event Action) :
    (program.act machine acting entry).rxMsgQueue = machine.rxMsgQueue := by
  unfold act
  cases program.perform acting entry.action machine.session with
  | ok event s => cases event <;> rfl
  | error failure s => cases failure <;> rfl

end Program

namespace Ledger

section Invariant

variable {Event : Type} {ledger : Ledger Event}

/-- The queues hold what came with the events that wait, in their order. -/
structure Sync (ledger : Ledger Event) : Prop where
  arriving : ledger.arriving.map Numbered.value = ledger.machine.rxMsgQueue
  held : ledger.held.map Numbered.value = ledger.machine.session.rxMsgQueue
  packets : ledger.packets.map Numbered.value = ledger.machine.session.txEapMessageQueue
  messages : ledger.held = ledger.freights.filterMap Freight.message
  payloads : ledger.packets = ledger.freights.filterMap Freight.packet
  causes : List.Forall₂ (fun notice freight => ∀ msg ∈ freight.message, notice.cause = some msg.value)
    ledger.machine.eventQueue ledger.freights
  accounted : ledger.Accounted

theorem Unladen.held {freights : List Freight} (unladen : Unladen freights) :
    freights.filterMap Freight.message = [] ∧ freights.filterMap Freight.packet = [] := by
  constructor
  · apply List.filterMap_eq_nil_iff.mpr
    intro freight mem
    rw [unladen freight mem]
    rfl
  · apply List.filterMap_eq_nil_iff.mpr
    intro freight mem
    rw [unladen freight mem]
    rfl

theorem carried_append (freights : List Freight) (freight : Freight) :
    (freights ++ [freight]).filterMap Freight.message = freights.filterMap Freight.message ++ freight.message.toList ∧
      (freights ++ [freight]).filterMap Freight.packet = freights.filterMap Freight.packet ++ freight.packet.toList := by
  simp only [List.filterMap_append]
  cases freight with
  | mk message packet => cases message <;> cases packet <;> exact ⟨rfl, rfl⟩

/-- Nothing is queued when no event came with anything. -/
theorem Sync.empty (sync : ledger.Sync) (unladen : Unladen ledger.freights) :
    ledger.machine.session.rxMsgQueue = [] ∧ ledger.machine.session.txEapMessageQueue = [] := by
  rw [← sync.held, ← sync.packets, sync.messages, sync.payloads, unladen.held.1, unladen.held.2]
  exact ⟨rfl, rfl⟩

theorem Sync.idle (sync : ledger.Sync) (empty : ledger.machine.eventQueue = []) :
    ledger.machine.session.rxMsgQueue = [] ∧ ledger.machine.session.txEapMessageQueue = [] := by
  have causes := sync.causes
  rw [empty, List.forall₂_nil_left_iff] at causes
  apply sync.empty
  intro freight mem
  rw [causes] at mem
  cases mem

theorem settled {α : Type} {queue : List (Numbered α)} {left : List α} {gone : Nat}
    (same : left = (queue.map Numbered.value).drop gone) (enough : gone ≤ queue.length) :
    queue.length - left.length = gone := by
  rw [same, List.length_drop, List.length_map]
  omega

theorem settle_eq {held : List (Numbered Message)} {gone lost : Nat}
    (rx : ledger.machine.session.rxMsgQueue = (held.map Numbered.value).drop gone) (enough : gone ≤ held.length)
    (tx : ledger.machine.session.txEapMessageQueue = (ledger.packets.map Numbered.value).drop lost)
    (most : lost ≤ ledger.packets.length) :
    ledger.settle held = { ledger with
      held := held.drop gone
      destroyed := ledger.destroyed ++ held.take gone
      packets := ledger.packets.drop lost } := by
  unfold settle
  rw [settled rx enough, settled tx most]

theorem Accounted.of_perm (accounted : ledger.Accounted) {other : Ledger Event}
    (received : other.received = ledger.received)
    (same : (other.arriving ++ other.held ++ other.destroyed).Perm
      (ledger.arriving ++ ledger.held ++ ledger.destroyed)) : other.Accounted := by
  unfold Accounted
  rw [received]
  exact (same.map Numbered.number).trans accounted

theorem Sync.handled (sync : ledger.Sync) (machine : Machine Event) {added : List (Notice Event)}
    (arriving : machine.rxMsgQueue = ledger.machine.rxMsgQueue)
    (queue : machine.eventQueue = ledger.machine.eventQueue.tail ++ added)
    {gone lost : Nat} (enough : gone ≤ ledger.held.length) (most : lost ≤ ledger.packets.length)
    (rx : machine.session.rxMsgQueue = (ledger.held.map Numbered.value).drop gone)
    (tx : machine.session.txEapMessageQueue = (ledger.packets.map Numbered.value).drop lost)
    (messages : ledger.held.drop gone = ledger.freights.tail.filterMap Freight.message)
    (payloads : ledger.packets.drop lost = ledger.freights.tail.filterMap Freight.packet) :
    Sync (settle { ledger with
      machine := machine
      freights := ledger.freights.tail ++ List.replicate added.length .empty } ledger.held) := by
  have unladen : Unladen (List.replicate added.length .empty) := fun freight mem => List.eq_of_mem_replicate mem
  let served := { ledger with
    machine := machine
    freights := ledger.freights.tail ++ List.replicate added.length Freight.empty }
  have settles : served.settle ledger.held = _ := settle_eq rx enough tx most
  show (served.settle ledger.held).Sync
  rw [settles]
  constructor
  case arriving => exact sync.arriving.trans arriving.symm
  case held =>
    dsimp only
    rw [List.map_drop, rx]
  case packets =>
    dsimp only
    rw [List.map_drop, tx]
  case messages =>
    dsimp only
    rw [List.filterMap_append, unladen.held.1, List.append_nil, messages]
  case payloads =>
    dsimp only
    rw [List.filterMap_append, unladen.held.2, List.append_nil, payloads]
  case causes =>
    dsimp only
    rw [queue]
    apply List.rel_append
    · exact forall₂_tail sync.causes
    · apply List.forall₂_iff_get.mpr
      refine ⟨by rw [List.length_replicate], ?_⟩
      intro i _ _ msg came
      simp [Freight.empty] at came
  case accounted =>
    refine sync.accounted.of_perm rfl ?_
    have split := List.take_append_drop gone ledger.held
    have moved : (ledger.arriving ++ ledger.held.drop gone ++ (ledger.destroyed ++ ledger.held.take gone)).Perm
        (ledger.arriving ++ (ledger.held.take gone ++ ledger.held.drop gone) ++ ledger.destroyed) := by
      simp only [List.append_assoc]
      apply List.Perm.append_left
      rw [← List.append_assoc, ← List.append_assoc]
      exact List.perm_append_comm.trans (by rw [List.append_assoc])
    rw [split] at moved
    exact moved

end Invariant

section Filtering

variable {Event Action Call : Type} {program : Program Event Action Call} {usage : Usage Action Call}
  {ledger : Ledger Event}

theorem filtered_cases (describes : usage.Describes program) (sync : ledger.Sync) {filter : RxFilter Event}
    {msg : Message} (meets : program.filters ledger.machine = some (filter, msg))
    (received : ledger.Received program usage msg) (filtering : Draws) :
    (∃ e t, filter.handleMessage program.crypto filtering msg ledger.machine.session = .error (.thrown e) t ∧
        t.rxMsgQueue = ledger.machine.session.rxMsgQueue ∧
        t.txEapMessageQueue = ledger.machine.session.txEapMessageQueue ∧
        enqueues program usage filter filtering msg ledger.machine.session = false) ∨
      ∃ event t, filter.handleMessage program.crypto filtering msg ledger.machine.session = .ok event t ∧
        enqueues program usage filter filtering msg ledger.machine.session = true ∧
        if msg.type = mtypePER then Unladen ledger.freights ∧ t.rxMsgQueue = [] ∧ t.txEapMessageQueue = []
        else t.rxMsgQueue = ledger.machine.session.rxMsgQueue ++ [msg] ∧
          t.txEapMessageQueue = ledger.machine.session.txEapMessageQueue := by
  obtain ⟨_, handles, _⟩ := Program.filters_mem meets
  have passed {u : Session} (passes : filter.first msg ledger.machine.session = .ok () u) :
      program.validating ledger.machine = some (filter, u, msg) := by
    unfold Program.validating
    rw [meets, Option.bind_some]
    dsimp only
    rw [passes]
  have thrown {e : Failure Exception} {t : Session} (throws : filter.first msg ledger.machine.session = .error e t) :
      filter.handleMessage program.crypto filtering msg ledger.machine.session = .error e t := by
    unfold RxFilter.handleMessage
    rw [Imperative.bind_run, throws]
  have stopped {u t : Session} {e : Failure Exception} (passes : filter.first msg ledger.machine.session = .ok () u)
      (refused : Session.rxValidateMsg program.crypto msg filter.skipAuth u = .error e t) :
      filter.handleMessage program.crypto filtering msg ledger.machine.session = .error e t := by
    unfold RxFilter.handleMessage
    rw [Imperative.bind_run, passes]
    dsimp only
    rw [Imperative.bind_run, refused]
  have run {u v : Session} (passes : filter.first msg ledger.machine.session = .ok () u)
      (valid : Session.rxValidateMsg program.crypto msg filter.skipAuth u = .ok () v) :
      filter.handleMessage program.crypto filtering msg ledger.machine.session = filter.resolve filtering msg v := by
    unfold RxFilter.handleMessage
    rw [Imperative.bind_run, passes]
    dsimp only
    rw [Imperative.bind_run, valid]
  by_cases error : msg.type = mtypePER
  · -- An error message is accepted only when nothing else is queued.
    have opens := describes.error (error ▸ handles)
    have passes := opens.1 msg ledger.machine.session
    have validating := passed passes
    rcases Session.queues_rxValidateMsg program.crypto ledger.machine.session msg filter.skipAuth
        (received.answered _ validating) with ⟨acceptable, valid⟩ | ⟨e, t, refused, rx, tx⟩
    · obtain ⟨tells, result, unladen⟩ := received.error _ validating error acceptable
      have clear := (sync.empty unladen).1
      obtain ⟨event, t, resolves, rx, tx⟩ := opens.2 filtering msg (ledger.machine.session.count msg) tells result
        ((Session.rxMsgQueue_count ..).trans clear)
      refine Or.inr ⟨event, t, (run passes valid).trans resolves, ?_, ?_⟩
      · unfold enqueues
        rw [if_pos error, tells, (Session.accepts_iff ..).mpr acceptable]
        rfl
      · rw [if_pos error]
        exact ⟨unladen, rx, tx⟩
    · refine Or.inl ⟨e, t, stopped passes refused, rx, tx, ?_⟩
      unfold enqueues Session.accepts
      rw [if_pos error, refused, Bool.and_false]
  · have enqueued : enqueues program usage filter filtering msg ledger.machine.session = _ := if_neg error
    rw [enqueued]
    rcases describes.first handles msg ledger.machine.session with ⟨e, throws⟩ | ⟨u, passes, rx, tx⟩
    · rw [thrown throws]
      exact Or.inl ⟨e, _, rfl, rfl, rfl, rfl⟩
    · rcases Session.queues_rxValidateMsg program.crypto u msg filter.skipAuth
          (received.answered _ (passed passes)) with ⟨_, valid⟩ | ⟨e, t, refused, rx', tx'⟩
      · rcases describes.resolve handles error filtering msg (u.count msg) with
          ⟨event, t, resolves, rx', tx'⟩ | ⟨e, t, throws, rx', tx'⟩
        · rw [run passes valid, resolves]
          refine Or.inr ⟨event, t, rfl, rfl, ?_⟩
          rw [if_neg error, rx', tx', Session.rxMsgQueue_count, Session.txEapMessageQueue_count, rx, tx]
          exact ⟨rfl, rfl⟩
        · rw [run passes valid, throws]
          refine Or.inl ⟨e, t, rfl, ?_, ?_, rfl⟩
          · rw [rx', Session.rxMsgQueue_count, rx]
          · rw [tx', Session.txEapMessageQueue_count, tx]
      · rw [stopped passes refused]
        exact Or.inl ⟨e, t, rfl, rx'.trans rx, tx'.trans tx, rfl⟩

theorem Sync.tail (sync : ledger.Sync) :
    ledger.arriving.tail.map Numbered.value = ledger.machine.rxMsgQueue.tail := by
  rw [List.map_tail, sync.arriving]

theorem Sync.thrown (sync : ledger.Sync) {msg : Numbered Message} {rest : List (Numbered Message)}
    (arriving : ledger.arriving = msg :: rest) {t : Session}
    (rx : t.rxMsgQueue = ledger.machine.session.rxMsgQueue)
    (tx : t.txEapMessageQueue = ledger.machine.session.txEapMessageQueue) :
    Sync (destroy
      { ledger with
        machine := { ledger.machine with rxMsgQueue := ledger.machine.rxMsgQueue.tail, session := t }
        arriving := ledger.arriving.tail } msg) where
  arriving := sync.tail
  held := sync.held.trans rx.symm
  packets := sync.packets.trans tx.symm
  messages := sync.messages
  payloads := sync.payloads
  causes := sync.causes
  accounted := by
    have moved : (ledger.arriving.tail ++ ledger.held ++ (ledger.destroyed ++ [msg])).Perm
        (ledger.arriving ++ ledger.held ++ ledger.destroyed) := by
      rw [arriving, List.tail_cons, ← List.append_assoc]
      exact List.perm_append_singleton msg _
    exact sync.accounted.of_perm rfl moved

theorem Sync.queued (sync : ledger.Sync) {msg : Numbered Message} {rest : List (Numbered Message)}
    (arriving : ledger.arriving = msg :: rest) {t : Session} {event : Event}
    (rx : t.rxMsgQueue = ledger.machine.session.rxMsgQueue ++ [msg.value])
    (tx : t.txEapMessageQueue = ledger.machine.session.txEapMessageQueue) :
    Sync (bring
      { ledger with
        machine := { ledger.machine with rxMsgQueue := ledger.machine.rxMsgQueue.tail, session := t }.notify
          ⟨event, some msg.value⟩
        arriving := ledger.arriving.tail
        held := ledger.held ++ [msg] } { message := some msg }) where
  arriving := sync.tail
  held := by
    have appended : (ledger.held ++ [msg]).map Numbered.value = t.rxMsgQueue := by
      rw [List.map_append, sync.held, rx]
      rfl
    exact appended
  packets := sync.packets.trans tx.symm
  messages := by
    have appended := (carried_append ledger.freights { message := some msg }).1
    rw [← sync.messages] at appended
    exact appended.symm
  payloads := by
    have appended := (carried_append ledger.freights { message := some msg }).2
    rw [← sync.payloads] at appended
    exact (appended.trans (List.append_nil _)).symm
  causes := by
    apply List.rel_append sync.causes
    simp
  accounted := by
    have moved : (ledger.arriving.tail ++ (ledger.held ++ [msg]) ++ ledger.destroyed).Perm
        (ledger.arriving ++ ledger.held ++ ledger.destroyed) := by
      rw [arriving, List.tail_cons, ← List.append_assoc rest]
      exact (List.perm_append_singleton msg _).append_right _
    exact sync.accounted.of_perm rfl moved

theorem Sync.cleared (sync : ledger.Sync) {msg : Numbered Message} {rest : List (Numbered Message)}
    (arriving : ledger.arriving = msg :: rest) (unladen : Unladen ledger.freights) {t : Session} {event : Event}
    {cause : Option Message} (rx : t.rxMsgQueue = []) (tx : t.txEapMessageQueue = []) :
    Sync (bring
      { ledger with
        machine := { ledger.machine with rxMsgQueue := ledger.machine.rxMsgQueue.tail, session := t }.notify
          ⟨event, cause⟩
        arriving := ledger.arriving.tail
        held := []
        packets := []
        destroyed := ledger.destroyed ++ [msg] } .empty) where
  arriving := sync.tail
  held := rx.symm
  packets := tx.symm
  messages := by
    have appended := (carried_append ledger.freights .empty).1
    rw [unladen.held.1] at appended
    exact appended.symm
  payloads := by
    have appended := (carried_append ledger.freights .empty).2
    rw [unladen.held.2] at appended
    exact appended.symm
  causes := by
    apply List.rel_append sync.causes
    simp [Freight.empty]
  accounted := by
    have empty : ledger.held = [] := sync.messages.trans unladen.held.1
    have moved : (ledger.arriving.tail ++ [] ++ (ledger.destroyed ++ [msg])).Perm
        (ledger.arriving ++ ledger.held ++ ledger.destroyed) := by
      rw [arriving, empty, List.tail_cons, ← List.append_assoc]
      exact List.perm_append_singleton msg _
    exact sync.accounted.of_perm rfl moved

theorem Sync.filter (describes : usage.Describes program) (sync : ledger.Sync)
    (received : ∀ msg ∈ ledger.arriving.head?, ledger.Received program usage msg.value) (filtering : Draws) :
    (ledger.filter program usage filtering).Sync := by
  have queue := sync.arriving
  unfold Ledger.filter
  cases arriving : ledger.arriving with
  | nil =>
    have idle : program.serveMessage ledger.machine filtering = ledger.machine := by
      rw [arriving] at queue
      unfold Program.serveMessage
      rw [← queue]
      rfl
    dsimp only
    rw [idle]
    rw [List.tail_nil, ← arriving]
    exact sync
  | cons msg rest =>
    rw [arriving, List.map_cons] at queue
    have here := received msg (arriving ▸ rfl)
    obtain ⟨filter, handles⟩ := Option.isSome_iff_exists.mp here.handled
    dsimp only
    rw [handles]
    dsimp only
    -- The message is filtered in this state, or dropped.
    by_cases valid : ledger.machine.state ∈ filter.validStates
    · have meets : program.filters ledger.machine = some (filter, msg.value) := by
        unfold Program.filters
        rw [← queue, List.head?_cons, Option.bind_some, handles, Option.filter_some, decide_eq_true valid]
        rfl
      rw [if_pos valid]
      unfold Ledger.handled
      -- The first level throws, or the second one raises the event.
      rcases filtered_cases describes sync meets here filtering with
        ⟨e, t, throws, rx, tx, out⟩ | ⟨event, t, returns, entered, queues⟩
      · rw [throws, out, Program.serveMessage_of_thrown meets throws, ← arriving]
        dsimp only
        rw [if_neg Bool.false_ne_true, List.append_nil, settle_eq (rx.trans sync.held.symm) (Nat.zero_le _)
          (tx.trans sync.packets.symm) (Nat.zero_le _), List.take_zero, List.append_nil]
        exact sync.thrown arriving rx tx
      · rw [returns, entered, Program.serveMessage_of_ok meets returns, ← arriving]
        dsimp only
        rw [if_pos rfl]
        -- A PER empties the queues itself; every other message enters the queue.
        by_cases error : msg.value.type = mtypePER
        · rw [if_pos error] at queues ⊢
          obtain ⟨unladen, rx, tx⟩ := queues
          have empty : ledger.held = [] := sync.messages.trans unladen.held.1
          have none : ledger.packets = [] := sync.payloads.trans unladen.held.2
          have gone : t.rxMsgQueue = ([msg].map Numbered.value).drop 1 := rx
          have lost : t.txEapMessageQueue = (ledger.packets.map Numbered.value).drop 0 := by
            rw [tx, none]
            rfl
          rw [empty, List.nil_append, settle_eq gone (Nat.le_refl _) lost (Nat.zero_le _), none]
          exact sync.cleared arriving unladen rx tx
        · rw [if_neg error] at queues ⊢
          obtain ⟨rx, tx⟩ := queues
          have appended : t.rxMsgQueue = (ledger.held ++ [msg]).map Numbered.value := by
            rw [rx, ← sync.held, List.map_append]
            rfl
          rw [settle_eq appended (Nat.zero_le _) (tx.trans sync.packets.symm) (Nat.zero_le _), List.take_zero,
            List.append_nil]
          exact sync.queued arriving rx tx
    · have drops : program.filters ledger.machine = none := by
        unfold Program.filters
        rw [← queue, List.head?_cons, Option.bind_some, handles, Option.filter_some, decide_eq_false valid]
        rfl
      rw [if_neg valid, Program.serveMessage_of_unfiltered drops, ← arriving]
      exact sync.thrown arriving rfl rfl

end Filtering

section Handling

variable {Event Action Call : Type} [DecidableEq Event] {program : Program Event Action Call}
  {usage : Usage Action Call} {ledger : Ledger Event}

theorem Sync.next (sync : ledger.Sync) {notice : Notice Event} {entry : StateTableEntry State Event Action}
    (next : program.next ledger.machine = some (notice, entry)) :
    ∃ freight rest, ledger.freights = freight :: rest ∧
      ∀ msg ∈ freight.message, notice.cause = some msg.value := by
  unfold Program.next at next
  obtain ⟨first, head, found⟩ := Option.bind_eq_some_iff.mp next
  obtain ⟨_, _, same⟩ := Option.map_eq_some_iff.mp found
  cases same
  have causes := sync.causes
  cases queue : ledger.machine.eventQueue with
  | nil =>
    rw [queue] at head
    cases head
  | cons notice rest =>
    rw [queue] at causes head
    cases head
    cases freights : ledger.freights with
    | nil =>
      rw [freights] at causes
      cases causes
    | cons freight others =>
      rw [freights] at causes
      exact ⟨freight, others, rfl, (List.forall₂_cons.mp causes).1⟩

theorem Sync.fed (sync : ledger.Sync) (matched : ledger.Handled program usage) : ledger.Fed program usage where
  message notice entry next takes := by
    obtain ⟨freight, rest, freights, caused⟩ := sync.next next
    have fits := matched freight (freights ▸ rfl)
    rw [next] at fits
    obtain ⟨msg, came⟩ := Option.ne_none_iff_exists'.mp (fits.needs.1 takes)
    have held : ledger.held.head? = some msg := by
      rw [sync.messages, freights, List.filterMap_cons, came]
      rfl
    refine ⟨msg, ?_, held, ?_, caused msg came⟩
    · rw [freights]
      exact came
    · rw [← sync.held, List.head?_map, held]
      rfl
  packet notice entry next takes := by
    obtain ⟨freight, rest, freights, -⟩ := sync.next next
    have fits := matched freight (freights ▸ rfl)
    rw [next] at fits
    obtain ⟨packet, came⟩ := Option.ne_none_iff_exists'.mp (fits.needs.2 takes)
    have packets : ledger.packets.head? = some packet := by
      rw [sync.payloads, freights, List.filterMap_cons, came]
      rfl
    refine ⟨packet, ?_, packets, ?_⟩
    · rw [freights]
      exact came
    · rw [← sync.packets, List.head?_map, packets]
      rfl

theorem taken {α : Type} {came : Option (Numbered α)} {queue rest : List (Numbered α)}
    (same : queue = came.toList ++ rest) {takes : Bool} (needs : takes → came ≠ none) (leaves : came ≠ none → takes) :
    ∃ gone ≤ queue.length, queue.drop gone = rest ∧
      (if takes then (queue.map Numbered.value).tail else queue.map Numbered.value) =
        (queue.map Numbered.value).drop gone := by
  cases came with
  | none =>
    have kept : takes = false := Bool.eq_false_iff.mpr fun takes => needs takes rfl
    refine ⟨0, Nat.zero_le _, same, ?_⟩
    rw [kept]
    rfl
  | some first =>
    refine ⟨1, ?_, ?_, ?_⟩
    · rw [same]
      exact Nat.succ_le_succ (Nat.zero_le _)
    · rw [same]
      rfl
    · rw [leaves (Option.some_ne_none first), if_pos rfl, List.drop_one]

theorem Sync.act (describes : usage.Describes program) (sync : ledger.Sync) (matched : ledger.Handled program usage)
    (acting : Draws) : (ledger.act program acting).Sync := by
  have served : program.serveEvent ledger.machine acting = _ := program.serveEvent_eq acting
  unfold Ledger.act
  dsimp only
  cases next : program.next ledger.machine with
  -- The event has no row, so that neither queue is touched.
  | none =>
    unfold Handled at matched
    rw [next] at served matched
    have split : ledger.freights.filterMap Freight.message = ledger.freights.tail.filterMap Freight.message ∧
        ledger.freights.filterMap Freight.packet = ledger.freights.tail.filterMap Freight.packet := by
      cases freights : ledger.freights with
      | nil => exact ⟨rfl, rfl⟩
      | cons freight rest =>
        cases matched freight (freights ▸ rfl)
        exact ⟨rfl, rfl⟩
    dsimp only at served
    rw [served, Nat.sub_self]
    have queue : ledger.machine.eventQueue.tail = ledger.machine.eventQueue.tail ++ [] := (List.append_nil _).symm
    exact sync.handled { ledger.machine with eventQueue := ledger.machine.eventQueue.tail } rfl queue
      (Nat.zero_le _) (Nat.zero_le _) sync.held.symm sync.packets.symm (sync.messages.trans split.1)
      (sync.payloads.trans split.2)
  | some pair =>
    obtain ⟨notice, entry⟩ := pair
    have fed := sync.fed matched
    obtain ⟨freight, rest, freights, -⟩ := sync.next next
    have fits := matched freight (freights ▸ rfl)
    rw [next] at fits served
    dsimp only at served fits
    let popped := { ledger.machine with eventQueue := ledger.machine.eventQueue.tail }
    obtain ⟨added, queue, -⟩ := program.eventQueue_act popped acting entry
    have counted : (program.serveEvent ledger.machine acting).eventQueue.length -
        ledger.machine.eventQueue.tail.length = added.length := by
      rw [served, queue, List.length_append]
      exact Nat.add_sub_cancel_left ..
    rw [counted, served]
    have messages := sync.messages
    have payloads := sync.payloads
    rw [freights, List.filterMap_cons] at messages payloads
    have first : ledger.held = freight.message.toList ++ rest.filterMap Freight.message := by
      rw [messages]
      cases freight.message <;> rfl
    have second : ledger.packets = freight.packet.toList ++ rest.filterMap Freight.packet := by
      rw [payloads]
      cases freight.packet <;> rfl
    have performs := describes.perform acting entry.action ledger.machine.session
      (by
        intro takes
        obtain ⟨msg, -, -, here, -⟩ := fed.message notice entry next takes
        exact List.ne_nil_of_mem (List.mem_of_mem_head? here))
      (by
        intro takes
        obtain ⟨packet, -, -, here⟩ := fed.packet notice entry next takes
        exact List.ne_nil_of_mem (List.mem_of_mem_head? here))
    have session : (program.act popped acting entry).session =
        (program.perform acting entry.action).after ledger.machine.session := program.session_act popped acting entry
    rw [← session] at performs
    obtain ⟨rx, tx⟩ := performs
    have leaves := fits.leaves
    -- The action empties both queues, or takes at most the head of each.
    by_cases resets : usage.resets entry.action ledger.machine.session.rxMsgQueue.head? = true
    · rw [if_pos resets] at rx tx leaves
      rw [freights, List.tail_cons] at leaves
      refine sync.handled _ (program.rxMsgQueue_act acting entry) queue (Nat.le_refl _) (Nat.le_refl _) ?_ ?_ ?_ ?_
      · rw [rx, List.drop_of_length_le (Nat.le_of_eq (List.length_map ..))]
      · rw [tx, List.drop_of_length_le (Nat.le_of_eq (List.length_map ..))]
      · rw [List.drop_length, freights, List.tail_cons, leaves.held.1]
      · rw [List.drop_length, freights, List.tail_cons, leaves.held.2]
    · rw [if_neg resets] at rx tx leaves
      obtain ⟨gone, enough, left, rx'⟩ := taken first fits.needs.1 leaves.1
      obtain ⟨lost, most, kept, tx'⟩ := taken second fits.needs.2 leaves.2
      rw [← sync.held, rx'] at rx
      rw [← sync.packets, tx'] at tx
      refine sync.handled _ (program.rxMsgQueue_act acting entry) queue enough most rx tx ?_ ?_
      · rw [left, freights, List.tail_cons]
      · rw [kept, freights, List.tail_cons]

theorem Sync.step (describes : usage.Describes program) (sync : ledger.Sync) {input : Input Call}
    (attended : ledger.Attended program usage input) : (ledger.step program usage input).Sync := by
  unfold Ledger.step
  cases faulted : ledger.machine.faulted with
  | true => exact sync
  | false =>
    rw [if_neg Bool.false_ne_true]
    cases input with
    | receive msg =>
      dsimp only
      rw [Program.step_receive _ faulted]
      constructor
      case arriving =>
        rw [List.map_append, sync.arriving]
        rfl
      -- The new message has the next number, and the others are the same.
      case accounted =>
        let arrived : Numbered Message := ⟨ledger.received, msg⟩
        have moved : (ledger.arriving ++ [arrived] ++ ledger.held ++ ledger.destroyed).Perm
            (ledger.arriving ++ ledger.held ++ ledger.destroyed ++ [arrived]) := by
          simp only [List.append_assoc]
          apply List.Perm.append_left
          rw [← List.append_assoc ledger.held]
          exact List.perm_append_comm
        have numbered := moved.map Numbered.number
        have last : (ledger.arriving ++ ledger.held ++ ledger.destroyed ++ [arrived]).map Numbered.number =
            (ledger.arriving ++ ledger.held ++ ledger.destroyed).map Numbered.number ++ [ledger.received] :=
          List.map_append
        rw [last] at numbered
        unfold Accounted
        rw [List.range_succ]
        exact numbered.trans (sync.accounted.append_right _)
      all_goals first | exact sync.held | exact sync.packets | exact sync.messages | exact sync.payloads | exact sync.causes
    | call c =>
      have changes := describes.call c ledger.machine.session
      have carried := carried_append ledger.freights
        { packet := (usage.packet c).map (Numbered.mk ledger.called) }
      dsimp only
      rw [Program.step_call _ faulted]
      constructor
      case arriving => exact sync.arriving
      case held => exact sync.held.trans changes.1.symm
      case packets =>
        have mapped : ((usage.packet c).map (Numbered.mk ledger.called)).toList.map Numbered.value =
            (usage.packet c).toList := by
          cases usage.packet c <;> rfl
        rw [List.map_append, mapped, sync.packets]
        exact changes.2.symm
      case messages => exact sync.messages.trans (carried.1.trans (List.append_nil _)).symm
      case payloads =>
        rw [← sync.payloads] at carried
        exact carried.2.symm
      case causes =>
        apply List.rel_append sync.causes
        simp
      case accounted => exact sync.accounted
    -- An expiry raises an event without freight.
    | timeout tid =>
      dsimp only
      rw [Program.step_timeout _ faulted]
      cases ledger.machine.session.timers.scheduled tid with
      | false => exact sync
      | true =>
        have carried := carried_append ledger.freights .empty
        constructor
        case messages => exact sync.messages.trans (carried.1.trans (List.append_nil _)).symm
        case payloads => exact sync.payloads.trans (carried.2.trans (List.append_nil _)).symm
        case causes =>
          apply List.rel_append sync.causes
          simp [Freight.empty]
        all_goals first | exact sync.arriving | exact sync.held | exact sync.packets | exact sync.accounted
    | serve filtering acting =>
      have filtered := sync.filter describes attended.1 filtering
      dsimp only
      split
      case isTrue => exact filtered
      case isFalse => exact filtered.act describes attended.2 acting

theorem Sync.inStep (describes : usage.Describes program) (sync : ledger.Sync) {input : Input Call}
    (attended : ledger.Attended program usage input) : ledger.InStep program usage input where
  fed := by
    rintro filtering acting rfl _ _
    have filtered := sync.filter describes attended.1 filtering
    exact filtered.fed attended.2
  idle := (sync.step describes attended).idle
  accounted := (sync.step describes attended).accounted

theorem run_inStep (describes : usage.Describes program) {s : Session} (rx : s.rxMsgQueue = [])
    (tx : s.txEapMessageQueue = []) {inputs : List (Input Call)}
    (attended : Stepwise (step program usage) (Attended program usage) { machine := .opening s } inputs) :
    Stepwise (step program usage) (InStep program usage) { machine := .opening s } inputs := by
  have opening : Sync { machine := .opening s : Ledger Event } :=
    { arriving := rfl
      held := rx.symm
      packets := tx.symm
      messages := rfl
      payloads := rfl
      causes := .nil
      accounted := .nil }
  apply attended.imp (fun _ _ sync _ meets => sync.inStep describes meets)
    (fun _ _ sync _ meets => sync.step describes meets) opening fun _ _ => trivial

end Handling

end Ledger

end OpenDiameter.Pana
