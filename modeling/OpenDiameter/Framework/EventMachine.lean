import OpenDiameter.Framework.StateTable

/-! State machines that are served from a queue of events.

An action changes the data of its machine, puts events on the queue, calls the
application back, and may end with a call of `Event`. That event is handled before
anything else is served, yet what other threads do can come between the two.
-/

set_option autoImplicit false

namespace OpenDiameter.Framework

structure Reaction (Event Data Callback : Type) where
  data : Data
  notified : List Event := []
  callbacks : List Callback := []
  /-- The event that the action ends with passing to `Event`. -/
  raised : Option Event := none

structure MachineProgram (State Event Action Data Callback : Type) where
  table : StateTable State Event Action
  initialState : State
  perform : Action → Data → Reaction Event Data Callback

/-- An `AAA_StateMachine` that is an `AAA_EventQueueJob`; `raised` is the event being handled. -/
structure EventMachine (State Event Data : Type) where
  state : State
  running : Bool
  raised : Option Event
  events : List Event
  data : Data

namespace EventMachine

variable {State Event Action Data Callback : Type} (machine : EventMachine State Event Data)

def notify (event : Event) : EventMachine State Event Data :=
  { machine with events := machine.events ++ [event] }

/-- `Serve`, as far as taking the next event off the queue. -/
def serve : EventMachine State Event Data :=
  match machine.raised, machine.events with
  | none, event :: rest => { machine with raised := some event, events := rest }
  | _, _ => machine

/-- What holds of a machine, and of it when it takes an event off its queue, holds
once it is served. -/
@[elab_as_elim]
theorem serve_elim {motive : EventMachine State Event Data → Prop} (kept : motive machine)
    (taken : ∀ event rest, machine.raised = none → machine.events = event :: rest →
      motive { machine with raised := some event, events := rest }) : motive machine.serve := by
  unfold serve
  split
  case h_1 event rest nothing waiting => exact taken event rest nothing waiting
  case h_2 => exact kept

theorem serve_cases : machine.serve = machine ∨ ∃ event rest, machine.raised = none ∧
    machine.events = event :: rest ∧ machine.serve = { machine with raised := some event, events := rest } := by
  unfold serve
  split
  case h_1 event rest nothing waiting => exact Or.inr ⟨event, rest, nothing, waiting, rfl⟩
  case h_2 => exact Or.inl rfl

theorem serve_raised {machine : EventMachine State Event Data} {event : Event}
    (raised : machine.raised = some event) : machine.serve = machine := by
  rcases machine.serve_cases with same | ⟨_, _, nothing, _, _⟩
  · exact same
  · rw [nothing] at raised
    cases raised

def react (state : State) (reaction : Reaction Event Data Callback) : EventMachine State Event Data :=
  { machine with
    state := state
    data := reaction.data
    events := machine.events ++ reaction.notified
    raised := reaction.raised }

section Pending

variable [DecidableEq Event]

def pending (event : Event) : Nat := (machine.raised.toList ++ machine.events).count event

theorem pending_notify (new event : Event) :
    (machine.notify new).pending event = machine.pending event + [new].count event := by
  show (_ ++ (_ ++ [new])).count event = _
  rw [← List.append_assoc, List.count_append]
  rfl

theorem pending_serve (event : Event) : machine.serve.pending event = machine.pending event := by
  rcases machine.serve_cases with same | ⟨first, rest, nothing, waiting, same⟩
  · rw [same]
  · rw [same, pending, pending, nothing, waiting]
    rfl

theorem pending_react {reaction : Reaction Event Data Callback} (state : State) {event : Event}
    (unraised : reaction.raised ≠ some event) (unnotified : event ∉ reaction.notified) :
    (machine.react state reaction).pending event = machine.events.count event := by
  have raised : reaction.raised.toList.count event = 0 :=
    List.count_eq_zero.mpr fun mem => unraised (Option.mem_toList.mp mem)
  show (reaction.raised.toList ++ (machine.events ++ reaction.notified)).count event = _
  rw [List.count_append, List.count_append, raised, List.count_eq_zero.mpr unnotified, Nat.zero_add, Nat.add_zero]

variable {machine}

theorem pending_raised {event : Event} (raised : machine.raised = some event) :
    machine.pending event = machine.events.count event + 1 := by
  rw [pending, raised, Option.toList_some, List.singleton_append, List.count_cons_self]

theorem pending_other {first : Event} (event : Event) (raised : machine.raised = some first)
    (other : first ≠ event) : machine.pending event = machine.events.count event := by
  rw [pending, raised, Option.toList_some, List.singleton_append, List.count_cons_of_ne other]

theorem pending_le (machine : EventMachine State Event Data) (event : Event) :
    machine.events.count event ≤ machine.pending event := by
  rw [pending, List.count_append]
  exact Nat.le_add_left _ _

end Pending

end EventMachine

namespace MachineProgram

variable {State Event Action Data Callback : Type} [DecidableEq State] [DecidableEq Event]
  (program : MachineProgram State Event Action Data Callback) (machine : EventMachine State Event Data)

/-- `AAA_StateMachine::Start`. -/
def start : EventMachine State Event Data := { machine with state := program.initialState, running := true }

/-- One call of `AAA_StateMachine::Event`, and what the application is told. -/
def handle : EventMachine State Event Data × List Callback :=
  match machine.raised with
  | none => (machine, [])
  | some event =>
    if !machine.running then ({ machine with raised := none }, [])
    else
      match program.table.findStateTableEntry machine.state event with
      | none => ({ machine with raised := none }, [])
      | some entry =>
        (machine.react entry.nextState (program.perform entry.action machine.data),
          (program.perform entry.action machine.data).callbacks)

/-- The action that a call of `Event` runs. -/
def acting : Option Action :=
  machine.raised.bind fun event =>
    if machine.running then (program.table.findStateTableEntry machine.state event).map (·.action) else none

section Handling

variable {program machine} {event : Event} {row : StateTableEntry State Event Action}

structure Takes (program : MachineProgram State Event Action Data Callback) (machine : EventMachine State Event Data)
    (event : Event) (row : StateTableEntry State Event Action) : Prop where
  raised : machine.raised = some event
  running : machine.running = true
  found : program.table.findStateTableEntry machine.state event = some row

theorem Takes.mem (takes : program.Takes machine event row) : row ∈ program.table :=
  (StateTable.findStateTableEntry_mem takes.found).1

theorem Takes.prevState (takes : program.Takes machine event row) : row.prevState = machine.state :=
  (StateTable.findStateTableEntry_mem takes.found).2.1

theorem Takes.named (takes : program.Takes machine event row) : row.event = none ∨ row.event = some event :=
  (StateTable.findStateTableEntry_mem takes.found).2.2

theorem Takes.event_eq (takes : program.Takes machine event row) {named : Event} (names : row.event = some named) :
    event = named := by
  rcases takes.named with wild | exactly
  · rw [wild] at names
    cases names
  · rw [exactly] at names
    exact Option.some.inj names

theorem Takes.raised_named (takes : program.Takes machine event row) {named : Event} (names : row.event = some named) :
    machine.raised = some named :=
  takes.event_eq names ▸ takes.raised

theorem Takes.handle (takes : program.Takes machine event row) :
    program.handle machine = (machine.react row.nextState (program.perform row.action machine.data),
      (program.perform row.action machine.data).callbacks) := by
  rw [MachineProgram.handle, takes.raised]
  dsimp only
  rw [takes.running, takes.found]
  rfl

theorem Takes.acting (takes : program.Takes machine event row) : program.acting machine = some row.action := by
  rw [MachineProgram.acting, takes.raised, Option.bind_some, if_pos takes.running, takes.found, Option.map_some]

theorem acting_dropped (program : MachineProgram State Event Action Data Callback)
    (raised : machine.raised = some event)
    (dropped : machine.running = false ∨ program.table.findStateTableEntry machine.state event = none) :
    program.acting machine = none := by
  rw [MachineProgram.acting, raised, Option.bind_some]
  rcases dropped with stopped | unfound
  · rw [stopped, if_neg Bool.false_ne_true]
  · rw [unfound, Option.map_none, ite_self]

theorem takes_of_acting {action : Action} (acts : program.acting machine = some action) :
    ∃ event row, program.Takes machine event row ∧ row.action = action := by
  obtain ⟨event, raised, runs⟩ := Option.bind_eq_some_iff.mp acts
  split at runs
  case isTrue running =>
    obtain ⟨row, found, same⟩ := Option.map_eq_some_iff.mp runs
    exact ⟨event, row, ⟨raised, running, found⟩, same⟩
  case isFalse => cases runs

theorem handle_cases (program : MachineProgram State Event Action Data Callback)
    (machine : EventMachine State Event Data) :
    machine.raised = none ∧ program.handle machine = (machine, []) ∨
      (∃ event, machine.raised = some event ∧
        (machine.running = false ∨ program.table.findStateTableEntry machine.state event = none) ∧
        program.handle machine = ({ machine with raised := none }, [])) ∨
      ∃ event row, program.Takes machine event row := by
  unfold MachineProgram.handle
  cases raised : machine.raised with
  | none => exact Or.inl ⟨rfl, rfl⟩
  | some event =>
    apply Or.inr
    cases running : machine.running with
    | false => exact Or.inl ⟨event, rfl, Or.inl rfl, rfl⟩
    | true =>
      cases found : program.table.findStateTableEntry machine.state event with
      | none =>
        refine Or.inl ⟨event, rfl, Or.inr found, ?_⟩
        dsimp only
        rw [found]
        rfl
      | some row => exact Or.inr ⟨event, row, raised, running, found⟩

theorem running_handle (program : MachineProgram State Event Action Data Callback)
    (machine : EventMachine State Event Data) : (program.handle machine).1.running = machine.running := by
  rcases program.handle_cases machine with ⟨_, same⟩ | ⟨_, _, _, same⟩ | ⟨event, row, takes⟩
  · rw [same]
  · rw [same]
  · rw [takes.handle]
    rfl

/-- A property of what a call of `Event` leaves and tells. -/
@[elab_as_elim]
theorem handle_elim (program : MachineProgram State Event Action Data Callback)
    (machine : EventMachine State Event Data) {motive : EventMachine State Event Data × List Callback → Prop}
    (kept : machine.raised = none → motive (machine, [])) (dropped : motive ({ machine with raised := none }, []))
    (taken : ∀ event row, program.Takes machine event row →
      motive (machine.react row.nextState (program.perform row.action machine.data),
        (program.perform row.action machine.data).callbacks)) :
    motive (program.handle machine) := by
  rcases program.handle_cases machine with ⟨nothing, same⟩ | ⟨_, _, _, same⟩ | ⟨event, row, takes⟩
  · rw [same]
    exact kept nothing
  · rw [same]
    exact dropped
  · rw [takes.handle]
    exact taken event row takes

end Handling

end MachineProgram

end OpenDiameter.Framework
