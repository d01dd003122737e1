import OpenDiameter.Framework.EventMachine

/-! Events whose action ends with another event.

Of the machines that use this an action raises at most one event, and what that event
runs raises none. So a call of `Event` is over after two actions.
-/

set_option autoImplicit false

namespace OpenDiameter.Framework.MachineProgram

variable {State Event Action Data Callback : Type} [DecidableEq State] [DecidableEq Event]
  (program : MachineProgram State Event Action Data Callback)

/-- A call of `Event`, the event that its action raises, and what the application is told. -/
def event (state : State) (data : Data) (ev : Event) : State × Data × List Callback :=
  let first := program.handle ⟨state, true, some ev, [], data⟩
  let second := program.handle first.1
  (second.1.state, second.1.data, first.2 ++ second.2)

variable {state : State} {data : Data} {ev next : Event}
  {row nested : StateTableEntry State Event Action}

theorem event_of_missing (missing : program.table.findStateTableEntry state ev = none) :
    program.event state data ev = (state, data, []) := by
  simp only [event, handle, missing, Bool.not_true, Bool.false_eq_true, if_false, List.append_nil]

theorem event_of_silent (found : program.table.findStateTableEntry state ev = some row)
    (silent : (program.perform row.action data).raised = none) :
    program.event state data ev =
      (row.nextState, (program.perform row.action data).data, (program.perform row.action data).callbacks) := by
  have takes : program.Takes ⟨state, true, some ev, [], data⟩ ev row := ⟨rfl, rfl, found⟩
  rw [event, takes.handle]
  simp only [handle, EventMachine.react, silent, List.append_nil]

theorem event_of_raises (found : program.table.findStateTableEntry state ev = some row)
    (raised : (program.perform row.action data).raised = some next)
    (then_ : program.table.findStateTableEntry row.nextState next = some nested) :
    program.event state data ev =
      (nested.nextState, (program.perform nested.action (program.perform row.action data).data).data,
        (program.perform row.action data).callbacks ++
          (program.perform nested.action (program.perform row.action data).data).callbacks) := by
  have takes : program.Takes ⟨state, true, some ev, [], data⟩ ev row := ⟨rfl, rfl, found⟩
  rw [event, takes.handle]
  simp only [handle, EventMachine.react, raised, Bool.not_true, Bool.false_eq_true, if_false, then_]

end OpenDiameter.Framework.MachineProgram
