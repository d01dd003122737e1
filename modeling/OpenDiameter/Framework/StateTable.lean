import Mathlib.Tactic.TypeStar

/-! State tables: what a state machine does on an event. -/

set_option autoImplicit false

namespace OpenDiameter.Framework

structure StateTableEntry (State Event Action : Type) where
  prevState : State
  event : Option Event
  nextState : State
  action : Action
  deriving DecidableEq, Repr

/-- `AAA_StateTable`, entries in the order they were added. -/
abbrev StateTable (State Event Action : Type) := List (StateTableEntry State Event Action)

namespace StateTable

variable {State Event Action : Type} [DecidableEq State] [DecidableEq Event]

/-- The loop of `FindStateTableEntry(st, ev, entry)`, with the wildcard entry found so far. -/
def findFrom (st : State) (ev : Event) (found : Option (StateTableEntry State Event Action)) :
    StateTable State Event Action → Option (StateTableEntry State Event Action)
  | [] => found
  | e :: rest =>
    if e.prevState ≠ st then findFrom st ev found rest
    else
      match e.event with
      | none => findFrom st ev (some e) rest
      | some event => if event = ev then some e else findFrom st ev found rest

def findStateTableEntry (table : StateTable State Event Action) (st : State) (ev : Event) :
    Option (StateTableEntry State Event Action) :=
  findFrom st ev none table

/-- `FindStateTableEntry(st, entry)`. -/
def findWildcardEntry (table : StateTable State Event Action) (st : State) :
    Option (StateTableEntry State Event Action) :=
  table.find? fun e => decide (e.prevState = st) && e.event.isNone

/-- `AddStateTableEntry` and `AddWildcardStateTableEntry`; both throw
`FoundDuplicateStateTableEntry` when the state already has an entry for the event. -/
def addStateTableEntry (table : StateTable State Event Action)
    (entry : StateTableEntry State Event Action) : Option (StateTable State Event Action) :=
  let duplicate := match entry.event with
    | some ev => table.findStateTableEntry entry.prevState ev
    | none => table.findWildcardEntry entry.prevState
  if duplicate.isSome then none else some (table ++ [entry])

def construct (entries : List (StateTableEntry State Event Action)) :
    Option (StateTable State Event Action) :=
  entries.foldlM addStateTableEntry []

theorem findFrom_mem {st : State} {ev : Event} {table : StateTable State Event Action}
    {found : Option (StateTableEntry State Event Action)} {entry : StateTableEntry State Event Action}
    (same : findFrom st ev found table = some entry) :
    found = some entry ∨ entry ∈ table ∧ entry.prevState = st ∧
      (entry.event = none ∨ entry.event = some ev) := by
  induction table generalizing found with
  | nil => exact Or.inl same
  | cons e rest ih =>
    rw [findFrom] at same
    split at same
    · apply (ih same).imp_right
      intro later
      exact ⟨List.mem_cons_of_mem _ later.1, later.2⟩
    · rename_i here
      have located : e.prevState = st := Decidable.of_not_not here
      split at same
      · rename_i wildcard
        cases ih same with
        | inl kept =>
          cases kept
          exact Or.inr ⟨List.mem_cons_self, located, Or.inl wildcard⟩
        | inr later => exact Or.inr ⟨List.mem_cons_of_mem _ later.1, later.2⟩
      · rename_i event named
        split at same
        · rename_i equal
          cases same
          exact Or.inr ⟨List.mem_cons_self, located, Or.inr (equal ▸ named)⟩
        · apply (ih same).imp_right
          intro later
          exact ⟨List.mem_cons_of_mem _ later.1, later.2⟩

theorem findStateTableEntry_mem {table : StateTable State Event Action} {st : State} {ev : Event}
    {entry : StateTableEntry State Event Action}
    (same : table.findStateTableEntry st ev = some entry) :
    entry ∈ table ∧ entry.prevState = st ∧ (entry.event = none ∨ entry.event = some ev) := by
  cases findFrom_mem same with
  | inl none => cases none
  | inr located => exact located

theorem event_eq_of_found {table : StateTable State Event Action} {st : State} {ev event : Event}
    {entry : StateTableEntry State Event Action} (found : table.findStateTableEntry st ev = some entry)
    (named : entry.event = some event) : event = ev := by
  obtain ⟨_, _, wildcard | same⟩ := findStateTableEntry_mem found
  · rw [named] at wildcard
    cases wildcard
  · rw [named] at same
    exact Option.some.inj same

end StateTable

end OpenDiameter.Framework
