import OpenDiameter.Foundation.Outcome

/-! Loops of the form `for (p = first; p; p = next(*p))`. -/

set_option autoImplicit false

namespace Foundation

variable {ε α : Type} {next : α → Outcome ε (Option α)}

/-- From `p` on the loop ends, and has visited the listed elements in that order. -/
inductive Visits (next : α → Outcome ε (Option α)) : Option α → List α → Prop where
  | done : Visits next none []
  | visit {x : α} {p : Option α} {rest : List α} :
      next x = .returned p → Visits next p rest → Visits next (some x) (x :: rest)

namespace Visits

theorem of_list {xs : List α} (steps : ∀ before x after, xs = before ++ x :: after → next x = .returned after.head?) :
    Visits next xs.head? xs := by
  induction xs with
  | nil => exact .done
  | cons x xs ih =>
    apply Visits.visit (steps [] x xs rfl)
    apply ih
    intro before y after parts
    exact steps (x :: before) y after (congrArg (x :: ·) parts)

/-- All that is visited is where the loop starts, or what a step leads to. -/
theorem mem_cases {p : Option α} {xs : List α} (visits : Visits next p xs) {y : α} (visited : y ∈ xs) :
    p = some y ∨ ∃ x ∈ xs, next x = .returned (some y) := by
  induction visits with
  | done => cases visited
  | @visit x p rest step _ ih =>
    rcases List.mem_cons.mp visited with rfl | later
    · exact .inl rfl
    · rcases ih later with rfl | ⟨z, inside, reached⟩
      · exact .inr ⟨x, List.mem_cons_self, step⟩
      · exact .inr ⟨z, List.mem_cons_of_mem x inside, reached⟩

end Visits

end Foundation
