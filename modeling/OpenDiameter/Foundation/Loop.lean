import Mathlib.Data.List.Range

/-! Rules for loops. -/

set_option autoImplicit false

namespace Foundation

section Counted

variable {σ : Type}

/-- The invariant rule of a loop over consecutive numbers. -/
theorem foldl_range'_invariant (holds : Nat → σ → Prop) (body : σ → Nat → σ) (start count : Nat)
    (state : σ) (initially : holds start state)
    (preserved : ∀ k state, start ≤ k → k < start + count → holds k state →
      holds (k + 1) (body state k)) :
    holds (start + count) ((List.range' start count).foldl body state) := by
  induction count generalizing start state with
  | zero => exact initially
  | succ count ih =>
    rw [List.range'_succ, List.foldl_cons, Nat.add_comm count, ← Nat.add_assoc]
    refine ih (start + 1) _ (preserved start state (Nat.le_refl _) (by omega) initially) ?_
    intro k state above below held
    exact preserved k state (by omega) (by omega) held

end Counted

end Foundation
