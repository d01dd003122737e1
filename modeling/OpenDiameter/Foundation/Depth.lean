import Mathlib.Data.Finset.Card
import Mathlib.Data.Finset.Dedup

/-! How much fuel a recursion over finitely many nodes needs.

`done n a` says that the recursion ends at the node `a` within `n` levels. What is
done after some number of levels is done after as many levels as there are nodes.
-/

set_option autoImplicit false

namespace Foundation

variable {α : Type} {nodes : List α} {done : Nat → α → Prop}

theorem done_mono (grows : ∀ n, ∀ a ∈ nodes, done n a → done (n + 1) a) {n m : Nat} (le : n ≤ m) {a : α}
    (member : a ∈ nodes) (holds : done n a) : done m a := by
  induction m, le using Nat.le_induction with
  | base => exact holds
  | succ m _ ih => exact grows m a member ih

theorem done_settled
    (settles : ∀ n, (∀ a ∈ nodes, done (n + 1) a → done n a) → ∀ a ∈ nodes, done (n + 2) a → done (n + 1) a)
    {n : Nat} (still : ∀ a ∈ nodes, done (n + 1) a → done n a) (k : Nat) {a : α} (member : a ∈ nodes)
    (holds : done (n + k) a) : done n a := by
  have later (j : Nat) : ∀ a ∈ nodes, done (n + j + 1) a → done (n + j) a := by
    induction j with
    | zero => exact still
    | succ j ih => exact settles (n + j) ih
  induction k with
  | zero => exact holds
  | succ k ih => exact ih (later k a member holds)

theorem done_of_length (grows : ∀ n, ∀ a ∈ nodes, done n a → done (n + 1) a)
    (settles : ∀ n, (∀ a ∈ nodes, done (n + 1) a → done n a) → ∀ a ∈ nodes, done (n + 2) a → done (n + 1) a)
    {n : Nat} {a : α} (member : a ∈ nodes) (holds : done n a) : done nodes.length a := by
  classical
  let reached (n : Nat) : Finset α := nodes.toFinset.filter (done n)
  have progress (n : Nat) : (∃ m ≤ n, ∀ a ∈ nodes, done (m + 1) a → done m a) ∨ n ≤ (reached n).card := by
    induction n with
    | zero => exact .inr (Nat.zero_le _)
    | succ n ih =>
      rcases ih with ⟨m, le, still⟩ | large
      · exact .inl ⟨m, Nat.le_succ_of_le le, still⟩
      · by_cases still : ∀ a ∈ nodes, done (n + 1) a → done n a
        · exact .inl ⟨n, Nat.le_succ n, still⟩
        · push Not at still
          obtain ⟨b, inside, now, before⟩ := still
          right
          apply Nat.lt_of_le_of_lt large
          apply Finset.card_lt_card
          refine Finset.ssubset_iff_of_subset ?_ |>.mpr ⟨b, ?_, ?_⟩
          · intro c earlier
            obtain ⟨known, ended⟩ := Finset.mem_filter.mp earlier
            exact Finset.mem_filter.mpr ⟨known, grows n c (List.mem_toFinset.mp known) ended⟩
          · exact Finset.mem_filter.mpr ⟨List.mem_toFinset.mpr inside, now⟩
          · exact fun earlier => before (Finset.mem_filter.mp earlier).2
  rcases progress nodes.length with ⟨m, le, still⟩ | full
  · have enough : done (m + n) a := done_mono grows (Nat.le_add_left n m) member holds
    exact done_mono grows le member (done_settled settles still n member enough)
  · -- every node is done
    have all : reached nodes.length = nodes.toFinset :=
      Finset.eq_of_subset_of_card_le (Finset.filter_subset _ _) ((List.toFinset_card_le nodes).trans full)
    exact (Finset.mem_filter.mp (all.symm ▸ List.mem_toFinset.mpr member : a ∈ reached nodes.length)).2

end Foundation
