import Mathlib.Data.List.Perm.Subperm

/-! Obligations: entered under a key when something is received, settled at most once.

A book says what is owed under which key. A step receives some items and settles
some; whatever it does to the book, what has been settled stays part of what has
been received.
-/

set_option autoImplicit false

namespace Foundation

variable {κ τ : Type}

inductive Booking (before after : κ → τ → Prop) : List τ → List τ → Prop where
  | idle : (∀ k t, after k t → before k t) → Booking before after [] []
  | entered (key : κ) (item : τ) : (∀ k t, after k t → before k t ∨ k = key ∧ t = item) →
      Booking before after [item] []
  | answered (item : τ) : (∀ k t, after k t → before k t) → Booking before after [item] [item]
  | settled (key : κ) (item : τ) : before key item → (∀ k t, after k t → before k t ∧ k ≠ key) →
      Booking before after [] [item]

theorem Booking.ignored {before after : κ → τ → Prop} (item : τ) (key : κ) (kept : ∀ k t, after k t → before k t) :
    Booking before after [item] [] :=
  .entered key item fun k t owed => .inl (kept k t owed)

def Backed (book : κ → τ → Prop) (received settled : List τ) : Prop :=
  ∃ held : List (κ × τ), (∀ k t, book k t → (k, t) ∈ held) ∧ (settled ++ held.map Prod.snd).Subperm received

theorem backed_empty {book : κ → τ → Prop} (empty : ∀ k t, ¬book k t) : Backed book [] [] :=
  ⟨[], fun k t owed => absurd owed (empty k t), .refl []⟩

theorem Backed.subperm {book : κ → τ → Prop} {received settled : List τ} (backed : Backed book received settled) :
    settled.Subperm received := by
  obtain ⟨held, -, part⟩ := backed
  exact (List.sublist_append_left settled _).subperm.trans part

theorem Backed.step [DecidableEq κ] [DecidableEq τ] {before after : κ → τ → Prop} {received settled more done : List τ}
    (backed : Backed before received settled) (booking : Booking before after more done) :
    Backed after (received ++ more) (settled ++ done) := by
  obtain ⟨held, entries, part⟩ := backed
  cases booking with
  | idle kept =>
    rw [List.append_nil, List.append_nil]
    exact ⟨held, fun k t owed => entries k t (kept k t owed), part⟩
  | entered key item grows =>
    refine ⟨(key, item) :: held, fun k t owed => ?_, ?_⟩
    · rcases grows k t owed with old | ⟨rfl, rfl⟩
      · exact List.mem_cons_of_mem _ (entries k t old)
      · exact List.mem_cons_self
    · rw [List.append_nil, List.map_cons]
      exact (List.perm_middle.subperm.trans ((List.subperm_cons item).mpr part)).trans (List.perm_append_singleton item received).symm.subperm
  | answered item kept =>
    refine ⟨held, fun k t owed => entries k t (kept k t owed), ?_⟩
    rw [List.append_assoc, List.singleton_append]
    exact (List.perm_middle.subperm.trans ((List.subperm_cons item).mpr part)).trans (List.perm_append_singleton item received).symm.subperm
  | settled key item owed shrinks =>
    have present := entries key item owed
    refine ⟨held.erase (key, item), fun k t still => ?_, ?_⟩
    · obtain ⟨old, other⟩ := shrinks k t still
      exact (List.mem_erase_of_ne fun same => other (congrArg Prod.fst same)).mpr (entries k t old)
    · have moved : (held.map Prod.snd).Perm (item :: (held.erase (key, item)).map Prod.snd) :=
        (List.perm_cons_erase present).map Prod.snd
      rw [List.append_nil, List.append_assoc, List.singleton_append]
      exact (moved.symm.append_left settled).subperm.trans part

end Foundation
