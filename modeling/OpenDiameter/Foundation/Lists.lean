import Mathlib.Data.List.Forall2
import Mathlib.Data.List.Nodup

/-! Facts about lists that the library does not have. -/

set_option autoImplicit false

namespace Foundation

section Erasing

theorem filter_map_eq_self {α : Type} {f : α → α} {keep : α → Bool} {l : List α} :
    (l.map f).filter keep = l ↔ ∀ a ∈ l, f a = a ∧ keep a = true := by
  constructor
  · intro same
    have all : (l.map f).filter keep = l.map f := by
      apply (List.filter_sublist).eq_of_length
      rw [same, List.length_map]
    have fixed : l.map f = l := all.symm.trans same
    intro a member
    have unchanged : f a = a := List.map_inj_left.mp (fixed.trans (List.map_id l).symm) a member
    refine ⟨unchanged, ?_⟩
    rw [← unchanged]
    exact List.filter_eq_self.mp all _ (List.mem_map_of_mem member)
  · intro fixed
    have same : l.map f = l := (List.map_congr_left fun a member => (fixed a member).1).trans (List.map_id' l)
    rw [same]
    exact List.filter_eq_self.mpr fun a member => (fixed a member).2

theorem map_erase_of_nodup {α β : Type} [BEq α] [LawfulBEq α] [BEq β] [LawfulBEq β] {pairs : List α} {pair : α} (part : α → β)
    (distinct : (pairs.map part).Nodup) (mem : pair ∈ pairs) :
    (pairs.erase pair).map part = (pairs.map part).erase (part pair) := by
  induction pairs with
  | nil => cases mem
  | cons first rest ih =>
    obtain ⟨notLater, distinct⟩ := List.nodup_cons.mp distinct
    by_cases same : first = pair
    · subst same
      rw [List.erase_cons_head, List.map_cons, List.erase_cons_head]
    · have later : pair ∈ rest := (List.mem_cons.mp mem).resolve_left (Ne.symm same)
      have differs : part first ≠ part pair := by
        intro equal
        apply notLater
        rw [equal]
        exact List.mem_map_of_mem later
      rw [List.erase_cons_tail (by simpa using same), List.map_cons, List.map_cons,
        List.erase_cons_tail (by simpa using differs), ih distinct later]

theorem eraseDups_cons_eq_singleton {α : Type} [BEq α] [LawfulBEq α] {a : α} {l : List α} :
    (a :: l).eraseDups = [a] ↔ ∀ b ∈ l, b = a := by
  have empty (l : List α) : l.eraseDups = [] ↔ l = [] := by
    cases l with
    | nil => simp
    | cons a l => simp [List.eraseDups_cons]
  rw [List.eraseDups_cons, List.cons.injEq, and_iff_right rfl, empty, List.filter_eq_nil_iff]
  simp

end Erasing

section Positions

theorem getElem?_concat {α : Type} (list : List α) (x : α) (i : Nat) :
    (list ++ [x])[i]? = if i = list.length then some x else list[i]? := by
  split
  case isTrue last => rw [last, List.getElem?_concat_length]
  case isFalse other =>
    rcases Nat.lt_or_ge i list.length with within | beyond
    · exact List.getElem?_append_left within
    · rw [List.getElem?_append_right beyond, List.getElem?_eq_none beyond]
      exact List.getElem?_eq_none (by simp; omega)

theorem forall₂_tail {α β : Type} {rel : α → β → Prop} {xs : List α} {ys : List β} (each : List.Forall₂ rel xs ys) :
    List.Forall₂ rel xs.tail ys.tail := by
  cases each with
  | nil => exact .nil
  | cons _ rest => exact rest

theorem filterMap_cons_toList {α β : Type} (f : α → Option β) (a : α) (l : List α) :
    (a :: l).filterMap f = (f a).toList ++ l.filterMap f := by
  rw [List.filterMap_cons]
  cases f a <;> rfl

end Positions

section Options

theorem or_eq_left_iff {α : Type} {new old : Option α} : new.or old = new ↔ (new = none → old = none) := by
  cases new <;> simp

end Options

end Foundation
