import Mathlib.Data.List.Forall2

/-! Lists up to the order of elements with different keys. -/

set_option autoImplicit false

namespace Foundation

variable {α β κ : Type}

inductive Reordered (key : α → κ) : List α → List α → Prop where
  | refl (xs : List α) : Reordered key xs xs
  | swap (before : List α) {a b : α} (after : List α) :
      key a ≠ key b → Reordered key (before ++ a :: b :: after) (before ++ b :: a :: after)
  | trans {xs ys zs : List α} : Reordered key xs ys → Reordered key ys zs → Reordered key xs zs

variable [DecidableEq κ] {key : α → κ} {xs ys : List α}

def ofKey (key : α → κ) (k : κ) (xs : List α) : List α := xs.filter fun x => key x = k

theorem ofKey_cons (k : κ) (x : α) : ofKey key k (x :: xs) = if key x = k then x :: ofKey key k xs else ofKey key k xs := by
  unfold ofKey
  by_cases same : key x = k
  · simp [same]
  · simp [same]

theorem Reordered.ofKey_eq (reordered : Reordered key xs ys) (k : κ) : ofKey key k xs = ofKey key k ys := by
  induction reordered with
  | refl => rfl
  | @swap before a b after differ =>
    have front (zs : List α) : ofKey key k (before ++ zs) = ofKey key k before ++ ofKey key k zs :=
      List.filter_append _ _
    rw [front, front, ofKey_cons, ofKey_cons, ofKey_cons, ofKey_cons]
    by_cases first : key a = k
    · have second : ¬ key b = k := fun same => differ (first.trans same.symm)
      rw [if_pos first, if_neg second, if_neg second, if_pos first]
    · simp only [if_neg first]
  | trans _ _ first second => exact first.trans second

theorem Reordered.mem_iff (reordered : Reordered key xs ys) {x : α} : x ∈ xs ↔ x ∈ ys := by
  have own (zs : List α) : x ∈ ofKey key (key x) zs ↔ x ∈ zs := by simp [ofKey]
  rw [← own xs, reordered.ofKey_eq, own ys]

def Alike (key : α → κ) (rel : α → α → Prop) (xs ys : List α) : Prop :=
  ∀ k, List.Forall₂ rel (ofKey key k xs) (ofKey key k ys)

theorem exists_of_forall₂ {rel : α → β → Prop} {zs : List β} (related : List.Forall₂ rel xs zs) {x : α}
    (member : x ∈ xs) : ∃ z, rel x z := by
  induction related with
  | nil => cases member
  | @cons head z _ _ first _ ih =>
    rcases List.mem_cons.mp member with rfl | later
    · exact ⟨z, first⟩
    · exact ih later

theorem forall₂_ofKey {key' : β → κ} {rel : α → β → Prop} {zs : List β} (same : ∀ x z, rel x z → key x = key' z)
    (related : List.Forall₂ rel xs zs) (k : κ) : List.Forall₂ rel (ofKey key k xs) (ofKey key' k zs) := by
  induction related with
  | nil => exact .nil
  | @cons x z xs zs first _ ih =>
    rw [ofKey_cons, ofKey_cons, same x z first]
    by_cases here : key' z = k
    · rw [if_pos here, if_pos here]
      exact .cons first ih
    · rwa [if_neg here, if_neg here]

theorem alike_of_reordered {key' : β → κ} {rel rel' : α → β → Prop} {zs zs' : List β}
    (same : ∀ x z, rel x z → key x = key' z) (same' : ∀ y z, rel' y z → key y = key' z)
    (first : List.Forall₂ rel xs zs) (second : List.Forall₂ rel' ys zs') (reordered : Reordered key' zs zs') :
    Alike key (fun x y => ∃ z, rel x z ∧ rel' y z) xs ys := by
  intro k
  have left := forall₂_ofKey same first k
  have right := forall₂_ofKey same' second k
  rw [← reordered.ofKey_eq k] at right
  generalize ofKey key k xs = xs at left
  generalize ofKey key k ys = ys at right
  generalize ofKey key' k zs = zs at left right
  induction left generalizing ys with
  | nil =>
    cases right
    exact .nil
  | cons here _ ih =>
    cases right with
    | cons there rest => exact .cons ⟨_, here, there⟩ (ih _ rest)

end Foundation
