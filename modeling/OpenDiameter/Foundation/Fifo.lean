import Mathlib.Data.List.Perm.Basic

/-! Bookkeeping for a first-in first-out list.

A ledger records what entered a list, what was served from its front and what
was dropped from it. `Accounts` relates a ledger to the content that is left.
-/

set_option autoImplicit false

namespace Foundation

/-- Everything that entered a list, and the two ways an entry can leave it. -/
structure Ledger (α : Type) where
  arrived : List α
  served : List α
  dropped : List α
  deriving DecidableEq, Repr

namespace Ledger

variable {α : Type}

def empty : Ledger α := ⟨[], [], []⟩

def arrive (ledger : Ledger α) (entry : α) : Ledger α :=
  { ledger with arrived := ledger.arrived ++ [entry] }

def serve (ledger : Ledger α) (entry : α) : Ledger α :=
  { ledger with served := ledger.served ++ [entry] }

def drop (ledger : Ledger α) (entries : List α) : Ledger α :=
  { ledger with dropped := ledger.dropped ++ entries }

structure Accounts (ledger : Ledger α) (content : List α) : Prop where
  order : List.Sublist (ledger.served ++ content) ledger.arrived
  conserved : List.Perm ledger.arrived (ledger.served ++ ledger.dropped ++ content)

theorem accounts_empty : Accounts (empty : Ledger α) [] :=
  ⟨List.Sublist.refl _, List.Perm.refl _⟩

theorem Accounts.arrive {ledger : Ledger α} {content : List α}
    (accounts : Accounts ledger content) (entry : α) :
    Accounts (ledger.arrive entry) (content ++ [entry]) := by
  refine ⟨?_, ?_⟩
  · rw [← List.append_assoc]
    exact accounts.order.append (List.Sublist.refl _)
  · rw [← List.append_assoc]
    exact accounts.conserved.append_right _

theorem Accounts.serve {ledger : Ledger α} {entry : α} {rest : List α}
    (accounts : Accounts ledger (entry :: rest)) :
    Accounts (ledger.serve entry) rest := by
  refine ⟨?_, ?_⟩
  · have order := accounts.order
    rwa [← List.singleton_append, ← List.append_assoc] at order
  · refine accounts.conserved.trans ?_
    simp only [Ledger.serve, List.append_assoc, List.singleton_append]
    exact List.Perm.append_left _ List.perm_middle

/-- Dropping the entries that fail `keep` leaves the books balanced. -/
theorem Accounts.filter {ledger : Ledger α} {content : List α}
    (accounts : Accounts ledger content) (keep : α → Bool) :
    Accounts (ledger.drop (content.filter fun entry => !keep entry)) (content.filter keep) := by
  refine ⟨?_, ?_⟩
  · exact ((List.Sublist.refl _).append List.filter_sublist).trans accounts.order
  · refine accounts.conserved.trans ?_
    simp only [Ledger.drop, List.append_assoc]
    refine List.Perm.append_left _ (List.Perm.append_left _ ?_)
    exact ((List.filter_append_perm keep content).symm).trans List.perm_append_comm

theorem Accounts.clear {ledger : Ledger α} {content : List α}
    (accounts : Accounts ledger content) : Accounts (ledger.drop content) [] := by
  simpa using accounts.filter fun _ => false

end Ledger

end Foundation
