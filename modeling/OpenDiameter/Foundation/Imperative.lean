import Mathlib.Tactic.TypeStar

/-! Computations that change a state and may stop early.

What a computation did before it stopped stays done: an exception undoes nothing.
-/

set_option autoImplicit false

namespace Foundation

/-- Why a computation stops early: an exception, or undefined behaviour. -/
inductive Failure (ε : Type) where
  | thrown (error : ε)
  | fault
  deriving DecidableEq, Repr

abbrev Imperative (σ ε α : Type) := EStateM (Failure ε) σ α

namespace Imperative

variable {σ ε α β : Type}

def raise (error : ε) : Imperative σ ε α := throw (.thrown error)

def fault : Imperative σ ε α := throw .fault

def left : EStateM.Result (Failure ε) σ α → σ
  | .ok _ s => s
  | .error _ s => s

def after (x : Imperative σ ε α) (s : σ) : σ := left (x s)

section Runs

@[simp] theorem pure_run (value : α) (s : σ) : (pure value : Imperative σ ε α) s = .ok value s := rfl

@[simp] theorem bind_run (x : Imperative σ ε α) (next : α → Imperative σ ε β) (s : σ) :
    (x >>= next) s = match x s with
      | .ok value middle => next value middle
      | .error failure middle => .error failure middle := by
  show EStateM.bind x next s = _
  unfold EStateM.bind
  cases x s with
  | ok value middle => rfl
  | error failure middle => rfl

theorem bind_ok_iff {x : Imperative σ ε α} {next : α → Imperative σ ε β} {value : β} {s t : σ} :
    (x >>= next) s = .ok value t ↔ ∃ first middle, x s = .ok first middle ∧ next first middle = .ok value t := by
  rw [bind_run]
  cases x s with
  | ok first middle =>
    constructor
    · intro rest
      exact ⟨first, middle, rfl, rest⟩
    · rintro ⟨_, _, same, rest⟩
      cases same
      exact rest
  | error failure middle => simp

@[simp] theorem get_run (s : σ) : (get : Imperative σ ε σ) s = .ok s s := rfl

@[simp] theorem modify_run (change : σ → σ) (s : σ) :
    (modify change : Imperative σ ε PUnit) s = .ok ⟨⟩ (change s) := rfl

@[simp] theorem raise_run (error : ε) (s : σ) : (raise error : Imperative σ ε α) s = .error (.thrown error) s := rfl

@[simp] theorem ite_run (condition : Prop) [Decidable condition] (x y : Imperative σ ε α) (s : σ) :
    (if condition then x else y) s = if condition then x s else y s := by
  split
  case isTrue => rfl
  case isFalse => rfl

@[simp] theorem left_ok (value : α) (s : σ) : left (.ok value s : EStateM.Result (Failure ε) σ α) = s := rfl

@[simp] theorem left_error (failure : Failure ε) (s : σ) :
    left (.error failure s : EStateM.Result (Failure ε) σ α) = s := rfl

@[simp] theorem after_raise (error : ε) (s : σ) : (raise error : Imperative σ ε α).after s = s := rfl

@[simp] theorem after_modify (change : σ → σ) (s : σ) :
    (modify change : Imperative σ ε PUnit).after s = change s := rfl

@[simp] theorem after_modify_bind (change : σ → σ) (next : PUnit → Imperative σ ε β) (s : σ) :
    (modify change >>= next).after s = (next ⟨⟩).after (change s) := rfl

@[simp] theorem after_get_bind (next : σ → Imperative σ ε β) (s : σ) :
    (get >>= next).after s = (next s).after s := rfl

theorem after_of_ok {x : Imperative σ ε α} {value : α} {s t : σ} (same : x s = .ok value t) : x.after s = t := by
  unfold after
  rw [same, left_ok]

theorem after_bind_of_ok {x : Imperative σ ε α} {value : α} {s t : σ} (same : x s = .ok value t)
    (next : α → Imperative σ ε β) : (x >>= next).after s = (next value).after t := by
  unfold after
  rw [bind_run, same]

/-- What is returned at the end does not matter to the state. -/
@[simp] theorem after_bind_pure (x : Imperative σ ε α) (value : α → β) (s : σ) :
    (x >>= fun first => pure (value first)).after s = x.after s := by
  unfold after
  rw [bind_run]
  cases x s <;> rfl

@[simp] theorem after_ite (condition : Prop) [Decidable condition] (x y : Imperative σ ε α) (s : σ) :
    (if condition then x else y).after s = if condition then x.after s else y.after s := by
  split
  case isTrue => rfl
  case isFalse => rfl

end Runs

section Relations

variable {rel : σ → σ → Prop}

/-- A computation leaves a state that is related to the one it found, however it ends. -/
def Relates (rel : σ → σ → Prop) (x : Imperative σ ε α) : Prop := ∀ s, rel s (x.after s)

theorem relates_pure (reflexive : ∀ s, rel s s) (value : α) :
    Relates rel (pure value : Imperative σ ε α) := fun s => reflexive s

theorem relates_get (reflexive : ∀ s, rel s s) : Relates rel (get : Imperative σ ε σ) := fun s => reflexive s

theorem relates_raise (reflexive : ∀ s, rel s s) (error : ε) :
    Relates rel (raise error : Imperative σ ε α) := fun s => reflexive s

theorem relates_modify {change : σ → σ} (each : ∀ s, rel s (change s)) :
    Relates rel (modify change : Imperative σ ε Unit) := each

theorem Relates.bind (transitive : ∀ s t u, rel s t → rel t u → rel s u) {x : Imperative σ ε α}
    {next : α → Imperative σ ε β} (first : Relates rel x) (rest : ∀ value, Relates rel (next value)) :
    Relates rel (x >>= next) := by
  intro s
  have start := first s
  unfold after at start ⊢
  rw [bind_run]
  cases run : x s with
  | ok value middle =>
    rw [run] at start
    exact transitive _ _ _ start (rest value middle)
  | error failure middle =>
    rw [run] at start
    exact start

theorem Relates.ite {condition : Prop} [Decidable condition] {x y : Imperative σ ε α} (holds : Relates rel x)
    (fails : Relates rel y) : Relates rel (if condition then x else y) := by
  by_cases met : condition
  · rw [if_pos met]
    exact holds
  · rw [if_neg met]
    exact fails

end Relations

section Values

variable {p : α → Prop}

/-- What a computation returns, if it returns. -/
def Yields (p : α → Prop) (x : Imperative σ ε α) : Prop := ∀ s value t, x s = .ok value t → p value

theorem yields_pure {value : α} (holds : p value) : Yields p (pure value : Imperative σ ε α) := by
  intro s other t same
  cases same
  exact holds

theorem Yields.bind {x : Imperative σ ε β} {next : β → Imperative σ ε α} (rest : ∀ value, Yields p (next value)) :
    Yields p (x >>= next) := by
  intro s value t same
  obtain ⟨first, middle, _, last⟩ := bind_ok_iff.mp same
  exact rest first middle value t last

theorem Yields.ite {condition : Prop} [Decidable condition] {x y : Imperative σ ε α} (holds : Yields p x)
    (fails : Yields p y) : Yields p (if condition then x else y) := by
  by_cases met : condition
  · rw [if_pos met]
    exact holds
  · rw [if_neg met]
    exact fails

end Values

end Imperative

end Foundation
