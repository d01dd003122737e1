import Mathlib.Tactic.TypeStar

/-! Results of code that may throw, fail otherwise, or read memory it does not own.

`Below` is the flat order with `fault` at the bottom. A computation that reads
more memory than it is given faults, so enlarging the memory moves its result up.
-/

set_option autoImplicit false

namespace Foundation

/-- `thrown` carries the declared exception type, `escaped` is any other
exception, `fault` is undefined behaviour. -/
inductive Outcome (ε α : Type) where
  | returned (value : α)
  | thrown (error : ε)
  | escaped
  | fault
  deriving DecidableEq, Repr

namespace Outcome

variable {ε α β : Type}

protected def bind : Outcome ε α → (α → Outcome ε β) → Outcome ε β
  | returned value, next => next value
  | thrown error, _ => thrown error
  | escaped, _ => escaped
  | fault, _ => fault

instance : Monad (Outcome ε) where
  pure := returned
  bind := Outcome.bind

@[simp] theorem pure_eq (value : α) : (pure value : Outcome ε α) = returned value := rfl

@[simp] theorem returned_bind (value : α) (next : α → Outcome ε β) :
    (returned value >>= next) = next value := rfl

@[simp] theorem thrown_bind (error : ε) (next : α → Outcome ε β) :
    (thrown error >>= next) = thrown error := rfl

@[simp] theorem escaped_bind (next : α → Outcome ε β) : (escaped >>= next) = escaped := rfl

@[simp] theorem fault_bind (next : α → Outcome ε β) : (fault >>= next) = fault := rfl

theorem bind_eq_returned {first : Outcome ε α} {next : α → Outcome ε β} {result : β} :
    (first >>= next) = returned result ↔
      ∃ value, first = returned value ∧ next value = returned result := by
  cases first <;> simp

theorem bind_returned (first : Outcome ε α) : (first >>= returned) = first := by
  cases first <;> rfl

/-- Whether a result is what the exception specification allows. -/
def Declared : Outcome ε α → Prop
  | returned _ => True
  | thrown _ => True
  | escaped => False
  | fault => False

instance (result : Outcome ε α) : Decidable result.Declared :=
  match result with
  | returned _ => isTrue trivial
  | thrown _ => isTrue trivial
  | escaped => isFalse id
  | fault => isFalse id

theorem declared_bind {first : Outcome ε α} {next : α → Outcome ε β} :
    (first >>= next).Declared ↔
      first.Declared ∧ ∀ value, first = returned value → (next value).Declared := by
  cases first <;> simp [Declared]

theorem Declared.ne_fault {result : Outcome ε α} (declared : result.Declared) : result ≠ fault := by
  rintro rfl
  exact declared

def ThrowsOnly (allowed : ε → Prop) (result : Outcome ε α) : Prop := ∀ error, result = thrown error → allowed error

theorem throwsOnly_returned {allowed : ε → Prop} (value : α) : ThrowsOnly allowed (returned value : Outcome ε α) :=
  fun _ thrown => by cases thrown

theorem throwsOnly_thrown {allowed : ε → Prop} {error : ε} (fine : allowed error) :
    ThrowsOnly allowed (thrown error : Outcome ε α) := by
  intro other same
  cases same
  exact fine

theorem ThrowsOnly.bind {allowed : ε → Prop} {first : Outcome ε α} {next : α → Outcome ε β}
    (left : ThrowsOnly allowed first) (right : ∀ value, first = returned value → ThrowsOnly allowed (next value)) :
    ThrowsOnly allowed (first >>= next) := by
  cases first with
  | returned value => exact right value rfl
  | thrown error => exact throwsOnly_thrown (left error rfl)
  | escaped => exact fun _ same => by cases same
  | fault => exact fun _ same => by cases same

def value? : Outcome ε α → Option α
  | returned value => some value
  | _ => none

theorem exists_of_view {result : Outcome ε α} {view : α → β} {seen : β}
    (viewed : result.value?.map view = some seen) : ∃ value, result = returned value ∧ view value = seen := by
  cases result with
  | returned value => exact ⟨value, rfl, Option.some.inj viewed⟩
  | thrown error => cases viewed
  | escaped => cases viewed
  | fault => cases viewed

/-- The flat order: `fault` may become anything, every other result stays. -/
def Below (lower upper : Outcome ε α) : Prop := lower = fault ∨ lower = upper

theorem Below.refl (result : Outcome ε α) : Below result result := .inr rfl

theorem below_of_fault (upper : Outcome ε α) : Below fault upper := .inl rfl

theorem Below.eq {lower upper : Outcome ε α} (below : Below lower upper) (sound : lower ≠ fault) :
    upper = lower :=
  (below.resolve_left sound).symm

theorem Below.bind {lower upper : Outcome ε α} {low high : α → Outcome ε β}
    (below : Below lower upper) (next : ∀ value, Below (low value) (high value)) :
    Below (lower >>= low) (upper >>= high) := by
  rcases below with rfl | rfl
  · exact .inl rfl
  · cases lower with
    | returned value => exact next value
    | thrown error => exact .refl _
    | escaped => exact .refl _
    | fault => exact .refl _

end Outcome

end Foundation
