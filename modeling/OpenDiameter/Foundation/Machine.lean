import Mathlib.Data.Nat.Notation
import Mathlib.Tactic.TypeStar

/-! Loops that report what they do.

A loop body either asks for another turn or is done, and reports events on the
way. Nothing says that a loop ends: that is what a measure shows, and an
invariant that only leads to further turns refutes.
-/

set_option autoImplicit false

namespace Foundation

inductive Turn (σ ρ : Type) where
  | again (next : σ)
  | done (result : ρ)

/-- The body of a loop over states `σ`, with events `ε` and results `ρ`. -/
abbrev Body (σ ε ρ : Type) : Type := σ → List ε × Turn σ ρ

namespace Body

variable {σ ε ρ : Type}

inductive Ends (body : Body σ ε ρ) : σ → List ε → ρ → Prop where
  | done {s : σ} {events : List ε} {result : ρ} :
      body s = (events, .done result) → Ends body s events result
  | again {s next : σ} {events later : List ε} {result : ρ} :
      body s = (events, .again next) → Ends body next later result →
      Ends body s (events ++ later) result

/-- The states in which the loop starts a turn. -/
inductive Reaches (body : Body σ ε ρ) : σ → σ → Prop where
  | here (s : σ) : Reaches body s s
  | again {s next last : σ} {events : List ε} :
      body s = (events, .again next) → Reaches body next last → Reaches body s last

def runFor (body : Body σ ε ρ) : Nat → σ → Option (List ε × ρ)
  | 0, _ => none
  | fuel + 1, s =>
    match body s with
    | (events, .done result) => some (events, result)
    | (events, .again next) => (runFor body fuel next).map fun (later, result) => (events ++ later, result)

variable {body : Body σ ε ρ}

theorem Ends.of_runFor {fuel : Nat} {s : σ} {events : List ε} {result : ρ}
    (ran : body.runFor fuel s = some (events, result)) : body.Ends s events result := by
  induction fuel generalizing s events with
  | zero => cases ran
  | succ fuel ih =>
    unfold runFor at ran
    rcases turned : body s with ⟨first, next | last⟩
    · rw [turned] at ran
      obtain ⟨⟨later, result'⟩, rest, same⟩ := Option.map_eq_some_iff.mp ran
      cases same
      exact .again turned (ih rest)
    · rw [turned] at ran
      cases ran
      exact .done turned

theorem exists_ends_of_runFor {fuel : Nat} {s : σ} {result : ρ}
    (ran : (body.runFor fuel s).map Prod.snd = some result) : ∃ events, body.Ends s events result := by
  obtain ⟨⟨events, result'⟩, whole, rfl⟩ := Option.map_eq_some_iff.mp ran
  exact ⟨events, .of_runFor whole⟩

theorem Ends.unique {s : σ} {events events' : List ε} {result result' : ρ}
    (first : body.Ends s events result) (second : body.Ends s events' result') :
    events = events' ∧ result = result' := by
  induction first generalizing events' with
  | done turned =>
    cases second with
    | done turned' =>
      rw [turned] at turned'
      cases turned'
      exact ⟨rfl, rfl⟩
    | again turned' _ =>
      rw [turned] at turned'
      cases turned'
  | again turned _ ih =>
    cases second with
    | done turned' =>
      rw [turned] at turned'
      cases turned'
    | again turned' later =>
      rw [turned] at turned'
      cases turned'
      obtain ⟨rfl, same⟩ := ih later
      exact ⟨rfl, same⟩

theorem Reaches.invariant {holds : σ → Prop}
    (preserved : ∀ s events next, holds s → body s = (events, .again next) → holds next)
    {s last : σ} (reaches : body.Reaches s last) (initially : holds s) : holds last := by
  induction reaches with
  | here => exact initially
  | again turned _ ih => exact ih (preserved _ _ _ initially turned)

theorem Ends.of_reaches {s last : σ} {events : List ε} {result : ρ}
    (ends : body.Ends s events result) (reaches : body.Reaches s last) :
    ∃ later, body.Ends last later result := by
  induction reaches generalizing events with
  | here => exact ⟨events, ends⟩
  | again turned _ ih =>
    cases ends with
    | done turned' =>
      rw [turned] at turned'
      cases turned'
    | again turned' later =>
      rw [turned] at turned'
      cases turned'
      exact ih later

theorem Ends.exists_done {s : σ} {events : List ε} {result : ρ} (ends : body.Ends s events result) :
    ∃ last events', body.Reaches s last ∧ body last = (events', .done result) := by
  induction ends with
  | done turned => exact ⟨_, _, .here _, turned⟩
  | again turned _ ih =>
    obtain ⟨last, events', reaches, done⟩ := ih
    exact ⟨last, events', .again turned reaches, done⟩

theorem ends_of_measure (measure : σ → Nat) {s : σ}
    (decreases : ∀ reached, body.Reaches s reached → ∀ events next,
      body reached = (events, .again next) → measure next < measure reached) :
    ∃ events result, body.Ends s events result := by
  induction size : measure s using Nat.strongRecOn generalizing s with
  | ind size ih =>
    subst size
    rcases turned : body s with ⟨events, next | result⟩
    · have smaller := decreases s (.here s) events next turned
      obtain ⟨later, result, ends⟩ := ih (measure next) smaller
        (fun reached reaches => decreases reached (.again turned reaches)) rfl
      exact ⟨_, result, .again turned ends⟩
    · exact ⟨events, result, .done turned⟩

theorem not_ends_of_invariant {holds : σ → Prop}
    (preserved : ∀ s, holds s → ∃ events next, body s = (events, .again next) ∧ holds next) {s : σ}
    (initially : holds s) (events : List ε) (result : ρ) : ¬body.Ends s events result := by
  intro ends
  induction ends with
  | done turned =>
    obtain ⟨events', next, turned', -⟩ := preserved _ initially
    rw [turned] at turned'
    cases turned'
  | again turned _ ih =>
    obtain ⟨events', next, turned', held⟩ := preserved _ initially
    rw [turned] at turned'
    cases turned'
    exact ih held

end Body

section Faulting

variable {σ ρ : Type}

/-- A loop whose body may fault, for at most so many turns. -/
def turns (body : σ → Option (Turn σ ρ)) : Nat → σ → Option ρ
  | 0, _ => none
  | fuel + 1, s =>
    match body s with
    | none => none
    | some (.again next) => turns body fuel next
    | some (.done result) => some result

/-- The rule of total correctness: the body keeps the invariant, does not fault,
and decreases its variant until it is done. -/
theorem turns_of_variant {body : σ → Option (Turn σ ρ)} {holds : Nat → σ → Prop} {goal : ρ → Prop}
    (turn : ∀ k s, holds k s →
      (∃ k' next, k' < k ∧ body s = some (.again next) ∧ holds k' next) ∨
        ∃ result, body s = some (.done result) ∧ goal result)
    {fuel k : Nat} {s : σ} (held : holds k s) (enough : k < fuel) :
    ∃ result, turns body fuel s = some result ∧ goal result := by
  induction fuel generalizing k s with
  | zero => exact absurd enough (Nat.not_lt_zero _)
  | succ fuel ih =>
    unfold turns
    rcases turn k s held with ⟨k', next, smaller, turned, held'⟩ | ⟨result, turned, reached⟩
    · rw [turned]
      exact ih held' (by omega)
    · rw [turned]
      exact ⟨result, rfl, reached⟩

theorem turns_eq_none {body : σ → Option (Turn σ ρ)} (going : ∀ s result, body s ≠ some (.done result))
    {fuel : Nat} {s : σ} : turns body fuel s = none := by
  induction fuel generalizing s with
  | zero => rfl
  | succ fuel ih =>
    unfold turns
    cases turned : body s with
    | none => rfl
    | some next =>
      cases next with
      | again next => exact ih
      | done result => exact absurd turned (going s result)

end Faulting

end Foundation
