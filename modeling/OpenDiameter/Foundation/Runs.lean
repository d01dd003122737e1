import Mathlib.Data.List.Basic

/-! Runs of a deterministic machine on a list of inputs. -/

set_option autoImplicit false

namespace Foundation

section Runs

variable {σ ι : Type} (step : σ → ι → σ)

/-- Every step of the run from `s` on the inputs meets a condition on the state
before it and on its input. -/
def Stepwise (condition : σ → ι → Prop) : σ → List ι → Prop
  | _, [] => True
  | s, input :: inputs => condition s input ∧ Stepwise condition (step s input) inputs

variable {step} {condition other : σ → ι → Prop} {holds : σ → Prop}

instance decidableStepwise [∀ s input, Decidable (condition s input)] :
    (s : σ) → (inputs : List ι) → Decidable (Stepwise step condition s inputs)
  | _, [] => .isTrue trivial
  | s, input :: inputs =>
    haveI := decidableStepwise (step s input) inputs
    inferInstanceAs (Decidable (condition s input ∧ Stepwise step condition (step s input) inputs))

theorem stepwise_append {s : σ} {first second : List ι} :
    Stepwise step condition s (first ++ second) ↔
      Stepwise step condition s first ∧ Stepwise step condition (first.foldl step s) second := by
  induction first generalizing s with
  | nil => simp only [List.nil_append, Stepwise, true_and, List.foldl_nil]
  | cons input first ih =>
    rw [List.cons_append, Stepwise, Stepwise, ih, and_assoc, List.foldl_cons]

theorem Stepwise.invariant
    (keeps : ∀ s input, holds s → condition s input → holds (step s input)) {s : σ} {inputs : List ι}
    (meets : Stepwise step condition s inputs) (initially : holds s) : holds (inputs.foldl step s) := by
  induction inputs generalizing s with
  | nil => exact initially
  | cons input inputs ih => exact ih meets.2 (keeps s input initially meets.1)

theorem Stepwise.imp {admitted : ι → Prop}
    (implies : ∀ s input, holds s → admitted input → condition s input → other s input)
    (keeps : ∀ s input, holds s → admitted input → condition s input → holds (step s input)) {s : σ}
    {inputs : List ι} (meets : Stepwise step condition s inputs) (initially : holds s)
    (each : ∀ input ∈ inputs, admitted input) : Stepwise step other s inputs := by
  induction inputs generalizing s with
  | nil => trivial
  | cons input inputs ih =>
    obtain ⟨here, rest⟩ := List.forall_mem_cons.mp each
    exact ⟨implies s input initially here meets.1, ih meets.2 (keeps s input initially here meets.1) rest⟩

theorem stepwise_iff {admitted : ι → Prop}
    (agree : ∀ s input, holds s → admitted input → (other s input ↔ condition s input))
    (keeps : ∀ s input, holds s → admitted input → condition s input → holds (step s input)) {s : σ}
    {inputs : List ι} (initially : holds s) (each : ∀ input ∈ inputs, admitted input) :
    Stepwise step other s inputs ↔ Stepwise step condition s inputs := by
  induction inputs generalizing s with
  | nil => exact Iff.rfl
  | cons input inputs ih =>
    obtain ⟨here, rest⟩ := List.forall_mem_cons.mp each
    constructor
    · rintro ⟨first, later⟩
      have meets := (agree s input initially here).mp first
      exact ⟨meets, (ih (keeps s input initially here meets) rest).mp later⟩
    · rintro ⟨meets, later⟩
      exact ⟨(agree s input initially here).mpr meets, (ih (keeps s input initially here meets) rest).mpr later⟩

theorem forall_prefix_iff {s : σ} {inputs : List ι} :
    (∀ before, before <+: inputs → holds (before.foldl step s)) ↔
      holds s ∧ Stepwise step (fun s input => holds (step s input)) s inputs := by
  induction inputs generalizing s with
  | nil =>
    constructor
    · intro each
      exact ⟨each [] (List.prefix_refl []), trivial⟩
    · rintro ⟨here, -⟩ before inside
      rw [List.prefix_nil.mp inside]
      exact here
  | cons input inputs ih =>
    constructor
    · intro each
      have later := ih.mp fun before inside => each (input :: before) (List.cons_prefix_cons.mpr ⟨rfl, inside⟩)
      exact ⟨each [] List.nil_prefix, later⟩
    · rintro ⟨here, next, rest⟩ before inside
      cases before with
      | nil => exact here
      | cons other before =>
        obtain ⟨rfl, shorter⟩ := List.cons_prefix_cons.mp inside
        exact ih.mpr ⟨next, rest⟩ before shorter

theorem stepwise_of_forall_mem {p : ι → Prop} {s : σ} {inputs : List ι} (each : ∀ input ∈ inputs, p input) :
    Stepwise step (fun _ input => p input) s inputs := by
  induction inputs generalizing s with
  | nil => trivial
  | cons input inputs ih =>
    obtain ⟨first, rest⟩ := List.forall_mem_cons.mp each
    exact ⟨first, ih rest⟩

end Runs

end Foundation
