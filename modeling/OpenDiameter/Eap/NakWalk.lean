import OpenDiameter.Eap.PolicyTree
import OpenDiameter.Foundation.Machine
import OpenDiameter.Foundation.Outcome

/-! The walk of a `Nak` down the failure branches of a policy.

The loop goes one hop, then asks for the type of the element it has come to, and only
then whether there is such a type: a leaf is not a continued element, and has none.
-/

set_option autoImplicit false

namespace OpenDiameter.Eap

open Foundation

namespace EapPolicy

section Walk

variable (heap : PolicyHeap) (typeL : List EapType)

/-- A turn of `Update` with a type list, with the elements whose type is read. -/
def nakTurn : Body EapPolicy PolicyElement (Outcome Empty EapPolicy) := fun policy =>
  match element heap policy.currentPolicyElement with
  | none => ([], .done (.returned policy))
  | some _ =>
    let next := policy.update heap .policyOnFailure
    if typeL.isEmpty then ([], .done (.returned next))
    else
      match next.currentMethod heap with
      | none => ([next.currentPolicyElement], .done .fault)
      | some type =>
        ([next.currentPolicyElement], if typeL.contains type then .done (.returned next) else .again next)

inductive FailureChain : PolicyElement → List PolicyElement → Prop where
  | leaf {p : PolicyElement} : p = .finalSuccess ∨ p = .finalFailure → FailureChain p [p]
  | continued {p : PolicyElement} {e : ContinuedPolicyElement} {rest : List PolicyElement} :
      element heap p = some e → FailureChain e.nextOnFailure rest → FailureChain p (p :: rest)

def accepted (p : PolicyElement) : Bool :=
  (element heap p).any fun e => typeL.isEmpty || typeL.contains e.methodType

def stops (p : PolicyElement) : Bool := (element heap p).isNone || accepted heap typeL p

def nakTarget (chain : List PolicyElement) (p : PolicyElement) : PolicyElement :=
  (chain.tail.find? (stops heap typeL)).getD p

/-- `Update` ends at the target, and has not read a type where there is none. -/
def NakFollowed (policy : EapPolicy) (chain : List PolicyElement) : Prop :=
  ∃ reads, (nakTurn heap typeL).Ends policy reads
      (.returned { policy with currentPolicyElement := nakTarget heap typeL chain policy.currentPolicyElement }) ∧
    ∀ p ∈ reads, (element heap p).isSome = true

end Walk

section Turns

variable {heap : PolicyHeap} {typeL : List EapType} {policy : EapPolicy} {e next : ContinuedPolicyElement}

theorem update_of_element (here : element heap policy.currentPolicyElement = some e) :
    policy.update heap .policyOnFailure = { policy with currentPolicyElement := e.nextOnFailure } := by
  rw [update, here]
  rfl

theorem nakTurn_leaf (leaf : element heap policy.currentPolicyElement = none) :
    nakTurn heap typeL policy = ([], .done (.returned policy)) := by
  rw [nakTurn, leaf]

theorem nakTurn_nil (here : element heap policy.currentPolicyElement = some e) :
    nakTurn heap [] policy = ([], .done (.returned { policy with currentPolicyElement := e.nextOnFailure })) := by
  rw [nakTurn, here, update_of_element here]
  rfl

theorem nakTurn_cons (types : typeL ≠ []) (here : element heap policy.currentPolicyElement = some e) :
    nakTurn heap typeL policy =
      ([e.nextOnFailure],
        match (element heap e.nextOnFailure).map (·.methodType) with
        | none => .done .fault
        | some type =>
          if typeL.contains type then .done (.returned { policy with currentPolicyElement := e.nextOnFailure })
          else .again { policy with currentPolicyElement := e.nextOnFailure }) := by
  have nonempty : typeL.isEmpty = false := List.isEmpty_eq_false_iff.mpr types
  rw [nakTurn, here, update_of_element here]
  dsimp only [currentMethod]
  rw [nonempty, if_neg Bool.false_ne_true]
  cases element heap e.nextOnFailure <;> rfl

theorem element_leaf {p : PolicyElement} (leaf : p = .finalSuccess ∨ p = .finalFailure) : element heap p = none := by
  rcases leaf with rfl | rfl <;> rfl

theorem FailureChain.eq_cons {p : PolicyElement} {chain : List PolicyElement} (finite : FailureChain heap p chain) :
    ∃ rest, chain = p :: rest := by
  cases finite with
  | leaf => exact ⟨[], rfl⟩
  | continued => exact ⟨_, rfl⟩

end Turns

section Result

variable {heap : PolicyHeap} {typeL : List EapType}

theorem nak_ends (types : typeL ≠ []) {p : PolicyElement} {chain : List PolicyElement}
    (finite : FailureChain heap p chain) (policy : EapPolicy) (current : policy.currentPolicyElement = p)
    (continued : (element heap p).isSome = true) :
    ∃ reads, (nakTurn heap typeL).Ends policy reads
        (match chain.tail.find? (accepted heap typeL) with
          | some q => .returned { policy with currentPolicyElement := q }
          | none => .fault) ∧
      ((chain.tail.find? (accepted heap typeL)).isSome = true → ∀ q ∈ reads, (element heap q).isSome = true) := by
  have filled : typeL.isEmpty = false := List.isEmpty_eq_false_iff.mpr types
  induction finite generalizing policy with
  | leaf leaf =>
    rw [element_leaf leaf] at continued
    cases continued
  | @continued p e rest here tail ih =>
    subst current
    have turn := nakTurn_cons types here
    obtain ⟨after, rfl⟩ := tail.eq_cons
    rw [List.tail_cons, List.find?_cons]
    cases there : element heap e.nextOnFailure with
    | none =>
      -- The next element is the leaf, and the last of the chain.
      have last : after = [] := by
        cases tail with
        | leaf => rfl
        | continued found =>
          rw [there] at found
          cases found
      have refused : accepted heap typeL e.nextOnFailure = false := by rw [accepted, there]; rfl
      rw [refused, last]
      rw [there] at turn
      exact ⟨_, .done turn, fun found => Bool.noConfusion found⟩
    | some next =>
      rw [there] at turn
      dsimp only [Option.map_some] at turn
      cases accept : typeL.contains next.methodType with
      | true =>
        have stop : accepted heap typeL e.nextOnFailure = true := by
          rw [accepted, there, Option.any_some, accept, Bool.or_true]
        rw [stop]
        rw [accept, if_pos rfl] at turn
        refine ⟨_, .done turn, fun _ q read => ?_⟩
        rw [List.mem_singleton.mp read, there]
        rfl
      | false =>
        have onward : accepted heap typeL e.nextOnFailure = false := by
          rw [accepted, there, Option.any_some, accept, filled]
          rfl
        rw [onward]
        rw [accept, if_neg Bool.false_ne_true] at turn
        obtain ⟨reads, ends, clean⟩ := ih { policy with currentPolicyElement := e.nextOnFailure } rfl (by rw [there]; rfl)
        refine ⟨_, .again turn ends, fun found q read => ?_⟩
        rcases List.mem_append.mp read with first | later
        · rw [List.mem_singleton.mp first, there]
          rfl
        · exact clean found q later

theorem FailureChain.find_stops {p q : PolicyElement} {chain : List PolicyElement} (finite : FailureChain heap p chain)
    (found : chain.find? (accepted heap typeL) = some q) : chain.find? (stops heap typeL) = some q := by
  induction finite with
  | @leaf p leaf =>
    have refused : accepted heap typeL p = false := by rw [accepted, element_leaf leaf]; rfl
    rw [List.find?_cons, refused] at found
    cases found
  | @continued p e rest here tail ih =>
    have same : stops heap typeL p = accepted heap typeL p := by rw [stops, here]; rfl
    rw [List.find?_cons] at found ⊢
    rw [same]
    cases accept : accepted heap typeL p with
    | true =>
      rw [accept] at found
      exact found
    | false =>
      rw [accept] at found
      exact ih found

/-- The walk of the machines takes the same turns, and takes no type where there is none. -/
theorem updateListFor_turn (policy : EapPolicy) (count : Nat) :
    policy.updateListFor heap typeL (count + 1) =
      match (nakTurn heap typeL policy).2 with
      | .again next => next.updateListFor heap typeL count
      | .done (.returned result) => result
      | .done _ => (policy.update heap .policyOnFailure).updateListFor heap typeL count := by
  rw [updateListFor]
  cases here : element heap policy.currentPolicyElement with
  | none =>
    rw [nakTurn_leaf here]
    rfl
  | some e =>
    by_cases types : typeL = []
    · subst types
      rw [nakTurn_nil here, update_of_element here]
      rfl
    · have filled : typeL.isEmpty = false := List.isEmpty_eq_false_iff.mpr types
      rw [nakTurn_cons types here, update_of_element here, filled]
      dsimp only [currentMethod, Option.isNone_some]
      rw [if_neg Bool.false_ne_true]
      rcases Option.eq_none_or_eq_some (element heap e.nextOnFailure) with there | ⟨next, there⟩
      · simp [there]
      · by_cases accept : next.methodType ∈ typeL <;> simp [there, accept]

theorem updateListFor_of_ends {policy result : EapPolicy} {reads : List PolicyElement}
    (ends : (nakTurn heap typeL).Ends policy reads (.returned result)) :
    ∃ count, ∀ more, policy.updateListFor heap typeL (count + more) = result := by
  generalize last : Outcome.returned (ε := Empty) result = final at ends
  induction ends with
  | done turn =>
    subst last
    refine ⟨1, fun more => ?_⟩
    rw [Nat.add_comm, updateListFor_turn, turn]
  | again turn _ ih =>
    obtain ⟨count, walked⟩ := ih last
    refine ⟨count + 1, fun more => ?_⟩
    rw [Nat.add_right_comm, updateListFor_turn, turn]
    exact walked more

/-- The walk is right exactly when it does not come to a leaf with types in its hand. -/
theorem nakFollowed_iff {policy : EapPolicy} {chain : List PolicyElement}
    (finite : FailureChain heap policy.currentPolicyElement chain) :
    NakFollowed heap typeL policy chain ↔
      element heap policy.currentPolicyElement = none ∨ typeL = [] ∨ ∃ q ∈ chain.tail, accepted heap typeL q = true := by
  cases here : element heap policy.currentPolicyElement with
  | none =>
    have ends := Body.Ends.done (@nakTurn_leaf heap typeL policy here)
    have stays : chain.tail = [] := by
      cases finite with
      | leaf => rfl
      | continued found =>
        rw [here] at found
        cases found
    refine iff_of_true ⟨[], ?_, by simp⟩ (.inl rfl)
    rw [nakTarget, stays]
    exact ends
  | some e =>
    have onward : FailureChain heap e.nextOnFailure chain.tail := by
      cases finite with
      | leaf leaf =>
        rw [element_leaf leaf] at here
        cases here
      | continued found tail =>
        rw [here] at found
        cases found
        exact tail
    by_cases types : typeL = []
    · subst types
      obtain ⟨rest, tail⟩ := onward.eq_cons
      have stop : stops heap [] e.nextOnFailure = true := by
        unfold stops accepted
        cases element heap e.nextOnFailure <;> rfl
      refine iff_of_true ⟨[], ?_, by simp⟩ (.inr (.inl rfl))
      rw [nakTarget, tail, List.find?_cons, stop]
      exact .done (nakTurn_nil here)
    · obtain ⟨reads, ends, clean⟩ := nak_ends types finite policy rfl (by rw [here]; rfl)
      constructor
      · rintro ⟨reads', ends', -⟩
        refine .inr (.inr ?_)
        cases found : chain.tail.find? (accepted heap typeL) with
        | none =>
          rw [found] at ends
          cases (ends.unique ends').2
        | some q => exact ⟨q, List.mem_of_find?_eq_some found, List.find?_some found⟩
      · rintro (leaf | empty | ⟨q, member, accept⟩)
        · cases leaf
        · exact absurd empty types
        · obtain ⟨first, found⟩ := List.find?_isSome.mpr ⟨q, member, accept⟩ |> Option.isSome_iff_exists.mp
          rw [found] at ends clean
          refine ⟨reads, ?_, clean rfl⟩
          rw [nakTarget, onward.find_stops found]
          exact ends

def lone (methodType : EapType) : PolicyHeap × EapPolicy :=
  ([{ methodType }], ⟨.continued 0, .continued 0⟩)

theorem lone_chain (methodType : EapType) :
    FailureChain (lone methodType).1 (lone methodType).2.currentPolicyElement [.continued 0, .finalFailure] :=
  .continued rfl (.leaf (.inr rfl))

def fallback (first second : EapType) : PolicyHeap × EapPolicy :=
  ([{ methodType := first, nextOnFailure := .continued 1 }, { methodType := second }], ⟨.continued 0, .continued 0⟩)

theorem fallback_chain (first second : EapType) :
    FailureChain (fallback first second).1 (fallback first second).2.currentPolicyElement
      [.continued 0, .continued 1, .finalFailure] :=
  .continued rfl (.continued rfl (.leaf (.inr rfl)))

theorem nakFollowed_iff_fallback :
    NakFollowed (fallback { type := 4 } { type := 13 }).1 [{ type := 13 }] (fallback { type := 4 } { type := 13 }).2
      [.continued 0, .continued 1, .finalFailure] :=
  (nakFollowed_iff (fallback_chain { type := 4 } { type := 13 })).mpr
    (.inr (.inr ⟨.continued 1, List.mem_cons_self, rfl⟩))

/-- A `Nak` for another type asks the leaf for its own. -/
theorem nak_reads_leaf :
    ¬∀ (heap : PolicyHeap) (typeL : List EapType) (policy : EapPolicy) (chain : List PolicyElement),
      FailureChain heap policy.currentPolicyElement chain → NakFollowed heap typeL policy chain := by
  intro claim
  obtain ⟨reads, ends, -⟩ := claim _ [{ type := 13 }] _ _ (lone_chain { type := 4 })
  have faults : (nakTurn (lone { type := 4 }).1 [{ type := 13 }]).Ends (lone { type := 4 }).2 [.finalFailure] .fault := .done rfl
  cases (ends.unique faults).2

end Result

end EapPolicy

end OpenDiameter.Eap
