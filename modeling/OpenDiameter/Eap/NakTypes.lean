import OpenDiameter.Eap.PolicyTree
import OpenDiameter.Foundation.Lists

/-! The types that a peer offers in a `Nak`.

The list is meant to have the types of all elements below the current one. The function
calls the public overload again, which starts from the current element each time.
-/

set_option autoImplicit false

namespace OpenDiameter.Eap

open Foundation

section Trees

inductive ElementTree where
  | leaf
  | continued (methodType : EapType) (onSuccess onFailure : ElementTree)

namespace ElementTree

def types : ElementTree → List EapType
  | .leaf => []
  | .continued methodType onSuccess onFailure => methodType :: (onSuccess.types ++ onFailure.types)

/-- What a `Nak` can say of a type: a legacy one has no vendor specific types. -/
def nakType (isVSE : Bool) (type : EapType) : EapType := if !isVSE && type.isVSE then { type := 254 } else type

def offered (tree : ElementTree) (isVSE : Bool) : List EapType :=
  if tree.types.isEmpty then [{ type := 0 }] else (tree.types.map (nakType isVSE)).eraseDups

inductive Below (heap : PolicyHeap) : PolicyElement → ElementTree → Prop where
  | leaf {p : PolicyElement} : p = .finalSuccess ∨ p = .finalFailure → Below heap p .leaf
  | continued {p : PolicyElement} {e : ContinuedPolicyElement} {onSuccess onFailure : ElementTree} :
      EapPolicy.element heap p = some e → Below heap e.nextOnSuccess onSuccess → Below heap e.nextOnFailure onFailure →
      Below heap p (.continued e.methodType onSuccess onFailure)

end ElementTree

end Trees

namespace EapPolicy

section Calls

variable {heap : PolicyHeap} {policy : EapPolicy} {e : ContinuedPolicyElement} {typeL : List EapType}

theorem makeTypeListFor_listed (here : element heap policy.currentPolicyElement = some e) {isVSE : Bool} (count : Nat)
    (listed : ElementTree.nakType isVSE e.methodType ∈ typeL) :
    policy.makeTypeListFor heap count typeL isVSE = typeL := by
  cases count with
  | zero => rfl
  | succ count =>
    rw [makeTypeListFor, here]
    exact if_pos (List.contains_iff_mem.mpr listed)

theorem makeTypeListFor_fresh (here : element heap policy.currentPolicyElement = some e) {isVSE : Bool} (count : Nat)
    (fresh : ElementTree.nakType isVSE e.methodType ∉ typeL) :
    policy.makeTypeListFor heap (count + 1) typeL isVSE =
      policy.makeTypeListFor heap count
        (policy.makeTypeListFor heap count (typeL ++ [ElementTree.nakType isVSE e.methodType]) (e.nextOnSuccess != .null))
        (e.nextOnFailure != .null) := by
  rw [makeTypeListFor, here]
  exact if_neg fun listed => fresh (List.contains_iff_mem.mp listed)

/-- However deep the calls go, an element adds its type, and again without a replacement. -/
theorem makeTypeListFor_element (here : element heap policy.currentPolicyElement = some e)
    (onSuccess : e.nextOnSuccess ≠ .null) (onFailure : e.nextOnFailure ≠ .null) (isVSE : Bool) (count : Nat) :
    policy.makeTypeListFor heap (count + 3) [] isVSE =
      if ElementTree.nakType isVSE e.methodType = e.methodType then [e.methodType]
      else [ElementTree.nakType isVSE e.methodType, e.methodType] := by
  have success : (e.nextOnSuccess != .null) = true := bne_iff_ne.mpr onSuccess
  have failure : (e.nextOnFailure != .null) = true := bne_iff_ne.mpr onFailure
  have plain : ElementTree.nakType true e.methodType = e.methodType := rfl
  rw [makeTypeListFor_fresh here _ List.not_mem_nil, success, failure, List.nil_append]
  by_cases same : ElementTree.nakType isVSE e.methodType = e.methodType
  · have listed : ElementTree.nakType true e.methodType ∈ [e.methodType] := by rw [plain]; exact List.mem_cons_self
    rw [if_pos same, same, makeTypeListFor_listed here _ listed, makeTypeListFor_listed here _ listed]
  · have fresh : ElementTree.nakType true e.methodType ∉ [ElementTree.nakType isVSE e.methodType] := by
      rw [plain, List.mem_singleton]
      exact fun equal => same equal.symm
    have listed : ElementTree.nakType true e.methodType ∈ [ElementTree.nakType isVSE e.methodType, e.methodType] := by
      rw [plain]
      exact List.mem_cons_of_mem _ List.mem_cons_self
    rw [if_neg same, makeTypeListFor_fresh here _ fresh, success, failure, plain, List.singleton_append,
      makeTypeListFor_listed here _ listed, makeTypeListFor_listed here _ listed, makeTypeListFor_listed here _ listed]

end Calls

section Result

open ElementTree

variable {heap : PolicyHeap} {policy : EapPolicy} {tree : ElementTree}

theorem Below.ne_null {p : PolicyElement} (below : Below heap p tree) : p ≠ .null := by
  rintro rfl
  cases below with
  | leaf leaf => cases leaf <;> contradiction
  | continued here => cases here

theorem nakType_isVSE (type : EapType) : (nakType false type).isVSE = false := by
  unfold nakType
  cases vendor : type.isVSE with
  | true => rfl
  | false => exact vendor

/-- The list is right exactly when every element below has the type of the current one,
and that one is not replaced. -/
theorem makeTypeList_iff (below : Below heap policy.currentPolicyElement tree) (isVSE : Bool) :
    policy.makeTypeList heap isVSE = tree.offered isVSE ↔ ∀ type ∈ tree.types, tree.types.head? = some (nakType isVSE type) := by
  cases below with
  | leaf leaf =>
    have nothing : element heap policy.currentPolicyElement = none := by rcases leaf with same | same <;> rw [same] <;> rfl
    refine iff_of_true ?_ (by simp [types])
    rw [makeTypeList, makeTypeListFor, nothing]
    rfl
  | @continued p e onSuccess onFailure here success failure =>
    have list := makeTypeListFor_element here (Below.ne_null success) (Below.ne_null failure) isVSE 0
    have expected : (ElementTree.continued e.methodType onSuccess onFailure).offered isVSE =
        (nakType isVSE e.methodType :: (onSuccess.types ++ onFailure.types).map (nakType isVSE)).eraseDups := rfl
    rw [expected, makeTypeList, list]
    by_cases same : nakType isVSE e.methodType = e.methodType
    · rw [if_pos same, same]
      dsimp only [List.isEmpty_cons]
      rw [if_neg Bool.false_ne_true, eq_comm, eraseDups_cons_eq_singleton, List.forall_mem_map, types, List.head?_cons,
        List.forall_mem_cons, same, and_iff_right rfl]
      exact forall₂_congr fun type _ => by rw [Option.some.injEq, eq_comm]
    · -- The type is replaced, and still in the list.
      rw [if_neg same]
      dsimp only [List.isEmpty_cons]
      rw [if_neg Bool.false_ne_true]
      have legacy : isVSE = false := by
        cases isVSE with
        | true => exact absurd rfl same
        | false => rfl
      subst legacy
      refine iff_of_false ?_ ?_
      · intro equal
        have listed : e.methodType ∈ (nakType false e.methodType :: (onSuccess.types ++ onFailure.types).map (nakType false)).eraseDups :=
          equal ▸ List.mem_cons_of_mem _ List.mem_cons_self
        rw [List.mem_eraseDups, ← List.map_cons] at listed
        obtain ⟨type, -, replaced⟩ := List.mem_map.mp listed
        have legacy := nakType_isVSE type
        rw [replaced] at legacy
        have vendor : e.methodType.isVSE = true := by
          by_contra other
          exact same (by simp [nakType, other])
        rw [vendor] at legacy
        cases legacy
      · intro all
        have first := all e.methodType List.mem_cons_self
        exact same (Option.some.inj first).symm

section Samples

def threeMethods (first second third : EapType) : PolicyHeap :=
  [⟨first, .continued 1, .continued 2⟩, ⟨second, .finalSuccess, .finalFailure⟩, ⟨third, .finalSuccess, .finalFailure⟩]

theorem below_threeMethods (first second third : EapType) :
    Below (threeMethods first second third) (.continued 0)
      (.continued first (.continued second .leaf .leaf) (.continued third .leaf .leaf)) := by
  let top : ContinuedPolicyElement := ⟨first, .continued 1, .continued 2⟩
  let next : ContinuedPolicyElement := ⟨second, .finalSuccess, .finalFailure⟩
  let other : ContinuedPolicyElement := ⟨third, .finalSuccess, .finalFailure⟩
  have here : element [top, next, other] (.continued 0) = some top := rfl
  have onSuccess : element [top, next, other] (.continued 1) = some next := rfl
  have onFailure : element [top, next, other] (.continued 2) = some other := rfl
  exact Below.continued here (Below.continued onSuccess (Below.leaf (Or.inl rfl)) (Below.leaf (Or.inr rfl)))
    (Below.continued onFailure (Below.leaf (Or.inl rfl)) (Below.leaf (Or.inr rfl)))

end Samples

/-- Of two levels the list is right when there is one type, and wrong when another is below it. -/
theorem makeTypeList_iff_two_levels :
    EapPolicy.makeTypeList (threeMethods { type := 4 } { type := 4 } { type := 4 }) ⟨.continued 0, .continued 0⟩ false =
        [{ type := 4 }] ∧
      (ElementTree.continued { type := 4 } (.continued { type := 4 } .leaf .leaf)
        (.continued { type := 4 } .leaf .leaf)).offered false = [{ type := 4 }] ∧
      EapPolicy.makeTypeList (threeMethods { type := 4 } { type := 4 } { type := 13 }) ⟨.continued 0, .continued 0⟩ false ≠
        (ElementTree.continued { type := 4 } (.continued { type := 4 } .leaf .leaf)
          (.continued { type := 13 } .leaf .leaf)).offered false := by
  have alike := (@makeTypeList_iff _ ⟨.continued 0, .continued 0⟩ _
    (below_threeMethods { type := 4 } { type := 4 } { type := 4 }) false).mpr (by decide)
  refine ⟨alike.trans (by decide), by decide, fun equal => ?_⟩
  have all := (@makeTypeList_iff _ ⟨.continued 0, .continued 0⟩ _
    (below_threeMethods { type := 4 } { type := 4 } { type := 13 }) false).mp equal
  exact absurd all (by decide)

/-- The second method of a policy is not in the list. -/
theorem makeTypeList_misses :
    ∃ (heap : PolicyHeap) (tree : ElementTree), Below heap (.continued 0) tree ∧
      tree.types = [{ type := 13 }, { type := 4 }] ∧ tree.offered false = [{ type := 13 }, { type := 4 }] ∧
      EapPolicy.makeTypeList heap ⟨.continued 0, .continued 0⟩ false = [{ type := 13 }] := by
  let first : ContinuedPolicyElement := ⟨{ type := 13 }, .finalSuccess, .continued 1⟩
  let second : ContinuedPolicyElement := ⟨{ type := 4 }, .finalSuccess, .finalFailure⟩
  have here : element [first, second] (.continued 0) = some first := rfl
  have there : element [first, second] (.continued 1) = some second := rfl
  refine ⟨[first, second], .continued { type := 13 } .leaf (.continued { type := 4 } .leaf .leaf), ?_, rfl, by decide, by decide⟩
  exact Below.continued here (Below.leaf (Or.inl rfl))
    (Below.continued there (Below.leaf (Or.inl rfl)) (Below.leaf (Or.inr rfl)))

end Result

end EapPolicy

end OpenDiameter.Eap
