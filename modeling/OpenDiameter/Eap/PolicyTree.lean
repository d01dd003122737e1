import OpenDiameter.Eap.Policy

/-! The tree that an application means to build, and the walk of a policy along it. -/

set_option autoImplicit false

namespace OpenDiameter.Eap

open Foundation

namespace PolicyHeap

section Trees

/-- What a call is for: the branch of `AddFailurePolicyElement` is to fail. -/
def mean (tree : PolicyHeap) : PolicyCall → PolicyHeap
  | .addFailurePolicyElement id => tree.modify id ({ · with nextOnFailure := .finalFailure })
  | call => tree.call call

def meant (calls : List PolicyCall) : PolicyHeap := calls.foldl mean []

def Points (tree : PolicyHeap) : PolicyElement → Prop
  | .null => False
  | .finalSuccess | .finalFailure => True
  | .continued id => id < tree.length

instance (tree : PolicyHeap) : (p : PolicyElement) → Decidable (tree.Points p)
  | .null => .isFalse id
  | .finalSuccess | .finalFailure => .isTrue trivial
  | .continued id => inferInstanceAs (Decidable (id < tree.length))

structure Tree (tree : PolicyHeap) (root : PolicyElement) : Prop where
  root : (EapPolicy.element tree root).isSome = true
  onSuccess : ∀ e ∈ tree, tree.Points e.nextOnSuccess
  onFailure : ∀ e ∈ tree, tree.Points e.nextOnFailure

/-- Where an outcome leads from an element; a leaf is not left. -/
def follow (tree : PolicyHeap) (p : PolicyElement) (sw : PolicySwitch) : PolicyElement :=
  match EapPolicy.element tree p with
  | some e => e.nextPolicyElement sw
  | none => p

end Trees

section Walks

variable {tree heap : PolicyHeap} {root p : PolicyElement}

theorem follow_leaf (leaf : EapPolicy.element tree p = none) (sw : PolicySwitch) : tree.follow p sw = p := by
  rw [follow, leaf]

theorem Tree.points_follow (closed : Tree tree root) (points : tree.Points p) (sw : PolicySwitch) :
    tree.Points (tree.follow p sw) := by
  unfold follow
  split
  case h_1 e found =>
    have mem : e ∈ tree := by
      cases p with
      | continued id => exact List.mem_of_getElem? found
      | null | finalSuccess | finalFailure => cases found
    cases sw with
    | policyOnSuccess => exact closed.onSuccess e mem
    | policyOnFailure => exact closed.onFailure e mem
  case h_2 => exact points

theorem Tree.points_root (closed : Tree tree root) : tree.Points root := by
  have found := closed.root
  cases root with
  | continued id =>
    show id < tree.length
    by_contra beyond
    rw [EapPolicy.element, List.getElem?_eq_none (Nat.le_of_not_lt beyond)] at found
    cases found
  | null | finalSuccess | finalFailure => cases found

theorem Points.leaf (points : tree.Points p) (same : tree.length = heap.length)
    (leaf : EapPolicy.element heap p = none) : p = .finalSuccess ∨ p = .finalFailure := by
  cases p with
  | null => cases points
  | finalSuccess => exact Or.inl rfl
  | finalFailure => exact Or.inr rfl
  | continued id =>
    have beyond := List.getElem?_eq_none_iff.mp leaf
    have within : id < tree.length := points
    omega

theorem length_meant (calls : List PolicyCall) : (meant calls).length = (build calls).length := by
  have step (tree heap : PolicyHeap) (same : tree.length = heap.length) :
      (calls.foldl mean tree).length = (calls.foldl call heap).length := by
    induction calls generalizing tree heap with
    | nil => exact same
    | cons first calls ih =>
      apply ih
      cases first with
      | construct methodType =>
        show (tree ++ [_]).length = (heap ++ [_]).length
        rw [List.length_append, List.length_append, same]
      | addSuccessPolicyElement | addFailurePolicyElement | addContinuedPolicyElement =>
        show (List.modify _ _ _).length = (List.modify _ _ _).length
        rw [List.length_modify, List.length_modify, same]
  exact step [] [] rfl

end Walks

end PolicyHeap

namespace EapPolicy

variable (heap : PolicyHeap) (policy : EapPolicy) (sw : PolicySwitch)

theorem currentPolicyElement_update :
    (policy.update heap sw).currentPolicyElement = heap.follow policy.currentPolicyElement sw := by
  unfold update PolicyHeap.follow
  cases element heap policy.currentPolicyElement <;> rfl

theorem initialPolicyElement_update :
    (policy.update heap sw).initialPolicyElement = policy.initialPolicyElement := by
  unfold update
  cases element heap policy.currentPolicyElement <;> rfl

theorem update_leaf {heap : PolicyHeap} {policy : EapPolicy} (leaf : element heap policy.currentPolicyElement = none) :
    policy.update heap sw = policy := by
  unfold update
  rw [leaf]

theorem updateList_nak (msg : EapMessage) :
    policy.updateList heap (nakTypeList msg) = policy.update heap .policyOnFailure := by
  cases here : element heap policy.currentPolicyElement with
  | some e => exact policy.updateList_nil here
  | none =>
    have stays : ∀ count, policy.updateListFor heap (nakTypeList msg) count = policy := by
      intro count
      cases count with
      | zero => rfl
      | succ count => rw [updateListFor, here, Option.isNone_none, if_pos rfl]
    rw [updateList, stays, update_leaf _ here]

end EapPolicy

end OpenDiameter.Eap
