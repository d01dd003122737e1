import Mathlib.Order.Lattice
import OpenDiameter.RbTree.Fixup
import Mathlib.Data.Nat.Basic

/-! The tree implements a finite map.

Everything is said for data whose operators order them by a key. `Kept` is the
invariant, over the list of the stored data in the order of their keys.
-/

set_option autoImplicit false

namespace OpenDiameter.RbTree

open Foundation.RedBlack Foundation.RedBlack.Shape
open Foundation (Turn turns turns_of_variant)

variable {D K : Type} [LinearOrder K]

structure Operators.OrderedBy (compare : Operators D) (key : D → K) (among : D → Prop) : Prop where
  eq_iff : ∀ a b, among a → among b → (compare.eq a b = true ↔ key a = key b)
  lt_iff : ∀ a b, among a → among b → (compare.lt a b = true ↔ key a < key b)

def Kept (key : D → K) (elements : List D) (t : Tree D) : Prop :=
  ∃ nil shape, Image t ⟨nil, fun _ => none⟩ shape ∧ nil.color = .black ∧ shape.Valid ∧
    shape.elements = elements ∧ Ascending key elements

namespace Tree

theorem kept_new (key : D → K) : Kept key [] (Tree.new : Tree D) :=
  ⟨_, leaf, ⟨rfl, rfl, List.nodup_nil, trivial, fun _ _ => rfl⟩, rfl, ⟨rfl, 0, rfl⟩, rfl, List.Pairwise.nil⟩

section Search

variable {compare : Operators D} {key : D → K} {among : D → Prop} {t : Tree D} {frame : Frame D} {whole : Shape Nat D}
  {data : D}

def Ended (key : D → K) (whole : Shape Nat D) (data : D) (crumbs : List (Crumb Nat D)) (shape : Shape Nat D) : Prop :=
  Path key whole (key data) crumbs shape ∧
    (shape = leaf ∨ ∃ n color left own right, shape = Shape.node n color left own right ∧ key own = key data)

/-- Before a turn of the search, and of the one of `Insert`. -/
def Searching (key : D → K) (whole : Shape Nat D) (data : D) (k : Nat) (p : Ptr) : Prop :=
  ∃ crumbs shape, k = shape.size ∧ p = ptr shape ∧ Path key whole (key data) crumbs shape

def Descending (key : D → K) (whole : Shape Nat D) (data : D) (k : Nat) (p : Ptr × Ptr) : Prop :=
  ∃ crumbs shape, k = shape.size ∧ p = (up crumbs, ptr shape) ∧ Path key whole (key data) crumbs shape

variable (ordered : compare.OrderedBy key among) (image : Image t frame whole)
  (inside : ∀ d ∈ whole.elements, among d) (ascending : Ascending key whole.elements) (known : among data)
include ordered image inside ascending known

theorem search_step {crumbs : List (Crumb Nat D)} {n : Nat} {color : Color} {left right : Shape Nat D} {own : D}
    (path : Path key whole (key data) crumbs (Shape.node n color left own right)) :
    t.data (.block n) = some own ∧
      (compare.eq own data = true ∧ key own = key data ∨ compare.eq own data = false ∧
        ∃ side next other, t.child (if compare.lt data own then .left else .right) (.block n) = some (ptr next) ∧
          Path key whole (key data) (⟨side, n, color, own, other⟩ :: crumbs) next ∧
          next.size < (Shape.node n color left own right).size) := by
  have here : t.blocks n = some (.link .left (ptr left) (ptr right) (up crumbs) color own) := by
    rw [← path.whole] at image
    exact @block_of_image _ t frame crumbs .left n color left right own image
  have stored : own ∈ whole.elements := by
    rw [← path.whole, elements_plug, elements_node]
    simp
  have size : (Shape.node n color left own right).size = left.size + right.size + 1 := by
    simp only [Shape.size, cells, List.length_append, List.length_cons]
    omega
  refine ⟨data_block here, ?_⟩
  by_cases same : compare.eq own data = true
  · exact .inl ⟨same, (ordered.eq_iff own data (inside own stored) known).mp same⟩
  · have differ : key own ≠ key data := fun equal => same ((ordered.eq_iff own data (inside own stored) known).mpr equal)
    refine .inr ⟨Bool.eq_false_iff.mpr same, ?_⟩
    by_cases less : compare.lt data own = true
    · have lower := (ordered.lt_iff data own known (inside own stored)).mp less
      refine ⟨.left, left, right, ?_, path.down_left ascending lower, by omega⟩
      rw [if_pos less, child_block here]
    · have notLower : ¬key data < key own := fun lower => less ((ordered.lt_iff data own known (inside own stored)).mpr lower)
      have greater : key own < key data := lt_of_le_of_ne (not_lt.mp notLower) differ
      refine ⟨.right, right, left, ?_, path.down_right ascending greater, by omega⟩
      rw [if_neg less]
      exact @child_block_other _ t n .left _ _ _ _ _ here

theorem searchTurn_spec (k : Nat) (p : Ptr) (searching : Searching key whole data k p) :
    (∃ k' next, k' < k ∧ searchTurn compare t data p = some (.again next) ∧ Searching key whole data k' next) ∨
      ∃ last, searchTurn compare t data p = some (.done last) ∧
        ∃ crumbs shape, last = ptr shape ∧ Ended key whole data crumbs shape := by
  obtain ⟨crumbs, shape, rfl, rfl, path⟩ := searching
  cases shape with
  | leaf => exact .inr ⟨_, rfl, crumbs, leaf, rfl, path, .inl rfl⟩
  | node n color left own right =>
    obtain ⟨read, ⟨same, keys⟩ | ⟨differ, side, next, other, toNext, further, smaller⟩⟩ :=
      search_step ordered image inside ascending known path
    · refine .inr ⟨.block n, ?_, crumbs, _, rfl, path, .inr ⟨n, color, left, own, right, rfl, keys⟩⟩
      simp [searchTurn, ptr, read, same]
    · refine .inl ⟨next.size, ptr next, smaller, ?_, _, next, rfl, rfl, further⟩
      simp [searchTurn, ptr, read, differ, toNext]

theorem search_spec {fuel : Nat} (enough : whole.size < fuel) :
    ∃ crumbs shape, search compare fuel t data = some (ptr shape) ∧ Ended key whole data crumbs shape := by
  have start : Searching key whole data whole.size t.root := ⟨[], whole, rfl, image.root, Path.start⟩
  obtain ⟨p, searched, crumbs, shape, rfl, ended⟩ :=
    turns_of_variant (searchTurn_spec ordered image inside ascending known) start enough
  exact ⟨crumbs, shape, searched, ended⟩

theorem insertTurn_spec (k : Nat) (pair : Ptr × Ptr) (searching : Descending key whole data k pair) :
    (∃ k' next, k' < k ∧ insertTurn compare t data pair = some (.again next) ∧ Descending key whole data k' next) ∨
      ∃ last, insertTurn compare t data pair = some (.done last) ∧
        ∃ crumbs shape, last = (up crumbs, ptr shape) ∧ Ended key whole data crumbs shape := by
  obtain ⟨crumbs, shape, rfl, rfl, path⟩ := searching
  cases shape with
  | leaf => exact .inr ⟨_, rfl, crumbs, leaf, rfl, path, .inl rfl⟩
  | node n color left own right =>
    obtain ⟨read, ⟨same, keys⟩ | ⟨differ, side, next, other, toNext, further, smaller⟩⟩ :=
      search_step ordered image inside ascending known path
    · refine .inr ⟨(up crumbs, .block n), ?_, crumbs, _, rfl, path, .inr ⟨n, color, left, own, right, rfl, keys⟩⟩
      simp [insertTurn, ptr, read, same]
    · refine .inl ⟨next.size, (.block n, ptr next), smaller, ?_, _, next, rfl, rfl, further⟩
      simp [insertTurn, ptr, read, differ, toNext]

theorem insertSearch_spec {fuel : Nat} (enough : whole.size < fuel) :
    ∃ crumbs shape, turns (insertTurn compare t data) fuel (.null, t.root) = some (up crumbs, ptr shape) ∧
      Ended key whole data crumbs shape := by
  have start : Descending key whole data whole.size (.null, t.root) := by
    rw [image.root]
    exact ⟨[], whole, rfl, rfl, Path.start⟩
  obtain ⟨p, searched, crumbs, shape, rfl, ended⟩ :=
    turns_of_variant (insertTurn_spec ordered image inside ascending known) start enough
  exact ⟨crumbs, shape, searched, ended⟩

end Search

section Find

variable {compare : Operators D} {key : D → K} {among : D → Prop} {t : Tree D} {elements : List D} {data : D} {fuel : Nat}

theorem size_eq (shape : Shape Nat D) : shape.size = shape.elements.length := (List.length_map ..).symm

theorem find_spec (ordered : compare.OrderedBy key among) (kept : Kept key elements t)
    (inside : ∀ d ∈ elements, among d) (known : among data) (enough : elements.length < fuel) :
    ∃ found, find compare fuel t data = some found ∧
      ((∀ d ∈ elements, key d ≠ key data) ∧ found = none ∨ ∃ d ∈ elements, key d = key data ∧ found = some d) := by
  obtain ⟨nil, whole, image, black, valid, rfl, ascending⟩ := kept
  obtain ⟨crumbs, shape, searched, path, rfl | ⟨n, color, left, own, right, rfl, same⟩⟩ :=
    search_spec ordered image inside ascending known (by rwa [size_eq])
  · exact ⟨none, by simp [find, searched, ptr], .inl ⟨fun d stored => path.absent stored, rfl⟩⟩
  · have read := (search_step ordered image inside ascending known path).1
    refine ⟨some own, by simp [find, searched, ptr, read], .inr ⟨own, ?_, same, rfl⟩⟩
    rw [← path.whole, elements_plug, elements_node]
    simp

end Find

section Insert

variable {t : Tree D} {frame : Frame D} {crumbs : List (Crumb Nat D)} {data : D} {n : Nat}

theorem attach_image (image : Image t frame (plug crumbs leaf)) (free : t.blocks n = none) :
    ∃ t₁, t.allocate n ⟨.sentinel, .sentinel, up crumbs, .red, some data⟩ = some t₁ ∧
      (crumbs = [] → Image { t₁ with root := .block n } frame (plug crumbs (Shape.node n .red leaf data leaf))) ∧
      ∀ c above, crumbs = c :: above → t₁.data (.block c.name) = some c.data ∧
        ∃ t₂, t₁.setChild c.side (.block c.name) (.block n) = some t₂ ∧
          Image t₂ frame (plug crumbs (Shape.node n .red leaf data leaf)) := by
  have fresh : n ∉ crumbNames crumbs := fun named => image.linked.live (mem_names_plug.mpr (.inr named)) free
  have linked := linked_plug.mp image.linked
  have distinct := nodup_plug.mp image.distinct
  have names : (Shape.node n .red leaf data leaf).names = [n] := rfl
  have distinct' : (plug crumbs (Shape.node n .red leaf data leaf)).names.Nodup := by
    refine nodup_plug.mpr ⟨List.nodup_singleton n, distinct.2.1, ?_⟩
    rw [names]
    exact List.singleton_disjoint.mpr fresh
  let t₁ : Tree D := { t with blocks := Function.update t.blocks n (some ⟨.sentinel, .sentinel, up crumbs, .red, some data⟩) }
  have spare₁ : ∀ m, m ∉ (plug crumbs (Shape.node n .red leaf data leaf)).names → t₁.blocks m = frame.spare m := by
    intro m outside
    rw [mem_names_plug, names, List.mem_singleton, not_or] at outside
    refine (Function.update_of_ne outside.1 _ _).trans (image.spare m ?_)
    rw [mem_names_plug, not_or]
    exact ⟨List.not_mem_nil, outside.2⟩
  have own₁ : Linked t₁.blocks (up crumbs) (Shape.node n .red leaf data leaf) := ⟨Function.update_self .., trivial, trivial⟩
  refine ⟨t₁, by simp only [allocate, free, t₁], ?_, ?_⟩
  · rintro rfl
    exact ⟨rfl, image.nil, distinct', own₁, spare₁⟩
  · rintro c above rfl
    obtain ⟨atC, onOther, further⟩ := linked.2
    have notN : c.name ≠ n := fun same => fresh (by simp [crumbNames, same])
    have atC₁ : t₁.blocks c.name = some (.link c.side .sentinel (ptr c.other) (up above) c.color c.data) :=
      (Function.update_of_ne notN _ _).trans atC
    refine ⟨data_block atC₁, _, setChild_block atC₁ _, ?_⟩
    simp only [crumbNames, List.cons_append, List.nodup_cons, List.mem_append, not_or, List.mem_cons] at distinct fresh
    refine ⟨?_, image.nil, distinct', linked_plug.mpr ⟨own₁.update ?_ _, Function.update_self .., ?_, ?_⟩, ?_⟩
    · rw [ptr_plug]
      exact image.root.trans ptr_plug
    · rw [names, List.mem_singleton]
      exact notN
    · exact (onOther.update fresh.2.1 _).update distinct.2.1.1.1 _
    · exact (further.update fresh.2.2 _).update distinct.2.1.1.2 _
    · intro m outside
      refine (Function.update_of_ne ?_ _ _).trans (spare₁ m outside)
      rintro rfl
      exact outside (by simp [crumbNames])

theorem insert_spec {compare : Operators D} {key : D → K} {among : D → Prop} {elements : List D} {fuel : Nat}
    (ordered : compare.OrderedBy key among) (kept : Kept key elements t)
    (inside : ∀ d ∈ elements, among d) (known : among data) (free : t.blocks n = none) (enough : elements.length < fuel) :
    ∃ answer t', insert compare fuel t data n = some (some answer, t') ∧
      (answer ∈ elements ∧ key answer = key data ∧ t' = t ∨
        (∀ d ∈ elements, key d ≠ key data) ∧ answer = data ∧
          ∃ pre post, elements = pre ++ post ∧ Kept key (pre ++ data :: post) t') := by
  obtain ⟨nil, whole, image, black, valid, rfl, ascending⟩ := kept
  obtain ⟨crumbs, shape, searched, path, rfl | ⟨m, color, left, own, right, rfl, same⟩⟩ :=
    insertSearch_spec ordered image inside ascending known (by rwa [size_eq])
  · obtain rfl := path.whole
    obtain ⟨t₁, allocated, atRoot, under⟩ := @attach_image D t _ crumbs data n image free
    have long : crumbs.length < fuel := by
      have bound := @length_le_size Nat D leaf crumbs
      have size := size_eq (plug crumbs (leaf : Shape Nat D))
      omega
    -- The new node is linked, at the root or under its parent.
    have linked : ∃ t₂, attach compare t₁ data (up crumbs) (.block n) = some t₂ ∧
        Image t₂ ⟨nil, fun _ => none⟩ (plug crumbs (Shape.node n .red leaf data leaf)) := by
      cases crumbs with
      | nil => exact ⟨_, rfl, atRoot rfl⟩
      | cons c above =>
        obtain ⟨read, t₂, set, image₂⟩ := under c above rfl
        refine ⟨t₂, ?_, image₂⟩
        have stored : c.data ∈ (plug (c :: above) leaf : Shape Nat D).elements := by
          rw [plug, elements_plug]
          cases c.side <;> simp [elements, join, cells]
        have lower := ordered.lt_iff data c.data known (inside _ stored)
        have sided : (if compare.lt data c.data = true then Side.left else Side.right) = c.side := by
          rcases c with ⟨side, m, color, own, other⟩
          have turns := path.turns
          cases side with
          | left => exact if_pos (lower.mpr (turns.1 rfl))
          | right => exact if_neg fun less => lt_asymm (turns.2 rfl) (lower.mp less)
        simp only [attach, up, ne_eq, reduceCtorEq, not_false_eq_true, if_true, read, Option.bind_eq_bind, Option.bind_some,
          sided, set]
    obtain ⟨t₂, hung, image₂⟩ := linked
    obtain ⟨t₃, fixed, shape, image₃, valid₃, cells₃⟩ := fixupInsert_spec image₂ black valid long
    have own : (n, data) ∈ shape.cells := by
      rw [cells₃, cells_plug]
      simp [cells]
    obtain ⟨node, here, read⟩ := image₃.linked.stores own
    have elements₃ : shape.elements = (before crumbs).map Prod.snd ++ data :: (after crumbs).map Prod.snd := by
      rw [elements, cells₃, cells_plug]
      simp [cells]
    have elements₀ : (plug crumbs leaf : Shape Nat D).elements = (before crumbs).map Prod.snd ++ (after crumbs).map Prod.snd := by
      rw [elements_plug]
      simp [elements, cells]
    refine ⟨data, t₃, ?_, .inr ⟨fun d stored => path.absent stored, rfl, _, _, elements₀, nil, shape, image₃, black, valid₃,
      elements₃, ?_⟩⟩
    · have last : t₃.data (.block n) = some data := by simp [Tree.data, here, read]
      simp only [insert, Option.bind_eq_bind, searched, Option.bind_some, ptr, ne_eq, not_true_eq_false, if_false, allocated,
        hung, fixed, last]
    · rw [elements₀] at ascending
      refine ascending_insert ascending ?_ ?_
      · intro d stored
        obtain ⟨c, placed, rfl⟩ := List.mem_map.mp stored
        exact path.before c placed
      · intro d stored
        obtain ⟨c, placed, rfl⟩ := List.mem_map.mp stored
        exact path.after c placed
  · have read := (search_step ordered image inside ascending known path).1
    refine ⟨own, t, by simp [insert, searched, ptr, read], .inl ⟨?_, same, rfl⟩⟩
    rw [← path.whole, elements_plug, elements_node]
    simp

end Insert

section Remove

variable {t : Tree D} {frame : Frame D} {crumbs : List (Crumb Nat D)} {y : Nat} {color : Color} {dy : D}
  {left right only : Shape Nat D}

/-- `only` is the one subtree of a node that has at most one. -/
def Only (left right only : Shape Nat D) : Prop := left = leaf ∧ only = right ∨ right = leaf ∧ only = left

theorem setParent_spec {shape : Shape Nat D} {q p : Ptr} (linked : Linked t.blocks q shape) (distinct : shape.names.Nodup) :
    ∃ t', t.setParent (ptr shape) p = some t' ∧ Linked t'.blocks p shape ∧
      (∀ n, n ∉ shape.names → t'.blocks n = t.blocks n) ∧ t'.root = t.root ∧ t'.nil.color = t.nil.color ∧
        (shape = leaf → t'.nil.parent = p) := by
  by_cases empty : shape = leaf
  · subst empty
    exact ⟨{ t with nil := { t.nil with parent := p } }, rfl, trivial, fun _ _ => rfl, rfl, rfl, fun _ => rfl⟩
  · obtain ⟨t', adopted, linked', within, root⟩ := adopt_spec linked distinct (p := p)
    have notSentinel : ptr shape ≠ .sentinel := fun same => empty (ptr_eq_sentinel.mp same)
    refine ⟨t', ?_, linked', within.same, root, by rw [within.nil], fun same => absurd same empty⟩
    rw [← adopted, adopt, if_pos notSentinel]

theorem splice_image (image : Image t frame (plug crumbs (Shape.node y color left dy right))) (half : Only left right only) :
    ∃ t₁ t₂, t.setParent (ptr only) (up crumbs) = some t₁ ∧
      t₁.replaceChild .left (up crumbs) (.block y) (ptr only) = some t₂ ∧
        Image t₂ ⟨t₂.nil, Function.update frame.spare y (some (.link .left (ptr left) (ptr right) (up crumbs) color dy))⟩
          (plug crumbs only) ∧ t₂.nil.color = frame.nil.color ∧ (only = leaf → t₂.nil.parent = up crumbs) ∧
            y ∉ (plug crumbs only).names := by
  obtain ⟨⟨own, onLeft, onRight⟩, around⟩ := linked_plug.mp image.linked
  obtain ⟨distinct, crumbsDistinct, apart⟩ := nodup_plug.mp image.distinct
  have inside (m : Nat) : m ∈ (Shape.node y color left dy right).names ↔ m = y ∨ m ∈ only.names := by
    refine (@mem_names_join _ _ .left y color left right dy m).trans ?_
    rcases half with ⟨rfl, rfl⟩ | ⟨rfl, rfl⟩ <;> simp [names, cells]
  have parts := (@nodup_join _ _ .left y color left right dy).mp distinct
  have onOnly : Linked t.blocks (.block y) only ∧ only.names.Nodup ∧ y ∉ only.names := by
    rcases half with ⟨-, rfl⟩ | ⟨-, rfl⟩
    · exact ⟨onRight, parts.2.2.2.1, parts.2.1⟩
    · exact ⟨onLeft, parts.2.2.1, parts.1⟩
  obtain ⟨onOnly, onlyDistinct, yOnly⟩ := onOnly
  have yCrumbs : y ∉ crumbNames crumbs := apart ((inside y).mpr (.inl rfl))
  have onlyCrumbs : only.names.Disjoint (crumbNames crumbs) := fun m here => apart ((inside m).mpr (.inr here))
  obtain ⟨t₁, linkedUp, onOnly₁, same₁, root₁, nilColor, hanging⟩ := setParent_spec onOnly onlyDistinct (p := up crumbs)
  have around₁ : Around t₁.blocks crumbs (.block y) :=
    around.congr fun m here => same₁ m fun there => onlyCrumbs there here
  obtain ⟨t₂, replaced, around₂, within₂, root₂⟩ := replaceChild_spec .left around₁ crumbsDistinct yCrumbs (p := ptr only)
  refine ⟨t₁, t₂, linkedUp, replaced, ⟨?_, rfl, nodup_plug.mpr ⟨onlyDistinct, crumbsDistinct, onlyCrumbs⟩,
    linked_plug.mpr ⟨onOnly₁.congr fun m here => within₂.same m (onlyCrumbs here), around₂⟩, ?_⟩, ?_, ?_, ?_⟩
  · rw [ptr_plug]
    exact root₂ (root₁.trans (image.root.trans ptr_plug))
  · intro m outside
    rw [mem_names_plug, not_or] at outside
    rw [within₂.same m outside.2, same₁ m outside.1]
    by_cases here : m = y
    · subst here
      simp only [Function.update_self]
      exact own
    · refine (image.spare m ?_).trans (Function.update_of_ne here _ _).symm
      rw [mem_names_plug, inside, not_or, not_or]
      exact ⟨⟨here, outside.1⟩, outside.2⟩
  · rw [within₂.nil, nilColor, image.nil]
  · rw [within₂.nil]
    exact hanging
  · rw [mem_names_plug, not_or]
    exact ⟨yOnly, yCrumbs⟩

theorem delete_image {shape : Shape Nat D} {node : Node D} (image : Image t frame shape) (outside : y ∉ shape.names)
    (live : t.blocks y = some node) :
    ∃ t', t.delete (.block y) = some t' ∧ Image t' ⟨frame.nil, Function.update frame.spare y none⟩ shape := by
  refine ⟨{ t with blocks := Function.update t.blocks y none }, by simp only [delete, live], image.root, image.nil, image.distinct,
    image.linked.update outside _, fun m away => ?_⟩
  by_cases here : m = y
  · subst here
    simp
  · simp only [Function.update_of_ne here]
    exact image.spare m away

/-- Before a turn of the loop for the tree successor, which goes left only. -/
def Leftward (whole : Shape Nat D) (k : Nat) (p : Ptr) : Prop :=
  ∃ inner shape, k = shape.size ∧ p = ptr shape ∧ shape ≠ leaf ∧ plug inner shape = whole ∧ before inner = []

theorem leftmostTurn_spec (image : Image t frame (plug crumbs right)) (k : Nat) (p : Ptr) (leftward : Leftward right k p) :
    (∃ k' next, k' < k ∧ t.leftmostTurn p = some (.again next) ∧ Leftward right k' next) ∨
      ∃ last, t.leftmostTurn p = some (.done last) ∧ ∃ inner y color dy only, last = .block y ∧ before inner = [] ∧
        right = plug inner (Shape.node y color leaf dy only) := by
  obtain ⟨inner, shape, rfl, rfl, nonempty, rfl, onlyLeft⟩ := leftward
  cases shape with
  | leaf => exact absurd rfl nonempty
  | node n color near data far =>
    rw [← plug_append] at image
    have here := @block_of_image _ t frame (inner ++ crumbs) .left n color near far data image
    by_cases empty : near = leaf
    · subst empty
      refine .inr ⟨.block n, ?_, inner, n, color, data, far, rfl, onlyLeft, rfl⟩
      simp [leftmostTurn, ptr, child_block here]
    · have notSentinel : ptr near ≠ .sentinel := fun same => empty (ptr_eq_sentinel.mp same)
      refine .inl ⟨near.size, ptr near, ?_, ?_, ⟨.left, n, color, data, far⟩ :: inner, near, rfl, rfl, empty, rfl, onlyLeft⟩
      · simp only [Shape.size, cells, List.length_append, List.length_cons]
        omega
      · rw [← join, ptr_join]
        simp [leftmostTurn, child_block here, notSentinel]

theorem splice_choice {fuel z : Nat} {dz : D} (image : Image t frame (plug crumbs (Shape.node z color left dz right)))
    (enough : right.size < fuel) :
    (∃ only, Only left right only ∧ (ptr left = .sentinel ∨ ptr right = .sentinel)) ∨
      ¬(ptr left = .sentinel ∨ ptr right = .sentinel) ∧ ∃ inner y cy dy only,
        turns t.leftmostTurn fuel (ptr right) = some (.block y) ∧ before inner = [] ∧
          right = plug inner (Shape.node y cy leaf dy only) := by
  by_cases halfLeft : left = leaf
  · exact .inl ⟨right, .inl ⟨halfLeft, rfl⟩, .inl (ptr_eq_sentinel.mpr halfLeft)⟩
  by_cases halfRight : right = leaf
  · exact .inl ⟨left, .inr ⟨halfRight, rfl⟩, .inr (ptr_eq_sentinel.mpr halfRight)⟩
  -- With two children it is the leftmost node of the right subtree.
  refine .inr ⟨by simp only [ptr_eq_sentinel, halfLeft, halfRight, or_self, not_false_eq_true], ?_⟩
  have imageRight : Image t frame (plug (⟨.right, z, color, dz, left⟩ :: crumbs) right) := image
  obtain ⟨last, found, inner, y, cy, dy, only, rfl, onlyLeft, whole⟩ :=
    turns_of_variant (leftmostTurn_spec imageRight) ⟨[], right, rfl, rfl, halfRight, rfl, rfl⟩ enough
  exact ⟨inner, y, cy, dy, only, found, onlyLeft, whole⟩

theorem only_balanced {n : Nat} (half : Only left right only) (balanced : (Shape.node y color left dy right).Balanced n) :
    color = .black ∧ (∃ m, n = m + 1 ∧ only.Balanced m) ∨ color = .red ∧ only.color = .black ∧ only.Balanced n := by
  cases color with
  | black =>
    cases n with
    | zero => cases balanced
    | succ m =>
      rcases half with ⟨-, rfl⟩ | ⟨-, rfl⟩
      · exact .inl ⟨rfl, m, rfl, balanced.2⟩
      · exact .inl ⟨rfl, m, rfl, balanced.1⟩
  | red =>
    rcases half with ⟨-, rfl⟩ | ⟨-, rfl⟩
    · exact .inr ⟨rfl, balanced.2.1, balanced.2.2.2⟩
    · exact .inr ⟨rfl, balanced.1, balanced.2.2.1⟩

theorem release_spec {nil : Node D} {node : Node D} {n fuel : Nat}
    (image : Image t ⟨nil, Function.update (fun _ => none) y (some node)⟩ (plug crumbs only)) (black : nil.color = .black)
    (hanging : only = leaf → nil.parent = up crumbs) (outside : y ∉ (plug crumbs only).names) (half : Only left right only)
    (hole : Hole crumbs n) (balanced : (Shape.node y node.color left dy right).Balanced n)
    (fits : node.color = .red → edge crumbs = .black) (enough : crumbs.length + 1 < fuel) :
    ∃ t' shape, release fuel t (ptr only) (.block y) = some t' ∧ Image t' ⟨nil, fun _ => none⟩ shape ∧ shape.Valid ∧
      shape.cells = (plug crumbs only).cells := by
  have here : t.blocks y = some node := by
    rw [image.spare y outside]
    simp
  have readColor : t.color (.block y) = some node.color := by simp [Tree.color, here]
  have fixed : ∃ t₁ shape, (if node.color = .black then fixupRemove fuel t (ptr only) else some t) = some t₁ ∧
      Image t₁ ⟨nil, Function.update (fun _ => none) y (some node)⟩ shape ∧ shape.Valid ∧
        shape.cells = (plug crumbs only).cells := by
    rcases only_balanced half balanced with ⟨nodeBlack, m, rfl, onlyBalanced⟩ | ⟨nodeRed, onlyBlack, onlyBalanced⟩
    · obtain ⟨t₁, ran, shape, image₁, valid, same⟩ := fixupRemove_spec image hanging black hole onlyBalanced enough
      refine ⟨t₁, shape, ?_, image₁, valid, same⟩
      rw [if_pos nodeBlack]
      exact ran
    · refine ⟨t, plug crumbs only, ?_, image, hole.fits onlyBalanced fun _ => fits nodeRed, rfl⟩
      simp [nodeRed]
  obtain ⟨t₁, shape, ran, image₁, valid, same⟩ := fixed
  have names : shape.names = (plug crumbs only).names := congrArg (List.map Prod.fst) same
  rw [← names] at outside
  have live : t₁.blocks y = some node := by
    rw [image₁.spare y outside]
    simp
  obtain ⟨t₂, deleted, image₂⟩ := delete_image image₁ outside live
  have freed : Function.update (Function.update (fun _ => none) y (some node)) y none = fun _ => none := by
    funext m
    by_cases same : m = y <;> simp [same]
  rw [freed] at image₂
  refine ⟨t₂, shape, ?_, image₂, valid, same⟩
  simp only [release, Option.bind_eq_bind, readColor, Option.bind_some, ran, deleted]

theorem onlyChild_spec (image : Image t frame (plug crumbs (Shape.node y color left dy right))) (half : Only left right only) :
    t.onlyChild (.block y) = some (ptr only) := by
  have here := @block_of_image _ t frame crumbs .left y color left right dy image
  have toLeft := child_block here
  have toRight : t.child .right (.block y) = some (ptr right) := @child_block_other _ t y .left _ _ _ _ _ here
  rcases half with ⟨rfl, rfl⟩ | ⟨rfl, rfl⟩
  · simp [onlyChild, toLeft, toRight, ptr]
  · by_cases empty : only = leaf
    · subst empty
      simp [onlyChild, toLeft, toRight, ptr]
    · have notSentinel : ptr only ≠ .sentinel := fun same => empty (ptr_eq_sentinel.mp same)
      simp [onlyChild, toLeft, notSentinel]

section TakeOut

variable {nil : Node D} {fuel : Nat} (black : nil.color = .black)
include black

theorem takeOut_self (image : Image t ⟨nil, fun _ => none⟩ (plug crumbs (Shape.node y color left dy right)))
    (half : Only left right only) (valid : (plug crumbs (Shape.node y color left dy right)).Valid)
    (enough : (plug crumbs (Shape.node y color left dy right)).size < fuel) :
    ∃ t' nil' shape, takeOut fuel t (.block y) (.block y) = some (dy, t') ∧ Image t' ⟨nil', fun _ => none⟩ shape ∧
      nil'.color = .black ∧ shape.Valid ∧ shape.cells = (plug crumbs only).cells := by
  have above := parent_of_image image fun empty => Shape.noConfusion rfl rfl (heq_of_eq empty)
  obtain ⟨t₁, t₂, linkedUp, replaced, image₂, nilColor, hanging, outside⟩ := splice_image image half
  obtain ⟨n, hole, balanced, fits⟩ := valid_plug.mp valid
  have here : t₂.blocks y = some (.link .left (ptr left) (ptr right) (up crumbs) color dy) := by
    rw [image₂.spare y outside]
    simp
  have short : crumbs.length + 1 < fuel := by
    have bound := @length_le_size Nat D (Shape.node y color left dy right) crumbs
    have own := @size_join Nat D .left y color left right dy
    simp only [join] at own
    omega
  obtain ⟨t₃, shape, released, image₃, valid₃, same⟩ :=
    release_spec image₂ (nilColor.trans black) hanging outside half hole balanced fits short
  refine ⟨t₃, t₂.nil, shape, ?_, image₃, nilColor.trans black, valid₃, same⟩
  have above' : t.parent (.block y) = some (up crumbs) := above
  simp only [takeOut, Option.bind_eq_bind, onlyChild_spec image half, Option.bind_some, above', linkedUp, replaced, ne_eq,
    not_true_eq_false, if_false, data_block here, released]

theorem takeOut_successor {inner : List (Crumb Nat D)} {z : Nat} {cz : Color} {dz : D}
    (image : Image t ⟨nil, fun _ => none⟩ (plug crumbs (Shape.node z cz left dz (plug inner (Shape.node y color leaf dy only)))))
    (valid : (plug crumbs (Shape.node z cz left dz (plug inner (Shape.node y color leaf dy only)))).Valid)
    (enough : (plug crumbs (Shape.node z cz left dz (plug inner (Shape.node y color leaf dy only)))).size < fuel) :
    ∃ t' nil' shape, takeOut fuel t (.block z) (.block y) = some (dz, t') ∧ Image t' ⟨nil', fun _ => none⟩ shape ∧
      nil'.color = .black ∧ shape.Valid ∧ shape.cells = (plug crumbs (Shape.node z cz left dy (plug inner only))).cells := by
  let way (data : D) : List (Crumb Nat D) := inner ++ ⟨.right, z, cz, data, left⟩ :: crumbs
  have plugged (data : D) (shape : Shape Nat D) :
      plug (way data) shape = plug crumbs (Shape.node z cz left data (plug inner shape)) := plug_append ..
  have distinct := (nodup_join.mp (nodup_plug.mp (show (plug crumbs (join .left z cz left dz _)).names.Nodup from image.distinct)).1)
  have differ : Ptr.block y ≠ .block z := by
    intro same
    cases same
    exact distinct.2.1 (mem_names_plug.mpr (.inl (by simp [names, cells])))
  rw [← plugged] at image valid enough
  have half : Only leaf only only := .inl ⟨rfl, rfl⟩
  have above := parent_of_image image fun empty => Shape.noConfusion rfl rfl (heq_of_eq empty)
  obtain ⟨t₁, t₂, linkedUp, replaced, image₂, nilColor, hanging, outside⟩ := splice_image image half
  obtain ⟨n, hole, balanced, fits⟩ := valid_plug.mp valid
  have atY : t₂.blocks y = some (.link .left .sentinel (ptr only) (up (way dz)) color dy) := by
    rw [image₂.spare y outside]
    simp [ptr]
  rw [plugged] at image₂
  have atZ := @block_of_image D t₂ _ crumbs .left z cz left (plug inner only) dz image₂
  obtain ⟨t₃, moved, image₃⟩ := @setData_image D t₂ _ crumbs .left z cz left (plug inner only) dz image₂ dy
  rw [join, ← plugged] at image₃
  have sameUp : up (way dz) = up (way dy) := by cases inner <;> rfl
  have sameEdge : edge (way dz) = edge (way dy) := by cases inner <;> rfl
  have outside' : y ∉ (plug (way dy) only).names := by
    rw [plugged] at outside ⊢
    exact fun named => outside ((@mem_names_recolor D crumbs .left z cz left (plug inner only) dz cz dy y).mp named)
  have short : (way dy).length + 1 < fuel := by
    have bound := @length_le_size Nat D (Shape.node y color leaf dy only) (way dz)
    have own := @size_join Nat D .left y color leaf only dy
    have sameLength : (way dz).length = (way dy).length := by simp [way]
    simp only [join] at own
    omega
  obtain ⟨t₄, shape, released, image₄, valid₄, same⟩ :=
    release_spec image₃ (nilColor.trans black) (sameUp ▸ hanging) outside' half hole.set_data balanced
      (sameEdge ▸ fits) short
  rw [plugged] at same
  refine ⟨t₄, t₂.nil, shape, ?_, image₄, nilColor.trans black, valid₄, same⟩
  have above' : t.parent (.block y) = some (up (way dz)) := above
  simp only [takeOut, Option.bind_eq_bind, onlyChild_spec image half, Option.bind_some, above', linkedUp, replaced, ne_eq,
    differ, not_false_eq_true, if_true, data_block atY, data_block atZ, moved, released]

end TakeOut

section Whole

variable {compare : Operators D} {key : D → K} {among : D → Prop} {elements : List D} {fuel : Nat}

theorem ascending_drop {pre post : List D} {d : D} (ascending : Ascending key (pre ++ d :: post)) :
    Ascending key (pre ++ post) :=
  List.Pairwise.sublist ((List.Sublist.refl pre).append (List.sublist_cons_self d post)) ascending

theorem remove_spec {data : D} (ordered : compare.OrderedBy key among) (kept : Kept key elements t)
    (inside : ∀ d ∈ elements, among d) (known : among data) (enough : elements.length < fuel) :
    ∃ found t', remove compare fuel t data = some (found, t') ∧
      ((∀ d ∈ elements, key d ≠ key data) ∧ found = none ∧ t' = t ∨
        ∃ d pre post, found = some d ∧ key d = key data ∧ elements = pre ++ d :: post ∧ Kept key (pre ++ post) t') := by
  obtain ⟨nil, whole, image, black, valid, rfl, ascending⟩ := kept
  rw [← size_eq] at enough
  obtain ⟨crumbs, shape, searched, path, rfl | ⟨z, cz, left, dz, right, rfl, same⟩⟩ :=
    search_spec ordered image inside ascending known enough
  · exact ⟨none, t, by simp [remove, searched, ptr], .inl ⟨fun d stored => path.absent stored, rfl, rfl⟩⟩
  · obtain rfl := path.whole
    have atZ : search compare fuel t data = some (.block z) := searched
    have here := @block_of_image _ t _ crumbs .left z cz left right dz image
    have toLeft := child_block here
    have toRight : t.child .right (.block z) = some (ptr right) := @child_block_other _ t z .left _ _ _ _ _ here
    have elements₀ : (plug crumbs (Shape.node z cz left dz right)).elements =
        ((before crumbs).map Prod.snd ++ left.elements) ++ dz :: (right.elements ++ (after crumbs).map Prod.snd) := by
      rw [elements_plug, elements_node]
      simp
    have smaller : right.size < fuel := by
      have bound := @length_le_size Nat D (Shape.node z cz left dz right) crumbs
      have own := @size_join Nat D .left z cz left right dz
      simp only [join] at own
      omega
    -- What is left of the data, when the other nodes are as `cells` says.
    have keeps (t' : Tree D) (nil' : Node D) (shape : Shape Nat D) (image' : Image t' ⟨nil', fun _ => none⟩ shape)
        (black' : nil'.color = .black) (valid' : shape.Valid)
        (left' : shape.elements = ((before crumbs).map Prod.snd ++ left.elements) ++ (right.elements ++ (after crumbs).map Prod.snd)) :
        Kept key (((before crumbs).map Prod.snd ++ left.elements) ++ (right.elements ++ (after crumbs).map Prod.snd)) t' := by
      rw [elements₀] at ascending
      exact ⟨nil', shape, image', black', valid', left', ascending_drop ascending⟩
    rcases splice_choice image smaller with ⟨only, half, chosen⟩ | ⟨chosen, inner, y, cy, dy, only, found, onlyLeft, rfl⟩
    · obtain ⟨t', nil', shape, taken, image', black', valid', cells'⟩ := takeOut_self black image half valid enough
      refine ⟨some dz, t', ?_, .inr ⟨dz, _, _, rfl, same, elements₀, keeps t' nil' shape image' black' valid' ?_⟩⟩
      · simp [remove, atZ, toLeft, toRight, chosen, taken]
      · rw [elements, cells', cells_plug]
        rcases half with ⟨rfl, rfl⟩ | ⟨rfl, rfl⟩ <;> simp [elements, cells]
    · obtain ⟨t', nil', shape, taken, image', black', valid', cells'⟩ := takeOut_successor black image valid enough
      refine ⟨some dz, t', ?_, .inr ⟨dz, _, _, rfl, same, elements₀, keeps t' nil' shape image' black' valid' ?_⟩⟩
      · simp [remove, atZ, toLeft, toRight, chosen, found, taken]
      · rw [elements, cells', cells_plug]
        simp [elements, cells, cells_plug, onlyLeft]

def Clearing (key : D → K) (elements : List D) (k : Nat) (state : List D × Tree D) : Prop :=
  ∃ rest, k = rest.length ∧ Kept key rest state.2 ∧ (state.1 ++ rest).Perm elements

theorem clearTurn_spec (ordered : compare.OrderedBy key among) (inside : ∀ d ∈ elements, among d)
    (enough : elements.length < fuel) (k : Nat) (state : List D × Tree D) (clearing : Clearing key elements k state) :
    (∃ k' next, k' < k ∧ clearTurn compare fuel state = some (.again next) ∧ Clearing key elements k' next) ∨
      ∃ last, clearTurn compare fuel state = some (.done last) ∧ last.1.Perm elements ∧ Kept key [] last.2 := by
  obtain ⟨cleared, t⟩ := state
  obtain ⟨rest, rfl, kept, same⟩ := clearing
  have bounded : rest.length ≤ elements.length := by
    rw [← same.length_eq, List.length_append]
    exact Nat.le_add_left _ _
  have among' : ∀ d ∈ rest, among d := fun d stored => inside d (same.mem_iff.mp (List.mem_append_right _ stored))
  obtain ⟨nil, shape, image, black, valid, rfl, ascending⟩ := kept
  dsimp only at image same
  cases shape with
  | leaf =>
    have empty : t.root = .sentinel := image.root
    refine .inr ⟨(cleared, t), ?_, ?_, nil, leaf, image, black, valid, rfl, ascending⟩
    · simp [clearTurn, empty]
    · rwa [show (leaf : Shape Nat D).elements = [] from rfl, List.append_nil] at same
  | node n color left data right =>
    have here := @block_of_image _ t _ [] .left n color left right data image
    have stored : data ∈ (Shape.node n color left data right).elements := by
      rw [elements_node]
      simp
    have room : (Shape.node n color left data right).elements.length < fuel := Nat.lt_of_le_of_lt bounded enough
    obtain ⟨found, t', removed, ⟨absent, -⟩ | ⟨d, pre, post, rfl, -, parts, kept'⟩⟩ :=
      remove_spec ordered ⟨nil, _, image, black, valid, rfl, ascending⟩ among' (among' _ stored) room
    · exact absurd rfl (absent data stored)
    · refine .inl ⟨(pre ++ post).length, (cleared ++ [d], t'), ?_, ?_, pre ++ post, rfl, kept', ?_⟩
      · rw [parts]
        simp
      · have read : t.data t.root = some data := by
          rw [image.root]
          exact data_block here
        have nonempty : t.root ≠ .sentinel := by
          rw [image.root]
          exact Ptr.noConfusion
        simp [clearTurn, nonempty, read, removed]
      · refine List.Perm.trans ?_ same
        rw [parts, List.append_assoc, List.singleton_append]
        exact List.perm_middle.symm.append_left cleared

theorem clear_spec (ordered : compare.OrderedBy key among) (kept : Kept key elements t) (inside : ∀ d ∈ elements, among d)
    (enough : elements.length < fuel) :
    ∃ cleared t', clear compare fuel t = some (cleared, t') ∧ cleared.Perm elements ∧ Kept key [] t' := by
  have start : Clearing key elements elements.length ([], t) := ⟨elements, rfl, kept, List.Perm.refl _⟩
  obtain ⟨⟨cleared, t'⟩, ran, same, kept'⟩ := turns_of_variant (clearTurn_spec ordered inside enough) start enough
  exact ⟨cleared, t', ran, same, kept'⟩

end Whole

end Remove

end Tree

section Runs

inductive Call (D : Type) where
  | insert (data : D) (address : Nat)
  | remove (data : D)
  | find (data : D)
  | clear
  deriving DecidableEq, Repr

inductive Answer (D : Type) where
  | data (found : Option D)
  | cleared (data : List D)
  deriving DecidableEq, Repr

def Call.Among (among : D → Prop) : Call D → Prop
  | .insert data _ => among data
  | .remove data => among data
  | .find data => among data
  | .clear => True

namespace Tree

variable (compare : Operators D) (fuel : Nat)

def call (t : Tree D) : Call D → Option (Answer D × Tree D)
  | .insert data n => (insert compare fuel t data n).map fun (found, t) => (.data found, t)
  | .remove data => (remove compare fuel t data).map fun (found, t) => (.data found, t)
  | .find data => (find compare fuel t data).map fun found => (.data found, t)
  | .clear => (clear compare fuel t).map fun (cleared, t) => (.cleared cleared, t)

def run (t : Tree D) : List (Call D) → Option (List (Answer D × Tree D))
  | [] => some []
  | c :: calls => do
    let (answer, t) ← call compare fuel t c
    some ((answer, t) :: (← run t calls))

/-- `new` returns memory that is not in use. -/
def allocates (t : Tree D) : Call D → Bool
  | .insert _ n => (t.blocks n).isNone
  | _ => true

def allocatesAll (t : Tree D) : List (Call D) → Bool
  | [] => true
  | c :: calls =>
    t.allocates c &&
      match call compare fuel t c with
      | some (_, t) => allocatesAll t calls
      | none => true

end Tree

def Represents (key : D → K) (t : Tree D) (content : K → Option D) : Prop :=
  ∃ elements, Kept key elements t ∧ ∀ k d, content k = some d ↔ d ∈ elements ∧ key d = k

inductive MapStep (key : D → K) : (K → Option D) → Call D → Answer D → (K → Option D) → Prop where
  | insert_new {content : K → Option D} {data : D} {n : Nat} : content (key data) = none →
      MapStep key content (.insert data n) (.data (some data)) (Function.update content (key data) (some data))
  | insert_present {content : K → Option D} {data stored : D} {n : Nat} : content (key data) = some stored →
      MapStep key content (.insert data n) (.data (some stored)) content
  | remove {content : K → Option D} {data : D} :
      MapStep key content (.remove data) (.data (content (key data))) (Function.update content (key data) none)
  | find {content : K → Option D} {data : D} :
      MapStep key content (.find data) (.data (content (key data))) content
  | clear {content : K → Option D} {cleared : List D} : cleared.Nodup →
      (∀ d, d ∈ cleared ↔ ∃ k, content k = some d) → MapStep key content .clear (.cleared cleared) fun _ => none

inductive Follows (key : D → K) : (K → Option D) → List (Call D) → List (Answer D × Tree D) → Prop where
  | done {content : K → Option D} : Follows key content [] []
  | step {content content' : K → Option D} {c : Call D} {calls : List (Call D)} {answer : Answer D} {t : Tree D}
      {trace : List (Answer D × Tree D)} : MapStep key content c answer content' → Represents key t content' →
      Follows key content' calls trace → Follows key content (c :: calls) ((answer, t) :: trace)

section Contents

variable {key : D → K} {elements pre post : List D} {content : K → Option D} {data : D}

omit [LinearOrder K] in
theorem content_none (stands : ∀ k d, content k = some d ↔ d ∈ elements ∧ key d = k) {k : K}
    (absent : ∀ d ∈ elements, key d ≠ k) : content k = none := by
  cases found : content k with
  | none => rfl
  | some d =>
    obtain ⟨stored, same⟩ := (stands k d).mp found
    exact absurd same (absent d stored)

theorem content_insert (stands : ∀ k d, content k = some d ↔ d ∈ pre ++ post ∧ key d = k)
    (absent : ∀ d ∈ pre ++ post, key d ≠ key data) (k : K) (d : D) :
    Function.update content (key data) (some data) k = some d ↔ d ∈ pre ++ data :: post ∧ key d = k := by
  have split : d ∈ pre ++ data :: post ↔ d = data ∨ d ∈ pre ++ post := by
    simp only [List.mem_append, List.mem_cons]
    tauto
  rw [split]
  by_cases same : k = key data
  · subst same
    rw [Function.update_self, Option.some_inj]
    constructor
    · rintro rfl
      exact ⟨.inl rfl, rfl⟩
    · rintro ⟨rfl | stored, equal⟩
      · rfl
      · exact absurd equal (absent d stored)
  · rw [Function.update_of_ne same, stands]
    constructor
    · exact fun ⟨stored, equal⟩ => ⟨.inr stored, equal⟩
    · rintro ⟨rfl | stored, equal⟩
      · exact absurd equal.symm same
      · exact ⟨stored, equal⟩

theorem content_remove (stands : ∀ k d, content k = some d ↔ d ∈ pre ++ data :: post ∧ key d = k)
    (ascending : Ascending key (pre ++ data :: post)) (k : K) (d : D) :
    Function.update content (key data) none k = some d ↔ d ∈ pre ++ post ∧ key d = k := by
  have split (e : D) : e ∈ pre ++ data :: post ↔ e = data ∨ e ∈ pre ++ post := by
    simp only [List.mem_append, List.mem_cons]
    tauto
  have apart : ∀ e ∈ pre ++ post, key e ≠ key data := by
    intro e stored
    obtain ⟨first, second, across⟩ := List.pairwise_append.mp ascending
    rcases List.mem_append.mp stored with stored | stored
    · exact ne_of_lt (across e stored data List.mem_cons_self)
    · exact ne_of_gt ((List.pairwise_cons.mp second).1 e stored)
  by_cases same : k = key data
  · subst same
    rw [Function.update_self]
    exact iff_of_false (by simp) fun ⟨stored, equal⟩ => apart d stored equal
  · rw [Function.update_of_ne same, stands, split]
    constructor
    · rintro ⟨rfl | stored, equal⟩
      · exact absurd equal.symm same
      · exact ⟨stored, equal⟩
    · exact fun ⟨stored, equal⟩ => ⟨.inr stored, equal⟩

theorem nodup_of_ascending (ascending : Ascending key elements) : elements.Nodup := by
  refine List.Pairwise.imp ?_ ascending
  rintro a b less rfl
  exact lt_irrefl _ less

end Contents

variable {compare : Operators D} {key : D → K} {among : D → Prop} {fuel : Nat}

theorem call_spec (ordered : compare.OrderedBy key among) {t : Tree D} {elements : List D} {content : K → Option D}
    (kept : Kept key elements t) (stands : ∀ k d, content k = some d ↔ d ∈ elements ∧ key d = k)
    (inside : ∀ d ∈ elements, among d) (enough : elements.length < fuel) {c : Call D} (known : c.Among among)
    (free : t.allocates c = true) :
    ∃ answer t' content' elements', t.call compare fuel c = some (answer, t') ∧ MapStep key content c answer content' ∧
      Kept key elements' t' ∧ (∀ k d, content' k = some d ↔ d ∈ elements' ∧ key d = k) ∧ (∀ d ∈ elements', among d) ∧
        elements'.length ≤ elements.length + 1 := by
  have ascending : Ascending key elements := by
    obtain ⟨_, _, _, _, _, _, ascending⟩ := kept
    exact ascending
  cases c with
  | insert data n =>
    obtain ⟨answer, t', ran, ⟨stored, same, rfl⟩ | ⟨absent, rfl, pre, post, rfl, kept'⟩⟩ :=
      Tree.insert_spec ordered kept inside known (Option.isNone_iff_eq_none.mp free) enough
    -- An equal entry is there, and is returned.
    · refine ⟨.data (some answer), t', content, elements, by simp [Tree.call, ran], .insert_present ?_, kept, stands, inside,
        Nat.le_succ _⟩
      exact (stands _ _).mpr ⟨stored, same⟩
    · refine ⟨.data (some answer), t', Function.update content (key answer) (some answer), pre ++ answer :: post,
        by simp [Tree.call, ran], .insert_new (content_none stands absent), kept', content_insert stands absent, ?_, ?_⟩
      · intro d stored
        rcases List.mem_append.mp stored with stored | stored
        · exact inside d (List.mem_append_left _ stored)
        · rcases List.mem_cons.mp stored with rfl | stored
          · exact known
          · exact inside d (List.mem_append_right _ stored)
      · simp only [List.length_append, List.length_cons]
        omega
  | remove data =>
    obtain ⟨found, t', ran, ⟨absent, rfl, rfl⟩ | ⟨d, pre, post, rfl, same, rfl, kept'⟩⟩ :=
      Tree.remove_spec ordered kept inside known enough
    -- Nothing is removed, and the map is the same.
    · have missing := content_none stands absent
      have step : MapStep key content (.remove data) (.data (content (key data))) _ := .remove
      rw [missing, Function.update_eq_self_iff.mpr missing.symm] at step
      exact ⟨.data none, t', content, elements, by simp [Tree.call, ran], step, kept, stands, inside, Nat.le_succ _⟩
    · have here : content (key data) = some d := (stands _ _).mpr ⟨by simp, same⟩
      have step : MapStep key content (.remove data) (.data (content (key data))) _ := .remove
      rw [here, ← same] at step
      refine ⟨.data (some d), t', _, pre ++ post, by simp [Tree.call, ran], step, kept', content_remove stands ascending, ?_, ?_⟩
      · intro e stored
        rcases List.mem_append.mp stored with stored | stored
        · exact inside e (List.mem_append_left _ stored)
        · exact inside e (List.mem_append_right _ (List.mem_cons_of_mem _ stored))
      · simp only [List.length_append, List.length_cons]
        omega
  | find data =>
    have answered : t.find compare fuel data = some (content (key data)) := by
      obtain ⟨found, ran, ⟨absent, rfl⟩ | ⟨d, stored, same, rfl⟩⟩ := Tree.find_spec ordered kept inside known enough
      · rw [ran, content_none stands absent]
      · rw [ran, (stands _ _).mpr ⟨stored, same⟩]
    exact ⟨_, t, content, elements, by simp [Tree.call, answered], .find, kept, stands, inside, Nat.le_succ _⟩
  -- The order of the entries is not that of the keys, so that the answer is only a permutation.
  | clear =>
    obtain ⟨cleared, t', ran, same, kept'⟩ := Tree.clear_spec ordered kept inside enough
    refine ⟨.cleared cleared, t', fun _ => none, [], by simp [Tree.call, ran], .clear ?_ ?_, kept', by simp, by simp, by simp⟩
    · exact same.nodup_iff.mpr (nodup_of_ascending ascending)
    · intro d
      rw [same.mem_iff]
      constructor
      · exact fun stored => ⟨key d, (stands _ _).mpr ⟨stored, rfl⟩⟩
      · rintro ⟨k, found⟩
        exact ((stands _ _).mp found).1

theorem run_follows (ordered : compare.OrderedBy key among) {calls : List (Call D)} {t : Tree D} {elements : List D}
    {content : K → Option D} (kept : Kept key elements t)
    (stands : ∀ k d, content k = some d ↔ d ∈ elements ∧ key d = k) (inside : ∀ d ∈ elements, among d)
    (enough : elements.length + calls.length ≤ fuel) (known : ∀ c ∈ calls, c.Among among)
    (allocated : t.allocatesAll compare fuel calls = true) :
    ∃ trace, t.run compare fuel calls = some trace ∧ Follows key content calls trace := by
  induction calls generalizing t elements content with
  | nil => exact ⟨[], rfl, .done⟩
  | cons c calls ih =>
    rw [Tree.allocatesAll, Bool.and_eq_true] at allocated
    rw [List.length_cons] at enough
    have room : elements.length < fuel := by omega
    obtain ⟨answer, t', content', elements', ran, step, kept', stands', inside', length⟩ :=
      call_spec ordered kept stands inside room (known c List.mem_cons_self) allocated.1
    have later := allocated.2
    rw [ran] at later
    have shorter : elements'.length + calls.length ≤ fuel := by omega
    obtain ⟨trace, rest, follows⟩ :=
      ih kept' stands' inside' shorter (fun c' listed => known c' (List.mem_cons_of_mem _ listed)) later
    refine ⟨(answer, t') :: trace, ?_, .step step ⟨elements', kept', stands'⟩ follows⟩
    simp [Tree.run, ran, rest]

/-- Whatever the calls are, the tree answers as a finite map and is a red-black
search tree after each of them. -/
theorem implements_finite_map (ordered : compare.OrderedBy key among) (calls : List (Call D)) (enough : calls.length ≤ fuel)
    (known : ∀ c ∈ calls, c.Among among) (allocated : Tree.new.allocatesAll compare fuel calls = true) :
    ∃ trace, Tree.new.run compare fuel calls = some trace ∧ Follows key (fun _ => none) calls trace :=
  run_follows ordered (Tree.kept_new key) (by simp) (by simp) (by simpa using enough) known allocated

/-- Seven is removed below its successor, and three is found again. -/
theorem implements_finite_map_run :
    ∃ trace, Tree.new.run ⟨fun a b => a == b, fun a b => decide (a < b)⟩ 7
        [.insert 7 0, .insert 3 1, .insert 9 2, .insert 3 3, .remove 7, .find 3, .clear] = some trace ∧
      Follows (id : Nat → Nat) (fun _ => none)
        [.insert 7 0, .insert 3 1, .insert 9 2, .insert 3 3, .remove 7, .find 3, .clear] trace :=
  @implements_finite_map Nat Nat _ _ id (fun _ => True) 7 ⟨by simp, by simp⟩ _ (by decide) (by simp [Call.Among]) (by decide)

end Runs

end OpenDiameter.RbTree
