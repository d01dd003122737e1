import OpenDiameter.RbTree.Nodes

/-! The shape that a tree has in memory.

`Image` says that the nodes of the tree are laid out as a shape, every node with
the right parent link, and says what the rest of the memory holds. The functions
of the tree are then described by what they do to the shape.
-/

set_option autoImplicit false

namespace OpenDiameter.RbTree

open Foundation.RedBlack Foundation.RedBlack.Shape
open Foundation (Turn turns turns_of_variant)

variable {D : Type}

def ptr : Shape Nat D → Ptr
  | leaf => .sentinel
  | node n _ _ _ _ => .block n

def up : List (Crumb Nat D) → Ptr
  | [] => .null
  | c :: _ => .block c.name

/-- The pointer to the whole tree, when the one to the subtree is given. -/
def outermost : List (Crumb Nat D) → Ptr → Ptr
  | [], p => p
  | c :: above, _ => outermost above (.block c.name)

namespace Node

def link : Side → Ptr → Ptr → Ptr → Color → D → Node D
  | .left, near, far, parent, color, data => ⟨near, far, parent, color, some data⟩
  | .right, near, far, parent, color, data => ⟨far, near, parent, color, some data⟩

variable {side : Side} {near far parent : Ptr} {color : Color} {data : D}

@[simp] theorem child_link : (link side near far parent color data).child side = near := by
  cases side <;> rfl

@[simp] theorem child_link_other : (link side near far parent color data).child side.other = far := by
  cases side <;> rfl

@[simp] theorem setChild_link (p : Ptr) :
    (link side near far parent color data).setChild side p = link side p far parent color data := by
  cases side <;> rfl

@[simp] theorem setChild_link_other (p : Ptr) :
    (link side near far parent color data).setChild side.other p = link side near p parent color data := by
  cases side <;> rfl

@[simp] theorem parent_link : (link side near far parent color data).parent = parent := by
  cases side <;> rfl

@[simp] theorem color_link : (link side near far parent color data).color = color := by
  cases side <;> rfl

@[simp] theorem data_link : (link side near far parent color data).data = some data := by
  cases side <;> rfl

theorem setParent_link (p : Ptr) :
    { link side near far parent color data with parent := p } = link side near far p color data := by
  cases side <;> rfl

theorem setColor_link (other : Color) :
    { link side near far parent color data with color := other } = link side near far parent other data := by
  cases side <;> rfl

theorem setData_link (other : D) :
    { link side near far parent color data with data := some other } = link side near far parent color other := by
  cases side <;> rfl

end Node

section Linked

def Linked (blocks : Nat → Option (Node D)) : Ptr → Shape Nat D → Prop
  | _, leaf => True
  | parent, node n color left data right =>
    blocks n = some (.link .left (ptr left) (ptr right) parent color data) ∧
      Linked blocks (.block n) left ∧ Linked blocks (.block n) right

def Around (blocks : Nat → Option (Node D)) : List (Crumb Nat D) → Ptr → Prop
  | [], _ => True
  | c :: above, p =>
    blocks c.name = some (.link c.side p (ptr c.other) (up above) c.color c.data) ∧
      Linked blocks (.block c.name) c.other ∧ Around blocks above (.block c.name)

variable {blocks : Nat → Option (Node D)} {side : Side} {n : Nat} {color : Color} {near far t : Shape Nat D}
  {data : D} {parent : Ptr} {crumbs : List (Crumb Nat D)}

@[simp] theorem ptr_join : ptr (join side n color near data far) = .block n := by cases side <;> rfl

theorem ptr_eq_sentinel : ptr t = .sentinel ↔ t = leaf := by
  cases t with
  | leaf => exact iff_of_true rfl rfl
  | node => simp [ptr]

@[simp] theorem ptr_ne_null : ptr t ≠ .null := by cases t <;> simp [ptr]

theorem mem_names_of_ptr (here : ptr t = .block n) : n ∈ t.names := by
  cases t with
  | leaf => cases here
  | node =>
    cases here
    simp [names, cells]

@[simp] theorem linked_join :
    Linked blocks parent (join side n color near data far) ↔
      blocks n = some (.link side (ptr near) (ptr far) parent color data) ∧
        Linked blocks (.block n) near ∧ Linked blocks (.block n) far := by
  cases side
  · rfl
  · exact and_congr_right fun _ => and_comm

theorem ptr_plug : ptr (plug crumbs t) = outermost crumbs (ptr t) := by
  induction crumbs generalizing t with
  | nil => rfl
  | cons c above ih =>
    refine ih.trans ?_
    rw [ptr_join]
    rfl

theorem linked_plug : Linked blocks .null (plug crumbs t) ↔ Linked blocks (up crumbs) t ∧ Around blocks crumbs (ptr t) := by
  induction crumbs generalizing t with
  | nil => exact (and_iff_left trivial).symm
  | cons c above ih =>
    refine Iff.trans ih ?_
    simp only [linked_join, ptr_join, Around, up]
    tauto

theorem Linked.congr {blocks' : Nat → Option (Node D)} (linked : Linked blocks parent t)
    (same : ∀ m ∈ t.names, blocks' m = blocks m) : Linked blocks' parent t := by
  induction t generalizing parent with
  | leaf => trivial
  | node m color left data right ihl ihr =>
    have inside (k : Nat) : k ∈ (node m color left data right).names ↔ k = m ∨ k ∈ left.names ∨ k ∈ right.names :=
      @mem_names_join _ _ .left m color left right data k
    obtain ⟨own, onLeft, onRight⟩ := linked
    exact ⟨(same m ((inside m).mpr (.inl rfl))).trans own,
      ihl onLeft fun k named => same k ((inside k).mpr (.inr (.inl named))),
      ihr onRight fun k named => same k ((inside k).mpr (.inr (.inr named)))⟩

theorem Around.congr {blocks' : Nat → Option (Node D)} {p : Ptr} (around : Around blocks crumbs p)
    (same : ∀ m ∈ crumbNames crumbs, blocks' m = blocks m) : Around blocks' crumbs p := by
  induction crumbs generalizing p with
  | nil => trivial
  | cons c above ih =>
    simp only [crumbNames, List.cons_append, List.mem_cons, List.mem_append] at same
    exact ⟨(same _ (.inl rfl)).trans around.1, around.2.1.congr fun m named => same m (.inr (.inl named)),
      ih around.2.2 fun m named => same m (.inr (.inr named))⟩

theorem Linked.update (linked : Linked blocks parent t) (apart : n ∉ t.names) (value : Option (Node D)) :
    Linked (Function.update blocks n value) parent t := by
  refine linked.congr fun m named => Function.update_of_ne ?_ _ _
  rintro rfl
  exact apart named

theorem Around.update {p : Ptr} (around : Around blocks crumbs p) (apart : n ∉ crumbNames crumbs)
    (value : Option (Node D)) : Around (Function.update blocks n value) crumbs p := by
  refine around.congr fun m named => Function.update_of_ne ?_ _ _
  rintro rfl
  exact apart named

theorem Linked.live (linked : Linked blocks parent t) {m : Nat} (named : m ∈ t.names) : blocks m ≠ none := by
  induction t generalizing parent with
  | leaf => exact absurd named List.not_mem_nil
  | node k color left data right ihl ihr =>
    obtain ⟨own, onLeft, onRight⟩ := linked
    rcases (@mem_names_join _ _ .left k color left right data m).mp named with rfl | inside | inside
    · rw [own]
      exact Option.some_ne_none _
    · exact ihl onLeft inside
    · exact ihr onRight inside

theorem Linked.stores (linked : Linked blocks parent t) {m : Nat} {d : D} (stored : (m, d) ∈ t.cells) :
    ∃ node, blocks m = some node ∧ node.data = some d := by
  induction t generalizing parent with
  | leaf => exact absurd stored List.not_mem_nil
  | node k color left data right ihl ihr =>
    obtain ⟨own, onLeft, onRight⟩ := linked
    rcases List.mem_append.mp stored with inside | inside
    · exact ihl onLeft inside
    · rcases List.mem_cons.mp inside with here | inside
      · cases here
        exact ⟨_, own, rfl⟩
      · exact ihr onRight inside

end Linked

/-- The memory that is not part of the tree, and the tree's own `nil`. -/
structure Frame (D : Type) where
  nil : Node D
  spare : Nat → Option (Node D)

structure Image (t : Tree D) (frame : Frame D) (shape : Shape Nat D) : Prop where
  root : t.root = ptr shape
  nil : t.nil = frame.nil
  distinct : shape.names.Nodup
  linked : Linked t.blocks .null shape
  spare : ∀ n, n ∉ shape.names → t.blocks n = frame.spare n

namespace Tree

section Access

variable {t : Tree D} {n : Nat} {node : Node D}

@[simp] theorem node_block : t.node (.block n) = t.blocks n := rfl

@[simp] theorem node_sentinel : t.node .sentinel = some t.nil := rfl

theorem modify_block (here : t.blocks n = some node) (f : Node D → Node D) :
    t.modify (.block n) f = some { t with blocks := Function.update t.blocks n (some (f node)) } := by
  simp only [modify, here]

variable {side : Side} {near far parent : Ptr} {color : Color} {data : D}

section Block

variable (here : t.blocks n = some (.link side near far parent color data))
include here

theorem child_block : t.child side (.block n) = some near := by simp [child, here]

theorem child_block_other : t.child side.other (.block n) = some far := by simp [child, here]

theorem parent_block : t.parent (.block n) = some parent := by simp [Tree.parent, here]

theorem color_block : t.color (.block n) = some color := by simp [Tree.color, here]

theorem data_block : t.data (.block n) = some data := by simp [Tree.data, here]

theorem setChild_block (p : Ptr) :
    t.setChild side (.block n) p =
      some { t with blocks := Function.update t.blocks n (some (.link side p far parent color data)) } := by
  simp [setChild, modify_block here]

theorem setChild_block_other (p : Ptr) :
    t.setChild side.other (.block n) p =
      some { t with blocks := Function.update t.blocks n (some (.link side near p parent color data)) } := by
  simp [setChild, modify_block here]

theorem setParent_block (p : Ptr) :
    t.setParent (.block n) p =
      some { t with blocks := Function.update t.blocks n (some (.link side near far p color data)) } := by
  simp only [setParent, modify_block here, Node.setParent_link]

theorem setColor_block (other : Color) :
    t.setColor (.block n) other =
      some { t with blocks := Function.update t.blocks n (some (.link side near far parent other data)) } := by
  simp only [setColor, modify_block here, Node.setColor_link]

theorem setData_block (other : D) :
    t.setData (.block n) other =
      some { t with blocks := Function.update t.blocks n (some (.link side near far parent color other)) } := by
  simp only [setData, modify_block here, Node.setData_link]

end Block

end Access

section Rotation

variable {t : Tree D} {frame : Frame D} {crumbs : List (Crumb Nat D)}

/-- What a step leaves alone when it works on the nodes with the given names. -/
structure Within (names : List Nat) (t t' : Tree D) : Prop where
  nil : t'.nil = t.nil
  same : ∀ n, n ∉ names → t'.blocks n = t.blocks n

theorem replaceChild_spec (side : Side) {n : Nat} {p : Ptr} (around : Around t.blocks crumbs (.block n))
    (distinct : (crumbNames crumbs).Nodup) (apart : n ∉ crumbNames crumbs) :
    ∃ t', t.replaceChild side (up crumbs) (.block n) p = some t' ∧ Around t'.blocks crumbs p ∧
      Within (crumbNames crumbs) t t' ∧ (t.root = outermost crumbs (.block n) → t'.root = outermost crumbs p) := by
  cases crumbs with
  | nil => exact ⟨{ t with root := p }, rfl, trivial, ⟨rfl, fun _ _ => rfl⟩, fun _ => rfl⟩
  | cons c above =>
    obtain ⟨own, linked, further⟩ := around
    simp only [crumbNames, List.cons_append, List.nodup_cons, List.mem_append, not_or, List.mem_cons] at distinct apart
    -- The other child is not the one that is replaced.
    have differs : ptr c.other ≠ .block n := fun same => apart.2.1 (mem_names_of_ptr same)
    refine ⟨{ t with blocks := Function.update t.blocks c.name (some (.link c.side p (ptr c.other) (up above) c.color c.data)) },
      ?_, ⟨Function.update_self .., linked.update distinct.1.1 _, further.update distinct.1.2 _⟩, ⟨rfl, ?_⟩, fun whole => whole⟩
    · rcases Side.eq_or_other c.side side with same | same
      · subst same
        simp [replaceChild, up, child_block own, setChild_block own]
      · subst same
        simp [replaceChild, up, child_block_other own, setChild_block own, differs.symm]
    · intro m outside
      refine Function.update_of_ne ?_ _ _
      rintro rfl
      exact outside (by simp [crumbNames])

/-- A subtree gets a parent, and so may the sentinel not. -/
theorem adopt_block {n : Nat} (q : Ptr) : t.adopt (.block n) q = t.setParent (.block n) q := rfl

theorem adopt_spec {inner : Shape Nat D} {q p : Ptr} (linked : Linked t.blocks q inner)
    (distinct : inner.names.Nodup) :
    ∃ t', t.adopt (ptr inner) p = some t' ∧
      Linked t'.blocks p inner ∧ Within inner.names t t' ∧ t'.root = t.root := by
  cases inner with
  | leaf => exact ⟨t, rfl, trivial, ⟨rfl, fun _ _ => rfl⟩, rfl⟩
  | node n color left data right =>
    obtain ⟨own, onLeft, onRight⟩ := linked
    have apart := (@nodup_join _ _ .left n color left right data).mp distinct
    refine ⟨{ t with blocks := Function.update t.blocks n (some (.link .left (ptr left) (ptr right) p color data)) },
      ?_, ⟨Function.update_self .., onLeft.update apart.1 _, onRight.update apart.2.1 _⟩, ⟨rfl, ?_⟩, rfl⟩
    · exact setParent_block own p
    · intro m outside
      refine Function.update_of_ne ?_ _ _
      rintro rfl
      exact outside (by simp [names, cells])

theorem cells_rotate {side : Side} {x y : Nat} {cx cy : Color} {dx dy : D} {near inner far : Shape Nat D} :
    (plug crumbs (join side y cy (join side x cx near dx inner) dy far)).cells =
      (plug crumbs (join side x cx near dx (join side y cy inner dy far))).cells := by
  cases side <;> simp [cells_plug, join, cells]

theorem rotate_image {side : Side} {x y : Nat} {cx cy : Color} {dx dy : D} {near inner far : Shape Nat D}
    (image : Image t frame (plug crumbs (join side x cx near dx (join side y cy inner dy far)))) :
    ∃ t', t.rotate side (.block x) = some t' ∧
      Image t' frame (plug crumbs (join side y cy (join side x cx near dx inner) dy far)) := by
  have linked := linked_plug.mp image.linked
  simp only [linked_join, ptr_join] at linked
  obtain ⟨⟨atX, onNear, atY, onInner, onFar⟩, around⟩ := linked
  have distinct := nodup_plug.mp image.distinct
  simp only [nodup_join, mem_names_join, not_or] at distinct
  obtain ⟨⟨xNear, ⟨xy, xInner, xFar⟩, -, ⟨yInner, yFar, innerDistinct, -, innerFar⟩, nearRest⟩, crumbsDistinct, apart⟩ := distinct
  have xCrumbs : x ∉ crumbNames crumbs := apart (by simp)
  have yCrumbs : y ∉ crumbNames crumbs := apart (by simp)
  have yNear : y ∉ near.names := fun inside => nearRest inside (by simp)
  -- The child of `x` becomes the inner subtree, which gets `x` as its parent.
  let t₁ : Tree D := { t with blocks := Function.update t.blocks x (some (.link side (ptr near) (ptr inner) (up crumbs) cx dx)) }
  have atY₁ : t₁.blocks y = some (.link side (ptr inner) (ptr far) (.block x) cy dy) :=
    (Function.update_of_ne (Ne.symm xy) _ _).trans atY
  obtain ⟨t₂, adopted, onInner₂, within₂, root₂⟩ :=
    @adopt_spec D t₁ inner (.block y) (.block x) (onInner.update xInner _) innerDistinct
  have atX₂ : t₂.blocks x = some (.link side (ptr near) (ptr inner) (up crumbs) cx dx) :=
    (within₂.same x xInner).trans (Function.update_self ..)
  have atY₂ : t₂.blocks y = some (.link side (ptr inner) (ptr far) (.block x) cy dy) :=
    (within₂.same y yInner).trans atY₁
  -- Then `y` takes the place of `x`.
  let t₃ : Tree D := { t₂ with blocks := Function.update t₂.blocks y (some (.link side (ptr inner) (ptr far) (up crumbs) cy dy)) }
  have atX₃ : t₃.blocks x = some (.link side (ptr near) (ptr inner) (up crumbs) cx dx) :=
    (Function.update_of_ne xy _ _).trans atX₂
  have same₃ (m : Nat) (notX : m ≠ x) (notY : m ≠ y) (outside : m ∉ inner.names) : t₃.blocks m = t.blocks m :=
    (Function.update_of_ne notY _ _).trans ((within₂.same m outside).trans (Function.update_of_ne notX _ _))
  have around₃ : Around t₃.blocks crumbs (.block x) := by
    refine around.congr fun m inside => same₃ m ?_ ?_ ?_
    · rintro rfl
      exact xCrumbs inside
    · rintro rfl
      exact yCrumbs inside
    · intro here
      exact apart (by simp [here]) inside
  obtain ⟨t₄, replaced, around₄, within₄, root₄⟩ :=
    replaceChild_spec side around₃ crumbsDistinct xCrumbs (p := .block y)
  have atY₄ : t₄.blocks y = some (.link side (ptr inner) (ptr far) (up crumbs) cy dy) :=
    (within₄.same y yCrumbs).trans (Function.update_self ..)
  have atX₄ : t₄.blocks x = some (.link side (ptr near) (ptr inner) (up crumbs) cx dx) :=
    (within₄.same x xCrumbs).trans atX₃
  -- Last, `x` is linked under `y`.
  let t₅ : Tree D := { t₄ with blocks := Function.update t₄.blocks y (some (.link side (.block x) (ptr far) (up crumbs) cy dy)) }
  have atX₅ : t₅.blocks x = some (.link side (ptr near) (ptr inner) (up crumbs) cx dx) :=
    (Function.update_of_ne xy _ _).trans atX₄
  let t₆ : Tree D := { t₅ with blocks := Function.update t₅.blocks x (some (.link side (ptr near) (ptr inner) (.block y) cx dx)) }
  have rotated : t.rotate side (.block x) = some t₆ := by
    have linkX : t.setChild side.other (.block x) (ptr inner) = some t₁ := setChild_block_other atX _
    have liftY : t₂.setParent (.block y) (up crumbs) = some t₃ := setParent_block atY₂ _
    have linkY : t₄.setChild side (.block y) (.block x) = some t₅ := setChild_block atY₄ _
    have lowerX : t₅.setParent (.block x) (.block y) = some t₆ := setParent_block atX₅ _
    simp only [rotate, child_block_other atX, child_block atY, linkX, child_block atY₁, Option.bind_eq_bind,
      Option.bind_some, adopted, adopt_block, parent_block atX₂, liftY, parent_block atX₃, replaced, linkY,
      lowerX]
  have sameNames : (plug crumbs (join side y cy (join side x cx near dx inner) dy far)).names =
      (plug crumbs (join side x cx near dx (join side y cy inner dy far))).names :=
    congrArg (List.map Prod.fst) cells_rotate
  have sameRest (m : Nat) (notX : m ≠ x) (notY : m ≠ y) : t₆.blocks m = t₄.blocks m :=
    (Function.update_of_ne notX _ _).trans (Function.update_of_ne notY _ _)
  refine ⟨t₆, rotated, ?_, within₄.nil.trans (within₂.nil.trans image.nil), ?_, linked_plug.mpr ⟨?_, ?_⟩, ?_⟩
  · rw [ptr_plug, ptr_join]
    exact root₄ (root₂.trans (image.root.trans (by rw [ptr_plug, ptr_join])))
  · rw [sameNames]
    exact image.distinct
  · have nearStays : ∀ m ∈ near.names, t₆.blocks m = t.blocks m := by
      intro m inside
      have notX : m ≠ x := fun same => xNear (same ▸ inside)
      have notY : m ≠ y := fun same => yNear (same ▸ inside)
      rw [sameRest m notX notY, within₄.same m (apart (by simp [inside]))]
      exact same₃ m notX notY fun here => nearRest inside (by simp [here])
    have farStays : ∀ m ∈ far.names, t₆.blocks m = t.blocks m := by
      intro m inside
      have notX : m ≠ x := fun same => xFar (same ▸ inside)
      have notY : m ≠ y := fun same => yFar (same ▸ inside)
      rw [sameRest m notX notY, within₄.same m (apart (by simp [inside]))]
      exact same₃ m notX notY fun here => innerFar here inside
    have innerStays : ∀ m ∈ inner.names, t₆.blocks m = t₂.blocks m := by
      intro m inside
      have notX : m ≠ x := fun same => xInner (same ▸ inside)
      have notY : m ≠ y := fun same => yInner (same ▸ inside)
      rw [sameRest m notX notY, within₄.same m (apart (by simp [inside]))]
      exact Function.update_of_ne notY _ _
    have atX₆ : t₆.blocks x = some (.link side (ptr near) (ptr inner) (.block y) cx dx) := Function.update_self ..
    have atY₆ : t₆.blocks y = some (.link side (.block x) (ptr far) (up crumbs) cy dy) :=
      (Function.update_of_ne (Ne.symm xy) _ _).trans (Function.update_self ..)
    simp only [linked_join, ptr_join]
    exact ⟨atY₆, ⟨atX₆, onNear.congr nearStays, onInner₂.congr innerStays⟩, onFar.congr farStays⟩
  · rw [ptr_join]
    refine around₄.congr fun m inside => sameRest m ?_ ?_
    · rintro rfl
      exact xCrumbs inside
    · rintro rfl
      exact yCrumbs inside
  · intro m outside
    rw [sameNames] at outside
    have free := image.spare m outside
    simp only [mem_names_plug, mem_names_join, not_or] at outside
    obtain ⟨⟨notX, -, notY, notInner, -⟩, notCrumb⟩ := outside
    rw [sameRest m notX notY, within₄.same m notCrumb, same₃ m notX notY notInner]
    exact free

end Rotation

section Reading

variable {t : Tree D} {frame : Frame D} {crumbs above : List (Crumb Nat D)} {side : Side} {n : Nat} {color : Color}
  {near far shape other : Shape Nat D} {data : D}

theorem plug_turn :
    plug (⟨side, n, color, data, other⟩ :: above) shape = plug (⟨side.other, n, color, data, shape⟩ :: above) other := by
  simp only [plug, join_other]

theorem block_of_image (image : Image t frame (plug crumbs (join side n color near data far))) :
    t.blocks n = some (.link side (ptr near) (ptr far) (up crumbs) color data) :=
  (linked_join.mp (linked_plug.mp image.linked).1).1

theorem block_of_crumb (image : Image t frame (plug (⟨side, n, color, data, other⟩ :: above) shape)) :
    t.blocks n = some (.link side (ptr shape) (ptr other) (up above) color data) :=
  @block_of_image _ t frame above side n color shape other data image

theorem color_of_image (image : Image t frame (plug crumbs shape)) (black : frame.nil.color = .black) :
    t.color (ptr shape) = some shape.color := by
  by_cases nonempty : shape = leaf
  · subst nonempty
    simp [ptr, Tree.color, image.nil, black, Shape.color]
  · obtain ⟨n, color, near, data, far, rfl⟩ := exists_join .left nonempty
    rw [ptr_join, color_join, color_block (block_of_image image)]

theorem parent_of_image (image : Image t frame (plug crumbs shape)) (hanging : shape = leaf → frame.nil.parent = up crumbs) :
    t.parent (ptr shape) = some (up crumbs) := by
  by_cases nonempty : shape = leaf
  · subst nonempty
    simp [ptr, Tree.parent, image.nil, hanging rfl]
  · obtain ⟨n, color, near, data, far, rfl⟩ := exists_join .left nonempty
    rw [ptr_join, parent_block (block_of_image image)]

theorem names_of_outermost {c : Crumb Nat D} {p : Ptr} :
    ∃ m ∈ crumbNames (c :: above), outermost (c :: above) p = .block m := by
  induction above generalizing c p with
  | nil => exact ⟨c.name, by simp [crumbNames], rfl⟩
  | cons next above ih =>
    obtain ⟨m, inside, here⟩ := @ih next (.block c.name)
    refine ⟨m, ?_, here⟩
    rw [crumbNames]
    exact List.mem_append_right _ inside

theorem ptr_eq_root (image : Image t frame (plug crumbs shape)) : ptr shape = t.root ↔ crumbs = [] := by
  cases crumbs with
  | nil => exact iff_of_true image.root.symm rfl
  | cons c above =>
    refine iff_of_false ?_ (List.cons_ne_nil _ _)
    rw [image.root, ptr_plug]
    obtain ⟨m, inside, here⟩ := @names_of_outermost D above c (ptr shape)
    rw [here]
    intro same
    exact (nodup_plug.mp image.distinct).2.2 (mem_names_of_ptr same) inside

theorem ptr_ne_sibling {c : Crumb Nat D} (image : Image t frame (plug (c :: above) shape))
    (tells : shape ≠ leaf ∨ c.other ≠ leaf) : ptr shape ≠ ptr c.other := by
  intro same
  have apart := (nodup_plug.mp image.distinct).2.2
  rcases other : c.other with _ | ⟨k, color, left, data, right⟩
  · rw [other] at same tells
    have empty := ptr_eq_sentinel.mp same
    rcases tells with nonempty | nonempty
    · exact nonempty empty
    · exact nonempty rfl
  · rw [other] at same
    exact apart (mem_names_of_ptr same) (by simp [crumbNames, other, names, cells])

theorem side_of_image {c : Crumb Nat D} (image : Image t frame (plug (c :: above) shape))
    (tells : shape ≠ leaf ∨ c.other ≠ leaf) :
    ∃ p, t.child .left (.block c.name) = some p ∧ (if ptr shape = p then Side.left else Side.right) = c.side := by
  obtain ⟨side, m, color, data, other⟩ := c
  have own := block_of_crumb image
  cases side with
  | left => exact ⟨ptr shape, child_block own, if_pos rfl⟩
  | right =>
    exact ⟨ptr other, @child_block_other _ t m .right _ _ _ _ _ own, if_neg (ptr_ne_sibling image tells)⟩

end Reading

section Writing

variable {t : Tree D} {frame : Frame D} {crumbs : List (Crumb Nat D)} {side : Side} {n : Nat} {color : Color}
  {near far shape : Shape Nat D} {data : D}

theorem mem_names_recolor (color' : Color) (data' : D) {m : Nat} :
    m ∈ (plug crumbs (join side n color' near data' far)).names ↔
      m ∈ (plug crumbs (join side n color near data far)).names := by
  simp

theorem set_image (image : Image t frame (plug crumbs (join side n color near data far))) (color' : Color) (data' : D) :
    Image { t with blocks := Function.update t.blocks n (some (.link side (ptr near) (ptr far) (up crumbs) color' data')) }
      frame (plug crumbs (join side n color' near data' far)) := by
  have linked := linked_plug.mp image.linked
  have distinct := nodup_plug.mp image.distinct
  have apart := nodup_join.mp distinct.1
  simp only [linked_join, ptr_join] at linked
  refine ⟨?_, image.nil, ?_, linked_plug.mpr ⟨?_, ?_⟩, ?_⟩
  · rw [ptr_plug, ptr_join]
    exact image.root.trans (by rw [ptr_plug, ptr_join])
  · refine nodup_plug.mpr ⟨nodup_join.mpr apart, distinct.2.1, fun m inside => distinct.2.2 ?_⟩
    rwa [mem_names_join] at inside ⊢
  · simp only [linked_join]
    exact ⟨Function.update_self .., linked.1.2.1.update apart.1 _, linked.1.2.2.update apart.2.1 _⟩
  · rw [ptr_join]
    exact linked.2.update (distinct.2.2 (by simp)) _
  · intro m outside
    rw [mem_names_recolor] at outside
    have notN : m ≠ n := fun same => outside (by simp [same])
    exact (Function.update_of_ne notN _ _).trans (image.spare m outside)

theorem setColor_image (image : Image t frame (plug crumbs (join side n color near data far))) (color' : Color) :
    ∃ t', t.setColor (.block n) color' = some t' ∧ Image t' frame (plug crumbs (join side n color' near data far)) :=
  ⟨_, setColor_block (block_of_image image) color', set_image image color' data⟩

theorem setData_image (image : Image t frame (plug crumbs (join side n color near data far))) (data' : D) :
    ∃ t', t.setData (.block n) data' = some t' ∧ Image t' frame (plug crumbs (join side n color near data' far)) :=
  ⟨_, setData_block (block_of_image image) data', set_image image color data'⟩

theorem paint_image (image : Image t frame (plug crumbs shape)) (black : frame.nil.color = .black) :
    ∃ t', t.setColor (ptr shape) .black = some t' ∧ Image t' frame (plug crumbs (shape.paint .black)) := by
  by_cases nonempty : shape = leaf
  · subst nonempty
    refine ⟨t, ?_, image⟩
    have same : { t.nil with color := Color.black } = t.nil := by
      rw [image.nil, ← black]
    simp only [setColor, ptr, modify, same]
  · obtain ⟨n, color, near, data, far, rfl⟩ := exists_join .left nonempty
    rw [ptr_join, paint_join]
    exact setColor_image image .black

end Writing

end Tree

end OpenDiameter.RbTree
