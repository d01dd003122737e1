import OpenDiameter.RbTree.Image

/-! Rebalancing: what the loops of `FixupInsert` and `FixupRemove` do to the shape. -/

set_option autoImplicit false

namespace OpenDiameter.RbTree.Tree

open Foundation.RedBlack Foundation.RedBlack.Shape
open Foundation (Turn turns turns_of_variant)

variable {D : Type} {t : Tree D} {frame : Frame D} {above : List (Crumb Nat D)}

section Insert

variable {side turned : Side} {p g : Nat} {dp dg : D} {shape sibling uncle : Shape Nat D}

theorem fixupInsertAt_red
    (image : Image t frame (plug (⟨turned, p, .red, dp, sibling⟩ :: ⟨side, g, .black, dg, uncle⟩ :: above) shape))
    (nonempty : shape ≠ leaf) (black : frame.nil.color = .black) (red : uncle.color = .red) :
    ∃ t', fixupInsertAt side (ptr shape) t = some (.block g, t') ∧
      Image t' frame (plug above (join side g .red (join turned p .black shape dp sibling) dg (uncle.paint .black))) := by
  have imageP : Image t frame (plug (⟨side, g, .black, dg, uncle⟩ :: above) (join turned p .red shape dp sibling)) := image
  have toP := parent_of_image image fun empty => absurd empty nonempty
  have atP := block_of_crumb image
  have atG := block_of_crumb imageP
  have uncleRed := color_of_image (plug_turn ▸ imageP) black
  rw [red] at uncleRed
  obtain ⟨t₁, painted₁, image₁⟩ := setColor_image imageP .black
  rw [plug_turn] at image₁
  obtain ⟨t₂, painted₂, image₂⟩ := paint_image image₁ black
  rw [plug_turn, Side.other_other] at image₂
  have imageG : Image t₂ frame (plug above (join side g .black (join turned p .black shape dp sibling) dg (uncle.paint .black))) :=
    image₂
  have imageX : Image t₂ frame
      (plug (⟨turned, p, .black, dp, sibling⟩ :: ⟨side, g, .black, dg, uncle.paint .black⟩ :: above) shape) := image₂
  have toP₂ := parent_of_image imageX fun empty => absurd empty nonempty
  have atP₂ := block_of_crumb imageX
  obtain ⟨t₃, painted₃, image₃⟩ := setColor_image imageG .red
  have imageX₃ : Image t₃ frame
      (plug (⟨turned, p, .black, dp, sibling⟩ :: ⟨side, g, .red, dg, uncle.paint .black⟩ :: above) shape) := image₃
  have toP₃ := parent_of_image imageX₃ fun empty => absurd empty nonempty
  have atP₃ := block_of_crumb imageX₃
  refine ⟨t₃, ?_, image₃⟩
  simp only [fixupInsertAt, Option.bind_eq_bind, Option.bind_some, toP, up, parent_block atP, child_block_other atG, uncleRed,
    if_pos, painted₁, painted₂, toP₂, parent_block atP₂, painted₃, toP₃, parent_block atP₃]

theorem fixupInsertRotate_image
    (image : Image t frame (plug (⟨side, p, .red, dp, sibling⟩ :: ⟨side, g, .black, dg, uncle⟩ :: above) shape))
    (nonempty : shape ≠ leaf) :
    ∃ t', fixupInsertRotate side (ptr shape) t = some t' ∧
      Image t' frame (plug above (join side p .black shape dp (join side g .red sibling dg uncle))) := by
  have imageP : Image t frame (plug (⟨side, g, .black, dg, uncle⟩ :: above) (join side p .red shape dp sibling)) := image
  have toP := parent_of_image image fun empty => absurd empty nonempty
  obtain ⟨t₁, painted₁, image₁⟩ := setColor_image imageP .black
  have imageX₁ : Image t₁ frame
      (plug (⟨side, p, .black, dp, sibling⟩ :: ⟨side, g, .black, dg, uncle⟩ :: above) shape) := image₁
  have imageG₁ : Image t₁ frame (plug above (join side g .black (join side p .black shape dp sibling) dg uncle)) := image₁
  have toP₁ := parent_of_image imageX₁ fun empty => absurd empty nonempty
  have atP₁ := block_of_crumb imageX₁
  obtain ⟨t₂, painted₂, image₂⟩ := setColor_image imageG₁ .red
  have imageX₂ : Image t₂ frame
      (plug (⟨side, p, .black, dp, sibling⟩ :: ⟨side, g, .red, dg, uncle⟩ :: above) shape) := image₂
  have toP₂ := parent_of_image imageX₂ fun empty => absurd empty nonempty
  have atP₂ := block_of_crumb imageX₂
  have imageG₂ : Image t₂ frame
      (plug above (join side.other g .red uncle dg (join side.other p .black sibling dp shape))) := by
    simp only [join_other]
    exact image₂
  obtain ⟨t₃, rotated, image₃⟩ := rotate_image imageG₂
  simp only [join_other] at image₃
  refine ⟨t₃, ?_, image₃⟩
  simp only [fixupInsertRotate, Option.bind_eq_bind, Option.bind_some, toP, up, painted₁, toP₁, parent_block atP₁, painted₂,
    toP₂, parent_block atP₂, rotated]

theorem fixupInsertAt_outer
    (image : Image t frame (plug (⟨side, p, .red, dp, sibling⟩ :: ⟨side, g, .black, dg, uncle⟩ :: above) shape))
    (nonempty : shape ≠ leaf) (black : frame.nil.color = .black) (uncleBlack : uncle.color = .black) :
    ∃ t', fixupInsertAt side (ptr shape) t = some (ptr shape, t') ∧
      Image t' frame (plug above (join side p .black shape dp (join side g .red sibling dg uncle))) := by
  have imageP : Image t frame (plug (⟨side, g, .black, dg, uncle⟩ :: above) (join side p .red shape dp sibling)) := image
  have toP := parent_of_image image fun empty => absurd empty nonempty
  have atP := block_of_crumb image
  have atG := block_of_crumb imageP
  have uncleColor := color_of_image (plug_turn ▸ imageP) black
  rw [uncleBlack] at uncleColor
  have outer : ptr shape ≠ ptr sibling := ptr_ne_sibling image (.inl nonempty)
  obtain ⟨t', raised, image'⟩ := fixupInsertRotate_image image nonempty
  refine ⟨t', ?_, image'⟩
  simp only [fixupInsertAt, Option.bind_eq_bind, Option.bind_some, toP, up, parent_block atP, child_block_other atG, uncleColor,
    reduceCtorEq, if_false, child_block_other atP, outer, raised]

theorem fixupInsertAt_inner {x : Nat} {dx : D} {near far : Shape Nat D}
    (image : Image t frame
      (plug (⟨side.other, p, .red, dp, sibling⟩ :: ⟨side, g, .black, dg, uncle⟩ :: above) (join side x .red near dx far)))
    (black : frame.nil.color = .black) (uncleBlack : uncle.color = .black) :
    ∃ t', fixupInsertAt side (.block x) t = some (.block p, t') ∧
      Image t' frame
        (plug above (join side x .black (join side p .red sibling dp near) dx (join side g .red far dg uncle))) := by
  have imageP : Image t frame
      (plug (⟨side, g, .black, dg, uncle⟩ :: above) (join side p .red sibling dp (join side x .red near dx far))) := by
    rw [← join_other]
    exact image
  have atX := block_of_image image
  have atP := block_of_image imageP
  have atG := block_of_crumb imageP
  have uncleColor := color_of_image (plug_turn ▸ imageP) black
  rw [uncleBlack] at uncleColor
  obtain ⟨t₁, rotated, image₁⟩ := rotate_image imageP
  have imageX₁ : Image t₁ frame (plug (⟨side, x, .red, dx, far⟩ :: ⟨side, g, .black, dg, uncle⟩ :: above)
      (join side p .red sibling dp near)) := image₁
  obtain ⟨t₂, raised, image₂⟩ := fixupInsertRotate_image imageX₁ join_ne_leaf
  rw [ptr_join] at raised
  refine ⟨t₂, ?_, image₂⟩
  simp only [fixupInsertAt, Option.bind_eq_bind, Option.bind_some, up, parent_block atX, parent_block atP, child_block_other atG,
    uncleColor, reduceCtorEq, if_false, child_block_other atP, ptr_join, if_true, rotated, raised]

/-- Before a turn of `FixupInsert`: `x` is red, and its parent may be red too. -/
def Inserting (frame : Frame D) (cells : List (Nat × D)) (k : Nat) (state : Ptr × Tree D) : Prop :=
  ∃ crumbs shape n, k = crumbs.length ∧ state.1 = ptr shape ∧ shape.color = .red ∧
    Image state.2 frame (plug crumbs shape) ∧ Hole crumbs n ∧ shape.Balanced n ∧ (plug crumbs shape).cells = cells

/-- A red-black tree of the given nodes is laid out in memory. -/
def Stands (frame : Frame D) (cells : List (Nat × D)) (t : Tree D) : Prop :=
  ∃ shape, Image t frame shape ∧ shape.Valid ∧ shape.cells = cells

theorem Stands.paint_root {shape : Shape Nat D} (image : Image t frame shape) (black : frame.nil.color = .black)
    (valid : (shape.paint .black).Valid) :
    ∃ t', t.setColor t.root .black = some t' ∧ Stands frame shape.cells t' := by
  obtain ⟨t', painted, image'⟩ := @paint_image D t frame [] shape image black
  refine ⟨t', ?_, _, image', valid, cells_paint _⟩
  rw [image.root]
  exact painted

theorem fixupInsertTurn_red {next : Ptr × Tree D}
    (image : Image t frame (plug (⟨turned, p, .red, dp, sibling⟩ :: ⟨side, g, .black, dg, uncle⟩ :: above) shape))
    (nonempty : shape ≠ leaf) (worked : fixupInsertAt side (ptr shape) t = some next) :
    fixupInsertTurn (ptr shape, t) = some (.again next) := by
  have imageP : Image t frame (plug (⟨side, g, .black, dg, uncle⟩ :: above) (join turned p .red shape dp sibling)) := image
  have inner : ptr shape ≠ t.root := fun atRoot => List.cons_ne_nil _ _ ((ptr_eq_root image).mp atRoot)
  have toP := parent_of_image image fun empty => absurd empty nonempty
  have atP := block_of_crumb image
  obtain ⟨q, toQ, sided⟩ := side_of_image imageP (.inl join_ne_leaf)
  rw [ptr_join] at sided
  simp only [fixupInsertTurn, Option.bind_eq_bind, inner, if_false, toP, up, Option.bind_some, color_block atP, ne_eq,
    not_true_eq_false, parent_block atP, toQ, sided, worked]
  rfl

theorem fixupInsertTurn_spec {cells : List (Nat × D)} (black : frame.nil.color = .black) (k : Nat)
    (state : Ptr × Tree D) (inserting : Inserting frame cells k state) :
    (∃ k' next, k' < k ∧ fixupInsertTurn state = some (.again next) ∧ Inserting frame cells k' next) ∨
      ∃ t', fixupInsertTurn state = some (.done t') ∧ Stands frame cells t' := by
  obtain ⟨x, t⟩ := state
  obtain ⟨crumbs, shape, n, rfl, here, red, image, hole, balanced, rfl⟩ := inserting
  dsimp only at here image
  subst here
  have nonempty : shape ≠ leaf := by
    rintro rfl
    cases red
  rcases crumbs with _ | ⟨⟨turned, p, color, dp, sibling⟩, above⟩
  · -- `x` is the root.
    right
    obtain ⟨t', painted, stands⟩ := Stands.paint_root image black ⟨color_paint_black, balanced.paint_black⟩
    refine ⟨t', ?_, stands⟩
    have atRoot : ptr shape = t.root := (ptr_eq_root image).mpr rfl
    simp [fixupInsertTurn, atRoot, painted]
  · rcases color with _ | _
    · -- The parent is black: nothing is wrong any more.
      right
      have valid := (hole.fits balanced fun _ => rfl).paint
      obtain ⟨t', painted, stands⟩ := Stands.paint_root image black valid
      refine ⟨t', ?_, stands⟩
      have inner : ptr shape ≠ t.root := fun atRoot => List.cons_ne_nil _ _ ((ptr_eq_root image).mp atRoot)
      have toP := parent_of_image image fun empty => absurd empty nonempty
      simp [fixupInsertTurn, inner, toP, up, color_block (block_of_crumb image), painted]
    · left
      obtain ⟨aboveBlack, siblingBlack, siblingBalanced, hole⟩ := hole
      rcases above with _ | ⟨⟨side, g, color, dg, uncle⟩, above⟩
      · cases aboveBlack
      cases aboveBlack
      obtain ⟨uncleBalanced, hole⟩ := hole
      by_cases uncleRed : uncle.color = .red
      · obtain ⟨t', worked, image'⟩ := fixupInsertAt_red image nonempty black uncleRed
        refine ⟨above.length, _, ?_, fixupInsertTurn_red image nonempty worked, above, _, n + 1, rfl, (ptr_join ..).symm, color_join ..,
          image', hole, ?_, ?_⟩
        · simp only [List.length_cons]
          omega
        · exact balanced_red.mpr ⟨color_join .., color_paint_black, balanced_black.mpr ⟨balanced, siblingBalanced⟩,
            uncleBalanced.paint_black_of_red uncleRed⟩
        · cases side <;> cases turned <;> simp [plug, cells_plug, join, cells]
      · rw [← Color.ne_black, not_not] at uncleRed
        rcases Side.eq_or_other side turned with rfl | rfl
        · obtain ⟨t', worked, image'⟩ := fixupInsertAt_outer image nonempty black uncleRed
          refine ⟨above.length + 1, _, ?_, fixupInsertTurn_red image nonempty worked,
            ⟨turned, p, .black, dp, join turned g .red sibling dg uncle⟩ :: above, shape, n, rfl, rfl, red, image', ⟨?_, hole⟩, balanced, ?_⟩
          · simp only [List.length_cons]
            omega
          · exact balanced_red.mpr ⟨siblingBlack, uncleRed, siblingBalanced, uncleBalanced⟩
          · cases turned <;> simp [plug, cells_plug, join, cells]
        · obtain ⟨x, near, dx, far, rfl⟩ := exists_join_red side red
          obtain ⟨nearBlack, farBlack, nearBalanced, farBalanced⟩ := balanced_red.mp balanced
          obtain ⟨t', worked, image'⟩ := fixupInsertAt_inner image black uncleRed
          rw [← @ptr_join D side x .red near far dx] at worked
          refine ⟨above.length + 1, _, ?_, fixupInsertTurn_red image nonempty worked,
            ⟨side, x, .black, dx, join side g .red far dg uncle⟩ :: above, join side p .red sibling dp near, n, rfl, (ptr_join ..).symm,
            color_join .., image', ⟨?_, hole⟩, ?_, ?_⟩
          · simp only [List.length_cons]
            omega
          · exact balanced_red.mpr ⟨farBlack, uncleRed, farBalanced, uncleBalanced⟩
          · exact balanced_red.mpr ⟨siblingBlack, nearBlack, siblingBalanced, nearBalanced⟩
          · cases side <;> simp [plug, cells_plug, join, cells, Side.other]

theorem fixupInsert_spec {crumbs : List (Crumb Nat D)} {x fuel : Nat} {dx : D}
    (image : Image t frame (plug crumbs (Shape.node x .red leaf dx leaf))) (black : frame.nil.color = .black)
    (valid : (plug crumbs leaf : Shape Nat D).Valid) (enough : crumbs.length < fuel) :
    ∃ t', t.fixupInsert fuel (.block x) = some t' ∧ Stands frame (plug crumbs (Shape.node x .red leaf dx leaf)).cells t' := by
  obtain ⟨n, hole, balanced, -⟩ := valid_plug.mp valid
  refine turns_of_variant (fixupInsertTurn_spec black) ?_ enough
  exact ⟨crumbs, _, n, rfl, rfl, rfl, image, hole, ⟨rfl, rfl, balanced, balanced⟩, rfl⟩

end Insert

section Remove

variable {side : Side} {p w : Nat} {color cw : Color} {dp dw : D} {shape inner outer : Shape Nat D}

theorem fixupRemoveRotate_image
    (image : Image t frame (plug (⟨side, p, color, dp, join side w cw inner dw outer⟩ :: above) shape))
    (hanging : shape = leaf → frame.nil.parent = .block p) (black : frame.nil.color = .black) :
    ∃ t', fixupRemoveRotate side (ptr shape) (.block w) t = some t' ∧
      Image t' frame (plug above (join side w color (join side p .black shape dp inner) dw (outer.paint .black))) := by
  have toP := parent_of_image image hanging
  have atP := block_of_crumb image
  obtain ⟨t₁, painted₁, image₁⟩ := setColor_image (plug_turn ▸ image) color
  have imageX₁ : Image t₁ frame (plug (⟨side, p, color, dp, join side w color inner dw outer⟩ :: above) shape) := by
    rwa [plug_turn]
  have imageP₁ : Image t₁ frame (plug above (join side p color shape dp (join side w color inner dw outer))) := imageX₁
  have toP₁ := parent_of_image imageX₁ hanging
  obtain ⟨t₂, painted₂, image₂⟩ := setColor_image imageP₁ .black
  have imageW₂ : Image t₂ frame (plug (⟨side.other, p, .black, dp, shape⟩ :: above) (join side w color inner dw outer)) := by
    rwa [← plug_turn]
  have atW₂ := block_of_image imageW₂
  have imageOuter₂ : Image t₂ frame
      (plug (⟨side.other, w, color, dw, inner⟩ :: ⟨side.other, p, .black, dp, shape⟩ :: above) outer) := by
    rwa [← plug_turn]
  obtain ⟨t₃, painted₃, image₃⟩ := paint_image imageOuter₂ black
  have imageP₃ : Image t₃ frame (plug above (join side p .black shape dp (join side w color inner dw (outer.paint .black)))) := by
    rw [← plug_turn] at image₃
    simpa only [plug, join_other] using image₃
  have imageX₃ : Image t₃ frame
      (plug (⟨side, p, .black, dp, join side w color inner dw (outer.paint .black)⟩ :: above) shape) := imageP₃
  have toP₃ := parent_of_image imageX₃ hanging
  obtain ⟨t₄, rotated, image₄⟩ := rotate_image imageP₃
  refine ⟨t₄, ?_, image₄⟩
  simp only [fixupRemoveRotate, Option.bind_eq_bind, Option.bind_some, toP, up, color_block atP, painted₁, toP₁, painted₂,
    child_block_other atW₂, painted₃, toP₃, rotated]

/-- Before a turn of `FixupRemove`: `x` lacks a black node, which it gets by
being painted when it is red. -/
def Removing (frame : Frame D) (cells : List (Nat × D)) (k : Nat) (state : Ptr × Tree D) : Prop :=
  ∃ crumbs shape n, k = crumbs.length + (if shape.color = .black then 1 else 0) ∧ state.1 = ptr shape ∧
    (shape = leaf → frame.nil.parent = up crumbs) ∧ Image state.2 frame (plug crumbs shape) ∧ Hole crumbs (n + 1) ∧
    (shape.color = .black ∧ shape.Balanced n ∨ shape.color = .red ∧ (shape.paint .black).Balanced (n + 1)) ∧
    (plug crumbs shape).cells = cells

theorem Removing.of_valid {whole : Shape Nat D} {cells : List (Nat × D)} (image : Image t frame whole)
    (valid : whole.Valid) (nonempty : whole ≠ leaf) (same : whole.cells = cells) :
    Removing frame cells 1 (t.root, t) := by
  obtain ⟨wholeBlack, n, balanced⟩ := valid
  refine ⟨[], whole, n, ?_, image.root, fun empty => absurd empty nonempty, image, trivial, .inl ⟨wholeBlack, balanced⟩, same⟩
  simp [wholeBlack]

theorem plug_ne_leaf {crumbs : List (Crumb Nat D)} (nonempty : shape ≠ leaf) : plug crumbs shape ≠ leaf := by
  induction crumbs generalizing shape with
  | nil => exact nonempty
  | cons c above ih => exact ih join_ne_leaf

theorem fixupRemoveBlack_spec {n : Nat}
    (image : Image t frame (plug (⟨side, p, color, dp, join side w .black inner dw outer⟩ :: above) shape))
    (hanging : shape = leaf → frame.nil.parent = .block p) (black : frame.nil.color = .black)
    (hole : Hole (⟨side, p, color, dp, join side w .black inner dw outer⟩ :: above) (n + 1))
    (balanced : shape.Balanced n) :
    ∃ k' next, fixupRemoveBlack side (ptr shape) (.block w) t = some next ∧
      k' ≤ above.length + (if color = .black then 1 else 0) ∧
      Removing frame (plug (⟨side, p, color, dp, join side w .black inner dw outer⟩ :: above) shape).cells k' next := by
  have toP := parent_of_image image hanging
  have imageW : Image t frame (plug (⟨side.other, p, color, dp, shape⟩ :: above) (join side w .black inner dw outer)) := by
    rwa [← plug_turn]
  have atW := block_of_image imageW
  have imageInner : Image t frame
      (plug (⟨side, w, .black, dw, outer⟩ :: ⟨side.other, p, color, dp, shape⟩ :: above) inner) := imageW
  have imageOuter : Image t frame
      (plug (⟨side.other, w, .black, dw, inner⟩ :: ⟨side.other, p, color, dp, shape⟩ :: above) outer) := by
    rwa [← plug_turn]
  have innerColor := color_of_image imageInner black
  have outerColor := color_of_image imageOuter black
  have siblingBalanced : inner.Balanced n ∧ outer.Balanced n := by
    cases color with
    | black => exact balanced_black.mp hole.1
    | red => exact balanced_black.mp hole.2.2.1
  -- Rotating at the parent always ends the loop, since there is a black node to give.
  have shorter : 1 ≤ above.length + (if color = .black then 1 else 0) := by
    cases color with
    | black => simp
    | red =>
      cases above with
      | nil => cases hole.1
      | cons => simp
  by_cases bothBlack : inner.color = .black ∧ outer.color = .black
  · -- The sibling is painted red, and the parent lacks a black node instead.
    obtain ⟨t₁, painted₁, image₁⟩ := setColor_image imageW .red
    have imageX₁ : Image t₁ frame (plug (⟨side, p, color, dp, join side w .red inner dw outer⟩ :: above) shape) := by
      rwa [plug_turn]
    have toP₁ := parent_of_image imageX₁ hanging
    have siblingRed : (join side w .red inner dw outer).Balanced n :=
      balanced_red.mpr ⟨bothBlack.1, bothBlack.2, siblingBalanced⟩
    have lifted : Hole above ((if color = .black then n + 1 else n) + 1) := by
      cases color with
      | black => exact hole.2
      | red => exact hole.2.2.2
    refine ⟨above.length + (if color = .black then 1 else 0), (.block p, t₁), ?_, Nat.le_refl _, above,
      join side p color shape dp (join side w .red inner dw outer), _, ?_, (ptr_join ..).symm, fun empty => absurd empty join_ne_leaf, imageX₁, lifted, ?_, ?_⟩
    · simp only [fixupRemoveBlack, Option.bind_eq_bind, Option.bind_some, child_block atW, child_block_other atW, innerColor,
        outerColor, bothBlack, and_self, if_true, painted₁, toP₁, up]
    · rw [color_join]
    · have both : (join side p .black shape dp (join side w .red inner dw outer)).Balanced (n + 1) :=
        balanced_black.mpr ⟨balanced, siblingRed⟩
      cases color with
      | black => exact .inl ⟨color_join .., both⟩
      | red =>
        refine .inr ⟨color_join .., ?_⟩
        rw [paint_join]
        exact both
    · cases side <;> simp [plug, cells_plug, join, cells]
  · by_cases outerBlack : outer.color = .black
    · -- The inner child is red: it comes up in place of the sibling.
      have innerRed : inner.color = .red := Color.ne_black.mp fun innerBlack => bothBlack ⟨innerBlack, outerBlack⟩
      obtain ⟨i, innermost, di, rest, rfl⟩ := exists_join_red side innerRed
      obtain ⟨innermostBlack, restBlack, innermostBalanced, restBalanced⟩ := balanced_red.mp siblingBalanced.1
      obtain ⟨t₁, painted₁, image₁⟩ := setColor_image imageInner .black
      obtain ⟨t₂, painted₂, image₂⟩ :=
        @setColor_image D t₁ frame (⟨side.other, p, color, dp, shape⟩ :: above) side w .black _ outer dw image₁ .red
      have imageW₂ : Image t₂ frame (plug (⟨side.other, p, color, dp, shape⟩ :: above)
          (join side.other w .red outer dw (join side.other i .black rest di innermost))) := by
        simpa only [join_other] using image₂
      obtain ⟨t₃, rotated₃, image₃⟩ := rotate_image imageW₂
      have imageX₃ : Image t₃ frame (plug (⟨side, p, color, dp,
          join side i .black innermost di (join side w .red rest dw outer)⟩ :: above) shape) := by
        rw [plug_turn]
        simpa only [join_other] using image₃
      have toP₃ := parent_of_image imageX₃ hanging
      have atP₃ := block_of_crumb imageX₃
      obtain ⟨t₄, rotated₄, image₄⟩ := fixupRemoveRotate_image imageX₃ hanging black
      rw [paint_join] at image₄
      have valid : (plug above (join side i color (join side p .black shape dp innermost) di
          (join side w .black rest dw outer))).Valid :=
        hole.put (color_join ..) (color_join ..) (balanced_black.mpr ⟨balanced, innermostBalanced⟩)
          (balanced_black.mpr ⟨restBalanced, siblingBalanced.2⟩)
      refine ⟨1, (t₄.root, t₄), ?_, shorter, Removing.of_valid image₄ valid (plug_ne_leaf join_ne_leaf) ?_⟩
      · rw [ptr_join, color_join] at innerColor
        simp only [fixupRemoveBlack, Option.bind_eq_bind, Option.bind_some, child_block atW, child_block_other atW, ptr_join,
          innerColor, outerColor, reduceCtorEq, false_and, outerBlack, if_false, if_true, painted₁, painted₂, rotated₃, toP₃,
          up, child_block_other atP₃, rotated₄]
      · cases side <;> simp [plug, cells_plug, join, cells]
    · -- The outer child is red.
      obtain ⟨t₁, rotated₁, image₁⟩ := fixupRemoveRotate_image image hanging black
      have outerRed : outer.color = .red := Color.ne_black.mp outerBlack
      have valid : (plug above (join side w color (join side p .black shape dp inner) dw (outer.paint .black))).Valid :=
        hole.put (color_join ..) color_paint_black (balanced_black.mpr ⟨balanced, siblingBalanced.1⟩)
          (siblingBalanced.2.paint_black_of_red outerRed)
      refine ⟨1, (t₁.root, t₁), ?_, shorter, Removing.of_valid image₁ valid (plug_ne_leaf join_ne_leaf) ?_⟩
      · simp only [fixupRemoveBlack, Option.bind_eq_bind, Option.bind_some, child_block atW, child_block_other atW, innerColor,
          outerColor, outerBlack, and_false, if_false, rotated₁]
      · cases side <;> simp [plug, cells_plug, join, cells]

theorem fixupRemoveAt_spec {sibling : Shape Nat D} {n : Nat}
    (image : Image t frame (plug (⟨side, p, color, dp, sibling⟩ :: above) shape))
    (hanging : shape = leaf → frame.nil.parent = .block p) (black : frame.nil.color = .black)
    (hole : Hole (⟨side, p, color, dp, sibling⟩ :: above) (n + 1)) (balanced : shape.Balanced n) :
    ∃ k' next, k' < above.length + 2 ∧ fixupRemoveAt side (ptr shape) t = some next ∧
      Removing frame (plug (⟨side, p, color, dp, sibling⟩ :: above) shape).cells k' next := by
  have toP := parent_of_image image hanging
  have atP := block_of_crumb image
  have siblingColor := color_of_image (plug_turn ▸ image) black
  -- A red sibling is rotated up first, which makes the new sibling black.
  by_cases siblingBlack : sibling.color = .black
  · have siblingBalanced : sibling.Balanced (n + 1) := by
      cases color with
      | black => exact hole.1
      | red => exact hole.2.2.1
    obtain ⟨w, inner, dw, outer, rfl, -, -⟩ := siblingBalanced.exists_join_black side siblingBlack
    obtain ⟨k', next, worked, smaller, removing⟩ := fixupRemoveBlack_spec image hanging black hole balanced
    refine ⟨k', next, by split at smaller <;> omega, ?_, removing⟩
    rw [ptr_join, color_join] at siblingColor
    simp only [fixupRemoveAt, Option.bind_eq_bind, Option.bind_some, toP, up, child_block_other atP, ptr_join, siblingColor,
      reduceCtorEq, if_false, worked]
  · have siblingRed : sibling.color = .red := Color.ne_black.mp siblingBlack
    cases color with
    | red => exact absurd hole.2.1 siblingBlack
    | black =>
      obtain ⟨w, inner, dw, outer, rfl⟩ := exists_join_red side siblingRed
      obtain ⟨siblingBalanced, hole'⟩ := hole
      obtain ⟨innerBlack, outerBlack, innerBalanced, outerBalanced⟩ := balanced_red.mp siblingBalanced
      obtain ⟨t₁, painted₁, image₁⟩ := setColor_image (plug_turn ▸ image) .black
      have imageX₁ : Image t₁ frame (plug (⟨side, p, .black, dp, join side w .black inner dw outer⟩ :: above) shape) := by
        rwa [plug_turn]
      have imageP₁ : Image t₁ frame (plug above (join side p .black shape dp (join side w .black inner dw outer))) := imageX₁
      have toP₁ := parent_of_image imageX₁ hanging
      obtain ⟨t₂, painted₂, image₂⟩ := setColor_image imageP₁ .red
      have imageX₂ : Image t₂ frame (plug (⟨side, p, .red, dp, join side w .black inner dw outer⟩ :: above) shape) := image₂
      have toP₂ := parent_of_image imageX₂ hanging
      obtain ⟨t₃, rotated, image₃⟩ := rotate_image image₂
      have imageX₃ : Image t₃ frame (plug (⟨side, p, .red, dp, inner⟩ :: ⟨side, w, .black, dw, outer⟩ :: above) shape) := image₃
      have toP₃ := parent_of_image imageX₃ hanging
      have atP₃ := block_of_crumb imageX₃
      have hole₃ : Hole (⟨side, p, .red, dp, inner⟩ :: ⟨side, w, .black, dw, outer⟩ :: above) (n + 1) :=
        ⟨rfl, innerBlack, innerBalanced, outerBalanced, hole'⟩
      obtain ⟨i, innermost, di, rest, rfl, -, -⟩ := innerBalanced.exists_join_black side innerBlack
      obtain ⟨k', next, worked, smaller, removing⟩ := fixupRemoveBlack_spec imageX₃ hanging black hole₃ balanced
      refine ⟨k', next, ?_, ?_, ?_⟩
      · simp only [reduceCtorEq, if_false, List.length_cons] at smaller
        omega
      · rw [ptr_join, color_join] at siblingColor
        simp only [fixupRemoveAt, Option.bind_eq_bind, Option.bind_some, toP, up, child_block_other atP, ptr_join, siblingColor,
          if_true, painted₁, toP₁, painted₂, toP₂, rotated, toP₃, child_block_other atP₃, worked]
      · have same : (plug (⟨side, p, .red, dp, join side i .black innermost di rest⟩ :: ⟨side, w, .black, dw, outer⟩ :: above)
            shape).cells = (plug (⟨side, p, .black, dp, join side w .red (join side i .black innermost di rest) dw outer⟩ :: above)
            shape).cells := by
          cases side <;> simp [plug, cells_plug, join, cells]
        rw [← same]
        exact removing

theorem fixupRemoveTurn_spec {cells : List (Nat × D)} (black : frame.nil.color = .black) (k : Nat)
    (state : Ptr × Tree D) (removing : Removing frame cells k state) :
    (∃ k' next, k' < k ∧ fixupRemoveTurn state = some (.again next) ∧ Removing frame cells k' next) ∨
      ∃ t', fixupRemoveTurn state = some (.done t') ∧ Stands frame cells t' := by
  obtain ⟨x, t⟩ := state
  obtain ⟨crumbs, shape, n, rfl, here, hanging, image, hole, lacks, rfl⟩ := removing
  dsimp only at here image
  subst here
  obtain ⟨t', painted, image'⟩ := paint_image image black
  rcases crumbs with _ | ⟨⟨side, p, color, dp, sibling⟩, above⟩
  · -- `x` is the root.
    right
    have atRoot : ptr shape = t.root := (ptr_eq_root image).mpr rfl
    have valid : (shape.paint .black).Valid := by
      rcases lacks with ⟨-, balanced⟩ | ⟨-, balanced⟩
      · exact ⟨color_paint_black, balanced.paint_black⟩
      · exact ⟨color_paint_black, _, balanced⟩
    refine ⟨t', ?_, _, image', valid, cells_paint _⟩
    rw [atRoot] at painted
    simp [fixupRemoveTurn, atRoot, painted]
  · have inner : ptr shape ≠ t.root := fun atRoot => List.cons_ne_nil _ _ ((ptr_eq_root image).mp atRoot)
    have shapeColor := color_of_image image black
    rcases lacks with ⟨shapeBlack, balanced⟩ | ⟨shapeRed, balanced⟩
    · left
      have siblingNonempty : sibling ≠ leaf := by
        rintro rfl
        cases color with
        | black => cases hole.1
        | red => cases hole.2.2.1
      obtain ⟨q, toQ, sided⟩ := side_of_image image (.inr siblingNonempty)
      obtain ⟨k', next, smaller, worked, removing⟩ := fixupRemoveAt_spec image hanging black hole balanced
      refine ⟨k', next, ?_, ?_, removing⟩
      · simp only [shapeBlack, if_true, List.length_cons]
        omega
      · have toP := parent_of_image image hanging
        rw [shapeBlack] at shapeColor
        simp only [fixupRemoveTurn, Option.bind_eq_bind, inner, if_false, shapeColor, Option.bind_some, ne_eq,
          not_true_eq_false, toP, up, toQ, sided, worked]
        rfl
    · -- A red `x` is painted black.
      right
      refine ⟨t', ?_, _, image', hole.fits balanced fun red => ?_, ?_⟩
      · rw [shapeRed] at shapeColor
        simp [fixupRemoveTurn, inner, shapeColor, painted]
      · rw [color_paint_black] at red
        cases red
      · simp only [cells_plug, cells_paint]

theorem fixupRemove_spec {crumbs : List (Crumb Nat D)} {n fuel : Nat} (image : Image t frame (plug crumbs shape))
    (hanging : shape = leaf → frame.nil.parent = up crumbs) (black : frame.nil.color = .black) (hole : Hole crumbs (n + 1))
    (balanced : shape.Balanced n) (enough : crumbs.length + 1 < fuel) :
    ∃ t', t.fixupRemove fuel (ptr shape) = some t' ∧ Stands frame (plug crumbs shape).cells t' := by
  have bounded : crumbs.length + (if shape.color = .black then 1 else 0) < fuel := by split <;> omega
  refine turns_of_variant (fixupRemoveTurn_spec black) ?_ bounded
  refine ⟨crumbs, shape, n, rfl, rfl, hanging, image, hole, ?_, rfl⟩
  by_cases shapeBlack : shape.color = .black
  · exact .inl ⟨shapeBlack, balanced⟩
  · have red := Color.ne_black.mp shapeBlack
    exact .inr ⟨red, balanced.paint_black_of_red red⟩

end Remove

end OpenDiameter.RbTree.Tree
