import Mathlib.Data.List.Nodup
import Mathlib.Data.List.Pairwise
import Mathlib.Order.Lattice

/-! Red-black trees with named nodes, and the contexts of their subtrees.

A tree is taken apart at a subtree: `plug` puts the subtree back under the
crumbs that lead up from it. The invariant is taken apart in the same way, so
that rebalancing is a matter of the few nodes around the subtree. Left and right
are a parameter: whatever is said about one side is said about both.
-/

set_option autoImplicit false

namespace Foundation.RedBlack

inductive Side where
  | left
  | right
  deriving DecidableEq, Repr

def Side.other : Side → Side
  | .left => .right
  | .right => .left

@[simp] theorem Side.other_other (side : Side) : side.other.other = side := by cases side <;> rfl

@[simp] theorem Side.other_ne (side : Side) : side.other ≠ side := by cases side <;> decide

@[simp] theorem Side.ne_other (side : Side) : side ≠ side.other := by cases side <;> decide

theorem Side.eq_or_other (side here : Side) : here = side ∨ here = side.other := by
  cases side <;> cases here <;> decide

inductive Color where
  | black
  | red
  deriving DecidableEq, Repr

@[simp] theorem Color.ne_red {color : Color} : color ≠ .red ↔ color = .black := by cases color <;> decide

@[simp] theorem Color.ne_black {color : Color} : color ≠ .black ↔ color = .red := by
  cases color <;> decide

inductive Shape (ι D : Type) where
  | leaf
  | node (name : ι) (color : Color) (left : Shape ι D) (data : D) (right : Shape ι D)
  deriving DecidableEq, Repr

/-- A node on the way up from a subtree, with its other subtree. -/
structure Crumb (ι D : Type) where
  side : Side
  name : ι
  color : Color
  data : D
  other : Shape ι D

variable {ι D : Type}

namespace Shape

def color : Shape ι D → Color
  | leaf => .black
  | node _ color _ _ _ => color

def paint (color : Color) : Shape ι D → Shape ι D
  | leaf => leaf
  | node name _ left data right => node name color left data right

def join : Side → ι → Color → Shape ι D → D → Shape ι D → Shape ι D
  | .left, name, color, near, data, far => node name color near data far
  | .right, name, color, near, data, far => node name color far data near

def cells : Shape ι D → List (ι × D)
  | leaf => []
  | node name _ left data right => left.cells ++ (name, data) :: right.cells

def names (t : Shape ι D) : List ι := t.cells.map Prod.fst

def elements (t : Shape ι D) : List D := t.cells.map Prod.snd

def size (t : Shape ι D) : Nat := t.cells.length

def Balanced : Shape ι D → Nat → Prop
  | leaf, n => n = 0
  | node _ .red left _ right, n =>
    left.color = .black ∧ right.color = .black ∧ left.Balanced n ∧ right.Balanced n
  | node _ .black _ _ _, 0 => False
  | node _ .black left _ right, n + 1 => left.Balanced n ∧ right.Balanced n

def Valid (t : Shape ι D) : Prop := t.color = .black ∧ ∃ n, t.Balanced n

def plug : List (Crumb ι D) → Shape ι D → Shape ι D
  | [], t => t
  | c :: above, t => plug above (join c.side c.name c.color t c.data c.other)

end Shape

open Shape

def before : List (Crumb ι D) → List (ι × D)
  | [] => []
  | c :: above =>
    match c.side with
    | .left => before above
    | .right => before above ++ (c.other.cells ++ [(c.name, c.data)])

def after : List (Crumb ι D) → List (ι × D)
  | [] => []
  | c :: above =>
    match c.side with
    | .left => (c.name, c.data) :: c.other.cells ++ after above
    | .right => after above

def crumbNames : List (Crumb ι D) → List ι
  | [] => []
  | c :: above => c.name :: c.other.names ++ crumbNames above

/-- The colour above a subtree; the root counts as under a red node. -/
def edge : List (Crumb ι D) → Color
  | [] => .red
  | c :: _ => c.color

/-- The crumbs make a red-black tree of a subtree with so many black nodes on
every path, but for the colours where the two meet. -/
def Hole : List (Crumb ι D) → Nat → Prop
  | [], _ => True
  | ⟨_, _, .red, _, other⟩ :: above, n =>
    edge above = .black ∧ other.color = .black ∧ other.Balanced n ∧ Hole above n
  | ⟨_, _, .black, _, other⟩ :: above, n => other.Balanced n ∧ Hole above (n + 1)

section Joining

variable {side : Side} {name : ι} {color : Color} {near far : Shape ι D} {data : D}

@[simp] theorem color_join : (join side name color near data far).color = color := by
  cases side <;> rfl

@[simp] theorem join_ne_leaf : join side name color near data far ≠ leaf := by
  cases side <;> exact fun same => Shape.noConfusion rfl rfl (heq_of_eq same)

@[simp] theorem paint_join (other : Color) :
    (join side name color near data far).paint other = join side name other near data far := by
  cases side <;> rfl

theorem join_other : join side.other name color near data far = join side name color far data near := by
  cases side <;> rfl

@[simp] theorem mem_names_join {m : ι} :
    m ∈ (join side name color near data far).names ↔ m = name ∨ m ∈ near.names ∨ m ∈ far.names := by
  cases side
  · simp only [join, names, cells, List.map_append, List.map_cons, List.mem_append, List.mem_cons]
    tauto
  · simp only [join, names, cells, List.map_append, List.map_cons, List.mem_append, List.mem_cons]
    tauto

theorem nodup_join :
    (join side name color near data far).names.Nodup ↔
      name ∉ near.names ∧ name ∉ far.names ∧ near.names.Nodup ∧ far.names.Nodup ∧
        near.names.Disjoint far.names := by
  cases side
  · simp only [join, names, cells, List.map_append, List.map_cons, List.nodup_append', List.nodup_cons,
      List.disjoint_cons_right]
    tauto
  · simp only [join, names, cells, List.map_append, List.map_cons, List.nodup_append', List.nodup_cons,
      List.disjoint_cons_right]
    rw [@List.disjoint_comm _ (far.cells.map Prod.fst)]
    tauto

@[simp] theorem balanced_red {n : Nat} :
    (join side name .red near data far).Balanced n ↔
      near.color = .black ∧ far.color = .black ∧ near.Balanced n ∧ far.Balanced n := by
  cases side
  · rfl
  · exact ⟨fun ⟨a, b, c, d⟩ => ⟨b, a, d, c⟩, fun ⟨a, b, c, d⟩ => ⟨b, a, d, c⟩⟩

@[simp] theorem balanced_black {n : Nat} :
    (join side name .black near data far).Balanced (n + 1) ↔ near.Balanced n ∧ far.Balanced n := by
  cases side
  · rfl
  · exact and_comm

theorem not_balanced_black : ¬(join side name .black near data far).Balanced 0 := by
  cases side <;> exact id

end Joining

section Invariant

variable {t : Shape ι D} {n : Nat}

@[simp] theorem balanced_leaf : (leaf : Shape ι D).Balanced n ↔ n = 0 := Iff.rfl

theorem exists_join (side : Side) (nonempty : t ≠ leaf) :
    ∃ name color near data far, t = join side name color near data far := by
  cases t with
  | leaf => exact absurd rfl nonempty
  | node name color left data right =>
    cases side with
    | left => exact ⟨name, color, left, data, right, rfl⟩
    | right => exact ⟨name, color, right, data, left, rfl⟩

theorem exists_join_red (side : Side) (red : t.color = .red) :
    ∃ name near data far, t = join side name .red near data far := by
  have nonempty : t ≠ leaf := by
    rintro rfl
    cases red
  obtain ⟨name, color, near, data, far, rfl⟩ := exists_join side nonempty
  rw [color_join] at red
  subst red
  exact ⟨name, near, data, far, rfl⟩

theorem Shape.Balanced.exists_join_black (side : Side) (balanced : t.Balanced (n + 1)) (black : t.color = .black) :
    ∃ name near data far, t = join side name .black near data far ∧ near.Balanced n ∧ far.Balanced n := by
  have nonempty : t ≠ leaf := by
    rintro rfl
    cases balanced
  obtain ⟨name, color, near, data, far, rfl⟩ := exists_join side nonempty
  rw [color_join] at black
  subst black
  exact ⟨name, near, data, far, rfl, balanced_black.mp balanced⟩

theorem Shape.Balanced.paint_black (balanced : t.Balanced n) : ∃ m, (t.paint .black).Balanced m := by
  cases t with
  | leaf => exact ⟨n, balanced⟩
  | node name color left data right =>
    cases color with
    | black => exact ⟨n, balanced⟩
    | red => exact ⟨n + 1, balanced.2.2.1, balanced.2.2.2⟩

theorem Shape.Balanced.paint_black_of_red (balanced : t.Balanced n) (red : t.color = .red) :
    (t.paint .black).Balanced (n + 1) := by
  obtain ⟨name, near, data, far, rfl⟩ := exists_join_red .left red
  rw [paint_join]
  exact balanced_black.mpr (balanced_red.mp balanced).2.2

@[simp] theorem color_paint_black : (t.paint .black).color = .black := by cases t <;> rfl

@[simp] theorem cells_paint (color : Color) : (t.paint color).cells = t.cells := by cases t <;> rfl

theorem valid_plug {crumbs : List (Crumb ι D)} :
    (plug crumbs t).Valid ↔
      ∃ n, Hole crumbs n ∧ t.Balanced n ∧ (t.color = .red → edge crumbs = .black) := by
  induction crumbs generalizing t with
  | nil =>
    constructor
    · rintro ⟨black, n, balanced⟩
      exact ⟨n, trivial, balanced, fun red => by cases black.symm.trans red⟩
    · rintro ⟨n, -, balanced, fits⟩
      refine ⟨?_, n, balanced⟩
      by_contra red
      exact absurd (fits (Color.ne_black.mp red)) (by simp [edge])
  | cons c above ih =>
    obtain ⟨side, name, color, data, other⟩ := c
    refine Iff.trans ih ?_
    cases color with
    | red =>
      simp only [color_join, balanced_red, forall_const, Hole, edge]
      constructor
      · rintro ⟨n, hole, ⟨black, black', balanced, balanced'⟩, above⟩
        exact ⟨n, ⟨above, black', balanced', hole⟩, balanced, fun red => by cases black.symm.trans red⟩
      · rintro ⟨n, ⟨above, black', balanced', hole⟩, balanced, fits⟩
        refine ⟨n, hole, ⟨?_, black', balanced, balanced'⟩, above⟩
        by_contra red
        cases fits (Color.ne_black.mp red)
    | black =>
      simp only [color_join, Hole, edge]
      constructor
      · rintro ⟨n, hole, balanced, -⟩
        cases n with
        | zero => exact absurd balanced not_balanced_black
        | succ n =>
          have both := balanced_black.mp balanced
          exact ⟨n, ⟨both.2, hole⟩, both.1, fun _ => trivial⟩
      · rintro ⟨n, ⟨balanced', hole⟩, balanced, -⟩
        exact ⟨n + 1, hole, balanced_black.mpr ⟨balanced, balanced'⟩, by simp⟩

theorem Shape.Valid.paint (valid : t.Valid) : (t.paint .black).Valid :=
  ⟨color_paint_black, valid.2.choose_spec.paint_black⟩

theorem Hole.fits {crumbs : List (Crumb ι D)} (hole : Hole crumbs n) (balanced : t.Balanced n)
    (fits : t.color = .red → edge crumbs = .black) : (plug crumbs t).Valid :=
  valid_plug.mpr ⟨n, hole, balanced, fits⟩

theorem Hole.put {c : Crumb ι D} {above : List (Crumb ι D)} {side : Side} {name : ι} {data : D} {near far : Shape ι D}
    (hole : Hole (c :: above) n) (nearBlack : near.color = .black) (farBlack : far.color = .black)
    (nearBalanced : near.Balanced n) (farBalanced : far.Balanced n) :
    (plug above (join side name c.color near data far)).Valid := by
  obtain ⟨turned, own, color, stored, other⟩ := c
  cases color with
  | black => exact hole.2.fits (balanced_black.mpr ⟨nearBalanced, farBalanced⟩) fun red => by simp at red
  | red =>
    exact hole.2.2.2.fits (balanced_red.mpr ⟨nearBlack, farBlack, nearBalanced, farBalanced⟩) fun _ => hole.1

theorem Hole.set_data {inner above : List (Crumb ι D)} {c : Crumb ι D} {data : D}
    (hole : Hole (inner ++ c :: above) n) : Hole (inner ++ { c with data } :: above) n := by
  induction inner generalizing n with
  | nil =>
    obtain ⟨side, name, color, own, other⟩ := c
    cases color <;> exact hole
  | cons first inner ih =>
    obtain ⟨side, name, color, own, other⟩ := first
    cases color with
    | black => exact ⟨hole.1, ih hole.2⟩
    | red =>
      have same : edge (inner ++ { c with data } :: above) = edge (inner ++ c :: above) := by
        cases inner <;> rfl
      exact ⟨same.trans hole.1, hole.2.1, hole.2.2.1, ih hole.2.2.2⟩

end Invariant

section Plugging

variable {t : Shape ι D} {crumbs : List (Crumb ι D)}

theorem cells_plug : (plug crumbs t).cells = before crumbs ++ t.cells ++ after crumbs := by
  induction crumbs generalizing t with
  | nil => simp [plug, before, after]
  | cons c above ih =>
    obtain ⟨side, name, color, data, other⟩ := c
    cases side <;> simp [plug, ih, before, after, join, cells]

theorem size_join {side : Side} {name : ι} {color : Color} {near far : Shape ι D} {data : D} :
    (join side name color near data far).size = near.size + far.size + 1 := by
  cases side <;> simp only [size, join, cells, List.length_append, List.length_cons] <;> omega

theorem length_le_size : crumbs.length + t.size ≤ (plug crumbs t).size := by
  induction crumbs generalizing t with
  | nil => simp [plug]
  | cons c above ih =>
    have step := @ih (join c.side c.name c.color t c.data c.other)
    rw [size_join] at step
    simp only [plug, List.length_cons]
    omega

theorem plug_append (inner above : List (Crumb ι D)) : plug (inner ++ above) t = plug above (plug inner t) := by
  induction inner generalizing t with
  | nil => rfl
  | cons c inner ih => exact ih

@[simp] theorem mem_names_plug {m : ι} : m ∈ (plug crumbs t).names ↔ m ∈ t.names ∨ m ∈ crumbNames crumbs := by
  induction crumbs generalizing t with
  | nil => simp [plug, crumbNames]
  | cons c above ih =>
    simp only [plug, ih, mem_names_join, crumbNames, List.mem_append, List.mem_cons]
    tauto

theorem nodup_plug :
    (plug crumbs t).names.Nodup ↔
      t.names.Nodup ∧ (crumbNames crumbs).Nodup ∧ t.names.Disjoint (crumbNames crumbs) := by
  induction crumbs generalizing t with
  | nil => simp [plug, crumbNames]
  | cons c above ih =>
    simp only [plug, ih, nodup_join, crumbNames, List.cons_append, List.nodup_cons, List.nodup_append',
      List.mem_append, not_or, List.disjoint_cons_right, List.disjoint_append_right]
    constructor
    · rintro ⟨⟨a, b, e, f, g⟩, h, apart⟩
      have own : c.name ∉ crumbNames above := apart (by simp)
      have near : t.names.Disjoint (crumbNames above) := fun m inside => apart (by simp [inside])
      have far : c.other.names.Disjoint (crumbNames above) := fun m inside => apart (by simp [inside])
      exact ⟨e, ⟨⟨b, own⟩, f, h, far⟩, a, g, near⟩
    · rintro ⟨e, ⟨⟨b, own⟩, f, h, far⟩, a, g, near⟩
      refine ⟨⟨a, b, e, f, g⟩, h, fun m inside => ?_⟩
      rcases mem_names_join.mp inside with rfl | inside | inside
      · exact own
      · exact near inside
      · exact far inside

end Plugging

section Searching

variable {K : Type} [LinearOrder K] (key : D → K)

def Ascending (data : List D) : Prop := data.Pairwise fun a b => key a < key b

/-- The way down to a subtree in which a key is looked for. -/
structure Path (whole : Shape ι D) (k : K) (crumbs : List (Crumb ι D)) (t : Shape ι D) : Prop where
  whole : plug crumbs t = whole
  before : ∀ c ∈ before crumbs, key c.2 < k
  after : ∀ c ∈ after crumbs, k < key c.2

variable {key} {whole left right : Shape ι D} {k : K} {crumbs : List (Crumb ι D)} {name : ι} {color : Color} {data : D}

theorem elements_plug (t : Shape ι D) :
    (plug crumbs t).elements = (RedBlack.before crumbs).map Prod.snd ++ t.elements ++ (RedBlack.after crumbs).map Prod.snd := by
  simp only [elements, cells_plug, List.map_append]

theorem elements_node : (node name color left data right).elements = left.elements ++ data :: right.elements := by
  simp [elements, cells]

theorem mem_elements {c : ι × D} {t : Shape ι D} (inside : c ∈ t.cells) : c.2 ∈ t.elements := List.mem_map_of_mem inside

/-- The subtrees of a search tree keep to their sides. -/
theorem ascending_around (ascending : Ascending key (plug crumbs (node name color left data right)).elements) :
    (∀ d ∈ left.elements, key d < key data) ∧ ∀ d ∈ right.elements, key data < key d := by
  rw [elements_plug, elements_node] at ascending
  have inner := (List.pairwise_append.mp (List.pairwise_append.mp ascending).1).2.1
  obtain ⟨-, atNode, apart⟩ := List.pairwise_append.mp inner
  exact ⟨fun d inside => apart d inside data List.mem_cons_self, (List.pairwise_cons.mp atNode).1⟩

namespace Path

theorem start : Path key whole k [] whole := ⟨rfl, List.forall_mem_nil _, List.forall_mem_nil _⟩

variable (path : Path key whole k crumbs (node name color left data right)) (ascending : Ascending key whole.elements)
include path ascending

theorem down_left (less : k < key data) : Path key whole k (⟨.left, name, color, data, right⟩ :: crumbs) left := by
  refine ⟨path.whole, path.before, fun c inside => ?_⟩
  rw [← path.whole] at ascending
  simp only [RedBlack.after, List.cons_append, List.mem_cons, List.mem_append] at inside
  rcases inside with rfl | inside | inside
  · exact less
  · exact lt_trans less ((ascending_around ascending).2 _ (mem_elements inside))
  · exact path.after c inside

theorem down_right (greater : key data < k) : Path key whole k (⟨.right, name, color, data, left⟩ :: crumbs) right := by
  refine ⟨path.whole, fun c inside => ?_, path.after⟩
  rw [← path.whole] at ascending
  simp only [RedBlack.before, List.mem_append, List.mem_singleton] at inside
  rcases inside with inside | inside | rfl
  · exact path.before c inside
  · exact lt_trans ((ascending_around ascending).1 _ (mem_elements inside)) greater
  · exact greater

end Path

theorem Path.absent (path : Path key whole k crumbs leaf) {d : D} (inside : d ∈ whole.elements) : key d ≠ k := by
  rw [← path.whole, elements_plug] at inside
  simp only [elements, cells, List.map_nil, List.append_nil, List.mem_append, List.mem_map] at inside
  rcases inside with ⟨c, placed, rfl⟩ | ⟨c, placed, rfl⟩
  · exact ne_of_lt (path.before c placed)
  · exact ne_of_gt (path.after c placed)

theorem Path.turns {side : Side} (path : Path key whole k (⟨side, name, color, data, right⟩ :: crumbs) left) :
    (side = .left → k < key data) ∧ (side = .right → key data < k) := by
  constructor
  · rintro rfl
    exact path.after (name, data) (by simp [RedBlack.after])
  · rintro rfl
    exact path.before (name, data) (by simp [RedBlack.before])

theorem ascending_insert {pre post : List D} (ascending : Ascending key (pre ++ post)) (before : ∀ d ∈ pre, key d < key data)
    (after : ∀ d ∈ post, key data < key d) : Ascending key (pre ++ data :: post) := by
  obtain ⟨first, second, apart⟩ := List.pairwise_append.mp ascending
  refine List.pairwise_append.mpr ⟨first, List.pairwise_cons.mpr ⟨after, second⟩, fun a insideA b insideB => ?_⟩
  rcases List.mem_cons.mp insideB with rfl | insideB
  · exact before a insideA
  · exact apart a insideA b insideB

theorem Ascending.unique {list : List D} (ascending : Ascending key list) {a b : D} (insideA : a ∈ list) (insideB : b ∈ list)
    (same : key a = key b) : a = b := by
  induction list with
  | nil => exact absurd insideA List.not_mem_nil
  | cons least rest ih =>
    obtain ⟨less, ascending⟩ := List.pairwise_cons.mp ascending
    rcases List.mem_cons.mp insideA with rfl | laterA
    · rcases List.mem_cons.mp insideB with rfl | laterB
      · rfl
      · exact absurd same (ne_of_lt (less b laterB))
    · rcases List.mem_cons.mp insideB with rfl | laterB
      · exact absurd same (ne_of_gt (less a laterA))
      · exact ih ascending laterA laterB

end Searching

end Foundation.RedBlack
