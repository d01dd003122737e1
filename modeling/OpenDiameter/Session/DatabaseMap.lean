import OpenDiameter.Session.Database

/-! When the session database is a finite map of session ids.

It is one as long as the comparison of the nodes orders the pairs of strings in
use, and a generated counter is not one that the node already has.
-/

set_option autoImplicit false

namespace OpenDiameter.Session

open Foundation OpenDiameter.RbTree Foundation.RedBlack

variable {J : Type}

section Calls

/-- A call, with the time of day and the memory that a new node would get. -/
inductive Call (J : Type) where
  | add (id : SessionId) (data : J) (now : Counter) (object block : Nat)
  | lookup (id : SessionId)
  | remove (id : SessionId)
  deriving DecidableEq, Repr

def Call.id : Call J → SessionId
  | .add id _ _ _ _ => id
  | .lookup id => id
  | .remove id => id

inductive Answer (J : Type) where
  | added (ok : Bool) (id : SessionId)
  | found (data : Option J)
  | removed (ok : Bool)
  deriving DecidableEq, Repr

namespace Database

variable (fuel : Nat)

def call (db : Database J) : Call J → Option (Answer J × Database J)
  | .add id data now object block =>
    (db.add fuel id data now object block).map fun (ok, id, db) => (.added ok id, db)
  | .lookup id => (db.lookup fuel id).map fun data => (.found data, db)
  | .remove id => (db.remove fuel id).map fun (ok, db) => (.removed ok, db)

def run (db : Database J) : List (Call J) → Option (List (Answer J))
  | [] => some []
  | c :: calls => do
    let (answer, db) ← db.call fuel c
    return answer :: (← run db calls)

/-- Memory for a new node is not in use, and a second has a million microseconds. -/
def Supplied (db : Database J) : Call J → Prop
  | .add _ _ now object block => db.lists object = none ∧ db.tree.blocks block = none ∧ now.low < 1000000
  | _ => True

def Holds (db : Database J) (e : EntryNode) : Prop := ∃ block node, db.tree.blocks block = some node ∧ node.data = some e

end Database

inductive MapStep : (SessionId → Option J) → Call J → Answer J → (SessionId → Option J) → Prop where
  | added {content : SessionId → Option J} {id : SessionId} {data : J} {now : Counter} {object block : Nat} :
      id.toCounter ≠ .null → content id = none →
      MapStep content (.add id data now object block) (.added true id) (Function.update content id (some data))
  | refused {content : SessionId → Option J} {id : SessionId} {data stored : J} {now : Counter} {object block : Nat} :
      id.toCounter ≠ .null → content id = some stored →
      MapStep content (.add id data now object block) (.added false id) content
  | generated {content : SessionId → Option J} {id : SessionId} {counter : Counter} {data : J} {now : Counter}
      {object block : Nat} : id.toCounter = .null → content { id with toCounter := counter } = none →
      MapStep content (.add id data now object block) (.added true { id with toCounter := counter })
        (Function.update content { id with toCounter := counter } (some data))
  | lookup {content : SessionId → Option J} {id : SessionId} :
      MapStep content (.lookup id) (.found (content id)) content
  | removed {content : SessionId → Option J} {id : SessionId} :
      MapStep content (.remove id) (.removed (content id).isSome) (Function.update content id none)

inductive Follows : (SessionId → Option J) → List (Call J) → List (Answer J) → Prop where
  | done {content : SessionId → Option J} : Follows content [] []
  | step {content content' : SessionId → Option J} {c : Call J} {calls : List (Call J)} {answer : Answer J}
      {answers : List (Answer J)} : MapStep content c answer content' → Follows content' calls answers →
      Follows content (c :: calls) (answer :: answers)

end Calls

section Condition

def EntryNode.Of (e : EntryNode) (id : SessionId) : Prop := e.diameterId = id.diameterId ∧ e.optionalVal = id.optionalValue

/-- The comparison of two nodes is the one of their identities: these differ, and
the optional value of the smaller does not stand in the way, or all is equal. -/
def Comparable (p q : EntryNode) : Prop :=
  (p.diameterId = q.diameterId → p.optionalVal = q.optionalVal) ∧
    (less p.diameterId q.diameterId = true → p.optionalVal = [] ∨ less p.optionalVal q.optionalVal = true)

def Database.InUse (db : Database J) (id : SessionId) (e : EntryNode) : Prop := db.Holds e ∨ e.Of id

def Database.CountsOn (db : Database J) (id : SessionId) : Prop :=
  ∀ e list, db.Holds e → e.Of id → db.lists e.object = some list →
    list.lastKnownCounter.next ≠ .null ∧ list.lastKnownCounter.next ∉ list.entries.map Prod.fst

structure Database.Meets (db : Database J) (c : Call J) : Prop where
  comparable : ∀ p q, db.InUse c.id p → db.InUse c.id q → Comparable p q
  counts : ∀ id data now object block, c = .add id data now object block → id.toCounter = .null → db.CountsOn id

def Database.MeetsAll (fuel : Nat) (db : Database J) : List (Call J) → Prop
  | [] => True
  | c :: calls => db.Supplied c ∧ db.Meets c ∧ ∀ answer db', db.call fuel c = some (answer, db') → db'.MeetsAll fuel calls

end Condition

section Lists

variable {list : EntryList J} {id other : SessionId} {data : J}

structure EntryList.Sound (list : EntryList J) : Prop where
  nodup : (list.entries.map Prod.fst).Nodup
  notNull : ∀ entry ∈ list.entries, entry.1 ≠ .null

theorem lookup_eq_none : list.lookup id = none ↔ id.toCounter ∉ list.entries.map Prod.fst := by
  simp only [EntryList.lookup, Option.map_eq_none_iff, List.find?_eq_none, beq_iff_eq, List.mem_map, not_exists, not_and]

theorem lookup_cons (counter : Counter) (last : Counter) :
    (EntryList.mk ((counter, data) :: list.entries) last).lookup other =
      if other.toCounter = counter then some data else list.lookup other := by
  by_cases same : other.toCounter = counter
  · simp [EntryList.lookup, same]
  · have differ : counter ≠ other.toCounter := fun equal => same equal.symm
    simp [EntryList.lookup, same, differ]

theorem lookup_remove (sound : list.Sound) :
    (list.remove id).lookup other = if other.toCounter = id.toCounter then none else list.lookup other := by
  obtain ⟨entries, last⟩ := list
  have nodup : (entries.map Prod.fst).Nodup := sound.nodup
  clear sound
  induction entries with
  | nil => simp [EntryList.remove, EntryList.lookup]
  | cons first rest ih =>
    obtain ⟨counter, stored⟩ := first
    obtain ⟨once, nodup⟩ := List.nodup_cons.mp nodup
    by_cases here : counter = id.toCounter
    · subst here
      have removed : (EntryList.mk ((id.toCounter, stored) :: rest) last).remove id = ⟨rest, last⟩ := by
        simp [EntryList.remove]
      rw [removed, @lookup_cons J ⟨rest, last⟩ other stored]
      by_cases same : other.toCounter = id.toCounter
      · rw [if_pos same]
        refine lookup_eq_none.mpr ?_
        rw [same]
        exact once
      · rw [if_neg same, if_neg same]
    · have removed : (EntryList.mk ((counter, stored) :: rest) last).remove id =
          ⟨(counter, stored) :: ((EntryList.mk rest last).remove id).entries, last⟩ := by
        simp [EntryList.remove, here]
      have ih := ih nodup
      rw [removed, @lookup_cons J ((EntryList.mk rest last).remove id) other stored, @lookup_cons J ⟨rest, last⟩ other stored, ih]
      by_cases same : other.toCounter = id.toCounter
      · have differ : ¬other.toCounter = counter := fun equal => here (equal.symm.trans same)
        rw [if_pos same, if_pos same, if_neg differ]
      · rw [if_neg same, if_neg same]

theorem sound_remove (sound : list.Sound) : (list.remove id).Sound :=
  ⟨sound.nodup.sublist (List.eraseP_sublist.map _), fun entry inside => sound.notNull entry (List.mem_of_mem_eraseP inside)⟩

theorem sound_cons {counter last : Counter} (sound : list.Sound) (notNull : counter ≠ .null)
    (fresh : counter ∉ list.entries.map Prod.fst) : (EntryList.mk ((counter, data) :: list.entries) last).Sound := by
  refine ⟨List.nodup_cons.mpr ⟨fresh, sound.nodup⟩, fun entry inside => ?_⟩
  rcases List.mem_cons.mp inside with rfl | inside
  · exact notNull
  · exact sound.notNull entry inside

end Lists

section Stored

variable {db : Database J} {elements : List EntryNode} {content : SessionId → Option J} {e : EntryNode} {id : SessionId}

def EntryNode.key (e : EntryNode) : List Nat := values e.diameterId

structure Stored (db : Database J) (elements : List EntryNode) (content : SessionId → Option J) : Prop where
  kept : Kept EntryNode.key elements db.tree
  lists : ∀ e ∈ elements, ∃ list, db.lists e.object = some list ∧ list.Sound
  objects : ∀ e ∈ elements, ∀ e' ∈ elements, e.object = e'.object → e = e'
  content : ∀ id data, content id = some data ↔
    ∃ e ∈ elements, ∃ list, e.Of id ∧ db.lists e.object = some list ∧ list.lookup id = some data

theorem values_injective {a b : Octets} (same : values a = values b) : a = b :=
  (List.map_injective_iff.mpr fun _ _ equal => UInt8.toNat_inj.mp equal) same

theorem Stored.ascending (stored : Stored db elements content) : Ascending EntryNode.key elements := by
  obtain ⟨_, _, _, _, _, _, ascending⟩ := stored.kept
  exact ascending

theorem Stored.unique (stored : Stored db elements content) {e e' : EntryNode} (inside : e ∈ elements) (inside' : e' ∈ elements)
    (same : e.diameterId = e'.diameterId) : e = e' :=
  stored.ascending.unique inside inside' (congrArg values same)

theorem Stored.content_of (stored : Stored db elements content) {list : EntryList J} (inside : e ∈ elements) (of : e.Of id)
    (listed : db.lists e.object = some list) : content id = list.lookup id := by
  apply Option.ext
  intro data
  rw [stored.content]
  constructor
  · rintro ⟨e', inside', list', of', listed', found⟩
    obtain rfl := stored.unique inside' inside (of'.1.trans of.1.symm)
    rw [listed] at listed'
    cases listed'
    exact found
  · exact fun found => ⟨e, inside, list, of, listed, found⟩

theorem Stored.content_absent (stored : Stored db elements content) (absent : ∀ e ∈ elements, ¬e.Of id) : content id = none := by
  cases found : content id with
  | none => rfl
  | some data =>
    obtain ⟨e, inside, list, of, -⟩ := (stored.content id data).mp found
    exact absurd of (absent e inside)

theorem kept_holds {t : RbTree.Tree EntryNode} (kept : Kept EntryNode.key elements t) (inside : e ∈ elements) :
    ∃ block node, t.blocks block = some node ∧ node.data = some e := by
  obtain ⟨nil, shape, image, -, -, rfl, -⟩ := kept
  obtain ⟨⟨block, own⟩, placed, rfl⟩ := List.mem_map.mp inside
  obtain ⟨node, here, data⟩ := image.linked.stores placed
  exact ⟨block, node, here, data⟩

theorem holds_kept {t : RbTree.Tree EntryNode} (kept : Kept EntryNode.key elements t) {block : Nat} {node : Node EntryNode}
    (here : t.blocks block = some node) (data : node.data = some e) : e ∈ elements := by
  obtain ⟨nil, shape, image, -, -, rfl, -⟩ := kept
  by_cases named : block ∈ shape.names
  · obtain ⟨⟨name, own⟩, placed, rfl⟩ := List.mem_map.mp named
    obtain ⟨node', here', data'⟩ := image.linked.stores placed
    obtain rfl := Option.some.inj (here'.symm.trans here)
    obtain rfl := Option.some.inj (data'.symm.trans data)
    exact List.mem_map.mpr ⟨_, placed, rfl⟩
  · rw [image.spare block named] at here
    cases here

/-- Whatever a lookup returns is stored, though it may be under another id. -/
theorem Stored.lookup_stored (stored : Stored db elements content) {fuel : Nat} {data : J}
    (found : db.lookup fuel id = some (some data)) : ∃ other, content other = some data := by
  unfold Database.lookup at found
  obtain ⟨node, ran, found⟩ := Option.bind_eq_some_iff.mp found
  cases node with
  | none => cases found
  | some e =>
    obtain ⟨list, listed, same⟩ := Option.bind_eq_some_iff.mp found
    obtain ⟨current, -, read⟩ := Option.bind_eq_some_iff.mp ran
    have inside : e ∈ elements := by
      split at read
      case isTrue => cases read
      case isFalse block =>
        obtain ⟨own, here, same⟩ := Option.bind_eq_some_iff.mp read
        obtain rfl : own = e := Option.some.inj (Option.some.inj same)
        obtain ⟨node, held, data⟩ := Option.bind_eq_some_iff.mp here
        cases current with
        | block n => exact holds_kept stored.kept held data
        | sentinel => exact absurd rfl block
        | null => cases held
    refine ⟨⟨id.toCounter, e.diameterId, e.optionalVal⟩, (stored.content _ data).mpr ⟨e, inside, list, ⟨rfl, rfl⟩, listed, ?_⟩⟩
    exact Option.some.inj same

theorem ordered_of_comparable {among : EntryNode → Prop} (comparable : ∀ p q, among p → among q → Comparable p q) :
    EntryNode.operators.OrderedBy EntryNode.key among := by
  constructor
  · intro a b inA inB
    obtain ⟨together, -⟩ := comparable a b inA inB
    simp only [EntryNode.operators, Bool.and_eq_true, beq_iff_eq, Bool.or_eq_true, EntryNode.key]
    constructor
    · exact fun ⟨same, _⟩ => congrArg values same
    · intro same
      have equal := values_injective same
      exact ⟨equal, .inr (together equal)⟩
  · intro a b inA inB
    obtain ⟨-, free⟩ := comparable a b inA inB
    simp only [EntryNode.operators, Bool.and_eq_true, Bool.or_eq_true, EntryNode.key, List.isEmpty_iff]
    constructor
    · exact fun ⟨smaller, _⟩ => of_decide_eq_true smaller
    · intro smaller
      have first : less a.diameterId b.diameterId = true := decide_eq_true smaller
      exact ⟨first, free first⟩

theorem Stored.update_list (stored : Stored db elements content) {list' : EntryList J} {content' : SessionId → Option J}
    (inside : e ∈ elements) (sound : list'.Sound) (own : ∀ other, e.Of other → content' other = list'.lookup other)
    (others : ∀ other, ¬e.Of other → content' other = content other) :
    Stored { db with lists := Function.update db.lists e.object (some list') } elements content' := by
  have apart : ∀ e' ∈ elements, e' ≠ e → e'.object ≠ e.object :=
    fun e' inside' differ same => differ (stored.objects e' inside' e inside same)
  refine ⟨stored.kept, ?_, stored.objects, ?_⟩
  · intro e' inside'
    by_cases same : e' = e
    · subst same
      exact ⟨list', Function.update_self .., sound⟩
    · obtain ⟨list, listed, sound⟩ := stored.lists e' inside'
      exact ⟨list, (Function.update_of_ne (apart e' inside' same) _ _).trans listed, sound⟩
  · intro other data
    by_cases of : e.Of other
    · rw [own other of]
      constructor
      · exact fun found => ⟨e, inside, list', of, Function.update_self .., found⟩
      · rintro ⟨e', inside', list, of', listed, found⟩
        obtain rfl := stored.unique inside' inside (of'.1.trans of.1.symm)
        simp only [Function.update_self, Option.some_inj] at listed
        rw [listed]
        exact found
    · rw [others other of, stored.content]
      have same (e' : EntryNode) (inside' : e' ∈ elements) (of' : e'.Of other) :
          Function.update db.lists e.object (some list') e'.object = db.lists e'.object := by
        refine Function.update_of_ne (apart e' inside' ?_) _ _
        rintro rfl
        exact of of'
      constructor
      · exact fun ⟨e', inside', list, of', listed, found⟩ => ⟨e', inside', list, of', (same e' inside' of').trans listed, found⟩
      · exact fun ⟨e', inside', list, of', listed, found⟩ =>
          ⟨e', inside', list, of', (same e' inside' of').symm.trans listed, found⟩

theorem Stored.add_node {pre post : List EntryNode} (stored : Stored db (pre ++ post) content) {tree : RbTree.Tree EntryNode}
    {list' : EntryList J} {content' : SessionId → Option J} (kept : Kept EntryNode.key (pre ++ e :: post) tree)
    (free : db.lists e.object = none) (sound : list'.Sound) (own : ∀ other, e.Of other → content' other = list'.lookup other)
    (others : ∀ other, ¬e.Of other → content' other = content other)
    (absent : ∀ e' ∈ pre ++ post, e'.diameterId ≠ e.diameterId) :
    Stored ⟨tree, Function.update db.lists e.object (some list')⟩ (pre ++ e :: post) content' := by
  have inside (e' : EntryNode) : e' ∈ pre ++ e :: post ↔ e' = e ∨ e' ∈ pre ++ post := by
    simp only [List.mem_append, List.mem_cons]
    tauto
  have apart : ∀ e' ∈ pre ++ post, e'.object ≠ e.object := by
    intro e' inside' same
    obtain ⟨list, listed, -⟩ := stored.lists e' inside'
    rw [same, free] at listed
    cases listed
  have same (e' : EntryNode) (inside' : e' ∈ pre ++ post) :
      Function.update db.lists e.object (some list') e'.object = db.lists e'.object :=
    Function.update_of_ne (apart e' inside') _ _
  refine ⟨kept, ?_, ?_, ?_⟩
  · intro e' inside'
    rcases (inside e').mp inside' with rfl | inside'
    · exact ⟨list', Function.update_self .., sound⟩
    · obtain ⟨list, listed, sound⟩ := stored.lists e' inside'
      exact ⟨list, (same e' inside').trans listed, sound⟩
  · intro a insideA b insideB equal
    rcases (inside a).mp insideA with rfl | oldA
    · rcases (inside b).mp insideB with rfl | oldB
      · rfl
      · exact absurd equal.symm (apart b oldB)
    · rcases (inside b).mp insideB with rfl | oldB
      · exact absurd equal (apart a oldA)
      · exact stored.objects a oldA b oldB equal
  · intro other data
    by_cases of : e.Of other
    · rw [own other of]
      constructor
      · exact fun found => ⟨e, (inside e).mpr (.inl rfl), list', of, Function.update_self .., found⟩
      · rintro ⟨e', inside', list, of', listed, found⟩
        rcases (inside e').mp inside' with rfl | inside'
        · simp only [Function.update_self, Option.some_inj] at listed
          rw [listed]
          exact found
        · exact absurd (of'.1.trans of.1.symm) (absent e' inside')
    · rw [others other of, stored.content]
      constructor
      · exact fun ⟨e', inside', list, of', listed, found⟩ =>
          ⟨e', (inside e').mpr (.inr inside'), list, of', (same e' inside').trans listed, found⟩
      · rintro ⟨e', inside', list, of', listed, found⟩
        rcases (inside e').mp inside' with rfl | inside'
        · exact absurd of' of
        · exact ⟨e', inside', list, of', (same e' inside').symm.trans listed, found⟩

theorem Stored.drop_node {pre post : List EntryNode} (stored : Stored db (pre ++ e :: post) content) {tree : RbTree.Tree EntryNode}
    {content' : SessionId → Option J} (kept : Kept EntryNode.key (pre ++ post) tree)
    (own : ∀ other, e.Of other → content' other = none) (others : ∀ other, ¬e.Of other → content' other = content other) :
    Stored ⟨tree, Function.update db.lists e.object none⟩ (pre ++ post) content' := by
  have inside (e' : EntryNode) : e' ∈ pre ++ e :: post ↔ e' = e ∨ e' ∈ pre ++ post := by
    simp only [List.mem_append, List.mem_cons]
    tauto
  have whole : e ∈ pre ++ e :: post := (inside e).mpr (.inl rfl)
  have once : e ∉ pre ++ post :=
    (List.nodup_cons.mp (List.perm_middle.nodup_iff.mp (nodup_of_ascending stored.ascending))).1
  have apart : ∀ e' ∈ pre ++ post, e'.object ≠ e.object := by
    intro e' inside' same
    obtain rfl := stored.objects e' ((inside e').mpr (.inr inside')) e whole same
    exact once inside'
  have same (e' : EntryNode) (inside' : e' ∈ pre ++ post) :
      Function.update db.lists e.object none e'.object = db.lists e'.object :=
    Function.update_of_ne (apart e' inside') _ _
  refine ⟨kept, ?_, ?_, ?_⟩
  · intro e' inside'
    obtain ⟨list, listed, sound⟩ := stored.lists e' ((inside e').mpr (.inr inside'))
    exact ⟨list, (same e' inside').trans listed, sound⟩
  · exact fun a insideA b insideB => stored.objects a ((inside a).mpr (.inr insideA)) b ((inside b).mpr (.inr insideB))
  · intro other data
    by_cases of : e.Of other
    · rw [own other of]
      refine iff_of_false (by simp) ?_
      rintro ⟨e', inside', list, of', -, -⟩
      obtain rfl := stored.unique ((inside e').mpr (.inr inside')) whole (of'.1.trans of.1.symm)
      exact once inside'
    · rw [others other of, stored.content]
      constructor
      · rintro ⟨e', inside', list, of', listed, found⟩
        rcases (inside e').mp inside' with rfl | inside'
        · exact absurd of' of
        · exact ⟨e', inside', list, of', (same e' inside').trans listed, found⟩
      · exact fun ⟨e', inside', list, of', listed, found⟩ =>
          ⟨e', (inside e').mpr (.inr inside'), list, of', (same e' inside').symm.trans listed, found⟩

theorem searched (db : Database J) (id : SessionId) : db.InUse id (Database.searchNode id) := .inr ⟨rfl, rfl⟩

theorem Stored.find_node (stored : Stored db elements content) {fuel : Nat} (enough : elements.length < fuel)
    (comparable : ∀ p q, db.InUse id p → db.InUse id q → Comparable p q) :
    ∃ found, db.tree.find EntryNode.operators fuel (Database.searchNode id) = some found ∧
      ((∀ e ∈ elements, e.diameterId ≠ id.diameterId) ∧ found = none ∨ ∃ e ∈ elements, e.Of id ∧ found = some e) := by
  have inUse : ∀ e ∈ elements, db.InUse id e := fun e inside => .inl (kept_holds stored.kept inside)
  obtain ⟨found, ran, ⟨absent, rfl⟩ | ⟨e, inside, same, rfl⟩⟩ :=
    Tree.find_spec (ordered_of_comparable comparable) stored.kept inUse (searched db id) enough
  · exact ⟨none, ran, .inl ⟨fun e inside same => absent e inside (congrArg values same), rfl⟩⟩
  · have equal := values_injective same
    exact ⟨some e, ran, .inr ⟨e, inside, ⟨equal, (comparable e (Database.searchNode id) (inUse e inside) (searched db id)).1 equal⟩, rfl⟩⟩

theorem Stored.lookup_spec (stored : Stored db elements content) {fuel : Nat} (enough : elements.length < fuel)
    (comparable : ∀ p q, db.InUse id p → db.InUse id q → Comparable p q) : db.lookup fuel id = some (content id) := by
  obtain ⟨found, ran, ⟨absent, rfl⟩ | ⟨e, inside, of, rfl⟩⟩ := stored.find_node enough comparable
  · rw [stored.content_absent fun e inside of => absent e inside of.1]
    simp [Database.lookup, ran]
  · obtain ⟨list, listed, -⟩ := stored.lists e inside
    rw [stored.content_of inside of listed]
    simp [Database.lookup, ran, listed]

theorem Of.unique {e : EntryNode} {other : SessionId} (of : e.Of id) (of' : e.Of other) (same : other.toCounter = id.toCounter) :
    other = id := by
  obtain ⟨counter, d, o⟩ := id
  obtain ⟨counter', d', o'⟩ := other
  obtain ⟨rfl, rfl⟩ := of
  obtain ⟨rfl, rfl⟩ := of'
  obtain rfl : counter' = counter := same
  rfl

theorem Stored.remove_spec (stored : Stored db elements content) {fuel : Nat} (enough : elements.length < fuel)
    (comparable : ∀ p q, db.InUse id p → db.InUse id q → Comparable p q) :
    ∃ db' elements', db.remove fuel id = some ((content id).isSome, db') ∧
      Stored db' elements' (Function.update content id none) ∧ elements'.length ≤ elements.length ∧
        ∀ e ∈ elements', e ∈ elements := by
  obtain ⟨found, ran, ⟨absent, rfl⟩ | ⟨e, inside, of, rfl⟩⟩ := stored.find_node enough comparable
  · have missing := stored.content_absent fun e inside of => absent e inside of.1
    rw [missing, Function.update_eq_self_iff.mpr missing.symm]
    exact ⟨db, elements, by simp [Database.remove, ran], stored, le_refl _, fun _ inside => inside⟩
  · obtain ⟨list, listed, sound⟩ := stored.lists e inside
    rw [stored.content_of inside of listed]
    by_cases missing : (list.lookup id).isNone = true
    · have none := Option.isNone_iff_eq_none.mp missing
      have absent := (stored.content_of inside of listed).trans none
      rw [Function.update_eq_self_iff.mpr absent.symm]
      exact ⟨db, elements, by simp [Database.remove, ran, listed, none], stored, le_refl _, fun _ inside => inside⟩
    · have present : (list.lookup id).isSome = true := Option.isSome_iff_ne_none.mpr (by simpa using missing)
      have own (other : SessionId) (of' : e.Of other) :
          Function.update content id none other = (list.remove id).lookup other := by
        rw [lookup_remove sound]
        by_cases same : other = id
        · subst same
          rw [Function.update_self, if_pos rfl]
        · have differ : ¬other.toCounter = id.toCounter := fun equal => same (Of.unique of of' equal)
          rw [Function.update_of_ne same, if_neg differ, stored.content_of inside of' listed]
      have others (other : SessionId) (of' : ¬e.Of other) : Function.update content id none other = content other := by
        refine Function.update_of_ne ?_ _ _
        rintro rfl
        exact of' of
      by_cases empty : (list.remove id).entries.isEmpty = true
      · -- The node goes with its last session.
        obtain ⟨removed, tree, taken, ⟨absent, -⟩ | ⟨d, pre, post, rfl, same, rfl, kept⟩⟩ :=
          Tree.remove_spec (ordered_of_comparable comparable) stored.kept
            (fun e inside => .inl (kept_holds stored.kept inside)) (searched db id) enough
        · exact absurd (congrArg values of.1) (absent e inside)
        · obtain rfl := stored.unique (by simp) inside ((values_injective same).trans of.1.symm)
          have own' (other : SessionId) (of' : d.Of other) : Function.update content id none other = none := by
            rw [own other of']
            refine lookup_eq_none.mpr ?_
            rw [List.isEmpty_iff.mp empty]
            exact List.not_mem_nil
          have fewer : ∀ e ∈ pre ++ post, e ∈ pre ++ d :: post := by
            intro e inside
            rcases List.mem_append.mp inside with inside | inside
            · exact List.mem_append_left _ inside
            · exact List.mem_append_right _ (List.mem_cons_of_mem _ inside)
          refine ⟨_, pre ++ post, ?_, stored.drop_node kept own' others, by simp, fewer⟩
          rw [present]
          simp only [Database.remove, Option.bind_eq_bind, ran, Option.bind_some, listed, missing, empty, taken, if_true,
            Function.update_idem]
          rfl
      · refine ⟨_, elements, ?_, stored.update_list inside (sound_remove sound) own others, le_refl _, fun _ inside => inside⟩
        rw [present]
        simp only [Database.remove, Option.bind_eq_bind, ran, Option.bind_some, listed, missing, empty]
        rfl

theorem next_ne_null {now : Counter} (clock : now.low < 1000000) : now.next ≠ .null := by
  intro same
  have low : now.next.low = 0 := congrArg Counter.low same
  have bound : now.low.toNat < 1000000 := clock
  have step : (now.low + 1).toNat = now.low.toNat + 1 := by
    rw [UInt32.toNat_add]
    exact Nat.mod_eq_of_lt (by simp; omega)
  have notTop : ¬now.low + 1 = 0xffffffff := by
    intro top
    have value := congrArg UInt32.toNat top
    rw [step] at value
    simp at value
    omega
  simp only [Counter.next, notTop, if_false] at low
  have value := congrArg UInt32.toNat low
  rw [step] at value
  simp at value

def EntryList.counterFor (list : EntryList J) (id : SessionId) : Counter :=
  if id.toCounter = .null then list.lastKnownCounter.next else id.toCounter

theorem add_eq (list : EntryList J) (id : SessionId) (data : J) :
    ∃ last, list.add id data =
      ({ id with toCounter := list.counterFor id }, ⟨(list.counterFor id, data) :: list.entries, last⟩) := by
  by_cases null : id.toCounter = .null
  · exact ⟨list.lastKnownCounter.next, by simp only [EntryList.add, EntryList.counterFor, null, if_true]⟩
  · exact ⟨list.lastKnownCounter, by simp only [EntryList.add, EntryList.counterFor, null, if_false]⟩

section Adding

variable {list : EntryList J} {data : J} {now : Counter} {object block : Nat}

theorem step_added (missing : content { id with toCounter := list.counterFor id } = none) :
    MapStep content (.add id data now object block) (.added true { id with toCounter := list.counterFor id })
      (Function.update content { id with toCounter := list.counterFor id } (some data)) := by
  by_cases null : id.toCounter = .null
  · exact .generated null missing
  · have own : { id with toCounter := list.counterFor id } = id := by simp [EntryList.counterFor, null]
    rw [own] at missing ⊢
    exact .added null missing

theorem update_own {counter last : Counter} (of : e.Of id) (before : ∀ other, e.Of other → content other = list.lookup other)
    (other : SessionId) (of' : e.Of other) :
    Function.update content { id with toCounter := counter } (some data) other =
      (EntryList.mk ((counter, data) :: list.entries) last).lookup other := by
  rw [lookup_cons]
  by_cases same : other = { id with toCounter := counter }
  · subst same
    rw [Function.update_self, if_pos rfl]
  · have differ : ¬other.toCounter = counter :=
      fun equal => same (@Of.unique { id with toCounter := counter } e other of of' equal)
    rw [Function.update_of_ne same, if_neg differ, before other of']

theorem update_other {counter : Counter} (of : e.Of id) (other : SessionId) (of' : ¬e.Of other) :
    Function.update content { id with toCounter := counter } (some data) other = content other := by
  refine Function.update_of_ne ?_ _ _
  rintro rfl
  exact of' of

theorem Stored.add_spec (stored : Stored db elements content) {fuel : Nat} (enough : elements.length < fuel)
    (supplied : db.Supplied (.add id data now object block))
    (comparable : ∀ p q, db.InUse id p → db.InUse id q → Comparable p q) (counts : id.toCounter = .null → db.CountsOn id) :
    ∃ ok id' db' elements' content', db.add fuel id data now object block = some (ok, id', db') ∧
      MapStep content (.add id data now object block) (.added ok id') content' ∧ Stored db' elements' content' ∧
        elements'.length ≤ elements.length + 1 ∧ ∀ e ∈ elements', e ∈ elements ∨ e.Of id := by
  obtain ⟨freeObject, freeBlock, clock⟩ := supplied
  obtain ⟨found, ran, ⟨absent, rfl⟩ | ⟨e, inside, of, rfl⟩⟩ := stored.find_node enough comparable
  · -- There is no node yet.
    let e : EntryNode := ⟨object, id.diameterId, id.optionalValue⟩
    have of : e.Of id := ⟨rfl, rfl⟩
    obtain ⟨last, added⟩ := add_eq (EntryList.new now) id data
    have sound : (EntryList.mk [((EntryList.new now : EntryList J).counterFor id, data)] last).Sound := by
      refine @sound_cons J (EntryList.new now) data _ last ⟨List.nodup_nil, List.forall_mem_nil _⟩ ?_ List.not_mem_nil
      by_cases null : id.toCounter = .null
      · simp only [EntryList.counterFor, null, if_true]
        exact next_ne_null clock
      · rw [EntryList.counterFor, if_neg null]
        exact null
    have missing (other : SessionId) (of' : e.Of other) : content other = (EntryList.new now : EntryList J).lookup other :=
      stored.content_absent fun e' inside of'' => absent e' inside (of''.1.trans of'.1.symm)
    obtain ⟨answer, tree, inserted, ⟨inside, same, -⟩ | ⟨-, -, pre, post, rfl, kept⟩⟩ :=
      @Tree.insert_spec EntryNode _ _ db.tree e block _ _ _ _ _ (ordered_of_comparable comparable) stored.kept
        (fun e inside => .inl (kept_holds stored.kept inside)) (.inr of) freeBlock enough
    · exact absurd (values_injective same) (absent answer inside)
    · refine ⟨true, _, _, _, _, ?_, step_added (missing { id with toCounter := (EntryList.new now : EntryList J).counterFor id } of),
        stored.add_node kept freeObject sound (update_own of missing) (update_other of) absent, ?_, ?_⟩
      · simp only [Database.add, Option.bind_eq_bind, ran, Option.bind_some, freeObject, Option.isSome_none, added, inserted, e]
        rfl
      · simp only [List.length_append, List.length_cons]
        omega
      · intro e' inside
        rcases List.mem_append.mp inside with inside | inside
        · exact .inl (List.mem_append_left _ inside)
        · rcases List.mem_cons.mp inside with rfl | inside
          · exact .inr of
          · exact .inl (List.mem_append_right _ inside)
  · obtain ⟨list, listed, sound⟩ := stored.lists e inside
    have before (other : SessionId) (of' : e.Of other) : content other = list.lookup other := stored.content_of inside of' listed
    by_cases present : (list.lookup id).isSome = true
    · obtain ⟨old, found⟩ := Option.isSome_iff_exists.mp present
      have notNull : id.toCounter ≠ .null := by
        intro null
        have missing : list.lookup id = none := by
          refine lookup_eq_none.mpr fun named => ?_
          obtain ⟨entry, placed, same⟩ := List.mem_map.mp named
          exact sound.notNull entry placed (same.trans null)
        rw [missing] at found
        cases found
      exact ⟨false, id, db, elements, content, by simp [Database.add, ran, listed, present],
        .refused notNull ((before id of).trans found), stored, Nat.le_succ _, fun _ inside => .inl inside⟩
    · obtain ⟨last, added⟩ := add_eq list id data
      have fresh : list.counterFor id ≠ .null ∧ list.counterFor id ∉ list.entries.map Prod.fst := by
        by_cases null : id.toCounter = .null
        · simp only [EntryList.counterFor, null, if_true]
          exact counts null e list (kept_holds stored.kept inside) of listed
        · simp only [EntryList.counterFor, null, if_false]
          exact ⟨null, lookup_eq_none.mp (by simpa using present)⟩
      have missing : content { id with toCounter := list.counterFor id } = none :=
        (before { id with toCounter := list.counterFor id } of).trans (lookup_eq_none.mpr fresh.2)
      have sound' : (EntryList.mk ((list.counterFor id, data) :: list.entries) last).Sound := sound_cons sound fresh.1 fresh.2
      refine ⟨true, _, _, elements, _, ?_, step_added missing,
        stored.update_list inside sound' (update_own of before) (update_other of), Nat.le_succ _, fun _ inside => .inl inside⟩
      simp only [Database.add, Option.bind_eq_bind, ran, Option.bind_some, listed, present, added]
      rfl

end Adding

end Stored

section Runs

variable {db : Database J} {elements : List EntryNode} {content : SessionId → Option J} {fuel : Nat}

theorem Stored.call_spec (stored : Stored db elements content) (enough : elements.length < fuel) {c : Call J}
    (supplied : db.Supplied c) (meets : db.Meets c) :
    ∃ answer db' elements' content', db.call fuel c = some (answer, db') ∧ MapStep content c answer content' ∧
      Stored db' elements' content' ∧ elements'.length ≤ elements.length + 1 ∧ ∀ e ∈ elements', e ∈ elements ∨ e.Of c.id := by
  cases c with
  | add id data now object block =>
    obtain ⟨ok, id', db', elements', content', ran, step, stored', length, nodes⟩ :=
      stored.add_spec enough supplied meets.comparable (meets.counts id data now object block rfl)
    exact ⟨.added ok id', db', elements', content', by simp [Database.call, ran], step, stored', length, nodes⟩
  | lookup id =>
    have ran := stored.lookup_spec enough meets.comparable
    simp only [Call.id] at ran
    exact ⟨.found (content id), db, elements, content, by simp [Database.call, ran], .lookup, stored, Nat.le_succ _,
      fun _ inside => .inl inside⟩
  | remove id =>
    obtain ⟨db', elements', ran, stored', length, nodes⟩ := stored.remove_spec enough meets.comparable
    simp only [Call.id] at ran
    exact ⟨.removed (content id).isSome, db', elements', _, by simp [Database.call, ran], .removed, stored',
      Nat.le_succ_of_le length, fun e inside => .inl (nodes e inside)⟩

theorem Stored.run_follows (stored : Stored db elements content) {calls : List (Call J)}
    (enough : elements.length + calls.length ≤ fuel) (meets : db.MeetsAll fuel calls) :
    ∃ answers, db.run fuel calls = some answers ∧ Follows content calls answers := by
  induction calls generalizing db elements content with
  | nil => exact ⟨[], rfl, .done⟩
  | cons c calls ih =>
    rw [List.length_cons] at enough
    obtain ⟨supplied, here, later⟩ := meets
    have room : elements.length < fuel := by omega
    obtain ⟨answer, db', elements', content', ran, step, stored', length, -⟩ := stored.call_spec room supplied here
    have shorter : elements'.length + calls.length ≤ fuel := by omega
    obtain ⟨answers, rest, follows⟩ := ih stored' shorter (later answer db' ran)
    exact ⟨answer :: answers, by simp [Database.run, ran, rest], .step step follows⟩

theorem stored_new : Stored (Database.new : Database J) [] fun _ => none :=
  ⟨Tree.kept_new _, List.forall_mem_nil _, List.forall_mem_nil _, by simp⟩

/-- In a run whose calls all meet the condition, the database answers as a finite
map of whole session ids, and a generated id is new to it. -/
theorem database_is_map {calls : List (Call J)} (enough : calls.length ≤ fuel)
    (meets : (Database.new : Database J).MeetsAll fuel calls) :
    ∃ answers, (Database.new : Database J).run fuel calls = some answers ∧ Follows (fun _ => none) calls answers :=
  stored_new.run_follows (by simpa using enough) meets

def Database.checks (fuel : Nat) (db : Database J) : Call J → Bool
  | .add id _ now object block =>
    (db.lists object).isNone && (db.tree.blocks block).isNone && now.low < 1000000 &&
      (id.toCounter != .null ||
        match db.tree.find EntryNode.operators fuel (Database.searchNode id) with
        | some (some e) =>
          match db.lists e.object with
          | some list => list.lastKnownCounter.next != .null && !(list.entries.map Prod.fst).contains list.lastKnownCounter.next
          | none => true
        | _ => true)
  | _ => true

def Database.checksAll (fuel : Nat) (db : Database J) : List (Call J) → Bool
  | [] => true
  | c :: calls =>
    db.checks fuel c &&
      match db.call fuel c with
      | some (_, db') => db'.checksAll fuel calls
      | none => true

theorem Stored.meets_of_checks (stored : Stored db elements content) (enough : elements.length < fuel) {c : Call J}
    (comparable : ∀ p q, db.InUse c.id p → db.InUse c.id q → Comparable p q) (checks : db.checks fuel c = true) :
    db.Supplied c ∧ db.Meets c := by
  cases c with
  | add id data now object block =>
    simp only [Database.checks, Bool.and_eq_true, Option.isNone_iff_eq_none, decide_eq_true_eq, Bool.or_eq_true,
      bne_iff_ne] at checks
    obtain ⟨⟨⟨freeObject, freeBlock⟩, clock⟩, counted⟩ := checks
    refine ⟨⟨freeObject, freeBlock, clock⟩, comparable, ?_⟩
    intro id' data' now' object' block' same null e list held of listed
    cases same
    obtain ⟨block, node, here, data⟩ := held
    have inside := holds_kept stored.kept here data
    obtain ⟨found, ran, ⟨absent, -⟩ | ⟨e', inside', of', rfl⟩⟩ := stored.find_node enough comparable
    · exact absurd of.1 (absent e inside)
    · obtain rfl := stored.unique inside' inside (of'.1.trans of.1.symm)
      rcases counted with notNull | counted
      · exact absurd null notNull
      · have ran' : db.tree.find EntryNode.operators fuel (Database.searchNode id) = some (some e') := ran
        rw [ran'] at counted
        dsimp only at counted
        rw [listed] at counted
        simpa using counted
  | lookup id => exact ⟨trivial, comparable, fun _ _ _ _ _ same => by cases same⟩
  | remove id => exact ⟨trivial, comparable, fun _ _ _ _ _ same => by cases same⟩

theorem Stored.meetsAll_of_checks (stored : Stored db elements content) {calls : List (Call J)}
    (enough : elements.length + calls.length ≤ fuel) {among : EntryNode → Prop}
    (comparable : ∀ p q, among p → among q → Comparable p q) (nodes : ∀ e ∈ elements, among e)
    (ids : ∀ c ∈ calls, ∀ e : EntryNode, e.Of c.id → among e) (checks : db.checksAll fuel calls = true) :
    db.MeetsAll fuel calls := by
  induction calls generalizing db elements content with
  | nil => trivial
  | cons c calls ih =>
    rw [List.length_cons] at enough
    obtain ⟨here, later⟩ := Bool.and_eq_true_iff.mp checks
    have room : elements.length < fuel := by omega
    have used (e : EntryNode) (inUse : db.InUse c.id e) : among e := by
      rcases inUse with ⟨block, node, held, data⟩ | of
      · exact nodes e (holds_kept stored.kept held data)
      · exact ids c List.mem_cons_self e of
    obtain ⟨supplied, meets⟩ := stored.meets_of_checks room
      (fun p q inUse inUse' => comparable p q (used p inUse) (used q inUse')) here
    obtain ⟨answer, db', elements', content', ran, -, stored', length, grown⟩ := stored.call_spec room supplied meets
    refine ⟨supplied, meets, fun answer' db'' again => ?_⟩
    rw [ran] at again later
    cases again
    refine ih stored' (by omega) (fun e inside => ?_) (fun c' inside => ids c' (List.mem_cons_of_mem _ inside)) later
    rcases grown e inside with old | of
    · exact nodes e old
    · exact ids c List.mem_cons_self e of

/-- Two sessions of one identity are generated around one of another; the first is
removed, and then the node of the other with its session. -/
def twoIdentities : List (Call Nat) :=
  [.add ⟨.null, [97], []⟩ 5 ⟨9, 3⟩ 0 0, .add ⟨⟨1, 1⟩, [98], [120]⟩ 6 ⟨9, 3⟩ 1 1, .add ⟨.null, [97], []⟩ 7 ⟨9, 8⟩ 2 2,
    .remove ⟨⟨9, 4⟩, [97], []⟩, .lookup ⟨⟨1, 1⟩, [98], [120]⟩, .lookup ⟨⟨9, 4⟩, [97], []⟩, .remove ⟨⟨1, 1⟩, [98], [120]⟩,
    .lookup ⟨⟨9, 5⟩, [97], []⟩]

theorem database_is_map_two_identities :
    (Database.new : Database Nat).run 8 twoIdentities =
        some [.added true ⟨⟨9, 4⟩, [97], []⟩, .added true ⟨⟨1, 1⟩, [98], [120]⟩, .added true ⟨⟨9, 5⟩, [97], []⟩,
          .removed true, .found (some 6), .found none, .removed true, .found (some 7)] ∧
      ∃ answers, (Database.new : Database Nat).run 8 twoIdentities = some answers ∧
        Follows (fun _ => none) twoIdentities answers := by
  refine ⟨by decide, database_is_map (by decide) ?_⟩
  let among (e : EntryNode) : Prop := e.diameterId = [97] ∧ e.optionalVal = [] ∨ e.diameterId = [98] ∧ e.optionalVal = [120]
  refine @Stored.meetsAll_of_checks Nat _ _ _ 8 stored_new twoIdentities (by decide) among ?_ (List.forall_mem_nil _) ?_ (by decide)
  · rintro p q (⟨own, value⟩ | ⟨own, value⟩) (⟨own', value'⟩ | ⟨own', value'⟩) <;>
      rw [Comparable, own, value, own', value'] <;> decide
  · simp only [twoIdentities, List.forall_mem_cons, Call.id, EntryNode.Of]
    exact ⟨fun _ => .inl, fun _ => .inr, fun _ => .inl, fun _ => .inl, fun _ => .inr, fun _ => .inl, fun _ => .inr,
      fun _ => .inl, List.forall_mem_nil _⟩

/-- The second session has the identity and the counter of the first, and an
optional value besides: it is refused, and a lookup returns the first. -/
theorem optional_value_lost :
    ∃ answers, (Database.new : Database Nat).run 3
        [.add ⟨⟨1, 1⟩, [97], []⟩ 5 ⟨9, 3⟩ 0 0, .add ⟨⟨1, 1⟩, [97], [98]⟩ 6 ⟨9, 3⟩ 1 1, .lookup ⟨⟨1, 1⟩, [97], [98]⟩] =
          some answers ∧
      ¬Follows (fun _ => none)
        [.add ⟨⟨1, 1⟩, [97], []⟩ 5 ⟨9, 3⟩ 0 0, .add ⟨⟨1, 1⟩, [97], [98]⟩ 6 ⟨9, 3⟩ 1 1, .lookup ⟨⟨1, 1⟩, [97], [98]⟩] answers := by
  refine ⟨[.added true ⟨⟨1, 1⟩, [97], []⟩, .added false ⟨⟨1, 1⟩, [97], [98]⟩, .found (some 5)], by decide, ?_⟩
  intro follows
  rcases follows with _ | ⟨first, follows⟩
  rcases follows with _ | ⟨second, -⟩
  cases first with
  | added =>
    cases second with
    | refused notNull present =>
      rw [Function.update_of_ne (by decide)] at present
      cases present
  | generated null =>
    cases null

end Runs

end OpenDiameter.Session
