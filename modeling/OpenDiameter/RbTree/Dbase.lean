import OpenDiameter.RbTree.FiniteMap

/-! `OD_Utl_DbaseTree`: the tree as a database from indices to arguments.

An entry that is looked for has no argument. What cannot fail short of memory is
kept as it is written; the errors are the values that are thrown.
-/

set_option autoImplicit false

namespace OpenDiameter.RbTree

open Foundation.RedBlack

/-- `OD_Utl_DbEntry`, with the payload of its base class. -/
structure DbEntry (K A : Type) where
  index : K
  payload : Option A
  deriving DecidableEq, Repr

inductive DbError where
  | entryAllocFailure | entryInsertionFailure | entryNotFound
  deriving DecidableEq, Repr

variable {K A : Type} [LinearOrder K]

/-- `operator==` and `operator<` of the entries. -/
def DbEntry.operators : Operators (DbEntry K A) where
  eq own cmp := decide (own.index = cmp.index)
  lt own cmp := decide (own.index < cmp.index)

theorem DbEntry.ordered : (DbEntry.operators : Operators (DbEntry K A)).OrderedBy DbEntry.index fun _ => True where
  eq_iff _ _ _ _ := decide_eq_true_iff
  lt_iff _ _ _ _ := decide_eq_true_iff

abbrev DbaseTree (K A : Type) := Tree (DbEntry K A)

namespace DbaseTree

/-- An address below a bound that is not in use, for `new`. -/
def freeBlock (db : DbaseTree K A) (bound : Nat) : Nat :=
  ((List.range bound).find? fun n => (db.blocks n).isNone).getD 0

variable (fuel : Nat) (db : DbaseTree K A)

/-- `Add`: `Insert` returns an entry, the new one or one that has the index already. -/
def add (index : K) (arg : A) (block : Nat) : Option (Except DbError (DbaseTree K A)) := do
  let (found, tree) ← Tree.insert DbEntry.operators fuel db ⟨index, some arg⟩ block
  return if found.isSome then .ok tree else .error .entryInsertionFailure

def search (index : K) : Option (Except DbError A) := do
  match ← Tree.find DbEntry.operators fuel db ⟨index, none⟩ with
  | some entry => return .ok (← entry.payload)
  | none => return .error .entryNotFound

def Holds (content : K → Option A) (bound : Nat) : Prop :=
  ∃ elements, Kept DbEntry.index elements db ∧ elements.length ≤ bound ∧ (∀ e ∈ elements, e.payload ≠ none) ∧
    ∀ index arg, content index = some arg ↔ ⟨index, some arg⟩ ∈ elements

variable {fuel db} {content : K → Option A} {bound : Nat}

theorem holds_new : Holds (Tree.new : DbaseTree K A) (fun _ => none) 0 :=
  ⟨[], Tree.kept_new _, le_rfl, by simp, by simp⟩

omit [LinearOrder K] in
theorem content_eq_none {elements : List (DbEntry K A)}
    (stands : ∀ index arg, content index = some arg ↔ ⟨index, some arg⟩ ∈ elements) {index : K}
    (absent : ∀ e ∈ elements, e.index ≠ index) : content index = none := by
  cases found : content index with
  | none => rfl
  | some arg => exact absurd rfl (absent _ ((stands index arg).mp found))

theorem find_entry {elements : List (DbEntry K A)} (kept : Kept DbEntry.index elements db)
    (enough : elements.length < fuel) (entry : DbEntry K A) :
    ∃ found, Tree.find DbEntry.operators fuel db entry = some found ∧
      ((∀ e ∈ elements, e.index ≠ entry.index) ∧ found = none ∨
        ∃ e ∈ elements, e.index = entry.index ∧ found = some e) :=
  Tree.find_spec DbEntry.ordered kept (fun _ _ => trivial) trivial enough

theorem insert_entry {elements : List (DbEntry K A)} (kept : Kept DbEntry.index elements db) {block : Nat}
    (free : db.blocks block = none) (enough : elements.length < fuel) (entry : DbEntry K A) :
    ∃ answer tree, Tree.insert DbEntry.operators fuel db entry block = some (some answer, tree) ∧
      (answer ∈ elements ∧ answer.index = entry.index ∧ tree = db ∨
        (∀ e ∈ elements, e.index ≠ entry.index) ∧ answer = entry ∧
          ∃ pre post, elements = pre ++ post ∧ Kept DbEntry.index (pre ++ entry :: post) tree) :=
  Tree.insert_spec DbEntry.ordered kept (fun _ _ => trivial) trivial free enough

theorem search_eq (holds : Holds db content bound) (enough : bound < fuel) (index : K) :
    db.search fuel index = some (match content index with
      | some arg => .ok arg
      | none => .error .entryNotFound) := by
  obtain ⟨elements, kept, few, stored, stands⟩ := holds
  obtain ⟨found, ran, ⟨absent, rfl⟩ | ⟨e, mem, same, rfl⟩⟩ :=
    find_entry kept (Nat.lt_of_le_of_lt few enough) ⟨index, none⟩
  · rw [content_eq_none stands absent, search, ran]
    rfl
  · obtain ⟨own, payload⟩ := e
    obtain rfl : own = index := same
    cases payload with
    | none => exact absurd rfl (stored _ mem)
    | some arg =>
      rw [(stands own arg).mpr mem, search, ran]
      rfl

theorem blocks_freeBlock (holds : Holds db content bound) {room : Nat} (enough : bound < room) :
    db.blocks (freeBlock db room) = none := by
  obtain ⟨elements, ⟨nil, shape, image, _, _, rfl, _⟩, few, _, _⟩ := holds
  have free : ∃ n ∈ List.range room, (db.blocks n).isNone = true := by
    by_contra full
    have inside : List.range room ⊆ shape.names := by
      intro n mem
      by_contra outside
      exact full ⟨n, mem, by rw [image.spare n outside]; rfl⟩
    have shorter := List.Nodup.length_le_of_subset List.nodup_range inside
    rw [List.length_range, Shape.names, List.length_map, ← List.length_map Prod.snd] at shorter
    exact absurd (Nat.le_trans shorter few) (Nat.not_le_of_gt enough)
  unfold freeBlock
  cases found : (List.range room).find? fun n => (db.blocks n).isNone with
  | none =>
    obtain ⟨n, mem, unused⟩ := free
    exact absurd unused (List.find?_eq_none.mp found n mem)
  | some n =>
    have unused := List.find?_some found
    exact Option.isNone_iff_eq_none.mp unused

theorem add_eq (holds : Holds db content bound) (enough : bound < fuel) (index : K) (arg : A) :
    ∃ tree, db.add fuel index arg (freeBlock db fuel) = some (.ok tree) ∧
      Holds tree (if content index = none then Function.update content index (some arg) else content) (bound + 1) := by
  have free := blocks_freeBlock holds enough
  obtain ⟨elements, kept, few, stored, stands⟩ := holds
  obtain ⟨answer, tree, ran, ⟨mem, same, rfl⟩ | ⟨absent, rfl, pre, post, rfl, kept'⟩⟩ :=
    insert_entry kept free (Nat.lt_of_le_of_lt few enough) ⟨index, some arg⟩
  · refine ⟨tree, by rw [add, ran]; rfl, elements, kept, Nat.le_succ_of_le few, stored, ?_⟩
    obtain ⟨own, payload⟩ := answer
    obtain rfl : own = index := same
    cases payload with
    | none => exact absurd rfl (stored _ mem)
    | some old =>
      rw [if_neg]
      · exact stands
      · rw [(stands own old).mpr mem]
        exact Option.some_ne_none old
  · refine ⟨tree, by rw [add, ran]; rfl, pre ++ ⟨index, some arg⟩ :: post, kept', ?_, ?_, ?_⟩
    · rw [List.length_append, List.length_cons, ← Nat.add_assoc, ← List.length_append]
      exact Nat.succ_le_succ few
    · intro e mem
      rcases List.mem_append.mp mem with mem | mem
      · exact stored e (List.mem_append_left _ mem)
      · rcases List.mem_cons.mp mem with rfl | mem
        · exact Option.some_ne_none arg
        · exact stored e (List.mem_append_right _ mem)
    · have none := content_eq_none stands absent
      rw [if_pos none]
      intro other value
      rw [List.mem_append, List.mem_cons, ← or_left_comm, ← List.mem_append]
      by_cases same : other = index
      · subst same
        rw [Function.update_self]
        constructor
        · intro equal
          cases equal
          exact Or.inl rfl
        · rintro (equal | mem)
          · cases equal
            rfl
          · exact absurd rfl (absent ⟨other, some value⟩ mem)
      · rw [Function.update_of_ne same, stands]
        constructor
        · exact Or.inr
        · rintro (equal | mem)
          · cases equal
            exact absurd rfl same
          · exact mem

end DbaseTree

end OpenDiameter.RbTree
