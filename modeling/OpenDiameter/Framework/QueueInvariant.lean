import Mathlib.Algebra.Order.BigOperators.Group.Finset
import OpenDiameter.Foundation.Loop
import OpenDiameter.Framework.QueueJob

/-! The representation invariant of the job queue, call by call.

`Invariant` ties the count, the data queues and the index queues together. One
lemma for each operation says what the operation does to it; `remove` keeps it
exactly when every data queue that holds the removed entry is emptied by it.
-/

set_option autoImplicit false

namespace OpenDiameter.Framework.QueueJob

variable {T : Type}

def dataQueues (q : QueueJob T) : Nat := q.numPriority * q.maxWeight

def stored (q : QueueJob T) : Nat :=
  ∑ d ∈ Finset.range q.dataQueues, (q.dataQueue d).length

/-- The weight and the priority index of data queue `d` are `d % maxWeight + 1`
and `d / maxWeight`. -/
structure Invariant (q : QueueJob T) : Prop where
  priorities : q.numPriority ≤ maxNumPriority
  weights : q.maxWeight ≤ maxMaxWeight
  waiting : q.signaled = false
  bounded : q.total < unsignedRange
  counted : q.total = q.stored
  indexed : ∀ d < q.dataQueues,
    (q.indexQueue (d / q.maxWeight)).count d = min (q.dataQueue d).length (d % q.maxWeight + 1)
  placed : ∀ p < q.numPriority, ∀ d ∈ q.indexQueue p, d < q.dataQueues ∧ d / q.maxWeight = p

def InRange (q : QueueJob T) (priority weight : Nat) : Prop :=
  1 ≤ priority ∧ priority ≤ q.numPriority ∧ 1 ≤ weight ∧ weight ≤ q.maxWeight

instance (q : QueueJob T) (priority weight : Nat) : Decidable (q.InRange priority weight) :=
  inferInstanceAs (Decidable (_ ∧ _))

section Positions

variable {q : QueueJob T} {priority weight : Nat}

theorem pIndex_eq (positive : 1 ≤ priority) (limited : priority ≤ maxNumPriority) :
    pIndex priority = priority - 1 := by
  simp only [pIndex, maxNumPriority, unsignedRange] at *
  omega

theorem dIndex_eq (priorities : q.numPriority ≤ maxNumPriority)
    (weights : q.maxWeight ≤ maxMaxWeight) (inRange : q.InRange priority weight) :
    q.dIndex priority weight = (priority - 1) * q.maxWeight + (weight - 1) := by
  obtain ⟨positive, limited, weighted, light⟩ := inRange
  have scaled : (priority - 1) * q.maxWeight ≤ 2 * 3 :=
    Nat.mul_le_mul (by simp only [maxNumPriority] at priorities; omega) weights
  rw [dIndex, pIndex_eq positive (limited.trans priorities)]
  simp only [maxMaxWeight, unsignedRange] at *
  omega

theorem dIndex_div (priorities : q.numPriority ≤ maxNumPriority)
    (weights : q.maxWeight ≤ maxMaxWeight) (inRange : q.InRange priority weight) :
    q.dIndex priority weight / q.maxWeight = priority - 1 := by
  rw [dIndex_eq priorities weights inRange, Nat.mul_comm]
  obtain ⟨-, -, weighted, light⟩ := inRange
  rw [Nat.mul_add_div (by omega), Nat.div_eq_of_lt (by omega), Nat.add_zero]

theorem dIndex_mod (priorities : q.numPriority ≤ maxNumPriority)
    (weights : q.maxWeight ≤ maxMaxWeight) (inRange : q.InRange priority weight) :
    q.dIndex priority weight % q.maxWeight + 1 = weight := by
  rw [dIndex_eq priorities weights inRange, Nat.mul_comm, Nat.mul_add_mod]
  obtain ⟨-, -, weighted, light⟩ := inRange
  rw [Nat.mod_eq_of_lt (by omega)]
  omega

theorem dIndex_lt (priorities : q.numPriority ≤ maxNumPriority)
    (weights : q.maxWeight ≤ maxMaxWeight) (inRange : q.InRange priority weight) :
    q.dIndex priority weight < q.dataQueues := by
  have weighted : 0 < q.maxWeight := by have := inRange.2.2; omega
  rw [dataQueues, ← Nat.div_lt_iff_lt_mul weighted, dIndex_div priorities weights inRange]
  have := inRange.1; have := inRange.2.1
  omega

theorem div_lt_of_dataQueue {d : Nat} (inside : d < q.dataQueues) :
    d / q.maxWeight < q.numPriority :=
  Nat.div_lt_of_lt_mul (by rwa [dataQueues, Nat.mul_comm] at inside)

end Positions

theorem stored_update {q : QueueJob T} (after : QueueJob T) {d : Nat} {entries : List T}
    (inside : d < q.dataQueues) (sameSize : after.dataQueues = q.dataQueues)
    (updated : after.dataQueue = Function.update q.dataQueue d entries) :
    after.stored + (q.dataQueue d).length = q.stored + entries.length := by
  have member : d ∈ Finset.range q.dataQueues := Finset.mem_range.mpr inside
  simp only [stored, sameSize, updated]
  rw [← Finset.add_sum_erase _ _ member, ← Finset.add_sum_erase _ _ member]
  have others : ∑ other ∈ (Finset.range q.dataQueues).erase d,
      (Function.update q.dataQueue d entries other).length =
      ∑ other ∈ (Finset.range q.dataQueues).erase d, (q.dataQueue other).length :=
    Finset.sum_congr rfl fun other inErase => by
      rw [Function.update_of_ne (Finset.ne_of_mem_erase inErase)]
  rw [others, Function.update_self]
  omega

theorem length_le_stored {q : QueueJob T} {d : Nat} (inside : d < q.dataQueues) :
    (q.dataQueue d).length ≤ q.stored :=
  Finset.single_le_sum (f := fun d => (q.dataQueue d).length) (fun _ _ => Nat.zero_le _)
    (Finset.mem_range.mpr inside)

theorem exists_of_stored {q : QueueJob T} (positive : 0 < q.stored) :
    ∃ d < q.dataQueues, 0 < (q.dataQueue d).length := by
  by_contra none
  push Not at none
  have zero : q.stored = 0 :=
    Finset.sum_eq_zero fun d inside =>
      Nat.le_zero.mp (none d (Finset.mem_range.mp inside))
  omega

theorem construct_invariant {numPriority maxWeight : Nat} {q : QueueJob T}
    (built : construct numPriority maxWeight = some q) :
    q.Invariant ∧ q.numPriority = numPriority ∧ q.maxWeight = maxWeight ∧
      ∀ d, q.dataQueue d = [] := by
  simp only [construct] at built
  split at built
  · cases built
  split at built
  · cases built
  case isFalse priorities weights =>
    cases built
    refine ⟨⟨Nat.le_of_not_lt priorities, Nat.le_of_not_lt weights, rfl, Nat.two_pow_pos 32, ?_, ?_, ?_⟩,
      rfl, rfl, fun _ => rfl⟩
    · simp [stored]
    · simp
    · simp

section Enqueue

variable {q : QueueJob T}

theorem enqueueGuard_pass (invariant : q.Invariant) (blocking : Bool) :
    q.enqueueGuard blocking = none := by
  have bounded := invariant.bounded
  simp only [unsignedRange] at bounded
  have below : q.total ≠ maxSize := by simp only [maxSize]; omega
  simp [enqueueGuard, invariant.waiting, below]

theorem enqueue_cases (invariant : q.Invariant) (entry : T) (blocking : Bool)
    {priority weight : Nat} (inRange : q.InRange priority weight)
    (room : q.total + 1 < unsignedRange) :
    ∃ d, d = q.dIndex priority weight ∧ d < q.dataQueues ∧
      q.enqueue entry blocking priority weight =
        ({ q with
            indexQueue := if (q.dataQueue d).length < d % q.maxWeight + 1
              then Function.update q.indexQueue (d / q.maxWeight) (q.indexQueue (d / q.maxWeight) ++ [d])
              else q.indexQueue
            dataQueue := Function.update q.dataQueue d (q.dataQueue d ++ [entry])
            total := q.total + 1 },
          .returned (toInt (q.total + 1))) := by
  have div := dIndex_div invariant.priorities invariant.weights inRange
  have mod := dIndex_mod invariant.priorities invariant.weights inRange
  refine ⟨_, rfl, dIndex_lt invariant.priorities invariant.weights inRange, ?_⟩
  simp only [enqueue, enqueueGuard_pass invariant, div, mod,
    pIndex_eq inRange.1 (inRange.2.1.trans invariant.priorities), Nat.mod_eq_of_lt room]
  by_cases light : (q.dataQueue (q.dIndex priority weight)).length < weight <;>
    simp only [light, ↓reduceIte, pushIndex, pushData]

theorem enqueue_invariant (invariant : q.Invariant) (entry : T) (blocking : Bool)
    {priority weight : Nat} (inRange : q.InRange priority weight)
    (room : q.total + 1 < unsignedRange) :
    (q.enqueue entry blocking priority weight).1.Invariant := by
  obtain ⟨d, -, inside, same⟩ := enqueue_cases invariant entry blocking inRange room
  rw [same]
  refine ⟨invariant.priorities, invariant.weights, invariant.waiting, room, ?_, ?_, ?_⟩
  · have sum := stored_update { q with
      dataQueue := Function.update q.dataQueue d (q.dataQueue d ++ [entry]) } inside rfl rfl
    have counted := invariant.counted
    simp only [List.length_append, List.length_singleton] at sum
    simp only [stored, dataQueues] at sum counted ⊢
    omega
  · intro other otherInside
    have counts := invariant.indexed other otherInside
    by_cases equal : other = d
    · subst equal
      split
      · simp only [Function.update_self, List.count_append, List.count_singleton_self, List.length_append,
          List.length_singleton]
        omega
      · simp only [Function.update_self, List.length_append, List.length_singleton]
        omega
    · have unchanged : List.count other [d] = 0 :=
        List.count_eq_zero.mpr (by simpa only [List.mem_singleton] using equal)
      simp only [Function.update_of_ne equal]
      split
      · by_cases home : other / q.maxWeight = d / q.maxWeight
        · rw [home, Function.update_self, List.count_append, unchanged, Nat.add_zero, ← home]
          exact counts
        · rw [Function.update_of_ne home]
          exact counts
      · exact counts
  · intro p inPriorities other member
    have placed := invariant.placed p inPriorities other
    dsimp only at member
    split at member
    · by_cases home : p = d / q.maxWeight
      · subst home
        rw [Function.update_self, List.mem_append, List.mem_singleton] at member
        rcases member with member | rfl
        · exact placed member
        · exact ⟨inside, rfl⟩
      · rw [Function.update_of_ne home] at member
        exact placed member
    · exact placed member

end Enqueue

section Dequeue

variable {q : QueueJob T}

theorem dequeue_empty (invariant : q.Invariant) (blocking : Bool) (empty : q.total = 0) :
    q.dequeue blocking = (q, if blocking then .waits else .returned 0) := by
  cases blocking <;> simp [dequeue, invariant.waiting, empty]

theorem dequeue_cases (invariant : q.Invariant) (blocking : Bool) (positive : 0 < q.total) :
    ∃ d indices entry entries, d < q.dataQueues ∧
      q.indexQueue (d / q.maxWeight) = d :: indices ∧ q.dataQueue d = entry :: entries ∧
      q.dequeue blocking = (q.serve (d / q.maxWeight) d indices entries, .served d entry) := by
  have nonempty : ¬q.total = 0 := Nat.ne_of_gt positive
  cases found : (List.range q.numPriority).find? fun p => !(q.indexQueue p).isEmpty with
  -- Some data queue holds an entry, so that its index is in an index queue.
  | none =>
    obtain ⟨d, inside, occupied⟩ := exists_of_stored (q := q) (by rwa [← invariant.counted])
    have counts := invariant.indexed d inside
    have empty := List.find?_eq_none.mp found (d / q.maxWeight)
      (List.mem_range.mpr (div_lt_of_dataQueue inside))
    simp only [Bool.not_eq_true', Bool.not_eq_false, List.isEmpty_iff] at empty
    rw [empty, List.count_nil] at counts
    omega
  | some p =>
    have inPriorities := List.mem_range.mp (List.mem_of_find?_eq_some found)
    have nonemptyIndex := List.find?_some found
    cases front : q.indexQueue p with
    | nil => simp [front] at nonemptyIndex
    | cons d indices =>
      obtain ⟨inside, home⟩ := invariant.placed p inPriorities d (by simp [front])
      subst home
      have counts := invariant.indexed d inside
      rw [front, List.count_cons_self] at counts
      cases content : q.dataQueue d with
      | nil =>
        rw [content, List.length_nil] at counts
        omega
      | cons entry entries =>
        refine ⟨d, indices, entry, entries, inside, front, content, ?_⟩
        simp [dequeue, invariant.waiting, nonempty, found, front, content]

theorem serve_invariant (invariant : q.Invariant) {d : Nat} {indices : List Nat} {entry : T}
    {entries : List T} (inside : d < q.dataQueues)
    (front : q.indexQueue (d / q.maxWeight) = d :: indices)
    (content : q.dataQueue d = entry :: entries) :
    (q.serve (d / q.maxWeight) d indices entries).Invariant ∧
      (q.serve (d / q.maxWeight) d indices entries).dataQueue =
        Function.update q.dataQueue d entries := by
  have bounded := invariant.bounded
  have counted := invariant.counted
  have held := length_le_stored (q := q) inside
  have sum := stored_update { q with
    dataQueue := Function.update q.dataQueue d entries } inside rfl rfl
  rw [content, List.length_cons] at held sum
  -- The counter is unsigned, and does not wrap since an entry is stored.
  have total : (q.total + unsignedRange - 1) % unsignedRange = q.total - 1 := by
    simp only [unsignedRange] at bounded ⊢
    omega
  have ofD := invariant.indexed d inside
  rw [front, content, List.count_cons_self, List.length_cons] at ofD
  -- Both updates of the index queue are one, with or without the index put back.
  have same : q.serve (d / q.maxWeight) d indices entries =
      { q with
        indexQueue := Function.update q.indexQueue (d / q.maxWeight)
          (indices ++ if d % q.maxWeight + 1 ≤ entries.length then [d] else [])
        dataQueue := Function.update q.dataQueue d entries
        total := q.total - 1 } := by
    simp only [serve, total]
    split
    · simp only [pushIndex, Function.update_self, Function.update_idem]
    · simp only [List.append_nil]
  rw [same]
  refine ⟨⟨invariant.priorities, invariant.weights, invariant.waiting, ?_, ?_, ?_, ?_⟩, rfl⟩
  · exact Nat.lt_of_le_of_lt (Nat.sub_le _ _) bounded
  · simp only [stored, dataQueues] at sum counted held ⊢
    omega
  -- The queue that was served is put back when it holds more than its weight.
  · intro other otherInside
    have counts := invariant.indexed other otherInside
    by_cases equal : other = d
    · subst equal
      simp only [Function.update_self, List.count_append]
      split
      · rw [List.count_singleton_self]
        omega
      · rw [List.count_nil]
        omega
    · have unchanged : List.count other
          (if d % q.maxWeight + 1 ≤ entries.length then [d] else []) = 0 := by
        split
        · exact List.count_eq_zero.mpr (by simpa only [List.mem_singleton] using equal)
        · exact List.count_nil
      simp only [Function.update_of_ne equal]
      by_cases home : other / q.maxWeight = d / q.maxWeight
      · rw [home, front, List.count_cons_of_ne (Ne.symm equal)] at counts
        rw [home, Function.update_self, List.count_append, unchanged, Nat.add_zero]
        exact counts
      · rw [Function.update_of_ne home]
        exact counts
  · intro p inPriorities other member
    have placed := invariant.placed p inPriorities other
    by_cases home : p = d / q.maxWeight
    · subst home
      rw [front] at placed
      simp only [Function.update_self, List.mem_append] at member
      rcases member with member | member
      · exact placed (List.mem_cons_of_mem _ member)
      · split at member
        · rw [List.mem_singleton.mp member]
          exact ⟨inside, rfl⟩
        · cases member
    · simp only [Function.update_of_ne home] at member
      exact placed member

end Dequeue

theorem flush_invariant {q : QueueJob T} (invariant : q.Invariant) : q.flush.Invariant := by
  refine ⟨invariant.priorities, invariant.weights, invariant.waiting, Nat.two_pow_pos 32, ?_, ?_, ?_⟩
  · refine (Finset.sum_eq_zero fun d inside => ?_).symm
    have inside : d < q.numPriority * q.maxWeight := Finset.mem_range.mp inside
    simp [flush, inside]
  · intro d (inside : d < q.numPriority * q.maxWeight)
    have home : d / q.maxWeight < q.numPriority := div_lt_of_dataQueue inside
    simp [flush, inside, home]
  · intro p (inPriorities : p < q.numPriority) d member
    simp [flush, inPriorities] at member

section Remove

variable [DecidableEq T]

/-- The counter makes no difference: every index of `d` is erased. -/
theorem adjustFrom_eq (d size j : Nat) (indices : List Nat) :
    adjustFrom d size j indices = indices.filter (· ≠ d) := by
  fun_induction adjustFrom d size j indices with
  | case1 => rfl
  | case2 j rest exceeded ih => simpa using ih
  | case3 j rest kept ih => exact ih
  | case4 j i rest other ih => simp [other, ih]

/-- How often `entry` is stored. -/
def occurrences (q : QueueJob T) (entry : T) : Nat :=
  ∑ d ∈ Finset.range q.dataQueues, (q.dataQueue d).count entry

/-- The number of occurrences in the last data queue below `k` that has any. -/
def lastRemoved (q : QueueJob T) (entry : T) : Nat → Nat
  | 0 => 0
  | k + 1 => if entry ∈ q.dataQueue k then (q.dataQueue k).count entry else lastRemoved q entry k

/-- The state of `Remove` once the data queues below `k` are done. -/
structure RemovedBelow (q : QueueJob T) (entry : T) (k : Nat) (current : QueueJob T)
    (totalRemove : Int) : Prop where
  numPriority : current.numPriority = q.numPriority
  maxWeight : current.maxWeight = q.maxWeight
  signaled : current.signaled = q.signaled
  dataQueue : ∀ d, current.dataQueue d =
    if d < k then (q.dataQueue d).filter (· ≠ entry) else q.dataQueue d
  indexQueue : ∀ p, current.indexQueue p =
    (q.indexQueue p).filter fun d => ¬(d < k ∧ d / q.maxWeight = p ∧ entry ∈ q.dataQueue d)
  total : current.total + ∑ d ∈ Finset.range k, (q.dataQueue d).count entry = q.total
  totalRemove : totalRemove = toInt (q.lastRemoved entry k)

theorem length_filter_ne (entries : List T) (entry : T) :
    (entries.filter (· ≠ entry)).length + entries.count entry = entries.length := by
  have split := List.length_eq_length_filter_add (l := entries) (· ≠ entry)
  rw [List.count_eq_length_filter]
  simp only [ne_eq, decide_not, Bool.not_not] at split ⊢
  have same : (entries.filter fun other => decide (other = entry)).length =
      (entries.filter fun other => other == entry).length := by
    congr 2
  omega

theorem count_le_stored {q : QueueJob T} (entry : T) {k : Nat} (inside : k ≤ q.dataQueues) :
    ∑ d ∈ Finset.range k, (q.dataQueue d).count entry ≤ q.stored :=
  (Finset.sum_le_sum fun _ _ => List.count_le_length).trans
    (Finset.sum_le_sum_of_subset (Finset.range_subset_range.mpr inside))

theorem removeAt_absent {entry : T} {p d : Nat} {current : QueueJob T} {totalRemove : Int}
    (absent : entry ∉ current.dataQueue d) :
    removeAt entry p (current, totalRemove) d = (current, totalRemove) := by
  have kept : (current.dataQueue d).filter (· ≠ entry) = current.dataQueue d :=
    List.filter_eq_self.mpr fun other member => by
      simpa using fun same : other = entry => absent (same ▸ member)
  simp only [removeAt, kept, Function.update_eq_self, ne_eq, not_true_eq_false, ↓reduceIte]

theorem removeAt_present {entry : T} {p d : Nat} {current : QueueJob T} {totalRemove : Int}
    (member : entry ∈ current.dataQueue d) (short : (current.dataQueue d).length < unsignedRange)
    (bounded : current.total < unsignedRange)
    (enough : (current.dataQueue d).count entry ≤ current.total) :
    removeAt entry p (current, totalRemove) d =
      ({ current with
          indexQueue := Function.update current.indexQueue p ((current.indexQueue p).filter (· ≠ d))
          dataQueue := Function.update current.dataQueue d ((current.dataQueue d).filter (· ≠ entry))
          total := current.total - (current.dataQueue d).count entry },
        toInt ((current.dataQueue d).count entry)) := by
  have positive : 0 < (current.dataQueue d).count entry := List.count_pos_iff.mpr member
  have kept := length_filter_ne (current.dataQueue d) entry
  have pre : (current.dataQueue d).length % unsignedRange = (current.dataQueue d).length :=
    Nat.mod_eq_of_lt short
  have post : ((current.dataQueue d).filter (· ≠ entry)).length % unsignedRange =
      ((current.dataQueue d).filter (· ≠ entry)).length := Nat.mod_eq_of_lt (by omega)
  have changed : (current.dataQueue d).length ≠
      ((current.dataQueue d).filter (· ≠ entry)).length := by omega
  have difference : ((current.dataQueue d).length + unsignedRange -
      ((current.dataQueue d).filter (· ≠ entry)).length) % unsignedRange =
      (current.dataQueue d).count entry := by
    simp only [unsignedRange] at *
    omega
  have total : (current.total + unsignedRange - (current.dataQueue d).count entry) % unsignedRange =
      current.total - (current.dataQueue d).count entry := by
    simp only [unsignedRange] at *
    omega
  simp only [removeAt, pre, post, ne_eq, changed, not_false_eq_true, ↓reduceIte, difference, total,
    adjustIndexQueue, adjustFrom_eq]

theorem removeAt_step {q : QueueJob T} (invariant : q.Invariant) {entry : T} {k : Nat}
    {current : QueueJob T} {totalRemove : Int} (inside : k < q.dataQueues)
    (below : q.RemovedBelow entry k current totalRemove) :
    ∃ after, removeAt entry (k / q.maxWeight) (current, totalRemove) k = after ∧
      q.RemovedBelow entry (k + 1) after.1 after.2 := by
  have content : current.dataQueue k = q.dataQueue k := by simpa using below.dataQueue k
  have earlier : ∀ d, d ≠ k → (d < k + 1 ↔ d < k) := fun d other => by omega
  -- A data queue that holds the entry loses it, and its index leaves the index queue.
  by_cases member : entry ∈ q.dataQueue k
  · have bounded := invariant.bounded
    have counted := invariant.counted
    have held := length_le_stored inside
    have enough := count_le_stored entry (Nat.succ_le_of_lt inside)
    have total := below.total
    rw [Finset.sum_range_succ] at enough
    refine ⟨_, removeAt_present (by rwa [content]) (by rw [content]; omega) (by omega)
      (by rw [content]; omega), ?_⟩
    rw [content]
    refine ⟨below.numPriority, below.maxWeight, below.signaled, ?_, ?_, ?_, ?_⟩
    · intro d
      by_cases equal : d = k
      · subst equal
        simp
      · simp only [Function.update_of_ne equal, below.dataQueue d, earlier d equal]
    · intro p
      by_cases home : p = k / q.maxWeight
      · subst home
        simp only [Function.update_self, below.indexQueue, List.filter_filter]
        refine List.filter_congr fun d _ => ?_
        by_cases equal : d = k
        · subst equal
          simp [member]
        · simp [equal, earlier d equal]
      · simp only [Function.update_of_ne home, below.indexQueue]
        refine List.filter_congr fun d _ => ?_
        by_cases equal : d = k
        · subst equal
          simp [Ne.symm home]
        · simp only [earlier d equal]
    · rw [Finset.sum_range_succ]
      dsimp only
      omega
    · simp only [lastRemoved, member, ↓reduceIte]
  · refine ⟨_, removeAt_absent (by rwa [content]), ?_⟩
    refine ⟨below.numPriority, below.maxWeight, below.signaled, ?_, ?_, ?_, ?_⟩
    · intro d
      by_cases equal : d = k
      · subst equal
        have kept : (q.dataQueue d).filter (· ≠ entry) = q.dataQueue d :=
          List.filter_eq_self.mpr fun other inQueue => by
            simpa using fun same : other = entry => member (same ▸ inQueue)
        rw [content, if_pos (Nat.lt_succ_self d), kept]
      · simp only [below.dataQueue d, earlier d equal]
    · intro p
      rw [below.indexQueue]
      refine List.filter_congr fun d _ => ?_
      by_cases equal : d = k
      · subst equal
        simp [member]
      · simp only [earlier d equal]
    · rw [Finset.sum_range_succ, List.count_eq_zero.mpr member]
      exact below.total
    · simp only [lastRemoved, member, ↓reduceIte]
      exact below.totalRemove

theorem remove_cases {q : QueueJob T} (invariant : q.Invariant) (entry : T) :
    ∃ after totalRemove, q.remove entry = (after, .returned totalRemove) ∧
      q.RemovedBelow entry q.dataQueues after totalRemove := by
  refine ⟨_, _, rfl, ?_⟩
  have start : q.RemovedBelow entry (0 * q.maxWeight) q 0 :=
    ⟨rfl, rfl, rfl, by simp, by simp, by simp, by simp [lastRemoved, toInt]⟩
  -- The two loops are folds, over the priorities and over the data queues of each.
  have loop := Foundation.foldl_range'_invariant
    (fun p state => q.RemovedBelow entry (p * q.maxWeight) state.1 state.2)
    (fun state p => (q.dIndices p).foldl (removeAt entry p) state) 0 q.numPriority (q, 0) start ?_
  · simpa only [List.range_eq_range', dataQueues, Nat.zero_add] using loop
  · intro p state _ inPriorities below
    rw [Nat.succ_mul]
    refine Foundation.foldl_range'_invariant (fun k state => q.RemovedBelow entry k state.1 state.2)
      (removeAt entry p) _ _ state below ?_
    intro k state above limited below
    have home : k / q.maxWeight = p :=
      Nat.div_eq_of_lt_le (by omega) (by rw [Nat.succ_mul]; exact limited)
    have inside : k < q.dataQueues := by
      have room : (p + 1) * q.maxWeight ≤ q.dataQueues :=
        Nat.mul_le_mul_right _ (by omega)
      rw [Nat.succ_mul] at room
      omega
    obtain ⟨after, same, done⟩ := removeAt_step invariant inside below
    rw [home] at same
    exact same ▸ done

structure RemovesCleanly (q : QueueJob T) (entry : T) : Prop where
  emptied : ∀ d < q.dataQueues, entry ∈ q.dataQueue d → ∀ other ∈ q.dataQueue d, other = entry
  alone : ∀ d < q.dataQueues, entry ∈ q.dataQueue d →
    ∀ e < q.dataQueues, entry ∈ q.dataQueue e → d = e
  /-- The number of occurrences is an `int`. -/
  short : ∀ d < q.dataQueues, (q.dataQueue d).count entry < 2 ^ 31

theorem lastRemoved_eq_iff (q : QueueJob T) (entry : T) (k : Nat) :
    q.lastRemoved entry k = ∑ d ∈ Finset.range k, (q.dataQueue d).count entry ↔
      ∀ d < k, entry ∈ q.dataQueue d → ∀ e < k, entry ∈ q.dataQueue e → d = e := by
  induction k with
  | zero => simp [lastRemoved]
  | succ k ih =>
    rw [Finset.sum_range_succ]
    unfold lastRemoved
    by_cases member : entry ∈ q.dataQueue k
    · rw [if_pos member]
      constructor
      · intro same d dInside dMember e eInside eMember
        have none : ∑ d ∈ Finset.range k, (q.dataQueue d).count entry = 0 := by omega
        rw [Finset.sum_eq_zero_iff] at none
        have last : ∀ d < k + 1, entry ∈ q.dataQueue d → d = k := by
          intro d inside dMember
          by_contra other
          have zero := none d (Finset.mem_range.mpr (by omega))
          exact List.count_eq_zero.mp zero dMember
        rw [last d dInside dMember, last e eInside eMember]
      · intro alone
        have none : ∑ d ∈ Finset.range k, (q.dataQueue d).count entry = 0 := by
          apply Finset.sum_eq_zero
          intro d inside
          have inside := Finset.mem_range.mp inside
          apply List.count_eq_zero.mpr
          intro dMember
          have same := alone d (by omega) dMember k (by omega) member
          omega
        omega
    · rw [if_neg member, List.count_eq_zero.mpr member, Nat.add_zero, ih]
      constructor
      · intro alone d dInside dMember e eInside eMember
        have below : ∀ d < k + 1, entry ∈ q.dataQueue d → d < k := by
          intro d inside dMember
          by_contra other
          have same : d = k := by omega
          exact member (same ▸ dMember)
        exact alone d (below d dInside dMember) dMember e (below e eInside eMember) eMember
      · intro alone d dInside dMember e eInside
        exact alone d (by omega) dMember e (by omega)

theorem lastRemoved_le (q : QueueJob T) (entry : T) (k : Nat) :
    q.lastRemoved entry k ≤ ∑ d ∈ Finset.range k, (q.dataQueue d).count entry := by
  induction k with
  | zero => exact Nat.zero_le _
  | succ k ih =>
    rw [Finset.sum_range_succ]
    unfold lastRemoved
    split <;> omega

theorem count_le_occurrences {q : QueueJob T} (entry : T) {d : Nat} (inside : d < q.dataQueues) :
    (q.dataQueue d).count entry ≤ q.occurrences entry :=
  Finset.single_le_sum (f := fun d => (q.dataQueue d).count entry) (fun _ _ => Nat.zero_le _)
    (Finset.mem_range.mpr inside)

theorem toInt_eq_iff {value expected : Nat} (bounded : value < unsignedRange) :
    toInt value = expected ↔ value = expected ∧ value < 2 ^ 31 := by
  unfold toInt
  simp only [unsignedRange] at *
  split <;> omega

theorem remove_index {q after : QueueJob T} {entry : T} {totalRemove : Int}
    (removed : q.RemovedBelow entry q.dataQueues after totalRemove) {d : Nat}
    (inside : d < q.dataQueues) :
    (after.indexQueue (d / q.maxWeight)).count d =
      if entry ∈ q.dataQueue d then 0 else (q.indexQueue (d / q.maxWeight)).count d := by
  rw [removed.indexQueue]
  split
  case isTrue member =>
    apply List.count_eq_zero.mpr
    simp [inside, member]
  case isFalse absent =>
    apply List.count_filter
    simp [absent]

theorem remove_invariant {q : QueueJob T} (invariant : q.Invariant) {entry : T}
    (cleanly : q.RemovesCleanly entry) :
    (q.remove entry).1.Invariant ∧ (q.remove entry).2 = .returned (q.occurrences entry) := by
  obtain ⟨after, totalRemove, same, removed⟩ := remove_cases invariant entry
  have sizes : after.dataQueues = q.dataQueues := by
    rw [dataQueues, removed.numPriority, removed.maxWeight, dataQueues]
  have total := removed.total
  have enough := count_le_stored entry (Nat.le_refl q.dataQueues)
  have bounded := invariant.bounded
  rw [same]
  constructor
  · constructor
    · exact removed.numPriority.trans_le invariant.priorities
    · exact removed.maxWeight.trans_le invariant.weights
    · exact removed.signaled.trans invariant.waiting
    · dsimp only
      omega
    · have split : after.stored + ∑ d ∈ Finset.range q.dataQueues, (q.dataQueue d).count entry =
          q.stored := by
        rw [stored, sizes, ← Finset.sum_add_distrib]
        apply Finset.sum_congr rfl
        intro d inside
        rw [removed.dataQueue, if_pos (Finset.mem_range.mp inside)]
        exact length_filter_ne _ _
      have counted := invariant.counted
      dsimp only
      omega
    · intro d (inside : d < after.dataQueues)
      rw [sizes] at inside
      dsimp only
      rw [removed.maxWeight, remove_index removed inside, removed.dataQueue, if_pos inside]
      have counts := invariant.indexed d inside
      split
      case isTrue member =>
        have empty : (q.dataQueue d).filter (· ≠ entry) = [] := by
          simpa [List.filter_eq_nil_iff] using cleanly.emptied d inside member
        rw [empty, List.length_nil, Nat.zero_min]
      case isFalse absent =>
        have kept := length_filter_ne (q.dataQueue d) entry
        rw [List.count_eq_zero.mpr absent] at kept
        rw [counts, ← kept, Nat.add_zero]
    · intro p (inPriorities : p < after.numPriority) d member
      rw [removed.numPriority] at inPriorities
      dsimp only at member ⊢
      rw [removed.indexQueue] at member
      rw [removed.maxWeight, sizes]
      exact invariant.placed p inPriorities d (List.mem_filter.mp member).1
  -- The count that is returned is that of the last data queue alone.
  · have last := (lastRemoved_eq_iff q entry q.dataQueues).mpr cleanly.alone
    have few : q.lastRemoved entry q.dataQueues < 2 ^ 31 := by
      have all : ∀ k ≤ q.dataQueues, q.lastRemoved entry k < 2 ^ 31 := by
        intro k inside
        induction k with
        | zero => exact Nat.two_pow_pos 31
        | succ k ih =>
          unfold lastRemoved
          split
          · exact cleanly.short k inside
          · exact ih (Nat.le_of_succ_le inside)
      exact all _ (Nat.le_refl _)
    dsimp only
    rw [removed.totalRemove, Answer.returned.injEq, toInt_eq_iff (by omega)]
    exact ⟨last, few⟩

theorem remove_invariant_iff {q : QueueJob T} (invariant : q.Invariant) (entry : T) :
    (q.remove entry).1.Invariant ∧ (q.remove entry).2 = .returned (q.occurrences entry) ↔
      q.RemovesCleanly entry := by
  constructor
  · intro ⟨kept, answered⟩
    obtain ⟨after, totalRemove, same, removed⟩ := remove_cases invariant entry
    have sizes : after.dataQueues = q.dataQueues := by
      rw [dataQueues, removed.numPriority, removed.maxWeight, dataQueues]
    have enough := count_le_stored entry (Nat.le_refl q.dataQueues)
    have bounded := invariant.bounded
    have counted := invariant.counted
    have atMost := lastRemoved_le q entry q.dataQueues
    rw [same] at kept answered
    dsimp only at kept answered
    rw [removed.totalRemove, Answer.returned.injEq, toInt_eq_iff (by omega)] at answered
    constructor
    · intro d inside member other otherMember
      have counts := kept.indexed d (sizes ▸ inside)
      rw [removed.maxWeight, remove_index removed inside, if_pos member, removed.dataQueue,
        if_pos inside] at counts
      have empty : (q.dataQueue d).filter (· ≠ entry) = [] := by
        apply List.eq_nil_of_length_eq_zero
        omega
      simpa using List.filter_eq_nil_iff.mp empty other otherMember
    · exact (lastRemoved_eq_iff q entry q.dataQueues).mp answered.1
    · intro d inside
      have := count_le_occurrences entry inside
      omega
  · exact fun cleanly => remove_invariant invariant cleanly

end Remove

end OpenDiameter.Framework.QueueJob
