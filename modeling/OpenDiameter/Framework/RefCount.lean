import Mathlib.Tactic.Push
import OpenDiameter.Framework.GroupedJob
import OpenDiameter.Framework.QueueInvariant

/-! Reference counts of scheduled jobs over whole histories.

A grouped job uses one data queue of its job queue, as a line. The counts stay
balanced exactly in the histories whose calls all avoid the paths on which an
`Acquire` or the last `Release` is lost.
-/

set_option autoImplicit false

namespace OpenDiameter.Framework

section Line

namespace QueueJob

variable {J : Type} {q : QueueJob J}

def backlog (q : QueueJob J) : List J := q.dataQueue 0

structure Lined (q : QueueJob J) : Prop where
  priorities : 1 ≤ q.numPriority
  weights : 1 ≤ q.maxWeight
  data : ∀ d, d ≠ 0 → q.dataQueue d = []
  index : ∀ p, p ≠ 0 → q.indexQueue p = []
  front : q.indexQueue 0 = [] ∨ q.indexQueue 0 = [0] ∧ q.backlog ≠ []
  counted : q.total = q.backlog.length % unsignedRange

def Serveable (q : QueueJob J) (blocking : Bool) : Prop :=
  (q.signaled = true ∨ 0 < q.total) ∧ ¬(q.signaled = true ∧ blocking = true) ∧ q.indexQueue 0 ≠ []

instance (q : QueueJob J) (blocking : Bool) : Decidable (q.Serveable blocking) :=
  inferInstanceAs (Decidable (_ ∧ _ ∧ _))

theorem construct_lined {numPriority maxWeight : Nat} (built : construct numPriority maxWeight = some q)
    (priorities : 1 ≤ numPriority) (weights : 1 ≤ maxWeight) :
    q.Lined ∧ q.backlog = [] ∧ q.signaled = false := by
  simp only [construct] at built
  split at built
  · cases built
  · split at built
    · cases built
    · cases built
      exact ⟨⟨priorities, weights, fun _ _ => rfl, fun _ _ => rfl, Or.inl rfl, rfl⟩, rfl, rfl⟩

theorem enqueueGuard_lined (lined : q.Lined) (blocking : Bool) :
    q.enqueueGuard blocking = if q.signaled = true ∧ blocking = true then some (.returned (-1)) else none := by
  have small : (q.total == maxSize) = false := by
    have bound : q.total < unsignedRange := lined.counted ▸ Nat.mod_lt _ (Nat.two_pow_pos 32)
    simp only [maxSize, unsignedRange] at bound ⊢
    simp only [beq_eq_false_iff_ne]
    omega
  simp [enqueueGuard, small]

theorem enqueue_line (lined : q.Lined) (job : J) {blocking : Bool}
    (accepted : ¬(q.signaled = true ∧ blocking = true)) :
    (q.enqueue job blocking 1 1).1 =
      { (if q.backlog.length < 1 then q.pushIndex 0 0 else q).pushData 0 job with
        total := (q.total + 1) % unsignedRange } := by
  have place : q.dIndex 1 1 = 0 := by
    simp [dIndex, pIndex, maxNumPriority, maxMaxWeight, unsignedRange]
  have row : pIndex 1 = 0 := by decide
  have guard := enqueueGuard_lined lined blocking
  rw [if_neg accepted] at guard
  unfold enqueue
  rw [guard, place, row]
  rfl

theorem enqueue_lined (lined : q.Lined) (job : J) {blocking : Bool}
    (accepted : ¬(q.signaled = true ∧ blocking = true)) :
    (q.enqueue job blocking 1 1).1.Lined ∧
      (q.enqueue job blocking 1 1).1.backlog = q.backlog ++ [job] ∧
      (q.enqueue job blocking 1 1).1.signaled = q.signaled := by
  rw [enqueue_line lined job accepted]
  have counted : (q.total + 1) % unsignedRange = (q.backlog ++ [job]).length % unsignedRange := by
    rw [lined.counted, Nat.mod_add_mod, List.length_append, List.length_singleton]
  by_cases first : q.backlog.length < 1
  · rw [if_pos first]
    have empty : q.indexQueue 0 = [] := by
      apply lined.front.resolve_right
      intro kept
      exact kept.2 (List.eq_nil_of_length_eq_zero (Nat.lt_one_iff.mp first))
    have line : ((q.pushIndex 0 0).pushData 0 job).backlog = q.backlog ++ [job] := by
      simp [backlog, pushData, pushIndex]
    refine ⟨⟨lined.priorities, lined.weights, ?_, ?_, Or.inr ⟨?_, ?_⟩, ?_⟩, line, rfl⟩
    · intro d other
      simp [pushData, pushIndex, other, lined.data d other]
    · intro p other
      simp [pushData, pushIndex, other, lined.index p other]
    · simp [pushData, pushIndex, empty]
    · exact line ▸ List.append_ne_nil_of_right_ne_nil _ (List.cons_ne_nil _ _)
    · exact counted.trans (congrArg (fun entries => entries.length % unsignedRange) line.symm)
  · rw [if_neg first]
    have line : (q.pushData 0 job).backlog = q.backlog ++ [job] := by
      simp [backlog, pushData]
    have present : (q.pushData 0 job).backlog ≠ [] :=
      line ▸ List.append_ne_nil_of_right_ne_nil _ (List.cons_ne_nil _ _)
    refine ⟨⟨lined.priorities, lined.weights, ?_, lined.index, ?_, ?_⟩, line, rfl⟩
    · intro d other
      simp [pushData, other, lined.data d other]
    · exact lined.front.imp_right fun kept => ⟨kept.1, present⟩
    · exact counted.trans (congrArg (fun entries => entries.length % unsignedRange) line.symm)

/-- What is left of the line when its front is handed out. -/
theorem serve_lined (lined : q.Lined) {job : J} {rest : List J} (line : q.backlog = job :: rest) :
    (q.serve 0 0 [] rest).Lined ∧ (q.serve 0 0 [] rest).backlog = rest ∧
      (q.serve 0 0 [] rest).signaled = q.signaled ∧
      (rest ≠ [] → (q.serve 0 0 [] rest).indexQueue 0 ≠ []) := by
  have counted : (q.total + unsignedRange - 1) % unsignedRange = rest.length % unsignedRange := by
    rw [lined.counted, line, List.length_cons]
    simp only [unsignedRange]
    omega
  unfold serve
  dsimp only
  rw [Nat.zero_mod, Nat.zero_add]
  by_cases more : 1 ≤ rest.length
  · rw [if_pos more]
    have present : rest ≠ [] := List.ne_nil_of_length_pos more
    refine ⟨⟨lined.priorities, lined.weights, ?_, ?_, Or.inr ⟨?_, ?_⟩, ?_⟩, ?_, rfl, ?_⟩
    · intro d other
      simp [pushIndex, other, lined.data d other]
    · intro p other
      simp [pushIndex, other, lined.index p other]
    · simp [pushIndex]
    · simpa [backlog, pushIndex] using present
    · simpa [backlog, pushIndex] using counted
    · simp [backlog, pushIndex]
    · simp [pushIndex]
  · rw [if_neg more]
    have none : rest = [] := List.eq_nil_of_length_eq_zero (by omega)
    refine ⟨⟨lined.priorities, lined.weights, ?_, ?_, Or.inl ?_, ?_⟩, ?_, rfl, ?_⟩
    · intro d other
      simp [other, lined.data d other]
    · intro p other
      simp [other, lined.index p other]
    · simp
    · simpa [backlog] using counted
    · simp [backlog]
    · exact absurd none

theorem dequeue_lined (lined : q.Lined) {blocking : Bool} (serveable : q.Serveable blocking) :
    ∃ job rest after, q.backlog = job :: rest ∧ q.dequeue blocking = (after, .served 0 job) ∧
      after.Lined ∧ after.backlog = rest ∧ after.signaled = q.signaled ∧
      (rest ≠ [] → after.indexQueue 0 ≠ []) := by
  obtain ⟨awake, unblocked, indexed⟩ := serveable
  obtain ⟨index, present⟩ := lined.front.resolve_left indexed
  obtain ⟨job, rest, line⟩ := List.exists_cons_of_ne_nil present
  have first : (List.range q.numPriority).find? (fun p => !(q.indexQueue p).isEmpty) = some 0 := by
    obtain ⟨n, more⟩ := Nat.exists_eq_add_of_le' lined.priorities
    rw [more, List.range_succ_eq_map, List.find?_cons_of_pos]
    simp [index]
  have data : q.dataQueue 0 = job :: rest := line
  have waits : ¬(!q.signaled && q.total == 0) = true := by
    rcases awake with signaled | filled
    · simp [signaled]
    · simp [Nat.ne_of_gt filled]
  have refused : ¬(q.signaled && blocking) = true := by simpa using unblocked
  refine ⟨job, rest, q.serve 0 0 [] rest, line, ?_, serve_lined lined line⟩
  unfold dequeue
  rw [if_neg waits, if_neg refused, first]
  dsimp only
  rw [index]
  dsimp only
  rw [data]

theorem dequeue_idle (lined : q.Lined) {blocking : Bool} (idle : ¬q.Serveable blocking) :
    (q.dequeue blocking).1 = q ∧ (∀ d job, (q.dequeue blocking).2 ≠ .served d job) ∧
      (q.dequeue blocking).2 ≠ .fault := by
  unfold dequeue
  split
  · split <;> exact ⟨rfl, nofun, nofun⟩
  · rename_i awake
    split
    · exact ⟨rfl, nofun, nofun⟩
    · rename_i unblocked
      have bare : q.indexQueue 0 = [] := by
        by_contra indexed
        apply idle
        refine ⟨?_, by simpa using unblocked, indexed⟩
        by_cases signaled : q.signaled = true
        · exact Or.inl signaled
        · simp only [signaled, Bool.not_false, Bool.true_and, beq_iff_eq] at awake
          exact Or.inr (Nat.pos_of_ne_zero awake)
      have none : (List.range q.numPriority).find? (fun p => !(q.indexQueue p).isEmpty) = none := by
        apply List.find?_eq_none.mpr
        intro p _
        by_cases front : p = 0
        · simp [front, bare]
        · simp [lined.index p front]
      rw [none]
      exact ⟨rfl, nofun, nofun⟩

section Remove

variable [DecidableEq J]

theorem foldl_removeAt_empty {p : Nat} {state : QueueJob J × Int} (job : J) (places : List Nat)
    (empty : ∀ d ∈ places, state.1.dataQueue d = []) : places.foldl (removeAt job p) state = state := by
  induction places with
  | nil => rfl
  | cons d places ih =>
    have absent : job ∉ state.1.dataQueue d := by
      rw [empty d List.mem_cons_self]
      exact List.not_mem_nil
    rw [List.foldl_cons, removeAt_absent absent]
    exact ih fun d' later => empty d' (List.mem_cons_of_mem _ later)

theorem removeAt_data (job : J) (p d : Nat) (state : QueueJob J × Int) :
    (removeAt job p state d).1.dataQueue =
      Function.update state.1.dataQueue d ((state.1.dataQueue d).filter (· ≠ job)) := by
  unfold removeAt
  dsimp only
  split <;> rfl

theorem remove_line (lined : q.Lined) (job : J) :
    q.remove job = ((removeAt job 0 (q, 0) 0).1, .returned (removeAt job 0 (q, 0) 0).2) := by
  have others : ∀ d, d ≠ 0 → (removeAt job 0 (q, 0) 0).1.dataQueue d = [] := by
    intro d other
    rw [removeAt_data, Function.update_of_ne other]
    exact lined.data d other
  obtain ⟨priorities, morePriorities⟩ := Nat.exists_eq_add_of_le' lined.priorities
  obtain ⟨weights, moreWeights⟩ := Nat.exists_eq_add_of_le' lined.weights
  have firstRow : (q.dIndices 0).foldl (removeAt job 0) (q, 0) = removeAt job 0 (q, 0) 0 := by
    rw [dIndices, Nat.zero_mul, moreWeights, List.range'_succ, List.foldl_cons]
    apply foldl_removeAt_empty
    intro d later
    apply others
    have := (List.mem_range'_1.mp later).1
    omega
  have row : ∀ rows : List Nat, (∀ p ∈ rows, p ≠ 0) →
      rows.foldl (fun state p => (q.dIndices p).foldl (removeAt job p) state) (removeAt job 0 (q, 0) 0) =
        removeAt job 0 (q, 0) 0 := by
    intro rows later
    induction rows with
    | nil => rfl
    | cons p rows ih =>
      rw [List.foldl_cons, foldl_removeAt_empty]
      · exact ih fun p' here => later p' (List.mem_cons_of_mem _ here)
      · intro d inside
        apply others
        have below := (List.mem_range'_1.mp inside).1
        have positive : 0 < p * q.maxWeight :=
          Nat.mul_pos (Nat.pos_of_ne_zero (later p List.mem_cons_self)) lined.weights
        omega
  unfold remove
  rw [morePriorities, List.range_succ_eq_map, List.foldl_cons, firstRow, row]
  intro p later
  obtain ⟨p', -, same⟩ := List.mem_map.mp later
  exact same ▸ Nat.succ_ne_zero p'

/-- The two sizes of `Remove` differ by what it took out. -/
theorem unsigned_difference {before after taken : Nat} (kept : after + taken = before) :
    (before % unsignedRange + unsignedRange - after % unsignedRange) % unsignedRange =
      taken % unsignedRange := by
  simp only [unsignedRange]
  omega

theorem unsigned_changed {before after taken : Nat} (kept : after + taken = before) :
    before % unsignedRange ≠ after % unsignedRange ↔ taken % unsignedRange ≠ 0 := by
  simp only [unsignedRange]
  omega

theorem unsigned_total {before after taken : Nat} (kept : after + taken = before)
    (few : taken < unsignedRange) :
    (before % unsignedRange + unsignedRange - taken % unsignedRange) % unsignedRange =
      after % unsignedRange := by
  simp only [unsignedRange] at *
  omega

theorem removeAt_count (job : J) :
    (removeAt job 0 (q, 0) 0).2 = toInt (q.backlog.count job % unsignedRange) := by
  have kept := length_filter_ne (q.dataQueue 0) job
  unfold removeAt backlog
  dsimp only
  split
  · exact congrArg toInt (unsigned_difference kept)
  · rename_i unchanged
    have none := Decidable.of_not_not (mt (unsigned_changed kept).mpr unchanged)
    rw [none]
    rfl

theorem remove_lined (lined : q.Lined) (job : J) (few : q.backlog.count job < unsignedRange) :
    (q.remove job).1.Lined ∧ (q.remove job).1.backlog = q.backlog.filter (· ≠ job) ∧
      (q.remove job).1.signaled = q.signaled := by
  rw [remove_line lined job]
  have kept := length_filter_ne (q.dataQueue 0) job
  have counted := lined.counted
  unfold backlog at few counted
  by_cases present : job ∈ q.dataQueue 0
  · have positive : 0 < (q.dataQueue 0).count job := List.count_pos_iff.mpr present
    have changed := (unsigned_changed kept).mpr (by rw [Nat.mod_eq_of_lt few]; exact Nat.ne_of_gt positive)
    unfold removeAt
    dsimp only
    rw [if_pos changed]
    refine ⟨⟨lined.priorities, lined.weights, ?_, ?_, Or.inl ?_, ?_⟩, ?_, rfl⟩
    · intro d other
      simp [adjustIndexQueue, other, lined.data d other]
    · intro p other
      simp [adjustIndexQueue, other, lined.index p other]
    · simp only [adjustIndexQueue, Function.update_self, adjustFrom_eq]
      rcases lined.front with bare | ⟨index, -⟩
      · rw [bare]
        rfl
      · rw [index]
        rfl
    · simp only [backlog, adjustIndexQueue, Function.update_self]
      rw [unsigned_difference kept, counted]
      exact unsigned_total kept few
    · simp [backlog, adjustIndexQueue]
  · rw [removeAt_absent present]
    have same : (q.dataQueue 0).filter (· ≠ job) = q.dataQueue 0 := by
      apply List.filter_eq_self.mpr
      intro other member
      simpa using fun equal : other = job => present (equal ▸ member)
    exact ⟨lined, same.symm, rfl⟩

end Remove

end QueueJob

end Line

section Counts

structure Job.Settled (job : Job) (occurrences : Nat) : Prop where
  counted : job.destroyed = 0 → job.refcount = job.owned.toNat + occurrences
  needed : job.destroyed = 0 → job.owned = true ∨ 0 < occurrences
  gone : job.destroyed ≠ 0 → job.destroyed = 1 ∧ job.owned = false ∧ occurrences = 0

namespace GroupedJob

variable {J : Type} [DecidableEq J] {g : GroupedJob J} {job : J}

def occurrences (g : GroupedJob J) (job : J) : Nat := g.queue.backlog.count job

structure Balanced (g : GroupedJob J) : Prop where
  unmisused : g.misused = false
  settled : ∀ job, (g.jobs job).Settled (g.occurrences job)

structure Between (g : GroupedJob J) : Prop where
  balanced : g.Balanced
  lined : g.queue.Lined
  ranged : ∀ job, (g.jobs job).refcount < 2 ^ 31

def Live (g : GroupedJob J) (job : J) : Prop := (g.jobs job).destroyed = 0

instance (g : GroupedJob J) (job : J) : Decidable (g.Live job) := inferInstanceAs (Decidable (_ = _))

section Numbers

theorem wrapInt_of_range {value : Int} (low : -2 ^ 31 ≤ value) (high : value < 2 ^ 31) :
    wrapInt value = value := by
  unfold wrapInt
  rw [Int.bmod_def]
  omega

theorem wrapInt_lt (value : Int) : wrapInt value < 2 ^ 31 := by
  unfold wrapInt
  rw [Int.bmod_def]
  omega

theorem wrapInt_top : wrapInt (2 ^ 31 - 1 + 1) = -2 ^ 31 := by decide

theorem settled_of_live {job : Job} {occurrences : Nat} (live : job.destroyed = 0) :
    job.Settled occurrences ↔
      job.refcount = job.owned.toNat + occurrences ∧ (job.owned = true ∨ 0 < occurrences) :=
  ⟨fun settled => ⟨settled.counted live, settled.needed live⟩,
    fun both => ⟨fun _ => both.1, fun _ => both.2, absurd live⟩⟩

theorem live_of_occurrences (balanced : g.Balanced) (queued : 0 < g.occurrences job) : g.Live job := by
  by_contra dead
  have gone := (balanced.settled job).gone dead
  omega

end Numbers

/-- A call that changes nothing but one job, as far as the counts go. -/
structure Concerns (g after : GroupedJob J) (job : J) : Prop where
  jobs : ∀ other, other ≠ job → after.jobs other = g.jobs other
  occurrences : ∀ other, other ≠ job → after.occurrences other = g.occurrences other

theorem Concerns.balanced_iff {after : GroupedJob J} (concerns : g.Concerns after job)
    (balanced : g.Balanced) :
    after.Balanced ↔ after.misused = false ∧ (after.jobs job).Settled (after.occurrences job) := by
  constructor
  · intro kept
    exact ⟨kept.unmisused, kept.settled job⟩
  · rintro ⟨unmisused, settled⟩
    refine ⟨unmisused, ?_⟩
    intro other
    by_cases same : other = job
    · exact same ▸ settled
    · rw [concerns.jobs other same, concerns.occurrences other same]
      exact balanced.settled other

theorem ranged_setJob (ranged : ∀ job, (g.jobs job).refcount < 2 ^ 31) {value : Job}
    (small : value.refcount < 2 ^ 31) (other : J) : ((g.setJob job value).jobs other).refcount < 2 ^ 31 := by
  by_cases same : other = job
  · have self : (g.setJob job value).jobs other = value := same ▸ Function.update_self ..
    rw [self]
    exact small
  · have kept : (g.setJob job value).jobs other = g.jobs other := Function.update_of_ne same ..
    rw [kept]
    exact ranged other

section Acquire

def Room (g : GroupedJob J) (job : J) : Prop := (g.jobs job).refcount < 2 ^ 31 - 1

instance (g : GroupedJob J) (job : J) : Decidable (g.Room job) := inferInstanceAs (Decidable (_ < _))

def Accepts (g : GroupedJob J) (blocking : Bool) : Prop := ¬(g.queue.signaled = true ∧ blocking = true)

instance (g : GroupedJob J) (blocking : Bool) : Decidable (g.Accepts blocking) :=
  inferInstanceAs (Decidable (¬_))

@[simp] theorem acquire_policy : (g.acquire job).policy = g.policy := rfl

theorem acquire_jobs_self :
    (g.acquire job).jobs job = { g.jobs job with refcount := wrapInt ((g.jobs job).refcount + 1) } :=
  Function.update_self ..

theorem acquire_jobs_other {other : J} (differs : other ≠ job) : (g.acquire job).jobs other = g.jobs other :=
  Function.update_of_ne differs ..

theorem acquire_misused (unmisused : g.misused = false) : (g.acquire job).misused = false ↔ g.Live job := by
  simp [acquire, touch, setJob, unmisused, Live]

theorem acquired_count (between : g.Between) (live : g.Live job) :
    (g.Room job → ((g.acquire job).jobs job).refcount = (g.jobs job).refcount + 1) ∧
      (¬g.Room job → ((g.acquire job).jobs job).refcount < 0) := by
  have counted := (between.balanced.settled job).counted live
  have ranged := between.ranged job
  rw [acquire_jobs_self]
  unfold Room
  constructor
  · intro room
    exact wrapInt_of_range (by omega) (by omega)
  · intro full
    have top : (g.jobs job).refcount = 2 ^ 31 - 1 := by omega
    rw [top, wrapInt_top]
    exact neg_lt_zero.mpr (by decide)

theorem acquire_leaks (between : g.Between) {after : GroupedJob J}
    (misused : after.misused = (g.acquire job).misused) (jobs : after.jobs job = (g.acquire job).jobs job)
    (occurrences : after.occurrences job = g.occurrences job) : ¬after.Balanced := by
  intro balanced
  have live : g.Live job :=
    (acquire_misused between.balanced.unmisused).mp (misused ▸ balanced.unmisused)
  have counted := (between.balanced.settled job).counted live
  obtain ⟨room, full⟩ := acquired_count between live
  have settled := balanced.settled job
  rw [jobs, occurrences] at settled
  have fixed := settled.counted (by rw [acquire_jobs_self]; exact live)
  have owned : ((g.acquire job).jobs job).owned = (g.jobs job).owned := by rw [acquire_jobs_self]
  rw [owned] at fixed
  by_cases fits : g.Room job
  · have more := room fits
    omega
  · have wrapped := full fits
    omega

theorem acquire_queued (between : g.Between) {after : GroupedJob J}
    (misused : after.misused = (g.acquire job).misused) (jobs : after.jobs = (g.acquire job).jobs)
    (added : after.occurrences job = g.occurrences job + 1)
    (others : ∀ other, other ≠ job → after.occurrences other = g.occurrences other) :
    after.Balanced ↔ g.Live job ∧ g.Room job := by
  have concerns : g.Concerns after job := by
    refine ⟨?_, others⟩
    intro other differs
    rw [jobs, acquire_jobs_other differs]
  rw [concerns.balanced_iff between.balanced, misused, acquire_misused between.balanced.unmisused]
  apply and_congr_right
  intro live
  have settled := between.balanced.settled job
  have counted := settled.counted live
  obtain ⟨room, full⟩ := acquired_count between live
  have owned : ((g.acquire job).jobs job).owned = (g.jobs job).owned := by rw [acquire_jobs_self]
  rw [settled_of_live (by rw [jobs, acquire_jobs_self]; exact live), jobs, added, owned]
  constructor
  · rintro ⟨fixed, -⟩
    by_contra tight
    have wrapped := full tight
    omega
  · intro fits
    have more := room fits
    exact ⟨by omega, Or.inr (Nat.succ_pos _)⟩

omit [DecidableEq J] in
theorem enqueueJob_refused (lined : g.queue.Lined) {blocking : Bool} (refused : ¬g.Accepts blocking) :
    g.enqueueJob job blocking = (g, .returned (-1)) := by
  have guard := QueueJob.enqueueGuard_lined lined blocking
  rw [if_pos (Decidable.of_not_not refused)] at guard
  unfold enqueueJob QueueJob.enqueue
  rw [guard]
  rfl

omit [DecidableEq J] in
theorem enqueueJob_accepted (lined : g.queue.Lined) {blocking : Bool} (accepts : g.Accepts blocking) :
    (g.enqueueJob job blocking).1.queue.Lined ∧
      (g.enqueueJob job blocking).1.queue.backlog = g.queue.backlog ++ [job] :=
  have queued := QueueJob.enqueue_lined lined job accepts
  ⟨queued.1, queued.2.1⟩

theorem enqueueJob_occurrences (lined : g.queue.Lined) {blocking : Bool} (accepts : g.Accepts blocking) :
    (g.enqueueJob job blocking).1.occurrences job = g.occurrences job + 1 ∧
      ∀ other, other ≠ job → (g.enqueueJob job blocking).1.occurrences other = g.occurrences other := by
  have line := (@enqueueJob_accepted J g job lined blocking accepts).2
  unfold occurrences
  rw [line]
  constructor
  · simp
  · intro other differs
    simp [differs.symm]

theorem acquire_enqueue_balanced (between : g.Between) (blocking : Bool) :
    ((g.acquire job).enqueueJob job blocking).1.Balanced ↔ g.Live job ∧ g.Accepts blocking ∧ g.Room job := by
  have lined : (g.acquire job).queue.Lined := between.lined
  by_cases accepts : g.Accepts blocking
  · obtain ⟨added, others⟩ := @enqueueJob_occurrences J _ (g.acquire job) job lined blocking accepts
    have judged : ((g.acquire job).enqueueJob job blocking).1.Balanced ↔ g.Live job ∧ g.Room job :=
      acquire_queued between rfl rfl added others
    rw [judged]
    simp [accepts]
  · have refused : ¬(g.acquire job).Accepts blocking := accepts
    rw [enqueueJob_refused lined refused]
    exact iff_of_false (acquire_leaks between rfl rfl rfl) fun all => accepts all.2.1

theorem acquire_enqueue_between (between : g.Between) {blocking : Bool} (live : g.Live job)
    (accepts : g.Accepts blocking) (room : g.Room job) :
    ((g.acquire job).enqueueJob job blocking).1.Between := by
  have lined : (g.acquire job).queue.Lined := between.lined
  refine ⟨(acquire_enqueue_balanced between blocking).mpr ⟨live, accepts, room⟩,
    (enqueueJob_accepted lined accepts).1, ?_⟩
  exact ranged_setJob between.ranged (wrapInt_lt _)

end Acquire

section Calls

theorem schedule_fst (backlogSize : Nat) (upward : Int) :
    (g.schedule job backlogSize upward).1 =
      if !g.running then g
      else if ((g.acquire job).enforceSchedulingPolicy job).2 < backlogSize then g.acquire job
      else ((g.acquire job).enqueueJob job g.blocking).1 := by
  unfold schedule
  split
  · rfl
  · dsimp only
    split
    · rfl
    · split <;> rename_i enqueued
      · split <;> exact (congrArg Prod.fst enqueued).symm
      · exact (congrArg Prod.fst enqueued).symm

def weightOf (g : GroupedJob J) (job : J) : Nat := (g.enforceSchedulingPolicy job).2

def priorityOf (g : GroupedJob J) (job : J) : Nat := (g.enforceSchedulingPolicy job).1

theorem weightOf_acquire : ((g.acquire job).enforceSchedulingPolicy job).2 = g.weightOf job := by
  unfold weightOf enforceSchedulingPolicy
  rw [acquire_jobs_self, acquire_policy]

/-- `Schedule` is not refused for the backlog or by the queue. -/
def ScheduleMeets (g : GroupedJob J) (job : J) (backlogSize : Nat) : Prop :=
  g.running = true → backlogSize ≤ g.weightOf job ∧ g.Live job ∧ g.Accepts g.blocking ∧ g.Room job

instance (g : GroupedJob J) (job : J) (backlogSize : Nat) : Decidable (g.ScheduleMeets job backlogSize) :=
  inferInstanceAs (Decidable (_ → _))

theorem schedule_balanced (between : g.Between) (backlogSize : Nat) (upward : Int) :
    (g.schedule job backlogSize upward).1.Balanced ↔ g.ScheduleMeets job backlogSize := by
  rw [schedule_fst, weightOf_acquire]
  unfold ScheduleMeets
  cases g.running with
  | false => exact iff_of_true between.balanced nofun
  | true =>
    rw [if_neg (by nofun)]
    by_cases below : g.weightOf job < backlogSize
    · rw [if_pos below]
      have leaks : ¬(g.acquire job).Balanced := acquire_leaks between rfl rfl rfl
      exact iff_of_false leaks fun meets => absurd (meets rfl).1 (Nat.not_le.mpr below)
    · rw [if_neg below, acquire_enqueue_balanced between]
      simp [Nat.not_lt.mp below]

theorem schedule_between (between : g.Between) {backlogSize : Nat} (upward : Int)
    (meets : g.ScheduleMeets job backlogSize) : (g.schedule job backlogSize upward).1.Between := by
  rw [schedule_fst, weightOf_acquire]
  unfold ScheduleMeets at meets
  cases running : g.running with
  | false => exact between
  | true =>
    obtain ⟨light, live, accepts, room⟩ := meets running
    rw [if_neg (by nofun), if_neg (Nat.not_lt.mpr light)]
    exact acquire_enqueue_between between live accepts room

/-- The job leaves the hands of `Serve`. -/
def finish (g : GroupedJob J) (job : J) : GroupedJob J := { g with serving := g.serving.erase job }

theorem finish_between (between : g.Between) : (g.finish job).Between :=
  ⟨⟨between.balanced.unmisused, between.balanced.settled⟩, between.lined, between.ranged⟩

omit [DecidableEq J] in
theorem touch_of_live (live : g.Live job) : g.touch job = g := by
  have alive : decide ((g.jobs job).destroyed ≠ 0) = false := decide_eq_false (not_not_intro live)
  unfold touch
  rw [alive, Bool.or_false]

theorem serveRest_fst (childBacklogSize : Nat) :
    (g.serveRest job childBacklogSize).1 =
      if childBacklogSize < g.weightOf job then (g.finish job).touch job
      else ((((g.finish job).touch job).acquire job).enqueueJob job (decide (g.priorityOf job ≠ 0))).1 := by
  have weight : g.weightOf job = (((g.finish job).touch job).enforceSchedulingPolicy job).2 := rfl
  have priority : g.priorityOf job = (((g.finish job).touch job).enforceSchedulingPolicy job).1 := rfl
  rw [weight, priority]
  unfold serveRest finish
  dsimp only
  split
  · rfl
  · split <;> rename_i enqueued <;> exact (congrArg Prod.fst enqueued).symm

/-- The job was not destroyed meanwhile, and is not refused when it is queued again. -/
def ServedMeets (g : GroupedJob J) (job : J) (childBacklogSize : Nat) : Prop :=
  job ∈ g.serving → g.Live job ∧
    (childBacklogSize < g.weightOf job ∨ g.Accepts (decide (g.priorityOf job ≠ 0)) ∧ g.Room job)

instance (g : GroupedJob J) (job : J) (childBacklogSize : Nat) :
    Decidable (g.ServedMeets job childBacklogSize) :=
  inferInstanceAs (Decidable (_ → _))

theorem served_balanced (between : g.Between) (childBacklogSize : Nat) :
    (g.call (.served job childBacklogSize)).Balanced ↔ g.ServedMeets job childBacklogSize := by
  unfold call ServedMeets
  dsimp only
  by_cases serving : job ∈ g.serving
  · rw [if_pos serving, serveRest_fst]
    by_cases live : g.Live job
    · have untouched : (g.finish job).touch job = g.finish job := touch_of_live live
      rw [untouched]
      by_cases light : childBacklogSize < g.weightOf job
      · rw [if_pos light]
        exact iff_of_true (finish_between between).balanced fun _ => ⟨live, Or.inl light⟩
      · rw [if_neg light, acquire_enqueue_balanced (finish_between between)]
        constructor
        · rintro ⟨-, accepts, room⟩ -
          exact ⟨live, Or.inr ⟨accepts, room⟩⟩
        · intro meets
          obtain ⟨accepts, room⟩ := (meets serving).2.resolve_left light
          exact ⟨live, accepts, room⟩
    · have misused : ((g.finish job).touch job).misused = true := by
        have dead : (g.jobs job).destroyed ≠ 0 := live
        simp [touch, finish, dead]
      have upset : ∀ after : GroupedJob J, after.misused = true → ¬after.Balanced := by
        intro after used balanced
        rw [balanced.unmisused] at used
        cases used
      refine iff_of_false ?_ fun meets => live (meets serving).1
      split
      · exact upset _ misused
      · apply upset
        show (((g.finish job).touch job).misused || _) = true
        rw [misused, Bool.true_or]
  · rw [if_neg serving]
    exact iff_of_true between.balanced fun here => absurd here serving

theorem served_between (between : g.Between) {childBacklogSize : Nat}
    (meets : g.ServedMeets job childBacklogSize) : (g.call (.served job childBacklogSize)).Between := by
  unfold call
  dsimp only
  by_cases serving : job ∈ g.serving
  · obtain ⟨live, queued⟩ := meets serving
    have untouched : (g.finish job).touch job = g.finish job := touch_of_live live
    rw [if_pos serving, serveRest_fst, untouched]
    split
    · exact finish_between between
    · rename_i heavy
      obtain ⟨accepts, room⟩ := queued.resolve_left heavy
      exact acquire_enqueue_between (finish_between between) live accepts room
  · rw [if_neg serving]
    exact between

end Calls

section Release

/-- The jobs after a `Release` that leaves a count of at least 0. -/
theorem release_alive {n : Int} (live : g.Live job) (enough : n ≤ (g.jobs job).refcount)
    (ranged : (g.jobs job).refcount - n < 2 ^ 31) :
    g.release job n =
      (g.setJob job { g.jobs job with refcount := (g.jobs job).refcount - n }, 0) := by
  have left : wrapInt ((g.jobs job).refcount - n) = (g.jobs job).refcount - n :=
    wrapInt_of_range (by omega) ranged
  unfold release
  rw [left, touch_of_live live]
  exact if_neg (by omega)

def taken (g : GroupedJob J) (job : J) (queue : QueueJob J) : GroupedJob J :=
  (g.setQueue queue).setJob job { g.jobs job with refcount := (g.jobs job).refcount - 1 }

variable {rest : List J} {queue : QueueJob J}

theorem taken_jobs_self : (g.taken job queue).jobs job =
    { g.jobs job with refcount := (g.jobs job).refcount - 1 } :=
  Function.update_self ..

theorem occurrences_front (line : g.queue.backlog = job :: rest) :
    g.occurrences job = rest.count job + 1 ∧
      ∀ other, other ≠ job → g.occurrences other = rest.count other := by
  unfold occurrences
  rw [line]
  exact ⟨List.count_cons_self, fun other differs => List.count_cons_of_ne differs.symm⟩

theorem taken_release (between : g.Between) (line : g.queue.backlog = job :: rest) :
    (g.setQueue queue).release job 1 = (g.taken job queue, 0) := by
  have occurrences := (occurrences_front line).1
  have live : g.Live job := live_of_occurrences between.balanced (by omega)
  have counted := (between.balanced.settled job).counted live
  have ranged := between.ranged job
  have enough : 1 ≤ ((g.setQueue queue).jobs job).refcount := by
    show 1 ≤ (g.jobs job).refcount
    omega
  exact release_alive live enough (by show (g.jobs job).refcount - 1 < 2 ^ 31; omega)

theorem taken_balanced (between : g.Between) (line : g.queue.backlog = job :: rest)
    (left : queue.backlog = rest) : (g.taken job queue).Balanced ↔ (g.jobs job).owned = true ∨ job ∈ rest := by
  obtain ⟨front, others⟩ := occurrences_front line
  have live : g.Live job := live_of_occurrences between.balanced (by omega)
  have counted := (between.balanced.settled job).counted live
  have concerns : g.Concerns (g.taken job queue) job := by
    refine ⟨fun other differs => Function.update_of_ne differs .., ?_⟩
    intro other differs
    rw [others other differs, ← left]
    rfl
  have occurs : (g.taken job queue).occurrences job = rest.count job := by
    rw [← left]
    rfl
  have unmisused : (g.taken job queue).misused = false := between.balanced.unmisused
  rw [concerns.balanced_iff between.balanced, taken_jobs_self, occurs, settled_of_live (by exact live)]
  rw [← List.count_pos_iff]
  constructor
  · rintro ⟨-, -, needed⟩
    exact needed
  · intro needed
    refine ⟨unmisused, ?_, needed⟩
    show (g.jobs job).refcount - 1 = (g.jobs job).owned.toNat + ((rest.count job : Nat) : Int)
    omega

theorem taken_between (between : g.Between) (line : g.queue.backlog = job :: rest)
    (lined : queue.Lined) (left : queue.backlog = rest) (needed : (g.jobs job).owned = true ∨ job ∈ rest) :
    (g.taken job queue).Between := by
  refine ⟨(taken_balanced between line left).mpr needed, lined, ?_⟩
  have ranged := between.ranged job
  exact ranged_setJob between.ranged (by show (g.jobs job).refcount - 1 < 2 ^ 31; omega)

def ServeMeets (g : GroupedJob J) : Prop :=
  g.queue.Serveable g.blocking → ∀ job ∈ g.queue.backlog.head?,
    (g.jobs job).owned = true ∨ job ∈ g.queue.backlog.tail

instance (g : GroupedJob J) : Decidable g.ServeMeets :=
  inferInstanceAs (Decidable (_ → ∀ job ∈ List.head? _, _ ∨ _ ∈ List.tail _))

omit [DecidableEq J] in
theorem serveMeets_front (line : g.queue.backlog = job :: rest) (serveable : g.queue.Serveable g.blocking) :
    g.ServeMeets ↔ (g.jobs job).owned = true ∨ job ∈ rest := by
  simp [ServeMeets, line, serveable]

theorem serveFirst_idle (between : g.Between) (idle : ¬g.queue.Serveable g.blocking) :
    g.serveFirst.1 = g := by
  obtain ⟨same, unserved, unfaulted⟩ := QueueJob.dequeue_idle between.lined idle
  have unchanged : ∀ queue, queue = g.queue → g.setQueue queue = g := by
    intro queue equal
    rw [equal]
    rfl
  unfold serveFirst
  split <;> rename_i answered <;> rw [answered] at same unserved unfaulted
  · exact absurd rfl (unserved _ _)
  · exact unchanged _ same
  · exact unchanged _ same
  · exact unchanged _ same
  · exact absurd rfl unfaulted

theorem serveFirst_taken (between : g.Between) (serveable : g.queue.Serveable g.blocking) :
    ∃ job rest queue, g.queue.backlog = job :: rest ∧ queue.Lined ∧ queue.backlog = rest ∧
      g.serveFirst.1 = { g.taken job queue with serving := job :: g.serving } := by
  obtain ⟨job, rest, queue, line, dequeued, lined, left, -, -⟩ :=
    QueueJob.dequeue_lined between.lined serveable
  refine ⟨job, rest, queue, line, lined, left, ?_⟩
  unfold serveFirst
  rw [dequeued]
  dsimp only
  rw [taken_release between line]
  rfl

theorem serve_balanced (between : g.Between) : g.serveFirst.1.Balanced ↔ g.ServeMeets := by
  by_cases serveable : g.queue.Serveable g.blocking
  · obtain ⟨job, rest, queue, line, lined, left, same⟩ := serveFirst_taken between serveable
    rw [same, serveMeets_front line serveable, ← taken_balanced between line left]
    exact ⟨fun after => ⟨after.unmisused, after.settled⟩, fun before => ⟨before.unmisused, before.settled⟩⟩
  · rw [serveFirst_idle between serveable]
    exact iff_of_true between.balanced fun served => absurd served serveable

theorem serve_between (between : g.Between) (meets : g.ServeMeets) : g.serveFirst.1.Between := by
  by_cases serveable : g.queue.Serveable g.blocking
  · obtain ⟨job, rest, queue, line, lined, left, same⟩ := serveFirst_taken between serveable
    have kept := taken_between between line lined left ((serveMeets_front line serveable).mp meets)
    rw [same]
    exact ⟨⟨kept.balanced.unmisused, kept.balanced.settled⟩, kept.lined, kept.ranged⟩
  · rw [serveFirst_idle between serveable]
    exact between

def Kept (g : GroupedJob J) (job : J) : Prop := g.Live job ∧ (g.jobs job).owned = true

instance (g : GroupedJob J) (job : J) : Decidable (g.Kept job) := inferInstanceAs (Decidable (_ ∧ _))

theorem not_balanced_of_misused (misused : g.misused = true) : ¬g.Balanced := by
  intro balanced
  rw [balanced.unmisused] at misused
  cases misused

omit [DecidableEq J] in
theorem touch_of_dead (dead : ¬g.Live job) : (g.touch job).misused = true := by
  have destroyed : (g.jobs job).destroyed ≠ 0 := dead
  simp [touch, destroyed]

theorem release_of_dead (dead : ¬g.Live job) (n : Int) : (g.release job n).1.misused = true := by
  have touched := touch_of_dead dead
  unfold release
  dsimp only
  split <;> exact touched

theorem live_ranged (between : g.Between) (live : g.Live job) : g.occurrences job < 2 ^ 31 := by
  have counted := (between.balanced.settled job).counted live
  have ranged := between.ranged job
  omega

theorem remove_of_live (between : g.Between) (live : g.Live job) :
    ∃ queue : QueueJob J, queue.Lined ∧ queue.backlog = g.queue.backlog.filter (· ≠ job) ∧
      g.remove job = (g.setQueue queue).setJob job
        { g.jobs job with refcount := (g.jobs job).refcount - g.occurrences job } := by
  have few := live_ranged between live
  have counted := (between.balanced.settled job).counted live
  have ranged := between.ranged job
  have small : g.queue.backlog.count job < unsignedRange := by
    simp only [unsignedRange]
    exact Nat.lt_trans few (by decide)
  have number : toInt (g.queue.backlog.count job % unsignedRange) = g.occurrences job := by
    rw [Nat.mod_eq_of_lt small]
    exact (QueueJob.toInt_eq_iff small).mpr ⟨rfl, few⟩
  obtain ⟨lined, left, -⟩ := QueueJob.remove_lined between.lined job small
  refine ⟨(g.queue.remove job).1, lined, left, ?_⟩
  have answered := QueueJob.remove_line between.lined job
  unfold remove
  rw [answered, QueueJob.removeAt_count, number]
  dsimp only
  rw [release_alive]
  · rfl
  · exact live
  · show _ ≤ (g.jobs job).refcount
    omega
  · show (g.jobs job).refcount - _ < 2 ^ 31
    omega

theorem remove_balanced (between : g.Between) : (g.remove job).Balanced ↔ g.Kept job := by
  by_cases live : g.Live job
  · obtain ⟨queue, lined, left, same⟩ := remove_of_live between live
    have counted := (between.balanced.settled job).counted live
    have self : (g.remove job).jobs job =
        { g.jobs job with refcount := (g.jobs job).refcount - g.occurrences job } := by
      rw [same]
      exact Function.update_self ..
    have line : (g.remove job).queue.backlog = g.queue.backlog.filter (· ≠ job) := by
      rw [same]
      exact left
    have none : (g.remove job).occurrences job = 0 := by
      unfold occurrences
      rw [line]
      exact List.count_eq_zero.mpr (by simp)
    have concerns : g.Concerns (g.remove job) job := by
      constructor
      · intro other differs
        rw [same]
        exact Function.update_of_ne differs ..
      · intro other differs
        unfold occurrences
        rw [line]
        exact List.count_filter (by simpa using differs)
    have unmisused : (g.remove job).misused = false := by
      rw [same]
      exact between.balanced.unmisused
    rw [concerns.balanced_iff between.balanced, self, none, settled_of_live (by exact live)]
    constructor
    · rintro ⟨-, -, owned | queued⟩
      · exact ⟨live, owned⟩
      · exact absurd queued (Nat.lt_irrefl 0)
    · rintro ⟨-, owned⟩
      refine ⟨unmisused, ?_, Or.inl owned⟩
      show (g.jobs job).refcount - g.occurrences job = (g.jobs job).owned.toNat + ((0 : Nat) : Int)
      omega
  · refine iff_of_false (not_balanced_of_misused ?_) fun kept => live kept.1
    unfold remove
    rw [QueueJob.remove_line between.lined job]
    have dead : ¬(g.setQueue (QueueJob.removeAt job 0 (g.queue, 0) 0).1).Live job := live
    exact release_of_dead dead _

theorem remove_between (between : g.Between) (kept : g.Kept job) : (g.remove job).Between := by
  obtain ⟨queue, lined, left, same⟩ := remove_of_live between kept.1
  refine ⟨(remove_balanced between).mpr kept, ?_, ?_⟩
  · rw [same]
    exact lined
  · have ranged := between.ranged job
    rw [same]
    exact ranged_setJob between.ranged (by show (g.jobs job).refcount - _ < 2 ^ 31; omega)

theorem delete_balanced (between : g.Between) : (g.delete job).Balanced ↔ g.Kept job := by
  have concerns : g.Concerns (g.delete job) job :=
    ⟨fun other differs => Function.update_of_ne differs .., fun _ _ => rfl⟩
  by_cases live : g.Live job
  · have settled := between.balanced.settled job
    have counted := settled.counted live
    have needed := settled.needed live
    have ranged := between.ranged job
    have left : wrapInt ((g.jobs job).refcount - 1) = (g.jobs job).refcount - 1 :=
      wrapInt_of_range (by omega) (by omega)
    have self : (g.delete job).jobs job =
        { g.jobs job with
          refcount := (g.jobs job).refcount - 1
          owned := false
          destroyed := if (g.jobs job).refcount - 1 ≤ 0 then 1 else 0 } := by
      have zero : (g.jobs job).destroyed = 0 := live
      unfold delete
      simp only [left, zero]
      exact Function.update_self ..
    have unmisused : (g.delete job).misused = false := by
      have untouched := touch_of_live live
      show (g.touch job).misused = false
      rw [untouched]
      exact between.balanced.unmisused
    rw [concerns.balanced_iff between.balanced, self]
    have occurs : (g.delete job).occurrences job = g.occurrences job := rfl
    rw [occurs]
    cases owned : (g.jobs job).owned with
    -- The reference of the owner goes, and the queue may hold others.
    | true =>
      rw [owned] at counted
      refine iff_of_true ⟨unmisused, ?_⟩ ⟨live, owned⟩
      by_cases queued : 0 < g.occurrences job
      · rw [if_neg (by simp at counted; omega)]
        refine ⟨fun _ => ?_, fun _ => Or.inr queued, absurd rfl⟩
        show (g.jobs job).refcount - 1 = _
        simp at counted ⊢
        omega
      · rw [if_pos (by simp at counted; omega)]
        exact ⟨nofun, nofun, fun _ => ⟨rfl, rfl, by omega⟩⟩
    -- The reference that goes is one of the queue, whose entry stays.
    | false =>
      rw [owned] at counted
      have queued := needed.resolve_left (by rw [owned]; nofun)
      refine iff_of_false ?_ fun kept => absurd (owned.symm.trans kept.2) nofun
      rintro ⟨-, after⟩
      by_cases last : (g.jobs job).refcount - 1 ≤ 0
      · rw [if_pos last] at after
        have gone := (after.gone nofun).2.2
        omega
      · rw [if_neg last] at after
        have fixed := after.counted rfl
        simp at counted fixed
        omega
  · exact iff_of_false (not_balanced_of_misused (touch_of_dead live)) fun kept => live kept.1

theorem delete_between (between : g.Between) (kept : g.Kept job) : (g.delete job).Between :=
  ⟨(delete_balanced between).mpr kept, between.lined, ranged_setJob between.ranged (wrapInt_lt _)⟩

end Release

section Flush

/-- Every entry that `Flush` takes belongs to a job that is needed afterwards, and
the queue has not forgotten its entries. -/
def FlushMeets (g : GroupedJob J) : Prop :=
  g.queue.total = 0 ∨
    g.queue.indexQueue 0 ≠ [] ∧
      ∀ job ∈ g.queue.backlog.take g.queue.total,
        (g.jobs job).owned = true ∨ job ∈ g.queue.backlog.drop g.queue.total

instance (g : GroupedJob J) : Decidable g.FlushMeets :=
  inferInstanceAs (Decidable (_ ∨ _ ≠ _ ∧ ∀ job ∈ _, _ ∨ _ ∈ _))

/-- What `Flush` does not take it leaves alone, misuse included. -/
theorem flushFrom_untouched {n : Nat} (lined : g.queue.Lined) (absent : job ∉ g.queue.backlog) :
    (flushFrom n g).jobs job = g.jobs job ∧ job ∉ (flushFrom n g).queue.backlog ∧
      (g.misused = true → (flushFrom n g).misused = true) := by
  induction n generalizing g with
  | zero => exact ⟨rfl, absent, id⟩
  | succ n ih =>
    rw [flushFrom]
    split
    · exact ⟨rfl, absent, id⟩
    · by_cases serveable : g.queue.Serveable false
      · obtain ⟨first, rest, queue, line, dequeued, lined', left, -⟩ :=
          QueueJob.dequeue_lined lined serveable
        rw [dequeued]
        dsimp only
        rw [line, List.mem_cons, not_or] at absent
        have kept : ((g.setQueue queue).release first 1).1.jobs job = g.jobs job := by
          unfold release
          dsimp only
          split <;> exact Function.update_of_ne absent.1 ..
        have line' : ((g.setQueue queue).release first 1).1.queue = queue := by
          unfold release
          dsimp only
          split <;> rfl
        have used : g.misused = true → ((g.setQueue queue).release first 1).1.misused = true := by
          intro misused
          unfold release
          dsimp only
          split <;> simp [setJob, touch, setQueue, misused]
        obtain ⟨jobs, line, misused⟩ := @ih ((g.setQueue queue).release first 1).1
          (by rw [line']; exact lined') (by rw [line', left]; exact absent.2)
        exact ⟨jobs.trans kept, line, fun before => misused (used before)⟩
      · obtain ⟨-, unserved, -⟩ := QueueJob.dequeue_idle lined serveable
        split
        · rename_i answered
          rw [answered] at unserved
          exact absurd rfl (unserved _ _)
        · exact ⟨rfl, absent, fun _ => rfl⟩

/-- A job that has lost its last reference but was not destroyed stays so. -/
theorem flushFrom_lost {n : Nat} (lined : g.queue.Lined) (absent : job ∉ g.queue.backlog)
    (live : g.Live job) (lost : (g.jobs job).owned = false) : ¬(flushFrom n g).Balanced := by
  intro balanced
  obtain ⟨jobs, left, -⟩ := flushFrom_untouched (n := n) lined absent
  have needed := (balanced.settled job).needed (by rw [jobs]; exact live)
  rw [jobs, lost] at needed
  have queued := needed.resolve_left nofun
  exact left (List.count_pos_iff.mp queued)

theorem taken_owned (queue : QueueJob J) (other : J) :
    ((g.taken job queue).jobs other).owned = (g.jobs other).owned := by
  by_cases same : other = job
  · rw [same, taken_jobs_self]
  · exact congrArg Job.owned (Function.update_of_ne same _ g.jobs)

theorem flushMeets_front {rest : List J} {queue : QueueJob J} {n : Nat}
    (line : g.queue.backlog = job :: rest) (indexed : g.queue.indexQueue 0 ≠ [])
    (total : g.queue.total = n + 1) (left : queue.backlog = rest) (total' : queue.total = n)
    (counted : n = rest.length % unsignedRange)
    (indexed' : rest ≠ [] → queue.indexQueue 0 ≠ [])
    (needed : (g.jobs job).owned = true ∨ job ∈ rest) :
    (g.taken job queue).FlushMeets ↔ g.FlushMeets := by
  have queue' : (g.taken job queue).queue = queue := rfl
  unfold FlushMeets
  simp only [queue', left, line, total, total', taken_owned, List.take_succ_cons, List.drop_succ_cons,
    List.forall_mem_cons]
  constructor
  · intro later
    refine Or.inr ⟨indexed, ?_⟩
    rcases later with zero | ⟨-, others⟩
    · rw [zero]
      exact ⟨needed, List.forall_mem_nil _⟩
    · refine ⟨?_, others⟩
      rcases needed with owned | again
      · exact Or.inl owned
      · rw [← List.take_append_drop n rest, List.mem_append] at again
        exact again.elim (others job) Or.inr
  · rintro (zero | ⟨-, -, others⟩)
    · cases zero
    · by_cases zero : n = 0
      · exact Or.inl zero
      · by_cases empty : rest = []
        · rw [empty] at counted
          exact absurd counted zero
        · exact Or.inr ⟨indexed' empty, others⟩

theorem flushFrom_judged {n : Nat} (between : g.Between) (total : g.queue.total = n) :
    ((flushFrom n g).Balanced ↔ g.FlushMeets) ∧ (g.FlushMeets → (flushFrom n g).Between) := by
  induction n generalizing g with
  | zero => exact ⟨iff_of_true between.balanced (Or.inl total), fun _ => between⟩
  | succ n ih =>
    have filled : g.queue.total ≠ 0 := by rw [total]; exact Nat.succ_ne_zero n
    rw [flushFrom, if_neg filled]
    by_cases indexed : g.queue.indexQueue 0 = []
    · have idle : ¬g.queue.Serveable false := fun serveable => serveable.2.2 indexed
      have forgotten : ¬g.FlushMeets := by
        rintro (zero | ⟨kept, -⟩)
        · exact filled zero
        · exact kept indexed
      obtain ⟨-, unserved, -⟩ := QueueJob.dequeue_idle between.lined idle
      split
      · rename_i answered
        rw [answered] at unserved
        exact absurd rfl (unserved _ _)
      · exact ⟨iff_of_false (not_balanced_of_misused rfl) forgotten, fun meets => absurd meets forgotten⟩
    · have serveable : g.queue.Serveable false :=
        ⟨Or.inr (Nat.pos_of_ne_zero filled), by simp, indexed⟩
      obtain ⟨job, rest, queue, line, dequeued, lined, left, -, indexed'⟩ :=
        QueueJob.dequeue_lined between.lined serveable
      have counted : n = rest.length % unsignedRange := by
        have before := between.lined.counted
        rw [total, line, List.length_cons] at before
        simp only [unsignedRange] at before ⊢
        omega
      have total' : queue.total = n := by rw [lined.counted, left, ← counted]
      rw [dequeued]
      dsimp only
      rw [taken_release between line]
      by_cases needed : (g.jobs job).owned = true ∨ job ∈ rest
      · rw [← flushMeets_front line indexed total left total' counted indexed' needed]
        exact ih (taken_between between line lined left needed) total'
      · obtain ⟨lost, last⟩ := not_or.mp needed
        have occurrences := (occurrences_front line).1
        have live : g.Live job := live_of_occurrences between.balanced (by omega)
        have live' : (g.taken job queue).Live job :=
          (congrArg Job.destroyed taken_jobs_self).trans live
        have upset : ¬(flushFrom n (g.taken job queue)).Balanced := by
          apply flushFrom_lost lined (by show job ∉ queue.backlog; rw [left]; exact last) live'
          rw [taken_owned]
          exact Bool.not_eq_true _ ▸ lost
        have unmet : ¬g.FlushMeets := by
          rintro (zero | ⟨-, others⟩)
          · exact filled zero
          · rw [line, total] at others
            rcases others job List.mem_cons_self with owned | again
            · exact lost owned
            · exact last (List.mem_of_mem_drop again)
        exact ⟨iff_of_false upset unmet, fun meets => absurd meets unmet⟩

theorem flush_balanced (between : g.Between) : g.flush.Balanced ↔ g.FlushMeets :=
  (flushFrom_judged between rfl).1

theorem flush_between (between : g.Between) (meets : g.FlushMeets) : g.flush.Between :=
  (flushFrom_judged between rfl).2 meets

def halted (g : GroupedJob J) : GroupedJob J := { g with running := false }

def signal (g : GroupedJob J) : GroupedJob J := g.setQueue { g.queue with signaled := true }

theorem halted_between (between : g.Between) : g.halted.Between :=
  ⟨⟨between.balanced.unmisused, between.balanced.settled⟩, between.lined, between.ranged⟩

theorem signal_balanced : g.signal.Balanced ↔ g.Balanced :=
  ⟨fun after => ⟨after.unmisused, after.settled⟩, fun before => ⟨before.unmisused, before.settled⟩⟩

theorem signal_between (between : g.Between) : g.signal.Between :=
  ⟨signal_balanced.mpr between.balanced,
    ⟨between.lined.priorities, between.lined.weights, between.lined.data, between.lined.index,
      between.lined.front, between.lined.counted⟩, between.ranged⟩

theorem stop_balanced (between : g.Between) : g.stop.Balanced ↔ g.FlushMeets :=
  signal_balanced.trans (flush_balanced (halted_between between))

theorem stop_between (between : g.Between) (meets : g.FlushMeets) : g.stop.Between :=
  signal_between (flush_between (halted_between between) meets)

end Flush

section Histories

/-- The calls on which no `Acquire` and no last `Release` is lost. -/
def Meets (g : GroupedJob J) : JobCall J → Prop
  | .start => True
  | .stop | .flush => g.FlushMeets
  | .schedule job backlogSize _ => g.ScheduleMeets job backlogSize
  | .serve => g.ServeMeets
  | .served job childBacklogSize => g.ServedMeets job childBacklogSize
  | .remove job | .delete job => g.Kept job

def AllMeet (g : GroupedJob J) : List (JobCall J) → Prop
  | [] => True
  | call :: calls => g.Meets call ∧ (g.call call).AllMeet calls

instance (g : GroupedJob J) : (call : JobCall J) → Decidable (g.Meets call)
  | .start => inferInstanceAs (Decidable True)
  | .stop | .flush => inferInstanceAs (Decidable g.FlushMeets)
  | .schedule job backlogSize _ => inferInstanceAs (Decidable (g.ScheduleMeets job backlogSize))
  | .serve => inferInstanceAs (Decidable g.ServeMeets)
  | .served job childBacklogSize => inferInstanceAs (Decidable (g.ServedMeets job childBacklogSize))
  | .remove job | .delete job => inferInstanceAs (Decidable (g.Kept job))

instance decidableAllMeet : (g : GroupedJob J) → (calls : List (JobCall J)) → Decidable (g.AllMeet calls)
  | _, [] => inferInstanceAs (Decidable True)
  | g, call :: calls =>
    have := decidableAllMeet (g.call call) calls
    inferInstanceAs (Decidable (_ ∧ _))

def BalancedThroughout (g : GroupedJob J) : List (JobCall J) → Prop
  | [] => g.Balanced
  | call :: calls => g.Balanced ∧ (g.call call).BalancedThroughout calls

theorem call_balanced (between : g.Between) (call : JobCall J) : (g.call call).Balanced ↔ g.Meets call := by
  cases call with
  | start => exact iff_of_true ⟨between.balanced.unmisused, between.balanced.settled⟩ trivial
  | stop => exact stop_balanced between
  | schedule job backlogSize upward => exact schedule_balanced between backlogSize upward
  | serve => exact serve_balanced between
  | served job childBacklogSize => exact served_balanced between childBacklogSize
  | remove job => exact remove_balanced between
  | flush => exact flush_balanced between
  | delete job => exact delete_balanced between

theorem call_between (between : g.Between) {call : JobCall J} (meets : g.Meets call) :
    (g.call call).Between := by
  cases call with
  | start => exact ⟨⟨between.balanced.unmisused, between.balanced.settled⟩, between.lined, between.ranged⟩
  | stop => exact stop_between between meets
  | schedule job backlogSize upward => exact schedule_between between upward meets
  | serve => exact serve_between between meets
  | served job childBacklogSize => exact served_between between meets
  | remove job => exact remove_between between meets
  | flush => exact flush_between between meets
  | delete job => exact delete_between between meets

theorem BalancedThroughout.first {calls : List (JobCall J)} (throughout : g.BalancedThroughout calls) :
    g.Balanced := by
  cases calls with
  | nil => exact throughout
  | cons => exact throughout.1

theorem balanced_throughout_iff {calls : List (JobCall J)} (between : g.Between) :
    g.BalancedThroughout calls ↔ g.AllMeet calls := by
  induction calls generalizing g with
  | nil => exact iff_of_true between.balanced trivial
  | cons call calls ih =>
    constructor
    · rintro ⟨-, later⟩
      have meets := (call_balanced between call).mp later.first
      exact ⟨meets, (ih (call_between between meets)).mp later⟩
    · rintro ⟨meets, later⟩
      exact ⟨between.balanced, (ih (call_between between meets)).mpr later⟩

theorem create_between {numPriority maxWeight : Nat} {queue : QueueJob J}
    (built : QueueJob.construct numPriority maxWeight = some queue) (priorities : 1 ≤ numPriority)
    (weights : 1 ≤ maxWeight) (policy : Nat) (blocking root : Bool) (priority weight : J → Nat) :
    (create policy blocking root priority weight queue).Between := by
  obtain ⟨lined, empty, -⟩ := QueueJob.construct_lined built priorities weights
  refine ⟨⟨rfl, ?_⟩, lined, fun _ => by show (1 : Int) < 2 ^ 31; decide⟩
  intro job
  have none : (create policy blocking root priority weight queue).occurrences job = 0 := by
    show queue.backlog.count job = 0
    rw [empty]
    exact List.count_nil
  rw [none]
  exact ⟨fun _ => rfl, fun _ => Or.inl rfl, absurd rfl⟩

/-- The reference counts of new jobs under a new parent are balanced throughout a
history exactly when none of its calls loses a reference. -/
theorem counts_balanced_iff {numPriority maxWeight : Nat} {queue : QueueJob J}
    (built : QueueJob.construct numPriority maxWeight = some queue) (priorities : 1 ≤ numPriority)
    (weights : 1 ≤ maxWeight) (policy : Nat) (blocking root : Bool) (priority weight : J → Nat)
    (calls : List (JobCall J)) :
    (create policy blocking root priority weight queue).BalancedThroughout calls ↔
      (create policy blocking root priority weight queue).AllMeet calls :=
  balanced_throughout_iff (create_between built priorities weights policy blocking root priority weight)

def emptyQueue : QueueJob Nat where
  numPriority := 1
  maxWeight := 1
  indexQueue := fun _ => []
  dataQueue := fun _ => []
  total := 0
  signaled := false

def sampleParent : GroupedJob Nat := create schedWfq false true (fun _ => 1) (fun _ => 1) emptyQueue

/-- A job that is scheduled twice, served twice and then given up. -/
theorem counts_balanced_served : sampleParent.BalancedThroughout
    [.start, .schedule 5 1 0, .schedule 5 1 0, .serve, .served 5 0, .serve, .served 5 0, .delete 5] :=
  (counts_balanced_iff rfl (Nat.le_refl 1) (Nat.le_refl 1) schedWfq false true (fun _ => 1) (fun _ => 1) _).mpr
    (by decide +kernel)

/-- A job given up while it is queued is never destroyed, and one that is refused
for its backlog keeps a reference that nobody holds. -/
theorem references_lost :
    ¬sampleParent.BalancedThroughout [.start, .schedule 5 1 0, .delete 5, .serve] ∧
      ¬sampleParent.BalancedThroughout [.start, .schedule 5 2 0] := by
  have between : sampleParent.Between :=
    create_between rfl (Nat.le_refl 1) (Nat.le_refl 1) schedWfq false true (fun _ => 1) (fun _ => 1)
  rw [balanced_throughout_iff between, balanced_throughout_iff between]
  decide +kernel

end Histories

end GroupedJob

end Counts

end OpenDiameter.Framework
