import OpenDiameter.Foundation.Fifo
import OpenDiameter.Framework.QueueInvariant

/-! Whole runs of the job queue.

A history pairs the queue with one ledger for each data queue. Every run whose
`Remove` calls remove cleanly keeps the representation invariant, serves each
data queue in order of arrival, and accounts for every entry.
-/

set_option autoImplicit false

namespace OpenDiameter.Framework

open Foundation

structure History (T : Type) where
  queue : QueueJob T
  books : Nat → Ledger T

namespace History

variable {T : Type} [DecidableEq T]

def begin (queue : QueueJob T) : History T := ⟨queue, fun _ => .empty⟩

def record (history : History T) : Call T → Nat → Ledger T
  | .enqueue entry blocking priority weight =>
    match history.queue.enqueueGuard blocking with
    | some _ => history.books
    | none =>
      let d := history.queue.dIndex priority weight
      Function.update history.books d ((history.books d).arrive entry)
  | .dequeue blocking =>
    match (history.queue.dequeue blocking).2 with
    | .served d entry => Function.update history.books d ((history.books d).serve entry)
    | _ => history.books
  | .remove entry => fun d =>
    (history.books d).drop ((history.queue.dataQueue d).filter fun other => !decide (other ≠ entry))
  | .flush => fun d => (history.books d).drop (history.queue.dataQueue d)

def after (history : History T) (call : Call T) : History T :=
  ⟨(history.queue.perform call).1, history.record call⟩

def run (history : History T) (calls : List (Call T)) : History T :=
  calls.foldl after history

end History

/-- The condition on a call: an `Enqueue` in range that leaves the 32-bit count
room, and a `Remove` that empties what it touches. -/
def QueueJob.Meets {T : Type} [DecidableEq T] (q : QueueJob T) : Call T → Prop
  | .enqueue _ _ priority weight => q.InRange priority weight ∧ q.total + 1 < unsignedRange
  | .dequeue _ => True
  | .remove entry => q.RemovesCleanly entry
  | .flush => True

def History.AllMeet {T : Type} [DecidableEq T] (history : History T) : List (Call T) → Prop
  | [] => True
  | call :: calls => history.queue.Meets call ∧ (history.after call).AllMeet calls

/-- What is promised of every state: the count, the places in the index queues,
a `Dequeue` that serves, a `Remove` that removes and counts, and the books. -/
structure History.Correct {T : Type} [DecidableEq T] (history : History T) : Prop where
  total : history.queue.total = history.queue.stored
  places : ∀ priority weight, history.queue.InRange priority weight →
    (history.queue.indexQueue (QueueJob.pIndex priority)).count (history.queue.dIndex priority weight) =
      min (history.queue.dataQueue (history.queue.dIndex priority weight)).length weight
  serves : 0 < history.queue.total → ∀ blocking,
    ∃ d entry, (history.queue.dequeue blocking).2 = .served d entry
  removes : ∀ entry, history.queue.Meets (.remove entry) →
    (history.queue.remove entry).2 = .returned (history.queue.occurrences entry) ∧
      ∀ d < history.queue.dataQueues, (history.queue.remove entry).1.dataQueue d =
        (history.queue.dataQueue d).filter (· ≠ entry)
  accounted : ∀ d < history.queue.dataQueues,
    (history.books d).Accounts (history.queue.dataQueue d)

structure History.Balanced {T : Type} (history : History T) : Prop where
  invariant : history.queue.Invariant
  accounted : ∀ d < history.queue.dataQueues,
    (history.books d).Accounts (history.queue.dataQueue d)

section Steps

variable {T : Type} [DecidableEq T] {history : History T}

theorem enqueue_balanced (balanced : history.Balanced) (entry : T) (blocking : Bool)
    {priority weight : Nat} (inRange : history.queue.InRange priority weight)
    (room : history.queue.total + 1 < unsignedRange) :
    (history.after (.enqueue entry blocking priority weight)).Balanced := by
  constructor
  · exact QueueJob.enqueue_invariant balanced.invariant entry blocking inRange room
  · obtain ⟨d, located, inside, same⟩ :=
      QueueJob.enqueue_cases balanced.invariant entry blocking inRange room
    simp only [History.after, QueueJob.perform, same, History.record,
      QueueJob.enqueueGuard_pass balanced.invariant, ← located]
    intro other otherInside
    have accounts := balanced.accounted other otherInside
    by_cases equal : other = d
    · subst equal
      simp only [Function.update_self]
      exact accounts.arrive entry
    · simp only [Function.update_of_ne equal]
      exact accounts

theorem dequeue_balanced (balanced : history.Balanced) (blocking : Bool) :
    (history.after (.dequeue blocking)).Balanced := by
  cases Nat.eq_zero_or_pos history.queue.total with
  | inl empty =>
    have same := QueueJob.dequeue_empty balanced.invariant blocking empty
    have unchanged : history.after (.dequeue blocking) = history := by
      simp only [History.after, QueueJob.perform, History.record, same]
      cases blocking <;> rfl
    rw [unchanged]
    exact balanced
  | inr positive =>
    obtain ⟨d, indices, entry, entries, inside, front, content, same⟩ :=
      QueueJob.dequeue_cases balanced.invariant blocking positive
    have served := QueueJob.serve_invariant balanced.invariant inside front content
    constructor
    · simp only [History.after, QueueJob.perform, same]
      exact served.1
    · intro other (otherInside : other < QueueJob.dataQueues (history.queue.dequeue blocking).1)
      simp only [History.after, QueueJob.perform, same, History.record, served.2] at otherInside ⊢
      have sizes : (history.queue.serve (d / history.queue.maxWeight) d indices entries).dataQueues =
          history.queue.dataQueues := by
        unfold QueueJob.serve
        split <;> rfl
      rw [sizes] at otherInside
      have accounts := balanced.accounted other otherInside
      by_cases equal : other = d
      · subst equal
        rw [Function.update_self, Function.update_self]
        rw [content] at accounts
        exact accounts.serve
      · rw [Function.update_of_ne equal, Function.update_of_ne equal]
        exact accounts

theorem remove_balanced (balanced : history.Balanced) {entry : T}
    (cleanly : history.queue.RemovesCleanly entry) :
    (history.after (.remove entry)).Balanced := by
  constructor
  · exact (QueueJob.remove_invariant balanced.invariant cleanly).1
  · obtain ⟨after, totalRemove, same, removed⟩ := QueueJob.remove_cases balanced.invariant entry
    intro d (inside : d < QueueJob.dataQueues (history.queue.remove entry).1)
    rw [same] at inside
    have sizes : after.dataQueues = history.queue.dataQueues := by
      rw [QueueJob.dataQueues, removed.numPriority, removed.maxWeight, QueueJob.dataQueues]
    rw [sizes] at inside
    simp only [History.after, QueueJob.perform, same, History.record]
    rw [removed.dataQueue, if_pos inside]
    exact (balanced.accounted d inside).filter _

theorem flush_balanced (balanced : history.Balanced) : (history.after .flush).Balanced := by
  constructor
  · exact QueueJob.flush_invariant balanced.invariant
  · intro d (inside : d < history.queue.numPriority * history.queue.maxWeight)
    simp only [History.after, QueueJob.perform, History.record, QueueJob.flush, inside, ↓reduceIte]
    exact (balanced.accounted d inside).clear

theorem step_balanced (balanced : history.Balanced) {call : Call T}
    (meets : history.queue.Meets call) : (history.after call).Balanced := by
  cases call with
  | enqueue entry blocking priority weight =>
    exact enqueue_balanced balanced entry blocking meets.1 meets.2
  | dequeue blocking => exact dequeue_balanced balanced blocking
  | remove entry => exact remove_balanced balanced meets
  | flush => exact flush_balanced balanced

theorem run_balanced (balanced : history.Balanced) {calls : List (Call T)}
    (allMeet : history.AllMeet calls) : (history.run calls).Balanced := by
  induction calls generalizing history with
  | nil => exact balanced
  | cons call calls ih => exact ih (step_balanced balanced allMeet.1) allMeet.2

theorem History.Balanced.correct (balanced : history.Balanced) : history.Correct := by
  have invariant := balanced.invariant
  constructor
  · exact invariant.counted
  · intro priority weight inRange
    have counts := invariant.indexed _
      (QueueJob.dIndex_lt invariant.priorities invariant.weights inRange)
    rw [QueueJob.dIndex_div invariant.priorities invariant.weights inRange,
      QueueJob.dIndex_mod invariant.priorities invariant.weights inRange] at counts
    rw [QueueJob.pIndex_eq inRange.1 (inRange.2.1.trans invariant.priorities)]
    exact counts
  · intro positive blocking
    obtain ⟨d, _, entry, _, _, _, _, same⟩ := QueueJob.dequeue_cases invariant blocking positive
    exact ⟨d, entry, congrArg Prod.snd same⟩
  · intro entry cleanly
    constructor
    · exact (QueueJob.remove_invariant invariant cleanly).2
    · intro d inside
      obtain ⟨after, totalRemove, same, removed⟩ := QueueJob.remove_cases invariant entry
      rw [same, removed.dataQueue, if_pos inside]
  · exact balanced.accounted

end Steps

section Runs

variable {T : Type} [DecidableEq T]

/-- From the constructor on, every state of a run whose calls meet the condition
is correct: each prefix of such a run is one too. -/
theorem queue_run_correct {numPriority maxWeight : Nat} {start : QueueJob T}
    (built : QueueJob.construct numPriority maxWeight = some start) (calls : List (Call T))
    (allMeet : (History.begin start).AllMeet calls) :
    ((History.begin start).run calls).Correct := by
  obtain ⟨invariant, -, -, empty⟩ := QueueJob.construct_invariant built
  have balanced : (History.begin start).Balanced := by
    constructor
    · exact invariant
    · intro d inside
      simp only [History.begin, empty]
      exact Ledger.accounts_empty
  exact (run_balanced balanced allMeet).correct

/-- A run that fills three data queues, serves one entry, and empties another
data queue by `Remove`. -/
theorem queue_run_correct_mixed :
    ∃ start : QueueJob Nat, QueueJob.construct 2 2 = some start ∧
      ((History.begin start).run [.enqueue 7 false 1 2, .enqueue 8 false 1 2, .enqueue 9 true 2 1,
        .enqueue 9 true 2 1, .dequeue true, .remove 9]).Correct := by
  refine ⟨_, rfl, @queue_run_correct Nat _ 2 2 _ rfl _ ?_⟩
  exact ⟨⟨by decide, by decide⟩, ⟨by decide, by decide⟩, ⟨by decide, by decide⟩,
    ⟨by decide, by decide⟩, trivial,
    ⟨by decide +kernel, by decide +kernel, by decide +kernel⟩, trivial⟩

/-- Removing one of two entries leaves the other stored and unreachable. -/
theorem remove_strands_entry :
    ∃ start : QueueJob Nat, QueueJob.construct 1 1 = some start ∧
      ((History.begin start).run [.enqueue 7 false 1 1, .enqueue 8 false 1 1, .remove 8]).queue.total = 1 ∧
      (((History.begin start).run [.enqueue 7 false 1 1, .enqueue 8 false 1 1,
        .remove 8]).queue.dequeue false).2 = .dequeueError ∧
      ¬((History.begin start).run [.enqueue 7 false 1 1, .enqueue 8 false 1 1, .remove 8]).Correct := by
  refine ⟨_, rfl, by decide +kernel, by decide +kernel, ?_⟩
  intro correct
  have places := correct.places 1 1 (by decide +kernel)
  revert places
  decide +kernel

end Runs

end OpenDiameter.Framework
