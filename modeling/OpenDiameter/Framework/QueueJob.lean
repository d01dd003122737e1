import Mathlib.Algebra.BigOperators.Group.Finset.Basic

/-! The two-level job queue of the framework.

Entries wait in one data queue per priority and weight. The index queue of a
priority names the data queues to serve next; a data queue of weight `w` may
hold up to `w` places in it.
-/

set_option autoImplicit false

namespace OpenDiameter.Framework

def maxNumPriority : Nat := 3

def maxMaxWeight : Nat := 3

/-- `unsigned` is 32 bits wide. -/
def unsignedRange : Nat := 2 ^ 32

/-- `(size_t)-1`. -/
def maxSize : Nat := 2 ^ 64 - 1

/-- The conversion of an `unsigned` to `int`. -/
def toInt (value : Nat) : Int :=
  if value < 2 ^ 31 then value else (value : Int) - unsignedRange

/-- `AAA_QueueJob`. A position of `indexQueue` or `dataQueue` beyond the
allocated arrays is never read by an in-range call. -/
structure QueueJob (T : Type) where
  numPriority : Nat
  maxWeight : Nat
  indexQueue : Nat → List Nat
  dataQueue : Nat → List T
  total : Nat
  signaled : Bool

/-- How a call ends. `served` also carries the local `dIndex` of `Dequeue`, so
that a history can tell which data queue the entry left. -/
inductive Answer (T : Type) where
  | returned (code : Int)
  | served (dIndex : Nat) (entry : T)
  /-- The thread blocks on the condition variable. -/
  | waits
  /-- The `BUG (dequeue error)` branch, which returns 0. -/
  | dequeueError
  /-- `front()` of an empty list. -/
  | fault
  deriving DecidableEq, Repr

namespace QueueJob

variable {T : Type}

/-- The constructor; it throws when a limit is exceeded. -/
def construct (numPriority maxWeight : Nat) : Option (QueueJob T) :=
  if maxNumPriority < numPriority then none
  else if maxMaxWeight < maxWeight then none
  else some
    { numPriority, maxWeight, indexQueue := fun _ => [], dataQueue := fun _ => [],
      total := 0, signaled := false }

/-- `Index(p)`. -/
def pIndex (p : Nat) : Nat :=
  (min p maxNumPriority + unsignedRange - 1) % unsignedRange

/-- `Index(p, w)`. -/
def dIndex (q : QueueJob T) (p w : Nat) : Nat :=
  (pIndex p * q.maxWeight + (min w maxMaxWeight + unsignedRange - 1)) % unsignedRange

def pushIndex (q : QueueJob T) (p d : Nat) : QueueJob T :=
  { q with indexQueue := Function.update q.indexQueue p (q.indexQueue p ++ [d]) }

def pushData (q : QueueJob T) (d : Nat) (entry : T) : QueueJob T :=
  { q with dataQueue := Function.update q.dataQueue d (q.dataQueue d ++ [entry]) }

/-- The waiting loop and the `signaled` test at the head of `Enqueue`. -/
def enqueueGuard (q : QueueJob T) (blocking : Bool) : Option (Answer T) :=
  if !q.signaled && q.total == maxSize then
    if blocking then some .waits else some (.returned 0)
  else if q.signaled && blocking then some (.returned (-1))
  else none

def enqueue (q : QueueJob T) (entry : T) (blocking : Bool) (priority weight : Nat) :
    QueueJob T × Answer T :=
  match q.enqueueGuard blocking with
  | some answer => (q, answer)
  | none =>
    let p := pIndex priority
    let d := q.dIndex priority weight
    let indexed := if (q.dataQueue d).length < weight then q.pushIndex p d else q
    let pushed := indexed.pushData d entry
    let total := (q.total + 1) % unsignedRange
    ({ pushed with total }, .returned (toInt total))

/-- The body of the loop over `p` in `Dequeue`, once `indexQueue[p]` is known
to begin with `d` and `dataQueue[d]` with `entry`. -/
def serve (q : QueueJob T) (p d : Nat) (indices : List Nat) (entries : List T) : QueueJob T :=
  let popped : QueueJob T :=
    { q with
      indexQueue := Function.update q.indexQueue p indices
      dataQueue := Function.update q.dataQueue d entries }
  let indexed := if d % q.maxWeight + 1 ≤ entries.length then popped.pushIndex p d else popped
  { indexed with total := (q.total + unsignedRange - 1) % unsignedRange }

def dequeue (q : QueueJob T) (blocking : Bool) : QueueJob T × Answer T :=
  if !q.signaled && q.total == 0 then
    if blocking then (q, .waits) else (q, .returned 0)
  else if q.signaled && blocking then (q, .returned (-1))
  else
    match (List.range q.numPriority).find? fun p => !(q.indexQueue p).isEmpty with
    | none => (q, .dequeueError)
    | some p =>
      match q.indexQueue p with
      | [] => (q, .dequeueError)
      | d :: indices =>
        match q.dataQueue d with
        | [] => (q, .fault)
        | entry :: entries => (q.serve p d indices entries, .served d entry)

/-- The loop of `AdjustIndexQueue` from the iterator on, with its counter `j`.
`i = i++` leaves a class iterator where it was, so the branch that keeps an
index is taken again at the same element. (`j` stays below 2^32 for every list
of fewer than 2^32 - 1 entries.) -/
def adjustFrom (d size j : Nat) : List Nat → List Nat
  | [] => []
  | i :: rest =>
    if i = d then
      if size < j + 1 then adjustFrom d size (j + 1) rest
      else adjustFrom d size (j + 1) (i :: rest)
    else i :: adjustFrom d size j rest
termination_by indices => indices.length * (size + 2) + (size + 1 - j)
decreasing_by
  all_goals simp only [List.length_cons, Nat.succ_mul]
  all_goals omega

def adjustIndexQueue (q : QueueJob T) (p d : Nat) : QueueJob T :=
  { q with
    indexQueue := Function.update q.indexQueue p
      (adjustFrom d (q.dataQueue d).length 0 (q.indexQueue p)) }

section Remove

variable [DecidableEq T]

/-- The body of the inner loop of `Remove` at data queue `d` of priority `p`.
`totalRemove =+ n` assigns `n`. -/
def removeAt (entry : T) (p : Nat) (state : QueueJob T × Int) (d : Nat) : QueueJob T × Int :=
  let (q, totalRemove) := state
  let preSize := (q.dataQueue d).length % unsignedRange
  let kept := (q.dataQueue d).filter (· ≠ entry)
  let removed : QueueJob T := { q with dataQueue := Function.update q.dataQueue d kept }
  let postSize := kept.length % unsignedRange
  if preSize ≠ postSize then
    let difference := (preSize + unsignedRange - postSize) % unsignedRange
    let total := (q.total + unsignedRange - difference) % unsignedRange
    (adjustIndexQueue { removed with total } p d, toInt difference)
  else (removed, totalRemove)

/-- The data queues of priority `p`: the range of the inner loop. -/
def dIndices (q : QueueJob T) (p : Nat) : List Nat :=
  List.range' (p * q.maxWeight) q.maxWeight

def remove (q : QueueJob T) (entry : T) : QueueJob T × Answer T :=
  let (after, totalRemove) := (List.range q.numPriority).foldl
    (fun state p => (q.dIndices p).foldl (removeAt entry p) state) (q, 0)
  (after, .returned totalRemove)

end Remove

def flush (q : QueueJob T) : QueueJob T :=
  { q with
    indexQueue := fun p => if p < q.numPriority then [] else q.indexQueue p
    dataQueue := fun d => if d < q.numPriority * q.maxWeight then [] else q.dataQueue d
    total := 0 }

end QueueJob

/-- One call on a queue, its lock held throughout. -/
inductive Call (T : Type) where
  | enqueue (entry : T) (blocking : Bool) (priority weight : Nat)
  | dequeue (blocking : Bool)
  | remove (entry : T)
  | flush
  deriving DecidableEq, Repr

def QueueJob.perform {T : Type} [DecidableEq T] (q : QueueJob T) : Call T → QueueJob T × Answer T
  | .enqueue entry blocking priority weight => q.enqueue entry blocking priority weight
  | .dequeue blocking => q.dequeue blocking
  | .remove entry => q.remove entry
  | .flush => (q.flush, .returned 0)

end OpenDiameter.Framework
