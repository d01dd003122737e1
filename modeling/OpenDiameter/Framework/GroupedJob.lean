import OpenDiameter.Framework.QueueJob

/-! Grouped jobs and the reference counts of the jobs they multiplex.

`Serve` is kept in two parts, up to the call of the child's own `Serve` and from
its return on, so that other calls can come between them.
-/

set_option autoImplicit false

namespace OpenDiameter.Framework

/-- An arithmetic result stored in an `int`. -/
def wrapInt (value : Int) : Int := Int.bmod value (2 ^ 32)

/-- An `AAA_Job` that is scheduled by a parent. `owned` says that its owner has not
called `Delete`, `destroyed` counts the runs of its destructor. -/
structure Job where
  refcount : Int
  priority : Nat
  weight : Nat
  owned : Bool
  destroyed : Nat
  deriving DecidableEq, Repr

/-- `AAA_SCHED_FIFO`, `AAA_SCHED_WFQ`, `AAA_SCHED_PRIORITY`. -/
def schedFifo : Nat := 0
def schedWfq : Nat := 1
def schedPriority : Nat := 2

/-- `AAA_GroupedJob`, with the jobs it is the parent of; `J` names them. `serving`
holds the jobs whose own `Serve` is running, `misused` says that a method was
called on a job that was destroyed or that there is not. -/
structure GroupedJob (J : Type) where
  queue : QueueJob J
  policy : Nat
  running : Bool
  blocking : Bool
  root : Bool
  jobs : J → Job
  serving : List J
  misused : Bool

namespace GroupedJob

variable {J : Type} [DecidableEq J]

def touch (g : GroupedJob J) (job : J) : GroupedJob J :=
  { g with misused := g.misused || decide ((g.jobs job).destroyed ≠ 0) }

def setJob (g : GroupedJob J) (job : J) (value : Job) : GroupedJob J :=
  { g with jobs := Function.update g.jobs job value }

section Job

def acquire (g : GroupedJob J) (job : J) : GroupedJob J :=
  (g.touch job).setJob job { g.jobs job with refcount := wrapInt ((g.jobs job).refcount + 1) }

/-- `Release(n)`. -/
def release (g : GroupedJob J) (job : J) (n : Int) : GroupedJob J × Int :=
  let refcount := wrapInt ((g.jobs job).refcount - n)
  if refcount < 0 then
    ((g.touch job).setJob job { g.jobs job with refcount, destroyed := (g.jobs job).destroyed + 1 }, -1)
  else ((g.touch job).setJob job { g.jobs job with refcount }, 0)

def delete (g : GroupedJob J) (job : J) : GroupedJob J :=
  let refcount := wrapInt ((g.jobs job).refcount - 1)
  let destroyed := if refcount ≤ 0 then (g.jobs job).destroyed + 1 else (g.jobs job).destroyed
  (g.touch job).setJob job { g.jobs job with refcount, owned := false, destroyed }

end Job

def enforceSchedulingPolicy (g : GroupedJob J) (job : J) : Nat × Nat :=
  (if g.policy ≠ schedPriority then 1 else (g.jobs job).priority,
    if g.policy ≠ schedWfq then 100000 else (g.jobs job).weight)

def setQueue (g : GroupedJob J) (queue : QueueJob J) : GroupedJob J := { g with queue }

/-- `Enqueue(job, blocking)` with the default priority and weight. -/
def enqueueJob (g : GroupedJob J) (job : J) (blocking : Bool) : GroupedJob J × Answer J :=
  let (queue, answer) := g.queue.enqueue job blocking 1 1
  (g.setQueue queue, answer)

/-- `Schedule`; `upward` is what the parent's own parent would answer. -/
def schedule (g : GroupedJob J) (job : J) (backlogSize : Nat) (upward : Int) : GroupedJob J × Int :=
  if !g.running then (g, -1)
  else
    let acquired := g.acquire job
    let (_, weight) := acquired.enforceSchedulingPolicy job
    if weight < backlogSize then (acquired, 0)
    else
      match acquired.enqueueJob job g.blocking with
      | (enqueued, .returned result) =>
        if result ≤ 0 then (enqueued, -1) else (enqueued, if g.root then 0 else upward)
      | (waiting, _) => (waiting, 0)

/-- `Serve` up to the call of the child's own `Serve`, or its value when it returns before. -/
def serveFirst (g : GroupedJob J) : GroupedJob J × Option Int :=
  match g.queue.dequeue g.blocking with
  | (queue, .served _ job) =>
    let (released, code) := (g.setQueue queue).release job 1
    if code = -1 then (released, some (toInt released.queue.total))
    else ({ released with serving := job :: released.serving }, none)
  | (queue, .returned result) => (g.setQueue queue, some result)
  | (queue, .dequeueError) => (g.setQueue queue, some 0)
  | (queue, .waits) => (g.setQueue queue, none)
  | (queue, .fault) => ({ g.setQueue queue with misused := true }, some 0)

/-- `Serve` from the return of the child's own `Serve` on. -/
def serveRest (g : GroupedJob J) (job : J) (childBacklogSize : Nat) : GroupedJob J × Int :=
  let served := { g with serving := g.serving.erase job }.touch job
  let (priority, weight) := served.enforceSchedulingPolicy job
  if childBacklogSize < weight then (served, toInt served.queue.total)
  else
    match (served.acquire job).enqueueJob job (decide (priority ≠ 0)) with
    | (enqueued, .returned result) => (enqueued, result)
    | (waiting, _) => (waiting, 0)

/-- The loop of `Flush`. An unsuccessful `Dequeue` leaves the pointer unset. -/
def flushFrom : Nat → GroupedJob J → GroupedJob J
  | 0, g => g
  | fuel + 1, g =>
    if g.queue.total = 0 then g
    else
      match g.queue.dequeue false with
      | (queue, .served _ job) => flushFrom fuel ((g.setQueue queue).release job 1).1
      | _ => { g with misused := true }

/-- `Flush`: every turn of its loop takes one entry. -/
def flush (g : GroupedJob J) : GroupedJob J := flushFrom g.queue.total g

def remove (g : GroupedJob J) (job : J) : GroupedJob J :=
  match g.queue.remove job with
  | (queue, .returned n) => ((g.setQueue queue).release job n).1
  | (queue, _) => g.setQueue queue

def start (g : GroupedJob J) : GroupedJob J := { g with running := true }

def stop (g : GroupedJob J) : GroupedJob J :=
  let flushed := { g with running := false }.flush
  flushed.setQueue { flushed.queue with signaled := true }

end GroupedJob

inductive JobCall (J : Type) where
  | start
  | stop
  | schedule (job : J) (backlogSize : Nat) (upward : Int)
  | serve
  | served (job : J) (childBacklogSize : Nat)
  | remove (job : J)
  | flush
  | delete (job : J)
  deriving DecidableEq, Repr

/-- The own `Serve` of a job returns only where it was called. -/
def GroupedJob.call {J : Type} [DecidableEq J] (g : GroupedJob J) : JobCall J → GroupedJob J
  | .start => g.start
  | .stop => g.stop
  | .schedule job backlogSize upward => (g.schedule job backlogSize upward).1
  | .serve => g.serveFirst.1
  | .served job childBacklogSize =>
    if job ∈ g.serving then (g.serveRest job childBacklogSize).1 else g
  | .remove job => g.remove job
  | .flush => g.flush
  | .delete job => g.delete job

def GroupedJob.create {J : Type} (policy : Nat) (blocking root : Bool) (priority weight : J → Nat)
    (queue : QueueJob J) : GroupedJob J where
  queue := queue
  policy := policy
  running := false
  blocking := blocking
  root := root
  jobs := fun job => ⟨1, priority job, weight job, true, 0⟩
  serving := []
  misused := false

end OpenDiameter.Framework
