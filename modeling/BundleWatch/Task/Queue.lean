import BundleWatch.Task.Basic

/-!
# The task queue

Pending tasks, at most one for each identity. The first task after a batch was taken arms a flush
and raises one request to schedule it.
-/

set_option autoImplicit false

namespace BundleWatch

structure TaskQueue where
  pending : List Task := []
  pendingIds : List TaskId := []
  armed : Bool := false
  scheduleRequested : Bool := false
  enqueued : Nat := 0
  run : Nat := 0
deriving Inhabited

structure QueueStats where
  enqueued : Nat
  run : Nat
  pending : Nat
deriving DecidableEq

namespace TaskQueue

def empty : TaskQueue := {}

def push (q : TaskQueue) (t : Task) : TaskQueue × Bool :=
  if t.id ∈ q.pendingIds then (q, false)
  else
    ({ q with
        pending := q.pending ++ [t]
        pendingIds := q.pendingIds ++ [t.id]
        armed := true
        scheduleRequested := q.scheduleRequested || !q.armed
        enqueued := q.enqueued + 1 }, true)

def enqueue (q : TaskQueue) (handler : String) (args : List Arg) : TaskQueue × Bool :=
  q.push (.new handler args)

def takeScheduleRequest (q : TaskQueue) : TaskQueue × Bool :=
  ({ q with scheduleRequested := false }, q.scheduleRequested)

def takeBatch (q : TaskQueue) : TaskQueue × List Task :=
  ({ q with pending := [], pendingIds := [], armed := false }, q.pending)

def markRun (q : TaskQueue) : TaskQueue := { q with run := q.run + 1 }

def isEmpty (q : TaskQueue) : Bool := q.pending.isEmpty

def length (q : TaskQueue) : Nat := q.pending.length

def stats (q : TaskQueue) : QueueStats := ⟨q.enqueued, q.run, q.pending.length⟩

end TaskQueue

end BundleWatch
