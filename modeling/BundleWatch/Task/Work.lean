import BundleWatch.Failure
import BundleWatch.Task.Mark
import BundleWatch.Task.Queue

/-!
# Work

What runs on behalf of a rule or a task. It changes a world of its own and reaches the queue only by
offering tasks to it, learning each time whether the task was new.
-/

set_option autoImplicit false

namespace BundleWatch

inductive Work (ω : Type)
  | finish (world : ω) (outcome : Except Failure Unit)
  | enqueue (task : Task) (resume : Bool → Work ω)

namespace Work

variable {ω : Type}

def trace : Work ω → TaskQueue → Traced (TaskQueue × ω × Except Failure Unit)
  | .finish w o, q => pure (q, w, o)
  | .enqueue t resume, q => do
    let (q, isNew) := q.push t
    Traced.mark (.offered t isNew)
    (resume isNew).trace q

def run (w : Work ω) (q : TaskQueue) : TaskQueue × ω × Except Failure Unit := (w.trace q).value

@[simp] theorem trace_value (w : Work ω) (q : TaskQueue) : (w.trace q).value = w.run q := rfl

def offer (w : ω) (handler : String) (args : List Arg) : Work ω :=
  .enqueue (.new handler args) fun _ => .finish w (.ok ())

end Work

end BundleWatch
