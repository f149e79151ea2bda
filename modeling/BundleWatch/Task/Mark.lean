import BundleWatch.Task.Basic

/-!
# Marks

What runs on the engine is written once, as a computation that records a mark for everything that
happens to the task queue and to the batch under way. The program is the value of such a computation.
The marks are there to say what it did.
-/

set_option autoImplicit false

namespace BundleWatch

inductive Mark
  | offered (t : Task) (isNew : Bool)
  | began
  | ran (t : Task)
  /-- A task failed, and was given up with all that stood behind it in the batch. -/
  | gaveUp (ts : List Task)
  /-- The request to schedule a flush was read and lowered. -/
  | asked
deriving DecidableEq

structure Traced (α : Type) where
  value : α
  marks : List Mark

namespace Traced

variable {α β : Type}

def mark (m : Mark) : Traced Unit := ⟨(), [m]⟩

instance : Monad Traced where
  pure a := ⟨a, []⟩
  bind x f :=
    let y := f x.value
    ⟨y.value, x.marks ++ y.marks⟩
  map f x := ⟨f x.value, x.marks⟩

@[simp] theorem pure_value (a : α) : (pure a : Traced α).value = a := rfl

@[simp] theorem pure_marks (a : α) : (pure a : Traced α).marks = [] := rfl

@[simp] theorem bind_value (x : Traced α) (f : α → Traced β) :
    (x >>= f).value = (f x.value).value := rfl

@[simp] theorem bind_marks (x : Traced α) (f : α → Traced β) :
    (x >>= f).marks = x.marks ++ (f x.value).marks := rfl

@[simp] theorem mark_marks (m : Mark) : (mark m).marks = [m] := rfl

end Traced

end BundleWatch
