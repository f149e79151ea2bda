import BundleWatch.Files.Disk

/-!
# Threads

A thread is what a program goes on to do: it acts on the disk at once, sleeps, starts another thread of
the program, waits for the threads it started, sends a signal, or ends.
-/

set_option autoImplicit false

namespace BundleWatch

inductive Thread
  | exit (code : Nat)
  | act (run : Disk → Disk × Thread)
  /-- Time is counted in milliseconds. -/
  | sleep (time : Nat) (rest : Thread)
  /-- The thread goes on with the number of the other one. -/
  | fork (other : Thread) (rest : Nat → Thread)
  /-- Waits for one thread, or for all it started. It goes on with the code of the one. -/
  | wait (target : Option Nat) (rest : Nat → Thread)
  | signal (target n : Nat) (rest : Thread)

instance : Inhabited Thread := ⟨.exit 0⟩

end BundleWatch
