import BundleWatch.Failure
import BundleWatch.Files.Basic

/-!
# Running tools

The tools that tasks started and that have not reported their end. A tool has a number, which is never
used again.
-/

set_option autoImplicit false

namespace BundleWatch

structure Job where
  id : Nat
  description : String
  argv : List String
  dir : Path
deriving DecidableEq

structure Tracker where
  running : List Job := []
  nextId : Nat := 0
deriving DecidableEq, Inhabited

namespace Tracker

def empty : Tracker := {}

inductive SpawnError
  | emptyArgv (description : String)
  | refused (description reason : String)

def SpawnError.failure : SpawnError → Failure
  | .emptyArgv d => ⟨"command '" ++ d ++ "' has an empty argv", []⟩
  | .refused d reason => ⟨"spawning process for '" ++ d ++ "'", [reason]⟩

def spawn {σ : Type} [Host σ] (t : Tracker) (s : σ) (description : String) (argv : List String)
    (dir : Path) : Except SpawnError (Tracker × Nat) :=
  if argv.isEmpty then .error (.emptyArgv description)
  else
    match Host.startFault? s dir argv with
    | some reason => .error (.refused description reason)
    | none => .ok (⟨t.running ++ [⟨t.nextId, description, argv, dir⟩], t.nextId + 1⟩, t.nextId)

def finish (t : Tracker) (id : Nat) : Tracker × Option String :=
  ({ t with running := t.running.filter (·.id ≠ id) },
    (t.running.find? (·.id = id)).map (·.description))

def killAll (t : Tracker) : Tracker := { t with running := [] }

def isIdle (t : Tracker) : Bool := t.running.isEmpty

def describe (t : Tracker) : String :=
  "ProcessTracker \x7b running: " ++ toString t.running.length ++ ", .. \x7d"

end Tracker

end BundleWatch
