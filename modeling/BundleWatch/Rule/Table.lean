import BundleWatch.Config.Settings
import BundleWatch.Pattern.Basic
import BundleWatch.Task.Work

/-!
# Rule tables

An ordered list of rules. Every rule whose pattern matches the relative name of a file acts on the
file; none of them hides another.
-/

set_option autoImplicit false

namespace BundleWatch

abbrev Journal := List String

structure Subject where
  path : Path
  rel : String
  capture : Option String
  place : Path → Option Path

structure Rule where
  pattern : Pattern
  act : Settings → Subject → Journal → Work Journal

abbrev RuleTable := List Rule

namespace RuleTable

def hits (rules : RuleTable) (rel : String) : List (Rule × Option String) :=
  rules.filterMap fun r => (r.pattern.fullMatch? rel).map fun m => (r, m.capture)

def fireTrace (settings : Settings) (place : Path → Option Path) (path : Path) (rel : String) :
    List (Rule × Option String) → TaskQueue → Journal →
      Traced (TaskQueue × Journal × Except (Pattern × Failure) Nat)
  | [], q, j => pure (q, j, .ok 0)
  | (r, capture) :: rs, q, j => do
    match ← (r.act settings ⟨path, rel, capture, place⟩ j).trace q with
    | (q, j, .error f) => pure (q, j, .error (r.pattern, f))
    | (q, j, .ok ()) =>
      let (q, j, fired) ← fireTrace settings place path rel rs q j
      pure (q, j, fired.map (· + 1))

def fire (settings : Settings) (place : Path → Option Path) (path : Path) (rel : String)
    (hits : List (Rule × Option String)) (q : TaskQueue) (j : Journal) :
    TaskQueue × Journal × Except (Pattern × Failure) Nat :=
  (fireTrace settings place path rel hits q j).value

@[simp] theorem fire_trace_value (settings : Settings) (place : Path → Option Path) (path : Path)
    (rel : String) (hits : List (Rule × Option String)) (q : TaskQueue) (j : Journal) :
    (fireTrace settings place path rel hits q j).value = fire settings place path rel hits q j := rfl

def describe (rules : RuleTable) : String :=
  "RuleTable \x7b rules: [" ++
    ", ".intercalate (rules.map fun r =>
      "Rule \x7b pattern: " ++ r.pattern.describe ++ ", .. \x7d") ++
    "] \x7d"

end RuleTable

end BundleWatch
