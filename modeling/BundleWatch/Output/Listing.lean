import BundleWatch.Files.Basic
import BundleWatch.Watch.Walk

/-!
# Output listing

The files below the output directory, by their relative names. Links are passed over.
-/

set_option autoImplicit false

namespace BundleWatch

variable {σ : Type} [FileSystem σ]

open FileSystem

def namesBelow (s : σ) (out : Path) : Nat → Path → Except Failure (List String)
  | 0, _ => .error (endless out)
  | n + 1, dir => do
    let entries := (← readDir s dir).filter fun p => !isLink s p
    let inner ← (entries.filter (isDir s)).mapM (namesBelow s out n)
    let files := entries.filter fun p => !isDir s p && isFile s p
    return files.filterMap (relative? s out) ++ inner.flatten

def sortedTexts (ss : List String) : List String :=
  (ss.mergeSort fun a b => decide (a ≤ b)).eraseDups

def artifacts (s : σ) (out : Path) : Except Failure (List String) :=
  if isDir s out then (namesBelow s out (depthBound s + 1) out).map sortedTexts else .ok []

def isComplete (s : σ) (out : Path) (required : List String) : Except Failure Bool := do
  let found ← artifacts s out
  return required.all fun n => found.contains n

/-! ## The completion gate -/

inductive GateOutcome
  | complete
  | failed (f : Failure)
  | waiting
deriving DecidableEq

def awaitArtifacts (out : Path) (required : List String) : List σ → GateOutcome × Nat
  | [] => (.waiting, 0)
  | s :: later =>
    match isComplete s out required with
    | .error f => (.failed f, 1)
    | .ok true => (.complete, 1)
    | .ok false =>
      let (o, n) := awaitArtifacts out required later
      (o, n + 1)

end BundleWatch
