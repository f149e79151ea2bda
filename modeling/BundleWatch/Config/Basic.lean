import BundleWatch.Pattern.Basic

/-!
# Project files

What a project file says: where the output goes, which directories are scanned, and which rules
turn the files found there into tasks. A rule that names a feature is active only if that feature
is switched on.
-/

set_option autoImplicit false

namespace BundleWatch

structure BuildSection where
  outputDir : String := "build"
  /-- Without repetitions, in the order of texts. -/
  features : List String := []
  watch : Bool := true
  verbose : Bool := false
  manifest : String := "manifest.json"
deriving DecidableEq, Inhabited

structure ReloadSection where
  enabled : Bool := true
  addr : String := "127.0.0.1:35729"
  path : String := "/livereload"
deriving DecidableEq, Inhabited

structure GateSection where
  required : List String := []
  /-- In milliseconds. -/
  pollInterval : Nat := 250
deriving DecidableEq, Inhabited

structure ScanSpec where
  dir : String
  filter : Option PatternSpec := none
  watchOnly : Bool := false
deriving DecidableEq, Inhabited

inductive Action
  | copy
  | command
  | reload
  | manifest
deriving DecidableEq, Inhabited

def Action.describe : Action → String
  | .copy => "Copy"
  | .command => "Command"
  | .reload => "Reload"
  | .manifest => "Manifest"

structure RuleSpec where
  pattern : PatternSpec
  action : Action
  feature : Option String := none
  dest : Option String := none
  cmd : Option (List String) := none
  description : Option String := none
deriving DecidableEq, Inhabited

structure ProjectFile where
  build : BuildSection := {}
  reload : ReloadSection := {}
  gate : GateSection := {}
  scans : List ScanSpec := []
  rules : List RuleSpec := []
deriving DecidableEq, Inhabited

namespace ProjectFile

def isActive (f : ProjectFile) (r : RuleSpec) : Bool :=
  match r.feature with
  | none => true
  | some name => f.build.features.contains name

def activeRules (f : ProjectFile) : List RuleSpec := f.rules.filter f.isActive

def activeIndexes (f : ProjectFile) : List Nat :=
  (f.rules.zipIdx.filter fun p => f.isActive p.1).map (·.2)

end ProjectFile

end BundleWatch
