import BundleWatch.Config.Basic
import BundleWatch.Path.Basic
import BundleWatch.Text.Blank

/-!
# Validation

A project file is accepted if it scans something, its directories do not collide, its patterns
compile, and every rule has what its action needs. The checks run in a fixed order and the first
that fails is reported.
-/

set_option autoImplicit false

namespace BundleWatch

inductive ConfigError
  | noScan
  | emptyOutputDir
  | zeroPollInterval
  | relativeReloadPath (path : String)
  | repeatedScan (dir : String)
  | scannedOutput (dir : String)
  | manyGroups (rule groups : Nat)
  | copyWithoutDest (rule : Nat)
  | commandWithoutCmd (rule : Nat)
  /-- A rule that was not validated. -/
  | noDest
  | noCmd
  | pattern (e : PatternError)
deriving DecidableEq

namespace ConfigError

def message : ConfigError → String
  | .noScan => "Configuration error: config must contain at least one [[scan]] section"
  | .emptyOutputDir => "Configuration error: [build].output_dir must not be empty"
  | .zeroPollInterval => "Configuration error: [gate].poll_interval_ms must be >= 1 (got 0)"
  | .relativeReloadPath p =>
    "Configuration error: [reload].path must start with '/' (got '" ++ p ++ "')"
  | .repeatedScan d =>
    "Configuration error: directory '" ++ d ++ "' is listed in more than one [[scan]]"
  | .scannedOutput d =>
    "Configuration error: output directory '" ++ d ++
      "' can only be scanned with watch_only = true"
  | .manyGroups i n =>
    "Configuration error: rule #" ++ toString i ++ " pattern defines " ++ toString n ++
      " capture groups; at most one is allowed"
  | .copyWithoutDest i =>
    "Configuration error: rule #" ++ toString i ++ " uses action \"copy\" but has no `dest`"
  | .commandWithoutCmd i =>
    "Configuration error: rule #" ++ toString i ++ " uses action \"command\" but has no `cmd`"
  | .noDest => "Configuration error: copy rule has no `dest`"
  | .noCmd => "Configuration error: command rule has no `cmd`"
  | .pattern e => "Invalid pattern: " ++ e.message

end ConfigError

def require (b : Bool) (e : ConfigError) : Except ConfigError Unit :=
  if b then .ok () else .error e

namespace ProjectFile

def normalDir (dir : String) : String :=
  let p := Path.ofChars ((Text.trim dir).toList.reverse.dropWhile (· = '/')).reverse
  "/".intercalate ((p.components.filter (· ≠ .here)).map Component.text)

def compilePattern (p : PatternSpec) : Except ConfigError Pattern :=
  (Pattern.compile p).mapError .pattern

def checkSections (f : ProjectFile) : Except ConfigError Unit := do
  require (!(Text.trim f.build.outputDir).isEmpty) .emptyOutputDir
  require (f.gate.pollInterval != 0) .zeroPollInterval
  require (f.reload.path.toList.head? = some '/') (.relativeReloadPath f.reload.path)

def checkScans (output : String) : List String → List ScanSpec → Except ConfigError Unit
  | _, [] => .ok ()
  | seen, s :: ss => do
    let dir := normalDir s.dir
    require (!seen.contains dir) (.repeatedScan s.dir)
    require (dir != output || s.watchOnly) (.scannedOutput s.dir)
    match s.filter with
    | none => pure ()
    | some p => discard (compilePattern p)
    checkScans output (dir :: seen) ss

def checkRule (index : Nat) (r : RuleSpec) : Except ConfigError Unit := do
  let p ← compilePattern r.pattern
  require (p.captureGroups ≤ 1) (.manyGroups index p.captureGroups)
  match r.action with
  | .copy => require r.dest.isSome (.copyWithoutDest index)
  | .command => require (!(r.cmd.getD []).isEmpty) (.commandWithoutCmd index)
  | _ => .ok ()

def checkRules : Nat → List RuleSpec → Except ConfigError Unit
  | _, [] => .ok ()
  | i, r :: rs => do
    checkRule i r
    checkRules (i + 1) rs

def check (f : ProjectFile) : Except ConfigError Unit := do
  require (!f.scans.isEmpty) .noScan
  f.checkSections
  checkScans (normalDir f.build.outputDir) [] f.scans
  checkRules 0 f.rules

end ProjectFile

structure Config extends ProjectFile where
  accepted : toProjectFile.check = .ok ()

def ProjectFile.validate (f : ProjectFile) : Except ConfigError Config :=
  match h : f.check with
  | .ok () => .ok ⟨f, h⟩
  | .error e => .error e

end BundleWatch
