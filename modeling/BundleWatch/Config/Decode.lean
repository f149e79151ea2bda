import BundleWatch.Config.Basic
import BundleWatch.Toml.Document

/-!
# Reading project files

The members of a section stand in a table under their names, or in an array in their order.
Names that mean nothing are passed over.
-/

set_option autoImplicit false

namespace BundleWatch.ProjectFile

open Toml (Value)

/-- A section as it is written. A moment in time counts as one that says nothing. -/
inductive Members
  | named (ms : List (String × Value))
  | listed (vs : List Value)

namespace Members

def ofValue? : Value → Option Members
  | .table ms => some (.named ms)
  | .array vs => some (.listed vs)
  | .moment => some (.named [])
  | _ => none

def get? (ms : Members) (place : Nat) (name : String) : Option Value :=
  match ms with
  | .named ms => (ms.find? (·.1 = name)).map (·.2)
  | .listed vs => vs[place]?

def read {α : Type} (ms : Members) (place : Nat) (name : String) (absent : Option α)
    (decode : Value → Option α) : Option α :=
  match ms.get? place name with
  | none => absent
  | some v => decode v

end Members

/-! ## Values -/

def text? : Value → Option String
  | .text s => some s
  | _ => none

def boolean? : Value → Option Bool
  | .boolean b => some b
  | _ => none

def natural? : Value → Option Nat
  | .integer n => if 0 ≤ n ∧ n < Int.ofNat UInt64.size then some n.toNat else none
  | _ => none

def list? {α : Type} (decode : Value → Option α) : Value → Option (List α)
  | .array vs => vs.mapM decode
  | _ => none

def textSet? (v : Value) : Option (List String) :=
  (list? text? v).map fun ss => (ss.mergeSort fun a b => decide (a ≤ b)).eraseDups

def pattern? : Value → Option PatternSpec
  | .table [("exact", .text s)] => some (.exact s)
  | .table [("prefix", .text s)] => some (.leading s)
  | .table [("suffix", .text s)] => some (.trailing s)
  | .table [("glob", .text s)] => some (.glob s)
  | .table [("regex", .text s)] => some (.regex s)
  | _ => none

def actionNamed? : String → Option Action
  | "copy" => some .copy
  | "command" => some .command
  | "reload" => some .reload
  | "manifest" => some .manifest
  | _ => none

def action? : Value → Option Action
  | .text s => actionNamed? s
  | .table [(s, .table [])] => actionNamed? s
  | .table [(s, .array [])] => actionNamed? s
  | _ => none

/-! ## Sections -/

def build? (v : Value) : Option BuildSection := do
  let ms ← Members.ofValue? v
  let d : BuildSection := {}
  return {
    outputDir := ← ms.read 0 "output_dir" (some d.outputDir) text?
    features := ← ms.read 1 "features" (some d.features) textSet?
    watch := ← ms.read 2 "watch" (some d.watch) boolean?
    verbose := ← ms.read 3 "verbose" (some d.verbose) boolean?
    manifest := ← ms.read 4 "manifest" (some d.manifest) text? }

def reload? (v : Value) : Option ReloadSection := do
  let ms ← Members.ofValue? v
  let d : ReloadSection := {}
  return {
    enabled := ← ms.read 0 "enabled" (some d.enabled) boolean?
    addr := ← ms.read 1 "addr" (some d.addr) text?
    path := ← ms.read 2 "path" (some d.path) text? }

def gate? (v : Value) : Option GateSection := do
  let ms ← Members.ofValue? v
  let d : GateSection := {}
  return {
    required := ← ms.read 0 "required" (some d.required) (list? text?)
    pollInterval := ← ms.read 1 "poll_interval_ms" (some d.pollInterval) natural? }

def scan? (v : Value) : Option ScanSpec := do
  let ms ← Members.ofValue? v
  return {
    dir := ← ms.read 0 "dir" none text?
    filter := ← ms.read 1 "filter" (some none) fun v => (pattern? v).map some
    watchOnly := ← ms.read 2 "watch_only" (some false) boolean? }

def rule? (v : Value) : Option RuleSpec := do
  let ms ← Members.ofValue? v
  return {
    pattern := ← ms.read 0 "pattern" none pattern?
    action := ← ms.read 1 "action" none action?
    feature := ← ms.read 2 "feature" (some none) fun v => (text? v).map some
    dest := ← ms.read 3 "dest" (some none) fun v => (text? v).map some
    cmd := ← ms.read 4 "cmd" (some none) fun v => (list? text? v).map some
    description := ← ms.read 5 "description" (some none) fun v => (text? v).map some }

def ofMembers? (ms : Members) : Option ProjectFile := do
  return {
    build := ← ms.read 0 "build" (some {}) build?
    reload := ← ms.read 1 "reload" (some {}) reload?
    gate := ← ms.read 2 "gate" (some {}) gate?
    scans := ← ms.read 3 "scan" (some []) (list? scan?)
    rules := ← ms.read 4 "rule" (some []) (list? rule?) }

def parse? (source : String) : Option ProjectFile :=
  (Toml.parse? source).bind fun ms => ofMembers? (.named ms)

end BundleWatch.ProjectFile
