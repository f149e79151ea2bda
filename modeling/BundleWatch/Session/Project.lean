import BundleWatch.Config.Decode
import BundleWatch.Config.Settings
import BundleWatch.Error
import BundleWatch.Files.Disk

/-!
# Projects on a disk

A project is read from its file, whose directory is the root of the project. It can be shown without
being built.
-/

set_option autoImplicit false

namespace BundleWatch

structure Project where
  config : Config
  root : Path

namespace Project

def readConfig (d : Disk) (file : Path) : Except BuildError Config := do
  let text ← (d.readText file).mapError fun e => .io e.message
  match ProjectFile.parse? text with
  | none => throw .document
  | some f => f.validate.mapError .config

def findRoot (d : Disk) (file : Path) : Except BuildError Path :=
  let dir := projectRoot (Disk.locationPath d.currentDir) file
  (d.canonicalize dir).mapError fun e =>
    .other ⟨"resolving project root " ++ dir.quoted, [e.message]⟩

def ofConfig (d : Disk) (file : Path) (c : Config) : Except BuildError Project :=
  (findRoot d file).map fun root => ⟨c, root⟩

/-! ## Showing -/

def quoteSet (xs : List String) : String :=
  "\x7b" ++ ", ".intercalate (xs.map Text.quote) ++ "\x7d"

def describeBuild (p : Project) : List String :=
  let features := p.config.build.features
  let required := p.config.gate.required
  ["  root = " ++ p.root.text, "  output_dir = " ++ p.config.build.outputDir] ++
    (if features.isEmpty then [] else ["  features = " ++ quoteSet features]) ++
    (if required.isEmpty then [] else ["  gate.required = " ++ Text.quoteList required])

def describeScan (s : ScanSpec) : List String :=
  ["  - " ++ s.dir] ++
    (s.filter.map fun f => "      filter: " ++ f.describe).toList ++
    (if s.watchOnly then ["      watch_only: true"] else [])

def describeRule (r : RuleSpec) : List String :=
  ["  - " ++ r.pattern.describe ++ " -> " ++ r.action.describe] ++
    (r.dest.map ("      dest: " ++ ·)).toList ++
    (r.cmd.map fun argv => "      cmd: " ++ Text.quoteList argv).toList ++
    (r.feature.map ("      feature: " ++ ·)).toList

def describe (p : Project) : String :=
  let scans := p.config.scans
  let active := p.config.activeRules
  let lines :=
    ["rulewatch dry-run"] ++ p.describeBuild ++
    ["", "scans (" ++ toString scans.length ++ "):"] ++ scans.flatMap describeScan ++
    ["", "rules (" ++ toString active.length ++ " active of " ++
      toString p.config.rules.length ++ "):"] ++ active.flatMap describeRule
  "\n".intercalate lines ++ "\n"

end Project

end BundleWatch
