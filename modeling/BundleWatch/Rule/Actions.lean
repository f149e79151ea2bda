import BundleWatch.Path.Relative
import BundleWatch.Rule.Table
import BundleWatch.Rule.Template

/-!
# Rules of a project file

Each active rule of a project file becomes a rule of the table that offers one built-in task.
-/

set_option autoImplicit false

namespace BundleWatch

namespace Task

/-! The names of the built-in handlers. -/

def copyName : String := "copy"
def commandName : String := "command"
def reloadName : String := "reload"
def manifestName : String := "manifest"

end Task

namespace RuleSpec

def vars (settings : Settings) (s : Subject) : TemplateVars :=
  .ofFile s.path s.rel s.capture settings.outputDir

def offerCopy (dest : String) (settings : Settings) (s : Subject) (j : Journal) : Work Journal :=
  let v := vars settings s
  .offer j Task.copyName [.text v.path, .text (v.render dest)]

def offerCommand (description : String) (argv : List String) (settings : Settings) (s : Subject)
    (j : Journal) : Work Journal :=
  let v := vars settings s
  .offer j Task.commandName [.text (v.render description), .list (argv.map v.render)]

def offerReload (settings : Settings) (s : Subject) (j : Journal) : Work Journal :=
  match Path.relativeTo? s.place settings.outputDir s.path with
  | some name => .offer j Task.reloadName [.text name]
  | none => .finish j (.ok ())

def offerManifest (_ : Settings) (_ : Subject) (j : Journal) : Work Journal :=
  .offer j Task.manifestName []

def rule (r : RuleSpec) : Except ConfigError Rule := do
  let p ← (Pattern.compile r.pattern).mapError ConfigError.pattern
  match r.action with
  | .copy =>
    match r.dest with
    | some dest => return ⟨p, offerCopy dest⟩
    | none => throw .noDest
  | .command =>
    match r.cmd.filter (!·.isEmpty) with
    | some argv => return ⟨p, offerCommand (r.description.getD (" ".intercalate argv)) argv⟩
    | none => throw .noCmd
  | .reload => return ⟨p, offerReload⟩
  | .manifest => return ⟨p, offerManifest⟩

end RuleSpec

def Config.ruleTable (c : Config) : Except ConfigError RuleTable :=
  c.activeRules.mapM RuleSpec.rule

end BundleWatch
