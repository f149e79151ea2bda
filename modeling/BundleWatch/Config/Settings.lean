import BundleWatch.Config.Validate

/-!
# Settings

What the parts of a running build need to know of the project.
-/

set_option autoImplicit false

namespace BundleWatch

structure Settings where
  root : Path
  outputDir : Path
  watch : Bool := false
  verbose : Bool := false
  manifest : String := "manifest.json"
deriving Inhabited

def Settings.ofConfig (c : Config) (root : Path) (watch verbose : Bool) : Settings where
  root := root
  outputDir := root.join ⟨c.build.outputDir⟩
  watch := watch && c.build.watch
  verbose := verbose || c.build.verbose
  manifest := c.build.manifest

def projectRoot (currentDir configPath : Path) : Path :=
  match configPath.parent? with
  | some p => if p.text.isEmpty then currentDir else p
  | none => currentDir

end BundleWatch
