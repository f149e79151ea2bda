import BundleWatch.Config.Validate
import BundleWatch.Failure

/-!
# Errors of a build

Why a build could not begin or had to stop.
-/

set_option autoImplicit false

namespace BundleWatch

inductive BuildError
  | config (e : ConfigError)
  | document
  | io (text : String)
  | taskFailed (task message : String)
  | commandFailed (description : String) (code : Int)
  | other (f : Failure)
deriving DecidableEq

def BuildError.message : BuildError → String
  | .config e => e.message
  | .document => "TOML parsing error"
  | .io s => "IO error: " ++ s
  | .taskFailed t m => "Task '" ++ t ++ "' failed: " ++ m
  | .commandFailed d n => "Command failed (" ++ d ++ ") with exit code " ++ toString n
  | .other f => f.message

def BuildError.headline : BuildError → String
  | .other f => f.text
  | e => e.message

end BundleWatch
