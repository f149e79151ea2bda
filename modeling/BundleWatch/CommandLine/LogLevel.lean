import BundleWatch.Text.Blank

/-!
# The level of reports

The level comes from the command line, else from the environment, else from the wish for more
reports. It can be set only once.
-/

set_option autoImplicit false

namespace BundleWatch

inductive LogLevel
  | error
  | warn
  | info
  | debug
  | trace
deriving DecidableEq, Inhabited

namespace LogLevel

def all : List LogLevel := [.error, .warn, .info, .debug, .trace]

def name : LogLevel → String
  | .error => "error"
  | .warn => "warn"
  | .info => "info"
  | .debug => "debug"
  | .trace => "trace"

def title : LogLevel → String
  | .error => "Error"
  | .warn => "Warn"
  | .info => "Info"
  | .debug => "Debug"
  | .trace => "Trace"

def ofName? (s : String) : Option LogLevel := all.find? (·.name = s)

def ofText? (s : String) : Option LogLevel :=
  let word := String.ofList ((Text.trim s).toList.map Char.toLower)
  if word = "warning" then some .warn else ofName? word

def choose (cli : Option LogLevel) (env : Option String) (verbose : Bool) : LogLevel :=
  match cli, env.bind ofText? with
  | some l, _ => l
  | none, some l => l
  | none, none => if verbose then .debug else .info

/-- Sets the level several times over. Only the first time succeeds. -/
def install (level : LogLevel) : Nat → List (Except String LogLevel)
  | 0 => []
  | n + 1 =>
    .ok level :: List.replicate n (.error
      "failed to install tracing subscriber: a global default trace dispatcher has already been set")

end LogLevel

end BundleWatch
