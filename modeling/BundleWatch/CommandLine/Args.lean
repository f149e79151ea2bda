import BundleWatch.CommandLine.LogLevel

/-!
# The command line

Options stand in any order, each at most once. An option that takes a value finds it behind `=` or in
the next argument, unless that looks like an option itself. What is wrong with a value is noticed
when the next known option, or the end, is reached.
-/

set_option autoImplicit false

namespace BundleWatch

structure Invocation where
  config : String := "Rulewatch.toml"
  once : Bool := false
  verbose : Bool := false
  dryRun : Bool := false
  logLevel : Option LogLevel := none
deriving DecidableEq, Inhabited

inductive Switch
  | config
  | once
  | logLevel
  | verbose
  | dryRun
  | help (long : Bool)
  | version
deriving DecidableEq

namespace Switch

def ofLong? : String → Option Switch
  | "config" => some .config
  | "once" => some .once
  | "log-level" => some .logLevel
  | "verbose" => some .verbose
  | "dry-run" => some .dryRun
  | "help" => some (.help true)
  | "version" => some .version
  | _ => none

def ofShort? : Char → Option Switch
  | 'v' => some .verbose
  | 'h' => some (.help false)
  | 'V' => some .version
  | _ => none

def takesValue : Switch → Bool
  | .config | .logLevel => true
  | _ => false

def usage : Switch → String
  | .config => "--config <PATH>"
  | .once => "--once"
  | .logLevel => "--log-level <LEVEL>"
  | .verbose => "--verbose"
  | .dryRun => "--dry-run"
  | .help _ => "--help"
  | .version => "--version"

end Switch

/-- Why no build begins. Help and version are asked for and end the run as well. -/
inductive UsageError
  | unknownArgument (arg : String)
  | missingValue (s : Switch)
  | invalidValue (s : Switch) (value : String)
  | repeated (s : Switch)
  | unexpectedValue (s : Switch) (value : String)
  | help (long : Bool)
  | version
deriving DecidableEq

namespace UsageError

def message : UsageError → String
  | .unknownArgument a => "error: unexpected argument '" ++ a ++ "' found"
  | .missingValue s => "error: a value is required for '" ++ s.usage ++ "' but none was supplied"
  | .invalidValue s v => "error: invalid value '" ++ v ++ "' for '" ++ s.usage ++ "'"
  | .repeated s => "error: the argument '" ++ s.usage ++ "' cannot be used multiple times"
  | .unexpectedValue s v =>
    "error: unexpected value '" ++ v ++ "' for '" ++ s.usage ++ "' found; no more were expected"
  | .help _ | .version => ""

end UsageError

structure ArgReader where
  result : Invocation := {}
  seen : List Switch := []
  pending : Option (Switch × Option String) := none

namespace ArgReader

def assign (r : ArgReader) (s : Switch) (value : String) : Except UsageError ArgReader :=
  let r := { r with seen := s :: r.seen }
  match s with
  | .config => .ok { r with result := { r.result with config := value } }
  | .logLevel =>
    match LogLevel.ofName? value with
    | some l => .ok { r with result := { r.result with logLevel := some l } }
    | none => .error (if value.isEmpty then .missingValue s else .invalidValue s value)
  | _ => .ok r

def settle (r : ArgReader) : Except UsageError ArgReader :=
  match r.pending with
  | none => .ok r
  | some (s, none) => .error (.missingValue s)
  | some (s, some v) =>
    if r.seen.contains s then .error (.repeated s) else { r with pending := none }.assign s v

def raise (r : ArgReader) (s : Switch) : Except UsageError ArgReader := do
  let r ← r.settle
  if r.seen.contains s then throw (.repeated s)
  let r := { r with seen := s :: r.seen }
  match s with
  | .once => return { r with result := { r.result with once := true } }
  | .verbose => return { r with result := { r.result with verbose := true } }
  | .dryRun => return { r with result := { r.result with dryRun := true } }
  | .help long => throw (.help long)
  | .version => throw .version
  | .config | .logLevel => return r

def takeLong (r : ArgReader) (name : List Char) (value : Option String) :
    Except UsageError ArgReader :=
  match Switch.ofLong? (String.ofList name) with
  | none => .error (.unknownArgument ("--" ++ String.ofList name))
  | some s =>
    match s.takesValue, value with
    | true, none => do
      let r ← r.settle
      return { r with pending := some (s, none) }
    | true, some v => do
      let r ← r.settle
      if r.seen.contains s then throw (.repeated s) else r.assign s v
    | false, none => r.raise s
    | false, some v => .error (.unexpectedValue s v)

def takeShort (r : ArgReader) : List Char → Except UsageError ArgReader
  | [] => .ok r
  | c :: cs =>
    match Switch.ofShort? c with
    | none => .error (.unknownArgument ("-" ++ toString c))
    | some s => do (← r.raise s).takeShort cs

def takeWord (r : ArgReader) (arg : String) : Except UsageError ArgReader :=
  match r.pending with
  | some (s, none) => .ok { r with pending := some (s, some arg) }
  | _ => .error (.unknownArgument arg)

def takeAll (r : ArgReader) : List String → Except UsageError ArgReader
  | [] => .ok r
  | arg :: args =>
    match arg.toList with
    | ['-', '-'] =>
      match args with
      | [] => .ok r
      | extra :: _ => .error (.unknownArgument extra)
    | '-' :: '-' :: cs => do
      let (name, value) := cs.span (· ≠ '=')
      let value := match value with
        | [] => none
        | _ :: v => some (String.ofList v)
      (← r.takeLong name value).takeAll args
    | '-' :: c :: cs => do (← r.takeShort (c :: cs)).takeAll args
    | _ => do (← r.takeWord arg).takeAll args

end ArgReader

namespace Invocation

def parse (args : List String) : Except UsageError Invocation := do
  let r ← (← ArgReader.takeAll {} args).settle
  return r.result

end Invocation

/-! ## Help -/

namespace UsageError

def about : String :=
  "Incrementally build an output bundle from path rules, with watch mode and live reload."

def shortHelp : String :=
  "\n".intercalate
    [about,
     "",
     "Usage: rulewatch [OPTIONS]",
     "",
     "Options:",
     "      --config <PATH>      Path to the project file (TOML) [default: Rulewatch.toml]",
     "      --once               Build once and exit; do not watch for changes",
     "      --log-level <LEVEL>  Logging level (error, warn, info, debug, trace) " ++
       "[possible values: error, warn, info, debug, trace]",
     "  -v, --verbose            Log every task as it runs",
     "      --dry-run            Parse + validate, print scans and rules, but don't run anything",
     "  -h, --help               Print help (see more with '--help')",
     "  -V, --version            Print version",
     ""]

def longHelp : String :=
  let gap := "          "
  "\n".intercalate
    [about,
     "",
     "Usage: rulewatch [OPTIONS]",
     "",
     "Options:",
     "      --config <PATH>",
     gap ++ "Path to the project file (TOML).",
     gap,
     gap ++ "Default: `Rulewatch.toml` in the current working directory.",
     gap,
     gap ++ "[default: Rulewatch.toml]",
     "",
     "      --once",
     gap ++ "Build once and exit; do not watch for changes",
     "",
     "      --log-level <LEVEL>",
     gap ++ "Logging level (error, warn, info, debug, trace).",
     gap,
     gap ++ "If omitted, `RULEWATCH_LOG`, `--verbose` or a default level will be used.",
     gap,
     gap ++ "[possible values: error, warn, info, debug, trace]",
     "",
     "  -v, --verbose",
     gap ++ "Log every task as it runs",
     "",
     "      --dry-run",
     gap ++ "Parse + validate, print scans and rules, but don't run anything",
     "",
     "  -h, --help",
     gap ++ "Print help (see a summary with '-h')",
     "",
     "  -V, --version",
     gap ++ "Print version",
     ""]

def output : UsageError → String
  | .help long => if long then longHelp else shortHelp
  | .version => "rulewatch 0.1.0\n"
  | _ => ""

def exitCode : UsageError → Nat
  | .help _ | .version => 0
  | _ => 2

end UsageError

end BundleWatch
