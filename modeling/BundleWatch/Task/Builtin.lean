import BundleWatch.Output.Manifest
import BundleWatch.Rule.Actions
import BundleWatch.Task.Handler

/-!
# Built-in tasks

The four things that a rule of a project file can have done: copy a file into the output directory,
start a tool, announce a changed file, and bring the manifest up to date.
-/

set_option autoImplicit false

namespace BundleWatch.Task

inductive ArgumentError
  | missingText (what : String) (place : Nat)
  | missingArgv
  | emptyDestination
  | escapes (dest : String)
deriving DecidableEq

def ArgumentError.message : ArgumentError → String
  | .missingText what i => "missing " ++ what ++ " (argument " ++ toString i ++ ")"
  | .missingArgv => "missing argv list"
  | .emptyDestination => "copy destination is empty"
  | .escapes d => "copy destination '" ++ d ++ "' escapes the output directory"

def ArgumentError.failure (e : ArgumentError) : Failure := ⟨e.message, []⟩

def textArg (args : List Arg) (i : Nat) (what : String) : Except ArgumentError String :=
  match args[i]?.bind Arg.text? with
  | some s => .ok s
  | none => .error (.missingText what i)

def argvArg (args : List Arg) : Except ArgumentError (List String) :=
  match args[1]?.bind Arg.list? with
  | some argv => .ok argv
  | none => .error .missingArgv

def staysInside : Component → Bool
  | .name _ | .here => true
  | .root | .up => false

def destination (out : Path) (dest : String) : Except ArgumentError Path :=
  let p : Path := ⟨dest⟩
  if !p.components.all staysInside then .error (.escapes dest)
  else if dest.isEmpty then .error .emptyDestination
  else .ok (out.join p)

variable {σ : Type}

open FileSystem

def copyArgs (settings : Settings) (args : List Arg) : Except ArgumentError (Path × Path) := do
  let source ← textArg args 0 "source path"
  let dest ← destination settings.outputDir (← textArg args 1 "destination")
  return (⟨source⟩, dest)

def copy [FileSystem σ] : Handler σ := fun settings args w =>
  match copyArgs settings args with
  | .error e => .finish w (.error e.failure)
  | .ok (source, dest) =>
    if isFile w.files source then
      let (files, done) := FileSystem.copy w.files source dest
      .finish { w with files := files } (done.map fun _ => ())
    else .finish w (.ok ())

def commandArgs (args : List Arg) : Except ArgumentError (String × List String) := do
  let description ← textArg args 0 "description"
  return (description, ← argvArg args)

def command [Host σ] : Handler σ := fun settings args w =>
  match commandArgs args with
  | .error e => .finish w (.error e.failure)
  | .ok (description, argv) =>
    match w.processes.spawn w.files description argv settings.root with
    | .ok (t, _) => .finish { w with processes := t } (.ok ())
    | .error e => .finish w (.error e.failure)

def reload : Handler σ := fun _ args w =>
  match textArg args 0 "output path" with
  | .error e => .finish w (.error e.failure)
  | .ok name => .finish { w with hub := (w.hub.notify name).1 } (.ok ())

def manifest [FileSystem σ] : Handler σ := fun settings _ w =>
  let (files, done) := Manifest.regenerate w.files settings.outputDir settings.manifest
  .finish { w with files := files } (done.map fun _ => ())

end BundleWatch.Task

namespace BundleWatch

namespace HandlerRegistry

def registerBuiltins {σ : Type} [Host σ] (r : HandlerRegistry σ) : HandlerRegistry σ :=
  (((r.register Task.copyName Task.copy).register Task.commandName Task.command).register
    Task.reloadName Task.reload).register Task.manifestName Task.manifest

end HandlerRegistry

end BundleWatch
