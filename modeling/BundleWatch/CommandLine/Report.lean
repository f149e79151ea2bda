import BundleWatch.CommandLine.Args
import BundleWatch.Session.Basic

/-!
# What a run reports

A run of the program prints, ends with a code, and leaves a disk behind. Arguments, the project file and a
dry run can end it before a build begins.
-/

set_option autoImplicit false

namespace BundleWatch

structure Report where
  exitCode : Nat
  output : String := ""
  complaint : Option String := none
  disk : Disk

namespace Report

def failureCode : Nat := 1

def ofUsage (e : UsageError) (d : Disk) : Report where
  exitCode := e.exitCode
  output := e.output
  complaint := if e.message.isEmpty then none else some e.message
  disk := d

def ofError (e : BuildError) (d : Disk) : Report where
  exitCode := failureCode
  complaint := some ("rulewatch error: " ++ e.headline)
  disk := d

def ofSession (s : Session) : Report :=
  match s.outcome with
  | .ok () => { exitCode := 0, disk := s.disk }
  | .error e => ofError e s.disk

end Report

inductive Opening
  | report (r : Report)
  | session (s : Session)

namespace Opening

def ofInvocation (i : Invocation) (d : Disk) : Opening :=
  let opened : Except BuildError Project := do
    let file : Path := ⟨i.config⟩
    Project.ofConfig d file (← Project.readConfig d file)
  match opened with
  | .error e => .report (.ofError e d)
  | .ok p =>
    if i.dryRun then .report { exitCode := 0, output := p.describe, disk := d }
    else
      match Session.launch p (!i.once) i.verbose d with
      | (d, .error e) => .report (.ofError e d)
      | (_, .ok s) => .session s

def ofArgs (args : List String) (d : Disk) : Opening :=
  match Invocation.parse args with
  | .error e => .report (.ofUsage e d)
  | .ok i => ofInvocation i d

def toReport : Opening → Report
  | .report r => r
  | .session s => .ofSession s.runToEnd

end Opening

end BundleWatch
