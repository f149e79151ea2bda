import BundleWatch.Engine.State

/-!
# Events

The engine handles one event at a time and says what should happen next: a flush should be
scheduled, or the loop should end.
-/

set_option autoImplicit false

namespace BundleWatch

inductive Event
  | pathChanged (watch : WatchId) (p : Path)
  | flush
  | commandExited (id : Nat) (description : String) (status : CommandStatus)
  /-- A client asks to be attached; it may be gone before it hears its number. -/
  | clientConnected (hearsReply : Bool)
  | clientDisconnected (client : Nat)
  | shutdown
deriving DecidableEq

inductive Command
  | scheduleFlush
  | requestExit
deriving DecidableEq

def Command.describe : Command → String
  | .scheduleFlush => "ScheduleFlush"
  | .requestExit => "RequestExit"

structure Step where
  commands : List Command
  keepRunning : Bool
deriving DecidableEq

namespace Engine

variable {σ : Type}

open FileSystem

def nextStepTrace (e : Engine σ) (keepRunning : Bool) : Traced (Engine σ × Step) := do
  let (q, wanted) := e.queue.takeScheduleRequest
  Traced.mark .asked
  let e := { e with queue := q }
  let commands := if wanted then [Command.scheduleFlush] else []
  if keepRunning && e.exitWhenIdle && e.isIdle then pure (e, ⟨commands ++ [.requestExit], false⟩)
  else pure (e, ⟨commands, keepRunning⟩)

def nextStep (e : Engine σ) (keepRunning : Bool) : Engine σ × Step := (e.nextStepTrace keepRunning).value

@[simp] theorem next_step_trace_value (e : Engine σ) (keepRunning : Bool) :
    (e.nextStepTrace keepRunning).value = e.nextStep keepRunning := rfl

def changeTrace [FileSystem σ] (e : Engine σ) (watch : WatchId) (p : Path) : Traced (Result σ Unit) :=
  let s := e.world.files
  if !e.watches.accepts (FileSystem.place s) watch p then pure (e, .ok ())
  else if !isFile s p || isLink s p then pure (e, .ok ())
  else do
    let (e, done) ← e.submitTrace p
    pure (e, done.map fun _ => ())

def handleChange [FileSystem σ] (e : Engine σ) (watch : WatchId) (p : Path) : Result σ Unit :=
  (e.changeTrace watch p).value

@[simp] theorem change_trace_value [FileSystem σ] (e : Engine σ) (watch : WatchId) (p : Path) :
    (e.changeTrace watch p).value = e.handleChange watch p := rfl

def handleExit (e : Engine σ) (id : Nat) (description : String) (status : CommandStatus) :
    Result σ Unit :=
  let e := e.updateProcesses fun t => (t.finish id).1
  match status with
  | .success | .interrupted => (e, .ok ())
  | .failed code => (e, .error (.commandFailed description code))

def handleConnect (e : Engine σ) (hearsReply : Bool) : Engine σ :=
  e.updateHub fun h =>
    let (h, client) := h.attach
    if hearsReply then h else (h.hangUp client |>.detach client).1

def handleTrace [FileSystem σ] (e : Engine σ) : Event → Traced (Result σ Bool)
  | .pathChanged w p => do
    let (e, done) ← e.changeTrace w p
    pure (e, done.map fun _ => true)
  | .flush => do
    let (e, done) ← e.flushTrace
    pure (e, done.map fun _ => true)
  | .commandExited id description status =>
    let (e, done) := e.handleExit id description status
    pure (e, done.map fun _ => true)
  | .clientConnected hearsReply => pure (e.handleConnect hearsReply, .ok true)
  | .clientDisconnected client => pure (e.updateHub fun h => (h.detach client).1, .ok true)
  | .shutdown => pure (e.updateProcesses Tracker.killAll, .ok false)

def handle [FileSystem σ] (e : Engine σ) (ev : Event) : Result σ Bool := (e.handleTrace ev).value

@[simp] theorem handle_trace_value [FileSystem σ] (e : Engine σ) (ev : Event) :
    (e.handleTrace ev).value = e.handle ev := rfl

def stepTrace [FileSystem σ] (e : Engine σ) (ev : Event) : Traced (Result σ Step) := do
  match ← e.handleTrace ev with
  | (e, .error err) => pure (e, .error err)
  | (e, .ok keepRunning) =>
    let (e, s) ← e.nextStepTrace keepRunning
    pure (e, .ok s)

def step [FileSystem σ] (e : Engine σ) (ev : Event) : Result σ Step := (e.stepTrace ev).value

end Engine

end BundleWatch
