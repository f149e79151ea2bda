import BundleWatch.Error
import BundleWatch.Process.Status
import BundleWatch.Rule.Table
import BundleWatch.Task.Handler
import BundleWatch.Watch.Registry
import BundleWatch.Watch.Walk

/-!
# The engine

All state of a build, and what can be done to it: submit a file to the rules, scan a directory,
queue a task, and flush the queue. A flush runs the tasks that are pending when it begins; the first
that fails ends it, and those behind it are given up.
-/

set_option autoImplicit false

namespace BundleWatch

structure Engine (σ : Type) where
  settings : Settings
  rules : RuleTable := []
  handlers : HandlerRegistry σ := {}
  queue : TaskQueue := {}
  world : World σ
  watches : WatchRegistry := {}
  backend : WatchBackend Journal := fun _ _ j => (j, .ok ())
  exitWhenIdle : Bool := false

namespace Engine

variable {σ : Type}

open FileSystem

abbrev Result (σ α : Type) := Engine σ × Except BuildError α

def isIdle (e : Engine σ) : Bool :=
  e.queue.isEmpty && !e.queue.armed && e.world.processes.isIdle

def setJournal (e : Engine σ) (j : Journal) : Engine σ :=
  { e with world := { e.world with journal := j } }

def updateHub (e : Engine σ) (f : Hub → Hub) : Engine σ :=
  { e with world := { e.world with hub := f e.world.hub } }

def updateProcesses (e : Engine σ) (f : Tracker → Tracker) : Engine σ :=
  { e with world := { e.world with processes := f e.world.processes } }

def enqueueTrace (e : Engine σ) (handler : String) (args : List Arg) : Traced (Engine σ × Bool) := do
  let (q, isNew) := e.queue.enqueue handler args
  Traced.mark (.offered (.new handler args) isNew)
  pure ({ e with queue := q }, isNew)

def enqueue (e : Engine σ) (handler : String) (args : List Arg) : Engine σ × Bool :=
  (e.enqueueTrace handler args).value

/-! ## Rules -/

def ruleName (p : Pattern) (rel : String) : String := "rule " ++ p.describe ++ " for " ++ rel

def submitTrace [FileSystem σ] (e : Engine σ) (p : Path) : Traced (Result σ Nat) :=
  match relative? e.world.files e.settings.root p with
  | none => pure (e, .ok 0)
  | some rel => do
    let place := FileSystem.place e.world.files
    let (q, j, fired) ←
      RuleTable.fireTrace e.settings place p rel (e.rules.hits rel) e.queue e.world.journal
    let e := { e with queue := q }.setJournal j
    match fired with
    | .ok n => pure (e, .ok n)
    | .error (rule, f) => pure (e, .error (.taskFailed (ruleName rule rel) f.message))

def submit [FileSystem σ] (e : Engine σ) (p : Path) : Result σ Nat := (e.submitTrace p).value

@[simp] theorem submit_trace_value [FileSystem σ] (e : Engine σ) (p : Path) :
    (e.submitTrace p).value = e.submit p := rfl

def submitAllTrace [FileSystem σ] (e : Engine σ) : List Path → Traced (Result σ Unit)
  | [] => pure (e, .ok ())
  | p :: ps => do
    match ← e.submitTrace p with
    | (e, .ok _) => e.submitAllTrace ps
    | (e, .error err) => pure (e, .error err)

def submitAll [FileSystem σ] (e : Engine σ) (ps : List Path) : Result σ Unit :=
  (e.submitAllTrace ps).value

@[simp] theorem submit_all_trace_value [FileSystem σ] (e : Engine σ) (ps : List Path) :
    (e.submitAllTrace ps).value = e.submitAll ps := rfl

def watchDir [FileSystem σ] (e : Engine σ) (dir : Path) (filter : Option Pattern) :
    Result σ (Option WatchId) :=
  if !isDir e.world.files dir then (e, .ok none)
  else
    let (watches, j, id) := e.watches.register e.backend dir filter e.world.journal
    ({ e with watches := watches }.setJournal j, id.mapError .other)

def scanTrace [FileSystem σ] (e : Engine σ) (dir : Path) (filter : Option Pattern) :
    Traced (Result σ Nat) :=
  if !isDir e.world.files dir then pure (e, .ok 0)
  else
    match e.watchDir dir filter with
    | (e, .error err) => pure (e, .error err)
    | (e, .ok _) =>
      match walkFiles e.world.files dir filter with
      | .error f => pure (e, .error (.other f))
      | .ok files => do
        let (e, done) ← e.submitAllTrace files
        pure (e, done.map fun _ => files.length)

def scan [FileSystem σ] (e : Engine σ) (dir : Path) (filter : Option Pattern) : Result σ Nat :=
  (e.scanTrace dir filter).value

/-! ## Batches -/

def taskFailure (t : Task) (f : Failure) : BuildError := .taskFailed t.describe f.message

def noHandler (t : Task) : Failure := ⟨"no handler registered as '" ++ t.handler ++ "'", []⟩

def batchTrace (settings : Settings) (handlers : HandlerRegistry σ) :
    List Task → TaskQueue → World σ → Traced (TaskQueue × World σ × Except BuildError Unit)
  | [], q, w => pure (q, w, .ok ())
  | t :: ts, q, w =>
    match handlers.get? t.handler with
    | none => do
      Traced.mark (.gaveUp (t :: ts))
      pure (q, w, .error (taskFailure t (noHandler t)))
    | some h => do
      match ← (h settings t.args w).trace q with
      | (q, w, .error f) =>
        Traced.mark (.gaveUp (t :: ts))
        pure (q, w, .error (taskFailure t f))
      | (q, w, .ok ()) =>
        Traced.mark (.ran t)
        batchTrace settings handlers ts q.markRun w

def runBatch (settings : Settings) (handlers : HandlerRegistry σ) (batch : List Task) (q : TaskQueue)
    (w : World σ) : TaskQueue × World σ × Except BuildError Unit :=
  (batchTrace settings handlers batch q w).value

@[simp] theorem batch_trace_value (settings : Settings) (handlers : HandlerRegistry σ) (batch : List Task)
    (q : TaskQueue) (w : World σ) :
    (batchTrace settings handlers batch q w).value = runBatch settings handlers batch q w := rfl

def flushTrace (e : Engine σ) : Traced (Result σ Nat) := do
  let (q, batch) := e.queue.takeBatch
  Traced.mark .began
  let (q, w, done) ← batchTrace e.settings e.handlers batch q e.world
  pure ({ e with queue := q, world := w }, done.map fun _ => batch.length)

def flush (e : Engine σ) : Result σ Nat := e.flushTrace.value

@[simp] theorem flush_trace_value (e : Engine σ) : e.flushTrace.value = e.flush := rfl

def describe (e : Engine σ) : String :=
  let s := e.queue.stats
  "Engine \x7b rules: " ++ toString e.rules.length ++ ", handlers: " ++ e.handlers.describe ++
    ", queue: QueueStats \x7b enqueued: " ++ toString s.enqueued ++ ", run: " ++ toString s.run ++
    ", pending: " ++ toString s.pending ++ " \x7d, reload_clients: " ++
    toString e.world.hub.count ++ ", processes: " ++ e.world.processes.describe ++
    ", watches: " ++ e.watches.describe ++
    ", options: RuntimeOptions \x7b exit_when_idle: " ++ toString e.exitWhenIdle ++ " \x7d \x7d"

end Engine

end BundleWatch
