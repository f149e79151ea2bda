import BundleWatch.Proofs.Engine.Clients

/-!
# Turns of the engine

What the engine does for one event, in parts. It takes the event up; a flush then runs its tasks one by one,
and others may come to the hub before each of them. A turn in which nobody does is what the engine makes of the
event.
-/

set_option autoImplicit false

namespace BundleWatch

open Hub

variable {σ : Type}

/-- What is left of a turn: the tasks of a flush that did not run yet, and whether the loop goes on after it. -/
structure Turn where
  tasks : List Task
  keepRunning : Bool
deriving DecidableEq

def Event.acts (hub : Hub) : Event → List Act
  | .clientConnected hearsReply => Engine.connection hub hearsReply
  | .clientDisconnected client => [.detach client]
  | _ => []

namespace Engine

def runTasks (e : Engine σ) (ts : List Task) : Result σ Unit :=
  let (q, w, done) := runBatch e.settings e.handlers ts e.queue e.world
  ({ e with queue := q, world := w }, done)

def runTurn (e : Engine σ) (turn : Turn) : Result σ Turn :=
  ((e.runTasks turn.tasks).1, (e.runTasks turn.tasks).2.map fun _ => ⟨[], turn.keepRunning⟩)

theorem run_tasks_cons (e : Engine σ) (t : Task) (ts : List Task) :
    e.runTasks (t :: ts) =
      match e.runTasks [t] with
      | (e, .error err) => (e, .error err)
      | (e, .ok ()) => e.runTasks ts := by
  unfold runTasks
  rcases hrun : (workOf e.settings e.handlers t e.world).run e.queue with ⟨q, w, f | ⟨⟩⟩
  · rw [(batch_gives_up hrun ts).1, (batch_gives_up hrun []).1]
  · rw [(batch_goes_on hrun ts).1, (batch_goes_on hrun []).1]
    rfl

theorem run_tasks_hub {e : Engine σ} (hh : e.handlers.Notify) (ts : List Task) :
    ∃ messages : List String,
      (e.runTasks ts).1.world.hub = e.world.hub.performAll (messages.map .notify) := by
  refine run_batch_keeps (R := .notifying σ) (fun _ _ => ⟨[], rfl⟩) ?_ hh e.settings ts e.queue e.world
  rintro settings u v w ⟨first, hu⟩ ⟨rest, hv⟩
  exact ⟨first ++ rest, by rw [hv, hu, List.map_append, perform_all_append]⟩

variable [FileSystem σ]

def takeUp (e : Engine σ) : Event → Result σ Turn
  | .flush =>
    let (q, batch) := e.queue.takeBatch
    ({ e with queue := q }, .ok ⟨batch, true⟩)
  | ev =>
    let (e, done) := e.handle ev
    (e, done.map fun keepRunning => ⟨[], keepRunning⟩)

theorem take_up_eq_handle (e : Engine σ) {ev : Event} (hev : ev ≠ .flush) :
    e.takeUp ev = ((e.handle ev).1, (e.handle ev).2.map fun keepRunning => ⟨[], keepRunning⟩) := by
  cases ev with
  | flush => exact absurd rfl hev
  | _ => rfl

theorem take_up_hub (e : Engine σ) (ev : Event) :
    (e.takeUp ev).1.world.hub = e.world.hub.performAll (ev.acts e.world.hub) := by
  by_cases hev : ev = .flush
  · subst hev
    rfl
  · have hacts : e.HubActs (.step ev) (ev.acts e.world.hub) := by
      cases ev with
      | flush => exact absurd rfl hev
      | _ => rfl
    rw [e.take_up_eq_handle hev, ← perform_hub hacts]
    exact (e.step_hub ev).symm

theorem take_up_handlers (e : Engine σ) (ev : Event) : (e.takeUp ev).1.handlers = e.handlers := by
  by_cases hev : ev = .flush
  · subst hev
    rfl
  · rw [e.take_up_eq_handle hev]
    exact congrArg Setup.handlers (e.handle_setup ev)

theorem handle_eq_turn (e : Engine σ) (ev : Event) :
    e.handle ev =
      match e.takeUp ev with
      | (e, .error err) => (e, .error err)
      | (e, .ok turn) => ((e.runTurn turn).1, (e.runTurn turn).2.map fun turn => turn.keepRunning) := by
  by_cases hev : ev = .flush
  · subst hev
    simp only [handle, handleTrace, flushTrace, Traced.bind_value, Traced.pure_value, batch_trace_value, takeUp,
      runTurn, runTasks]
    generalize runBatch e.settings e.handlers e.queue.takeBatch.2 e.queue.takeBatch.1 e.world = ran
    obtain ⟨q, w, err | ⟨⟩⟩ := ran <;> rfl
  · rw [e.take_up_eq_handle hev]
    rcases e.handle ev with ⟨e', err | keepRunning⟩ <;> rfl

end Engine

end BundleWatch
