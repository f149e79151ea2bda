import BundleWatch.Proofs.Engine.Frame
import BundleWatch.Proofs.Process.Spawning

/-!
# What the engine leaves alone

No operation changes what an engine was made with. Tools start in a flush, they are forgotten when they
report their end, and killed by a shutdown; everything else leaves the tracker as it is.
-/

set_option autoImplicit false

namespace BundleWatch

variable {σ : Type}

def Event.Reports (ev : Event) (id : Nat) : Prop :=
  ∃ description status, ev = .commandExited id description status

namespace Engine

structure Setup (σ : Type) where
  settings : Settings
  rules : RuleTable
  handlers : HandlerRegistry σ
  backend : WatchBackend Journal
  exitWhenIdle : Bool

def setup (e : Engine σ) : Setup σ where
  settings := e.settings
  rules := e.rules
  handlers := e.handlers
  backend := e.backend
  exitWhenIdle := e.exitWhenIdle

/-- The engine is what it was made to be, and it has the same tools as before. -/
structure Quiet (e e' : Engine σ) : Prop where
  setup : e'.setup = e.setup
  processes : e'.world.processes = e.world.processes

theorem Quiet.refl (e : Engine σ) : e.Quiet e := ⟨rfl, rfl⟩

theorem Quiet.trans {e e' e'' : Engine σ} (h : e.Quiet e') (hn : e'.Quiet e'') : e.Quiet e'' :=
  ⟨hn.setup.trans h.setup, hn.processes.trans h.processes⟩

section

variable [FileSystem σ]

theorem submit_quiet (e : Engine σ) (p : Path) : e.Quiet (e.submit p).1 := by
  obtain ⟨q, j, heq⟩ := e.submit_frame p
  rw [heq]
  exact ⟨rfl, rfl⟩

theorem watch_dir_quiet (e : Engine σ) (dir : Path) (filter : Option Pattern) :
    e.Quiet (e.watchDir dir filter).1 := by
  obtain ⟨ws, j, heq⟩ := e.watch_dir_frame dir filter
  rw [heq]
  exact ⟨rfl, rfl⟩

theorem scan_quiet (e : Engine σ) (dir : Path) (filter : Option Pattern) :
    e.Quiet (e.scan dir filter).1 := by
  obtain ⟨q, ws, j, heq⟩ := e.scan_frame dir filter
  rw [heq]
  exact ⟨rfl, rfl⟩

theorem change_quiet (e : Engine σ) (watch : WatchId) (p : Path) :
    e.Quiet (e.handleChange watch p).1 := by
  obtain ⟨q, j, heq⟩ := e.change_frame watch p
  rw [heq]
  exact ⟨rfl, rfl⟩

theorem preparation_quiet (e : Engine σ) {op : Operation σ} (hop : op.IsPreparation) :
    e.Quiet (e.perform op) := by
  cases op with
  | enqueue handler args => exact ⟨rfl, rfl⟩
  | submit p => exact e.submit_quiet p
  | scan dir filter => exact e.scan_quiet dir filter
  | watchDir dir filter => exact e.watch_dir_quiet dir filter
  | outside files hub => exact ⟨rfl, rfl⟩
  | flush => exact hop.elim
  | step ev => exact hop.elim
  | nextStep keepRunning => exact hop.elim

theorem preparations_quiet (ops : List (Operation σ)) (e : Engine σ)
    (hops : ∀ op ∈ ops, op.IsPreparation) : e.Quiet (e.performAll ops) := by
  induction ops generalizing e with
  | nil => exact .refl e
  | cons op ops ih =>
    have hfirst := e.preparation_quiet (hops op (by simp))
    exact hfirst.trans (ih (e.perform op) fun o ho => hops o (by simp [ho]))

theorem Prepared.no_tools {e : Engine σ} (h : e.Prepared) : e.world.processes = .empty := by
  obtain ⟨new, ops, ⟨-, hnone⟩, hops, rfl⟩ := h
  rw [(preparations_quiet ops new hops).processes, hnone]

/-! ## Events -/

theorem handle_setup (e : Engine σ) (ev : Event) : (e.handle ev).1.setup = e.setup := by
  cases ev with
  | pathChanged watch p => exact (e.change_quiet watch p).setup
  | flush => rfl
  | commandExited id description status => cases status <;> rfl
  | clientConnected hearsReply => rfl
  | clientDisconnected client => rfl
  | shutdown => rfl

theorem perform_setup (e : Engine σ) (op : Operation σ) : (e.perform op).setup = e.setup := by
  cases op with
  | enqueue handler args => rfl
  | submit p => exact (e.submit_quiet p).setup
  | scan dir filter => exact (e.scan_quiet dir filter).setup
  | watchDir dir filter => exact (e.watch_dir_quiet dir filter).setup
  | outside files hub => rfl
  | flush => rfl
  | step ev =>
    obtain ⟨q, heq⟩ := e.step_frame ev
    exact (congrArg setup heq).trans (e.handle_setup ev)
  | nextStep keepRunning =>
    change (e.nextStep keepRunning).1.setup = _
    rw [next_step_frame]
    rfl

theorem perform_all_setup (ops : List (Operation σ)) (e : Engine σ) :
    (e.performAll ops).setup = e.setup := by
  induction ops generalizing e with
  | nil => rfl
  | cons op ops ih => exact (ih (e.perform op)).trans (e.perform_setup op)

theorem handle_exit_tracker (e : Engine σ) (id : Nat) (description : String)
    (status : CommandStatus) :
    (e.handle (.commandExited id description status)).1.world.processes =
      (e.world.processes.finish id).1 := by
  cases status <;> rfl

theorem handle_keeps_running (e : Engine σ) {ev : Event} (hev : ev ≠ .shutdown)
    {keepRunning : Bool} (h : (e.handle ev).2 = .ok keepRunning) : keepRunning = true := by
  have hmap : ∀ {α : Type} (done : Except BuildError α),
      done.map (fun _ => true) = .ok keepRunning → keepRunning = true := by
    rintro α (err | a) hdone
    · cases hdone
    · exact (Except.ok.inj hdone).symm
  cases ev with
  | pathChanged watch p => exact hmap _ h
  | flush => exact hmap _ h
  | commandExited id description status => exact hmap _ h
  | clientConnected hearsReply => exact (Except.ok.inj h).symm
  | clientDisconnected client => exact (Except.ok.inj h).symm
  | shutdown => exact absurd rfl hev

end

theorem handle_spawned [Host σ] {e : Engine σ} (hh : e.handlers.OnlySpawns) {ev : Event}
    (hreports : ∀ id, ¬ ev.Reports id) (hshutdown : ev ≠ .shutdown) :
    Tracker.Spawned σ e.world.processes (e.handle ev).1.world.processes := by
  cases ev with
  | pathChanged watch p =>
    change Tracker.Spawned σ _ (e.handleChange watch p).1.world.processes
    rw [(e.change_quiet watch p).processes]
    exact .none
  | flush => exact run_batch_spawned hh e.settings e.queue.pending e.queue.takeBatch.1 e.world
  | commandExited id description status => exact absurd ⟨description, status, rfl⟩ (hreports id)
  | clientConnected hearsReply => exact .none
  | clientDisconnected client => exact .none
  | shutdown => exact absurd rfl hshutdown

end Engine

end BundleWatch
