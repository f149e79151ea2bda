import BundleWatch.Proofs.Task.Effect

/-!
# Spawning

The tracker gives every tool that starts the next number. Handlers that only start tools leave running
all that ran before a batch, and what they add runs under the numbers that the batch used up. The built-in
handlers are of this kind.
-/

set_option autoImplicit false

namespace BundleWatch

variable {σ : Type}

namespace Tracker

def Runs (t : Tracker) (id : Nat) : Prop := ∃ job ∈ t.running, job.id = id

inductive Spawned (σ : Type) [Host σ] (t : Tracker) : Tracker → Prop
  | none : Spawned σ t t
  | more {u v : Tracker} {s : σ} {description : String} {argv : List String} {dir : Path}
      {id : Nat} : Spawned σ t u → u.spawn s description argv dir = .ok (v, id) → Spawned σ t v

theorem runs_finish (t : Tracker) (n id : Nat) : (t.finish n).1.Runs id ↔ t.Runs id ∧ id ≠ n := by
  unfold Runs finish
  simp only [List.mem_filter, ne_eq, decide_not, Bool.not_eq_eq_eq_not, Bool.not_true,
    decide_eq_false_iff_not]
  constructor
  · rintro ⟨job, ⟨hin, hne⟩, rfl⟩
    exact ⟨⟨job, hin, rfl⟩, hne⟩
  · rintro ⟨⟨job, hin, rfl⟩, hne⟩
    exact ⟨job, ⟨hin, hne⟩, rfl⟩

variable [Host σ]

theorem spawn_next {t u : Tracker} {s : σ} {description : String} {argv : List String} {dir : Path}
    {id : Nat} (h : t.spawn s description argv dir = .ok (u, id)) :
    u = ⟨t.running ++ [⟨t.nextId, description, argv, dir⟩], t.nextId + 1⟩ := by
  unfold spawn at h
  split at h
  · simp at h
  · split at h
    · simp at h
    · exact (Prod.mk.inj (Except.ok.inj h)).1.symm

theorem Spawned.trans {t u v : Tracker} (h : Spawned σ t u) (hn : Spawned σ u v) :
    Spawned σ t v := by
  induction hn with
  | none => exact h
  | more _ hspawn ih => exact ih.more hspawn

theorem Spawned.next_id_le {t u : Tracker} (h : Spawned σ t u) : t.nextId ≤ u.nextId := by
  induction h with
  | none => exact Nat.le_refl _
  | more _ hspawn ih =>
    rw [spawn_next hspawn]
    exact Nat.le_succ_of_le ih

theorem Spawned.runs_iff {t u : Tracker} (h : Spawned σ t u) (id : Nat) :
    u.Runs id ↔ t.Runs id ∨ (t.nextId ≤ id ∧ id < u.nextId) := by
  induction h with
  | none =>
    constructor
    · exact .inl
    · rintro (hruns | hused)
      · exact hruns
      · omega
  | @more u v _ _ _ _ _ hspawned hspawn ih =>
    have hle := hspawned.next_id_le
    have hlast : v.Runs id ↔ u.Runs id ∨ u.nextId = id := by
      rw [spawn_next hspawn]
      simp [Runs, or_and_right, exists_or]
    have hnext : v.nextId = u.nextId + 1 := by rw [spawn_next hspawn]
    have hused : (t.nextId ≤ id ∧ id < u.nextId) ∨ u.nextId = id ↔
        t.nextId ≤ id ∧ id < v.nextId := by omega
    rw [hlast, ih, or_assoc, hused]

end Tracker

/-! ## Handlers -/

variable [Host σ]

/-- A handler uses the tracker only to start tools. It forgets none and kills none. -/
def Handler.OnlySpawns (h : Handler σ) : Prop :=
  ∀ settings args w,
    (h settings args w).EndsIn fun w' => Tracker.Spawned σ w.processes w'.processes

def Effect.spawning (σ : Type) [Host σ] : Effect σ :=
  fun _ w w' => Tracker.Spawned σ w.processes w'.processes

namespace HandlerRegistry

def OnlySpawns (r : HandlerRegistry σ) : Prop := ∀ entry ∈ r.handlers, Handler.OnlySpawns entry.2

theorem OnlySpawns.register_builtins {r : HandlerRegistry σ} (hr : r.OnlySpawns) :
    r.registerBuiltins.OnlySpawns := by
  have hcopy : Handler.OnlySpawns (Task.copy : Handler σ) := by
    intro settings args w
    obtain ⟨files, done, heq⟩ := Task.copy_frame settings args w
    rw [heq]
    exact .none
  have hcommand : Handler.OnlySpawns (Task.command : Handler σ) := by
    intro settings args w
    unfold Task.command
    split
    · exact .none
    · split
      · next hspawn => exact .more .none hspawn
      · exact .none
  have hreload : Handler.OnlySpawns (Task.reload : Handler σ) := by
    intro settings args w
    obtain ⟨hub, done, heq, -⟩ := Task.reload_frame settings args w
    rw [heq]
    exact .none
  have hmanifest : Handler.OnlySpawns (Task.manifest : Handler σ) := fun _ _ _ => .none
  have hkeep : r.Keep (Effect.spawning σ) := hr
  exact hkeep.register_builtins hcopy hcommand hreload hmanifest

end HandlerRegistry

theorem Engine.run_batch_spawned {handlers : HandlerRegistry σ} (hh : handlers.OnlySpawns)
    (settings : Settings) (ts : List Task) (q : TaskQueue) (w : World σ) :
    Tracker.Spawned σ w.processes (runBatch settings handlers ts q w).2.1.processes := by
  have hkeep : handlers.Keep (Effect.spawning σ) := hh
  exact run_batch_keeps (fun _ _ => .none) (fun _ _ _ _ h hn => h.trans hn) hkeep settings ts q w

end BundleWatch
