import BundleWatch.Proofs.Engine.Operation

/-!
# Frames

Submitting files, watching and scanning directories, and handling a change touch the queue, the watches and
the journal. Each is told by an equation for the engine afterwards, so that whatever the equation does not
name is as it was.
-/

set_option autoImplicit false

namespace BundleWatch.Engine

variable {σ : Type}

theorem next_step_frame (e : Engine σ) (keepRunning : Bool) :
    (e.nextStep keepRunning).1 = { e with queue := e.queue.takeScheduleRequest.1 } := by
  unfold nextStep nextStepTrace
  simp only [Traced.bind_value]
  split <;> rfl

variable [FileSystem σ]

theorem submit_all_frame (ps : List Path) (e : Engine σ) :
    ∃ q j, (e.submitAll ps).1 = { e with queue := q }.setJournal j := by
  induction ps generalizing e with
  | nil => exact ⟨e.queue, e.world.journal, rfl⟩
  | cons p ps ih =>
    obtain ⟨q, j, heq⟩ := e.submit_frame p
    rcases hs : e.submit p with ⟨e', err | n⟩ <;> rw [hs] at heq
    · rw [(submit_all_of_error hs ps).1]
      exact ⟨q, j, heq⟩
    · rw [(submit_all_of_ok hs ps).1]
      obtain rfl : e' = { e with queue := q }.setJournal j := heq
      obtain ⟨q', j', heq'⟩ := ih ({ e with queue := q }.setJournal j)
      exact ⟨q', j', heq'⟩

theorem watch_dir_frame (e : Engine σ) (dir : Path) (filter : Option Pattern) :
    ∃ ws j, (e.watchDir dir filter).1 = { e with watches := ws }.setJournal j := by
  unfold watchDir
  split
  · exact ⟨e.watches, e.world.journal, rfl⟩
  · exact ⟨_, _, rfl⟩

theorem scan_frame (e : Engine σ) (dir : Path) (filter : Option Pattern) :
    ∃ q ws j, (e.scan dir filter).1 = { e with queue := q, watches := ws }.setJournal j := by
  obtain ⟨ws, j, heq⟩ := e.watch_dir_frame dir filter
  rcases hdir : FileSystem.isDir e.world.files dir
  · rw [(scan_missing hdir).1]
    exact ⟨e.queue, e.watches, e.world.journal, rfl⟩
  rcases hwatch : e.watchDir dir filter with ⟨e', err | id⟩ <;> rw [hwatch] at heq
  · rw [(scan_refused hdir hwatch).1]
    exact ⟨e.queue, ws, j, heq⟩
  obtain rfl : e' = { e with watches := ws }.setJournal j := heq
  rcases hwalk : walkFiles ({ e with watches := ws }.setJournal j).world.files dir filter with f | files
  · rw [(scan_unread hdir hwatch hwalk).1]
    exact ⟨e.queue, ws, j, rfl⟩
  · obtain ⟨q, j', heq'⟩ := submit_all_frame files ({ e with watches := ws }.setJournal j)
    rw [(scan_eq hdir hwatch hwalk).1]
    exact ⟨q, ws, j', heq'⟩

theorem change_frame (e : Engine σ) (watch : WatchId) (p : Path) :
    ∃ q j, (e.handleChange watch p).1 = { e with queue := q }.setJournal j := by
  rcases h : e.heeds watch p
  · rw [(change_unheeded h).1]
    exact ⟨e.queue, e.world.journal, rfl⟩
  · rw [(change_heeded h).1]
    exact e.submit_frame p

theorem step_frame (e : Engine σ) (ev : Event) :
    ∃ q, (e.step ev).1 = { (e.handle ev).1 with queue := q } := by
  rcases hh : e.handle ev with ⟨e', err | keepRunning⟩
  · rw [step_of_error hh]
    exact ⟨e'.queue, rfl⟩
  · rw [step_of_ok hh]
    exact ⟨_, e'.next_step_frame keepRunning⟩

theorem step_world (e : Engine σ) (ev : Event) : (e.step ev).1.world = (e.handle ev).1.world := by
  obtain ⟨q, heq⟩ := e.step_frame ev
  rw [heq]

end BundleWatch.Engine
