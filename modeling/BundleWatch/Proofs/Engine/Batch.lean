import BundleWatch.Proofs.Engine.Operation

/-!
# Batches that fail

A flush calls the handlers of its batch in order, up to the first task that has no handler or whose handler
fails. It leaves behind what these calls leave, and the tasks that they queue wait for the next flush.
-/

set_option autoImplicit false

namespace BundleWatch.Engine

open Progress

variable {σ : Type} {settings : Settings} {handlers handlers' : HandlerRegistry σ} {t : Task} {rest : List Task}
  {q q' : TaskQueue} {w w' : World σ} {calls : List (Task × World σ)} {f : Failure} {e : Engine σ}

inductive Calls (settings : Settings) (handlers : HandlerRegistry σ) :
    List (Task × World σ) → TaskQueue → World σ → TaskQueue → World σ → Prop
  | nil (q : TaskQueue) (w : World σ) : Calls settings handlers [] q w q w
  | cons {t : Task} {calls : List (Task × World σ)} {q q' q'' : TaskQueue} {w w' w'' : World σ} :
      (workOf settings handlers t w).run q = (q', w', .ok ()) →
      Calls settings handlers calls q'.markRun w' q'' w'' → Calls settings handlers ((t, w) :: calls) q w q'' w''

def Stops (settings : Settings) (handlers : HandlerRegistry σ) (rest : List Task) (q : TaskQueue) (w : World σ) : Prop :=
  ∀ t ∈ rest.head?, ∃ q' w' f, (workOf settings handlers t w).run q = (q', w', .error f)

namespace Calls

theorem run_batch (h : Calls settings handlers calls q w q' w') (rest : List Task) :
    runBatch settings handlers (calls.map (·.1) ++ rest) q w = runBatch settings handlers rest q' w' := by
  induction h with
  | nil q w => rfl
  | cons hcall _ ih =>
    exact (batch_goes_on hcall _).1.trans ih

theorem marks (h : Calls settings handlers calls q w q' w') (rest : List Task) :
    Mark.executed (batchMarks settings handlers (calls.map (·.1) ++ rest) q w) =
        calls.map (·.1) ++ Mark.executed (batchMarks settings handlers rest q' w') ∧
      Mark.dropped (batchMarks settings handlers (calls.map (·.1) ++ rest) q w) =
        Mark.dropped (batchMarks settings handlers rest q' w') := by
  induction h with
  | nil q w => exact ⟨rfl, rfl⟩
  | @cons t calls q q' q'' w w' w'' hcall _ ih =>
    have honly : Mark.OnlyOffers ((workOf settings handlers t w).marks q) := Work.marks_only_offers _ q
    obtain ⟨hexecuted, hdropped⟩ := honly.ran_nothing
    rw [List.map_cons, List.cons_append, (batch_goes_on hcall _).2, Mark.executed_append, Mark.dropped_append,
      hexecuted, hdropped]
    exact ⟨congrArg (t :: ·) ih.1, ih.2⟩

theorem congr (h : Calls settings handlers calls q w q' w')
    (hsame : ∀ c ∈ calls, workOf settings handlers' c.1 c.2 = workOf settings handlers c.1 c.2) :
    Calls settings handlers' calls q w q' w' := by
  induction h with
  | nil q w => exact .nil q w
  | @cons t calls q q' q'' w w' w'' hcall _ ih =>
    refine .cons ?_ (ih fun c hc => hsame c (List.mem_cons_of_mem _ hc))
    rw [hsame (t, w) List.mem_cons_self]
    exact hcall

end Calls

theorem exists_calls (settings : Settings) (handlers : HandlerRegistry σ) (ts : List Task) (q : TaskQueue)
    (w : World σ) :
    ∃ calls rest q' w', ts = calls.map (·.1) ++ rest ∧ Calls settings handlers calls q w q' w' ∧
      Stops settings handlers rest q' w' := by
  induction ts generalizing q w with
  | nil => exact ⟨[], [], q, w, rfl, .nil q w, by simp [Stops]⟩
  | cons t ts ih =>
    rcases hcall : (workOf settings handlers t w).run q with ⟨q', w', f | ⟨⟩⟩
    · refine ⟨[], t :: ts, q, w, rfl, .nil q w, ?_⟩
      rintro u hu
      obtain rfl := Option.mem_some.mp hu
      exact ⟨q', w', f, hcall⟩
    · obtain ⟨calls, rest, q'', w'', rfl, hcalls, hstops⟩ := ih q'.markRun w'
      exact ⟨(t, w) :: calls, rest, q'', w'', rfl, .cons hcall hcalls, hstops⟩

theorem Stops.marks (h : Stops settings handlers rest q w) :
    Mark.executed (batchMarks settings handlers rest q w) = [] ∧
      Mark.dropped (batchMarks settings handlers rest q w) = rest := by
  cases rest with
  | nil => exact ⟨rfl, rfl⟩
  | cons t later =>
    obtain ⟨q', w', f, hfails⟩ := h t rfl
    have honly : Mark.OnlyOffers ((workOf settings handlers t w).marks q) := Work.marks_only_offers _ q
    obtain ⟨hexecuted, hdropped⟩ := honly.ran_nothing
    rw [(batch_gives_up hfails later).2, Mark.executed_append, Mark.dropped_append, hexecuted, hdropped]
    exact ⟨rfl, List.append_nil _⟩

theorem Stops.congr (h : Stops settings handlers rest q w)
    (hsame : ∀ t ∈ rest.head?, workOf settings handlers' t w = workOf settings handlers t w) :
    runBatch settings handlers' rest q w = runBatch settings handlers rest q w := by
  cases rest with
  | nil => rfl
  | cons t later =>
    obtain ⟨q', w', f, hfails⟩ := h t rfl
    rw [(batch_gives_up hfails later).1, (batch_gives_up ((hsame t rfl).symm ▸ hfails) later).1]

theorem flush_eq (h : Calls e.settings e.handlers calls e.queue.takeBatch.1 e.world q w)
    (hbatch : e.queue.pending = calls.map (·.1) ++ rest) :
    e.flush = ({ e with
      queue := (runBatch e.settings e.handlers rest q w).1
      world := (runBatch e.settings e.handlers rest q w).2.1 },
      (runBatch e.settings e.handlers rest q w).2.2.map fun _ => e.queue.pending.length) := by
  have hrun : runBatch e.settings e.handlers e.queue.pending e.queue.takeBatch.1 e.world =
      runBatch e.settings e.handlers rest q w := by
    rw [hbatch]
    exact h.run_batch rest
  rw [← hrun]
  rfl

/-! ## What a flush leaves behind -/

/-- A flush that calls the handlers of `calls` with success, from which `q` and `w` come, and then either has
nothing left to call or fails at the first task of `rest`. -/
structure Flushed [FileSystem σ] (e : Engine σ) (calls : List (Task × World σ)) (rest : List Task) (q : TaskQueue)
    (w : World σ) : Prop where
  batch : e.queue.pending = calls.map (·.1) ++ rest
  succeeded : Calls e.settings e.handlers calls e.queue.takeBatch.1 e.world q w
  complete : rest = [] → e.flush = ({ e with queue := q, world := w }, .ok e.queue.pending.length)
  failed : ∀ t later, rest = t :: later → ∃ q' w' f, (workOf e.settings e.handlers t w).run q = (q', w', .error f) ∧
    e.flush = ({ e with queue := q', world := w' }, .error (.taskFailed t.describe f.message))
  run : e.flush.1.queue.run = e.queue.run + calls.length
  executed : Mark.executed e.flushMarks = calls.map (·.1)
  dropped : Mark.dropped e.flushMarks = rest
  pending : e.flush.1.queue.pending = Mark.accepted e.flushMarks
  armed : e.flush.1.queue.armed = !e.flush.1.queue.pending.isEmpty
  scheduled : e.flush.1.queue.armed = true →
    ∀ keepRunning, .scheduleFlush ∈ (e.flush.1.nextStep keepRunning).2.commands
  again : ∀ t ∈ rest, ∀ ops, ((e.flush.1.performAll ops).enqueue t.handler t.args).2 = true ↔
    ∀ u ∈ (e.flush.1.performAll ops).queue.pending, u.id ≠ t.id
  /-- Nothing else is called: with any handlers that do the same in these calls the flush is the same. -/
  others : ∀ handlers', (∀ c ∈ calls, workOf e.settings handlers' c.1 c.2 = workOf e.settings e.handlers c.1 c.2) →
    (∀ t ∈ rest.head?, workOf e.settings handlers' t w = workOf e.settings e.handlers t w) →
    { e with handlers := handlers' }.flush = ({ e.flush.1 with handlers := handlers' }, e.flush.2)

theorem flush_rearmed (e : Engine σ) :
    e.flush.1.queue.pending = Mark.accepted e.flushMarks ∧ e.flush.1.queue.Coherent ∧ e.flush.1.queue.Woken 0 := by
  have hsteps := batch_steps e.settings e.handlers e.queue.takeBatch.2 e.queue.takeBatch.1 e.world
  obtain ⟨hbegan, hasked⟩ := batch_marks_inner e.settings e.handlers e.queue.takeBatch.2 e.queue.takeBatch.1 e.world
  have hcoherent : e.queue.takeBatch.1.Coherent := ⟨rfl, rfl⟩
  refine ⟨?_, hsteps.coherent hcoherent, hsteps.woken hasked hcoherent fun hpending => absurd rfl hpending⟩
  rw [flush_marks]
  exact (hsteps.pending_accepted hbegan).trans (List.nil_append _)

theorem enqueue_accepted (h : e.queue.Coherent) (t : Task) :
    (e.enqueue t.handler t.args).2 = true ↔ ∀ u ∈ e.queue.pending, u.id ≠ t.id := by
  have hid : (Task.new t.handler t.args).id = t.id := t.id_eq.symm
  change (e.queue.push (.new t.handler t.args)).2 = true ↔ _
  by_cases hin : t.id ∈ e.queue.pendingIds
  · rw [TaskQueue.push_old (hid ▸ hin)]
    rw [h.ids] at hin
    obtain ⟨u, hu, heq⟩ := List.mem_map.mp hin
    simpa using ⟨u, hu, heq⟩
  · rw [TaskQueue.push_new (hid ▸ hin)]
    rw [h.ids] at hin
    exact iff_of_true rfl fun u hu heq => hin (List.mem_map.mpr ⟨u, hu, heq⟩)

/-- A flush calls the handlers of the pending tasks in order, up to the first that fails. -/
theorem flush_stops_at_first_failure [FileSystem σ] (e : Engine σ) : ∃ calls rest q w, e.Flushed calls rest q w := by
  obtain ⟨calls, rest, q, w, hbatch, hcalls, hstops⟩ :=
    exists_calls e.settings e.handlers e.queue.pending e.queue.takeBatch.1 e.world
  obtain ⟨hpending, hcoherent, hwoken⟩ := e.flush_rearmed
  have hflush := flush_eq hcalls hbatch
  have hmarks : Mark.executed e.flushMarks = calls.map (·.1) ∧ Mark.dropped e.flushMarks = rest := by
    have hexecuted := (hcalls.marks rest).1
    have hdropped := (hcalls.marks rest).2
    rw [hstops.marks.1, List.append_nil, ← hbatch] at hexecuted
    rw [hstops.marks.2, ← hbatch] at hdropped
    rw [flush_marks]
    exact ⟨hexecuted, hdropped⟩
  refine ⟨calls, rest, q, w, ?_⟩
  constructor
  case batch => exact hbatch
  case succeeded => exact hcalls
  case complete =>
    rintro rfl
    exact hflush
  case failed =>
    rintro t later rfl
    obtain ⟨q', w', f, hfails⟩ := hstops t rfl
    refine ⟨q', w', f, hfails, ?_⟩
    rw [hflush, (batch_gives_up hfails later).1]
    rfl
  case run =>
    obtain ⟨-, hrun⟩ := e.flush_steps.counters
    rw [hrun, hmarks.1, List.length_map]
  case executed => exact hmarks.1
  case dropped => exact hmarks.2
  case pending => exact hpending
  case armed => exact hcoherent.armed
  case scheduled =>
    intro harmed keepRunning
    apply (e.flush.1.next_step_commands keepRunning).mpr
    rw [hcoherent.armed] at harmed
    have hasked := hwoken (by simpa using harmed)
    simpa [Nat.pos_iff_ne_zero] using hasked
  case again =>
    intro t _ ops
    exact enqueue_accepted ((perform_all_steps ops e.flush.1).coherent hcoherent) t
  case others =>
    intro handlers' hsame hhead
    have hcalls' := hcalls.congr hsame
    have hflush' : { e with handlers := handlers' }.flush = _ := flush_eq hcalls' hbatch
    rw [hflush', hflush]
    simp only [hstops.congr hhead]

end BundleWatch.Engine
