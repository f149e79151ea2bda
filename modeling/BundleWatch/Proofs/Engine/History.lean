import BundleWatch.Engine.Step
import BundleWatch.Proofs.Queue.History

/-!
# Histories of the engine

The marks that an operation of the engine records account for all that it does to the queue: they lead
from the queue before the operation to the queue after it.
-/

set_option autoImplicit false

namespace BundleWatch

open Progress

namespace Work

variable {ω : Type}

def marks (w : Work ω) (q : TaskQueue) : List Mark := (w.trace q).marks

@[simp] theorem trace_marks (w : Work ω) (q : TaskQueue) : (w.trace q).marks = w.marks q := rfl

theorem run_steps (w : Work ω) (q : TaskQueue) (b : List Task) :
    Steps ⟨q, b⟩ (w.marks q) ⟨(w.run q).1, b⟩ := by
  induction w generalizing q with
  | finish w o => exact .nil _
  | enqueue t resume ih => exact .cons (.offered q b t) (ih (q.push t).2 (q.push t).1)

theorem marks_only_offers (w : Work ω) (q : TaskQueue) : Mark.OnlyOffers (w.marks q) := by
  induction w generalizing q with
  | finish w o => exact .nil
  | enqueue t resume ih =>
    intro m hm
    rcases List.mem_cons.mp hm with rfl | hm
    · exact ⟨t, _, rfl⟩
    · exact ih _ _ m hm

end Work

namespace RuleTable

variable (settings : Settings) (place : Path → Option Path) (path : Path) (rel : String)

def fireMarks (rs : List (Rule × Option String)) (q : TaskQueue) (j : Journal) : List Mark :=
  (fireTrace settings place path rel rs q j).marks

@[simp] theorem fire_trace_marks (rs : List (Rule × Option String)) (q : TaskQueue) (j : Journal) :
    (fireTrace settings place path rel rs q j).marks = fireMarks settings place path rel rs q j := rfl

section

variable {settings place path rel} {r : Rule} {capture : Option String} {q q' : TaskQueue} {j j' : Journal}
  {f : Failure}

theorem fire_goes_on (h : (r.act settings ⟨path, rel, capture, place⟩ j).run q = (q', j', .ok ()))
    (rs : List (Rule × Option String)) :
    fire settings place path rel ((r, capture) :: rs) q j =
        ((fire settings place path rel rs q' j').1, (fire settings place path rel rs q' j').2.1,
          (fire settings place path rel rs q' j').2.2.map (· + 1)) ∧
      fireMarks settings place path rel ((r, capture) :: rs) q j =
        (r.act settings ⟨path, rel, capture, place⟩ j).marks q ++ fireMarks settings place path rel rs q' j' := by
  rw [fire, fireMarks, fireTrace]
  simp [h]

theorem fire_fails (h : (r.act settings ⟨path, rel, capture, place⟩ j).run q = (q', j', .error f))
    (rs : List (Rule × Option String)) :
    fire settings place path rel ((r, capture) :: rs) q j = (q', j', .error (r.pattern, f)) ∧
      fireMarks settings place path rel ((r, capture) :: rs) q j =
        (r.act settings ⟨path, rel, capture, place⟩ j).marks q := by
  rw [fire, fireMarks, fireTrace]
  simp [h]

end

theorem fire_steps (rs : List (Rule × Option String)) (q : TaskQueue) (j : Journal)
    (b : List Task) :
    Steps ⟨q, b⟩ (fireMarks settings place path rel rs q j)
      ⟨(fire settings place path rel rs q j).1, b⟩ := by
  induction rs generalizing q j with
  | nil => exact .nil _
  | cons hit rs ih =>
    obtain ⟨r, capture⟩ := hit
    have hw := (r.act settings ⟨path, rel, capture, place⟩ j).run_steps q b
    rcases hrun : (r.act settings ⟨path, rel, capture, place⟩ j).run q with ⟨q', j', f | ⟨⟩⟩ <;> rw [hrun] at hw
    · rw [(fire_fails hrun rs).1, (fire_fails hrun rs).2]
      exact hw
    · rw [(fire_goes_on hrun rs).1, (fire_goes_on hrun rs).2]
      exact hw.append (ih q' j')

theorem fire_marks_only_offers (rs : List (Rule × Option String)) (q : TaskQueue) (j : Journal) :
    Mark.OnlyOffers (fireMarks settings place path rel rs q j) := by
  induction rs generalizing q j with
  | nil => exact .nil
  | cons hit rs ih =>
    obtain ⟨r, capture⟩ := hit
    have hw := (r.act settings ⟨path, rel, capture, place⟩ j).marks_only_offers q
    rcases hrun : (r.act settings ⟨path, rel, capture, place⟩ j).run q with ⟨q', j', f | ⟨⟩⟩
    · rw [(fire_fails hrun rs).2]
      exact hw
    · rw [(fire_goes_on hrun rs).2]
      exact hw.append (ih q' j')

end RuleTable

namespace Engine

variable {σ : Type}

/-! ## Rules -/

section

variable [FileSystem σ]

def submitMarks (e : Engine σ) (p : Path) : List Mark := (e.submitTrace p).marks

@[simp] theorem submit_trace_marks (e : Engine σ) (p : Path) : (e.submitTrace p).marks = e.submitMarks p := rfl

def submitAllMarks (e : Engine σ) (ps : List Path) : List Mark := (e.submitAllTrace ps).marks

@[simp] theorem submit_all_trace_marks (e : Engine σ) (ps : List Path) :
    (e.submitAllTrace ps).marks = e.submitAllMarks ps := rfl

def scanMarks (e : Engine σ) (dir : Path) (filter : Option Pattern) : List Mark :=
  (e.scanTrace dir filter).marks

theorem submit_outside {e : Engine σ} {p : Path}
    (h : FileSystem.relative? e.world.files e.settings.root p = none) :
    e.submit p = (e, .ok 0) ∧ e.submitMarks p = [] := by
  rw [submit, submitMarks, submitTrace, h]
  exact ⟨rfl, rfl⟩

theorem submit_inside {e : Engine σ} {p : Path} {rel : String} {q : TaskQueue} {j : Journal}
    {fired : Except (Pattern × Failure) Nat} (h : FileSystem.relative? e.world.files e.settings.root p = some rel)
    (hfire : RuleTable.fire e.settings (FileSystem.place e.world.files) p rel (e.rules.hits rel) e.queue
      e.world.journal = (q, j, fired)) :
    e.submit p = ({ e with queue := q }.setJournal j,
        fired.mapError fun x => .taskFailed (ruleName x.1 rel) x.2.message) ∧
      e.submitMarks p = RuleTable.fireMarks e.settings (FileSystem.place e.world.files) p rel (e.rules.hits rel)
        e.queue e.world.journal := by
  rw [submit, submitMarks, submitTrace, h]
  simp only [Traced.bind_value, Traced.bind_marks, RuleTable.fire_trace_value, RuleTable.fire_trace_marks, hfire]
  rcases fired with ⟨rule, f⟩ | n <;> exact ⟨rfl, List.append_nil _⟩

/-- Submitting a file changes the queue and the journal, and nothing else. -/
theorem submit_frame (e : Engine σ) (p : Path) :
    ∃ q j, (e.submit p).1 = { e with queue := q }.setJournal j := by
  rcases h : FileSystem.relative? e.world.files e.settings.root p with _ | rel
  · rw [(submit_outside h).1]
    exact ⟨e.queue, e.world.journal, rfl⟩
  · rw [(submit_inside h rfl).1]
    exact ⟨_, _, rfl⟩

theorem submit_steps (e : Engine σ) (p : Path) (b : List Task) :
    Steps ⟨e.queue, b⟩ (e.submitMarks p) ⟨(e.submit p).1.queue, b⟩ := by
  rcases h : FileSystem.relative? e.world.files e.settings.root p with _ | rel
  · rw [(submit_outside h).1, (submit_outside h).2]
    exact .nil _
  · rw [(submit_inside h rfl).1, (submit_inside h rfl).2]
    exact RuleTable.fire_steps e.settings _ p rel (e.rules.hits rel) e.queue e.world.journal b

theorem submit_marks_only_offers (e : Engine σ) (p : Path) : Mark.OnlyOffers (e.submitMarks p) := by
  rcases h : FileSystem.relative? e.world.files e.settings.root p with _ | rel
  · rw [(submit_outside h).2]
    exact .nil
  · rw [(submit_inside h rfl).2]
    exact RuleTable.fire_marks_only_offers _ _ _ _ _ _ _

theorem submit_all_of_error {e e' : Engine σ} {p : Path} {err : BuildError} (h : e.submit p = (e', .error err))
    (ps : List Path) : e.submitAll (p :: ps) = (e', .error err) ∧ e.submitAllMarks (p :: ps) = e.submitMarks p := by
  rw [submitAll, submitAllMarks, submitAllTrace]
  simp [h]

theorem submit_all_of_ok {e e' : Engine σ} {p : Path} {n : Nat} (h : e.submit p = (e', .ok n)) (ps : List Path) :
    e.submitAll (p :: ps) = e'.submitAll ps ∧
      e.submitAllMarks (p :: ps) = e.submitMarks p ++ e'.submitAllMarks ps := by
  rw [submitAll, submitAllMarks, submitAllTrace]
  simp [h]

theorem submit_all_steps (ps : List Path) (e : Engine σ) (b : List Task) :
    Steps ⟨e.queue, b⟩ (e.submitAllMarks ps) ⟨(e.submitAll ps).1.queue, b⟩ := by
  induction ps generalizing e with
  | nil => exact .nil _
  | cons p ps ih =>
    have hs := e.submit_steps p b
    rcases h : e.submit p with ⟨e', err | n⟩ <;> rw [h] at hs
    · rw [(submit_all_of_error h ps).1, (submit_all_of_error h ps).2]
      exact hs
    · rw [(submit_all_of_ok h ps).1, (submit_all_of_ok h ps).2]
      exact hs.append (ih e')

theorem submit_all_marks_only_offers (ps : List Path) (e : Engine σ) :
    Mark.OnlyOffers (e.submitAllMarks ps) := by
  induction ps generalizing e with
  | nil => exact .nil
  | cons p ps ih =>
    have hs := e.submit_marks_only_offers p
    rcases h : e.submit p with ⟨e', err | n⟩
    · rw [(submit_all_of_error h ps).2]
      exact hs
    · rw [(submit_all_of_ok h ps).2]
      exact hs.append (ih e')

theorem watch_dir_queue (e : Engine σ) (dir : Path) (filter : Option Pattern) :
    (e.watchDir dir filter).1.queue = e.queue := by
  unfold watchDir
  split <;> rfl

section

variable {e e₁ : Engine σ} {dir : Path} {filter : Option Pattern} {id : Option WatchId} {err : BuildError}
  {f : Failure} {files : List Path}

theorem scan_missing (hdir : FileSystem.isDir e.world.files dir = false) :
    e.scan dir filter = (e, .ok 0) ∧ e.scanMarks dir filter = [] := by
  rw [scan, scanMarks, scanTrace, hdir]
  exact ⟨rfl, rfl⟩

theorem scan_refused (hdir : FileSystem.isDir e.world.files dir = true)
    (hwatch : e.watchDir dir filter = (e₁, .error err)) :
    e.scan dir filter = (e₁, .error err) ∧ e.scanMarks dir filter = [] := by
  rw [scan, scanMarks, scanTrace, hdir, hwatch]
  exact ⟨rfl, rfl⟩

theorem scan_unread (hdir : FileSystem.isDir e.world.files dir = true)
    (hwatch : e.watchDir dir filter = (e₁, .ok id)) (hwalk : walkFiles e₁.world.files dir filter = .error f) :
    e.scan dir filter = (e₁, .error (.other f)) ∧ e.scanMarks dir filter = [] := by
  rw [scan, scanMarks, scanTrace, hdir, hwatch]
  simp [hwalk]

theorem scan_eq (hdir : FileSystem.isDir e.world.files dir = true)
    (hwatch : e.watchDir dir filter = (e₁, .ok id)) (hwalk : walkFiles e₁.world.files dir filter = .ok files) :
    e.scan dir filter = ((e₁.submitAll files).1, (e₁.submitAll files).2.map fun _ => files.length) ∧
      e.scanMarks dir filter = e₁.submitAllMarks files := by
  rw [scan, scanMarks, scanTrace, hdir, hwatch]
  simp [hwalk]

end

theorem scan_steps (e : Engine σ) (dir : Path) (filter : Option Pattern) (b : List Task) :
    Steps ⟨e.queue, b⟩ (e.scanMarks dir filter) ⟨(e.scan dir filter).1.queue, b⟩ := by
  have hq := e.watch_dir_queue dir filter
  rcases hdir : FileSystem.isDir e.world.files dir
  · rw [(scan_missing hdir).1, (scan_missing hdir).2]
    exact .nil _
  rcases hwatch : e.watchDir dir filter with ⟨e', err | id⟩ <;> rw [hwatch] at hq <;> rw [← hq]
  · rw [(scan_refused hdir hwatch).1, (scan_refused hdir hwatch).2]
    exact .nil _
  rcases hwalk : walkFiles e'.world.files dir filter with f | files
  · rw [(scan_unread hdir hwatch hwalk).1, (scan_unread hdir hwatch hwalk).2]
    exact .nil _
  · rw [(scan_eq hdir hwatch hwalk).1, (scan_eq hdir hwatch hwalk).2]
    exact submit_all_steps files e' b

theorem scan_marks_only_offers (e : Engine σ) (dir : Path) (filter : Option Pattern) :
    Mark.OnlyOffers (e.scanMarks dir filter) := by
  rcases hdir : FileSystem.isDir e.world.files dir
  · rw [(scan_missing hdir).2]
    exact .nil
  rcases hwatch : e.watchDir dir filter with ⟨e', err | id⟩
  · rw [(scan_refused hdir hwatch).2]
    exact .nil
  rcases hwalk : walkFiles e'.world.files dir filter with f | files
  · rw [(scan_unread hdir hwatch hwalk).2]
    exact .nil
  · rw [(scan_eq hdir hwatch hwalk).2]
    exact submit_all_marks_only_offers files e'

end

/-! ## Batches -/

def batchMarks (settings : Settings) (handlers : HandlerRegistry σ) (ts : List Task) (q : TaskQueue)
    (w : World σ) : List Mark :=
  (batchTrace settings handlers ts q w).marks

@[simp] theorem batch_trace_marks (settings : Settings) (handlers : HandlerRegistry σ) (ts : List Task)
    (q : TaskQueue) (w : World σ) :
    (batchTrace settings handlers ts q w).marks = batchMarks settings handlers ts q w := rfl

def flushMarks (e : Engine σ) : List Mark := e.flushTrace.marks

@[simp] theorem flush_trace_marks (e : Engine σ) : e.flushTrace.marks = e.flushMarks := rfl

theorem flush_marks (e : Engine σ) : e.flushMarks =
    .began :: batchMarks e.settings e.handlers e.queue.takeBatch.2 e.queue.takeBatch.1 e.world := by
  simp [flushMarks, flushTrace]

section

variable {settings : Settings} {handlers : HandlerRegistry σ} {t : Task} {q q' : TaskQueue} {w w' : World σ}
  {f : Failure}

def workOf (settings : Settings) (handlers : HandlerRegistry σ) (t : Task) (w : World σ) : Work (World σ) :=
  match handlers.get? t.handler with
  | none => .finish w (.error (noHandler t))
  | some h => h settings t.args w

theorem batch_goes_on (h : (workOf settings handlers t w).run q = (q', w', .ok ())) (rest : List Task) :
    runBatch settings handlers (t :: rest) q w = runBatch settings handlers rest q'.markRun w' ∧
      batchMarks settings handlers (t :: rest) q w =
        (workOf settings handlers t w).marks q ++ .ran t :: batchMarks settings handlers rest q'.markRun w' := by
  rw [runBatch, batchMarks, batchTrace]
  unfold workOf at h ⊢
  rcases hget : handlers.get? t.handler with _ | handler <;> rw [hget] at h
  · cases h
  · simp [h]

theorem batch_gives_up (h : (workOf settings handlers t w).run q = (q', w', .error f)) (rest : List Task) :
    runBatch settings handlers (t :: rest) q w = (q', w', .error (taskFailure t f)) ∧
      batchMarks settings handlers (t :: rest) q w =
        (workOf settings handlers t w).marks q ++ [.gaveUp (t :: rest)] := by
  rw [runBatch, batchMarks, batchTrace]
  unfold workOf at h ⊢
  rcases hget : handlers.get? t.handler with _ | handler <;> rw [hget] at h
  · cases h
    exact ⟨rfl, rfl⟩
  · simp [h]

end

theorem batch_steps (settings : Settings) (handlers : HandlerRegistry σ) (ts : List Task)
    (q : TaskQueue) (w : World σ) :
    Steps ⟨q, ts⟩ (batchMarks settings handlers ts q w)
      ⟨(runBatch settings handlers ts q w).1, []⟩ := by
  induction ts generalizing q w with
  | nil => exact .nil _
  | cons t ts ih =>
    have hw := (workOf settings handlers t w).run_steps q (t :: ts)
    rcases hrun : (workOf settings handlers t w).run q with ⟨q', w', f | ⟨⟩⟩ <;> rw [hrun] at hw
    · rw [(batch_gives_up hrun ts).1, (batch_gives_up hrun ts).2]
      exact hw.append (Step.gaveUp q' t ts).steps
    · rw [(batch_goes_on hrun ts).1, (batch_goes_on hrun ts).2]
      exact hw.append (.cons (.ran q' t ts) (ih q'.markRun w'))

theorem flush_steps (e : Engine σ) :
    Steps ⟨e.queue, []⟩ e.flushMarks ⟨e.flush.1.queue, []⟩ := by
  simpa [flushMarks, flush, flushTrace] using
    Steps.cons (.began e.queue) (batch_steps e.settings e.handlers _ _ e.world)

theorem batch_marks_inner (settings : Settings) (handlers : HandlerRegistry σ) (ts : List Task)
    (q : TaskQueue) (w : World σ) :
    .began ∉ batchMarks settings handlers ts q w ∧ .asked ∉ batchMarks settings handlers ts q w := by
  induction ts generalizing q w with
  | nil => simp [batchMarks, batchTrace]
  | cons t ts ih =>
    obtain ⟨hb, ha⟩ := ((workOf settings handlers t w).marks_only_offers q).inner
    rcases hrun : (workOf settings handlers t w).run q with ⟨q', w', f | ⟨⟩⟩
    · rw [(batch_gives_up hrun ts).2]
      simp [hb, ha]
    · rw [(batch_goes_on hrun ts).2]
      simp [hb, ha, ih q'.markRun w']

theorem batch_ran (settings : Settings) (handlers : HandlerRegistry σ) (ts : List Task)
    (q : TaskQueue) (w : World σ) (h : (runBatch settings handlers ts q w).2.2 = .ok ()) :
    ∀ t ∈ ts, .ran t ∈ batchMarks settings handlers ts q w := by
  induction ts generalizing q w with
  | nil => simp
  | cons t ts ih =>
    rcases hrun : (workOf settings handlers t w).run q with ⟨q', w', f | ⟨⟩⟩
    · rw [(batch_gives_up hrun ts).1] at h
      cases h
    · rw [(batch_goes_on hrun ts).1] at h
      rw [(batch_goes_on hrun ts).2]
      intro u hu
      rcases List.mem_cons.mp hu with rfl | hu
      · simp
      · simp [ih q'.markRun w' h u hu]

/-! ## Events -/

def nextStepMarks (e : Engine σ) (keepRunning : Bool) : List Mark := (e.nextStepTrace keepRunning).marks

@[simp] theorem next_step_trace_marks (e : Engine σ) (keepRunning : Bool) :
    (e.nextStepTrace keepRunning).marks = e.nextStepMarks keepRunning := rfl

theorem next_step_marks (e : Engine σ) (keepRunning : Bool) : e.nextStepMarks keepRunning = [.asked] := by
  unfold nextStepMarks nextStepTrace
  simp only [Traced.bind_marks]
  split <;> rfl

theorem next_step_queue (e : Engine σ) (keepRunning : Bool) :
    (e.nextStep keepRunning).1.queue = e.queue.takeScheduleRequest.1 := by
  unfold nextStep nextStepTrace
  simp only [Traced.bind_value]
  split <;> rfl

theorem next_step_commands (e : Engine σ) (keepRunning : Bool) :
    .scheduleFlush ∈ (e.nextStep keepRunning).2.commands ↔ e.queue.scheduleRequested = true := by
  unfold nextStep nextStepTrace
  cases hraised : e.queue.scheduleRequested <;>
    simp only [TaskQueue.takeScheduleRequest, hraised, Traced.bind_value] <;> split <;> simp

section

variable [FileSystem σ]

def changeMarks (e : Engine σ) (watch : WatchId) (p : Path) : List Mark := (e.changeTrace watch p).marks

@[simp] theorem change_trace_marks (e : Engine σ) (watch : WatchId) (p : Path) :
    (e.changeTrace watch p).marks = e.changeMarks watch p := rfl

def handleMarks (e : Engine σ) (ev : Event) : List Mark := (e.handleTrace ev).marks

@[simp] theorem handle_trace_marks (e : Engine σ) (ev : Event) : (e.handleTrace ev).marks = e.handleMarks ev := rfl

def stepMarks (e : Engine σ) (ev : Event) : List Mark := (e.stepTrace ev).marks

theorem handle_marks_change (e : Engine σ) (watch : WatchId) (p : Path) :
    e.handleMarks (.pathChanged watch p) = e.changeMarks watch p := by
  simp [handleMarks, handleTrace]

theorem handle_marks_flush (e : Engine σ) : e.handleMarks .flush = e.flushMarks := by
  simp [handleMarks, handleTrace]

/-- Behind what an event does itself, at most the request is read. -/
theorem step_marks_cases (e : Engine σ) (ev : Event) :
    e.stepMarks ev = e.handleMarks ev ∨ e.stepMarks ev = e.handleMarks ev ++ [.asked] := by
  simp only [stepMarks, stepTrace, Traced.bind_marks, handle_trace_value, handle_trace_marks]
  split
  · simp
  · simp [next_step_marks]

theorem offers_step_marks (e : Engine σ) (ev : Event) :
    Mark.offers (e.stepMarks ev) = Mark.offers (e.handleMarks ev) := by
  rcases e.step_marks_cases ev with h | h
  · rw [h]
  · rw [h, Mark.offers_append]
    exact List.append_nil _

theorem ran_step_marks (e : Engine σ) (ev : Event) :
    Mark.executed (e.stepMarks ev) = Mark.executed (e.handleMarks ev) ∧
      Mark.dropped (e.stepMarks ev) = Mark.dropped (e.handleMarks ev) := by
  rcases e.step_marks_cases ev with h | h
  · exact ⟨congrArg _ h, congrArg _ h⟩
  · rw [h, Mark.executed_append, Mark.dropped_append]
    exact ⟨List.append_nil _, List.append_nil _⟩

theorem mem_step_marks {e : Engine σ} {ev : Event} {m : Mark} (hm : m ≠ .asked) :
    m ∈ e.stepMarks ev ↔ m ∈ e.handleMarks ev := by
  rcases e.step_marks_cases ev with h | h <;> simp [h, hm]

def heeds (e : Engine σ) (watch : WatchId) (p : Path) : Bool :=
  e.watches.accepts (FileSystem.place e.world.files) watch p && FileSystem.isFile e.world.files p &&
    !FileSystem.isLink e.world.files p

theorem change_heeded {e : Engine σ} {watch : WatchId} {p : Path} (h : e.heeds watch p = true) :
    e.handleChange watch p = ((e.submit p).1, (e.submit p).2.map fun _ => ()) ∧
      e.changeMarks watch p = e.submitMarks p := by
  rw [handleChange, changeMarks, changeTrace]
  simp only [heeds, Bool.and_eq_true, Bool.not_eq_true'] at h
  simp [h]

theorem change_unheeded {e : Engine σ} {watch : WatchId} {p : Path} (h : e.heeds watch p = false) :
    e.handleChange watch p = (e, .ok ()) ∧ e.changeMarks watch p = [] := by
  rw [handleChange, changeMarks, changeTrace]
  simp only [heeds, Bool.and_eq_false_iff, Bool.not_eq_false'] at h
  rcases h with (h | h) | h <;> simp [h]

theorem change_steps (e : Engine σ) (watch : WatchId) (p : Path) (b : List Task) :
    Steps ⟨e.queue, b⟩ (e.changeMarks watch p) ⟨(e.handleChange watch p).1.queue, b⟩ := by
  rcases h : e.heeds watch p
  · rw [(change_unheeded h).1, (change_unheeded h).2]
    exact .nil _
  · rw [(change_heeded h).1, (change_heeded h).2]
    exact e.submit_steps p b

theorem change_marks_only_offers (e : Engine σ) (watch : WatchId) (p : Path) :
    Mark.OnlyOffers (e.changeMarks watch p) := by
  rcases h : e.heeds watch p
  · rw [(change_unheeded h).2]
    exact .nil
  · rw [(change_heeded h).2]
    exact e.submit_marks_only_offers p

theorem handle_steps (e : Engine σ) (ev : Event) :
    Steps ⟨e.queue, []⟩ (e.handleMarks ev) ⟨(e.handle ev).1.queue, []⟩ := by
  cases ev with
  | pathChanged watch p => simpa [handle_marks_change, handle, handleTrace] using e.change_steps watch p []
  | flush => simpa [handle_marks_flush, handle, handleTrace] using e.flush_steps
  | commandExited id description status => cases status <;> exact .nil _
  | clientConnected hearsReply => exact .nil _
  | clientDisconnected client => exact .nil _
  | shutdown => exact .nil _

theorem flush_done {e : Engine σ} {keepRunning : Bool} (h : (e.handle .flush).2 = .ok keepRunning) :
    (runBatch e.settings e.handlers e.queue.pending e.queue.takeBatch.1 e.world).2.2 = .ok () := by
  simp only [handle, handleTrace, flushTrace, Traced.bind_value, Traced.pure_value,
    batch_trace_value, TaskQueue.takeBatch] at h ⊢
  revert h
  rcases runBatch e.settings e.handlers e.queue.pending _ e.world with ⟨q, w, err | ⟨⟩⟩
  · intro h
    simp [Except.map] at h
  · intro _
    rfl

theorem handle_marks_only_offers (e : Engine σ) {ev : Event} (hev : ev ≠ .flush) :
    Mark.OnlyOffers (e.handleMarks ev) := by
  cases ev with
  | pathChanged watch p =>
    rw [handle_marks_change]
    exact e.change_marks_only_offers watch p
  | flush => exact absurd rfl hev
  | commandExited id description status => exact .nil
  | clientConnected hearsReply => exact .nil
  | clientDisconnected client => exact .nil
  | shutdown => exact .nil

theorem step_of_error {e e' : Engine σ} {ev : Event} {err : BuildError} (h : e.handle ev = (e', .error err)) :
    e.step ev = (e', .error err) := by
  simp only [step, stepTrace, Traced.bind_value, handle_trace_value, h, Traced.pure_value]

theorem step_of_ok {e e' : Engine σ} {ev : Event} {keepRunning : Bool} (h : e.handle ev = (e', .ok keepRunning)) :
    e.step ev = ((e'.nextStep keepRunning).1, .ok (e'.nextStep keepRunning).2) := by
  simp only [step, stepTrace, Traced.bind_value, handle_trace_value, h, Traced.pure_value, next_step_trace_value]

theorem step_ok {e : Engine σ} {ev : Event} {s : BundleWatch.Step} (h : (e.step ev).2 = .ok s) :
    ∃ keepRunning, (e.handle ev).2 = .ok keepRunning := by
  rcases hh : e.handle ev with ⟨e', err | keepRunning⟩
  · rw [step_of_error hh] at h
    cases h
  · exact ⟨keepRunning, rfl⟩

theorem step_steps (e : Engine σ) (ev : Event) :
    Steps ⟨e.queue, []⟩ (e.stepMarks ev) ⟨(e.step ev).1.queue, []⟩ := by
  have hh := e.handle_steps ev
  simp only [step, stepMarks, stepTrace, Traced.bind_value, Traced.bind_marks, handle_trace_value,
    handle_trace_marks]
  revert hh
  rcases e.handle ev with ⟨e', err | keepRunning⟩
  · intro hh
    simpa using hh
  · intro hh
    simp only [Traced.bind_value, Traced.bind_marks, Traced.pure_value, Traced.pure_marks,
      next_step_trace_value, next_step_trace_marks, next_step_marks, next_step_queue]
    exact hh.append (Step.asked e'.queue []).steps

end

end Engine

end BundleWatch
