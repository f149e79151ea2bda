import BundleWatch.Proofs.Queue.Representation

/-!
# The request to be scheduled

The task that fills an empty queue raises the request, and reading it lowers it. Taking a batch does not. So a
request that is read belongs to pending tasks unless a batch was taken before anybody read it.
-/

set_option autoImplicit false

namespace BundleWatch

namespace QueueOp

def readsRequest : QueueOp → Bool
  | .takeScheduleRequest => true
  | _ => false

end QueueOp

namespace QueueStep

def unread (log : List QueueStep) : List QueueStep := log.rtakeWhile fun s => !s.op.readsRequest

def Fills (s : QueueStep) : Prop := s.answer = .queued true ∧ s.after.length = 1

def LeavesRequest (s : QueueStep) : Prop := s.op.takesBatch = true ∧ s.after.scheduleRequested = true

def requests (log : List QueueStep) : Nat := log.countP fun s => s.answer = .requested true

theorem unread_concat (log : List QueueStep) (s : QueueStep) :
    unread (log ++ [s]) = if s.op.readsRequest then [] else unread log ++ [s] := by
  unfold unread
  rw [List.rtakeWhile_concat]
  cases s.op.readsRequest <;> rfl

theorem exists_unread_concat {P : QueueStep → Prop} (log : List QueueStep) (s : QueueStep)
    (hreads : s.op.readsRequest = false) :
    (∃ u ∈ unread (log ++ [s]), P u) ↔ (∃ u ∈ unread log, P u) ∨ P s := by
  rw [unread_concat, hreads]
  simp [or_and_right, exists_or]

end QueueStep

namespace TaskQueue

theorem perform_coherent {q : TaskQueue} (hq : q.Coherent) (op : QueueOp) : (q.perform op).1.Coherent := by
  cases op with
  | push t => exact push_coherent hq t
  | enqueue handler args => exact push_coherent hq _
  | takeScheduleRequest => exact ⟨hq.ids, hq.armed⟩
  | takeBatch => exact ⟨rfl, rfl⟩
  | markRun => exact ⟨hq.ids, hq.armed⟩

/-! ## What raises the request -/

structure Requests (q : TaskQueue) (log : List QueueStep) : Prop where
  coherent : q.Coherent
  raised : q.scheduleRequested = true ↔ ∃ s ∈ QueueStep.unread log, s.Fills
  waits : q.scheduleRequested = true → q.pending ≠ [] ∨ ∃ s ∈ QueueStep.unread log, s.LeavesRequest

theorem requests_empty : Requests .empty [] :=
  ⟨coherent_empty, by simp [empty, QueueStep.unread], fun h => absurd h Bool.false_ne_true⟩

theorem push_request {q : TaskQueue} (hq : q.Coherent) (t : Task) :
    (q.push t).1.scheduleRequested = (q.scheduleRequested || q.pending.isEmpty) := by
  by_cases ht : t.id ∈ q.pendingIds
  · have hfull : q.pending ≠ [] := by
      rw [hq.ids] at ht
      exact List.ne_nil_of_mem (List.mem_map.mp ht).choose_spec.1
    simp [push_old ht, hfull]
  · simp [push_new ht, hq.armed]

theorem push_fills {q : TaskQueue} (hq : q.Coherent) (t : Task) :
    (q.push t).2 = true ∧ (q.push t).1.length = 1 ↔ q.pending = [] := by
  by_cases ht : t.id ∈ q.pendingIds
  · rw [push_old ht]
    rw [hq.ids] at ht
    exact iff_of_false (fun h => Bool.false_ne_true h.1) (List.ne_nil_of_mem (List.mem_map.mp ht).choose_spec.1)
  · simp [push_new ht, length]

theorem push_full {q : TaskQueue} (hq : q.Coherent) (t : Task) : (q.push t).1.pending ≠ [] :=
  List.ne_nil_of_mem (push_pending hq t).choose_spec.1

theorem Requests.offer {q : TaskQueue} {log : List QueueStep} (h : q.Requests log) (t : Task) {s : QueueStep}
    (hop : s.op.readsRequest = false) (hanswer : s.answer = .queued (q.push t).2)
    (hafter : s.after = (q.push t).1) : (q.push t).1.Requests (log ++ [s]) := by
  have hfills : s.Fills ↔ q.pending = [] := by
    rw [← push_fills h.coherent t, QueueStep.Fills, hanswer, hafter, QueueAnswer.queued.injEq]
  refine ⟨push_coherent h.coherent t, ?_, fun _ => .inl (push_full h.coherent t)⟩
  rw [push_request h.coherent, QueueStep.exists_unread_concat log s hop, hfills, ← h.raised]
  simp

theorem Requests.perform {q : TaskQueue} {log : List QueueStep} (h : q.Requests log) (op : QueueOp) :
    (q.perform op).1.Requests (log ++ [⟨op, (q.perform op).2, (q.perform op).1⟩]) := by
  cases op with
  | push t => exact h.offer t rfl rfl rfl
  | enqueue handler args => exact h.offer (.new handler args) rfl rfl rfl
  | takeScheduleRequest =>
    refine ⟨perform_coherent h.coherent _, ?_, fun hraised => absurd hraised Bool.false_ne_true⟩
    rw [QueueStep.unread_concat]
    exact iff_of_false Bool.false_ne_true fun ⟨s, hs, _⟩ => List.not_mem_nil hs
  | takeBatch =>
    refine ⟨perform_coherent h.coherent _, ?_, fun hraised => .inr ?_⟩
    · rw [QueueStep.exists_unread_concat log _ rfl, ← h.raised]
      exact ⟨.inl, fun hor => hor.resolve_right fun hfills => nomatch hfills.1⟩
    · -- the request stood when this very batch was taken
      rw [QueueStep.exists_unread_concat log _ rfl]
      exact .inr ⟨rfl, hraised⟩
  | markRun =>
    refine ⟨perform_coherent h.coherent _, ?_, fun hraised => ?_⟩
    · rw [QueueStep.exists_unread_concat log _ rfl, ← h.raised]
      exact ⟨.inl, fun hor => hor.resolve_right fun hfills => nomatch hfills.1⟩
    · rw [QueueStep.exists_unread_concat log _ rfl]
      exact (h.waits hraised).imp_right .inl

theorem Requests.perform_all {q : TaskQueue} {log : List QueueStep} (h : q.Requests log) (ops : List QueueOp) :
    (q.performAll ops).Requests (log ++ q.history ops) := by
  induction ops generalizing q log with
  | nil => simpa [TaskQueue.performAll, history] using h
  | cons op ops ih => simpa [TaskQueue.performAll, history] using ih (h.perform op)

/-! ## How often it is found raised -/

/-- The readings that may still find the request raised before a batch is taken: one if it stands, and one if the
queue can still be filled. -/
def readingsLeft (q : TaskQueue) : Nat := q.scheduleRequested.toNat + q.pending.isEmpty.toNat

theorem push_readings_left {q : TaskQueue} (hq : q.Coherent) (t : Task) :
    (q.push t).1.readingsLeft ≤ q.readingsLeft := by
  have hfull : (q.push t).1.pending.isEmpty = false := by simpa using push_full hq t
  rw [readingsLeft, readingsLeft, push_request hq, hfull]
  cases q.scheduleRequested <;> cases q.pending.isEmpty <;> decide

theorem perform_readings_left {q : TaskQueue} (hq : q.Coherent) {op : QueueOp} (hop : op.takesBatch = false) :
    QueueStep.requests [⟨op, (q.perform op).2, (q.perform op).1⟩] + (q.perform op).1.readingsLeft ≤
      q.readingsLeft := by
  cases op with
  | push t => simpa [QueueStep.requests, perform] using push_readings_left hq t
  | enqueue handler args => simpa [QueueStep.requests, perform, enqueue] using push_readings_left hq (.new handler args)
  | takeScheduleRequest =>
    cases hraised : q.scheduleRequested <;>
      simp [QueueStep.requests, perform, takeScheduleRequest, readingsLeft, hraised]
  | takeBatch => exact absurd hop (by decide)
  | markRun => simp [QueueStep.requests, perform, markRun, readingsLeft]

theorem requests_between_batches {ops : List QueueOp} (hops : ∀ op ∈ ops, op.takesBatch = false) {q : TaskQueue}
    (hq : q.Coherent) : QueueStep.requests (q.history ops) ≤ q.readingsLeft := by
  induction ops generalizing q with
  | nil => exact Nat.zero_le _
  | cons op ops ih =>
    have hfirst := perform_readings_left hq (hops op (by simp))
    have hrest := ih (fun o ho => hops o (by simp [ho])) (perform_coherent hq op)
    have hsplit : QueueStep.requests (q.history (op :: ops)) =
        QueueStep.requests [⟨op, (q.perform op).2, (q.perform op).1⟩] +
          QueueStep.requests ((q.perform op).1.history ops) := by
      rw [QueueStep.requests, history, ← List.singleton_append, List.countP_append]
      rfl
    omega

theorem readings_left_le_one {q : TaskQueue} (h : q.scheduleRequested = true → q.pending ≠ []) :
    q.readingsLeft ≤ 1 := by
  unfold readingsLeft
  cases hraised : q.scheduleRequested
  · simpa using Bool.toNat_le _
  · have hfull : q.pending.isEmpty = false := by simpa using h hraised
    simp [hfull]

end TaskQueue

end BundleWatch
