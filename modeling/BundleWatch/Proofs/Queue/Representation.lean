import BundleWatch.Proofs.Queue.Merging
import Mathlib.Data.List.DropRight

/-!
# What the queue represents

After any operations on a new queue, its list of tasks, its identities and its flag all tell the same: the tasks
that were offered since the last batch was taken, of each identity the first. Pending tasks have their request to
be scheduled, or somebody took it after they began to wait.
-/

set_option autoImplicit false

namespace BundleWatch

inductive QueueOp
  | push (t : Task)
  | enqueue (handler : String) (args : List Arg)
  | takeScheduleRequest
  | takeBatch
  | markRun

inductive QueueAnswer
  | queued (isNew : Bool)
  | requested (raised : Bool)
  | batch (ts : List Task)
  | counted
deriving DecidableEq

structure QueueStep where
  op : QueueOp
  answer : QueueAnswer
  after : TaskQueue

namespace QueueOp

def offer? : QueueOp → Option Task
  | .push t => some t
  | .enqueue handler args => some (.new handler args)
  | _ => none

def takesBatch : QueueOp → Bool
  | .takeBatch => true
  | _ => false

end QueueOp

namespace QueueStep

def offered (log : List QueueStep) : List Task :=
  (log.rtakeWhile fun s => !s.op.takesBatch).filterMap fun s => s.op.offer?

/-- The steps from the one with which the queue last became non-empty, if it is not empty now. -/
def sinceFilled (log : List QueueStep) : List QueueStep := log.rtakeWhile fun s => !s.after.isEmpty

theorem offered_concat (log : List QueueStep) (s : QueueStep) :
    offered (log ++ [s]) = if s.op.takesBatch then [] else offered log ++ s.op.offer?.toList := by
  unfold offered
  rw [List.rtakeWhile_concat]
  cases h : s.op.takesBatch
  · cases ho : s.op.offer? <;> simp [ho]
  · simp

theorem offered_idle (log : List QueueStep) (s : QueueStep) (hop : s.op.offer? = none)
    (htakes : s.op.takesBatch = false) : offered (log ++ [s]) = offered log := by
  rw [offered_concat, htakes, hop]
  simp

theorem since_filled_concat (log : List QueueStep) (s : QueueStep) (h : s.after.pending ≠ []) :
    sinceFilled (log ++ [s]) = sinceFilled log ++ [s] := by
  have hfull : s.after.isEmpty = false := by simpa [TaskQueue.isEmpty] using h
  rw [sinceFilled, List.rtakeWhile_concat, hfull]
  rfl

end QueueStep

namespace TaskQueue

def perform (q : TaskQueue) : QueueOp → TaskQueue × QueueAnswer
  | .push t => ((q.push t).1, .queued (q.push t).2)
  | .enqueue handler args => ((q.enqueue handler args).1, .queued (q.enqueue handler args).2)
  | .takeScheduleRequest => (q.takeScheduleRequest.1, .requested q.takeScheduleRequest.2)
  | .takeBatch => (q.takeBatch.1, .batch q.takeBatch.2)
  | .markRun => (q.markRun, .counted)

def performAll (q : TaskQueue) : List QueueOp → TaskQueue
  | [] => q
  | op :: ops => (q.perform op).1.performAll ops

def history (q : TaskQueue) : List QueueOp → List QueueStep
  | [] => []
  | op :: ops => ⟨op, (q.perform op).2, (q.perform op).1⟩ :: (q.perform op).1.history ops

end TaskQueue

theorem Task.firsts_nodup (ts : List Task) : ((Task.firsts ts).map (·.id)).Nodup := by
  induction ts with
  | nil => exact List.nodup_nil
  | cons t ts ih =>
    rw [firsts, List.map_cons, List.nodup_cons]
    constructor
    · simp
    · exact ih.sublist (List.filter_sublist.map _)

namespace TaskQueue

structure Represents (q : TaskQueue) (log : List QueueStep) : Prop where
  collects : q.Collects (QueueStep.offered log)
  asks : q.pending ≠ [] →
    q.scheduleRequested = true ∨ ∃ s ∈ QueueStep.sinceFilled log, s.answer = .requested true

theorem Collects.congr {q r : TaskQueue} {ts : List Task} (h : q.Collects ts) (hpending : r.pending = q.pending)
    (hids : r.pendingIds = q.pendingIds) (harmed : r.armed = q.armed) : r.Collects ts := by
  refine ⟨⟨?_, ?_⟩, hpending.trans h.pending⟩
  · rw [hids, hpending, h.coherent.ids]
  · rw [harmed, hpending, h.coherent.armed]

theorem represents_empty : Represents .empty [] :=
  ⟨⟨coherent_empty, rfl⟩, fun h => absurd rfl h⟩

theorem push_requested (q : TaskQueue) (hq : q.Coherent) (t : Task) :
    (q.pending = [] → (q.push t).1.scheduleRequested = true) ∧
      (q.scheduleRequested = true → (q.push t).1.scheduleRequested = true) := by
  by_cases ht : t.id ∈ q.pendingIds
  · rw [push_old ht]
    refine ⟨fun hempty => ?_, id⟩
    rw [hq.ids, hempty] at ht
    cases ht
  · rw [push_new ht]
    constructor
    · intro hempty
      simp [hq.armed, hempty]
    · intro hraised
      simp [hraised]

theorem Represents.offer {q : TaskQueue} {log : List QueueStep} (h : q.Represents log) (t : Task)
    {s : QueueStep} (hop : s.op.offer? = some t) (htakes : s.op.takesBatch = false)
    (hafter : s.after = (q.push t).1) : (q.push t).1.Represents (log ++ [s]) := by
  constructor
  · rw [QueueStep.offered_concat, htakes, hop]
    exact h.collects.push t
  · intro hfull
    rw [QueueStep.since_filled_concat log s (hafter ▸ hfull)]
    obtain ⟨hfirst, hkeeps⟩ := push_requested q h.collects.coherent t
    by_cases hempty : q.pending = []
    · exact .inl (hfirst hempty)
    · rcases h.asks hempty with hraised | ⟨u, hu, htaken⟩
      · exact .inl (hkeeps hraised)
      · exact .inr ⟨u, List.mem_append_left _ hu, htaken⟩

theorem Represents.perform {q : TaskQueue} {log : List QueueStep} (h : q.Represents log) (op : QueueOp) :
    (q.perform op).1.Represents (log ++ [⟨op, (q.perform op).2, (q.perform op).1⟩]) := by
  cases op with
  | push t => exact h.offer t rfl rfl rfl
  | enqueue handler args => exact h.offer (.new handler args) rfl rfl rfl
  | takeScheduleRequest =>
    refine ⟨?_, fun hfull => .inr ?_⟩
    · rw [QueueStep.offered_idle log _ rfl rfl]
      exact h.collects.congr rfl rfl rfl
    · rw [QueueStep.since_filled_concat log _ hfull]
      rcases h.asks hfull with hraised | ⟨u, hu, htaken⟩
      · -- the request is taken with this very step
        exact ⟨_, List.mem_append_right _ (List.mem_singleton_self _), congrArg QueueAnswer.requested hraised⟩
      · exact ⟨u, List.mem_append_left _ hu, htaken⟩
  | takeBatch =>
    constructor
    · rw [QueueStep.offered_concat]
      exact ⟨⟨rfl, rfl⟩, rfl⟩
    · exact fun hfull => absurd rfl hfull
  | markRun =>
    refine ⟨?_, fun hfull => ?_⟩
    · rw [QueueStep.offered_idle log _ rfl rfl]
      exact h.collects.congr rfl rfl rfl
    · rw [QueueStep.since_filled_concat log _ hfull]
      exact (h.asks hfull).imp_right fun ⟨u, hu, htaken⟩ => ⟨u, List.mem_append_left _ hu, htaken⟩

theorem Represents.perform_all {q : TaskQueue} {log : List QueueStep} (h : q.Represents log) (ops : List QueueOp) :
    (q.performAll ops).Represents (log ++ q.history ops) := by
  induction ops generalizing q log with
  | nil => simpa [TaskQueue.performAll, history] using h
  | cons op ops ih => simpa [TaskQueue.performAll, history] using ih (h.perform op)

theorem push_is_new {q : TaskQueue} (h : q.Coherent) (t : Task) :
    (q.push t).2 = true ↔ ∀ u ∈ q.pending, u.id ≠ t.id := by
  have hids : t.id ∈ q.pendingIds ↔ ∃ u ∈ q.pending, u.id = t.id := by rw [h.ids, List.mem_map]
  by_cases ht : t.id ∈ q.pendingIds
  · rw [push_old ht]
    obtain ⟨u, hu, hid⟩ := hids.mp ht
    exact iff_of_false Bool.false_ne_true fun hnone => hnone u hu hid
  · rw [push_new ht]
    exact iff_of_true rfl fun u hu hid => ht (hids.mpr ⟨u, hu, hid⟩)

/-- After any operations on a new queue, all its parts tell what was offered since the last batch, and pending tasks
have asked to be scheduled. -/
theorem queue_representation (ops : List QueueOp) :
    let q := empty.performAll ops
    let offered := QueueStep.offered (empty.history ops)
    (q.pending = Task.firsts offered ∧ (Task.Apart offered → q.pending = offered.eraseDups)) ∧
      (q.pendingIds = q.pending.map (·.id) ∧ q.pendingIds.Nodup) ∧
      (q.armed = true ↔ q.pending ≠ []) ∧
      (∀ t, (q.push t).2 = true ↔ ∀ u ∈ q.pending, u.id ≠ t.id) ∧
      (∀ handler args, (q.enqueue handler args).2 = true ↔
        ∀ u ∈ q.pending, u.id ≠ TaskId.derive handler args) ∧
      (q.takeBatch.2 = q.pending ∧ q.takeBatch.1.pending = [] ∧ q.takeBatch.1.pendingIds = [] ∧
        q.takeBatch.1.armed = false) ∧
      (q.pending ≠ [] → q.scheduleRequested = true ∨
        ∃ s ∈ QueueStep.sinceFilled (empty.history ops), s.answer = .requested true) := by
  intro q offered
  have hrepresents : q.Represents (empty.history ops) := represents_empty.perform_all ops
  have hcoherent : q.Coherent := hrepresents.collects.coherent
  have hpending : q.pending = Task.firsts offered := hrepresents.collects.pending
  refine ⟨⟨hpending, fun hapart => ?_⟩, ⟨hcoherent.ids, ?_⟩, ?_, push_is_new hcoherent, fun handler args => ?_,
    ⟨rfl, rfl, rfl, rfl⟩, hrepresents.asks⟩
  · rw [hpending, Task.firsts_eq_erase_dups hapart]
  · rw [hcoherent.ids, hpending]
    exact Task.firsts_nodup offered
  · simp [hcoherent.armed]
  · exact push_is_new hcoherent (.new handler args)

/-- Two tasks wait, one of them offered twice, under a request that the batch before them left. -/
theorem queue_representation_untaken :
    let ops : List QueueOp := [.enqueue "copy" [.text "a"], .takeBatch, .enqueue "copy" [.text "b"],
      .push (.new "copy" [.text "a"]), .markRun, .enqueue "copy" [.text "b"]]
    (empty.performAll ops).pending = [.new "copy" [.text "b"], .new "copy" [.text "a"]] ∧
      (empty.performAll ops).armed = true ∧ (empty.performAll ops).scheduleRequested = true ∧
      ((empty.performAll ops).push (.new "copy" [.text "c"])).2 = true := by
  intro ops
  obtain ⟨⟨hpending, -⟩, -, harmed, hnew, -, -, hasks⟩ := queue_representation ops
  have hfirsts : Task.firsts (QueueStep.offered (empty.history ops)) =
      [.new "copy" [.text "b"], .new "copy" [.text "a"]] := by decide +kernel
  have hfull : (empty.performAll ops).pending ≠ [] := by simp [hpending, hfirsts]
  have huntaken : ∀ s ∈ QueueStep.sinceFilled (empty.history ops), s.answer ≠ .requested true := by decide +kernel
  refine ⟨hpending.trans hfirsts, harmed.mpr hfull, ?_, (hnew _).mpr ?_⟩
  · rcases hasks hfull with hraised | ⟨s, hs, htaken⟩
    · exact hraised
    · exact absurd htaken (huntaken s hs)
  · rw [hpending, hfirsts]
    decide +kernel

end TaskQueue

end BundleWatch
