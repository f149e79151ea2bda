import BundleWatch.Files.Memory
import BundleWatch.Proofs.Engine.Operation
import BundleWatch.Proofs.Queue.Ledger

/-!
# Conservation of tasks

No operation of the engine loses an accepted task, runs it twice, or changes the order of acceptance. A
task leaves the queue by being executed, or by being dropped with a batch that failed; an occurrence that
is neither is still pending.
-/

set_option autoImplicit false

namespace BundleWatch.Engine

variable {σ : Type}

/-- The lines of the ledger are the acceptances of a history of operations, each with its one fate. Those
that were not dropped are the executed tasks followed by the pending ones, across all batches, and the
counters count them. -/
theorem accepted_tasks_accounted [FileSystem σ] (e : Engine σ) (he : e.IsNew)
    (ops : List (Operation σ)) :
    let marks := e.performAllMarks ops
    let ledger := Ledger.ofMarks marks
    let queue := (e.performAll ops).queue
    ledger.map (·.task) = Mark.accepted marks ∧
      ledger.only .dropped = Mark.dropped marks ∧
      ledger.without .dropped = Mark.executed marks ++ queue.pending ∧
      queue.stats = ⟨(Mark.accepted marks).length, (Mark.executed marks).length,
        queue.pending.length⟩ ∧
      (Mark.dropped marks = [] → Mark.accepted marks = Mark.executed marks ++ queue.pending) := by
  intro marks ledger queue
  have hsteps := perform_all_steps ops e
  have hqueue : e.queue = .empty := he.1
  have htasks := Ledger.of_marks_tasks marks
  obtain ⟨hkept, hlost⟩ := Ledger.shows_between_batches (by rw [hqueue]; rfl) hsteps
  obtain ⟨henqueued, hrun⟩ := hsteps.counters
  refine ⟨htasks, hlost, hkept, ?_, ?_⟩
  · simp only [hqueue, TaskQueue.empty, Nat.zero_add] at henqueued hrun
    rw [TaskQueue.stats, henqueued, hrun]
  · intro hnone
    rw [← htasks, ← hkept]
    exact (Ledger.without_eq_tasks (hlost.trans hnone)).symm

/-- An engine whose one task fails and whose other one has itself queued again. -/
def troubled : Engine Memory where
  settings := default
  world := { files := .new }
  handlers := ⟨[
    ("again", fun _ _ w => .offer w "again" [.number 1]),
    ("fail", fun _ _ w => .finish w (.error ⟨"no", []⟩))]⟩

/-- The second batch fails at its second task, so of the two tasks with the same identity the first was
executed, the next one was dropped, and the last one is pending. -/
theorem accepted_tasks_accounted_troubled :
    let ops : List (Operation Memory) :=
      [.enqueue "again" [], .flush, .enqueue "fail" [], .enqueue "again" [], .step .flush,
        .enqueue "again" []]
    let marks := troubled.performAllMarks ops
    let ledger := Ledger.ofMarks marks
    let queue := (troubled.performAll ops).queue
    troubled.IsNew ∧
      (ledger.map (·.task) = Mark.accepted marks ∧
        ledger.only .dropped = Mark.dropped marks ∧
        ledger.without .dropped = Mark.executed marks ++ queue.pending ∧
        queue.stats = ⟨(Mark.accepted marks).length, (Mark.executed marks).length,
          queue.pending.length⟩ ∧
        (Mark.dropped marks = [] → Mark.accepted marks = Mark.executed marks ++ queue.pending)) ∧
      Mark.dropped marks = [.new "fail" [], .new "again" []] :=
  ⟨⟨rfl, rfl⟩, accepted_tasks_accounted troubled ⟨rfl, rfl⟩ _, by decide +kernel⟩

end BundleWatch.Engine
