import BundleWatch.Proofs.Loop.WakeUp
import BundleWatch.Proofs.Queue.Request

/-!
# Flushes are scheduled for tasks that wait

An engine asks for a flush when it reads a raised request. As long as every flush comes after the reading, the
request stands only while tasks wait. A flush that comes before it takes the tasks and leaves the request, and a
second flush is scheduled for nothing.
-/

set_option autoImplicit false

namespace BundleWatch

variable {σ : Type}

def Operation.flushes : Operation σ → Bool
  | .flush | .step .flush => true
  | _ => false

namespace Engine

structure InTime (e : Engine σ) : Prop where
  coherent : e.queue.Coherent
  once : e.queue.WokenOnce 0

theorem InTime.pending {e : Engine σ} (h : e.InTime) (hraised : e.queue.scheduleRequested = true) :
    e.queue.pending ≠ [] := by
  intro hnone
  have honce := h.once
  simp [TaskQueue.WokenOnce, hnone, hraised] at honce

theorem InTime.next_step {e : Engine σ} (h : e.InTime) (keepRunning : Bool) : (e.nextStep keepRunning).1.InTime := by
  constructor <;> rw [next_step_queue]
  · exact ⟨h.coherent.ids, h.coherent.armed⟩
  · exact Nat.zero_le _

theorem IsNew.in_time {e : Engine σ} (h : e.IsNew) : e.InTime := by
  constructor <;> rw [h.1]
  · exact TaskQueue.coherent_empty
  · exact Nat.le_refl 0

variable [FileSystem σ]

def commands (e : Engine σ) : Operation σ → List Command
  | .step ev =>
    match (e.step ev).2 with
    | .ok s => s.commands
    | .error _ => []
  | .nextStep keepRunning => (e.nextStep keepRunning).2.commands
  | _ => []

def ReadsFirst (e : Engine σ) : List (Operation σ) → Prop
  | [] => True
  | op :: ops => (op.flushes = true → e.queue.scheduleRequested = false) ∧ (e.perform op).ReadsFirst ops

theorem reads_first_append (ops rest : List (Operation σ)) (e : Engine σ) :
    e.ReadsFirst (ops ++ rest) ↔ e.ReadsFirst ops ∧ (e.performAll ops).ReadsFirst rest := by
  induction ops generalizing e with
  | nil => simp [ReadsFirst, performAll, performAllTrace]
  | cons op ops ih =>
    rw [List.cons_append, ReadsFirst, ih (e.perform op), ReadsFirst, and_assoc]
    rfl

theorem InTime.handle {e : Engine σ} (h : e.InTime) (ev : Event)
    (hread : (Operation.step ev : Operation σ).flushes = true → e.queue.scheduleRequested = false) :
    (e.handle ev).1.InTime := by
  refine ⟨handle_coherent h.coherent ev, handle_woken_once h.coherent (fun _ => h.once) ?_⟩
  rintro rfl
  simp [hread rfl]

theorem InTime.perform {e : Engine σ} (h : e.InTime) {op : Operation σ}
    (hread : op.flushes = true → e.queue.scheduleRequested = false) : (e.perform op).InTime := by
  have prepared (hop : op.IsPreparation) : (e.perform op).InTime := by
    obtain ⟨hbegan, -⟩ := (e.preparation_marks_only_offers hop).inner
    have hsteps := e.perform_steps op
    exact ⟨hsteps.coherent h.coherent, hsteps.woken_once hbegan h.coherent h.once⟩
  cases op with
  | enqueue handler args => exact prepared trivial
  | submit p => exact prepared trivial
  | scan dir filter => exact prepared trivial
  | watchDir dir filter => exact prepared trivial
  | outside files hub => exact prepared trivial
  | flush => exact h.handle .flush hread
  | step ev =>
    have hhandled := h.handle ev hread
    change (e.step ev).1.InTime
    rcases hh : e.handle ev with ⟨e', err | keepRunning⟩ <;> rw [hh] at hhandled
    · rw [step_of_error hh]
      exact hhandled
    · rw [step_of_ok hh]
      exact hhandled.next_step keepRunning
  | nextStep keepRunning => exact h.next_step keepRunning

theorem InTime.perform_all {ops : List (Operation σ)} {e : Engine σ} (h : e.InTime) (hread : e.ReadsFirst ops) :
    (e.performAll ops).InTime := by
  induction ops generalizing e with
  | nil => exact h
  | cons op ops ih => exact ih (h.perform hread.1) hread.2

theorem InTime.scheduled {e : Engine σ} (h : e.InTime) {op : Operation σ}
    (hread : op.flushes = true → e.queue.scheduleRequested = false) (hasks : .scheduleFlush ∈ e.commands op) :
    (e.perform op).queue.pending ≠ [] := by
  cases op with
  | step ev =>
    have hhandled := h.handle ev hread
    change .scheduleFlush ∈ (match (e.step ev).2 with | .ok s => s.commands | .error _ => []) at hasks
    change (e.step ev).1.queue.pending ≠ []
    rcases hh : e.handle ev with ⟨e', err | keepRunning⟩ <;> rw [hh] at hhandled
    · rw [step_of_error hh] at hasks
      exact absurd hasks List.not_mem_nil
    · rw [step_of_ok hh] at hasks ⊢
      change (e'.nextStep keepRunning).1.queue.pending ≠ []
      rw [next_step_queue]
      exact hhandled.pending ((e'.next_step_commands keepRunning).mp hasks)
  | nextStep keepRunning =>
    change (e.nextStep keepRunning).1.queue.pending ≠ []
    rw [next_step_queue]
    exact h.pending ((e.next_step_commands keepRunning).mp hasks)
  | _ => exact absurd hasks List.not_mem_nil

/-- The request is found raised if and only if the queue was filled since it was last read. Unless a batch left it
behind, it is found while tasks wait, and once at most before the next batch; and an engine that reads it before each
flush schedules flushes for pending tasks only. -/
theorem schedule_request_one_shot :
    (∀ ops : List QueueOp,
      let q := TaskQueue.empty.performAll ops
      let unread := QueueStep.unread (TaskQueue.empty.history ops)
      (q.takeScheduleRequest.2 = true ↔ ∃ s ∈ unread, s.Fills) ∧
      ((¬∃ s ∈ unread, s.LeavesRequest) →
        (q.takeScheduleRequest.2 = true → q.pending ≠ []) ∧
        ∀ between : List QueueOp, (∀ op ∈ between, op.takesBatch = false) →
          QueueStep.requests (q.history between) ≤ 1)) ∧
    ∀ (e : Engine σ) (ops : List (Operation σ)) (op : Operation σ), e.IsNew → e.ReadsFirst (ops ++ [op]) →
      .scheduleFlush ∈ (e.performAll ops).commands op → ((e.performAll ops).perform op).queue.pending ≠ [] := by
  constructor
  · intro ops q unread
    have hrequests : q.Requests (TaskQueue.empty.history ops) := TaskQueue.requests_empty.perform_all ops
    refine ⟨hrequests.raised, fun hnone => ?_⟩
    have hpending : q.scheduleRequested = true → q.pending ≠ [] := fun hraised =>
      (hrequests.waits hraised).resolve_right hnone
    refine ⟨hpending, fun between hbetween => ?_⟩
    exact (TaskQueue.requests_between_batches hbetween hrequests.coherent).trans
      (TaskQueue.readings_left_le_one hpending)
  · intro e ops op hnew hread hasks
    obtain ⟨hops, hop, -⟩ := (reads_first_append ops [op] e).mp hread
    exact (hnew.in_time.perform_all hops).scheduled hop hasks

def relay : Engine Memory where
  settings := default
  world := { files := .new }
  handlers := ⟨[
    ("again", fun _ _ w => .offer w "again" []),
    ("once", fun _ _ w => .finish w (.ok ()))]⟩

theorem schedule_request_one_shot_again :
    let ops : List QueueOp :=
      [.enqueue "copy" [.text "a"], .takeScheduleRequest, .takeBatch, .enqueue "copy" [.text "b"]]
    let between : List QueueOp := [.takeScheduleRequest, .enqueue "copy" [.text "c"], .takeScheduleRequest]
    let again : List (Operation Memory) := [.enqueue "again" [], .nextStep true, .flush]
    (TaskQueue.empty.performAll ops).pending ≠ [] ∧
      QueueStep.requests ((TaskQueue.empty.performAll ops).history between) ≤ 1 ∧
      ((relay.performAll again).perform (.nextStep true)).queue.pending ≠ [] := by
  intro ops between again
  obtain ⟨hqueue, hengine⟩ := schedule_request_one_shot (σ := Memory)
  obtain ⟨-, htimely⟩ := hqueue ops
  have hnone : ¬∃ s ∈ QueueStep.unread (TaskQueue.empty.history ops), s.LeavesRequest := by
    unfold QueueStep.LeavesRequest
    decide +kernel
  obtain ⟨hpending, honce⟩ := htimely hnone
  refine ⟨hpending (by decide +kernel), honce between (by decide), ?_⟩
  refine hengine relay again _ ⟨rfl, rfl⟩ ?_ (by decide +kernel)
  exact ⟨by decide, by decide, fun _ => by decide +kernel, by decide, trivial⟩

/-- A batch that is taken first leaves the request. It is found raised although nothing waits, and once more
before the next batch. -/
theorem batch_leaves_request :
    let q := TaskQueue.empty.performAll [.enqueue "copy" [.text "a"], .takeBatch]
    let flushed := relay.performAll [.enqueue "once" [], .flush]
    (q.takeScheduleRequest.2 = true ∧ q.pending = []) ∧
      QueueStep.requests
        (q.history [.takeScheduleRequest, .enqueue "copy" [.text "b"], .takeScheduleRequest, .takeBatch]) = 2 ∧
      (flushed.nextStep true).2.commands = [.scheduleFlush] ∧ flushed.queue.pending = [] := by
  decide +kernel

end Engine

end BundleWatch
