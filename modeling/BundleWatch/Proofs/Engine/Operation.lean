import BundleWatch.Proofs.Engine.History

/-!
# Operations of the engine

What can be done to an engine from outside, one operation after the other.
A new engine has nothing pending and runs no tool. Before the loop starts an engine is only prepared:
tasks are queued, files submitted, directories scanned and watched, but nothing is flushed.
-/

set_option autoImplicit false

namespace BundleWatch

open Progress

inductive Operation (σ : Type)
  | enqueue (handler : String) (args : List Arg)
  | submit (p : Path)
  | scan (dir : Path) (filter : Option Pattern)
  | watchDir (dir : Path) (filter : Option Pattern)
  /-- Files change and clients come to their mailboxes without the engine. -/
  | outside (files : σ → σ) (hub : Hub → Hub)
  | flush
  | step (ev : Event)
  | nextStep (keepRunning : Bool)

def Operation.IsPreparation {σ : Type} : Operation σ → Prop
  | .flush | .step _ | .nextStep _ => False
  | _ => True

namespace Engine

variable {σ : Type}

def disturb (e : Engine σ) (files : σ → σ) (hub : Hub → Hub) : Engine σ :=
  { e with world := { e.world with files := files e.world.files, hub := hub e.world.hub } }

def IsNew (e : Engine σ) : Prop := e.queue = .empty ∧ e.world.processes = .empty

variable [FileSystem σ]

/-- The engine after an operation, whatever came of it. -/
def performTrace (e : Engine σ) : Operation σ → Traced (Engine σ)
  | .enqueue handler args => Prod.fst <$> e.enqueueTrace handler args
  | .submit p => Prod.fst <$> e.submitTrace p
  | .scan dir filter => Prod.fst <$> e.scanTrace dir filter
  | .watchDir dir filter => pure (e.watchDir dir filter).1
  | .outside files hub => pure (e.disturb files hub)
  | .flush => Prod.fst <$> e.flushTrace
  | .step ev => Prod.fst <$> e.stepTrace ev
  | .nextStep keepRunning => Prod.fst <$> e.nextStepTrace keepRunning

def perform (e : Engine σ) (op : Operation σ) : Engine σ := (e.performTrace op).value

def performMarks (e : Engine σ) (op : Operation σ) : List Mark := (e.performTrace op).marks

def performAllTrace (e : Engine σ) : List (Operation σ) → Traced (Engine σ)
  | [] => pure e
  | op :: ops => do
    let e ← e.performTrace op
    e.performAllTrace ops

def performAll (e : Engine σ) (ops : List (Operation σ)) : Engine σ := (e.performAllTrace ops).value

def performAllMarks (e : Engine σ) (ops : List (Operation σ)) : List Mark := (e.performAllTrace ops).marks

theorem perform_all_marks_cons (e : Engine σ) (op : Operation σ) (ops : List (Operation σ)) :
    e.performAllMarks (op :: ops) = e.performMarks op ++ (e.perform op).performAllMarks ops := rfl

theorem perform_steps (e : Engine σ) (op : Operation σ) :
    Steps ⟨e.queue, []⟩ (e.performMarks op) ⟨(e.perform op).queue, []⟩ := by
  cases op with
  | enqueue handler args => exact (Step.offered e.queue [] (.new handler args)).steps
  | submit p => exact e.submit_steps p []
  | scan dir filter => exact e.scan_steps dir filter []
  | watchDir dir filter =>
    change Steps _ [] ⟨(e.watchDir dir filter).1.queue, []⟩
    rw [watch_dir_queue]
    exact .nil _
  | outside files hub => exact .nil _
  | flush => exact e.flush_steps
  | step ev => exact e.step_steps ev
  | nextStep keepRunning =>
    change Steps _ (e.nextStepMarks keepRunning) ⟨(e.nextStep keepRunning).1.queue, []⟩
    rw [next_step_marks, next_step_queue]
    exact (Step.asked e.queue []).steps

theorem perform_all_steps (ops : List (Operation σ)) (e : Engine σ) :
    Steps ⟨e.queue, []⟩ (e.performAllMarks ops) ⟨(e.performAll ops).queue, []⟩ := by
  induction ops generalizing e with
  | nil => exact .nil _
  | cons op ops ih => exact (e.perform_steps op).append (ih (e.perform op))

def Prepared (e : Engine σ) : Prop :=
  ∃ (new : Engine σ) (ops : List (Operation σ)),
    new.IsNew ∧ (∀ op ∈ ops, op.IsPreparation) ∧ e = new.performAll ops

theorem preparation_marks_only_offers (e : Engine σ) {op : Operation σ} (hop : op.IsPreparation) :
    Mark.OnlyOffers (e.performMarks op) := by
  cases op with
  | enqueue handler args => exact fun m hm => ⟨_, _, List.mem_singleton.mp hm⟩
  | submit p => exact e.submit_marks_only_offers p
  | scan dir filter => exact e.scan_marks_only_offers dir filter
  | watchDir dir filter => exact .nil
  | outside files hub => exact .nil
  | flush => exact hop.elim
  | step ev => exact hop.elim
  | nextStep keepRunning => exact hop.elim

theorem preparations_marks_only_offers (ops : List (Operation σ)) (e : Engine σ)
    (hops : ∀ op ∈ ops, op.IsPreparation) : Mark.OnlyOffers (e.performAllMarks ops) := by
  induction ops generalizing e with
  | nil => exact .nil
  | cons op ops ih =>
    have hfirst := e.preparation_marks_only_offers (hops op (by simp))
    exact hfirst.append (ih (e.perform op) fun o ho => hops o (by simp [ho]))

/-- Before the loop starts no flush stands in the channel, and one is asked for if and only if tasks
are pending. -/
theorem Prepared.scheduled {e : Engine σ} (h : e.Prepared) :
    e.queue.Coherent ∧ e.queue.Woken 0 ∧ e.queue.WokenOnce 0 := by
  obtain ⟨new, ops, ⟨hq, -⟩, hops, rfl⟩ := h
  have hs := perform_all_steps ops new
  have hc : new.queue.Coherent := hq ▸ TaskQueue.coherent_empty
  obtain ⟨hbegan, hasked⟩ := (preparations_marks_only_offers ops new hops).inner
  refine ⟨hs.coherent hc, hs.woken hasked hc ?_, hs.woken_once hbegan hc ?_⟩
  · intro hp
    exact absurd (by rw [hq]; rfl) hp
  · simp [TaskQueue.WokenOnce, hq, TaskQueue.empty]

end Engine

end BundleWatch
