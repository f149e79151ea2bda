import BundleWatch.Task.Mark
import BundleWatch.Task.Queue

/-!
# Histories of the queue

A history is a list of marks, and it leads from one state of the queue and of the batch under way to
another. What every history keeps holds of everything that touches the queue by marks only.
-/

set_option autoImplicit false

namespace BundleWatch

namespace Mark

def accepted (ms : List Mark) : List Task :=
  ms.filterMap fun
    | .offered t true => some t
    | _ => none

def executed (ms : List Mark) : List Task :=
  ms.filterMap fun
    | .ran t => some t
    | _ => none

def dropped (ms : List Mark) : List Task :=
  ms.flatMap fun
    | .gaveUp ts => ts
    | _ => []

def offers (ms : List Mark) : List Task :=
  ms.filterMap fun
    | .offered t _ => some t
    | _ => none

theorem mem_offers {ms : List Mark} {t : Task} :
    t ∈ offers ms ↔ ∃ isNew, .offered t isNew ∈ ms := by
  unfold offers
  rw [List.mem_filterMap]
  constructor
  · rintro ⟨m, hm, ht⟩
    cases m <;> simp at ht
    subst ht
    exact ⟨_, hm⟩
  · rintro ⟨isNew, hm⟩
    exact ⟨_, hm, rfl⟩

theorem offers_append (ms ns : List Mark) : offers (ms ++ ns) = offers ms ++ offers ns :=
  List.filterMap_append

theorem executed_append (ms ns : List Mark) : executed (ms ++ ns) = executed ms ++ executed ns :=
  List.filterMap_append

theorem dropped_append (ms ns : List Mark) : dropped (ms ++ ns) = dropped ms ++ dropped ns :=
  List.flatMap_append

def OnlyOffers (ms : List Mark) : Prop := ∀ m ∈ ms, ∃ t isNew, m = .offered t isNew

theorem OnlyOffers.nil : OnlyOffers [] := by simp [OnlyOffers]

theorem OnlyOffers.append {ms ns : List Mark} (h : OnlyOffers ms) (hn : OnlyOffers ns) :
    OnlyOffers (ms ++ ns) := by
  intro m hm
  rcases List.mem_append.mp hm with hm | hm
  · exact h m hm
  · exact hn m hm

theorem OnlyOffers.inner {ms : List Mark} (h : OnlyOffers ms) : .began ∉ ms ∧ .asked ∉ ms := by
  constructor <;> intro hm <;> obtain ⟨_, _, heq⟩ := h _ hm <;> simp at heq

theorem OnlyOffers.ran_nothing {ms : List Mark} (h : OnlyOffers ms) : executed ms = [] ∧ dropped ms = [] := by
  constructor
  · apply List.filterMap_eq_nil_iff.mpr
    intro m hm
    obtain ⟨t, isNew, rfl⟩ := h m hm
    rfl
  · apply List.flatMap_eq_nil_iff.mpr
    intro m hm
    obtain ⟨t, isNew, rfl⟩ := h m hm
    rfl

end Mark

structure Progress where
  queue : TaskQueue
  batch : List Task

namespace Progress

/-- What one mark means. A batch begins when none is under way, and its tasks run in their order. -/
inductive Step : Progress → Mark → Progress → Prop
  | offered (q : TaskQueue) (b : List Task) (t : Task) :
      Step ⟨q, b⟩ (.offered t (q.push t).2) ⟨(q.push t).1, b⟩
  | began (q : TaskQueue) : Step ⟨q, []⟩ .began ⟨q.takeBatch.1, q.takeBatch.2⟩
  | ran (q : TaskQueue) (t : Task) (b : List Task) : Step ⟨q, t :: b⟩ (.ran t) ⟨q.markRun, b⟩
  | gaveUp (q : TaskQueue) (t : Task) (b : List Task) :
      Step ⟨q, t :: b⟩ (.gaveUp (t :: b)) ⟨q, []⟩
  | asked (q : TaskQueue) (b : List Task) : Step ⟨q, b⟩ .asked ⟨q.takeScheduleRequest.1, b⟩

inductive Steps : Progress → List Mark → Progress → Prop
  | nil (s : Progress) : Steps s [] s
  | cons {s t u : Progress} {m : Mark} {ms : List Mark} :
      Step s m t → Steps t ms u → Steps s (m :: ms) u

theorem Step.steps {s t : Progress} {m : Mark} (h : Step s m t) : Steps s [m] t :=
  .cons h (.nil t)

theorem Steps.append {s t u : Progress} {ms ns : List Mark} (h : Steps s ms t)
    (hn : Steps t ns u) : Steps s (ms ++ ns) u := by
  induction h with
  | nil s => exact hn
  | cons hm _ ih => exact .cons hm (ih hn)

end Progress

namespace TaskQueue

/-! ## What an offer does -/

theorem push_old {q : TaskQueue} {t : Task} (h : t.id ∈ q.pendingIds) : q.push t = (q, false) :=
  if_pos h

theorem push_new {q : TaskQueue} {t : Task} (h : t.id ∉ q.pendingIds) :
    q.push t = ({ q with
      pending := q.pending ++ [t]
      pendingIds := q.pendingIds ++ [t.id]
      armed := true
      scheduleRequested := q.scheduleRequested || !q.armed
      enqueued := q.enqueued + 1 }, true) :=
  if_neg h

/-- The identities and the flag say what the pending tasks say. -/
structure Coherent (q : TaskQueue) : Prop where
  ids : q.pendingIds = q.pending.map (·.id)
  armed : q.armed = !q.pending.isEmpty

theorem coherent_empty : Coherent .empty := ⟨rfl, rfl⟩

theorem push_coherent {q : TaskQueue} (h : q.Coherent) (t : Task) : (q.push t).1.Coherent := by
  by_cases ht : t.id ∈ q.pendingIds
  · rw [push_old ht]
    exact h
  · rw [push_new ht]
    constructor
    · simp [h.ids]
    · simp

theorem push_pending {q : TaskQueue} (h : q.Coherent) (t : Task) :
    ∃ u ∈ (q.push t).1.pending, u.id = t.id := by
  by_cases ht : t.id ∈ q.pendingIds
  · rw [push_old ht]
    rw [h.ids] at ht
    obtain ⟨u, hu, hid⟩ := List.mem_map.mp ht
    exact ⟨u, hu, hid⟩
  · rw [push_new ht]
    exact ⟨t, by simp, rfl⟩

/-! ## Wake-ups

A flush is under way if it stands in the channel or if the request for it still stands. The number of
those in the channel is a parameter here. -/

def Woken (q : TaskQueue) (flushes : Nat) : Prop :=
  q.pending ≠ [] → 0 < flushes + q.scheduleRequested.toNat

def WokenOnce (q : TaskQueue) (flushes : Nat) : Prop :=
  flushes + q.scheduleRequested.toNat ≤ if q.pending = [] then 0 else 1

theorem push_woken {q : TaskQueue} {n : Nat} (hq : q.Coherent) (h : q.Woken n) (t : Task) :
    (q.push t).1.Woken n := by
  by_cases ht : t.id ∈ q.pendingIds
  · rw [push_old ht]
    exact h
  · rw [push_new ht]
    intro _
    by_cases hp : q.pending = []
    · simp [hq.armed, hp]
    · have ha : q.armed = true := by simp [hq.armed, hp]
      simpa [ha] using h hp

theorem push_woken_once {q : TaskQueue} {n : Nat} (hq : q.Coherent) (h : q.WokenOnce n)
    (t : Task) : (q.push t).1.WokenOnce n := by
  by_cases ht : t.id ∈ q.pendingIds
  · rw [push_old ht]
    exact h
  · rw [push_new ht]
    unfold WokenOnce at *
    by_cases hp : q.pending = []
    · simp only [hp, if_true] at h
      have hr : q.scheduleRequested = false := by
        cases hr : q.scheduleRequested <;> simp [hr] at h ⊢
      simp [hq.armed, hp, hr]
      omega
    · simp only [hp, if_false] at h
      have ha : q.armed = true := by simp [hq.armed, hp]
      simpa [ha] using h

end TaskQueue

namespace Progress

open TaskQueue

/-! ## What histories keep -/

theorem Step.coherent {s t : Progress} {m : Mark} (h : Step s m t) (hs : s.queue.Coherent) :
    t.queue.Coherent := by
  cases h with
  | offered q b t => exact push_coherent hs t
  | began q => exact ⟨rfl, rfl⟩
  | ran q t b => exact ⟨hs.ids, hs.armed⟩
  | gaveUp q t b => exact hs
  | asked q b => exact ⟨hs.ids, hs.armed⟩

theorem Steps.coherent {s t : Progress} {ms : List Mark} (h : Steps s ms t)
    (hs : s.queue.Coherent) : t.queue.Coherent := by
  induction h with
  | nil s => exact hs
  | cons hm _ ih => exact ih (hm.coherent hs)

/-- Only reading the request takes a wake-up away. -/
theorem Steps.woken {s t : Progress} {ms : List Mark} {n : Nat} (h : Steps s ms t)
    (hm : .asked ∉ ms) (hq : s.queue.Coherent) (hs : s.queue.Woken n) : t.queue.Woken n := by
  induction h with
  | nil s => exact hs
  | cons hstep _ ih =>
    refine ih (fun hi => hm (by simp [hi])) (hstep.coherent hq) ?_
    cases hstep with
    | offered q b t => exact push_woken hq hs t
    | began q => exact fun hp => absurd rfl hp
    | ran q t b => exact hs
    | gaveUp q t b => exact hs
    | asked q b => simp at hm

/-- Only a batch leaves fewer tasks pending than there are wake-ups. -/
theorem Steps.woken_once {s t : Progress} {ms : List Mark} {n : Nat} (h : Steps s ms t)
    (hm : .began ∉ ms) (hq : s.queue.Coherent) (hs : s.queue.WokenOnce n) :
    t.queue.WokenOnce n := by
  induction h with
  | nil s => exact hs
  | cons hstep _ ih =>
    refine ih (fun hi => hm (by simp [hi])) (hstep.coherent hq) ?_
    cases hstep with
    | offered q b t => exact push_woken_once hq hs t
    | began q => simp at hm
    | ran q t b => exact hs
    | gaveUp q t b => exact hs
    | asked q b => exact Nat.le_trans (Nat.add_le_add_left (Nat.zero_le _) n) hs

theorem Steps.pending_accepted {s t : Progress} {ms : List Mark} (h : Steps s ms t) (hm : .began ∉ ms) :
    t.queue.pending = s.queue.pending ++ Mark.accepted ms := by
  induction h with
  | nil s => simp [Mark.accepted]
  | cons hstep _ ih =>
    rw [ih fun hi => hm (by simp [hi])]
    cases hstep with
    | offered q b t =>
      by_cases ht : t.id ∈ q.pendingIds
      · simp [push_old ht, Mark.accepted]
      · simp [push_new ht, Mark.accepted]
    | began q => simp at hm
    | ran q t b => rfl
    | gaveUp q t b => rfl
    | asked q b => rfl

theorem Steps.pending_kept {s t : Progress} {ms : List Mark} (h : Steps s ms t) (hm : .began ∉ ms) :
    s.queue.pending <+: t.queue.pending :=
  ⟨_, (h.pending_accepted hm).symm⟩

theorem Steps.offered_pending {s t : Progress} {ms : List Mark} (h : Steps s ms t)
    (hm : .began ∉ ms) (hq : s.queue.Coherent) {u : Task} {isNew : Bool}
    (hu : .offered u isNew ∈ ms) : ∃ v ∈ t.queue.pending, v.id = u.id := by
  induction h with
  | nil s => simp at hu
  | cons hstep hrest ih =>
    have hm' := fun hi => hm (List.mem_cons_of_mem _ hi)
    rcases List.mem_cons.mp hu with hhead | htail
    · subst hhead
      cases hstep with
      | offered q b u =>
        obtain ⟨v, hv, hid⟩ := push_pending hq u
        exact ⟨v, (hrest.pending_kept hm').subset hv, hid⟩
    · exact ih hm' (hstep.coherent hq) htail

theorem Steps.pending_origin {s t : Progress} {ms : List Mark} (h : Steps s ms t) {u : Task}
    (hu : u ∈ t.queue.pending) : u ∈ s.queue.pending ∨ ∃ isNew, .offered u isNew ∈ ms := by
  induction h with
  | nil s => exact .inl hu
  | cons hstep _ ih =>
    rcases ih hu with hmid | ⟨isNew, hoff⟩
    · cases hstep with
      | offered q b t =>
        by_cases ht : t.id ∈ q.pendingIds
        · rw [push_old ht] at hmid
          exact .inl hmid
        · rw [push_new ht] at hmid ⊢
          rcases List.mem_append.mp hmid with hold | hnew
          · exact .inl hold
          · rw [List.mem_singleton.mp hnew]
            exact .inr ⟨true, by simp⟩
      | began q => simp [takeBatch] at hmid
      | ran q t b => exact .inl hmid
      | gaveUp q t b => exact .inl hmid
      | asked q b => exact .inl hmid
    · exact .inr ⟨isNew, List.mem_cons_of_mem _ hoff⟩

theorem Steps.counters {s t : Progress} {ms : List Mark} (h : Steps s ms t) :
    t.queue.enqueued = s.queue.enqueued + (Mark.accepted ms).length ∧
      t.queue.run = s.queue.run + (Mark.executed ms).length := by
  induction h with
  | nil s => simp [Mark.accepted, Mark.executed]
  | cons hstep _ ih =>
    rw [ih.1, ih.2]
    cases hstep with
    | offered q b t =>
      by_cases ht : t.id ∈ q.pendingIds
      · simp [push_old ht, Mark.accepted, Mark.executed]
      · simp [push_new ht, Mark.accepted, Mark.executed]
        omega
    | began q => simp [Mark.accepted, Mark.executed, takeBatch]
    | ran q t b =>
      simp [Mark.accepted, Mark.executed, markRun]
      omega
    | gaveUp q t b => simp [Mark.accepted, Mark.executed]
    | asked q b => simp [Mark.accepted, Mark.executed, takeScheduleRequest]

end Progress

end BundleWatch
