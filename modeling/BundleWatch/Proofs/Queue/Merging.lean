import BundleWatch.Proofs.List.Repetition
import BundleWatch.Proofs.Queue.History
import BundleWatch.Proofs.Task.Identity

/-!
# Merging

Between two batches the queue holds the first task of each identity that was offered, in the order in which
the tasks were offered. Where the digest tells the offered tasks apart, it drops repetitions and nothing else.
-/

set_option autoImplicit false

namespace BundleWatch

namespace Task

def firsts : List Task → List Task
  | [] => []
  | t :: ts => t :: (firsts ts).filter (·.id ≠ t.id)

theorem firsts_concat (ts : List Task) (t : Task) :
    firsts (ts ++ [t]) = if t.id ∈ ts.map (·.id) then firsts ts else firsts ts ++ [t] := by
  induction ts with
  | nil => simp [firsts]
  | cons s ts ih =>
    rw [List.cons_append, firsts, ih, firsts, List.map_cons]
    by_cases hs : t.id = s.id
    · have hin : t.id ∈ s.id :: ts.map (·.id) := hs ▸ List.mem_cons_self
      rw [if_pos hin]
      split <;> simp [hs]
    · by_cases ht : t.id ∈ ts.map (·.id)
      · rw [if_pos ht, if_pos (List.mem_cons_of_mem _ ht)]
      · have hout : t.id ∉ s.id :: ts.map (·.id) := by
          rw [List.mem_cons]
          exact not_or.mpr ⟨hs, ht⟩
        rw [if_neg ht, if_neg hout]
        simp [hs]

theorem firsts_ids (ts : List Task) (i : TaskId) :
    i ∈ (firsts ts).map (·.id) ↔ i ∈ ts.map (·.id) := by
  induction ts with
  | nil => rfl
  | cons t ts ih =>
    rw [firsts, List.map_cons, List.map_cons, List.mem_cons, List.mem_cons, ← ih]
    refine or_congr_right' fun hi => ?_
    simp only [List.mem_map, List.mem_filter, decide_eq_true_eq]
    constructor
    · rintro ⟨u, ⟨hu, -⟩, rfl⟩
      exact ⟨u, hu, rfl⟩
    · rintro ⟨u, hu, rfl⟩
      exact ⟨u, ⟨hu, hi⟩, rfl⟩

theorem firsts_prefix (ts us : List Task) : firsts ts <+: firsts (ts ++ us) := by
  induction us using List.reverseRecOn with
  | nil => simp
  | append_singleton us u ih =>
    rw [← List.append_assoc, firsts_concat]
    split
    · exact ih
    · exact ih.trans (List.prefix_append _ _)

theorem firsts_eq_erase_dups {ts : List Task} (h : Apart ts) : firsts ts = ts.eraseDups := by
  induction ts using List.reverseRecOn with
  | nil => rfl
  | append_singleton ts t ih =>
    have hmem : t.id ∈ ts.map (·.id) ↔ t ∈ ts := by
      rw [List.mem_map]
      constructor
      · rintro ⟨u, hu, hid⟩
        rwa [h.eq (by simp) (by simp [hu]) hid.symm]
      · exact fun ht => ⟨t, ht, rfl⟩
    rw [firsts_concat, erase_dups_concat, ih (h.mono (List.subset_append_left _ _))]
    simp only [hmem]

end Task

namespace TaskQueue

structure Collects (q : TaskQueue) (ts : List Task) : Prop where
  coherent : q.Coherent
  pending : q.pending = Task.firsts ts

theorem Collects.push {q : TaskQueue} {ts : List Task} (h : q.Collects ts) (t : Task) :
    (q.push t).1.Collects (ts ++ [t]) := by
  refine ⟨push_coherent h.coherent t, ?_⟩
  have hids : t.id ∈ q.pendingIds ↔ t.id ∈ ts.map (·.id) := by
    rw [h.coherent.ids, h.pending, Task.firsts_ids]
  rw [Task.firsts_concat]
  by_cases ht : t.id ∈ ts.map (·.id)
  · rw [push_old (hids.mpr ht), if_pos ht, h.pending]
  · rw [push_new fun hin => ht (hids.mp hin), if_neg ht, ← h.pending]

structure Merges (q : TaskQueue) (ts : List Task) : Prop where
  coherent : q.Coherent
  pending : q.pending = ts.eraseDups

end TaskQueue

namespace Progress

open TaskQueue

theorem Steps.collects {s t : Progress} {ms : List Mark} (h : Steps s ms t) (hm : .began ∉ ms)
    {ts : List Task} (hs : s.queue.Collects ts) : t.queue.Collects (ts ++ Mark.offers ms) := by
  induction h generalizing ts with
  | nil s => simpa [Mark.offers] using hs
  | @cons s t u m ms hstep _ ih =>
    have hsplit : ts ++ Mark.offers (m :: ms) = ts ++ Mark.offers [m] ++ Mark.offers ms := by
      rw [List.append_assoc, ← Mark.offers_append, List.singleton_append]
    rw [hsplit]
    refine ih (fun hi => hm (List.mem_cons_of_mem _ hi)) ?_
    cases hstep with
    | offered q b u => exact hs.push u
    | began q => exact absurd List.mem_cons_self hm
    | ran q u b => simpa [Mark.offers] using ⟨⟨hs.coherent.ids, hs.coherent.armed⟩, hs.pending⟩
    | gaveUp q u b => simpa [Mark.offers] using hs
    | asked q b => simpa [Mark.offers] using ⟨⟨hs.coherent.ids, hs.coherent.armed⟩, hs.pending⟩

theorem Steps.merges {s t : Progress} {ms : List Mark} (h : Steps s ms t) (hm : .began ∉ ms)
    {ts : List Task} (hs : s.queue.Merges ts) (hapart : Task.Apart (ts ++ Mark.offers ms)) :
    t.queue.Merges (ts ++ Mark.offers ms) := by
  have hbefore := Task.firsts_eq_erase_dups (hapart.mono (List.subset_append_left _ _))
  have hcollects := h.collects hm ⟨hs.coherent, hs.pending.trans hbefore.symm⟩
  exact ⟨hcollects.coherent, hcollects.pending.trans (Task.firsts_eq_erase_dups hapart)⟩

/-- Until the next batch begins, an offered task is accepted once, and only if it is not pending. -/
theorem Steps.accepted_fresh {s t : Progress} {ms : List Mark} (h : Steps s ms t) (hm : .began ∉ ms)
    (hs : s.queue.Coherent) (hapart : Task.Apart (s.queue.pending ++ Mark.offers ms)) :
    Mark.accepted ms = (Mark.offers ms).eraseDups.filter (· ∉ s.queue.pending) := by
  induction h with
  | nil s => rfl
  | @cons s t u m ms hstep _ ih =>
    have hrest := ih (fun hi => hm (List.mem_cons_of_mem _ hi)) (hstep.coherent hs)
    cases hstep with
    | offered q b u =>
      have hoffers : ∀ isNew, Mark.offers (.offered u isNew :: ms) = u :: Mark.offers ms := fun _ => rfl
      rw [hoffers] at hapart ⊢
      rw [erase_dups_cons_fresh]
      have hid : u.id ∈ q.pendingIds ↔ u ∈ q.pending := by
        rw [hs.ids, List.mem_map]
        constructor
        · rintro ⟨v, hv, heq⟩
          rwa [hapart.eq (by simp) (by simp [hv]) heq.symm]
        · exact fun hu => ⟨u, hu, rfl⟩
      by_cases hu : u ∈ q.pending
      · rw [push_old (hid.mpr hu)] at hrest ⊢
        rw [if_pos hu]
        exact hrest (hapart.mono (by simp))
      · rw [push_new fun hin => hu (hid.mp hin)] at hrest ⊢
        rw [if_neg hu]
        refine congrArg (u :: ·) (hrest (hapart.mono ?_))
        simp
    | began q => exact absurd List.mem_cons_self hm
    | ran q u b => exact hrest hapart
    | gaveUp q u b => exact hrest hapart
    | asked q b => exact hrest hapart

end Progress

end BundleWatch
