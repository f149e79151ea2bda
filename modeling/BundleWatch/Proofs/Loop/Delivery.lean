import BundleWatch.Proofs.Loop.WakeUp
import BundleWatch.Proofs.Task.Identity

/-!
# Delivery of changes

A change of a file has rules offer tasks. Whatever the queue answered, each of these tasks is run by a
later flush, or it is pending and a flush waits in the channel. Identities are forgotten when a batch
begins, so a change that arrives while its own task runs is not mistaken for an old one.
-/

set_option autoImplicit false

namespace BundleWatch

variable {σ : Type}

namespace Engine

variable [FileSystem σ]

theorem flush_ran {e : Engine σ} {keepRunning : Bool} (h : (e.handle .flush).2 = .ok keepRunning) :
    ∀ t ∈ e.queue.pending, .ran t ∈ e.handleMarks .flush := by
  intro t ht
  rw [handle_marks_flush, flush_marks]
  exact List.mem_cons_of_mem _ (batch_ran _ _ _ _ _ (flush_done h) t ht)

end Engine

namespace Loop

/-- The tasks that a run has met: pending at its start, or offered by an event. -/
def seen (e : Engine σ) (h : List Handled) : List Task :=
  e.queue.pending ++ h.flatMap fun x => Mark.offers x.marks

theorem seen_concat (e : Engine σ) (h : List Handled) (x : Handled) :
    seen e (h ++ [x]) = seen e h ++ Mark.offers x.marks := by
  simp [seen]

variable [FileSystem σ] {may : Sender σ} {e : Engine σ}

theorem Run.pending_seen {l : Loop σ} {h : List Handled} (hrun : Run may e l h) :
    l.engine.queue.pending ⊆ seen e h := by
  induction hrun with
  | start _ =>
    rw [start_eq]
    exact List.subset_append_left _ _
  | post _ _ ih => exact ih
  | outside files hub _ ih => exact ih
  | @receive l h ev rest arrivals _ hrunning hc _ ih =>
    intro t ht
    rw [advance_pending arrivals hrunning hc] at ht
    rw [seen_concat]
    rcases (l.engine.handle_steps ev).pending_origin ht with hold | hoff
    · exact List.mem_append_left _ (ih hold)
    · refine List.mem_append_right _ ?_
      rw [Engine.offers_step_marks]
      exact Mark.mem_offers.mpr hoff

/-- An event other than a flush leaves all that it offers pending, if no two tasks of the run share an
identity. -/
theorem offered_pending {l : Loop σ} {ev : Event} {h : List Handled} {t : Task}
    (hev : ev ≠ .flush) (hq : l.engine.queue.Coherent)
    (hapart : Task.Apart (seen e (h ++ [⟨ev, l.engine.stepMarks ev⟩])))
    (hseen : (l.engine.handle ev).1.queue.pending ⊆ seen e (h ++ [⟨ev, l.engine.stepMarks ev⟩]))
    (ht : t ∈ Mark.offers (l.engine.stepMarks ev)) :
    t ∈ (l.engine.handle ev).1.queue.pending := by
  have hin : t ∈ seen e (h ++ [⟨ev, l.engine.stepMarks ev⟩]) := by
    rw [seen_concat]
    exact List.mem_append_right _ ht
  rw [Engine.offers_step_marks] at ht
  obtain ⟨isNew, hoff⟩ := Mark.mem_offers.mp ht
  obtain ⟨u, hu, hid⟩ := (l.engine.handle_steps ev).offered_pending
    (l.engine.handle_marks_only_offers hev).inner.1 hq hoff
  rw [hapart.eq hin (hseen hu) hid.symm]
  exact hu

theorem pending_kept {l : Loop σ} {ev : Event} {keepRunning : Bool}
    (hok : (l.engine.handle ev).2 = .ok keepRunning) {t : Task} (ht : t ∈ l.engine.queue.pending) :
    (ev = .flush ∧ .ran t ∈ l.engine.stepMarks ev) ∨ t ∈ (l.engine.handle ev).1.queue.pending := by
  by_cases hev : ev = .flush
  · subst hev
    exact .inl ⟨rfl, (Engine.mem_step_marks Mark.noConfusion).mpr (Engine.flush_ran hok t ht)⟩
  · have hkept := (l.engine.handle_steps ev).pending_kept (l.engine.handle_marks_only_offers hev).inner.1
    exact .inr (hkept.subset ht)

theorem Run.offered_ran_or_pending {l : Loop σ} {h : List Handled} (hrun : Run may e l h)
    (he : e.Prepared) (hl : l.status = .running) (hapart : Task.Apart (seen e h))
    {before after : List Handled} {x : Handled} (hsplit : h = before ++ x :: after)
    (hx : x.event ≠ .flush) {t : Task} (ht : t ∈ Mark.offers x.marks) :
    (∃ y ∈ after, y.event = .flush ∧ .ran t ∈ y.marks) ∨ t ∈ l.engine.queue.pending := by
  induction hrun generalizing before after with
  | start _ => simp at hsplit
  | post _ _ ih => exact ih hl hapart hsplit
  | outside files hub _ ih => exact ih hl hapart hsplit
  | @receive l h ev rest arrivals hrun hrunning hc hsent ih =>
    have hseen := (Run.receive hrun hrunning hc hsent).pending_seen
    rw [advance_pending arrivals hrunning hc] at hseen ⊢
    rcases advance_cases arrivals hrunning hc with ⟨err, _, heq⟩ | ⟨keepRunning, hok, _⟩
    · rw [heq] at hl
      simp at hl
    · rcases List.eq_nil_or_concat after with rfl | ⟨after, y, rfl⟩
      · -- the event that was just handled
        obtain ⟨rfl, hlast⟩ := List.append_inj' hsplit rfl
        obtain rfl := List.singleton_inj.mp hlast
        exact .inr (offered_pending hx (hrun.alert he hrunning).coherent hapart hseen ht)
      · -- an earlier event
        rw [List.concat_eq_append, ← List.cons_append, ← List.append_assoc] at hsplit
        obtain ⟨rfl, hlast⟩ := List.append_inj' hsplit rfl
        obtain rfl := List.singleton_inj.mp hlast
        have hearlier := hapart.mono (by rw [seen_concat]; exact List.subset_append_left _ _)
        rcases ih hrunning hearlier rfl with ⟨z, hz, hran⟩ | hpending
        · exact .inl ⟨z, by simp [hz], hran⟩
        · rcases pending_kept hok hpending with hran | hkept
          · exact .inl ⟨⟨ev, l.engine.stepMarks ev⟩, by simp, hran⟩
          · exact .inr hkept

/-- No change is lost to deduplication. Take any change that the loop has handled and any task that one
of its rules offered, whether the queue accepted it or not. Whenever the loop is about to receive, the
task was run by a flush that was handled after the change, or it is pending and a flush is in the
channel. -/
theorem change_reaches_flush {l : Loop σ} {h : List Handled} (he : e.Prepared)
    (hrun : Run may e l h) (hl : l.status = .running) (hapart : Task.Apart (seen e h))
    {before after : List Handled} {x : Handled} (hsplit : h = before ++ x :: after)
    {watch : WatchId} {p : Path} (hx : x.event = .pathChanged watch p) {t : Task} {isNew : Bool}
    (ht : .offered t isNew ∈ x.marks) :
    (∃ y ∈ after, y.event = .flush ∧ .ran t ∈ y.marks) ∨
      (t ∈ l.engine.queue.pending ∧ .flush ∈ l.channel) := by
  have hne : x.event ≠ .flush := by simp [hx]
  have hoff : t ∈ Mark.offers x.marks := Mark.mem_offers.mpr ⟨isNew, ht⟩
  rcases hrun.offered_ran_or_pending he hl hapart hsplit hne hoff with hran | hpending
  · exact .inl hran
  · have ha := hrun.alert he hl
    have hw := ha.woken (List.ne_nil_of_mem hpending)
    rw [ha.lowered] at hw
    exact .inr ⟨hpending, List.count_pos_iff.mp hw⟩

def burstFlushed : Loop Memory := (burst.advance.advance.postAll [.touched]).advance

def flushOfBurst : Handled := ⟨.flush, burst.advance.advance.engine.stepMarks .flush⟩

theorem burst_flushed_run :
    Run .noFlush .watching burstFlushed (burstHistory ++ [flushOfBurst]) := by
  have hready : burst.advance.advance.status = .running ∧
      burst.advance.advance.channel = [.flush] := by decide +kernel
  exact burst_run.receive hready.1 hready.2 ⟨Event.noConfusion, trivial⟩

theorem burst_apart : Task.Apart (seen .watching (burstHistory ++ [flushOfBurst])) := by
  have hseen : seen .watching (burstHistory ++ [flushOfBurst]) =
      [.new "touch" [], .new "touch" []] := by decide +kernel
  rw [hseen]
  refine ⟨?_, by simp⟩
  intro t ht
  obtain rfl : t = .new "touch" [] := by simpa using ht
  have hsized : (Bytes.ofText "touch").length < 2 ^ 64 := by decide +kernel
  exact ⟨hsized, by decide, by simp [Task.new]⟩

/-- The queue refused the task of the second change, and the flush behind it ran that task. -/
theorem change_reaches_flush_burst :
    Engine.watching.Prepared ∧
      Run .noFlush .watching burstFlushed (burstHistory ++ [flushOfBurst]) ∧
      burstFlushed.status = .running ∧
      Mark.offered (.new "touch" []) false ∈ burst.advance.engine.stepMarks .touched ∧
      Mark.ran (.new "touch" []) ∈ flushOfBurst.marks := by
  have he : Engine.watching.Prepared := ⟨.watching, [], ⟨rfl, rfl⟩, by simp, rfl⟩
  obtain ⟨hl, hnone⟩ : burstFlushed.status = .running ∧
      burstFlushed.engine.queue.pending = [] := by decide +kernel
  have hoffered : Mark.offered (.new "touch" []) false ∈ burst.advance.engine.stepMarks .touched := by
    decide +kernel
  have hsplit : burstHistory ++ [flushOfBurst] =
      [⟨.touched, burst.engine.stepMarks .touched⟩] ++
        ⟨.touched, burst.advance.engine.stepMarks .touched⟩ :: [flushOfBurst] := rfl
  have hreach := change_reaches_flush he burst_flushed_run hl burst_apart hsplit rfl hoffered
  rcases hreach with ⟨y, hy, -, hran⟩ | ⟨hpending, -⟩
  · obtain rfl := List.mem_singleton.mp hy
    exact ⟨he, burst_flushed_run, hl, hoffered, hran⟩
  · rw [hnone] at hpending
    exact absurd hpending List.not_mem_nil

end Loop

end BundleWatch
