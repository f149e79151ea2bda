import BundleWatch.Proofs.Engine.Meaning
import BundleWatch.Proofs.Watch.Reach

/-!
# Scanning again

The first scan of a directory leaves it watched, and everything that the rules offer for its files is pending. A
second scan offers the same tasks for the same files, and each of them is an offer of a task that waits.
-/

set_option autoImplicit false

namespace BundleWatch

open Progress

/-- Once a directory has its watch, asking for it again changes nothing, whatever the filter. -/
theorem WatchRegistry.register_again {ω : Type} {r r' : WatchRegistry} {backend : WatchBackend ω} {dir : Path}
    {filter : Option Pattern} {s s' : ω} {id : Option WatchId} (h : r.register backend dir filter s = (r', s', .ok id))
    (filter' : Option Pattern) (s'' : ω) :
    r'.register backend dir filter' s'' = (r', s'', .ok id) := by
  unfold register at h
  split at h
  · next hoff =>
    cases h
    rw [register, if_pos hoff]
  · next hon =>
    split at h
    · next i hfind =>
      cases h
      simp only [register, if_neg hon, hfind]
    · simp only [] at h
      split at h
      · cases h
        have hfind : (r.add r.registrations.length dir filter).find? dir = some r.registrations.length := by
          simp [find?, add, Path.Same]
        simp only [register, hfind]
        exact if_neg hon
      · cases h

theorem TaskQueue.push_knows (q : TaskQueue) (t : Task) :
    q.pendingIds ⊆ (q.push t).1.pendingIds ∧ t.id ∈ (q.push t).1.pendingIds := by
  by_cases ht : t.id ∈ q.pendingIds
  · rw [push_old ht]
    exact ⟨List.Subset.refl _, ht⟩
  · rw [push_new ht]
    exact ⟨List.subset_append_left _ _, by simp⟩

/-- As long as only tasks are offered, the queue knows the identity of each of them. -/
theorem Progress.Steps.offers_known {s t : Progress} {ms : List Mark} (h : Steps s ms t)
    (honly : Mark.OnlyOffers ms) :
    s.queue.pendingIds ⊆ t.queue.pendingIds ∧ ∀ u ∈ Mark.offers ms, u.id ∈ t.queue.pendingIds := by
  induction h with
  | nil s => exact ⟨List.Subset.refl _, fun u hu => absurd hu List.not_mem_nil⟩
  | cons hstep _ ih =>
    obtain ⟨u, isNew, rfl⟩ := honly _ List.mem_cons_self
    obtain ⟨hkept, hlater⟩ := ih fun m hm => honly m (List.mem_cons_of_mem _ hm)
    cases hstep with
    | offered q b u =>
      obtain ⟨hold, hnew⟩ := q.push_knows u
      refine ⟨List.Subset.trans hold hkept, fun v hv => ?_⟩
      rcases List.mem_cons.mp hv with rfl | hv
      · exact hkept hnew
      · exact hlater v hv

theorem Work.offering_known {ω : Type} (w : ω) {t? : Option Task} {q : TaskQueue}
    (h : ∀ t ∈ t?, t.id ∈ q.pendingIds) : (offering w t?).run q = (q, w, .ok ()) := by
  rcases t? with _ | t
  · rfl
  · rw [offering, run, trace, TaskQueue.push_old (h t rfl)]
    rfl

theorem RuleTable.fire_known {specs : List RuleSpec} {rules : RuleTable}
    (h : List.Forall₂ RuleSpec.Realizes specs rules) (settings : Settings) (place : Path → Option Path) (path : Path)
    (rel : String) {q : TaskQueue} (j : Journal)
    (hknown : ∀ t ∈ specs.filterMap fun r => r.offer? settings place path rel, t.id ∈ q.pendingIds) :
    fire settings place path rel (hits rules rel) q j = (q, j, .ok (hits rules rel).length) := by
  induction h with
  | nil => rfl
  | @cons spec rule specs rules hrule _ ih =>
    have hrest := ih fun t ht => hknown t <| by
      obtain ⟨r, hr, hoffer⟩ := List.mem_filterMap.mp ht
      exact List.mem_filterMap.mpr ⟨r, List.mem_cons_of_mem _ hr, hoffer⟩
    rw [hits_cons]
    rcases hm : rule.pattern.fullMatch? rel with _ | m
    · simpa using hrest
    · have hoffered : ∀ t ∈ spec.task? settings ⟨path, rel, m.capture, place⟩, t.id ∈ q.pendingIds := by
        intro t ht
        apply hknown t
        refine List.mem_filterMap.mpr ⟨spec, List.mem_cons_self, ?_⟩
        rw [RuleSpec.offer?, hrule.pattern]
        simpa [hm] using ht
      simp only [Option.map_some, Option.toList_some, List.singleton_append, List.length_cons]
      have hrun := Work.offering_known j hoffered
      rw [← hrule.act] at hrun
      rw [(fire_goes_on hrun _).1, hrest]
      rfl

namespace Engine

variable {σ : Type} [FileSystem σ] {c : Config} {e : Engine σ}

theorem submit_known (hrules : List.Forall₂ RuleSpec.Realizes c.activeRules e.rules) {p : Path}
    (hknown : ∀ t ∈ c.tasksFor e.settings (FileSystem.place e.world.files) p, t.id ∈ e.queue.pendingIds) :
    (e.submit p).1 = e := by
  unfold Config.tasksFor at hknown
  rcases hrel : Path.relativeTo? (FileSystem.place e.world.files) e.settings.root p with _ | rel
  · rw [(submit_outside hrel).1]
  · rw [hrel] at hknown
    rw [(submit_inside hrel (RuleTable.fire_known hrules e.settings _ p rel e.world.journal hknown)).1]
    rfl

theorem submit_all_known (hrules : List.Forall₂ RuleSpec.Realizes c.activeRules e.rules) {ps : List Path}
    (hknown : ∀ t ∈ ps.flatMap (c.tasksFor e.settings (FileSystem.place e.world.files)),
      t.id ∈ e.queue.pendingIds) :
    (e.submitAll ps).1 = e := by
  induction ps with
  | nil => rfl
  | cons p ps ih =>
    rw [List.flatMap_cons] at hknown
    have hfirst := submit_known hrules fun t ht => hknown t (List.mem_append_left _ ht)
    have hrest := ih fun t ht => hknown t (List.mem_append_right _ ht)
    rcases hs : e.submit p with ⟨e', err | n⟩ <;> rw [hs] at hfirst
    · rw [(submit_all_of_error hs ps).1]
      exact hfirst
    · rw [(submit_all_of_ok hs ps).1]
      obtain rfl : e' = e := hfirst
      exact hrest

theorem submit_all_offers (hrules : List.Forall₂ RuleSpec.Realizes c.activeRules e.rules) (ps : List Path) :
    Mark.offers (e.submitAllMarks ps) = ps.flatMap (c.tasksFor e.settings (FileSystem.place e.world.files)) := by
  induction ps generalizing e with
  | nil => rfl
  | cons p ps ih =>
    obtain ⟨hanswer, hoffers⟩ := submit_means hrules p
    obtain ⟨q, j, hframe⟩ := e.submit_frame p
    rcases hs : e.submit p with ⟨e', done⟩
    rw [hs] at hanswer hframe
    obtain rfl : done = _ := hanswer
    obtain rfl : e' = { e with queue := q }.setJournal j := hframe
    rw [(submit_all_of_ok hs ps).2, Mark.offers_append, hoffers, List.flatMap_cons]
    exact congrArg _ (ih hrules)

theorem submit_all_again (hrules : List.Forall₂ RuleSpec.Realizes c.activeRules e.rules) (ps : List Path) :
    (e.submitAll ps).1.submitAll ps = ((e.submitAll ps).1, .ok ()) := by
  obtain ⟨q, j, hframe⟩ := e.submit_all_frame ps
  have hrules' : List.Forall₂ RuleSpec.Realizes c.activeRules (e.submitAll ps).1.rules := by rwa [hframe]
  have hoffers := submit_all_offers hrules ps
  obtain ⟨-, hknown⟩ := (submit_all_steps ps e []).offers_known (submit_all_marks_only_offers ps e)
  refine Prod.ext (submit_all_known hrules' fun t ht => hknown t ?_)
    (submit_all_ok (project_rules_never_fail hrules') ps)
  rw [hoffers]
  rwa [hframe] at ht

theorem watch_dir_again {e₁ e' : Engine σ} {dir : Path} {filter : Option Pattern} {id : Option WatchId}
    (h : e.watchDir dir filter = (e₁, .ok id)) (hbackend : e'.backend = e.backend)
    (hfiles : e'.world.files = e.world.files) (hwatches : e'.watches = e₁.watches) :
    e'.watchDir dir filter = (e', .ok id) := by
  unfold watchDir at h ⊢
  rw [hfiles]
  split at h
  · next hdir =>
    cases h
    rw [if_pos hdir]
  · next hdir =>
    rw [if_neg hdir]
    rcases hregister : e.watches.register e.backend dir filter e.world.journal with ⟨r, j, f | id'⟩
    · rw [hregister] at h
      cases h
    · rw [hregister] at h
      cases h
      have hr : e'.watches = r := hwatches
      have hagain := WatchRegistry.register_again hregister filter e'.world.journal
      rw [← hr, ← hbackend] at hagain
      rw [hagain]
      rfl

theorem scan_ok {dir : Path} {filter : Option Pattern} {n : Nat} (hdir : FileSystem.isDir e.world.files dir = true)
    (h : (e.scan dir filter).2 = .ok n) :
    ∃ e₁ id files, e.watchDir dir filter = (e₁, .ok id) ∧ walkFiles e₁.world.files dir filter = .ok files ∧
      files.length = n := by
  rcases hwatch : e.watchDir dir filter with ⟨e₁, err | id⟩
  · rw [(scan_refused hdir hwatch).1] at h
    cases h
  · rcases hwalk : walkFiles e₁.world.files dir filter with f | files
    · rw [(scan_unread hdir hwatch hwalk).1] at h
      cases h
    · refine ⟨e₁, id, files, rfl, hwalk, ?_⟩
      rw [(scan_eq hdir hwatch hwalk).1] at h
      revert h
      rcases e₁.submitAll files with ⟨e₂, err | ⟨⟩⟩
      · intro h
        cases h
      · exact fun h => Except.ok.inj h

/-- Once a scan succeeded, the next one with the same arguments counts the same files and changes nothing at all. -/
theorem rescan_changes_nothing (hrules : c.ruleTable = .ok e.rules) {dir : Path} {filter : Option Pattern} {n : Nat}
    (hscan : (e.scan dir filter).2 = .ok n) :
    (e.scan dir filter).1.scan dir filter = ((e.scan dir filter).1, .ok n) := by
  rcases hdir : FileSystem.isDir e.world.files dir
  · have hskip : e.scan dir filter = (e, .ok 0) := (scan_missing hdir).1
    rw [hskip] at hscan ⊢
    rw [hskip, ← hscan]
  · obtain ⟨e₁, id, files, hwatch, hwalk, rfl⟩ := scan_ok hdir hscan
    obtain ⟨ws, j, hwatched⟩ := e.watch_dir_frame dir filter
    obtain ⟨q, j', hsubmitted⟩ := e₁.submit_all_frame files
    rw [hwatch] at hwatched
    obtain rfl : e₁ = { e with watches := ws }.setJournal j := hwatched
    have hfiles := submit_all_again (e := { e with watches := ws }.setJournal j)
      (Config.rule_table_realizes hrules) files
    rw [(scan_eq hdir hwatch hwalk).1]
    generalize ({ e with watches := ws }.setJournal j).submitAll files = submitted at hsubmitted hfiles
    -- what the first scan leaves differs from the engine before it in queue, watches and journal
    have hwatches : submitted.1.watchDir dir filter = (submitted.1, .ok id) := by
      refine watch_dir_again hwatch ?_ ?_ ?_ <;> rw [hsubmitted] <;> rfl
    have hagain : submitted.1.scan dir filter = _ :=
      (scan_eq (by rw [hsubmitted]; exact hdir) hwatches (by rw [hsubmitted]; exact hwalk)).1
    rw [hagain, hfiles]
    rfl

def sheetsWatched : Engine Memory where
  settings := sheetEngine.settings
  rules := sheetEngine.rules
  world := { files := Memory.new.addFile ⟨"/p/build/b.css"⟩ [] }
  watches := .new

theorem rescan_changes_nothing_sheets :
    let scanned := (sheetsWatched.scan ⟨"/p/build"⟩ none).1
    sheetProject.ruleTable = .ok sheetsWatched.rules ∧
      (scanned.queue.pending.map (·.handler) = [Task.reloadName] ∧
        scanned.watches.registrations.map (·.dir) = [⟨"/p/build"⟩]) ∧
      scanned.scan ⟨"/p/build"⟩ none = (scanned, .ok 1) := by
  intro scanned
  have hrules : sheetProject.ruleTable = .ok sheetsWatched.rules := rfl
  have htree : sheetsWatched.world.files.Tree := Memory.tree_of_is_tree (by decide +kernel)
  have hlinks : sheetsWatched.world.files.LinksAbsolute :=
    Memory.links_absolute_of_has_links_absolute (by decide +kernel)
  have hdir : FileSystem.isDir sheetsWatched.world.files (⟨"/p/build"⟩ : Path) = true := by decide +kernel
  obtain ⟨k, hbase⟩ := (Memory.opens_iff htree hlinks).mpr ⟨by decide, hdir⟩
  obtain ⟨hwalk, -⟩ := Memory.walk_opened htree hlinks hbase none
  have hfound : found sheetsWatched.world.files ⟨"/p/build"⟩ none = [⟨"/p/build/b.css"⟩] := by decide +kernel
  rw [hfound, Path.sort, List.mergeSort_singleton] at hwalk
  obtain ⟨ws, j, hframe⟩ := sheetsWatched.watch_dir_frame ⟨"/p/build"⟩ none
  have hwatch : sheetsWatched.watchDir ⟨"/p/build"⟩ none =
      ((sheetsWatched.watchDir ⟨"/p/build"⟩ none).1, .ok (some 0)) := Prod.ext rfl (by decide +kernel)
  have hscan := (scan_eq hdir hwatch (by rw [hframe]; exact hwalk)).1
  have hnever : (sheetsWatched.watchDir ⟨"/p/build"⟩ none).1.RulesNeverFail :=
    project_rules_never_fail (by rw [hframe]; exact Config.rule_table_realizes hrules)
  have hok : (sheetsWatched.scan ⟨"/p/build"⟩ none).2 = .ok 1 := by
    rw [hscan, submit_all_ok hnever]
    rfl
  refine ⟨hrules, ?_, rescan_changes_nothing hrules hok⟩
  change ((sheetsWatched.scan ⟨"/p/build"⟩ none).1.queue.pending.map (·.handler) = _) ∧
    (sheetsWatched.scan ⟨"/p/build"⟩ none).1.watches.registrations.map (·.dir) = _
  rw [hscan]
  decide +kernel

end Engine

end BundleWatch
