import BundleWatch.Engine.Step
import BundleWatch.Proofs.Engine.Frame
import BundleWatch.Proofs.Files.Tree
import BundleWatch.Proofs.Watch.Walk
import BundleWatch.Rule.Actions

/-!
# Watching and scanning

In a tree without links a scan finds exactly the files that a watch of the same directory lets through.
-/

set_option autoImplicit false

namespace BundleWatch

open FileSystem

namespace Memory

variable {m : Memory} {d p : Path} {filter : Option Pattern}

theorem identity_stored (hlinks : m.NoLinks) {e : Entry} (h : m.get? p.components = some e) :
    identity m p = p := by
  have hcanonical : FileSystem.canonicalize m p = .ok p := by
    change m.canonicalize p = _
    rw [canonicalize, resolve_eq (hlinks.link_free _), has, h]
    rfl
  rw [identity, hcanonical]

theorem entered_below (htree : m.Tree) (hlinks : m.NoLinks) (hdir : FileSystem.isDir m d = true)
    (h : Entered m d p) :
    ∃ ns, (∀ n ∈ ns, IsName n) ∧ p = d.descend ns ∧ ∃ cs, m.get? p.components = some (.dir cs) := by
  induction h with
  | base => exact ⟨[], by simp, rfl, (is_dir_iff (hlinks.link_free _)).mp hdir⟩
  | @inside p q entries _ hread hin hisDir ih =>
    obtain ⟨ns, hns, rfl, cs, hcs⟩ := ih
    rw [show FileSystem.readDir m _ = _ from read_dir_eq (hlinks.link_free _) hcs] at hread
    obtain rfl := Except.ok.inj hread
    obtain ⟨n, hn, rfl⟩ := List.mem_map.mp hin
    refine ⟨ns ++ [n], ?_, (Path.descend_concat d ns n).symm, (is_dir_iff (hlinks.link_free _)).mp hisDir⟩
    have hname : IsName n := htree.named _ n ⟨cs, hcs, hn⟩
    simpa [or_imp, forall_and, hname] using hns

theorem child_read (htree : m.Tree) (hlinks : m.NoLinks) {n : String} (hname : IsName n) {e : Entry}
    (he : m.get? (p.join ⟨n⟩).components = some e) :
    ∃ cs, m.get? p.components = some (.dir cs) ∧
      FileSystem.readDir m p = .ok (cs.map fun n => p.join ⟨n⟩) ∧
      p.join ⟨n⟩ ∈ cs.map fun n => p.join ⟨n⟩ := by
  rw [Path.components_join_name hname] at he
  obtain ⟨cs, hcs⟩ := htree.inDir _ n _ he
  exact ⟨cs, hcs, read_dir_eq (hlinks.link_free _) hcs,
    List.mem_map_of_mem ((htree.mem_listed hcs).mpr ⟨e, he⟩)⟩

theorem walked_all (htree : m.Tree) (hlinks : m.NoLinks) (hdir : FileSystem.isDir m d = true)
    {done files : List Path} (h : Walked m d filter done [] files) {ns : List String}
    (hns : ∀ n ∈ ns, IsName n) {cs : List String}
    (hcs : m.get? (d.descend ns).components = some (.dir cs)) : d.descend ns ∈ done := by
  have hbelow := fun v hv => entered_below htree hlinks hdir (h.entered v (List.mem_append_left _ hv))
  -- what is known to be read is read under the same names
  have hknown : ∀ ms cs, (∀ n ∈ ms, IsName n) →
      m.get? (d.descend ms).components = some (.dir cs) → Known m (done ++ []) (d.descend ms) →
      d.descend ms ∈ done := by
    intro ms cs hms hcs hk
    obtain ⟨v, hv, hsame⟩ := hk
    rw [List.append_nil] at hv
    obtain ⟨ks, hks, rfl, ds, hds⟩ := hbelow v hv
    rw [identity_stored hlinks hds, identity_stored hlinks hcs] at hsame
    rwa [← Path.descend_injective hks hms hsame]
  induction ns using List.reverseRecOn generalizing cs with
  | nil => exact hknown [] cs hns hcs h.start
  | append_singleton ns n ih =>
    have hfront : ∀ n ∈ ns, IsName n := fun n hn => hns n (List.mem_append_left _ hn)
    rw [Path.descend_concat] at hcs
    obtain ⟨ds, hds, hread, hin⟩ := child_read htree hlinks (hns n (by simp)) hcs
    obtain ⟨entries, hread', hdirs, -⟩ := h.read _ (ih hfront hds)
    obtain rfl := Except.ok.inj (hread.symm.trans hread')
    have hk := hdirs _ hin ((is_dir_iff (hlinks.link_free _)).mpr ⟨cs, hcs⟩)
    rw [← Path.descend_concat] at hcs hk
    exact hknown _ cs hns hcs hk

theorem walk_files_tree (htree : m.Tree) (hlinks : m.NoLinks) (hdir : FileSystem.isDir m d = true)
    (filter : Option Pattern) :
    ∃ files, walkFiles m d filter = .ok files ∧ ∀ ns, ns ≠ [] → (∀ n ∈ ns, IsName n) →
      (d.descend ns ∈ files ↔
        (FileSystem.isFile m (d.descend ns) && passes m d filter (d.descend ns)) = true) := by
  rcases walk_files_ends m d filter with ⟨done, files, hwalk, hwalked⟩ | ⟨p, f, hp, hread, -⟩
  · refine ⟨Path.sort files, hwalk, fun ns hne hns => ?_⟩
    rw [Path.sort, List.mem_mergeSort]
    constructor
    · intro hin
      obtain ⟨v, hv, entries, hread, hamong⟩ := hwalked.found _ hin
      have hall := (List.mem_filter.mp hamong).2
      simp only [Bool.and_eq_true] at hall ⊢
      exact ⟨hall.1.2, hall.2⟩
    · intro hpasses
      rw [Bool.and_eq_true] at hpasses
      obtain ⟨ms, n, rfl⟩ := (List.eq_nil_or_concat' ns).resolve_left hne
      have hfront : ∀ n ∈ ms, IsName n := fun n hn => hns n (List.mem_append_left _ hn)
      obtain ⟨bytes, hbytes⟩ := (is_file_iff (hlinks.link_free _)).mp hpasses.1
      have hnotDir : FileSystem.isDir m (d.descend (ms ++ [n])) = false := by
        rw [Bool.eq_false_iff]
        intro hisDir
        obtain ⟨cs, hcs⟩ := (is_dir_iff (hlinks.link_free _)).mp hisDir
        rw [hbytes] at hcs
        cases hcs
      rw [Path.descend_concat] at hbytes
      obtain ⟨cs, hcs, hread, hin⟩ := child_read htree hlinks (hns n (by simp)) hbytes
      obtain ⟨entries, hread', -, hfiles⟩ := hwalked.read _ (walked_all htree hlinks hdir hwalked hfront hcs)
      obtain rfl := Except.ok.inj (hread.symm.trans hread')
      apply hfiles
      rw [← Path.descend_concat] at hin
      refine List.mem_filter.mpr ⟨hin, ?_⟩
      have hnotLink : FileSystem.isLink m (d.descend (ms ++ [n])) = false := hlinks.not_link _
      simp [hnotDir, hnotLink, hpasses]
  · obtain ⟨ns, hns, rfl, cs, hcs⟩ := entered_below htree hlinks hdir hp
    rw [show FileSystem.readDir m _ = _ from read_dir_eq (hlinks.link_free _) hcs] at hread
    cases hread

end Memory

namespace Engine

variable {σ : Type} [FileSystem σ]

def conclude {α : Type} : Result σ α → Result σ Step
  | (e, .error err) => (e, .error err)
  | (e, .ok _) => ((e.nextStep true).1, .ok (e.nextStep true).2)

theorem step_change (e : Engine σ) (w : WatchId) (p : Path) :
    e.step (.pathChanged w p) = conclude (e.handleChange w p) := by
  have hhandle : e.handle (.pathChanged w p) = ((e.handleChange w p).1, (e.handleChange w p).2.map fun _ => true) := rfl
  rcases hchange : e.handleChange w p with ⟨e', err | ⟨⟩⟩ <;> rw [hchange] at hhandle
  · exact step_of_error hhandle
  · exact step_of_ok hhandle

theorem handle_change_submits {e : Engine σ} {w : WatchId} {p : Path} (h : e.heeds w p = true) :
    conclude (e.handleChange w p) = conclude (e.submit p) := by
  rw [(change_heeded h).1]
  rcases e.submit p with ⟨e', err | n⟩ <;> rfl

theorem accepts_registered {r : WatchRegistry} {w : WatchId}
    {g : Registration} (hw : r.registrations[w]? = some g) (s : σ) {d : Path} (hg : g.dir.Same d)
    {ns : List String} (hns : ∀ n ∈ ns, IsName n) (hne : ns ≠ []) :
    r.accepts (place s) w (d.descend ns) = passes s d g.filter (d.descend ns) := by
  have hbelow := Path.below?_descend hns hne d
  have hrelative : Path.relativeTo? (place s) g.dir (d.descend ns) = relative? s d (d.descend ns) := by
    simp only [relative?, Path.relativeTo?, Path.below?_same hg, hbelow]
  unfold WatchRegistry.accepts passes
  rw [hw]
  obtain ⟨dir, _ | f⟩ := g
  · rfl
  · exact congrArg (fun rel => (rel.map f.isMatch).getD false) hrelative

/-- In a tree without links, a change of a file below a watched directory is handled as the file would be
submitted if a scan with the filter of the watch finds the file. Otherwise, and for a watch that is unknown, only
the request for a flush is taken. -/
theorem watching_agrees {e : Engine Memory} (htree : e.world.files.Tree)
    (hlinks : e.world.files.NoLinks) {d : Path} (hdir : isDir e.world.files d = true) {w : WatchId}
    {g : Registration} (hw : e.watches.registrations[w]? = some g) (hg : g.dir.Same d) :
    ∃ files, walkFiles e.world.files d g.filter = .ok files ∧
      (∀ ns, ns ≠ [] → (∀ n ∈ ns, IsName n) →
        (d.descend ns ∈ files →
          e.step (.pathChanged w (d.descend ns)) = conclude (e.submit (d.descend ns))) ∧
        (d.descend ns ∉ files → (e.step (.pathChanged w (d.descend ns))).1 =
          { e with queue := e.queue.takeScheduleRequest.1 })) ∧
      ∀ v p, e.watches.registrations.length ≤ v →
        (e.step (.pathChanged v p)).1 = { e with queue := e.queue.takeScheduleRequest.1 } := by
  obtain ⟨files, hwalk, hfiles⟩ := Memory.walk_files_tree htree hlinks hdir g.filter
  refine ⟨files, hwalk, fun ns hne hns => ?_, fun v p hv => ?_⟩
  · have haccepts := accepts_registered hw e.world.files hg hns hne
    have hiff := hfiles ns hne hns
    rw [← haccepts, Bool.and_comm] at hiff
    constructor
    · intro hin
      have hboth := (Bool.and_eq_true _ _).mp (hiff.mp hin)
      have hlink : isLink e.world.files (d.descend ns) = false := hlinks.not_link _
      rw [step_change, handle_change_submits (by rw [heeds, hboth.1, hboth.2, hlink]; rfl)]
    · intro hout
      have hpassed := Bool.eq_false_iff.mpr fun h => hout (hiff.mpr h)
      rw [step_change, (change_unheeded (by rw [heeds, hpassed]; rfl)).1]
      exact e.next_step_frame true
  · have hunknown : e.watches.accepts (place e.world.files) v p = false := by
      unfold WatchRegistry.accepts
      rw [List.getElem?_eq_none hv]
    rw [step_change, (change_unheeded (by rw [heeds, hunknown]; rfl)).1]
    exact e.next_step_frame true

def watched : Engine Memory where
  settings := { root := ⟨"/p"⟩, outputDir := ⟨"/p/build"⟩ }
  rules := [⟨.trailing ".css", RuleSpec.offerManifest⟩]
  world := {
    files := ((Memory.new.addFile ⟨"/p/src/a.css"⟩ []).addFile ⟨"/p/src/lib/b.css"⟩ []).addFile
      ⟨"/p/src/notes.txt"⟩ [] }
  watches := WatchRegistry.new.add 0 ⟨"/p/src"⟩ (some (.trailing ".css"))

theorem watched_files :
    (watched.world.files.isTree ∧ watched.world.files.hasNoLinks) ∧
    isDir watched.world.files (⟨"/p/src"⟩ : Path) = true ∧
    (isFile watched.world.files (⟨"/p/src/lib/b.css"⟩ : Path) &&
      passes watched.world.files ⟨"/p/src"⟩ (some (.trailing ".css")) ⟨"/p/src/lib/b.css"⟩) = true ∧
    passes watched.world.files ⟨"/p/src"⟩ (some (.trailing ".css")) ⟨"/p/src/notes.txt"⟩ = false ∧
    (watched.submit ⟨"/p/src/lib/b.css"⟩).1.queue.pending = [.new Task.manifestName []] := by
  decide +kernel

theorem watching_agrees_styles :
    watched.step (.pathChanged 0 ⟨"/p/src/lib/b.css"⟩) =
        conclude (watched.submit ⟨"/p/src/lib/b.css"⟩) ∧
      (watched.submit ⟨"/p/src/lib/b.css"⟩).1.queue.pending = [.new Task.manifestName []] ∧
      (watched.step (.pathChanged 0 ⟨"/p/src/notes.txt"⟩)).1 =
        { watched with queue := watched.queue.takeScheduleRequest.1 } ∧
      (watched.step (.pathChanged 1 ⟨"/p/src/a.css"⟩)).1 =
        { watched with queue := watched.queue.takeScheduleRequest.1 } := by
  obtain ⟨⟨hshape, hnone⟩, hdir, hpasses, hfails, hpending⟩ := watched_files
  have htree := Memory.tree_of_is_tree hshape
  have hlinks := Memory.no_links_of_has_no_links hnone
  obtain ⟨files, hwalk, hsteps, hunknown⟩ :=
    watching_agrees (w := 0) htree hlinks hdir rfl (rfl : (⟨"/p/src"⟩ : Path).Same _)
  obtain ⟨files', hwalk', hmem⟩ := Memory.walk_files_tree htree hlinks hdir (some (.trailing ".css"))
  obtain rfl := Except.ok.inj (hwalk.symm.trans hwalk')
  refine ⟨(hsteps ["lib", "b.css"] (by decide) (by decide)).1 ?_, hpending,
    (hsteps ["notes.txt"] (by decide) (by decide)).2 ?_, hunknown 1 _ (Nat.le_refl 1)⟩
  · exact (hmem _ (by decide) (by decide)).mpr hpasses
  · intro hin
    have hboth := (hmem _ (by decide) (by decide)).mp hin
    exact absurd ((Bool.and_eq_true _ _).mp hboth).2 (Bool.eq_false_iff.mp hfails)

end Engine

end BundleWatch
