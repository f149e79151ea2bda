import BundleWatch.Proofs.Config.Directories
import BundleWatch.Proofs.Engine.Rescan
import BundleWatch.Proofs.Watch.Registration
import BundleWatch.Proofs.Watch.Spelling

/-!
# Scans by any spelling

Two spellings of a directory of a project have one watch, and scans of them submit the files to which the same names
lead. What the rules see of a file begins with the spelling of its directory, so the same rules fire if the spellings
agree between their components, and need not if they differ there.
-/

set_option autoImplicit false

namespace BundleWatch

theorem WatchRegistry.register_same {ω : Type} (r : WatchRegistry) {backend : WatchBackend ω} {dir dir' : Path}
    (h : dir.Same dir') (filter : Option Pattern) {s : ω}
    (hbackend : ∀ id, (backend id dir s).2 = (backend id dir' s).2) :
    (r.register backend dir filter s).2.2 = (r.register backend dir' filter s).2.2 := by
  unfold register
  rw [r.find?_congr h]
  split
  · rfl
  · split
    · rfl
    · have hanswer := hbackend r.registrations.length
      simp only []
      revert hanswer
      rcases backend r.registrations.length dir s with ⟨t, f | ⟨⟩⟩ <;>
        rcases backend r.registrations.length dir' s with ⟨t', f' | ⟨⟩⟩ <;> rintro ⟨⟩ <;> rfl

namespace Engine

open FileSystem

section Submission

variable {σ : Type} [FileSystem σ]

def firing (e : Engine σ) (p : Path) : List (Rule × Option String) :=
  ((relative? e.world.files e.settings.root p).map e.rules.hits).getD []

/-- A scan submits these files in this order, unless its watch is refused. -/
def Submits (e : Engine σ) (dir : Path) (filter : Option Pattern) (files : List Path) : Prop :=
  e.scan dir filter =
    match e.watchDir dir filter with
    | (e₁, .ok _) => ((e₁.submitAll files).1, (e₁.submitAll files).2.map fun _ => files.length)
    | (e₁, .error err) => (e₁, .error err)

variable {e : Engine σ} {dir : Path} {filter : Option Pattern} {files : List Path}

theorem submits_nothing (hdir : isDir e.world.files dir = false) : e.Submits dir filter [] := by
  rw [Submits, (scan_missing hdir).1, watchDir, hdir]
  rfl

theorem submits_walk (hdir : isDir e.world.files dir = true) (hwalk : walkFiles e.world.files dir filter = .ok files) :
    e.Submits dir filter files := by
  obtain ⟨ws, j, hframe⟩ := e.watch_dir_frame dir filter
  unfold Submits
  rcases hwatch : e.watchDir dir filter with ⟨e₁, err | id⟩
  · exact (scan_refused hdir hwatch).1
  · rw [hwatch] at hframe
    obtain rfl : e₁ = { e with watches := ws }.setJournal j := hframe
    exact (scan_eq hdir hwatch hwalk).1

end Submission

variable {e : Engine Memory} {d d' : String}

theorem watch_dir_same {dir dir' : Path} (h : dir.Same dir') (filter : Option Pattern)
    (hbackend : ∀ id, (e.backend id dir e.world.journal).2 = (e.backend id dir' e.world.journal).2) :
    (e.watchDir dir filter).2 = (e.watchDir dir' filter).2 := by
  have hdir : isDir e.world.files dir = isDir e.world.files dir' := Memory.is_dir_same h
  have hregister := e.watches.register_same h filter hbackend
  unfold watchDir
  rw [hdir]
  split
  · rfl
  · exact congrArg (Except.mapError BuildError.other) hregister

/-- The rules see the names that lead to a file behind the segments of its directory. -/
theorem firing_join (hroot : e.settings.root.isAbsolute = true) {q q' : Path} (hq : q.isAbsolute = false)
    (hq' : q'.isAbsolute = false) (hinner : q.inner = q'.inner) {ns : List String} (hns : ∀ n ∈ ns, IsName n)
    (hne : ns ≠ []) :
    e.firing ((e.settings.root.join q).descend ns) = e.firing ((e.settings.root.join q').descend ns) := by
  unfold firing relative? Path.relativeTo?
  rw [Path.below?_join hroot hq hns hne, Path.below?_join hroot hq' hns hne, hinner]

/-- Directories that validation takes for one are scanned alike: the same names lead to the files that are submitted,
in the same order. The names under which the rules see a file are equal exactly if the spellings agree from their
first component on, as tidy ones do, and then the same rules fire with the same captures. -/
theorem scan_spelled (hm : e.world.files.Named) (hroot : e.settings.root.isAbsolute = true)
    (hd : ProjectFile.PlainDir d) (hd' : ProjectFile.PlainDir d')
    (hsame : ProjectFile.normalDir d = ProjectFile.normalDir d') (filter : Option Pattern) :
    let root := e.settings.root
    let dir := root.join ⟨d⟩
    let dir' := root.join ⟨d'⟩
    ((∀ id, (e.backend id dir e.world.journal).2 = (e.backend id dir' e.world.journal).2) →
        (e.watchDir dir filter).2 = (e.watchDir dir' filter).2) ∧
      (∃ nss : List (List String), (∀ ns ∈ nss, ns ≠ [] ∧ ∀ n ∈ ns, IsName n) ∧
        e.Submits dir filter (nss.map dir.descend) ∧ e.Submits dir' filter (nss.map dir'.descend)) ∧
      (∀ ns, ns ≠ [] → (∀ n ∈ ns, IsName n) →
        (dir.descend ns).Same (dir'.descend ns) ∧
          (root.below? (dir.descend ns) = root.below? (dir'.descend ns) ↔
            (⟨d⟩ : Path).inner = (⟨d'⟩ : Path).inner) ∧
          ((⟨d⟩ : Path).inner = (⟨d'⟩ : Path).inner → e.firing (dir.descend ns) = e.firing (dir'.descend ns))) ∧
      ((⟨d⟩ : Path).Tidy → (⟨d'⟩ : Path).Tidy → (⟨d⟩ : Path).inner = (⟨d'⟩ : Path).inner) := by
  intro root dir dir'
  have hspelled : dir.Same dir' := hd.same hd' hsame (Path.is_absolute_nonempty hroot)
  refine ⟨fun hbackend => watch_dir_same hspelled filter hbackend, ?_, fun ns hne hns => ⟨hspelled.descend hns, ?_, ?_⟩,
    fun htidy htidy' => ?_⟩
  · rcases hdir : isDir e.world.files dir
    · have hdir' : isDir e.world.files dir' = false := (Memory.is_dir_same hspelled).symm.trans hdir
      exact ⟨[], by simp, submits_nothing hdir, submits_nothing hdir'⟩
    · obtain ⟨nss, hnss, hwalk, hwalk'⟩ := Memory.walk_spelled hm hspelled hdir filter
      have hdir' : isDir e.world.files dir' = true := (Memory.is_dir_same hspelled).symm.trans hdir
      exact ⟨nss, hnss, submits_walk hdir hwalk, submits_walk hdir' hwalk'⟩
  · exact Path.below?_join_iff hroot hd.relative hd'.relative hns hne
  · intro hinner
    exact firing_join hroot hd.relative hd'.relative hinner hns hne
  · apply htidy.inner_eq htidy'
    have hcontributed := hd.components_eq hd' hsame
    rwa [Anchor.components_split, Anchor.components_split] at hcontributed

def listedProject : Config where
  scans := [⟨"src", none, false⟩]
  rules := [{ pattern := .exact "src/a.css", action := .manifest }]
  accepted := by decide +kernel

def listedEngine : Engine Memory where
  settings := .ofConfig listedProject ⟨"/p"⟩ false false
  rules := match listedProject.ruleTable with
    | .ok rules => rules
    | .error _ => []
  world := { files := Memory.new.addFile ⟨"/p/src/a.css"⟩ [] }

theorem scan_spelled_dotted :
    let e := listedEngine
    (e.world.files.Named ∧ e.settings.root.isAbsolute = true ∧ ProjectFile.PlainDir "src" ∧
        ProjectFile.PlainDir "./src/" ∧ ProjectFile.normalDir "src" = ProjectFile.normalDir "./src/") ∧
      (∃ nss : List (List String), (∀ ns ∈ nss, ns ≠ [] ∧ ∀ n ∈ ns, IsName n) ∧
        e.Submits ⟨"/p/src"⟩ none (nss.map (⟨"/p/src"⟩ : Path).descend) ∧
        e.Submits ⟨"/p/./src/"⟩ none (nss.map (⟨"/p/./src/"⟩ : Path).descend)) ∧
      (e.firing ⟨"/p/src/a.css"⟩).length = 1 ∧ e.firing ⟨"/p/src/a.css"⟩ = e.firing ⟨"/p/./src/a.css"⟩ := by
  intro e
  have hnamed : e.world.files.Named := (Memory.tree_of_is_tree (by decide +kernel)).named
  have hroot : e.settings.root.isAbsolute = true := by decide +kernel
  have hplain : ProjectFile.PlainDir "src" := by decide +kernel
  have hdotted : ProjectFile.PlainDir "./src/" := by decide +kernel
  have hnormal : ProjectFile.normalDir "src" = ProjectFile.normalDir "./src/" := by decide +kernel
  obtain ⟨-, hscans, hnames, -⟩ := scan_spelled hnamed hroot hplain hdotted hnormal none
  have hrules := (hnames ["a.css"] (by decide) (by decide)).2.2 (by decide +kernel)
  have hdir : e.settings.root.join ⟨"src"⟩ = ⟨"/p/src"⟩ := by decide +kernel
  have hdir' : e.settings.root.join ⟨"./src/"⟩ = ⟨"/p/./src/"⟩ := by decide +kernel
  rw [hdir, hdir'] at hscans hrules
  exact ⟨⟨hnamed, hroot, hplain, hdotted, hnormal⟩, hscans, by decide +kernel, hrules⟩

/-- Two separators behind a directory stay in the names that the rules see, and its style sheet is passed over. -/
theorem scan_spelling_seen :
    let e := listedEngine
    listedProject.ruleTable = .ok e.rules ∧
      (ProjectFile.PlainDir "src" ∧ ProjectFile.PlainDir "src//" ∧
        ProjectFile.normalDir "src" = ProjectFile.normalDir "src//") ∧
      (e.Submits (e.settings.root.join ⟨"src"⟩) none [⟨"/p/src/a.css"⟩] ∧
        e.Submits (e.settings.root.join ⟨"src//"⟩) none [⟨"/p/src//a.css"⟩]) ∧
      (e.firing ⟨"/p/src/a.css"⟩).length = 1 ∧ (e.firing ⟨"/p/src//a.css"⟩).length = 0 ∧
      (e.scan (e.settings.root.join ⟨"src"⟩) none).1.queue.pending.map (·.handler) = [Task.manifestName] ∧
      (e.scan (e.settings.root.join ⟨"src//"⟩) none).1.queue.pending = [] := by
  intro e
  have hsubmits {d : String} {p : Path} (hdir : isDir e.world.files (e.settings.root.join ⟨d⟩) = true)
      (hfound : found e.world.files (e.settings.root.join ⟨d⟩) none = [p]) :
      e.Submits (e.settings.root.join ⟨d⟩) none [p] := by
    have hwalk := Memory.walk_found hdir none
    rw [hfound, Path.sort, List.mergeSort_singleton] at hwalk
    exact submits_walk hdir hwalk
  have hplain := hsubmits (d := "src") (p := ⟨"/p/src/a.css"⟩) (by decide +kernel) (by decide +kernel)
  have hspelled := hsubmits (d := "src//") (p := ⟨"/p/src//a.css"⟩) (by decide +kernel) (by decide +kernel)
  refine ⟨rfl, ⟨by decide +kernel, by decide +kernel, by decide +kernel⟩, ⟨hplain, hspelled⟩, by decide +kernel,
    by decide +kernel, ?_, ?_⟩
  · rw [hplain]
    decide +kernel
  · rw [hspelled]
    decide +kernel

end Engine

end BundleWatch
