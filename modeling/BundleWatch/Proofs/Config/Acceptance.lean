import BundleWatch.Proofs.Config.Directories
import BundleWatch.Proofs.Config.Startup

/-!
# What validation accepts

Validation compares directories by their normal forms. For directories below the project this tells whether they
are one place, wherever the project lies, so a project file is accepted exactly if it is complete and no two of its
directories collide.
-/

set_option autoImplicit false

namespace BundleWatch.ProjectFile

/-- What is asked of a project file. -/
structure Documented (f : ProjectFile) : Prop where
  scans : f.scans ≠ []
  outputDir : f.build.outputDir ≠ ""
  pollInterval : 0 < f.gate.pollInterval
  reloadPath : ∃ rest, f.reload.path = "/" ++ rest
  apart : ∀ root : Path, root.isAbsolute = true →
    f.scans.Pairwise fun s s' => ¬ (root.join ⟨s.dir⟩).Same (root.join ⟨s'.dir⟩)
  outside : ∀ root : Path, root.isAbsolute = true → ∀ s ∈ f.scans, s.watchOnly = false →
    ¬ (root.join ⟨s.dir⟩).Same (root.join ⟨f.build.outputDir⟩)
  filters : ∀ s ∈ f.scans, s.Compiles
  rules : ∀ r ∈ f.rules, r.Complete

variable {f : ProjectFile} {d d' : String} {root : Path}

theorem PlainDir.normal_dir_iff (hd : PlainDir d) (hd' : PlainDir d') (hroot : root.text ≠ "") :
    normalDir d = normalDir d' ↔ (root.join ⟨d⟩).Same (root.join ⟨d'⟩) := by
  refine ⟨fun h => hd.same hd' h hroot, fun h => ?_⟩
  rw [Path.Same, Path.components_join hd.relative hroot, Path.components_join hd'.relative hroot] at h
  have hcomponents : Segment.components (Segment.split d.toList) = Segment.components (Segment.split d'.toList) :=
    List.append_cancel_left h
  rw [hd.normal_dir, hd'.normal_dir, hcomponents]

/-- The choice of the root makes no difference. -/
theorem PlainDir.normal_dir_iff_forall (hd : PlainDir d) (hd' : PlainDir d') :
    normalDir d = normalDir d' ↔ ∀ root : Path, root.isAbsolute = true → (root.join ⟨d⟩).Same (root.join ⟨d'⟩) := by
  constructor
  · exact fun h root hroot => (hd.normal_dir_iff hd' (Path.is_absolute_nonempty hroot)).mp h
  · intro h
    have hslash : (⟨"/"⟩ : Path).isAbsolute = true := by decide
    exact (hd.normal_dir_iff hd' (Path.is_absolute_nonempty hslash)).mpr (h _ hslash)

theorem starts_with_slash {s : String} : s.toList.head? = some '/' ↔ ∃ rest, s = "/" ++ rest := by
  constructor
  · intro h
    obtain ⟨cs, hcs⟩ := List.head?_eq_some_iff.mp h
    exact ⟨String.ofList cs, String.toList_inj.mp (by simp [hcs])⟩
  · rintro ⟨rest, rfl⟩
    rw [String.toList_append]
    rfl

theorem check_sections_ok (hout : Text.trim f.build.outputDir = f.build.outputDir) :
    f.checkSections = .ok () ↔
      f.build.outputDir ≠ "" ∧ 0 < f.gate.pollInterval ∧ ∃ rest, f.reload.path = "/" ++ rest := by
  rw [← starts_with_slash]
  simp [checkSections, bind_eq_ok, require_ok, hout, Nat.pos_iff_ne_zero]

theorem validate_refused {e : ConfigError} (h : f.check = .error e) : f.validate = .error e := by
  unfold validate
  split
  · next hok =>
    rw [h] at hok
    cases hok
  · next herr =>
    rw [h] at herr
    exact congrArg Except.error (Except.error.inj herr).symm

theorem validate_succeeds : (∃ c, f.validate = .ok c) ↔ f.check = .ok () :=
  ⟨fun ⟨c, hc⟩ => validate_ok hc ▸ c.accepted, fun h => ⟨_, validate_accepted h⟩⟩

/-- Validation accepts what is documented and nothing else, if the directories lie below the project and have no
blanks around them. Two such directories have one normal form exactly if they are one place below every root. -/
theorem accepted_iff_documented (hscans : ∀ s ∈ f.scans, PlainDir s.dir) (hout : PlainDir f.build.outputDir) :
    ((∃ c, f.validate = .ok c) ↔ f.Documented) ∧ ∀ d d', PlainDir d → PlainDir d' →
      (normalDir d = normalDir d' ↔
        ∀ root : Path, root.isAbsolute = true → (root.join ⟨d⟩).Same (root.join ⟨d'⟩)) := by
  refine ⟨?_, fun d d' hd hd' => hd.normal_dir_iff_forall hd'⟩
  rw [validate_succeeds, check_eq_ok, check_sections_ok hout.trimmed, check_scans_ok]
  constructor
  · rintro ⟨hsome, ⟨houtput, hpoll, hpath⟩, ⟨hall, hapart⟩, hrules⟩
    refine ⟨hsome, houtput, hpoll, hpath, fun root hroot => ?_, fun root hroot s hs hwalked hsame => ?_,
      fun s hs => (hall s hs).2.2, hrules⟩
    · refine hapart.imp_of_mem fun {s s'} hs hs' hne hsame => hne ?_
      exact ((hscans s hs).normal_dir_iff (hscans s' hs') (Path.is_absolute_nonempty hroot)).mpr hsame
    · exact (hall s hs).2.1 hwalked
        (((hscans s hs).normal_dir_iff hout (Path.is_absolute_nonempty hroot)).mpr hsame)
  · intro h
    have hslash : (⟨"/"⟩ : Path).isAbsolute = true := by decide
    have hne := Path.is_absolute_nonempty hslash
    refine ⟨h.scans, ⟨h.outputDir, h.pollInterval, h.reloadPath⟩, ⟨fun s hs => ?_, ?_⟩, h.rules⟩
    · refine ⟨List.not_mem_nil, fun hwalked heq => ?_, h.filters s hs⟩
      exact h.outside _ hslash s hs hwalked (((hscans s hs).normal_dir_iff hout hne).mp heq)
    · refine (h.apart _ hslash).imp_of_mem fun {s s'} hs hs' hapart heq => hapart ?_
      exact ((hscans s hs).normal_dir_iff (hscans s' hs') hne).mp heq

def spelledTwice : ProjectFile where
  scans := [⟨"src", none, false⟩, ⟨".//src/./", some (.trailing ".css"), true⟩]

/-- A project file with one rule for each action is all that is asked of it. One that scans a directory under two
spellings is not. -/
theorem accepted_iff_documented_sites :
    ((∀ s ∈ siteProject.scans, PlainDir s.dir) ∧ PlainDir siteProject.build.outputDir ∧
      siteProject.toProjectFile.Documented) ∧
    ((∀ s ∈ spelledTwice.scans, PlainDir s.dir) ∧ PlainDir spelledTwice.build.outputDir ∧
      spelledTwice.validate = .error (.repeatedScan ".//src/./") ∧ ¬ spelledTwice.Documented ∧
      ∀ root : Path, root.isAbsolute = true → (root.join ⟨"src"⟩).Same (root.join ⟨".//src/./"⟩)) := by
  have hsite : ∀ s ∈ siteProject.scans, PlainDir s.dir := by decide +kernel
  have hbuild : PlainDir siteProject.build.outputDir := by decide +kernel
  have hsrc : PlainDir "src" := by decide +kernel
  have hdots : PlainDir ".//src/./" := by decide +kernel
  have hnormal : normalDir "src" = normalDir ".//src/./" := by decide +kernel
  have htwice : ∀ s ∈ spelledTwice.scans, PlainDir s.dir :=
    List.forall_mem_cons.mpr ⟨hsrc, List.forall_mem_singleton.mpr hdots⟩
  obtain ⟨hiff, hsame⟩ := accepted_iff_documented htwice hbuild
  have hrefused : spelledTwice.validate = .error (.repeatedScan ".//src/./") :=
    validate_refused (by decide +kernel)
  refine ⟨⟨hsite, hbuild, ?_⟩, htwice, hbuild, hrefused, ?_, ?_⟩
  · exact (accepted_iff_documented hsite hbuild).1.mp ⟨_, validate_accepted siteProject.accepted⟩
  · intro hdocumented
    obtain ⟨c, hc⟩ := hiff.mpr hdocumented
    rw [hrefused] at hc
    cases hc
  · exact (hsame "src" ".//src/./" hsrc hdots).mp hnormal

end BundleWatch.ProjectFile
