import BundleWatch.Files.Disk
import BundleWatch.Files.Faulty
import BundleWatch.Proofs.Files.Resolution
import BundleWatch.Watch.Walk
import Mathlib.Data.List.Perm.Subperm

/-!
# What a walk visits

A walk reads the directories that can be entered from its base, one for each identity, or ends with the failure
of one that cannot be read. It never ends for want of turns, since a file system counts the directories that it
can tell apart.
-/

set_option autoImplicit false

namespace BundleWatch

open FileSystem

/-- The file system tells no more directories apart than it says. -/
class CountsDirectories (σ : Type) [FileSystem σ] : Prop where
  length_le (s : σ) (dirs : List Path) (read : ∀ d ∈ dirs, ∃ entries, readDir s d = .ok entries)
    (apart : dirs.Pairwise fun d d' => ¬(identity s d).Same (identity s d')) :
    dirs.length ≤ entryCount s

section Walk

variable {σ : Type} [FileSystem σ]

inductive Entered (s : σ) (base : Path) : Path → Prop
  | base : Entered s base base
  | inside {d p : Path} {entries : List Path} : Entered s base d → readDir s d = .ok entries →
      p ∈ entries → isDir s p = true → Entered s base p

def Known (s : σ) (ds : List Path) (p : Path) : Prop := ∃ d ∈ ds, (identity s d).Same (identity s p)

/-- A walk that read the directories in `done` and found `files`, with `stack` before it. -/
structure Walked (s : σ) (base : Path) (filter : Option Pattern) (done stack files : List Path) :
    Prop where
  entered : ∀ d ∈ done ++ stack, Entered s base d
  start : Known s (done ++ stack) base
  apart : done.Pairwise fun d d' => ¬(identity s d).Same (identity s d')
  read : ∀ d ∈ done, ∃ entries, readDir s d = .ok entries ∧
    (∀ p ∈ entries, isDir s p = true → Known s (done ++ stack) p) ∧
    ∀ p ∈ filesAmong s base filter entries, p ∈ files
  found : ∀ p ∈ files, ∃ d ∈ done, ∃ entries, readDir s d = .ok entries ∧
    p ∈ filesAmong s base filter entries

variable {s : σ} {base dir p : Path} {filter : Option Pattern} {done stack files entries : List Path}

theorem Known.mono {ds ds' : List Path} (h : Known s ds p) (hsub : ∀ d ∈ ds, Known s ds' d) :
    Known s ds' p := by
  obtain ⟨d, hd, hsame⟩ := h
  obtain ⟨d', hd', hsame'⟩ := hsub d hd
  exact ⟨d', hd', hsame'.trans hsame⟩

theorem known_mem {ds : List Path} (h : p ∈ ds) : Known s ds p := ⟨p, h, rfl⟩

theorem walked_begin (s : σ) (base : Path) (filter : Option Pattern) :
    Walked s base filter [] [base] [] := by
  constructor
  · intro d hd
    obtain rfl := List.mem_singleton.mp hd
    exact .base
  · exact known_mem (List.mem_singleton.mpr rfl)
  · exact .nil
  · simp
  · simp

theorem Walked.pass (h : Walked s base filter done (dir :: stack) files) (hdir : Known s done dir) :
    Walked s base filter done stack files := by
  have hknown : ∀ d ∈ done ++ dir :: stack, Known s (done ++ stack) d := by
    intro d hd
    rcases List.mem_append.mp hd with hd | hd
    · exact known_mem (List.mem_append_left _ hd)
    · rcases List.mem_cons.mp hd with rfl | hd
      · exact hdir.mono fun d hd => known_mem (List.mem_append_left _ hd)
      · exact known_mem (List.mem_append_right _ hd)
  constructor
  · intro d hd
    apply h.entered
    rcases List.mem_append.mp hd with hd | hd
    · exact List.mem_append_left _ hd
    · exact List.mem_append_right _ (List.mem_cons_of_mem _ hd)
  · exact h.start.mono hknown
  · exact h.apart
  · intro d hd
    obtain ⟨entries, hread, hdirs, hfiles⟩ := h.read d hd
    exact ⟨entries, hread, fun p hp hisDir => (hdirs p hp hisDir).mono hknown, hfiles⟩
  · exact h.found

theorem Walked.enter (h : Walked s base filter done (dir :: stack) files) (hdir : ¬Known s done dir)
    (hread : readDir s dir = .ok entries) :
    Walked s base filter (dir :: done) ((entries.filter (isDir s)).reverse ++ stack)
      (files ++ filesAmong s base filter entries) := by
  have hentered : Entered s base dir := h.entered dir (by simp)
  have hknown : ∀ d ∈ done ++ dir :: stack,
      Known s (dir :: done ++ ((entries.filter (isDir s)).reverse ++ stack)) d := by
    intro d hd
    apply known_mem
    simp only [List.mem_append, List.mem_cons] at hd ⊢
    tauto
  constructor
  · intro d hd
    simp only [List.mem_append, List.mem_cons, List.mem_reverse, List.mem_filter] at hd
    rcases hd with (rfl | hd) | ⟨hd, hisDir⟩ | hd
    · exact hentered
    · exact h.entered d (by simp [hd])
    · exact hentered.inside hread hd hisDir
    · exact h.entered d (by simp [hd])
  · exact h.start.mono hknown
  · refine List.pairwise_cons.mpr ⟨?_, h.apart⟩
    intro d hd hsame
    exact hdir ⟨d, hd, hsame.symm⟩
  · intro d hd
    rcases List.mem_cons.mp hd with rfl | hd
    · refine ⟨entries, hread, fun p hp hisDir => known_mem ?_, fun p hp => List.mem_append_right _ hp⟩
      simp [hp, hisDir]
    · obtain ⟨entries', hread', hdirs, hfiles⟩ := h.read d hd
      exact ⟨entries', hread', fun p hp hisDir => (hdirs p hp hisDir).mono hknown,
        fun p hp => List.mem_append_left _ (hfiles p hp)⟩
  · intro p hp
    rcases List.mem_append.mp hp with hp | hp
    · obtain ⟨d, hd, hin⟩ := h.found p hp
      exact ⟨d, List.mem_cons_of_mem _ hd, hin⟩
    · exact ⟨dir, List.mem_cons_self, entries, hread, hp⟩

theorem seen_known : (done.map (identity s)).any (fun p => p.Same (identity s dir)) = true ↔
    Known s done dir := by
  simp [Known]

theorem walk_from_ends [CountsDirectories σ] {n : Nat} (h : Walked s base filter done stack files)
    (hn : n + done.length = entryCount s + 1) :
    (∃ done' files', walkFrom s base filter n (done.map (identity s)) stack files = .ok files' ∧
        Walked s base filter done' [] files') ∨
      ∃ d f, Entered s base d ∧ readDir s d = .error f ∧
        walkFrom s base filter n (done.map (identity s)) stack files = .error f := by
  generalize hseen : done.map (identity s) = seen
  fun_induction walkFrom s base filter n seen stack files generalizing done
  case case1 n seen files => exact .inl ⟨done, files, rfl, h⟩
  case case2 n seen files dir stack id hany ih =>
    subst hseen
    exact ih (h.pass (seen_known.mp hany)) hn rfl
  case case3 seen files dir stack id hany =>
    -- more directories were read than there are
    exfalso
    have hle := CountsDirectories.length_le s done
      (fun d hd => (h.read d hd).imp fun _ hd => hd.1) h.apart
    omega
  case case4 seen dir stack files id hany n ih =>
    subst hseen
    rcases hread : readDir s dir with f | entries
    · exact .inr ⟨dir, f, h.entered dir (by simp), hread, rfl⟩
    · exact ih entries (h.enter (fun hk => hany (seen_known.mpr hk)) hread)
        (by simp only [List.length_cons]; omega) rfl

theorem walk_files_ends [CountsDirectories σ] (s : σ) (base : Path) (filter : Option Pattern) :
    (∃ done files, walkFiles s base filter = .ok (Path.sort files) ∧
        Walked s base filter done [] files) ∨
      ∃ d f, Entered s base d ∧ readDir s d = .error f ∧ walkFiles s base filter = .error f := by
  have hends := walk_from_ends (n := entryCount s + 1) (walked_begin s base filter) rfl
  rw [List.map_nil] at hends
  rcases hends with ⟨done, files, hwalk, hwalked⟩ | ⟨d, f, hd, hread, hwalk⟩
  · exact .inl ⟨done, files, by rw [walkFiles, hwalk]; rfl, hwalked⟩
  · exact .inr ⟨d, f, hd, hread, by rw [walkFiles, hwalk]; rfl⟩

end Walk

/-! ## File systems that count their directories -/

/-- Directories that are stored under different keys are no more than the keys. -/
theorem length_le_of_stored {κ : Type} {dirs : List Path} {keys : List κ} (key : Path → κ)
    (hin : ∀ d ∈ dirs, key d ∈ keys) (hne : dirs.Pairwise fun d d' => key d ≠ key d') :
    dirs.length ≤ keys.length := by
  have hnodup : (dirs.map key).Nodup := List.pairwise_map.mpr hne
  have hsub : dirs.map key ⊆ keys := by
    intro k hk
    obtain ⟨d, hd, rfl⟩ := List.mem_map.mp hk
    exact hin d hd
  simpa using (List.subperm_of_subset hnodup hsub).length_le

namespace Memory

theorem identity_eq {m : Memory} {d : Path} {entries : List Path}
    (h : FileSystem.readDir m d = .ok entries) :
    (m.resolve d).components ∈ m.entries.map (·.1) ∧ identity m d = m.resolve d := by
  change m.readDir d = _ at h
  unfold readDir lookup? at h
  rcases hat : m.get? (m.resolve d).components with _ | e
  · rw [hat] at h
    cases h
  · have hcanonical : FileSystem.canonicalize m d = .ok (m.resolve d) := by
      change m.canonicalize d = _
      rw [canonicalize, has, hat]
      rfl
    constructor
    · exact List.mem_map_of_mem (get?_entry hat)
    · rw [identity, hcanonical]

end Memory

instance : CountsDirectories Memory where
  length_le m dirs read apart := by
    have hplace : ∀ d ∈ dirs, (m.resolve d).components ∈ m.entries.map (·.1) :=
      fun d hd => (Memory.identity_eq (read d hd).choose_spec).1
    have hlen := length_le_of_stored (fun d => (m.resolve d).components) hplace ?_
    · rwa [List.length_map] at hlen
    · refine apart.imp_of_mem ?_
      intro d d' hd hd' hne heq
      rw [(Memory.identity_eq (read d hd).choose_spec).2,
        (Memory.identity_eq (read d' hd').choose_spec).2] at hne
      exact hne heq

namespace Disk

theorem get?_mem {k : Disk} {l : Location} {i : Inode} (h : k.get? l = some i) :
    l ∈ [] :: k.entries.map (·.1) := by
  by_cases hroot : l = []
  · exact hroot ▸ List.mem_cons_self
  · rw [get?, if_neg hroot] at h
    obtain ⟨before, after, hentries, -⟩ := List.lookup_eq_some_iff.mp h
    simp [hentries]

theorem stat_stored {k : Disk} {d : Path} {l : Location} {i : Inode} (h : k.stat d = .ok (l, i)) :
    k.get? l = some i := by
  unfold stat at h
  rcases hlocate : k.locate .target d with e | l'
  · rw [hlocate] at h
    cases h
  · rw [hlocate] at h
    simp only [bind, Except.bind] at h
    split at h
    · next i' hget =>
      cases h
      exact hget
    · cases h

theorem identity_eq {k : Disk} {d : Path} {entries : List Path}
    (h : FileSystem.readDir k d = .ok entries) :
    ∃ l ∈ [] :: k.entries.map (·.1), identity k d = locationPath l := by
  rcases hstat : k.stat d with e | ⟨l, i⟩
  · simp only [FileSystem.readDir, readDir, hstat, bind, Except.bind] at h
    cases h
  · refine ⟨l, get?_mem (stat_stored hstat), ?_⟩
    simp only [identity, FileSystem.canonicalize, canonicalize, hstat, Except.map]

end Disk

instance : CountsDirectories Disk where
  length_le k dirs read apart := by
    have hplace : ∀ d ∈ dirs, identity k d ∈ ([] :: k.entries.map (·.1)).map Disk.locationPath := by
      intro d hd
      obtain ⟨l, hl, heq⟩ := Disk.identity_eq (read d hd).choose_spec
      exact heq ▸ List.mem_map_of_mem hl
    have hlen := length_le_of_stored (identity k) hplace (apart.imp ?_)
    · rwa [List.length_map, List.length_cons, List.length_map] at hlen
    · intro d d' hne heq
      exact hne (congrArg Path.components heq)

instance {σ : Type} [FileSystem σ] [CountsDirectories σ] : CountsDirectories (Faulty σ) where
  length_le s dirs read apart := by
    rcases hfault : s.fault with _ | text
    · refine CountsDirectories.length_le s.files dirs (fun d hd => ?_) apart
      obtain ⟨entries, hread⟩ := read d hd
      simp only [readDir, hfault] at hread
      exact ⟨entries, hread⟩
    · -- under a fault no directory can be read
      rcases dirs with _ | ⟨d, dirs⟩
      · exact Nat.zero_le _
      · obtain ⟨entries, hread⟩ := read d List.mem_cons_self
        simp only [readDir, hfault] at hread
        cases hread

end BundleWatch
