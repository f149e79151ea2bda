import BundleWatch.Proofs.Watch.Walk

/-!
# The directories that a walk opens

Which directories a walk opens, and in which order, does not depend on its filter. Its files are the files in
these directories that the filter accepts, and every directory in one of them is opened under some path.
-/

set_option autoImplicit false

namespace BundleWatch

open FileSystem

variable {σ : Type} [FileSystem σ]

def entriesOf (s : σ) (dir : Path) : List Path := (readDir s dir).toOption.getD []

/-- The directories that are opened from a stack, at most `n` of them. Those in `seen` are passed over. -/
def openedFrom (s : σ) : Nat → List Path → List Path → List Path
  | 0, _, _ => []
  | n + 1, seen, stack =>
    match stack.dropWhile fun dir => seen.any fun p => p.Same (identity s dir) with
    | [] => []
    | dir :: stack =>
      dir :: openedFrom s n (identity s dir :: seen) (((entriesOf s dir).filter (isDir s)).reverse ++ stack)

def opened (s : σ) (base : Path) : List Path := openedFrom s (entryCount s + 1) [] [base]

def Met (s : σ) (base p : Path) : Prop := ∃ dir ∈ opened s base, p ∈ entriesOf s dir

def found (s : σ) (base : Path) (filter : Option Pattern) : List Path :=
  (opened s base).flatMap fun dir => filesAmong s base filter (entriesOf s dir)

variable {s : σ} {base dir p : Path} {filter : Option Pattern} {done stack files seen : List Path}

theorem opened_from_seen (n : Nat) (h : (seen.any fun p => p.Same (identity s dir)) = true) :
    openedFrom s n seen (dir :: stack) = openedFrom s n seen stack := by
  cases n with
  | zero => rfl
  | succ n => rw [openedFrom, List.dropWhile_cons, if_pos h, ← openedFrom]

theorem opened_from_new (n : Nat) (h : ¬(seen.any fun p => p.Same (identity s dir)) = true) :
    openedFrom s (n + 1) seen (dir :: stack) =
      dir :: openedFrom s n (identity s dir :: seen) (((entriesOf s dir).filter (isDir s)).reverse ++ stack) := by
  rw [openedFrom, List.dropWhile_cons, if_neg h]

/-- A walk that can read every directory to which it comes ends with the files of those that it opens. -/
theorem walk_from_opened [CountsDirectories σ] (hreads : ∀ d, Entered s base d → ∃ entries, readDir s d = .ok entries)
    {n : Nat} (h : Walked s base filter done stack files) (hn : n + done.length = entryCount s + 1) :
    let dirs := openedFrom s n (done.map (identity s)) stack
    let all := files ++ dirs.flatMap fun dir => filesAmong s base filter (entriesOf s dir)
    walkFrom s base filter n (done.map (identity s)) stack files = .ok all ∧
      Walked s base filter (dirs.reverse ++ done) [] all := by
  generalize hseen : done.map (identity s) = seen
  fun_induction walkFrom s base filter n seen stack files generalizing done
  case case1 n seen files =>
    have hnone : openedFrom s n seen [] = [] := by cases n <;> rfl
    simpa [hnone] using h
  case case2 n seen files dir stack id hany ih =>
    subst hseen
    rw [opened_from_seen n hany]
    exact ih (h.pass (seen_known.mp hany)) hn rfl
  case case3 seen files dir stack id hany =>
    -- more directories were read than there are
    exfalso
    have hle := CountsDirectories.length_le s done (fun d hd => (h.read d hd).imp fun _ hd => hd.1) h.apart
    omega
  case case4 seen dir stack files id hany n ih =>
    subst hseen
    obtain ⟨entries, hread⟩ := hreads dir (h.entered dir (by simp))
    have hentries : entriesOf s dir = entries := by rw [entriesOf, hread]; rfl
    have hnext := ih entries (h.enter (fun hk => hany (seen_known.mpr hk)) hread)
      (by simp only [List.length_cons]; omega) rfl
    rw [opened_from_new n hany, hread]
    simp only [List.flatMap_cons, List.reverse_cons, hentries]
    rw [← List.append_assoc files, List.append_assoc _ [dir], List.singleton_append]
    exact hnext

theorem walk_files_opened [CountsDirectories σ] (hreads : ∀ d, Entered s base d → ∃ entries, readDir s d = .ok entries)
    (filter : Option Pattern) :
    walkFiles s base filter = .ok (Path.sort (found s base filter)) ∧
      Walked s base filter (opened s base).reverse [] (found s base filter) := by
  obtain ⟨hwalk, hwalked⟩ := walk_from_opened (n := entryCount s + 1) hreads (walked_begin s base filter) rfl
  rw [List.nil_append, List.map_nil] at hwalk hwalked
  rw [List.append_nil] at hwalked
  refine ⟨?_, hwalked⟩
  rw [walkFiles, hwalk]
  rfl

theorem base_opened (s : σ) (base : Path) : base ∈ opened s base := by
  rw [opened, opened_from_new _ (by simp)]
  exact List.mem_cons_self

theorem opened_from_origin {n : Nat} (h : p ∈ openedFrom s n seen stack) :
    p ∈ stack ∨ ∃ dir ∈ openedFrom s n seen stack, p ∈ entriesOf s dir ∧ isDir s p = true := by
  induction n generalizing seen stack with
  | zero => cases h
  | succ n ih =>
    rw [openedFrom] at h ⊢
    have hsub := (List.dropWhile_suffix (l := stack) fun dir => seen.any fun p => p.Same (identity s dir)).subset
    split at h
    · cases h
    · next dir rest hstack =>
      rw [hstack] at hsub
      rcases List.mem_cons.mp h with rfl | h
      · exact .inl (hsub List.mem_cons_self)
      · rcases ih h with hin | ⟨d, hd, hin⟩
        · rcases List.mem_append.mp hin with hin | hin
          · exact .inr ⟨dir, List.mem_cons_self, List.mem_filter.mp (List.mem_reverse.mp hin)⟩
          · exact .inl (hsub (List.mem_cons_of_mem _ hin))
        · exact .inr ⟨d, List.mem_cons_of_mem _ hd, hin⟩

theorem opened_origin (h : p ∈ opened s base) : p = base ∨ (Met s base p ∧ isDir s p = true) := by
  rcases opened_from_origin h with hbase | ⟨dir, hdir, hin, hisDir⟩
  · exact .inl (List.mem_singleton.mp hbase)
  · exact .inr ⟨⟨dir, hdir, hin⟩, hisDir⟩

theorem mem_found : p ∈ found s base filter ↔ ∃ dir ∈ opened s base, p ∈ filesAmong s base filter (entriesOf s dir) :=
  List.mem_flatMap

theorem mem_found_filter :
    p ∈ found s base filter ↔ p ∈ found s base none ∧ passes s base filter p = true := by
  simp only [mem_found, filesAmong, List.mem_filter, Bool.and_eq_true, passes]
  constructor
  · rintro ⟨dir, hdir, hin, hall, hpasses⟩
    exact ⟨⟨dir, hdir, hin, hall, trivial⟩, hpasses⟩
  · rintro ⟨⟨dir, hdir, hin, hall, -⟩, hpasses⟩
    exact ⟨dir, hdir, hin, hall, hpasses⟩

/-- A directory that the walk meets is opened, be it under another path. -/
theorem Walked.met_known (h : Walked s base filter (opened s base).reverse [] files) (hp : Met s base p)
    (hisDir : isDir s p = true) : Known s (opened s base) p := by
  obtain ⟨dir, hdir, hin⟩ := hp
  obtain ⟨entries, hread, hdirs, -⟩ := h.read dir (List.mem_reverse.mpr hdir)
  rw [entriesOf, hread] at hin
  obtain ⟨d, hd, hsame⟩ := hdirs p hin hisDir
  exact ⟨d, by simpa using hd, hsame⟩

end BundleWatch
