import BundleWatch.Proofs.Files.Spelling
import BundleWatch.Proofs.Watch.Opening
import BundleWatch.Proofs.Watch.Termination

/-!
# Walks by any spelling

Names lead from its base to whatever a walk meets. A walk from another spelling of the base goes the same ways in the
same order, so its files are those to which the same names lead.
-/

set_option autoImplicit false

namespace BundleWatch.Memory

open FileSystem BundleWatch.Path

variable {m : Memory} {base base' dir dir' : Path} {ns : List String}

theorem identity_get_d (m : Memory) (dir : Path) : identity m dir = (m.canonicalize dir).toOption.getD dir := by
  have hcanonical : m.canonicalize dir = FileSystem.canonicalize m dir := rfl
  rw [hcanonical, identity]
  rcases FileSystem.canonicalize m dir with f | p <;> rfl

theorem identity_same (h : dir.Same dir') : (identity m dir).Same (identity m dir') := by
  rw [identity_get_d, identity_get_d]
  rcases same_cases (m.canonicalize_same h) with ⟨hq, hq'⟩ | ⟨q, q', hq, hq', hsame⟩ <;> rw [hq, hq']
  · exact h
  · exact hsame

def namesIn (m : Memory) (dir : Path) : List String :=
  match m.lookup? dir with
  | some (.dir cs) => cs
  | _ => []

theorem entries_of_eq (m : Memory) (dir : Path) : entriesOf m dir = (m.namesIn dir).map fun n => dir.join ⟨n⟩ := by
  unfold entriesOf namesIn
  change ((m.readDir dir).toOption.getD []) = _
  unfold readDir
  rcases m.lookup? dir with _ | bytes | cs | target <;> rfl

theorem names_in_same (h : dir.Same dir') : m.namesIn dir = m.namesIn dir' := by
  rw [namesIn, namesIn, lookup?_same h]

theorem Named.names_in (h : m.Named) : ∀ n ∈ m.namesIn dir, IsName n := by
  intro n hn
  unfold Memory.namesIn at hn
  split at hn
  · next cs hdir => exact h _ n ⟨cs, hdir, hn⟩
  · cases hn

/-- What is kept of the entries of a directory, if two spellings keep the same, is led to by the same names. -/
theorem entries_spelled (hm : m.Named) (hbase : base.Same base') (hns : ∀ n ∈ ns, IsName n) (f f' : Path → Bool)
    (hf : ∀ ms, ms ≠ [] → (∀ n ∈ ms, IsName n) → f (base.descend ms) = f' (base'.descend ms)) :
    ∃ mss : List (List String), (∀ ms ∈ mss, ms ≠ [] ∧ ∀ n ∈ ms, IsName n) ∧
      (entriesOf m (base.descend ns)).filter f = mss.map base.descend ∧
      (entriesOf m (base'.descend ns)).filter f' = mss.map base'.descend := by
  have hnames : ∀ ms ∈ (m.namesIn (base.descend ns)).map fun n => ns ++ [n], ms ≠ [] ∧ ∀ n ∈ ms, IsName n := by
    intro ms hms
    obtain ⟨n, hn, rfl⟩ := List.mem_map.mp hms
    refine ⟨by simp, fun k hk => ?_⟩
    rcases List.mem_append.mp hk with hk | hk
    · exact hns k hk
    · exact List.mem_singleton.mp hk ▸ hm.names_in n hn
  have hentries (p : Path) : (fun n => (p.descend ns).join ⟨n⟩) = p.descend ∘ fun n => ns ++ [n] :=
    funext fun n => (descend_concat p ns n).symm
  refine ⟨((m.namesIn (base.descend ns)).map fun n => ns ++ [n]).filter fun ms => f (base.descend ms),
    fun ms hms => hnames ms (List.mem_of_mem_filter hms), ?_, ?_⟩
  · rw [entries_of_eq, hentries, ← List.map_map, List.filter_map]
    rfl
  · rw [entries_of_eq, hentries, ← List.map_map, List.filter_map, ← names_in_same (hbase.descend hns)]
    refine congrArg _ (List.filter_congr fun ms hms => ?_)
    exact (hf ms (hnames ms hms).1 (hnames ms hms).2).symm

theorem opened_from_spelled (hm : m.Named) (hbase : base.Same base') (n : Nat) {seen seen' : List Path}
    (hseen : seen.map components = seen'.map components) {stack : List (List String)}
    (hstack : ∀ ns ∈ stack, ∀ n ∈ ns, IsName n) :
    ∃ dirs : List (List String), (∀ ns ∈ dirs, ∀ n ∈ ns, IsName n) ∧
      openedFrom m n seen (stack.map base.descend) = dirs.map base.descend ∧
      openedFrom m n seen' (stack.map base'.descend) = dirs.map base'.descend := by
  induction n generalizing seen seen' stack with
  | zero => exact ⟨[], by simp, rfl, rfl⟩
  | succ n ih =>
    -- passing over a directory takes none of the turns, so the stack has an induction of its own
    induction stack with
    | nil => exact ⟨[], by simp, rfl, rfl⟩
    | cons ns stack ihstack =>
      obtain ⟨hns, hstack⟩ := List.forall_mem_cons.mp hstack
      have hid := m.identity_same (hbase.descend hns)
      have hknown : (seen.any fun p => p.Same (identity m (base.descend ns))) =
          seen'.any fun p => p.Same (identity m (base'.descend ns)) := by
        have hany (ps : List Path) (q : Path) :
            (ps.any fun p => p.Same q) = (ps.map components).any fun k => k = q.components := by
          rw [List.any_map]
          rfl
        rw [hany, hany, hseen, hid.eq]
      rw [List.map_cons, List.map_cons]
      by_cases hany : (seen.any fun p => p.Same (identity m (base.descend ns))) = true
      · rw [opened_from_seen _ hany, opened_from_seen _ (hknown ▸ hany)]
        exact ihstack hstack
      · obtain ⟨mss, hmss, hmap, hmap'⟩ := entries_spelled hm hbase hns m.isDir m.isDir
          fun ms _ hms => is_dir_same (hbase.descend hms)
        have hseen_next : (identity m (base.descend ns) :: seen).map components =
            (identity m (base'.descend ns) :: seen').map components := by
          rw [List.map_cons, List.map_cons, hseen, hid.eq]
        have hstack_next : ∀ ms ∈ mss.reverse ++ stack, ∀ n ∈ ms, IsName n := by
          intro ms hms
          rcases List.mem_append.mp hms with hms | hms
          · exact (hmss ms (List.mem_reverse.mp hms)).2
          · exact hstack ms hms
        obtain ⟨dirs, hdirs, hopened, hopened'⟩ := ih hseen_next hstack_next
        refine ⟨ns :: dirs, List.forall_mem_cons.mpr ⟨hns, hdirs⟩, ?_, ?_⟩
        · rw [opened_from_new n hany, List.map_cons, ← hopened, List.map_append, List.map_reverse, ← hmap]
          rfl
        · rw [opened_from_new n (hknown ▸ hany), List.map_cons, ← hopened', List.map_append, List.map_reverse, ← hmap']
          rfl

theorem passes_descend (base base' : Path) (filter : Option Pattern) (hne : ns ≠ []) (hns : ∀ n ∈ ns, IsName n) :
    passes m base filter (base.descend ns) = passes m base' filter (base'.descend ns) := by
  unfold passes relative? relativeTo?
  rw [below?_descend hns hne, below?_descend hns hne]

theorem found_spelled (hm : m.Named) (hbase : base.Same base') (filter : Option Pattern) :
    ∃ nss : List (List String), (∀ ns ∈ nss, ns ≠ [] ∧ ∀ n ∈ ns, IsName n) ∧
      found m base filter = nss.map base.descend ∧ found m base' filter = nss.map base'.descend := by
  have hseen : ([] : List Path).map components = ([] : List Path).map components := rfl
  have hstack : ∀ ns ∈ [([] : List String)], ∀ n ∈ ns, IsName n := by simp
  obtain ⟨dirs, hdirs, hopened, hopened'⟩ := opened_from_spelled hm hbase (entryCount m + 1) hseen hstack
  unfold found opened
  rw [show [base] = [[]].map base.descend from rfl, show [base'] = [[]].map base'.descend from rfl, hopened, hopened']
  clear hopened hopened'
  induction dirs with
  | nil => exact ⟨[], by simp, rfl, rfl⟩
  | cons ns dirs ih =>
    obtain ⟨hns, hdirs⟩ := List.forall_mem_cons.mp hdirs
    obtain ⟨mss, hmss, hmap, hmap'⟩ := entries_spelled hm hbase hns
      (fun p => !m.isDir p && !m.isLink p && m.isFile p && passes m base filter p)
      (fun p => !m.isDir p && !m.isLink p && m.isFile p && passes m base' filter p)
      fun ms hne hms => by
        have hsame := hbase.descend hms
        rw [is_dir_same hsame, is_link_same hsame, is_file_same hsame, passes_descend base base' filter hne hms]
    obtain ⟨nss, hnss, hfound, hfound'⟩ := ih hdirs
    refine ⟨mss ++ nss, List.forall_mem_append.mpr ⟨hmss, hnss⟩, ?_, ?_⟩
    · rw [List.map_cons, List.flatMap_cons, hfound, List.map_append, ← hmap]
      rfl
    · rw [List.map_cons, List.flatMap_cons, hfound', List.map_append, ← hmap']
      rfl

theorem walk_found (hdir : m.isDir base = true) (filter : Option Pattern) :
    walkFiles m base filter = .ok (Path.sort (found m base filter)) := by
  refine (walk_files_opened ?_ filter).1
  rintro d (_ | ⟨_, _, _, hisDir⟩)
  · exact is_dir_reads.mp hdir
  · exact is_dir_reads.mp hisDir

/-- The files of a walk from another spelling are those to which the same names lead, in the same order. -/
theorem walk_spelled (hm : m.Named) (hbase : base.Same base') (hdir : m.isDir base = true) (filter : Option Pattern) :
    ∃ nss : List (List String), (∀ ns ∈ nss, ns ≠ [] ∧ ∀ n ∈ ns, IsName n) ∧
      walkFiles m base filter = .ok (nss.map base.descend) ∧
      walkFiles m base' filter = .ok (nss.map base'.descend) := by
  obtain ⟨nss, hnss, hfound, hfound'⟩ := found_spelled hm hbase filter
  -- the order of paths is the order of their components
  set sorted := nss.mergeSort fun ns ms => !(base.descend ms).precedes (base.descend ns) with hsorted
  have hsort {p : Path} (hp : p.Same base) : Path.sort (nss.map p.descend) = sorted.map p.descend := by
    refine (List.map_mergeSort fun ns hns ms hms => ?_).symm
    have hsame {ks : List String} (hks : ks ∈ nss) : (base.descend ks).components = (p.descend ks).components :=
      (hp.descend (hnss ks hks).2).symm
    rw [Path.precedes, Path.precedes, hsame hns, hsame hms]
  refine ⟨sorted, fun ns hns => hnss ns (List.mem_mergeSort.mp hns), ?_, ?_⟩
  · rw [walk_found hdir, hfound, hsort rfl]
  · rw [walk_found (is_dir_same hbase ▸ hdir), hfound', hsort hbase.symm]

end BundleWatch.Memory
