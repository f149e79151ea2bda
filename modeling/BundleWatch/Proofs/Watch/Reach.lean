import BundleWatch.Proofs.Files.Following
import BundleWatch.Proofs.Path.Order
import BundleWatch.Proofs.Watch.Opening
import Mathlib.Data.List.Pairwise
import Mathlib.Data.Set.Function

/-!
# What a walk through links finds

In a tree with links a walk opens every directory that can be reached from its base, each under one path. So it
finds each file in one of these directories exactly once, whatever links lead there.
-/

set_option autoImplicit false

namespace BundleWatch

open FileSystem

namespace Memory

variable {m : Memory} {base dir p q : Path} {i : Nat} {k k' root : Key} {e : Entry} {filter : Option Pattern}

structure Opens (m : Memory) (p : Path) (k : Key) : Prop where
  absolute : p.isAbsolute = true
  resolves : ∃ i ≤ maxLinkHops, m.Resolves i p.components k
  dir : ∃ cs, m.get? k = some (.dir cs)

theorem opens_iff (htree : m.Tree) (hlinks : m.LinksAbsolute) :
    (∃ k, m.Opens p k) ↔ p.isAbsolute = true ∧ FileSystem.isDir m p = true := by
  constructor
  · rintro ⟨k, habs, ⟨i, hi, hresolves⟩, cs, hcs⟩
    exact ⟨habs, is_dir_iff_lookup.mpr ⟨cs, (hresolves.lookup?_eq htree hlinks habs hi).trans hcs⟩⟩
  · rintro ⟨habs, hdir⟩
    obtain ⟨cs, hcs⟩ := is_dir_iff_lookup.mp hdir
    obtain ⟨i, hi, k, hresolves, hk⟩ := (lookup?_solid htree hlinks habs fun _ => Entry.noConfusion).mp hcs
    exact ⟨k, habs, ⟨i, hi, hresolves⟩, cs, hk⟩

theorem identity_of_resolves (htree : m.Tree) (hlinks : m.LinksAbsolute) (habs : p.isAbsolute = true)
    (hresolves : m.Resolves i p.components k) (hi : i ≤ maxLinkHops) (he : m.get? k = some e) :
    FileSystem.canonicalize m p = .ok (identity m p) ∧ (identity m p).components = k := by
  have hk : (m.resolve p).components = k := hresolves.resolve_within htree hlinks habs hi
  have hcanonical : FileSystem.canonicalize m p = .ok (m.resolve p) := by
    change m.canonicalize p = _
    rw [canonicalize, hk, has, he]
    rfl
  have hidentity : identity m p = m.resolve p := by rw [identity, hcanonical]
  rw [hidentity]
  exact ⟨hcanonical, hk⟩

namespace Opens

variable {n : String}

theorem canonicalize (htree : m.Tree) (hlinks : m.LinksAbsolute) (h : m.Opens p k) :
    FileSystem.canonicalize m p = .ok (BundleWatch.identity m p) := by
  obtain ⟨habs, ⟨i, hi, hresolves⟩, cs, hcs⟩ := h
  exact (identity_of_resolves htree hlinks habs hresolves hi hcs).1

theorem identity (htree : m.Tree) (hlinks : m.LinksAbsolute) (h : m.Opens p k) :
    (BundleWatch.identity m p).components = k := by
  obtain ⟨habs, ⟨i, hi, hresolves⟩, cs, hcs⟩ := h
  exact (identity_of_resolves htree hlinks habs hresolves hi hcs).2

theorem link_free (h : m.Opens p k) : m.LinkFree k := by
  obtain ⟨-, ⟨i, -, hresolves⟩, -⟩ := h
  exact hresolves.link_free

theorem read_dir_eq (htree : m.Tree) (hlinks : m.LinksAbsolute) (h : m.Opens p k) {cs : List String}
    (hcs : m.get? k = some (.dir cs)) : FileSystem.readDir m p = .ok (cs.map fun n => p.join ⟨n⟩) := by
  obtain ⟨i, hi, hresolves⟩ := h.resolves
  exact read_dir_lookup ((hresolves.lookup?_eq htree hlinks h.absolute hi).trans hcs)

theorem entries_eq (htree : m.Tree) (hlinks : m.LinksAbsolute) (h : m.Opens p k) {cs : List String}
    (hcs : m.get? k = some (.dir cs)) : entriesOf m p = cs.map fun n => p.join ⟨n⟩ := by
  rw [entriesOf, h.read_dir_eq htree hlinks hcs]
  rfl

theorem mem_entries (htree : m.Tree) (hlinks : m.LinksAbsolute) (h : m.Opens dir k) :
    p ∈ entriesOf m dir ↔ ∃ n e, IsName n ∧ p = dir.join ⟨n⟩ ∧ m.get? (k ++ [.name n]) = some e := by
  obtain ⟨cs, hcs⟩ := h.dir
  rw [h.entries_eq htree hlinks hcs, List.mem_map]
  constructor
  · rintro ⟨n, hn, rfl⟩
    obtain ⟨e, he⟩ := (htree.mem_listed hcs).mp hn
    exact ⟨n, e, htree.named k n ⟨cs, hcs, hn⟩, rfl, he⟩
  · rintro ⟨n, e, -, rfl, he⟩
    exact ⟨n, (htree.mem_listed hcs).mpr ⟨e, he⟩, rfl⟩

theorem join_absolute (h : m.Opens dir k) (n : String) : (dir.join ⟨n⟩).isAbsolute = true :=
  Path.is_absolute_join h.absolute _

/-- Behind the links to a directory, a name leads where it leads from the directory itself. -/
theorem resolves_join (htree : m.Tree) (h : m.Opens dir k) (hn : IsName n)
    (hresolves : m.Resolves i (dir.join ⟨n⟩).components k') : ∃ l, m.Resolves l (k ++ [.name n]) k' := by
  obtain ⟨j, -, hdir⟩ := h.resolves
  rw [Path.components_join_name hn] at hresolves
  obtain ⟨l, -, hl⟩ := hdir.split htree hresolves
  exact ⟨l, hl⟩

theorem join_resolves (h : m.Opens dir k) (hn : IsName n) (hresolves : m.Resolves i (k ++ [.name n]) k') :
    ∃ l, m.Resolves l (dir.join ⟨n⟩).components k' := by
  obtain ⟨j, -, hdir⟩ := h.resolves
  rw [Path.components_join_name hn]
  exact ⟨j + i, hdir.append hresolves⟩

theorem join_solid (h : m.Opens dir k) (hn : IsName n) (hsolid : ∀ target, m.get? (k ++ [.name n]) ≠ some (.link target)) :
    ∃ l ≤ maxLinkHops, m.Resolves l (dir.join ⟨n⟩).components (k ++ [.name n]) := by
  obtain ⟨j, hj, hdir⟩ := h.resolves
  rw [Path.components_join_name hn]
  exact ⟨j, hj, hdir.append (.here (h.link_free.child hsolid))⟩

theorem join_opens (h : m.Opens dir k) (hn : IsName n) {cs : List String}
    (hcs : m.get? (k ++ [.name n]) = some (.dir cs)) : m.Opens (dir.join ⟨n⟩) (k ++ [.name n]) where
  absolute := h.join_absolute n
  resolves := h.join_solid hn (by simp [hcs])
  dir := ⟨cs, hcs⟩

theorem is_link_join (htree : m.Tree) (hlinks : m.LinksAbsolute) (h : m.Opens dir k) (hn : IsName n) :
    FileSystem.isLink m (dir.join ⟨n⟩) = true ↔ ∃ target, m.get? (k ++ [.name n]) = some (.link target) := by
  obtain ⟨i, hi, hresolves⟩ := h.resolves
  obtain ⟨q, hq, hown⟩ := m.own_join dir hn
  have habs : q.isAbsolute = true := by
    rw [Path.is_absolute_iff, hq]
    exact Path.is_absolute_iff.mp h.absolute
  have hk : (m.resolve q).components = k := (hq ▸ hresolves).resolve_within htree hlinks habs hi
  change m.isLink (dir.join ⟨n⟩) = true ↔ _
  rw [is_link_iff, hown, hk]

theorem lookup?_join (htree : m.Tree) (hlinks : m.LinksAbsolute) (h : m.Opens dir k) (hn : IsName n)
    (hsolid : ∀ target, m.get? (k ++ [.name n]) ≠ some (.link target)) :
    m.lookup? (dir.join ⟨n⟩) = m.get? (k ++ [.name n]) := by
  obtain ⟨i, hi, hresolves⟩ := h.join_solid hn hsolid
  exact hresolves.lookup?_eq htree hlinks (h.join_absolute n) hi

theorem mem_files_among (htree : m.Tree) (hlinks : m.LinksAbsolute) (h : m.Opens dir k) :
    p ∈ filesAmong m base filter (entriesOf m dir) ↔
      ∃ n bytes, IsName n ∧ p = dir.join ⟨n⟩ ∧ m.get? (k ++ [.name n]) = some (.file bytes) ∧
        passes m base filter p = true := by
  rw [filesAmong, List.mem_filter, h.mem_entries htree hlinks]
  simp only [Bool.and_eq_true, Bool.not_eq_true', Bool.eq_false_iff]
  constructor
  · rintro ⟨⟨n, e, hn, rfl, he⟩, ⟨⟨-, hlink⟩, hfile⟩, hpasses⟩
    have hsolid : ∀ target, m.get? (k ++ [.name n]) ≠ some (.link target) :=
      fun target htarget => hlink ((h.is_link_join htree hlinks hn).mpr ⟨target, htarget⟩)
    obtain ⟨bytes, hbytes⟩ := is_file_iff_lookup.mp hfile
    rw [h.lookup?_join htree hlinks hn hsolid] at hbytes
    exact ⟨n, bytes, hn, rfl, hbytes, hpasses⟩
  · rintro ⟨n, bytes, hn, rfl, hbytes, hpasses⟩
    have hlookup := (h.lookup?_join htree hlinks hn (by simp [hbytes])).trans hbytes
    refine ⟨⟨n, _, hn, rfl, hbytes⟩, ⟨⟨fun hdir => ?_, fun hlink => ?_⟩, is_file_iff_lookup.mpr ⟨bytes, hlookup⟩⟩, hpasses⟩
    · obtain ⟨cs, hcs⟩ := is_dir_iff_lookup.mp hdir
      rw [hlookup] at hcs
      cases hcs
    · obtain ⟨target, htarget⟩ := (h.is_link_join htree hlinks hn).mp hlink
      rw [hbytes] at htarget
      cases htarget

end Opens

/-! ## Directories within reach -/

/-- Directories to which children, and links among the children, lead from a root. -/
inductive Reachable (m : Memory) (root : Key) : Key → Prop
  | start : Reachable m root root
  | inside {k : Key} {n : String} {cs : List String} : Reachable m root k →
      m.get? (k ++ [.name n]) = some (.dir cs) → Reachable m root (k ++ [.name n])
  | through {k k' : Key} {n : String} {target : Path} {i : Nat} {cs : List String} : Reachable m root k →
      m.get? (k ++ [.name n]) = some (.link target) → m.Resolves i (k ++ [.name n]) k' →
      m.get? k' = some (.dir cs) → Reachable m root k'

theorem Reachable.enter (htree : m.Tree) (h : m.Reachable root k) {n : String} {cs : List String}
    (he : m.get? (k ++ [.name n]) = some e) (hresolves : m.Resolves i (k ++ [.name n]) k')
    (hcs : m.get? k' = some (.dir cs)) : m.Reachable root k' := by
  by_cases hlink : ∃ target, e = .link target
  · obtain ⟨target, rfl⟩ := hlink
    exact h.through he hresolves hcs
  · have hfree := htree.rooted.link_free_of_stored he fun target heq => hlink ⟨target, heq⟩
    obtain ⟨-, rfl⟩ := Resolves.unique htree (.here hfree) hresolves
    exact h.inside hcs

section Walk

variable (htree : m.Tree) (hlinks : m.LinksAbsolute)

include htree hlinks

theorem entered_opens (hbase : m.Opens base root) (h : Entered m base p) :
    ∃ k, m.Opens p k ∧ m.Reachable root k := by
  induction h with
  | base => exact ⟨root, hbase, .start⟩
  | @inside dir p entries _ hread hin hdir ih =>
    obtain ⟨k, hopens, hreach⟩ := ih
    have hentry : p ∈ entriesOf m dir := by
      rw [entriesOf, hread]
      exact hin
    obtain ⟨n, e, hn, rfl, he⟩ := (hopens.mem_entries htree hlinks).mp hentry
    obtain ⟨k', hopens'⟩ := (opens_iff htree hlinks).mpr ⟨hopens.join_absolute n, hdir⟩
    obtain ⟨i, -, hresolves⟩ := hopens'.resolves
    obtain ⟨l, hl⟩ := hopens.resolves_join htree hn hresolves
    obtain ⟨cs, hcs⟩ := hopens'.dir
    exact ⟨k', hopens', hreach.enter htree he hl hcs⟩

theorem walk_opened (hbase : m.Opens base root) (filter : Option Pattern) :
    walkFiles m base filter = .ok (Path.sort (found m base filter)) ∧
      Walked m base filter (opened m base).reverse [] (found m base filter) := by
  apply walk_files_opened
  intro dir hdir
  obtain ⟨k, hopens, -⟩ := entered_opens htree hlinks hbase hdir
  obtain ⟨cs, hcs⟩ := hopens.dir
  exact ⟨_, hopens.read_dir_eq htree hlinks hcs⟩

theorem opened_opens (hbase : m.Opens base root) (h : dir ∈ opened m base) :
    ∃ k, m.Opens dir k ∧ m.Reachable root k := by
  obtain ⟨-, hwalked⟩ := walk_opened htree hlinks hbase none
  apply entered_opens htree hlinks hbase
  exact hwalked.entered dir (by simpa using h)

theorem opened_unique (hbase : m.Opens base root) (hp : p ∈ opened m base) (hq : q ∈ opened m base)
    (hpk : m.Opens p k) (hqk : m.Opens q k) : p = q := by
  obtain ⟨-, hwalked⟩ := walk_opened htree hlinks hbase none
  by_contra hne
  have : Std.Symm fun d d' => ¬(identity m d).Same (identity m d') := ⟨fun _ _ hns hs => hns hs.symm⟩
  have hapart := hwalked.apart.forall (List.mem_reverse.mpr hp) (List.mem_reverse.mpr hq) hne
  apply hapart
  rw [Path.Same, hpk.identity htree hlinks, hqk.identity htree hlinks]

theorem met_opened (hbase : m.Opens base root) (hp : Met m base p) (hpk : m.Opens p k) :
    ∃ q ∈ opened m base, m.Opens q k := by
  obtain ⟨-, hwalked⟩ := walk_opened htree hlinks hbase none
  have hdir := ((opens_iff htree hlinks).mp ⟨k, hpk⟩).2
  obtain ⟨q, hq, hsame⟩ := hwalked.met_known hp hdir
  obtain ⟨k', hqk, -⟩ := opened_opens htree hlinks hbase hq
  rw [Path.Same, hqk.identity htree hlinks, hpk.identity htree hlinks] at hsame
  exact ⟨q, hq, hsame ▸ hqk⟩

theorem reachable_opened (hbase : m.Opens base root)
    (hhops : ∀ p, Met m base p → ∀ i k, m.Resolves i p.components k → i ≤ maxLinkHops)
    (h : m.Reachable root k) : ∃ dir ∈ opened m base, m.Opens dir k := by
  induction h with
  | start => exact ⟨base, base_opened m base, hbase⟩
  | @inside k n cs _ hcs ih =>
    obtain ⟨dir, hdir, hopens⟩ := ih
    have hn := htree.name_of_stored hcs
    have hmet : Met m base (dir.join ⟨n⟩) :=
      ⟨dir, hdir, (hopens.mem_entries htree hlinks).mpr ⟨n, _, hn, rfl, hcs⟩⟩
    exact met_opened htree hlinks hbase hmet (hopens.join_opens hn hcs)
  | @through k k' n target i cs _ hlink hresolves hcs ih =>
    obtain ⟨dir, hdir, hopens⟩ := ih
    have hn := htree.name_of_stored hlink
    have hmet : Met m base (dir.join ⟨n⟩) :=
      ⟨dir, hdir, (hopens.mem_entries htree hlinks).mpr ⟨n, _, hn, rfl, hlink⟩⟩
    obtain ⟨l, hl⟩ := hopens.join_resolves hn hresolves
    exact met_opened htree hlinks hbase hmet
      ⟨hopens.join_absolute n, ⟨l, hhops _ hmet l k' hl, hl⟩, cs, hcs⟩

/-! ## Files -/

def FoundAs (m : Memory) (base p : Path) (key : Key) : Prop :=
  ∃ dir ∈ opened m base, ∃ k n bytes, m.Opens dir k ∧ IsName n ∧ p = dir.join ⟨n⟩ ∧
    key = k ++ [.name n] ∧ m.get? key = some (.file bytes)

theorem mem_found_iff (hbase : m.Opens base root) :
    p ∈ found m base filter ↔ (∃ key, m.FoundAs base p key) ∧ passes m base filter p = true := by
  rw [mem_found]
  constructor
  · rintro ⟨dir, hdir, hin⟩
    obtain ⟨k, hopens, -⟩ := opened_opens htree hlinks hbase hdir
    obtain ⟨n, bytes, hn, rfl, hbytes, hpasses⟩ := (hopens.mem_files_among htree hlinks).mp hin
    exact ⟨⟨_, dir, hdir, k, n, bytes, hopens, hn, rfl, rfl, hbytes⟩, hpasses⟩
  · rintro ⟨⟨_, dir, hdir, k, n, bytes, hopens, hn, rfl, rfl, hbytes⟩, hpasses⟩
    exact ⟨dir, hdir, (hopens.mem_files_among htree hlinks).mpr ⟨n, bytes, hn, rfl, hbytes, hpasses⟩⟩

omit htree hlinks in
theorem FoundAs.resolves (h : m.FoundAs base p k) :
    p.isAbsolute = true ∧ ∃ i ≤ maxLinkHops, m.Resolves i p.components k := by
  obtain ⟨dir, -, k, n, bytes, hopens, hn, rfl, rfl, hbytes⟩ := h
  exact ⟨hopens.join_absolute n, hopens.join_solid hn (by simp [hbytes])⟩

theorem FoundAs.identity (h : m.FoundAs base p k) :
    FileSystem.canonicalize m p = .ok (identity m p) ∧ (identity m p).components = k := by
  obtain ⟨habs, i, hi, hresolves⟩ := h.resolves
  obtain ⟨dir, -, -, -, bytes, -, -, -, -, hbytes⟩ := h
  exact identity_of_resolves htree hlinks habs hresolves hi hbytes

theorem FoundAs.not_link (h : m.FoundAs base p k) : FileSystem.isLink m p = false := by
  obtain ⟨dir, -, k, n, bytes, hopens, hn, rfl, rfl, hbytes⟩ := h
  rw [Bool.eq_false_iff]
  intro hlink
  obtain ⟨target, htarget⟩ := (hopens.is_link_join htree hlinks hn).mp hlink
  rw [hbytes] at htarget
  cases htarget

theorem FoundAs.path_unique (hbase : m.Opens base root) (hp : m.FoundAs base p k) (hq : m.FoundAs base q k) :
    p = q := by
  obtain ⟨dir, hdir, k, n, -, hopens, -, rfl, rfl, -⟩ := hp
  obtain ⟨dir', hdir', k', n', -, hopens', -, rfl, hkey, -⟩ := hq
  obtain ⟨rfl, hlast⟩ := List.append_inj' hkey rfl
  obtain rfl := Component.name.inj (List.singleton_inj.mp hlast)
  rw [opened_unique htree hlinks hbase hdir hdir' hopens hopens']

theorem entries_apart (hopens : m.Opens dir k) : (entriesOf m dir).Pairwise fun p q => ¬p.Same q := by
  obtain ⟨cs, hcs⟩ := hopens.dir
  rw [hopens.entries_eq htree hlinks hcs, List.pairwise_map]
  refine (htree.nodup hcs).imp_of_mem ?_
  intro n n' hn hn' hne hsame
  rw [Path.Same, Path.components_join_name (htree.named k n ⟨cs, hcs, hn⟩),
    Path.components_join_name (htree.named k n' ⟨cs, hcs, hn'⟩)] at hsame
  exact hne (Component.name.inj (List.singleton_inj.mp (List.append_cancel_left hsame)))

theorem found_apart (hbase : m.Opens base root) (filter : Option Pattern) :
    (found m base filter).Pairwise fun p q => ¬p.Same q := by
  obtain ⟨-, hwalked⟩ := walk_opened htree hlinks hbase filter
  have hapart : (opened m base).Pairwise fun d d' => ¬(identity m d).Same (identity m d') :=
    (List.pairwise_reverse.mp hwalked.apart).imp fun hne hsame => hne hsame.symm
  rw [found, List.pairwise_flatMap]
  constructor
  · intro dir hdir
    obtain ⟨k, hopens, -⟩ := opened_opens htree hlinks hbase hdir
    exact (entries_apart htree hlinks hopens).filter _
  · refine hapart.imp_of_mem ?_
    intro dir dir' hdir hdir' hne p hp p' hp' hsame
    obtain ⟨k, hopens, -⟩ := opened_opens htree hlinks hbase hdir
    obtain ⟨k', hopens', -⟩ := opened_opens htree hlinks hbase hdir'
    obtain ⟨n, -, hn, rfl, -⟩ := (hopens.mem_files_among htree hlinks).mp hp
    obtain ⟨n', -, hn', rfl, -⟩ := (hopens'.mem_files_among htree hlinks).mp hp'
    rw [Path.Same, Path.components_join_name hn, Path.components_join_name hn'] at hsame
    obtain ⟨hdirs, -⟩ := List.append_inj' hsame rfl
    obtain ⟨i, -, hresolves⟩ := hopens.resolves
    obtain ⟨i', -, hresolves'⟩ := hopens'.resolves
    rw [← hdirs] at hresolves'
    apply hne
    rw [Path.Same, hopens.identity htree hlinks, hopens'.identity htree hlinks]
    exact (hresolves.unique htree hresolves').2

end Walk

def filesWithin (m : Memory) (root : Key) : Set Key :=
  {k | ∃ dir n bytes, m.Reachable root dir ∧ k = dir ++ [.name n] ∧ m.get? k = some (.file bytes)}

theorem found_bij_on (htree : m.Tree) (hlinks : m.LinksAbsolute) (hbase : m.Opens base root)
    (hhops : ∀ p, Met m base p → ∀ i k, m.Resolves i p.components k → i ≤ maxLinkHops) :
    Set.BijOn (fun p => (identity m p).components) {p | p ∈ found m base none} (m.filesWithin root) := by
  have hfound : ∀ p, p ∈ found m base none ↔ (∃ key, m.FoundAs base p key) ∧ passes m base none p = true :=
    fun p => mem_found_iff htree hlinks hbase
  refine ⟨?_, ?_, ?_⟩
  · -- what is found lies in an opened directory, and these are within reach
    intro p hp
    obtain ⟨⟨key, hkey⟩, -⟩ := (hfound p).mp hp
    change (identity m p).components ∈ m.filesWithin root
    rw [(hkey.identity htree hlinks).2]
    obtain ⟨dir, hdir, k, n, bytes, hopens, hn, rfl, rfl, hbytes⟩ := hkey
    obtain ⟨k', hopens', hreach⟩ := opened_opens htree hlinks hbase hdir
    rw [← hopens'.identity htree hlinks, hopens.identity htree hlinks] at hreach
    exact ⟨k, n, bytes, hreach, rfl, hbytes⟩
  · intro p hp q hq heq
    obtain ⟨⟨key, hkey⟩, -⟩ := (hfound p).mp hp
    obtain ⟨⟨key', hkey'⟩, -⟩ := (hfound q).mp hq
    change (identity m p).components = (identity m q).components at heq
    rw [(hkey.identity htree hlinks).2, (hkey'.identity htree hlinks).2] at heq
    subst heq
    exact FoundAs.path_unique htree hlinks hbase hkey hkey'
  · rintro key ⟨k, n, bytes, hreach, rfl, hbytes⟩
    obtain ⟨dir, hdir, hopens⟩ := reachable_opened htree hlinks hbase hhops hreach
    have hkey : m.FoundAs base (dir.join ⟨n⟩) (k ++ [.name n]) :=
      ⟨dir, hdir, k, n, bytes, hopens, htree.name_of_stored hbytes, rfl, rfl, hbytes⟩
    exact ⟨dir.join ⟨n⟩, (hfound _).mpr ⟨⟨_, hkey⟩, rfl⟩, (hkey.identity htree hlinks).2⟩

/-- In a tree with links, a walk without a filter finds the files in the directories within reach of its base,
each under exactly one path, in strict order, and no links. No path that it meets may lead anywhere through more
links than are followed; links that lead nowhere, or in a circle, do no harm. -/
theorem each_file_once (htree : m.Tree) (hlinks : m.LinksAbsolute) {d : Path} (habs : d.isAbsolute = true)
    (hdir : FileSystem.isDir m d = true)
    (hhops : ∀ p, Met m d p → ∀ i k, m.Resolves i p.components k → i ≤ maxLinkHops) :
    ∃ files root, walkFiles m d none = .ok files ∧ FileSystem.canonicalize m d = .ok root ∧
      (files.Pairwise fun p q => p.precedes q = true) ∧
      (∀ p ∈ files, FileSystem.isLink m p = false ∧ FileSystem.canonicalize m p = .ok (identity m p)) ∧
      Set.BijOn (fun p => (identity m p).components) {p | p ∈ files} (m.filesWithin root.components) := by
  obtain ⟨root, hbase⟩ := (opens_iff htree hlinks).mpr ⟨habs, hdir⟩
  obtain ⟨hwalk, -⟩ := walk_opened htree hlinks hbase none
  have hroot := hbase.canonicalize htree hlinks
  refine ⟨_, _, hwalk, hroot, ?_, ?_, ?_⟩
  · exact Path.sort_strict (found_apart htree hlinks hbase none)
  · intro p hp
    obtain ⟨⟨key, hkey⟩, -⟩ := (mem_found_iff htree hlinks hbase).mp (Path.mem_sort.mp hp)
    exact ⟨hkey.not_link htree hlinks, (hkey.identity htree hlinks).1⟩
  · simp only [Path.mem_sort]
    rw [hbase.identity htree hlinks]
    exact found_bij_on htree hlinks hbase hhops

/-- A link back to the base, a directory outside and two links to it, one behind the other. -/
def aliases : Memory :=
  ((((new.addFile ⟨"/p/a/f.txt"⟩ []).addLink ⟨"/p/a/back"⟩ ⟨"/p"⟩).addFile ⟨"/shared/logo.png"⟩ []).addLink
    ⟨"/p/img"⟩ ⟨"/shared"⟩).addLink ⟨"/p/pics"⟩ ⟨"/p/img"⟩

theorem aliases_walk :
    (aliases.isTree ∧ aliases.hasLinksAbsolute) ∧ FileSystem.isDir aliases (⟨"/p"⟩ : Path) = true ∧
    found aliases ⟨"/p"⟩ none = [⟨"/p/pics/logo.png"⟩, ⟨"/p/a/f.txt"⟩] ∧
    ∀ p ∈ (opened aliases ⟨"/p"⟩).flatMap (entriesOf aliases),
      p.isAbsolute = true ∧ aliases.follow? (aliases.resolve p) = none := by
  decide +kernel

theorem each_file_once_aliases :
    ∃ files root, walkFiles aliases ⟨"/p"⟩ none = .ok files ∧
      FileSystem.canonicalize aliases (⟨"/p"⟩ : Path) = .ok root ∧
      (files.Pairwise fun p q => p.precedes q = true) ∧
      (∀ p, p ∈ files ↔ p = ⟨"/p/pics/logo.png"⟩ ∨ p = ⟨"/p/a/f.txt"⟩) ∧
      Set.BijOn (fun p => (identity aliases p).components) {p | p ∈ files} (aliases.filesWithin root.components) := by
  obtain ⟨⟨hshape, hchecked⟩, hdir, hfound, hmet⟩ := aliases_walk
  have htree := tree_of_is_tree hshape
  have hlinks := links_absolute_of_has_links_absolute hchecked
  have habs : (⟨"/p"⟩ : Path).isAbsolute = true := by decide
  have hhops : ∀ p, Met aliases ⟨"/p"⟩ p → ∀ i k, aliases.Resolves i p.components k → i ≤ maxLinkHops := by
    intro p hp i k hresolves
    obtain ⟨hpabs, hend⟩ := hmet p (List.mem_flatMap.mpr hp)
    exact hresolves.le_of_link_free htree hlinks hpabs (follow?_none.mp hend)
  obtain ⟨files, root, hwalk, hroot, horder, -, hbij⟩ := each_file_once htree hlinks habs hdir hhops
  refine ⟨files, root, hwalk, hroot, horder, ?_, hbij⟩
  obtain ⟨k, hbase⟩ := (opens_iff htree hlinks).mpr ⟨habs, hdir⟩
  obtain ⟨hwalk', -⟩ := walk_opened htree hlinks hbase none
  obtain rfl := Except.ok.inj (hwalk.symm.trans hwalk')
  intro p
  rw [hfound, Path.mem_sort]
  simp

end Memory

end BundleWatch
