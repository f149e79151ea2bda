import BundleWatch.Proofs.Files.Storage

/-!
# Resolution

Where no link stands on the way, a path leads to what is stored under its components, and so do the names that
its directory lists.
-/

set_option autoImplicit false

namespace BundleWatch.Memory

def LinkFree (m : Memory) (k : Key) : Prop := ∀ j, OnTheWay j k → ∀ target, m.get? j ≠ some (.link target)

theorem follow?_none {m : Memory} {p : Path} : m.follow? p = none ↔ m.LinkFree p.components := by
  unfold follow? LinkFree
  rw [List.findSome?_eq_none_iff]
  constructor
  · intro hnone j hj target hlink
    obtain ⟨a, ha, rfl⟩ := (p.ancestors_components j).mpr hj
    have hat := hnone a ha
    rw [hlink] at hat
    cases hat
  · intro hfree a ha
    have hat := hfree a.components ((p.ancestors_components _).mp ⟨a, ha, rfl⟩)
    split
    · next target hlink => exact absurd hlink (hat target)
    · rfl

theorem resolve_within_link_free {m : Memory} {p : Path} (h : m.LinkFree p.components) (n : Nat) :
    m.resolveWithin n p = p := by
  cases n with
  | zero => rfl
  | succ n => rw [resolveWithin, follow?_none.mpr h]

theorem resolve_eq {m : Memory} {p : Path} (h : m.LinkFree p.components) : m.resolve p = p :=
  resolve_within_link_free h maxLinkHops

theorem lookup?_eq {m : Memory} {p : Path} (h : m.LinkFree p.components) :
    m.lookup? p = m.get? p.components := by
  rw [lookup?, resolve_eq h]

theorem LinkFree.self {m : Memory} {k : Key} (h : m.LinkFree k) (target : Path) :
    m.get? k ≠ some (.link target) :=
  h k (.refl k) target

theorem LinkFree.above {m : Memory} {k : Key} (h : m.LinkFree k) {j : Key} (hj : OnTheWay j k) :
    m.LinkFree j := by
  intro i hi
  refine h i ⟨hi.1.trans hj.1, ?_⟩
  rintro rfl hroot
  have hne : j ≠ [] := fun hempty => hj.2 hempty hroot
  obtain ⟨c, cs, rfl⟩ := List.exists_cons_of_ne_nil hne
  obtain ⟨rest, rfl⟩ := hj.1
  exact hi.2 rfl hroot

theorem LinkFree.congr {m m' : Memory}
    (h : ∀ j target, m'.get? j = some (.link target) ↔ m.get? j = some (.link target)) (k : Key) :
    m'.LinkFree k ↔ m.LinkFree k := by
  simp only [LinkFree, ne_eq, h]

theorem on_the_way_append (k : Key) (ns : List String) : OnTheWay k (k ++ ns.map .name) := by
  refine ⟨List.prefix_append _ _, ?_⟩
  rintro rfl
  cases ns <;> simp

theorem LinkFree.child {m : Memory} {k : Key} (h : m.LinkFree k) {n : String}
    (hn : ∀ target, m.get? (k ++ [.name n]) ≠ some (.link target)) : m.LinkFree (k ++ [.name n]) := by
  rintro j ⟨hbegins, hroot⟩
  rcases List.prefix_concat_iff.mp hbegins with rfl | hup
  · exact hn
  · refine h j ⟨hup, ?_⟩
    rintro rfl hk
    obtain ⟨c, cs, rfl⟩ := List.exists_cons_of_ne_nil (l := k) (by rintro rfl; cases hk)
    exact hroot rfl hk

/-! ## Children of a directory -/

variable {m : Memory} {p : Path} {n : String}

/-- The place of a child is below the place to which its directory leads, however the directory is spelled. -/
theorem own_join (m : Memory) (p : Path) (hn : IsName n) :
    ∃ q : Path, q.components = p.components ∧
      (m.own (p.join ⟨n⟩)).components = (m.resolve q).components ++ [.name n] := by
  have hchild := Path.components_join_name hn p
  rcases hq : (p.join ⟨n⟩).parent? with _ | q
  · rcases Path.parent?_none hq with heq | heq
    · rw [hchild] at heq
      simp at heq
    · rw [hchild] at heq
      obtain ⟨-, hlast⟩ := List.append_inj' (heq.trans (List.nil_append _).symm) rfl
      cases List.singleton_inj.mp hlast
  · refine ⟨q, ?_, ?_⟩
    · rw [(Path.parent?_components hq).1, hchild, List.dropLast_concat]
    · rw [own, hq, Path.file_name?_of_components hchild]
      exact Path.components_join_name hn _

theorem is_link_iff : m.isLink p = true ↔ ∃ target, m.get? (m.own p).components = some (.link target) := by
  unfold isLink
  constructor
  · intro hlink
    split at hlink
    · next target heq => exact ⟨target, heq⟩
    · cases hlink
  · rintro ⟨target, heq⟩
    rw [heq]

theorem is_link_child (h : m.LinkFree p.components) (hn : IsName n) :
    m.isLink (p.join ⟨n⟩) = true ↔ ∃ target, m.get? (p.components ++ [.name n]) = some (.link target) := by
  obtain ⟨q, hq, hown⟩ := m.own_join p hn
  rw [is_link_iff, hown, resolve_eq (hq ▸ h), hq]

theorem is_dir_iff_lookup : m.isDir p = true ↔ ∃ cs, m.lookup? p = some (.dir cs) := by
  unfold isDir
  constructor
  · intro hdir
    split at hdir
    · next cs heq => exact ⟨cs, heq⟩
    · cases hdir
  · rintro ⟨cs, heq⟩
    rw [heq]

theorem is_dir_iff (h : m.LinkFree p.components) :
    m.isDir p = true ↔ ∃ cs, m.get? p.components = some (.dir cs) := by
  rw [is_dir_iff_lookup, lookup?_eq h]

theorem is_file_iff_lookup : m.isFile p = true ↔ ∃ bytes, m.lookup? p = some (.file bytes) := by
  unfold isFile
  constructor
  · intro hfile
    split at hfile
    · next bytes heq => exact ⟨bytes, heq⟩
    · cases hfile
  · rintro ⟨bytes, heq⟩
    rw [heq]

theorem is_file_iff (h : m.LinkFree p.components) :
    m.isFile p = true ↔ ∃ bytes, m.get? p.components = some (.file bytes) := by
  rw [is_file_iff_lookup, lookup?_eq h]

theorem contents_eq (h : m.LinkFree p.components) {bytes : Bytes}
    (hfile : m.get? p.components = some (.file bytes)) : m.contents p = .ok bytes := by
  rw [contents, lookup?_eq h, hfile]

theorem contents_lookup {bytes : Bytes} : m.contents p = .ok bytes ↔ m.lookup? p = some (.file bytes) := by
  unfold contents
  constructor
  · intro hread
    split at hread
    · next heq =>
      cases hread
      exact heq
    all_goals cases hread
  · intro heq
    rw [heq]

theorem read_bytes_eq (m : Memory) (p : Path) : FileSystem.readBytes m p = m.contents p := by
  change ((m.contents p).map Except.ok >>= _) = m.contents p
  cases m.contents p <;> rfl

theorem is_file_iff_contents : m.isFile p = true ↔ ∃ bytes, m.contents p = .ok bytes := by
  simp only [is_file_iff_lookup, contents_lookup]

theorem read_dir_lookup {cs : List String} (hdir : m.lookup? p = some (.dir cs)) :
    m.readDir p = .ok (cs.map fun n => p.join ⟨n⟩) := by
  rw [readDir, hdir]
  rfl

theorem read_dir_eq (h : m.LinkFree p.components) {cs : List String}
    (hdir : m.get? p.components = some (.dir cs)) : m.readDir p = .ok (cs.map fun n => p.join ⟨n⟩) :=
  read_dir_lookup ((lookup?_eq h).trans hdir)

theorem is_dir_reads : m.isDir p = true ↔ ∃ entries, m.readDir p = .ok entries := by
  unfold isDir readDir
  rcases m.lookup? p with _ | bytes | cs | target <;> simp [fail]

theorem get?_entry {k : Key} {e : Entry} (h : m.get? k = some e) : (k, e) ∈ m.entries := by
  obtain ⟨before, after, hentries, -⟩ := List.lookup_eq_some_iff.mp h
  simp [hentries]

theorem length_le_longest_key {k : Key} {e : Entry} (h : m.get? k = some e) :
    k.length ≤ m.longestKey := by
  obtain ⟨entries⟩ := m
  obtain ⟨before, after, rfl, -⟩ := List.lookup_eq_some_iff.mp h
  have hmax : ∀ (ns : List Nat) (a : Nat), a ≤ ns.foldl max a ∧ ∀ n ∈ ns, n ≤ ns.foldl max a := by
    intro ns
    induction ns with
    | nil => simp
    | cons n ns ih =>
      intro a
      obtain ⟨hle, hall⟩ := ih (max a n)
      refine ⟨Nat.le_trans (Nat.le_max_left a n) hle, ?_⟩
      intro i hi
      rcases List.mem_cons.mp hi with rfl | hi
      · exact Nat.le_trans (Nat.le_max_right a i) hle
      · exact hall i hi
  exact (hmax _ 0).2 _ (by simp)

end BundleWatch.Memory
