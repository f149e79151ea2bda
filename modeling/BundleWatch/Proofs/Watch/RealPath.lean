import BundleWatch.Proofs.Watch.Reach

/-!
# The path under which a walk sees a file

A walk opens every directory below its base, but under the path that came first: this may be a link to the
directory. The filter is asked about that path, and not about the one on which no link stands.
-/

set_option autoImplicit false

namespace BundleWatch.Memory

open FileSystem

variable {m : Memory} {base d dir p q : Path} {k k' root : Key} {e : Entry} {n : String} {ms ns : List String}

theorem Opens.unique (htree : m.Tree) (h : m.Opens p k) (h' : m.Opens p k') : k = k' := by
  obtain ⟨i, -, hresolves⟩ := h.resolves
  obtain ⟨i', -, hresolves'⟩ := h'.resolves
  exact (hresolves.unique htree hresolves').2

/-- An opened directory is the base, or bears its name in the directory above it, or is a link. -/
theorem opened_cases (htree : m.Tree) (hlinks : m.LinksAbsolute) (hbase : m.Opens base root)
    (hdir : dir ∈ opened m base) (hk : m.Opens dir k) (hq : q ∈ opened m base) (hqk : m.Opens q (k ++ [.name n])) :
    q = base ∨ q = dir.join ⟨n⟩ ∨ (Met m base q ∧ FileSystem.isLink m q = true) := by
  rcases opened_origin hq with hstart | ⟨hmet, -⟩
  · exact .inl hstart
  · by_cases hlink : FileSystem.isLink m q = true
    · exact .inr (.inr ⟨hmet, hlink⟩)
    · obtain ⟨dir', hdir', hin⟩ := hmet
      obtain ⟨k', hk', -⟩ := opened_opens htree hlinks hbase hdir'
      obtain ⟨n', e, hn', rfl, -⟩ := (hk'.mem_entries htree hlinks).mp hin
      rw [hk'.is_link_join htree hlinks hn'] at hlink
      obtain ⟨l, -, hl⟩ := hk'.join_solid hn' fun target htarget => hlink ⟨target, htarget⟩
      obtain ⟨i, -, hresolves⟩ := hqk.resolves
      obtain ⟨hkeys, hlast⟩ := List.append_inj' (hl.unique htree hresolves).2 rfl
      obtain rfl := Component.name.inj (List.singleton_inj.mp hlast)
      obtain rfl := opened_unique htree hlinks hbase hdir hdir' hk (hkeys ▸ hk')
      exact .inr (.inl rfl)

theorem Tree.opens (htree : m.Tree) (habs : p.isAbsolute = true) {cs : List String}
    (hcs : m.get? p.components = some (.dir cs)) : m.Opens p p.components where
  absolute := habs
  resolves := ⟨0, Nat.zero_le _, .here (htree.rooted.link_free_of_stored hcs fun _ => Entry.noConfusion)⟩
  dir := ⟨cs, hcs⟩

theorem Tree.above_join (htree : m.Tree) (habs : d.isAbsolute = true) (hns : ∀ n ∈ ns, IsName n) (hn : IsName n)
    (he : m.get? ((d.descend ns).join ⟨n⟩).components = some e) (hms : ms <+: ns) :
    ∃ cs, m.get? (d.descend ms).components = some (.dir cs) := by
  obtain ⟨rest, rfl⟩ := hms
  have hbelow := Path.components_descend (p := d) fun n hn => hns n (List.mem_append_left rest hn)
  rw [Path.components_join_name hn, Path.components_descend hns, List.map_append, ← List.append_assoc,
    List.append_assoc, ← hbelow] at he
  refine htree.rooted.above ?_ (by simp) he
  have hhead := Path.is_absolute_iff.mp habs
  rw [hbelow]
  rcases hd : d.components with _ | ⟨c, cs⟩ <;> simp [hd] at hhead ⊢

/-- A link that the walk meets leads to one of the directories that lie below the base on the way along names. -/
def Aliased (m : Memory) (d : Path) (ns : List String) : Prop :=
  ∃ l ms, Met m d l ∧ FileSystem.isLink m l = true ∧ ms ≠ [] ∧ ms <+: ns ∧ (identity m l).Same (d.descend ms)

/-- A directory below the base is opened, and under its own path if no link leads to it or to one above it. -/
theorem descend_opened (htree : m.Tree) (hlinks : m.LinksAbsolute) (hbase : m.Opens d d.components)
    (hdirs : ∀ ms, ms <+: ns → ∃ cs, m.get? (d.descend ms).components = some (.dir cs))
    (hns : ∀ n ∈ ns, IsName n) :
    ∃ dir ∈ opened m d, m.Opens dir (d.descend ns).components ∧ (¬m.Aliased d ns → dir = d.descend ns) := by
  induction ns using List.reverseRecOn with
  | nil => exact ⟨d, base_opened m d, hbase, fun _ => rfl⟩
  | append_singleton ns n ih =>
    obtain ⟨dir, hdir, hopens, hitself⟩ := ih (fun ms hms => hdirs ms (hms.trans (List.prefix_append _ _)))
      (fun n hn => hns n (List.mem_append_left _ hn))
    have hn : IsName n := hns n (by simp)
    have hkey := Path.components_descend_concat hn d ns
    obtain ⟨cs, hcs⟩ := hdirs _ List.prefix_rfl
    rw [hkey] at hcs ⊢
    have hmet : Met m d (dir.join ⟨n⟩) :=
      ⟨dir, hdir, (hopens.mem_entries htree hlinks).mpr ⟨n, _, hn, rfl, hcs⟩⟩
    obtain ⟨q, hq, hqk⟩ := met_opened htree hlinks hbase hmet (hopens.join_opens hn hcs)
    refine ⟨q, hq, hqk, fun hnot => ?_⟩
    rcases opened_cases htree hlinks hbase hdir hopens hq hqk with rfl | rfl | ⟨hmet, hlink⟩
    · -- the base does not lie below itself
      have hsame := congrArg List.length (hbase.unique htree hqk)
      rw [← hkey, Path.components_descend hns] at hsame
      simp at hsame
    · have hnot' : ¬m.Aliased d ns := by
        rintro ⟨l, ms, hl, hlink, hne, hms, hsame⟩
        exact hnot ⟨l, ms, hl, hlink, hne, hms.trans (List.prefix_append _ _), hsame⟩
      rw [hitself hnot', Path.descend_concat]
    · refine absurd ⟨q, ns ++ [n], hmet, hlink, by simp, List.prefix_rfl, ?_⟩ hnot
      rw [Path.Same, hqk.identity htree hlinks, hkey]

/-- A regular file below the base, with no link on its path, is seen under exactly one path. The filter decides
about that path, which is the file's own unless a link leads to a directory on the way to it. -/
theorem seen_as_itself_unless_aliased (htree : m.Tree) (hlinks : m.LinksAbsolute) (habs : d.isAbsolute = true)
    (hns : ∀ n ∈ ns, IsName n) (hn : IsName n) (hfree : m.LinkFree ((d.descend ns).join ⟨n⟩).components)
    (hfile : FileSystem.isFile m ((d.descend ns).join ⟨n⟩) = true) (filter : Option Pattern) :
    ∃ all files q, walkFiles m d none = .ok all ∧ walkFiles m d filter = .ok files ∧
      (∀ r, r ∈ all ∧ (identity m r).Same ((d.descend ns).join ⟨n⟩) ↔ r = q) ∧
      (q ∈ files ↔ passes m d filter q = true) ∧
      (¬m.Aliased d ns → q = (d.descend ns).join ⟨n⟩) := by
  obtain ⟨bytes, hbytes⟩ := (is_file_iff hfree).mp hfile
  have hkey := Path.components_join_name hn (d.descend ns)
  have hdirs : ∀ ms, ms <+: ns → ∃ cs, m.get? (d.descend ms).components = some (.dir cs) :=
    fun ms => htree.above_join habs hns hn hbytes
  obtain ⟨cs, hcs⟩ := hdirs [] List.nil_prefix
  have hbase : m.Opens d d.components := htree.opens habs hcs
  obtain ⟨dir, hdir, hopens, hitself⟩ := descend_opened htree hlinks hbase hdirs hns
  have hfound : m.FoundAs d (dir.join ⟨n⟩) ((d.descend ns).join ⟨n⟩).components :=
    ⟨dir, hdir, _, n, bytes, hopens, hn, rfl, hkey, hbytes⟩
  have hin : dir.join ⟨n⟩ ∈ found m d none := (mem_found_iff htree hlinks hbase).mpr ⟨⟨_, hfound⟩, rfl⟩
  obtain ⟨hall, -⟩ := walk_opened htree hlinks hbase none
  obtain ⟨hfiles, -⟩ := walk_opened htree hlinks hbase filter
  refine ⟨_, _, dir.join ⟨n⟩, hall, hfiles, fun r => ⟨?_, ?_⟩, ?_, fun hnot => by rw [hitself hnot]⟩
  · rintro ⟨hr, hsame⟩
    obtain ⟨⟨key, hrkey⟩, -⟩ := (mem_found_iff htree hlinks hbase).mp (Path.mem_sort.mp hr)
    rw [Path.Same, (hrkey.identity htree hlinks).2] at hsame
    exact FoundAs.path_unique htree hlinks hbase (hsame ▸ hrkey) hfound
  · rintro rfl
    exact ⟨Path.mem_sort.mpr hin, (hfound.identity htree hlinks).2⟩
  · rw [Path.mem_sort, mem_found_filter]
    exact and_iff_right hin

theorem seen_as_itself_beside_aliases :
    ∃ files, walkFiles aliases ⟨"/p"⟩ (some (.exact "a/f.txt")) = .ok files ∧ ⟨"/p/a/f.txt"⟩ ∈ files := by
  have hpath : (Path.descend ⟨"/p"⟩ ["a"]).join ⟨"f.txt"⟩ = ⟨"/p/a/f.txt"⟩ := by decide +kernel
  have hfree : aliases.LinkFree ((Path.descend ⟨"/p"⟩ ["a"]).join ⟨"f.txt"⟩).components :=
    follow?_none.mp (by decide +kernel)
  have hfile : FileSystem.isFile aliases ((Path.descend ⟨"/p"⟩ ["a"]).join ⟨"f.txt"⟩) = true := by decide +kernel
  have helsewhere : ∀ l ∈ (opened aliases ⟨"/p"⟩).flatMap (entriesOf aliases), FileSystem.isLink aliases l = true →
      (identity aliases l).components ≠ (Path.descend ⟨"/p"⟩ ["a"]).components := by decide +kernel
  have hnot : ¬aliases.Aliased ⟨"/p"⟩ ["a"] := by
    rintro ⟨l, ms, hl, hlink, hne, hms, hsame⟩
    rcases List.prefix_cons_iff.mp hms with rfl | ⟨rest, rfl, hrest⟩
    · exact hne rfl
    · obtain rfl := List.prefix_nil.mp hrest
      exact helsewhere l (List.mem_flatMap.mpr hl) hlink hsame
  obtain ⟨hshape, hchecked⟩ := aliases_walk.1
  obtain ⟨-, files, q, -, hfiles, -, hpasses, hitself⟩ :=
    seen_as_itself_unless_aliased (tree_of_is_tree hshape) (links_absolute_of_has_links_absolute hchecked) (by decide)
      (by decide) (by decide) hfree hfile (some (.exact "a/f.txt"))
  obtain rfl := (hitself hnot).trans hpath
  exact ⟨files, hfiles, hpasses.mpr (by decide +kernel)⟩

def doubled : Memory := (new.addFile ⟨"/p/a/f.txt"⟩ (.ofText "x")).addLink ⟨"/p/z"⟩ ⟨"/p/a"⟩

/-- The walk comes to the link first, and the filter asks for the file's own path. -/
theorem alias_hides_file :
    (doubled.Tree ∧ doubled.LinksAbsolute) ∧ (⟨"/p"⟩ : Path).isAbsolute = true ∧
      FileSystem.isDir doubled (⟨"/p"⟩ : Path) = true ∧
      doubled.LinkFree (Path.mk "/p/a/f.txt").components ∧
      FileSystem.isFile doubled (⟨"/p/a/f.txt"⟩ : Path) = true ∧
      passes doubled ⟨"/p"⟩ (some (.exact "a/f.txt")) ⟨"/p/a/f.txt"⟩ = true ∧
      walkFiles doubled ⟨"/p"⟩ (some (.exact "a/f.txt")) = .ok [] := by
  have htree : doubled.Tree := tree_of_is_tree (by decide +kernel)
  have hlinks : doubled.LinksAbsolute := links_absolute_of_has_links_absolute (by decide +kernel)
  have habs : (⟨"/p"⟩ : Path).isAbsolute = true := by decide
  have hdir : FileSystem.isDir doubled (⟨"/p"⟩ : Path) = true := by decide +kernel
  obtain ⟨k, hbase⟩ := (opens_iff htree hlinks).mpr ⟨habs, hdir⟩
  obtain ⟨hwalk, -⟩ := walk_opened htree hlinks hbase (some (.exact "a/f.txt"))
  have hnone : found doubled ⟨"/p"⟩ (some (.exact "a/f.txt")) = [] := by decide +kernel
  rw [hnone, Path.sort, List.mergeSort_nil] at hwalk
  exact ⟨⟨htree, hlinks⟩, habs, hdir, follow?_none.mp (by decide +kernel), by decide +kernel, by decide +kernel, hwalk⟩

end BundleWatch.Memory
