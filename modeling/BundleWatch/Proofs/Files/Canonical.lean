import BundleWatch.Proofs.Files.Spelling
import BundleWatch.Proofs.Files.Tree

/-!
# Canonical paths

Where all entries lie in directories, the path behind the links on the way to a file or a directory is a normal form.
The way may be cut short by the bound, but then it ends beneath a link or at one, and no file and no directory is
there. A child is reached over the same links as its directory.
-/

set_option autoImplicit false

namespace BundleWatch

namespace Memory

variable {m : Memory} {p q : Path} {k : Key} {n : String} {e : Entry}

/-! ## Places without links -/

/-- Where no link stands on the way, a path is its own place, if not by its spelling. -/
theorem own_same_self (h : m.LinkFree p.components) : (m.own p).Same p := by
  unfold own
  rcases hup : p.parent? with _ | up
  · rfl
  · rcases hname : p.fileName? with _ | n
    · rfl
    · obtain ⟨hcomponents, hne, hroot⟩ := Path.parent?_components hup
      have hwhole : up.components ++ [.name n] = p.components := by
        rw [hcomponents]
        exact List.dropLast_append_getLast? _ (Path.get_last?_of_file_name? hname)
      have hfree : m.LinkFree up.components := by
        refine h.above ⟨hwhole ▸ List.prefix_append _ _, fun hempty hhead => ?_⟩
        rw [← hwhole, hempty] at hhead
        cases hhead
      have hn : IsName n := Path.name_of_component (p := p) (by simp [← hwhole])
      change ((m.resolve up).join ⟨n⟩).Same p
      rw [resolve_eq hfree, Path.Same, Path.components_join_name hn, hwhole]

theorem LinkFree.not_is_link (h : m.LinkFree p.components) : m.isLink p = false := by
  rw [Bool.eq_false_iff]
  intro hlink
  obtain ⟨target, htarget⟩ := is_link_iff.mp hlink
  rw [(own_same_self h).eq] at htarget
  exact h.self target htarget

theorem LinkFree.ancestors (h : m.LinkFree p.components) {a : Path} (ha : a ∈ p.ancestors) :
    FileSystem.isLink m a = false ∧ ∀ target, m.get? a.components ≠ some (.link target) := by
  have hfree := h.above ((p.ancestors_components _).mp ⟨a, ha, rfl⟩)
  exact ⟨hfree.not_is_link, hfree.self⟩

theorem canonicalize_eq (he : m.get? (m.resolve p).components = some e) :
    FileSystem.canonicalize m p = .ok (m.resolve p) := by
  change m.canonicalize p = _
  rw [canonicalize, has, he]
  rfl

/-! ## Children behind links -/

theorem Rooted.follow?_join (h : m.Rooted) (hn : IsName n) (hq : m.follow? p = some q) :
    ∃ q', m.follow? (p.join ⟨n⟩) = some q' ∧ q'.Same (q.join ⟨n⟩) := by
  obtain ⟨a, target, rest, -, hlink, hrest, -⟩ := follow?_some hq
  have hparts := Path.below?_components hrest
  obtain ⟨q₁, hq₁, hcomponents⟩ := h.follow?_hop hparts hlink
  obtain rfl := Option.some.inj (hq.symm.trans hq₁)
  have hchild : (p.join ⟨n⟩).components = a.components ++ (rest.components ++ [.name n]) := by
    rw [Path.components_join_name hn, hparts, List.append_assoc]
  obtain ⟨q', hq', hcomponents'⟩ := h.follow?_hop hchild hlink
  refine ⟨q', hq', ?_⟩
  rw [Path.Same, hcomponents', Path.components_join_name hn, hcomponents, List.append_assoc]

/-- A path to which a name is joined is resolved like the path itself, if that ends where no link stands. -/
theorem Rooted.resolve_within_join (h : m.Rooted) (hn : IsName n) (i : Nat) {p : Path}
    (hfree : m.LinkFree ((m.resolveWithin i p).join ⟨n⟩).components) :
    (m.resolveWithin i (p.join ⟨n⟩)).Same ((m.resolveWithin i p).join ⟨n⟩) := by
  induction i generalizing p with
  | zero => rfl
  | succ i ih =>
    rcases hq : m.follow? p with _ | q
    · have hends : m.resolveWithin (i + 1) p = p := by rw [resolveWithin, hq]
      rw [hends] at hfree ⊢
      rw [resolve_within_link_free hfree]
      rfl
    · have hnext : m.resolveWithin (i + 1) p = m.resolveWithin i q := by rw [resolveWithin, hq]
      obtain ⟨q', hq', hsame⟩ := h.follow?_join hn hq
      rw [hnext] at hfree ⊢
      rw [resolveWithin, hq']
      exact (resolve_within_same i hsame).trans (ih hfree)

/-! ## Main statement -/

/-- Resolving a path to a file or a directory gives a path over which no link leads and which resolves to itself. Both
lead to the same entry and list the same names, and a child of one resolves to the child of the other. -/
theorem canonical_form (h : m.Rooted) (hthere : FileSystem.isFile m p = true ∨ FileSystem.isDir m p = true) :
    ∃ q, FileSystem.canonicalize m p = .ok q ∧
      (∀ a ∈ q.ancestors, FileSystem.isLink m a = false ∧ ∀ target, m.get? a.components ≠ some (.link target)) ∧
      FileSystem.canonicalize m q = .ok q ∧
      m.lookup? p = m.lookup? q ∧
      ((∃ f g, FileSystem.readDir m p = .error f ∧ FileSystem.readDir m q = .error g) ∨
        ∃ ns : List String, FileSystem.readDir m p = .ok (ns.map fun n => p.join ⟨n⟩) ∧
          FileSystem.readDir m q = .ok (ns.map fun n => q.join ⟨n⟩)) ∧
      ∀ n e, IsName n → m.get? (q.join ⟨n⟩).components = some e → (∀ target, e ≠ .link target) →
        ∃ r, FileSystem.canonicalize m (p.join ⟨n⟩) = .ok r ∧ r.Same (q.join ⟨n⟩) := by
  obtain ⟨e, he, hsolid⟩ : ∃ e, m.get? (m.resolve p).components = some e ∧ ∀ target, e ≠ .link target := by
    rcases hthere with hfile | hdir
    · obtain ⟨bytes, hbytes⟩ := is_file_iff_lookup.mp hfile
      exact ⟨_, hbytes, fun _ => Entry.noConfusion⟩
    · obtain ⟨cs, hcs⟩ := is_dir_iff_lookup.mp hdir
      exact ⟨_, hcs, fun _ => Entry.noConfusion⟩
  have hfree : m.LinkFree (m.resolve p).components := h.link_free_of_stored he hsolid
  have hself : m.resolve (m.resolve p) = m.resolve p := resolve_eq hfree
  have hlookup : m.lookup? p = m.lookup? (m.resolve p) := by rw [lookup?, lookup?, hself]
  refine ⟨m.resolve p, canonicalize_eq he, fun a => hfree.ancestors, ?_, hlookup, ?_, fun n f hn hf hfsolid => ?_⟩
  · have hagain : m.get? (m.resolve (m.resolve p)).components = some e := by rw [hself, he]
    rw [canonicalize_eq hagain, hself]
  · change (∃ f g, m.readDir p = .error f ∧ m.readDir (m.resolve p) = .error g) ∨
      ∃ ns : List String, m.readDir p = .ok _ ∧ m.readDir (m.resolve p) = .ok _
    unfold readDir
    rw [← hlookup]
    rcases m.lookup? p with _ | bytes | cs | target
    · exact .inl ⟨_, _, rfl, rfl⟩
    · exact .inl ⟨_, _, rfl, rfl⟩
    · exact .inr ⟨cs, rfl, rfl⟩
    · exact .inl ⟨_, _, rfl, rfl⟩
  · have hsame := h.resolve_within_join hn maxLinkHops (h.link_free_of_stored hf hfsolid)
    refine ⟨_, canonicalize_eq (e := f) ?_, hsame⟩
    rw [resolve, hsame.eq]
    exact hf

/-- A directory behind two links, and a link that leads further with every step. -/
def tangled : Memory :=
  (((new.addFile ⟨"/p/real/a.txt"⟩ (.ofText "a")).addLink ⟨"/p/first"⟩ ⟨"/p/second/."⟩).addLink ⟨"/p/second"⟩
    ⟨"/p/real"⟩).addLink ⟨"/p/loop"⟩ ⟨"/p/loop/on"⟩

theorem canonical_form_tangled :
    (tangled.Rooted ∧ FileSystem.isDir tangled (⟨"/p/first"⟩ : Path) = true) ∧
      ∃ q, FileSystem.canonicalize tangled (⟨"/p/first"⟩ : Path) = .ok q ∧
        (∀ a ∈ q.ancestors, FileSystem.isLink tangled a = false) ∧
        ∃ r, FileSystem.canonicalize tangled ((⟨"/p/first"⟩ : Path).join ⟨"a.txt"⟩) = .ok r ∧
          r.Same (q.join ⟨"a.txt"⟩) := by
  have hrooted : tangled.Rooted := (tree_of_is_tree (by decide +kernel)).rooted
  have hdir : FileSystem.isDir tangled (⟨"/p/first"⟩ : Path) = true := by decide +kernel
  have hreal : FileSystem.canonicalize tangled (⟨"/p/first"⟩ : Path) = .ok ⟨"/p/real"⟩ := by decide +kernel
  obtain ⟨q, hq, habove, -, -, -, hchild⟩ := canonical_form hrooted (.inr hdir)
  obtain rfl := Except.ok.inj (hreal.symm.trans hq)
  refine ⟨⟨hrooted, hdir⟩, _, hq, fun a ha => (habove a ha).1, ?_⟩
  exact hchild "a.txt" (.file (.ofText "a")) (by decide) (by decide +kernel) fun _ => Entry.noConfusion

end Memory

end BundleWatch
