import BundleWatch.Proofs.Files.Rooted

/-!
# Trees in memory

A memory is a tree if all its entries lie below the root, each in a directory that lists it once, and directories
list nothing else.
-/

set_option autoImplicit false

namespace BundleWatch

instance (n : String) : Decidable (IsName n) := inferInstanceAs (Decidable (_ ∧ _))

def Component.IsPlain : Component → Prop
  | .name n => IsName n
  | _ => False

instance : DecidablePred Component.IsPlain
  | .name n => inferInstanceAs (Decidable (IsName n))
  | .root | .here | .up => isFalse id

def Key.IsAbsolute (k : Key) : Prop := k.head? = some .root ∧ ∀ c ∈ k.tail, c.IsPlain

instance (k : Key) : Decidable k.IsAbsolute := inferInstanceAs (Decidable (_ ∧ _))

theorem Key.is_absolute_concat {up : Key} (hup : up ≠ []) (c : Component) :
    Key.IsAbsolute (up ++ [c]) ↔ up.IsAbsolute ∧ c.IsPlain := by
  obtain ⟨d, rest, rfl⟩ := List.exists_cons_of_ne_nil hup
  simp only [Key.IsAbsolute, List.cons_append, List.head?_cons, List.tail_cons, List.forall_mem_append,
    List.forall_mem_singleton, and_assoc]

theorem Key.IsAbsolute.cases {k : Key} (h : k.IsAbsolute) :
    k = Key.root ∨ ∃ (up : Key) (n : String), up ≠ [] ∧ up.IsAbsolute ∧ k = up ++ [.name n] := by
  rcases List.eq_nil_or_concat k with rfl | ⟨up, c, rfl⟩
  · cases h.1
  · rw [List.concat_eq_append] at h ⊢
    by_cases hup : up = []
    · subst hup
      obtain rfl := Option.some.inj h.1
      exact .inl rfl
    · obtain ⟨habs, hplain⟩ := (Key.is_absolute_concat hup c).mp h
      cases c with
      | name n => exact .inr ⟨up, n, hup, habs, rfl⟩
      | root => cases hplain
      | here => cases hplain
      | up => cases hplain

namespace Memory

structure Tree (m : Memory) : Prop where
  absolute : ∀ k e, m.get? k = some e → k = Key.here ∨ k.IsAbsolute
  inDir : ∀ k n e, m.get? (k ++ [.name n]) = some e → ∃ cs, m.get? k = some (.dir cs)
  listed : ∀ k cs, m.get? k = some (.dir cs) →
    ∀ n, cs.count n = if m.has (k ++ [.name n]) then 1 else 0

def NoLinks (m : Memory) : Prop := ∀ k target, m.get? k ≠ some (.link target)

variable {m : Memory} {k : Key}

theorem NoLinks.link_free (h : m.NoLinks) (k : Key) : m.LinkFree k := fun j _ => h j

theorem NoLinks.not_link (h : m.NoLinks) (p : Path) : m.isLink p = false := by
  unfold isLink
  split
  · next target hlink => exact absurd hlink (h _ target)
  · rfl

theorem rooted_of_dirs (habs : ∀ k e, m.get? k = some e → k = Key.here ∨ k.IsAbsolute)
    (hdirs : ∀ k n e, m.get? (k ++ [.name n]) = some e → ∃ cs, m.get? k = some (.dir cs)) : m.Rooted := by
  intro k e he
  rcases habs k e he with hhere | habs
  · exact .inl hhere
  · rcases habs.cases with hroot | ⟨up, n, hup, -, rfl⟩
    · exact .inr (.inl hroot)
    · obtain ⟨cs, hcs⟩ := hdirs up n e he
      exact .inr (.inr ⟨up, cs, Key.parent?_concat hup _, hcs⟩)

namespace Tree

variable {cs : List String} {n : String}

theorem mem_listed (h : m.Tree) (hdir : m.get? k = some (.dir cs)) :
    n ∈ cs ↔ ∃ e, m.get? (k ++ [.name n]) = some e := by
  have hcount := h.listed k cs hdir n
  rw [← List.count_pos_iff, hcount, ← Option.isSome_iff_exists]
  change 0 < (if (m.get? (k ++ [.name n])).isSome = true then 1 else 0) ↔ _
  split <;> simp [*]

theorem nodup (h : m.Tree) (hdir : m.get? k = some (.dir cs)) : cs.Nodup := by
  rw [List.nodup_iff_count]
  intro n
  rw [h.listed k cs hdir n]
  split <;> omega

theorem name_of_stored (h : m.Tree) {e : Entry} (he : m.get? (k ++ [.name n]) = some e) : IsName n := by
  rcases h.absolute _ e he with hhere | ⟨hroot, hplain⟩
  · have hlast := congrArg List.getLast? hhere
    simp [Key.here] at hlast
  · apply hplain (.name n)
    rcases k with _ | ⟨c, k⟩
    · simp at hroot
    · simp

theorem named (h : m.Tree) : m.Named := by
  rintro k n ⟨cs, hdir, hin⟩
  obtain ⟨e, he⟩ := (h.mem_listed hdir).mp hin
  exact h.name_of_stored he

theorem rooted (h : m.Tree) : m.Rooted := rooted_of_dirs h.absolute h.inDir

end Tree

/-! ## Recognizing trees -/

def isDirAt (m : Memory) (k : Key) : Bool :=
  match m.get? k with
  | some (.dir _) => true
  | _ => false

def isTree (m : Memory) : Bool :=
  m.entries.all fun x =>
    decide (x.1 = Key.here ∨ x.1.IsAbsolute) && (x.1.name?.isNone || m.isDirAt x.1.dropLast) &&
      match x.2 with
      | .dir cs => decide cs.Nodup && cs.all (fun c => m.has (x.1 ++ [.name c])) &&
        m.entries.all fun y => y.1.dropLast ≠ x.1 || y.1.name?.all (· ∈ cs)
      | _ => true

def hasNoLinks (m : Memory) : Bool :=
  m.entries.all fun x =>
    match x.2 with
    | .link _ => false
    | _ => true

theorem no_links_of_has_no_links (h : m.hasNoLinks = true) : m.NoLinks := by
  intro k target hlink
  have hcheck := List.all_eq_true.mp h _ (get?_entry hlink)
  cases hcheck

theorem is_dir_at_eq_true {k : Key} (h : m.isDirAt k = true) : ∃ cs, m.get? k = some (.dir cs) := by
  unfold isDirAt at h
  split at h
  · next cs hcs => exact ⟨cs, hcs⟩
  · cases h

theorem tree_of_is_tree (h : m.isTree = true) : m.Tree := by
  have hname : ∀ (k : Key) n, Key.name? (k ++ [.name n]) = some n := fun k n => Key.name?_concat k _
  have hcheck := fun k e he => List.all_eq_true.mp h (k, e) (get?_entry he)
  simp only [Bool.and_eq_true, decide_eq_true_eq] at hcheck
  constructor
  · exact fun k e he => (hcheck k e he).1.1
  · intro k n e he
    have hdir := (hcheck _ e he).1.2
    rw [hname, List.dropLast_concat] at hdir
    exact is_dir_at_eq_true hdir
  · intro k cs hcs n
    have hlists := (hcheck k _ hcs).2
    simp only [Bool.and_eq_true, decide_eq_true_eq] at hlists
    obtain ⟨⟨hnodup, hthere⟩, hall⟩ := hlists
    rw [hnodup.count]
    congr 1
    rw [eq_iff_iff]
    constructor
    · exact List.all_eq_true.mp hthere n
    · intro hhas
      obtain ⟨e, he⟩ := Option.isSome_iff_exists.mp hhas
      have hin := List.all_eq_true.mp hall _ (get?_entry he)
      simpa [hname] using hin

end Memory

end BundleWatch
