import BundleWatch.Proofs.Files.Parents

/-!
# Storage

Adding an entry stores it under its key, makes the directories above it that are missing, and lists each entry
that is new in the directory above. Files and links elsewhere stay as they are, and so does what directories
listed before.
-/

set_option autoImplicit false

namespace BundleWatch

namespace Memory

def Lists (m : Memory) (k : Key) (n : String) : Prop := ∃ cs, m.get? k = some (.dir cs) ∧ n ∈ cs

theorem lists_put_solid {m : Memory} {k : Key} {e : Entry} (he : ∀ cs, e ≠ .dir cs) (j : Key)
    (n : String) : (m.put k e).Lists j n ↔ j ≠ k ∧ m.Lists j n := by
  unfold Lists
  rw [get?_put]
  by_cases hj : j = k <;> simp [hj, he]

/-! ## What adding an entry changes -/

/-- Directories were made and names were listed in them, each for a key of some kind. -/
structure Grown (fresh : Key → Prop) (m m' : Memory) : Prop where
  solid : ∀ k e, (∀ cs, e ≠ .dir cs) → (m'.get? k = some e ↔ m.get? k = some e)
  kept : ∀ k n, m.Lists k n → m'.Lists k n
  listed : ∀ k n, m'.Lists k n → m.Lists k n ∨ ∃ j, fresh j ∧ j.parent? = some k ∧ j.name? = some n

variable {fresh : Key → Prop}

theorem Grown.refl (m : Memory) : Grown fresh m m := ⟨fun _ _ _ => .rfl, fun _ _ => id, fun _ _ => .inl⟩

theorem Grown.trans {m m' m'' : Memory} (h : Grown fresh m m') (hn : Grown fresh m' m'') :
    Grown fresh m m'' where
  solid k e he := (hn.solid k e he).trans (h.solid k e he)
  kept k n hl := hn.kept k n (h.kept k n hl)
  listed k n hl := by
    rcases hn.listed k n hl with hl | hnew
    · exact h.listed k n hl
    · exact .inr hnew

theorem grown_put {m : Memory} {k : Key} (h : m.has k = false) : Grown fresh m (m.put k (.dir [])) := by
  have hnone : m.get? k = none := by simpa [has] using h
  constructor
  · intro j e he
    rw [get?_put]
    split
    · next heq =>
      rw [heq, hnone]
      simp [he [] |>.symm]
    · rfl
  · rintro j n ⟨cs, hcs, hin⟩
    have hne : j ≠ k := by
      rintro rfl
      rw [hnone] at hcs
      cases hcs
    exact ⟨cs, by rw [get?_put, if_neg hne, hcs], hin⟩
  · rintro j n ⟨cs, hcs, hin⟩
    rw [get?_put] at hcs
    split at hcs
    · cases hcs
      cases hin
    · exact .inl ⟨cs, hcs, hin⟩

theorem grown_add_child {m : Memory} {j k : Key} (hj : fresh j) (hparent : j.parent? = some k) :
    Grown fresh m (m.addChild k j.name?) := by
  unfold addChild
  split
  · next cs n hdir hname =>
    split
    · exact .refl m
    · constructor
      · intro i e he
        rw [get?_put]
        split
        · next heq =>
          rw [heq, hdir]
          simp [(he _).symm]
        · rfl
      · rintro i o ⟨ds, hds, hin⟩
        by_cases heq : i = k
        · subst heq
          rw [hdir] at hds
          cases hds
          exact ⟨cs ++ [n], by rw [get?_put, if_pos rfl], List.mem_append_left _ hin⟩
        · exact ⟨ds, by rw [get?_put, if_neg heq, hds], hin⟩
      · rintro i o ⟨ds, hds, hin⟩
        rw [get?_put] at hds
        split at hds
        · next heq =>
          subst heq
          cases hds
          rcases List.mem_append.mp hin with hin | hin
          · exact .inl ⟨cs, hdir, hin⟩
          · rw [List.mem_singleton.mp hin]
            exact .inr ⟨j, hj, hparent, (Option.bind_fun_some _).symm.trans hname⟩
        · exact .inl ⟨ds, hds, hin⟩
  · exact .refl m

theorem Makes.grown {made : Key → Prop} {m m' : Memory} (h : Makes made fresh m m') : Grown fresh m m' := by
  induction h with
  | start => exact .refl m
  | dir _ _ hnone ih => exact ih.trans (grown_put hnone)
  | listed _ _ hj hparent ih => exact ih.trans (grown_add_child hj hparent)

theorem Makes.frame [Encoding] {made : Key → Prop} {m m' : Memory} (h : Makes made fresh m m') (j : Key) :
    m'.get? j = m.get? j ∨ made j ∧ ∃ cs, m'.get? j = some (.dir cs) := by
  induction h with
  | start => exact .inl rfl
  | dir _ hk _ ih =>
    rw [get?_put]
    split
    · next heq => exact .inr ⟨heq ▸ hk, [], rfl⟩
    · exact ih
  | listed _ hup _ _ ih =>
    unfold addChild
    split
    · split
      · exact ih
      · rw [get?_put]
        split
        · next heq => exact .inr ⟨heq ▸ hup, _, rfl⟩
        · exact ih
    · exact ih

structure Stored (m m' : Memory) (k : Key) (e : Entry) : Prop where
  solid : ∀ j f, (∀ cs, f ≠ .dir cs) → (m'.get? j = some f ↔ if j = k then f = e else m.get? j = some f)
  kept : ∀ j n, j ≠ k → m.Lists j n → m'.Lists j n
  listed : ∀ j n, m'.Lists j n →
    m.Lists j n ∨ ∃ i, (i = k ∨ m.Missing k i) ∧ i.parent? = some j ∧ i.name? = some n

theorem stored {e : Entry} (he : ∀ cs, e ≠ .dir cs) (m : Memory) (k : Key) :
    Stored m ((m.put k e).listInParent k) k e := by
  have hgrown := ((m.put k e).list_in_parent_makes k).grown
  constructor
  · intro j f hf
    rw [hgrown.solid j f hf, get?_put]
    split
    · simp [eq_comm]
    · rfl
  · intro j n hj hl
    exact hgrown.kept j n ((lists_put_solid he j n).mpr ⟨hj, hl⟩)
  · intro j n hl
    rcases hgrown.listed j n hl with hold | ⟨i, rfl | ⟨hup, hnone⟩, hnew⟩
    · exact .inl ((lists_put_solid he j n).mp hold).2
    · exact .inr ⟨i, .inl rfl, hnew⟩
    · rw [get?_put] at hnone
      split at hnone
      · cases hnone
      · exact .inr ⟨i, .inr ⟨hup, hnone⟩, hnew⟩

theorem add_file_stored (m : Memory) (p : Path) (bytes : Bytes) :
    Stored m (m.addFile p bytes) p.components (.file bytes) :=
  stored (fun _ => Entry.noConfusion) m p.components

/-- What is made or changed beside a file that is added are directories above it. -/
theorem add_file_frame (m : Memory) (p : Path) (bytes : Bytes) {j : Key} (hj : j ≠ p.components) :
    (m.addFile p bytes).get? j = m.get? j ∨
      j.IsAbove p.components ∧ ∃ cs, (m.addFile p bytes).get? j = some (.dir cs) := by
  have hframe := ((m.put p.components (.file bytes)).list_in_parent_makes p.components).frame j
  rwa [get?_put, if_neg hj] at hframe

theorem add_link_stored (m : Memory) (p target : Path) :
    Stored m (m.addLink p target) p.components (.link target) :=
  stored (fun _ => Entry.noConfusion) m p.components

theorem write_eq (m : Memory) (p : Path) (bytes : Bytes) :
    FileSystem.write m p bytes = (m.addFile p bytes, .ok ()) :=
  rfl

/-! ## States that can be built -/

/-- What can be made of an empty memory from outside. Writing and copying files adds files. -/
inductive Built : Memory → Prop
  | none : Built ⟨[]⟩
  | new : Built new
  | place {m : Memory} (item : LayoutItem) : Built m → Built (m.place item)
  | remove {m : Memory} (p : Path) : Built m → Built (m.remove p)

def Named (m : Memory) : Prop := ∀ k n, m.Lists k n → IsName n

theorem name_of_key {p : Path} {j : Key} {n : String} (hj : j <+: p.components)
    (hname : j.name? = some n) : IsName n := by
  unfold Key.name? at hname
  split at hname
  · next s hs =>
    cases hname
    exact Path.name_of_component (hj.subset (List.mem_of_getLast? hs))
  · cases hname

theorem Stored.named {m m' : Memory} {p : Path} {e : Entry} (h : Stored m m' p.components e)
    (hm : m.Named) : m'.Named := by
  intro k n hl
  rcases h.listed k n hl with hold | ⟨j, rfl | ⟨hj, -⟩, -, hname⟩
  · exact hm k n hold
  · exact name_of_key List.prefix_rfl hname
  · exact name_of_key hj hname

theorem add_dir_named {m : Memory} (hm : m.Named) (p : Path) : (m.addDir p).Named := by
  intro k n hl
  rcases (m.ensure_dir_makes p.components).grown.listed k n hl with hold | ⟨j, ⟨hj, -⟩, -, hname⟩
  · exact hm k n hold
  · exact name_of_key hj hname

theorem remove_lists {m : Memory} {p : Path} {k : Key} {n : String} (h : (m.remove p).Lists k n) :
    m.Lists k n := by
  have herase : ∀ {j : Key} {cs : List String}, (m.erase p.components).get? j = some (.dir cs) →
      m.get? j = some (.dir cs) := by
    intro j cs hcs
    rw [get?_erase] at hcs
    split at hcs
    · cases hcs
    · exact hcs
  obtain ⟨cs, hcs, hin⟩ := h
  unfold remove at hcs
  simp only [] at hcs
  split at hcs
  · split at hcs
    · next ds hds =>
      rw [get?_put] at hcs
      split at hcs
      · next heq =>
        cases hcs
        exact ⟨ds, heq ▸ herase hds, (List.mem_filter.mp hin).1⟩
      · exact ⟨cs, herase hcs, hin⟩
    · exact ⟨cs, herase hcs, hin⟩
  · exact ⟨cs, herase hcs, hin⟩

theorem Built.named {m : Memory} (h : m.Built) : m.Named := by
  induction h with
  | none =>
    rintro k n ⟨cs, hcs, -⟩
    cases hcs
  | new =>
    rintro k n ⟨cs, hcs, hin⟩
    have hempty : cs = [] := by
      simp only [get?, Memory.new, List.lookup_cons, List.lookup_nil] at hcs
      split at hcs
      · exact (Entry.dir.inj (Option.some.inj hcs)).symm
      · split at hcs
        · exact (Entry.dir.inj (Option.some.inj hcs)).symm
        · cases hcs
    rw [hempty] at hin
    cases hin
  | @place m item _ ih =>
    cases item with
    | file p bytes => exact (m.add_file_stored p bytes).named ih
    | dir p => exact add_dir_named ih p
    | link p target => exact (m.add_link_stored p target).named ih
  | remove p _ ih => exact fun k n hl => ih k n (remove_lists hl)

end Memory

end BundleWatch
