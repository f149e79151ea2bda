import BundleWatch.Proofs.Files.Tree

/-!
# Trees stay trees

Directories list the texts of the names of their children, and children are stored beside that under keys of their
own. The two agree after every change that puts nothing beneath a file or a link, nothing in the place of a directory,
and removes no directory that lists something and nothing whose name reads like another one. In the middle of a change
some entries are pending: they are stored, but the directories above them may still be missing or not list them, and
for an entry that was removed it is the other way round.
-/

set_option autoImplicit false

namespace BundleWatch

namespace Memory

section

variable [Encoding] {pending pending' : Key → Prop} {m : Memory} {j k up : Key} {n : String} {cs ds : List String}
  {e : Entry} {p : Path}

/-- A tree but for entries of some kind. -/
structure TreeBut (pending : Key → Prop) (m : Memory) : Prop where
  absolute : ∀ k e, m.get? k = some e → k = Key.here ∨ k.IsAbsolute
  inDir : ∀ k n e, m.get? (k ++ [.name n]) = some e → ¬pending (k ++ [.name n]) → ∃ cs, m.get? k = some (.dir cs)
  nodup : ∀ k cs, m.get? k = some (.dir cs) → cs.Nodup
  listed : ∀ k cs, m.get? k = some (.dir cs) → ∀ t, ¬pending (k ++ [.name (Encoding.write t)]) →
    (t ∈ cs ↔ m.has (k ++ [.name (Encoding.write t)]) = true)

abbrev Whole (m : Memory) : Prop := m.TreeBut fun _ => False

namespace TreeBut

theorem mono (h : m.TreeBut pending) (hsub : ∀ k n, pending (k ++ [.name n]) → pending' (k ++ [.name n])) :
    m.TreeBut pending' where
  absolute := h.absolute
  inDir k n e he hnot := h.inDir k n e he fun hp => hnot (hsub k n hp)
  nodup := h.nodup
  listed k cs hcs t hnot := h.listed k cs hcs t fun hp => hnot (hsub k _ hp)

/-- Nothing but what is pending lies beneath what is no directory. -/
theorem childless (h : m.TreeBut pending) (hk : ∀ cs, m.get? k ≠ some (.dir cs)) (hnot : ¬pending (k ++ [.name n])) :
    m.get? (k ++ [.name n]) = none := by
  by_contra hthere
  obtain ⟨e, he⟩ := Option.ne_none_iff_exists'.mp hthere
  obtain ⟨cs, hcs⟩ := h.inDir k n e he hnot
  exact hk cs hcs

/-- A new entry is pending. It takes the place of no directory, and if it is one itself, it lists nothing. -/
theorem put (h : m.TreeBut pending) (hk : k.IsAbsolute) (hfree : ∀ cs, m.get? k ≠ some (.dir cs))
    (he : ∀ cs, e = .dir cs → cs = []) : (m.put k e).TreeBut fun j => pending j ∨ j = k := by
  constructor
  · intro j f hf
    rw [get?_put] at hf
    split at hf
    · next heq => exact .inr (heq ▸ hk)
    · exact h.absolute j f hf
  · intro d n f hf hnot
    obtain ⟨hnot, hne⟩ := not_or.mp hnot
    rw [get?_put, if_neg hne] at hf
    obtain ⟨cs, hcs⟩ := h.inDir d n f hf hnot
    refine ⟨cs, ?_⟩
    rw [get?_put, if_neg, hcs]
    rintro rfl
    exact hfree cs hcs
  · intro d cs hcs
    rw [get?_put] at hcs
    split at hcs
    · rw [he cs (Option.some.inj hcs)]
      exact List.nodup_nil
    · exact h.nodup d cs hcs
  · intro d cs hcs t hnot
    obtain ⟨hold, hne⟩ := not_or.mp hnot
    rw [has_put, or_iff_right hne]
    rw [get?_put] at hcs
    split at hcs
    · next heq =>
      subst heq
      rw [he cs (Option.some.inj hcs), has, h.childless hfree hold]
      simp
    · exact h.listed d cs hcs t hold

/-- A directory may list what is pending, or not. -/
theorem relist (h : m.TreeBut pending) (hcs : m.get? k = some (.dir cs)) (hds : ds.Nodup)
    (hsame : ∀ t, ¬pending (k ++ [.name (Encoding.write t)]) → (t ∈ ds ↔ t ∈ cs)) :
    (m.put k (.dir ds)).TreeBut pending := by
  have hhas (j : Key) : (m.put k (.dir ds)).has j = true ↔ m.has j = true := by
    rw [has_put, or_iff_right_of_imp]
    rintro rfl
    exact has_iff.mpr ⟨_, hcs⟩
  constructor
  · intro j f hf
    obtain ⟨f', hf'⟩ := has_iff.mp ((hhas j).mp (has_iff.mpr ⟨f, hf⟩))
    exact h.absolute j f' hf'
  · intro d n f hf hnot
    obtain ⟨f', hf'⟩ := has_iff.mp ((hhas _).mp (has_iff.mpr ⟨f, hf⟩))
    obtain ⟨cs', hcs'⟩ := h.inDir d n f' hf' hnot
    rw [get?_put]
    split
    · exact ⟨ds, rfl⟩
    · exact ⟨cs', hcs'⟩
  · intro d cs' hcs'
    rw [get?_put] at hcs'
    split at hcs'
    · cases hcs'
      exact hds
    · exact h.nodup d cs' hcs'
  · intro d cs' hcs' t hnot
    rw [hhas]
    rw [get?_put] at hcs'
    split at hcs'
    · next heq =>
      subst heq
      cases hcs'
      rw [hsame t hnot, h.listed d cs hcs t hnot]
    · exact h.listed d cs' hcs' t hnot

/-- An entry is pending no longer once the directory above it is there and lists it exactly if it is stored. -/
theorem settle (h : m.TreeBut fun j => pending j ∨ j = k ++ [.name n])
    (hdir : m.has (k ++ [.name n]) = true → ∃ cs, m.get? k = some (.dir cs))
    (hlists : ∀ cs, m.get? k = some (.dir cs) → ∀ t, n = Encoding.write t →
      (t ∈ cs ↔ m.has (k ++ [.name n]) = true)) : m.TreeBut pending := by
  have hsettled {d : Key} {o : String} (heq : d ++ [Component.name o] = k ++ [.name n]) : d = k ∧ o = n := by
    obtain ⟨hd, ho⟩ := List.append_inj' heq rfl
    exact ⟨hd, Component.name.inj (List.singleton_inj.mp ho)⟩
  constructor
  · exact h.absolute
  · intro d o f hf hnot
    by_cases heq : d ++ [.name o] = k ++ [.name n]
    · obtain ⟨rfl, rfl⟩ := hsettled heq
      exact hdir (has_iff.mpr ⟨f, hf⟩)
    · exact h.inDir d o f hf (not_or.mpr ⟨hnot, heq⟩)
  · exact h.nodup
  · intro d cs hcs t hnot
    by_cases heq : d ++ [.name (Encoding.write t)] = k ++ [.name n]
    · obtain ⟨rfl, rfl⟩ := hsettled heq
      exact hlists cs hcs t rfl
    · exact h.listed d cs hcs t (not_or.mpr ⟨hnot, heq⟩)

/-- A pending entry is settled by a directory above it that is listed anew, and only for this entry. -/
theorem resettle (h : m.TreeBut fun j => pending j ∨ j = k ++ [.name n]) (hcs : m.get? k = some (.dir cs))
    (hds : ds.Nodup) (hothers : ∀ t, n ≠ Encoding.write t → (t ∈ ds ↔ t ∈ cs))
    (hlists : ∀ t, n = Encoding.write t → (t ∈ ds ↔ m.has (k ++ [.name n]) = true)) :
    (m.put k (.dir ds)).TreeBut pending := by
  have hrelisted := h.relist hcs hds fun t hnot => by
    refine hothers t ?_
    rintro rfl
    exact hnot (.inr rfl)
  refine hrelisted.settle (fun _ => ⟨ds, by rw [get?_put, if_pos rfl]⟩) fun cs' hcs' t ht => ?_
  rw [get?_put, if_pos rfl] at hcs'
  obtain rfl := Entry.dir.inj (Option.some.inj hcs')
  rw [has_put, or_iff_right (by simp), hlists t ht]

/-- A name that is no text is settled by not being listed. -/
theorem add_child (h : m.TreeBut fun j => pending j ∨ j = k ++ [.name n]) (hcs : m.get? k = some (.dir cs))
    (hthere : m.has (k ++ [.name n]) = true) : (m.addChild k (some n)).TreeBut pending := by
  rw [Memory.addChild, hcs, Option.bind_some]
  rcases hread : Encoding.read? n with _ | t
  · refine h.settle (fun _ => ⟨cs, hcs⟩) fun cs' _ t ht => ?_
    cases hread.symm.trans (Encoding.read?_eq_some.mpr ht)
  · have hname : ∀ {o : String}, n = Encoding.write o → o = t := fun ho =>
      Option.some.inj ((Encoding.read?_eq_some.mpr ho).symm.trans hread)
    simp only []
    split
    · next hin =>
      refine h.settle (fun _ => ⟨cs, hcs⟩) fun cs' hcs' o ho => ?_
      obtain rfl := Entry.dir.inj (Option.some.inj (hcs.symm.trans hcs'))
      exact iff_of_true (hname ho ▸ hin) hthere
    · next hnew =>
      have hnodup : (cs ++ [t]).Nodup := by
        refine List.nodup_append.mpr ⟨h.nodup k cs hcs, by simp, ?_⟩
        rintro o ho _ hlast rfl
        exact hnew (List.mem_singleton.mp hlast ▸ ho)
      refine h.resettle hcs hnodup (fun o hother => ?_) fun o ho => iff_of_true (by simp [hname ho]) hthere
      have hne : o ≠ t := by
        rintro rfl
        exact hother (Encoding.read?_eq_some.mp hread)
      simp [hne]

end TreeBut

/-! ## Making directories -/

theorem add_child_dir (hcs : m.get? k = some (.dir cs)) (j : Key) (name : Option String) :
    ∃ ds, (m.addChild j name).get? k = some (.dir ds) := by
  unfold addChild
  split
  · split
    · exact ⟨cs, hcs⟩
    · rw [get?_put]
      split
      · exact ⟨_, rfl⟩
      · exact ⟨cs, hcs⟩
  · exact ⟨cs, hcs⟩

theorem Makes.dir_kept {made fresh : Key → Prop} {m' : Memory} (h : Makes made fresh m m')
    (hcs : m.get? k = some (.dir cs)) : ∃ ds, m'.get? k = some (.dir ds) := by
  rcases h.frame k with hsame | ⟨-, ds, hds⟩
  · exact ⟨cs, hsame.trans hcs⟩
  · exact ⟨ds, hds⟩

theorem Makes.has_kept {made fresh : Key → Prop} {m' : Memory} (h : Makes made fresh m m') (hk : m.has k = true) :
    m'.has k = true := by
  rcases h.frame k with hsame | ⟨-, ds, hds⟩
  · rwa [has, hsame]
  · exact has_iff.mpr ⟨_, hds⟩

def Clear (m : Memory) (k : Key) : Prop := ∀ j, j <+: k → m.has j = true → ∃ cs, m.get? j = some (.dir cs)

omit [Encoding] in
theorem Clear.put {c : Component} (h : m.Clear (up ++ [c])) (e : Entry) : (m.put (up ++ [c]) e).Clear up := by
  intro j hj hhas
  have hne := Key.prefix_ne_concat hj c
  rw [has_put, or_iff_right hne] at hhas
  rw [get?_put, if_neg hne]
  exact h j (hj.trans (List.prefix_append _ _)) hhas

/-- Pending entries stay pending while directories are made, and what is made settles. -/
theorem ensure_dir_of_tree (cs : List Component) (h : m.TreeBut pending) (habs : Key.IsAbsolute cs.reverse)
    (hclear : m.Clear cs.reverse) :
    (m.ensureDirOf cs).TreeBut pending ∧ ∃ ds, (m.ensureDirOf cs).get? cs.reverse = some (.dir ds) := by
  induction cs generalizing m pending with
  | nil => cases habs.1
  | cons c up ih =>
    rcases up with _ | ⟨d, up⟩
    · obtain rfl := Option.some.inj habs.1
      rw [ensureDirOf]
      split
      · next hhas => exact ⟨h, hclear _ List.prefix_rfl hhas⟩
      · next hnone =>
        have hfree : ∀ cs, m.get? [.root] ≠ some (.dir cs) := fun cs hcs => hnone (has_iff.mpr ⟨_, hcs⟩)
        simp only [true_or, if_true]
        refine ⟨(h.put habs hfree fun cs hcs => (Entry.dir.inj hcs).symm).mono ?_, [], ?_⟩
        · rintro k n (hp | heq)
          · exact hp
          · cases k <;> simp at heq
        · rw [get?_put]
          rfl
    · set k := (c :: d :: up).reverse with hk
      set above := (d :: up).reverse with habove
      have hne : above ≠ [] := by simp [habove]
      have hconcat : k = above ++ [c] := List.reverse_cons
      rw [ensureDirOf]
      simp only [← hk, ← habove]
      split
      · next hhas => exact ⟨h, hclear _ List.prefix_rfl hhas⟩
      · next hnone =>
        obtain ⟨n, hup, rfl⟩ : ∃ n, Key.IsAbsolute above ∧ c = .name n := by
          rcases habs.cases with hroot | ⟨up', n, -, hup, heq⟩
          · have hlen := congrArg List.length hroot
            simp [Key.root, hk] at hlen
          · obtain ⟨rfl, hc⟩ := List.append_inj' (hconcat.symm.trans heq) rfl
            exact ⟨n, hup, List.singleton_inj.mp hc⟩
        have hfree : ∀ cs, m.get? k ≠ some (.dir cs) := fun cs hcs => hnone (has_iff.mpr ⟨_, hcs⟩)
        have hput := h.put habs hfree fun cs hcs => (Entry.dir.inj hcs).symm
        have hclear' : (m.put k (.dir [])).Clear above := by
          rw [hconcat] at hclear ⊢
          exact hclear.put _
        obtain ⟨htree, ds, hds⟩ := ih hput hup hclear'
        have hmade : (m.put k (.dir [])).get? k = some (.dir []) := by rw [get?_put, if_pos rfl]
        obtain ⟨cs, hcs⟩ := ((m.put k (.dir [])).ensure_dir_of_makes (d :: up)).dir_kept hmade
        refine ⟨TreeBut.add_child (hconcat ▸ htree) hds (hconcat ▸ has_iff.mpr ⟨_, hcs⟩), add_child_dir hcs _ _⟩

theorem ensure_dir_tree (h : m.TreeBut pending) (habs : k.IsAbsolute) (hclear : m.Clear k) :
    (m.ensureDir k).TreeBut pending ∧ ∃ ds, (m.ensureDir k).get? k = some (.dir ds) := by
  have htree := ensure_dir_of_tree k.reverse h
  rw [List.reverse_reverse] at htree
  exact htree habs hclear

theorem ensure_dir_there (h : m.has k = true) : m.ensureDir k = m := by
  have hthere (cs : List Component) (hcs : m.has cs.reverse = true) : m.ensureDirOf cs = m := by
    rcases cs with _ | ⟨c, _ | ⟨d, up⟩⟩ <;> rw [ensureDirOf]
    · exact if_pos hcs
    · exact if_pos hcs
    · exact if_pos hcs
  exact hthere _ (by rwa [List.reverse_reverse])

theorem list_in_parent_tree (h : m.TreeBut (· = k)) (habs : k.IsAbsolute) (hthere : m.has k = true)
    (hclear : ∀ j, j <+: k → j ≠ k → m.has j = true → ∃ cs, m.get? j = some (.dir cs)) : (m.listInParent k).Whole := by
  rcases habs.cases with rfl | ⟨up, n, hne, hup, rfl⟩
  · refine h.mono fun k n heq => ?_
    cases k <;> simp [Key.root] at heq
  · obtain ⟨htree, ds, hds⟩ := ensure_dir_tree h hup fun j hj =>
      hclear j (hj.trans (List.prefix_append _ _)) (Key.prefix_ne_concat hj _)
    have hlisted : m.listInParent (up ++ [.name n]) = (m.ensureDir up).addChild up (some n) := by
      rw [listInParent, Key.parent?_concat hne]
      simp only []
      rw [Key.name?_concat]
      rfl
    rw [hlisted]
    exact TreeBut.add_child (htree.mono fun _ _ => .inr) hds ((m.ensure_dir_makes up).has_kept hthere)

/-! ## One change -/

def ClearAbove (m : Memory) (p : Path) : Prop :=
  ∀ a ∈ p.ancestors.tail, m.has a.components = true → m.isDirAt a.components = true

instance (m : Memory) (p : Path) : Decidable (m.ClearAbove p) := inferInstanceAs (Decidable (∀ a ∈ _, _))

omit [Encoding] in
theorem ClearAbove.dir (h : m.ClearAbove p) (hne : j ≠ []) (hj : j <+: p.components) (hproper : j ≠ p.components)
    (hhas : m.has j = true) : ∃ cs, m.get? j = some (.dir cs) := by
  obtain ⟨a, ha, rfl⟩ := (p.ancestors_components j).mpr ⟨hj, fun hempty => absurd hempty hne⟩
  rw [p.ancestors_eq_cons, List.mem_cons] at ha
  rcases ha with rfl | ha
  · exact absurd rfl hproper
  · exact is_dir_at_eq_true (h a ha hhas)

def Vacant (m : Memory) (k : Key) : Prop := ∀ x ∈ m.entries, Key.parent? x.1 ≠ some k

instance (m : Memory) (k : Key) : Decidable (m.Vacant k) := inferInstanceAs (Decidable (∀ x ∈ _, _))

/-- The name at the end of a path is a text, or nothing beside it has the name that it reads like. -/
def Spares (m : Memory) (p : Path) : Prop :=
  ∀ n ∈ Key.name? p.components, Encoding.write (Encoding.lossy n) = n ∨
    m.has (p.components.dropLast ++ [.name (Encoding.write (Encoding.lossy n))]) = false

instance (m : Memory) (p : Path) : Decidable (m.Spares p) := inferInstanceAs (Decidable (∀ n ∈ _, _))

namespace Whole

theorem rooted (h : m.Whole) : m.Rooted := rooted_of_dirs h.absolute fun k n e he => h.inDir k n e he id

theorem ne_nil_of_has (h : m.Whole) (hhas : m.has j = true) : j ≠ [] := by
  obtain ⟨e, he⟩ := has_iff.mp hhas
  exact h.rooted.ne_nil he

theorem stored (h : m.Whole) (habs : Key.IsAbsolute p.components) (hclear : m.ClearAbove p)
    (hfree : ∀ cs, m.get? p.components ≠ some (.dir cs)) (he : ∀ cs, e ≠ .dir cs) :
    ((m.put p.components e).listInParent p.components).Whole := by
  have hput := h.put habs hfree fun cs heq => absurd heq (he cs)
  refine list_in_parent_tree (hput.mono fun k n hnew => hnew.resolve_left id) habs ((has_put _ _ _ _).mpr (.inl rfl)) ?_
  intro j hj hproper hhas
  rw [has_put, or_iff_right hproper] at hhas
  rw [get?_put, if_neg hproper]
  exact hclear.dir (h.ne_nil_of_has hhas) hj hproper hhas

theorem add_dir (h : m.Whole) (habs : Key.IsAbsolute p.components) (hclear : m.ClearAbove p) : (m.addDir p).Whole := by
  unfold Memory.addDir
  by_cases hthere : m.has p.components = true
  · rwa [ensure_dir_there hthere]
  · refine (ensure_dir_tree h habs fun j hj hhas => ?_).1
    refine hclear.dir (h.ne_nil_of_has hhas) hj ?_ hhas
    rintro rfl
    exact hthere hhas

theorem erase (h : m.Whole) (hempty : ∀ n, m.get? (k ++ [.name n]) = none) : (m.erase k).TreeBut (· = k) := by
  have hstored {j : Key} {f : Entry} (hf : (m.erase k).get? j = some f) : j ≠ k ∧ m.get? j = some f := by
    rw [get?_erase] at hf
    split at hf
    · cases hf
    · next hne => exact ⟨hne, hf⟩
  constructor
  · exact fun j f hf => h.absolute j f (hstored hf).2
  · intro d n f hf _
    obtain ⟨cs, hcs⟩ := h.inDir d n f (hstored hf).2 id
    refine ⟨cs, ?_⟩
    rw [get?_erase, if_neg, hcs]
    rintro rfl
    cases (hempty n).symm.trans (hstored hf).2
  · exact fun d cs hcs => h.nodup d cs (hstored hcs).2
  · intro d cs hcs t hne
    rw [h.listed d cs (hstored hcs).2 t id, has, has, get?_erase, if_neg hne]

theorem childless_of_vacant (h : m.Whole) (hk : k ≠ []) (hempty : m.isDirAt k = true → m.Vacant k) (n : String) :
    m.get? (k ++ [.name n]) = none := by
  by_contra hthere
  obtain ⟨e, he⟩ := Option.ne_none_iff_exists'.mp hthere
  obtain ⟨cs, hcs⟩ := h.inDir k n e he id
  exact hempty (by rw [isDirAt, hcs]) _ (get?_entry he) (Key.parent?_concat hk _)

theorem remove (h : m.Whole) (habs : Key.IsAbsolute p.components)
    (hempty : m.isDirAt p.components = true → m.Vacant p.components) (hspares : m.Spares p) : (m.remove p).Whole := by
  have hgone : (m.erase p.components).get? p.components = none := by rw [get?_erase, if_pos rfl]
  unfold Memory.remove
  unfold Spares at hspares
  simp only []
  generalize p.components = k at habs hempty hspares hgone ⊢
  have hk : k ≠ [] := by
    rintro rfl
    cases habs.1
  have herased := h.erase (h.childless_of_vacant hk hempty)
  rcases habs.cases with rfl | ⟨up, n, hne, -, rfl⟩
  · refine herased.mono fun k n heq => ?_
    cases k <;> simp [Key.root] at heq
  · have hpending : (m.erase (up ++ [.name n])).TreeBut fun j => False ∨ j = up ++ [.name n] :=
      herased.mono fun _ _ => .inr
    have hname : Key.name? (up ++ [.name n]) = some n := Key.name?_concat up _
    have hnot : (m.erase (up ++ [.name n])).has (up ++ [.name n]) ≠ true := by simp [has, hgone]
    rw [hname, List.dropLast_concat] at hspares
    rw [Key.parent?_concat hne, hname]
    simp only []
    split
    · next cs hcs =>
      have hnodup : (cs.filter (· ≠ Encoding.lossy n)).Nodup := (herased.nodup up cs hcs).filter _
      refine hpending.resettle hcs hnodup (fun t hother => ?_) fun t ht => iff_of_false ?_ hnot
      · -- what reads like the name is not listed unless it is the name
        have hkept : t ∈ cs → t ≠ Encoding.lossy n := by
          rintro hin rfl
          have hnew : up ++ [Component.name (Encoding.write (Encoding.lossy n))] ≠ up ++ [.name n] := by
            simpa using fun heq => hother heq.symm
          have hthere := (herased.listed up cs hcs _ hnew).mp hin
          rw [has, get?_erase, if_neg hnew] at hthere
          rcases hspares n rfl with hsame | hnone
          · exact hother hsame.symm
          · exact Bool.false_ne_true (hnone.symm.trans hthere)
        simpa using hkept
      · rw [ht, Encoding.lossy_write]
        simp
    · next hother => exact hpending.settle (fun hhas => absurd hhas hnot) fun cs hcs => absurd hcs (hother cs)

end Whole

/-! ## All changes -/

structure Room (m : Memory) (p : Path) : Prop where
  absolute : Key.IsAbsolute p.components
  clear : m.ClearAbove p
  noDir : m.isDirAt p.components = false

/-- What changes of a new memory can lead to if each of them finds room, no directory is removed in which something
lies, and nothing is removed but what may be. -/
inductive Tended (may : Memory → Path → Prop) : Memory → Prop
  | new : Tended may new
  | addFile {m : Memory} {p : Path} (bytes : Bytes) : Tended may m → m.Room p → Tended may (m.addFile p bytes)
  | addLink {m : Memory} {p : Path} (target : Path) : Tended may m → m.Room p → Tended may (m.addLink p target)
  | addDir {m : Memory} {p : Path} : Tended may m → Key.IsAbsolute p.components → m.ClearAbove p →
      Tended may (m.addDir p)
  | write {m : Memory} {p : Path} (bytes : Bytes) : Tended may m → m.Room p →
      Tended may (FileSystem.write m p bytes).1
  | remove {m : Memory} {p : Path} : Tended may m → Key.IsAbsolute p.components →
      (m.isDirAt p.components = true → m.Vacant p.components) → may m p → Tended may (m.remove p)

theorem Room.stored (h : m.Room p) (hm : m.Whole) (he : ∀ cs, e ≠ .dir cs) :
    ((m.put p.components e).listInParent p.components).Whole := by
  refine hm.stored h.absolute h.clear (fun cs hcs => ?_) he
  have hnone := h.noDir
  rw [isDirAt, hcs] at hnone
  cases hnone

theorem new_whole : new.Whole := by
  have hstored : ∀ k e, new.get? k = some e → (k = Key.here ∨ k = Key.root) ∧ e = .dir [] := by
    intro k e he
    have hin := get?_entry he
    simp only [new, List.mem_cons, List.not_mem_nil, or_false, Prod.mk.injEq] at hin
    rcases hin with ⟨rfl, rfl⟩ | ⟨rfl, rfl⟩
    · exact ⟨.inl rfl, rfl⟩
    · exact ⟨.inr rfl, rfl⟩
  have hnone : ∀ (k : Key) n, new.has (k ++ [.name n]) ≠ true := by
    intro k n hhas
    obtain ⟨e, he⟩ := has_iff.mp hhas
    have hlast := (hstored _ e he).1
    cases k <;> simp [Key.here, Key.root] at hlast
  constructor
  · intro k e he
    rcases (hstored k e he).1 with rfl | rfl
    · exact .inl rfl
    · exact .inr (by decide)
  · exact fun k n e he _ => absurd (has_iff.mpr ⟨e, he⟩) (hnone k n)
  · intro k cs hcs
    rw [Entry.dir.inj (hstored k _ hcs).2]
    exact List.nodup_nil
  · intro k cs hcs t _
    rw [Entry.dir.inj (hstored k _ hcs).2]
    exact iff_of_false List.not_mem_nil (hnone k _)

theorem Tended.whole (h : Tended Spares m) : m.Whole := by
  induction h with
  | new => exact new_whole
  | addFile _ _ hroom ih => exact hroom.stored ih fun _ => Entry.noConfusion
  | addLink _ _ hroom ih => exact hroom.stored ih fun _ => Entry.noConfusion
  | addDir _ habs hclear ih => exact ih.add_dir habs hclear
  | write _ _ hroom ih => exact hroom.stored ih fun _ => Entry.noConfusion
  | remove _ habs hempty hspares ih => exact ih.remove habs hempty hspares

/-- After all such changes every entry but the roots lies in a directory, and every directory lists exactly the texts
that name its children, each of them once. -/
theorem stays_tree (h : Tended Spares m) :
    m.Rooted ∧ ∀ k cs, m.get? k = some (.dir cs) → ∀ t, cs.count t =
      if m.has (k ++ [.name (Encoding.write t)]) then 1 else 0 := by
  have hwhole := h.whole
  refine ⟨hwhole.rooted, fun k cs hcs t => ?_⟩
  rw [(hwhole.nodup k cs hcs).count]
  exact if_congr (hwhole.listed k cs hcs t id) rfl rfl

end

/-- A file that is removed and comes back as a link, a directory that is removed once it is empty, a file that is
written where it was, and one that comes and goes under a byte that is no text. -/
def rearranged [Encoding] : Memory :=
  let m := ((new.addFile ⟨"/p/a.txt"⟩ (.ofText "a")).remove ⟨"/p/a.txt"⟩).addLink ⟨"/p/a.txt"⟩ ⟨"/p"⟩
  let m := (FileSystem.write ((m.addDir ⟨"/p/sub/deep/"⟩).remove ⟨"/p/sub/deep"⟩) ⟨"/p/sub/deep"⟩ (.ofText "b")).1
  (m.addFile ⟨"/p/\xff"⟩ []).remove ⟨"/p/\xff"⟩

theorem stays_tree_rearranged :
    letI := Encoding.bytes
    Tended Spares rearranged ∧ rearranged.Rooted ∧
      ∃ cs, rearranged.get? (Path.mk "/p").components = some (.dir cs) ∧ cs.count "a.txt" = 1 ∧ cs.count "b.txt" = 0 := by
  let := Encoding.bytes
  have hnew : Tended Spares new := .new
  have hadded := hnew.addFile (.ofText "a") (p := ⟨"/p/a.txt"⟩) ⟨by decide, by decide, by decide⟩
  have hremoved := hadded.remove (p := ⟨"/p/a.txt"⟩) (by decide) (by decide +kernel) (by decide +kernel)
  have hlinked := hremoved.addLink ⟨"/p"⟩ (p := ⟨"/p/a.txt"⟩) ⟨by decide, by decide +kernel, by decide +kernel⟩
  have hdeep := hlinked.addDir (p := ⟨"/p/sub/deep/"⟩) (by decide) (by decide +kernel)
  have hgone := hdeep.remove (p := ⟨"/p/sub/deep"⟩) (by decide) (by decide +kernel) (by decide +kernel)
  have hwritten := hgone.write (.ofText "b") (p := ⟨"/p/sub/deep"⟩) ⟨by decide, by decide +kernel, by decide +kernel⟩
  have hbyte := hwritten.addFile [] (p := ⟨"/p/\xff"⟩) ⟨by decide, by decide +kernel, by decide +kernel⟩
  have htended : Tended Spares rearranged :=
    hbyte.remove (p := ⟨"/p/\xff"⟩) (by decide) (by decide +kernel) (by decide +kernel)
  obtain ⟨hrooted, hcount⟩ := stays_tree htended
  have hdir : rearranged.get? (Path.mk "/p").components = some (.dir ["a.txt", "sub"]) := by decide +kernel
  refine ⟨htended, hrooted, _, hdir, ?_, ?_⟩
  · rw [hcount _ _ hdir]
    decide +kernel
  · rw [hcount _ _ hdir]
    decide +kernel

/-- A name that is no text is not listed. If it is removed, another one that it reads like is listed no longer. -/
theorem names_unlisted :
    letI := Encoding.bytes
    (∃ m, Tended (fun _ _ => True) m ∧ m.has (Path.mk "/p/\xff").components = true ∧
      m.get? (Path.mk "/p").components = some (.dir [])) ∧
    ∃ m, Tended (fun _ _ => True) m ∧
      m.has ((Path.mk "/p").components ++ [.name (Encoding.write "\uFFFD")]) = true ∧
      m.get? (Path.mk "/p").components = some (.dir []) := by
  let := Encoding.bytes
  have hnew : Tended (fun _ _ => True) new := .new
  have hread := hnew.addFile [] (p := ⟨"/p/" ++ Encoding.write "\uFFFD"⟩)
    ⟨by decide +kernel, by decide +kernel, by decide +kernel⟩
  have hboth := hread.addFile [] (p := ⟨"/p/\xff"⟩) ⟨by decide, by decide +kernel, by decide +kernel⟩
  have hbyte := hnew.addFile [] (p := ⟨"/p/\xff"⟩) ⟨by decide, by decide, by decide⟩
  refine ⟨⟨_, hbyte, by decide +kernel, by decide +kernel⟩, ?_⟩
  exact ⟨_, hboth.remove (p := ⟨"/p/\xff"⟩) (by decide) (by decide +kernel) trivial, by decide +kernel,
    by decide +kernel⟩

end Memory

end BundleWatch
