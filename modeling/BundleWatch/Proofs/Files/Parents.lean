import BundleWatch.Files.Layout
import BundleWatch.Proofs.Path.Ancestry

/-!
# Directories above an entry

An entry that is added brings with it the directories above it that are missing. This is done in steps of two kinds:
a directory is made where nothing was, and something new is listed in the directory above it.
-/

set_option autoImplicit false

namespace BundleWatch

namespace Key

variable {c : Component} {d k up : Key}

theorem parent?_concat {k : Key} (hk : k ≠ []) (c : Component) : parent? (k ++ [c]) = some k := by
  have hroot : k ++ [c] ≠ root := by
    intro heq
    have hlen := congrArg List.length heq
    simp only [List.length_append, List.length_singleton, root] at hlen
    exact hk (List.length_eq_zero_iff.mp (by omega))
  rw [parent?, if_neg (by simp [hroot]), List.dropLast_concat, if_neg hk]

theorem name?_concat (k : Key) (c : Component) : name? (k ++ [c]) = name? [c] := by
  simp [name?]

theorem prefix_ne_concat {j : Key} (hj : j <+: up) (c : Component) : j ≠ up ++ [c] := by
  rintro rfl
  have hlen := hj.length_le
  rw [List.length_append, List.length_singleton] at hlen
  omega

/-- A named key has a directory above it, which is its beginning unless that is empty. -/
theorem parent?_named {j k : Key} {n : String} (hparent : j.parent? = some k) (hname : j.name? = some n) :
    (k ≠ [] ∧ j = k ++ [.name n]) ∨ (k = here ∧ j = [.name n]) := by
  have hlast : j.getLast? = some (.name n) := by
    unfold name? at hname
    split at hname
    · next s hs =>
      cases hname
      exact hs
    · cases hname
  have hj : j = j.dropLast ++ [.name n] := (List.dropLast_append_getLast? _ hlast).symm
  unfold parent? at hparent
  split at hparent
  · cases hparent
  · split at hparent
    · next hempty =>
      cases hparent
      rw [hempty] at hj
      exact .inr ⟨rfl, hj⟩
    · next hne =>
      cases hparent
      exact .inl ⟨hne, hj⟩

/-- A directory stands above a key. The relative paths of one component lie in `.`. -/
def IsAbove (d k : Key) : Prop := ∃ j, OnTheWay j k ∧ j ≠ k ∧ d = if j = [] then here else j

theorem IsAbove.below (h : d.IsAbove up) (hup : up <+: k) (hne : up ≠ []) : d.IsAbove k := by
  obtain ⟨j, ⟨hbegins, hroot⟩, hj, rfl⟩ := h
  refine ⟨j, ⟨hbegins.trans hup, fun hempty => ?_⟩, ?_, rfl⟩
  · obtain ⟨c, cs, rfl⟩ := List.exists_cons_of_ne_nil hne
    obtain ⟨rest, rfl⟩ := hup
    exact hroot hempty
  · rintro rfl
    exact hj (hbegins.eq_of_length (hbegins.length_le.antisymm hup.length_le))

theorem here_above (hc : c ≠ .root) : here.IsAbove [c] :=
  ⟨[], ⟨List.nil_prefix, fun _ h => hc (Option.some.inj h)⟩, (List.cons_ne_nil _ _).symm, rfl⟩

theorem concat_above (hne : up ≠ []) (c : Component) : up.IsAbove (up ++ [c]) :=
  ⟨up, ⟨List.prefix_append _ _, fun h => absurd h hne⟩, by simp, (if_neg hne).symm⟩

/-- Nothing but itself lies above the directory of relative paths. -/
theorem above_here (h : d.IsAbove here) : d = here := by
  obtain ⟨j, ⟨hbegins, -⟩, hj, rfl⟩ := h
  rcases List.prefix_cons_iff.mp hbegins with rfl | ⟨t, rfl, ht⟩
  · rfl
  · exact absurd (congrArg (Component.here :: ·) (List.prefix_nil.mp ht)) hj

theorem parent?_above (h : k.parent? = some up) : up.IsAbove k ∧ ∀ d : Key, d.IsAbove up → d.IsAbove k := by
  unfold parent? at h
  split at h
  · cases h
  · next hends =>
    obtain ⟨hne, hroot⟩ := not_or.mp hends
    have hlast := List.dropLast_append_getLast hne
    split at h
    · next hempty =>
      cases h
      rw [hempty, List.nil_append] at hlast
      have hhere : here.IsAbove k := by
        rw [← hlast]
        refine here_above fun hc => hroot ?_
        rw [← hlast, hc]
        rfl
      exact ⟨hhere, fun d hd => above_here hd ▸ hhere⟩
    · next hup =>
      cases h
      refine ⟨?_, fun d hd => hd.below (List.dropLast_prefix k) hup⟩
      rw [← hlast, List.dropLast_concat]
      exact concat_above hup _

end Key

namespace Memory

theorem get?_erase (m : Memory) (k j : Key) :
    (m.erase k).get? j = if j = k then none else m.get? j := by
  obtain ⟨entries⟩ := m
  simp only [get?, erase]
  induction entries with
  | nil => simp
  | cons entry entries ih =>
    obtain ⟨key, e⟩ := entry
    by_cases hkey : key = k
    · subst hkey
      by_cases hj : j = key
      · simpa [hj] using ih
      · have hskip : (j == key) = false := beq_eq_false_iff_ne.mpr hj
        simpa [List.lookup_cons, hj, hskip] using ih
    · by_cases hj : j = key
      · subst hj
        simp [hkey]
      · have hskip : (j == key) = false := beq_eq_false_iff_ne.mpr hj
        simpa [List.lookup_cons, hkey, hskip] using ih

theorem get?_put (m : Memory) (k j : Key) (e : Entry) :
    (m.put k e).get? j = if j = k then some e else m.get? j := by
  have herase := m.get?_erase k j
  by_cases hj : j = k
  · simp [put, get?, hj]
  · have hskip : (j == k) = false := beq_eq_false_iff_ne.mpr hj
    rw [if_neg hj] at herase ⊢
    rw [← herase]
    simp only [put, get?, List.lookup_cons, hskip]

theorem has_iff {m : Memory} {k : Key} : m.has k = true ↔ ∃ e, m.get? k = some e := Option.isSome_iff_exists

theorem has_put (m : Memory) (k j : Key) (e : Entry) : (m.put k e).has j = true ↔ j = k ∨ m.has j = true := by
  rw [has, get?_put]
  split
  · next heq => exact iff_of_true rfl (.inl heq)
  · next hne => exact (or_iff_right hne).symm

/-! ## Steps -/

variable [Encoding] {made made' fresh fresh' : Key → Prop} {m m' m'' : Memory}

def Missing (m : Memory) (k : Key) (j : Key) : Prop := j <+: k ∧ m.get? j = none

/-- One step after the other in which directories of some kind are made and fresh entries are listed in them. -/
inductive Makes (made fresh : Key → Prop) (m : Memory) : Memory → Prop
  | start : Makes made fresh m m
  | dir {m' : Memory} {j : Key} :
      Makes made fresh m m' → made j → m'.has j = false → Makes made fresh m (m'.put j (.dir []))
  | listed {m' : Memory} {j up : Key} :
      Makes made fresh m m' → made up → fresh j → j.parent? = some up → Makes made fresh m (m'.addChild up j.name?)

theorem Makes.trans (h : Makes made fresh m m') (hn : Makes made fresh m' m'') : Makes made fresh m m'' := by
  induction hn with
  | start => exact h
  | dir _ hj hnone ih => exact ih.dir hj hnone
  | listed _ hup hj hparent ih => exact ih.listed hup hj hparent

/-- What has no name is never listed. -/
theorem Makes.mono (h : Makes made fresh m m') (hmade : ∀ j, made j → made' j)
    (hfresh : ∀ j n, j.name? = some n → fresh j → fresh' j) : Makes made' fresh' m m' := by
  induction h with
  | start => exact .start
  | dir _ hj hnone ih => exact ih.dir (hmade _ hj) hnone
  | @listed m' j up _ hup hj hparent ih =>
    rcases hname : j.name? with _ | n
    · have hnothing : m'.addChild up none = m' := by
        unfold addChild
        split
        · next heq => cases heq
        · rfl
      rwa [hnothing]
    · rw [← hname]
      exact ih.listed (hmade _ hup) (hfresh j n hname hj) hparent

/-- The induction is on the key from its end: the directory is made first, then those above it, then its name is
listed in the nearest of them. -/
theorem ensure_dir_of_makes (m : Memory) (cs : List Component) :
    Makes (fun j => j = cs.reverse ∨ j.IsAbove cs.reverse) (m.Missing cs.reverse) m (m.ensureDirOf cs) := by
  induction cs generalizing m with
  | nil =>
    rw [ensureDirOf]
    split
    · exact .start
    · next h => exact Makes.start.dir (.inl rfl) (by simpa using h)
  | cons c up ih =>
    rcases up with _ | ⟨d, up⟩
    · rw [ensureDirOf]
      split
      · exact .start
      · next h =>
        have hnone : m.has [c] = false := by simpa using h
        have hmissing : m.Missing [c] [c] := ⟨List.prefix_rfl, by simpa [has] using hnone⟩
        have hfirst : Makes (fun j => j = [c] ∨ j.IsAbove [c]) (m.Missing [c]) m (m.put [c] (.dir [])) :=
          Makes.start.dir (.inl rfl) hnone
        simp only []
        split
        · exact hfirst
        · next hplain =>
          obtain ⟨hroot, -⟩ := not_or.mp hplain
          have hparent : Key.parent? [c] = some Key.here := by simp [Key.parent?, Key.root, hroot]
          refine Makes.listed ?_ (.inr (Key.here_above hroot)) hmissing hparent
          split
          · exact hfirst
          · next hhere => exact hfirst.dir (.inr (Key.here_above hroot)) (by simpa using hhere)
    · rw [ensureDirOf]
      simp only []
      split
      · exact .start
      · next h =>
        set k := (c :: d :: up).reverse with hk
        set above := (d :: up).reverse with habove
        have hne : above ≠ [] := by simp [habove]
        have hconcat : k = above ++ [c] := List.reverse_cons
        have hnone : m.has k = false := by simpa using h
        have hmissing : m.Missing k k := ⟨List.prefix_rfl, by simpa [has] using hnone⟩
        have hparent : Key.parent? k = some above := hconcat ▸ Key.parent?_concat hne c
        have hup : Key.IsAbove above k := hconcat ▸ Key.concat_above hne c
        have hname : Key.name? [c] = Key.name? k := by rw [hconcat, Key.name?_concat]
        have hfirst : Makes (fun j => j = k ∨ j.IsAbove k) (m.Missing k) m (m.put k (.dir [])) :=
          Makes.start.dir (.inl rfl) hnone
        rw [hname]
        refine (hfirst.trans ((ih (m.put k (.dir []))).mono ?_ ?_)).listed (.inr hup) hmissing hparent
        · rintro j (rfl | hj)
          · exact .inr hup
          · exact .inr (hj.below (hconcat ▸ List.prefix_append _ _) hne)
        · rintro j n - ⟨hj, hfree⟩
          refine ⟨hj.trans (hconcat ▸ List.prefix_append _ _), ?_⟩
          rw [get?_put] at hfree
          split at hfree
          · cases hfree
          · exact hfree

theorem ensure_dir_makes (m : Memory) (k : Key) :
    Makes (fun j => j = k ∨ j.IsAbove k) (m.Missing k) m (m.ensureDir k) := by
  have hmakes := m.ensure_dir_of_makes k.reverse
  rwa [List.reverse_reverse] at hmakes

/-- New names lead to the entry itself or to directories above it that were missing. -/
theorem list_in_parent_makes (m : Memory) (k : Key) :
    Makes (·.IsAbove k) (fun j => j = k ∨ m.Missing k j) m (m.listInParent k) := by
  unfold listInParent
  rcases hparent : k.parent? with _ | up
  · exact .start
  · obtain ⟨habove, hfurther⟩ := Key.parent?_above hparent
    refine Makes.listed ((m.ensure_dir_makes up).mono ?_ ?_) habove (.inl rfl) hparent
    · rintro j (rfl | hj)
      · exact habove
      · exact hfurther j hj
    · rintro j n hname ⟨hj, hnone⟩
      refine .inr ⟨?_, hnone⟩
      unfold Key.parent? at hparent
      split at hparent
      · cases hparent
      · split at hparent
        · -- the directory of relative paths is no key with a name
          cases hparent
          rcases List.prefix_cons_iff.mp hj with rfl | ⟨t, rfl, ht⟩
          · cases hname
          · rw [List.prefix_nil.mp ht] at hname
            cases hname
        · cases hparent
          exact hj.trans (List.dropLast_prefix k)

end Memory

end BundleWatch
