import BundleWatch.Proofs.Path.Join

/-!
# Ancestry

The paths above a path are known by their components: each step upwards drops the last one. Descending from a
directory by names and asking for the relative name of the place gives the names back.
-/

set_option autoImplicit false

namespace BundleWatch

open Segment

def OnTheWay (j k : List Component) : Prop := j <+: k ∧ (j = [] → k.head? ≠ some .root)

theorem OnTheWay.refl (k : List Component) : OnTheWay k k := by
  refine ⟨List.prefix_rfl, ?_⟩
  rintro rfl
  simp

namespace Path

/-! ## Upwards -/

theorem body_no_separator {p : Path} {s : Segment} (h : s ∈ p.body) : '/' ∉ s :=
  Anchor.read_no_separator h

theorem body_bare {p : Path} (h : p.anchor = .bare) {s : Segment} (hs : p.body.head? = some s) :
    component? s ≠ none :=
  contributes_iff.mpr (Anchor.read_bare h hs)

theorem body_of_no_components {p : Path} (h : p.anchor = .bare) (hnone : Segment.components p.body = []) :
    p.body = [] := by
  rcases hs : p.body with _ | ⟨s, ss⟩
  · rfl
  · have hhead := body_bare h (congrArg List.head? hs)
    rw [hs] at hnone
    exact absurd (List.filterMap_eq_nil_iff.mp hnone s (by simp)) hhead

theorem parent?_components {p q : Path} (h : p.parent? = some q) :
    q.components = p.components.dropLast ∧ p.components ≠ [] ∧ p.components ≠ [.root] := by
  unfold parent? at h
  split at h
  · next hbody =>
    split at h
    · next hhere =>
      cases h
      have hp : p.components = [.here] := by
        rw [components, hhere, ← components_trim_end, hbody]
        rfl
      rw [hp]
      exact ⟨rfl, by simp, by simp⟩
    · cases h
  · next hbody =>
    cases h
    obtain ⟨s, hs⟩ := Option.ne_none_iff_exists'.mp fun hnone =>
      hbody (List.getLast?_eq_none_iff.mp hnone)
    obtain ⟨k, hk⟩ := Option.ne_none_iff_exists'.mp (trim_end_last hs)
    have hroot : k ≠ .root := by
      rintro rfl
      rcases component?_cases s with h | h | h <;> rw [h] at hk <;> cases hk
    set front := (trimEnd p.body).dropLast with hfront
    have hp : p.components = p.anchor.components ++ Segment.components front ++ [k] := by
      rw [components, ← components_trim_end, ← List.dropLast_append_getLast? s hs,
        components_append, components_cons, hk, ← List.append_assoc]
      rfl
    -- what is written again is a beginning of what was there
    have hsub : trimEnd front <+: p.body :=
      (trim_end_begins front).trans ((List.dropLast_prefix _).trans (trim_end_begins _))
    obtain ⟨hanchor, hcomponents⟩ := Anchor.read_write p.anchor
      (fun t ht => body_no_separator (hsub.subset ht)) fun hbare t ht => by
        obtain ⟨rest, hrest⟩ := hsub
        refine Anchor.read_bare hbare ?_
        change p.body.head? = some t
        rw [← hrest, List.head?_append, ht]
        rfl
    refine ⟨?_, by simp [hp], ?_⟩
    · rw [hp, List.dropLast_concat, components, anchor, body, chars_of_chars, hanchor, hcomponents,
        components_trim_end]
    · intro heq
      rw [hp] at heq
      obtain ⟨-, hlast⟩ := List.append_inj' (heq.trans (List.nil_append _).symm) rfl
      exact hroot (List.singleton_inj.mp hlast)

theorem parent?_none {p : Path} (h : p.parent? = none) : p.components = [] ∨ p.components = [.root] := by
  unfold parent? at h
  split at h
  · next hbody =>
    rw [components, ← components_trim_end, hbody]
    split at h
    · cases h
    · cases hanchor : p.anchor with
      | root => exact .inr rfl
      | here => contradiction
      | bare => exact .inl rfl
  · cases h

theorem parent?_none_iff {p : Path} : p.parent? = none ↔ p.components = [] ∨ p.components = [.root] := by
  refine ⟨parent?_none, fun hends => ?_⟩
  rcases hq : p.parent? with _ | q
  · rfl
  · obtain ⟨-, hne, hroot⟩ := parent?_components hq
    exact absurd hends (not_or.mpr ⟨hne, hroot⟩)

theorem file_name?_of_components {p : Path} {k : List Component} {n : String}
    (h : p.components = k ++ [.name n]) : p.fileName? = some n := by
  have hlast : (Segment.components p.body).getLast? = some (.name n) := by
    rcases hbody : Segment.components p.body with _ | ⟨c, cs⟩
    · rw [components, hbody, List.append_nil] at h
      cases hanchor : p.anchor <;> rw [hanchor] at h <;> rcases k with _ | ⟨d, ds⟩ <;>
        simp [Anchor.components] at h
    · have hwhole := congrArg List.getLast? h
      rw [components, hbody, List.getLast?_append_of_ne_nil _ (List.cons_ne_nil _ _)] at hwhole
      simpa using hwhole
  rw [fileName?, hlast]

theorem get_last?_of_file_name? {p : Path} {n : String} (h : p.fileName? = some n) :
    p.components.getLast? = some (.name n) := by
  unfold fileName? at h
  split at h
  · next s hs =>
    cases h
    have hne : Segment.components p.body ≠ [] := fun hempty => by simp [hempty] at hs
    rw [components, List.getLast?_append_of_ne_nil _ hne, hs]
  · cases h

theorem ancestors_up_to (n : Nat) (p : Path) (hn : p.components.length ≤ n) (j : List Component) :
    (∃ a ∈ ancestorsUpTo n p, a.components = j) ↔ OnTheWay j p.components := by
  induction n generalizing p with
  | zero =>
    have hp : p.components = [] := List.length_eq_zero_iff.mp (Nat.le_zero.mp hn)
    simp [ancestorsUpTo, OnTheWay, hp, eq_comm]
  | succ n ih =>
    rw [ancestorsUpTo]
    rcases hq : p.parent? with _ | q
    · rcases parent?_none hq with hp | hp
      · simp [OnTheWay, hp, eq_comm]
      · simp only [List.mem_singleton, exists_eq_left, OnTheWay, hp, List.head?_cons]
        constructor
        · rintro rfl
          exact ⟨List.prefix_rfl, by simp⟩
        · rintro ⟨hbegins, hroot⟩
          rcases List.prefix_cons_iff.mp hbegins with rfl | ⟨t, rfl, ht⟩
          · exact absurd rfl (hroot rfl)
          · rw [List.prefix_nil.mp ht]
    · obtain ⟨hcomponents, hne, hroot⟩ := parent?_components hq
      have hlen : q.components.length ≤ n := by
        rw [hcomponents, List.length_dropLast]
        omega
      have hhead : q.components.head? = some .root ↔ p.components.head? = some .root := by
        rw [hcomponents]
        rcases hk : p.components with _ | ⟨c, _ | ⟨d, ds⟩⟩
        · exact absurd hk hne
        · rw [hk] at hroot
          simpa using hroot
        · simp
      have hbegins : j <+: p.components ↔ j = p.components ∨ j <+: q.components := by
        rw [hcomponents]
        conv_lhs => rw [← List.dropLast_append_getLast hne, List.prefix_concat_iff,
          List.dropLast_append_getLast hne]
      simp only [List.mem_cons, exists_eq_or_imp, ih q hlen, OnTheWay, hbegins]
      constructor
      · rintro (rfl | ⟨hup, habs⟩)
        · exact ⟨.inl rfl, fun h => absurd h hne⟩
        · exact ⟨.inr hup, fun h hr => habs h (hhead.mpr hr)⟩
      · rintro ⟨rfl | hup, habs⟩
        · exact .inl rfl
        · exact .inr ⟨hup, fun h hr => habs h (hhead.mp hr)⟩

theorem ancestors_components (p : Path) (j : List Component) :
    (∃ a ∈ p.ancestors, a.components = j) ↔ OnTheWay j p.components :=
  ancestors_up_to _ p (Nat.le_refl _) j

theorem ancestors_eq_cons (p : Path) : p.ancestors = p :: p.ancestors.tail := by
  unfold ancestors
  rcases p.components.length with _ | n
  · rfl
  · rw [ancestorsUpTo]
    cases p.parent? <;> rfl

/-! ## Downwards -/

def descend (p : Path) (ns : List String) : Path := ns.foldl (fun p n => p.join ⟨n⟩) p

theorem join_name_read {n : String} (hn : IsName n) (p : Path) :
    (p.join ⟨n⟩).anchor = p.anchor ∧ (p.join ⟨n⟩).body = p.trunk ++ [n.toList] ∧
      (p.join ⟨n⟩).trunk = p.trunk ++ [n.toList] := by
  have hns : ∀ m ∈ [n], IsName m := List.forall_mem_singleton.mpr hn
  obtain ⟨hanchor, hbody, -⟩ := join_of_names_read hns (List.cons_ne_nil _ _) p
  rw [of_names_singleton] at hanchor hbody
  refine ⟨hanchor, hbody, ?_⟩
  have hne : n.toList ≠ [] := hn.ne_special.1
  have hrelative := of_names_relative hns (List.cons_ne_nil _ _)
  rw [of_names_singleton] at hrelative
  have hlast : (p.join ⟨n⟩).chars.getLast? = n.toList.getLast? := get_last?_join hrelative hne
  have hslash : (p.join ⟨n⟩).chars.getLast? ≠ some '/' := by
    rw [hlast]
    exact fun h => hn.no_separator (List.mem_of_getLast? h)
  rw [trunk, if_neg hslash, hbody]
  rfl

theorem descend_read {ns : List String} (hns : ∀ n ∈ ns, IsName n) (hne : ns ≠ []) (p : Path) :
    (p.descend ns).anchor = p.anchor ∧ (p.descend ns).body = p.trunk ++ ns.map String.toList := by
  induction ns generalizing p with
  | nil => exact absurd rfl hne
  | cons n ns ih =>
    obtain ⟨hanchor, hbody, htrunk⟩ := join_name_read (hns n (by simp)) p
    rcases ns with _ | ⟨m, ms⟩
    · exact ⟨hanchor, hbody⟩
    · obtain ⟨hanchor', hbody'⟩ := ih (fun k hk => hns k (by simp [hk])) (List.cons_ne_nil _ _)
        (p.join ⟨n⟩)
      refine ⟨hanchor'.trans hanchor, hbody'.trans ?_⟩
      rw [htrunk, List.append_assoc]
      rfl

theorem descend_concat (p : Path) (ns : List String) (n : String) :
    p.descend (ns ++ [n]) = (p.descend ns).join ⟨n⟩ := by
  rw [descend, List.foldl_append]
  rfl

theorem components_descend_concat {n : String} (hn : IsName n) (p : Path) (ns : List String) :
    (p.descend (ns ++ [n])).components = (p.descend ns).components ++ [.name n] := by
  rw [descend_concat, components_join_name hn]

theorem components_descend {ns : List String} (hns : ∀ n ∈ ns, IsName n) (p : Path) :
    (p.descend ns).components = p.components ++ ns.map .name := by
  induction ns using List.reverseRecOn with
  | nil => simp [descend]
  | append_singleton ns n ih =>
    rw [components_descend_concat (hns n (by simp)), ih fun m hm => hns m (List.mem_append_left _ hm)]
    simp

theorem descend_injective {p : Path} {ns ms : List String} (hns : ∀ n ∈ ns, IsName n)
    (hms : ∀ n ∈ ms, IsName n) (h : (p.descend ns).Same (p.descend ms)) : ns = ms := by
  rw [Same, components_descend hns, components_descend hms] at h
  exact List.map_injective_iff.mpr (fun _ _ => Component.name.inj) (List.append_cancel_left h)

/-- What is written behind a directory is read off a path as it is, if every segment of it contributes. -/
theorem below?_behind {p q : Path} (hanchor : q.anchor = p.anchor) {ss : List Segment} (hbody : q.body = p.trunk ++ ss)
    (hne : ss ≠ []) (hss : ∀ s ∈ ss, component? s ≠ none) : p.below? q = some (ofChars (Segment.join ss)) := by
  obtain ⟨s, ts, hfront⟩ := List.exists_cons_of_ne_nil hne
  have hfirst : component? s ≠ none := hss s (by simp [hfront])
  have htrim (rest : List Segment) := trim_end_keep hne hss rest
  have hinner : (dropComponents (Segment.components p.body) q.body).map
      (fun ts => ofChars (Segment.join (trimStart (trimEnd ts)))) = some (ofChars (Segment.join ss)) := by
    obtain ⟨rest, hrest, hnone⟩ := drop_components_append p.trunk ss
    rw [components_trunk, ← hbody] at hrest
    rw [hrest, Option.map_some, htrim, hfront, trim_start_append hfirst hnone]
  unfold below?
  simp only [hanchor, components]
  cases hp : p.anchor with
  | root => simpa [Anchor.components] using hinner
  | here => simpa [Anchor.components] using hinner
  | bare =>
    rcases hcomponents : Segment.components p.body with _ | ⟨c, cs⟩
    · -- only the empty path has no components
      have hnone : p.body = [] := body_of_no_components hp hcomponents
      have htrunk : p.trunk = [] := by
        unfold trunk
        split <;> simp [hnone]
      simp only [Anchor.components, List.nil_append, hbody, htrunk, Anchor.write]
      rw [← List.nil_append ss, htrim]
    · rw [hcomponents] at hinner
      simpa [Anchor.components] using hinner

/-- Names below a directory are read off a path as they are written. -/
theorem below?_descend {ns : List String} (hns : ∀ n ∈ ns, IsName n) (hne : ns ≠ []) (p : Path) :
    p.below? (p.descend ns) = some (ofNames ns) := by
  obtain ⟨hanchor, hbody⟩ := descend_read hns hne p
  have hwritten : ofChars (Segment.join (ns.map String.toList)) = ofNames ns := by
    rw [← chars_of_names]
    exact congrArg Path.mk String.ofList_toList
  rw [below?_behind hanchor hbody (by simpa using hne) (contributes_names hns), hwritten]

theorem below?_same {base base' : Path} (h : base.Same base') (p : Path) :
    base.below? p = base'.below? p := by
  unfold below?
  rw [h]

theorem relative_text?_written [Encoding] {t : String} (hback : '\\' ∉ t.toList) :
    relativeText? ⟨Encoding.write t⟩ = if t = "" then none else some t := by
  have hsame : t.toList.map (fun c => if c = '\\' then '/' else c) = t.toList := by
    refine (List.map_congr_left fun c hc => if_neg ?_).trans (List.map_id _)
    rintro rfl
    exact hback hc
  unfold relativeText?
  rw [Encoding.lossy_write, hsame]
  simp only [List.isEmpty_iff, String.toList_eq_nil_iff, String.ofList_toList]

theorem relative_text?_none [Encoding] {p : Path} : p.relativeText? = none ↔ p.text = "" := by
  simp [relativeText?, Encoding.lossy_eq_empty]

theorem relative_text?_eq {p : Path} (hback : '\\' ∉ p.chars) :
    p.relativeText? = if p.text = "" then none else some p.text :=
  relative_text?_written hback

theorem relative_text?_of_names {ns : List String} (hns : ∀ n ∈ ns, IsName n) (hne : ns ≠ [])
    (hback : ∀ n ∈ ns, '\\' ∉ n.toList) : (ofNames ns).relativeText? = some (ofNames ns).text := by
  have hplain : '\\' ∉ (ofNames ns).chars := by
    intro hc
    rw [chars_of_names] at hc
    rcases mem_join hc with heq | ⟨s, hs, hin⟩
    · exact absurd heq (by decide)
    · obtain ⟨n, hn, rfl⟩ := List.mem_map.mp hs
      exact hback n hn hin
  have hwritten : (ofNames ns).chars ≠ [] := by
    intro hempty
    have hsplit := split_of_names hns hne
    obtain ⟨n, ms, rfl⟩ := List.exists_cons_of_ne_nil hne
    rw [hempty] at hsplit
    exact (hns n (by simp)).ne_special.1 (List.cons.inj hsplit).1.symm
  rw [relative_text?_eq hplain, if_neg fun hempty => hwritten (chars_empty.mpr hempty)]

end Path

end BundleWatch
