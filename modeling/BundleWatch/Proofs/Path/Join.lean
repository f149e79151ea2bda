import BundleWatch.Path.Relative
import BundleWatch.Proofs.Path.Segment
import Mathlib.Data.List.Infix

/-!
# Joining and taking apart

The components of a joined path are those of its parts, and the name of a path below a directory is the names
that lead to it. A path loses its last component with each step to the path above it.
-/

set_option autoImplicit false

namespace BundleWatch

open Segment

namespace Anchor

theorem read_cons {c : Char} (hc : c ≠ '/') (cs : List Char) :
    ∃ s ss, split (c :: cs) = (c :: s) :: ss ∧
      read (c :: cs) = if c :: s = ['.'] then (.here, ss) else (.bare, (c :: s) :: ss) := by
  obtain ⟨s, ss, -, hcs⟩ := split_cons hc cs
  refine ⟨s, ss, hcs, ?_⟩
  rw [read, if_neg hc, hcs]

theorem read_root (cs : List Char) : read ('/' :: cs) = (.root, split cs) := by
  rw [read, if_pos rfl]

/-- A text whose first segment contributes has no anchor in front of its segments. -/
theorem read_segments {cs : List Char} {s : Segment} {ss : List Segment} (h : split cs = s :: ss) (hempty : s ≠ [])
    (hdot : s ≠ ['.']) : read cs = (.bare, s :: ss) := by
  rcases cs with _ | ⟨c, cs⟩
  · exact absurd (List.cons.inj h).1.symm hempty
  · by_cases hc : c = '/'
    · subst hc
      rw [split, if_pos rfl] at h
      exact absurd (List.cons.inj h).1.symm hempty
    · obtain ⟨t, ts, hs, hread⟩ := read_cons hc cs
      rw [h] at hs
      obtain ⟨rfl, rfl⟩ := List.cons.inj hs
      rw [hread, if_neg hdot]

/-- What is written behind a path does not change where it starts. -/
theorem read_append {cs : List Char} (h : cs ≠ []) (ds : List Char) :
    read (cs ++ '/' :: ds) = ((read cs).1, (read cs).2 ++ split ds) := by
  cases cs with
  | nil => exact absurd rfl h
  | cons c cs =>
    by_cases hc : c = '/'
    · subst hc
      rw [List.cons_append, read_root, read_root, split_append]
    · obtain ⟨s, ss, hs, hread⟩ := read_cons hc cs
      obtain ⟨t, ts, ht, hmore⟩ := read_cons hc (cs ++ '/' :: ds)
      rw [← List.cons_append, split_append, hs, List.cons_append] at ht
      obtain ⟨hst, rfl⟩ := List.cons.inj ht
      obtain ⟨-, rfl⟩ := List.cons.inj hst
      rw [List.cons_append, hmore, hread]
      split <;> rfl

theorem components_split (cs : List Char) : Segment.components (split cs) = Segment.components (read cs).2 := by
  cases cs with
  | nil => rfl
  | cons c cs =>
    by_cases hc : c = '/'
    · subst hc
      rw [read_root, split, if_pos rfl, components_cons]
      rfl
    · obtain ⟨s, ss, hs, hread⟩ := read_cons hc cs
      rw [hs, hread]
      split
      · next hdot =>
        rw [hdot, components_cons]
        rfl
      · rfl

theorem read_no_separator {cs : List Char} {s : Segment} (h : s ∈ (read cs).2) : '/' ∉ s := by
  cases cs with
  | nil => cases h
  | cons c cs =>
    by_cases hc : c = '/'
    · subst hc
      rw [read_root] at h
      exact no_separator h
    · obtain ⟨t, ts, hs, hread⟩ := read_cons hc cs
      rw [hread] at h
      have hin : s ∈ split (c :: cs) := by
        rw [hs]
        split at h
        · exact List.mem_cons_of_mem _ h
        · exact h
      exact no_separator hin

/-- A bare path starts with a segment that cannot be taken for an anchor. -/
theorem read_bare {cs : List Char} (h : (read cs).1 = .bare) {s : Segment}
    (hs : (read cs).2.head? = some s) : s ≠ [] ∧ s ≠ ['.'] := by
  cases cs with
  | nil => cases hs
  | cons c cs =>
    by_cases hc : c = '/'
    · subst hc
      rw [read_root] at h
      cases h
    · obtain ⟨t, ts, -, hread⟩ := read_cons hc cs
      rw [hread] at h hs
      split at h
      · cases h
      · next hdot =>
        rw [if_neg hdot] at hs
        obtain rfl := Option.some.inj hs
        exact ⟨List.cons_ne_nil _ _, hdot⟩

theorem read_empty {cs : List Char} (h : (read cs).1 = .bare) (hempty : (read cs).2 = []) : cs = [] := by
  cases cs with
  | nil => rfl
  | cons c cs =>
    by_cases hc : c = '/'
    · subst hc
      rw [read_root] at h
      cases h
    · obtain ⟨t, ts, -, hread⟩ := read_cons hc cs
      rw [hread] at h hempty
      split at h
      · cases h
      · next hdot =>
        rw [if_neg hdot] at hempty
        cases hempty

theorem read_write (a : Anchor) {ss : List Segment} (hss : ∀ s ∈ ss, '/' ∉ s)
    (hbare : a = .bare → ∀ s, ss.head? = some s → s ≠ [] ∧ s ≠ ['.']) :
    (read (a.write ss)).1 = a ∧ Segment.components (read (a.write ss)).2 = Segment.components ss := by
  cases a with
  | root =>
    rw [write, read_root]
    refine ⟨rfl, ?_⟩
    rcases ss with _ | ⟨s, ss⟩
    · rfl
    · rw [split_join hss (List.cons_ne_nil _ _)]
  | here =>
    rcases ss with _ | ⟨s, ss⟩
    · exact ⟨rfl, rfl⟩
    · have hread := read_append (List.cons_ne_nil '.' []) (join (s :: ss))
      rw [split_join hss (List.cons_ne_nil _ _)] at hread
      rw [write]
      · exact ⟨congrArg Prod.fst hread, congrArg (fun r => Segment.components r.2) hread⟩
      · exact List.cons_ne_nil _ _
  | bare =>
    rcases ss with _ | ⟨s, ss⟩
    · exact ⟨rfl, rfl⟩
    · obtain ⟨hempty, hdot⟩ := hbare rfl s rfl
      rw [write]
      rw [read_segments (split_join hss (List.cons_ne_nil _ _)) hempty hdot]
      exact ⟨rfl, rfl⟩

end Anchor

namespace Path

theorem chars_of_chars (cs : List Char) : (ofChars cs).chars = cs := String.toList_ofList

theorem chars_empty {p : Path} : p.chars = [] ↔ p.text = "" := by
  rw [chars, ← String.toList_empty, String.toList_inj]

theorem is_absolute_nonempty {p : Path} (hp : p.isAbsolute) : p.text ≠ "" := by
  intro hempty
  rw [isAbsolute, anchor, chars_empty.mpr hempty] at hp
  exact absurd hp (by decide)

theorem is_absolute_iff {p : Path} : p.isAbsolute = true ↔ p.components.head? = some .root := by
  have hbody : (Segment.components p.body).head? ≠ some .root := by
    intro h
    obtain ⟨s, -, hs⟩ := List.mem_filterMap.mp (List.mem_of_head? h)
    rcases component?_cases s with h | h | h <;> rw [h] at hs <;> cases hs
  unfold isAbsolute
  rw [components]
  cases p.anchor with
  | root => simp [Anchor.components]
  | here => simp [Anchor.components]
  | bare => simpa [Anchor.components] using hbody

theorem is_absolute_ne_nil {p : Path} (hp : p.isAbsolute = true) : p.components ≠ [] := by
  intro hempty
  have hhead := is_absolute_iff.mp hp
  rw [hempty] at hhead
  cases hhead

/-! ## Joining -/

def trunk (p : Path) : List Segment :=
  if p.chars.getLast? = some '/' then p.body.dropLast else p.body

theorem chars_join {p q : Path} (hq : q.isAbsolute = false) :
    (p.join q).chars =
      if p.text = "" ∨ p.chars.getLast? = some '/' then p.chars ++ q.chars
      else p.chars ++ '/' :: q.chars := by
  rw [join, if_neg (by simp [hq])]
  split <;> simp [chars]

theorem get_last?_join {p q : Path} (hq : q.isAbsolute = false) (hne : q.chars ≠ []) :
    (p.join q).chars.getLast? = q.chars.getLast? := by
  rw [chars_join hq]
  split
  · exact List.getLast?_append_of_ne_nil _ hne
  · rw [List.getLast?_append_of_ne_nil _ (List.cons_ne_nil _ _), List.getLast?_cons_of_ne_nil hne]

theorem join_read {p q : Path} (hq : q.isAbsolute = false)
    (hp : p.text = "" → q.anchor = .bare ∧ q.body = split q.chars) :
    (p.join q).anchor = p.anchor ∧ (p.join q).body = p.trunk ++ split q.chars ∧
      Segment.components p.trunk = Segment.components p.body := by
  unfold anchor body trunk
  rw [chars_join hq]
  by_cases hempty : p.text = ""
  · obtain ⟨hbare, hbody⟩ := hp hempty
    have hchars := chars_empty.mpr hempty
    have hnone : p.body = [] := by
      rw [body, hchars]
      rfl
    rw [if_pos (.inl hempty), hchars, hnone]
    exact ⟨hbare, hbody, rfl⟩
  · have hne : p.chars ≠ [] := fun h => hempty (chars_empty.mp h)
    by_cases hlast : p.chars.getLast? = some '/'
    · rw [if_pos (.inr hlast), if_pos hlast]
      obtain ⟨cs, hcs⟩ : ∃ cs, p.chars = cs ++ ['/'] :=
        ⟨_, (List.dropLast_append_getLast? _ hlast).symm⟩
      rw [body, hcs, List.append_assoc, List.singleton_append]
      rcases cs with _ | ⟨c, cs⟩
      · exact ⟨rfl, rfl, rfl⟩
      · rw [Anchor.read_append (List.cons_ne_nil c cs), Anchor.read_append (List.cons_ne_nil c cs)]
        have hdrop : ((Anchor.read (c :: cs)).2 ++ split []).dropLast = (Anchor.read (c :: cs)).2 :=
          List.dropLast_concat
        refine ⟨rfl, by rw [hdrop], ?_⟩
        rw [hdrop, components_append]
        exact (List.append_nil _).symm
    · rw [if_neg (not_or.mpr ⟨hempty, hlast⟩), if_neg hlast, Anchor.read_append hne]
      exact ⟨rfl, rfl, rfl⟩

theorem is_absolute_join {p : Path} (hp : p.isAbsolute) (q : Path) : (p.join q).isAbsolute := by
  by_cases hq : q.isAbsolute = true
  · rwa [join, if_pos hq]
  · obtain ⟨hanchor, -⟩ := join_read (p := p) (by simpa using hq) fun h =>
      absurd h (is_absolute_nonempty hp)
    rwa [isAbsolute, hanchor]

/-- A path that is not absolute, joined to one that is not empty, leads on from there. -/
theorem components_join {p q : Path} (hq : q.isAbsolute = false) (hp : p.text ≠ "") :
    (p.join q).components = p.components ++ Segment.components (split q.chars) := by
  obtain ⟨hanchor, hbody, htrunk⟩ := join_read hq fun h => absurd h hp
  rw [components, components, hanchor, hbody, components_append, htrunk, List.append_assoc]

/-! ## Names -/

def StrictlyBelow (base p : Path) : Prop :=
  ∃ ns : List String, ns ≠ [] ∧ (∀ n ∈ ns, IsName n) ∧ p.components = base.components ++ ns.map .name

theorem name_of_component {p : Path} {n : String} (h : .name n ∈ p.components) : IsName n := by
  rcases List.mem_append.mp h with hanchor | hbody
  · cases ha : p.anchor <;> simp [ha, Anchor.components] at hanchor
  · obtain ⟨s, hs, hname⟩ := List.mem_filterMap.mp hbody
    obtain ⟨rfl, hempty, hdot, hup⟩ := component?_eq_name hname
    exact ⟨hempty, hdot, hup, Anchor.read_no_separator hs⟩

def ofNames (ns : List String) : Path := ⟨"/".intercalate ns⟩

theorem chars_of_names (ns : List String) : (ofNames ns).chars = Segment.join (ns.map String.toList) := by
  unfold ofNames chars
  induction ns with
  | nil => rfl
  | cons n ns ih =>
    cases ns with
    | nil => simp [Segment.join]
    | cons m ns =>
      rw [String.intercalate_cons_cons, String.toList_append, String.toList_append, ih]
      simp [Segment.join]

theorem of_names_singleton (n : String) : ofNames [n] = ⟨n⟩ := by simp [ofNames]

theorem split_of_names {ns : List String} (hns : ∀ n ∈ ns, IsName n) (hne : ns ≠ []) :
    split (ofNames ns).chars = ns.map String.toList := by
  rw [chars_of_names]
  refine split_join ?_ (by simpa using hne)
  intro s hs
  obtain ⟨n, hn, rfl⟩ := List.mem_map.mp hs
  exact (hns n hn).no_separator

theorem read_of_names {ns : List String} (hns : ∀ n ∈ ns, IsName n) (hne : ns ≠ []) :
    (ofNames ns).anchor = .bare ∧ (ofNames ns).body = split (ofNames ns).chars := by
  obtain ⟨n, ms, rfl⟩ := List.exists_cons_of_ne_nil hne
  have hsplit := split_of_names hns hne
  obtain ⟨hempty, hdot, -⟩ := (hns n (by simp)).ne_special
  unfold anchor body
  rw [Anchor.read_segments hsplit hempty hdot, hsplit]
  exact ⟨rfl, rfl⟩

theorem of_names_relative {ns : List String} (hns : ∀ n ∈ ns, IsName n) (hne : ns ≠ []) :
    (ofNames ns).isAbsolute = false := by
  simp [isAbsolute, (read_of_names hns hne).1]

theorem join_of_names_read {ns : List String} (hns : ∀ n ∈ ns, IsName n) (hne : ns ≠ []) (p : Path) :
    (p.join (ofNames ns)).anchor = p.anchor ∧
      (p.join (ofNames ns)).body = p.trunk ++ ns.map String.toList ∧
      Segment.components p.trunk = Segment.components p.body := by
  have hjoin := join_read (p := p) (of_names_relative hns hne) fun _ => read_of_names hns hne
  rwa [split_of_names hns hne] at hjoin

theorem components_trunk (p : Path) : Segment.components p.trunk = Segment.components p.body :=
  (join_of_names_read (List.forall_mem_singleton.mpr (by decide : IsName "n")) (List.cons_ne_nil _ _) p).2.2

theorem components_join_of_names {ns : List String} (hns : ∀ n ∈ ns, IsName n) (hne : ns ≠ [])
    (p : Path) : (p.join (ofNames ns)).components = p.components ++ ns.map .name := by
  obtain ⟨hanchor, hbody, htrunk⟩ := join_of_names_read hns hne p
  rw [components, components, hanchor, hbody, components_append, htrunk, components_names hns,
    List.append_assoc]

theorem components_join_name {n : String} (hn : IsName n) (p : Path) :
    (p.join ⟨n⟩).components = p.components ++ [.name n] := by
  rw [← of_names_singleton, components_join_of_names (List.forall_mem_singleton.mpr hn) (List.cons_ne_nil _ _)]
  rfl

end Path

end BundleWatch
