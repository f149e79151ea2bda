import BundleWatch.Path.Basic
import Mathlib.Data.List.Basic

/-!
# Segments

Cutting a text at separators and writing segments undo each other. Only some segments contribute a component,
and the ends of a list of segments can be trimmed without changing what it contributes.
-/

set_option autoImplicit false

namespace BundleWatch

/-- A text that can name a file: it is no special segment, and no separator cuts it. -/
def IsName (n : String) : Prop := n ≠ "" ∧ n ≠ "." ∧ n ≠ ".." ∧ '/' ∉ n.toList

instance (n : String) : Decidable (IsName n) := inferInstanceAs (Decidable (_ ∧ _))

namespace IsName

variable {n : String}

theorem ne_special (h : IsName n) : n.toList ≠ [] ∧ n.toList ≠ ['.'] ∧ n.toList ≠ ['.', '.'] := by
  obtain ⟨hempty, hhere, hup, -⟩ := h
  have hne : ∀ {s : String}, n ≠ s → n.toList ≠ s.toList := fun hs heq => hs (String.toList_inj.mp heq)
  exact ⟨hne hempty, hne hhere, hne hup⟩

theorem no_separator (h : IsName n) : '/' ∉ n.toList := h.2.2.2

end IsName

namespace Segment

/-! ## Cutting and writing -/

theorem split_ne_nil (cs : List Char) : split cs ≠ [] := by
  cases cs with
  | nil => simp [split]
  | cons c cs =>
    rw [split]
    split
    · simp
    · split <;> simp

theorem split_cons {c : Char} (hc : c ≠ '/') (cs : List Char) :
    ∃ s ss, split cs = s :: ss ∧ split (c :: cs) = (c :: s) :: ss := by
  rw [split, if_neg hc]
  rcases hs : split cs with _ | ⟨s, ss⟩
  · exact absurd hs (split_ne_nil cs)
  · exact ⟨s, ss, rfl, rfl⟩

theorem split_append (cs ds : List Char) : split (cs ++ '/' :: ds) = split cs ++ split ds := by
  induction cs with
  | nil => simp [split]
  | cons c cs ih =>
    by_cases hc : c = '/'
    · simp [split, hc, ih]
    · obtain ⟨s, ss, hs, hcs⟩ := split_cons hc cs
      obtain ⟨t, ts, ht, hct⟩ := split_cons hc (cs ++ '/' :: ds)
      rw [ih, hs, List.cons_append] at ht
      obtain ⟨rfl, rfl⟩ := List.cons.inj ht
      rw [List.cons_append, hct, hcs, List.cons_append]

theorem split_whole {cs : List Char} (h : '/' ∉ cs) : split cs = [cs] := by
  induction cs with
  | nil => rfl
  | cons c cs ih =>
    rw [List.mem_cons, not_or] at h
    obtain ⟨s, ss, hs, hcs⟩ := split_cons (Ne.symm h.1) cs
    rw [ih h.2] at hs
    obtain ⟨rfl, rfl⟩ := List.cons.inj hs
    exact hcs

theorem no_separator {cs : List Char} {s : Segment} (h : s ∈ split cs) : '/' ∉ s := by
  induction cs generalizing s with
  | nil =>
    rw [List.mem_singleton.mp h]
    exact List.not_mem_nil
  | cons c cs ih =>
    by_cases hc : c = '/'
    · rw [split, if_pos hc] at h
      rcases List.mem_cons.mp h with rfl | h
      · exact List.not_mem_nil
      · exact ih h
    · obtain ⟨t, ts, ht, hct⟩ := split_cons hc cs
      rw [hct] at h
      rcases List.mem_cons.mp h with rfl | h
      · have hfirst := ih (s := t) (by simp [ht])
        simp [Ne.symm hc, hfirst]
      · exact ih (by simp [ht, h])

theorem split_join {ss : List Segment} (h : ∀ s ∈ ss, '/' ∉ s) (hne : ss ≠ []) :
    split (join ss) = ss := by
  induction ss with
  | nil => exact absurd rfl hne
  | cons s ss ih =>
    cases ss with
    | nil => exact split_whole (h s (by simp))
    | cons t ts =>
      rw [join, split_append, split_whole (h s (by simp)), ih (fun u hu => h u (by simp [hu]))
        (by simp)]
      · rfl
      · simp

theorem mem_join {ss : List Segment} {c : Char} (h : c ∈ join ss) : c = '/' ∨ ∃ s ∈ ss, c ∈ s := by
  induction ss with
  | nil => cases h
  | cons s ss ih =>
    rcases ss with _ | ⟨t, ts⟩
    · exact .inr ⟨s, by simp, h⟩
    · rw [join, List.mem_append, List.mem_cons] at h
      · rcases h with hs | hslash | hrest
        · exact .inr ⟨s, by simp, hs⟩
        · exact .inl hslash
        · rcases ih hrest with hslash | ⟨u, hu, hin⟩
          · exact .inl hslash
          · exact .inr ⟨u, by simp [hu], hin⟩
      · exact List.cons_ne_nil _ _

/-! ## Contributions -/

theorem components_append (ss ts : List Segment) :
    components (ss ++ ts) = components ss ++ components ts :=
  List.filterMap_append

theorem components_cons (s : Segment) (ss : List Segment) :
    components (s :: ss) = (component? s).toList ++ components ss := by
  rw [components, List.filterMap_cons]
  cases component? s <;> rfl

theorem component?_name {n : String} (h : IsName n) : component? n.toList = some (.name n) := by
  obtain ⟨hempty, hhere, hup⟩ := h.ne_special
  rw [component?, if_neg (not_or.mpr ⟨hempty, hhere⟩), if_neg hup, String.ofList_toList]

theorem contributes_iff {s : Segment} : component? s ≠ none ↔ s ≠ [] ∧ s ≠ ['.'] := by
  unfold component?
  rw [← not_or]
  split
  · next hspecial => exact iff_of_false (fun h => h rfl) (not_not_intro hspecial)
  · next hspecial =>
    refine iff_of_true ?_ hspecial
    split <;> simp

theorem contributes_name {n : String} (h : IsName n) : component? n.toList ≠ none := by
  rw [component?_name h]
  exact Option.some_ne_none _

theorem contributes_names {ns : List String} (hns : ∀ n ∈ ns, IsName n) :
    ∀ s ∈ ns.map String.toList, component? s ≠ none := by
  intro s hs
  obtain ⟨n, hn, rfl⟩ := List.mem_map.mp hs
  exact contributes_name (hns n hn)

theorem component?_eq_name {s : Segment} {n : String} (h : component? s = some (.name n)) :
    s = n.toList ∧ n ≠ "" ∧ n ≠ "." ∧ n ≠ ".." := by
  unfold component? at h
  split at h
  · cases h
  · next hspecial =>
    split at h
    · cases h
    · next hup =>
      cases h
      rw [not_or] at hspecial
      have hne : ∀ {t : String}, s ≠ t.toList → String.ofList s ≠ t := by
        rintro t hs rfl
        exact hs String.toList_ofList.symm
      exact ⟨String.toList_ofList.symm, hne hspecial.1, hne hspecial.2, hne hup⟩

theorem component?_cases (s : Segment) :
    component? s = none ∨ component? s = some .up ∨ component? s = some (.name (String.ofList s)) := by
  unfold component?
  split
  · exact .inl rfl
  · split
    · exact .inr (.inl rfl)
    · exact .inr (.inr rfl)

theorem components_names {ns : List String} (h : ∀ n ∈ ns, IsName n) :
    components (ns.map String.toList) = ns.map .name := by
  induction ns with
  | nil => rfl
  | cons n ns ih =>
    have hhead := component?_name (h n (by simp))
    have htail := ih fun m hm => h m (by simp [hm])
    rw [List.map_cons, components_cons, hhead, htail]
    rfl

/-! ## Trimming -/

theorem trim_end_cons (s : Segment) (ss : List Segment) :
    trimEnd (s :: ss) = if trimEnd ss = [] ∧ component? s = none then [] else s :: trimEnd ss :=
  rfl

theorem components_trim_end (ss : List Segment) : components (trimEnd ss) = components ss := by
  induction ss with
  | nil => rfl
  | cons s ss ih =>
    rw [trim_end_cons]
    split
    · next h =>
      rw [components_cons, h.2, ← ih, h.1]
      rfl
    · rw [components_cons, components_cons, ih]

theorem trim_end_begins (ss : List Segment) : trimEnd ss <+: ss := by
  induction ss with
  | nil => exact List.prefix_rfl
  | cons s ss ih =>
    rw [trim_end_cons]
    split
    · exact List.nil_prefix
    · exact List.cons_prefix_cons.mpr ⟨rfl, ih⟩

theorem trim_end_last {ss : List Segment} {s : Segment} (h : (trimEnd ss).getLast? = some s) :
    component? s ≠ none := by
  induction ss with
  | nil => cases h
  | cons t ss ih =>
    rw [trim_end_cons] at h
    split at h
    · cases h
    · next hkept =>
      rcases htrim : trimEnd ss with _ | ⟨u, us⟩
      · rw [htrim] at h
        obtain rfl := Option.some.inj h
        exact fun hnone => hkept ⟨htrim, hnone⟩
      · rw [htrim, List.getLast?_cons_cons] at h
        exact ih (htrim ▸ h)

theorem trim_end_append {ss : List Segment} {s : Segment} (h : component? s ≠ none) :
    trimEnd (ss ++ [s]) = ss ++ [s] := by
  induction ss with
  | nil => rw [List.nil_append, trim_end_cons, if_neg fun hs => h hs.2, trimEnd, List.foldr_nil]
  | cons t ss ih => rw [List.cons_append, trim_end_cons, ih, if_neg (by simp)]

theorem trim_end_keep {ss : List Segment} (hne : ss ≠ []) (hss : ∀ s ∈ ss, component? s ≠ none) (rest : List Segment) :
    trimEnd (rest ++ ss) = rest ++ ss := by
  obtain ⟨front, s, rfl⟩ := (List.eq_nil_or_concat ss).resolve_left hne
  rw [List.concat_eq_append, ← List.append_assoc]
  exact trim_end_append (hss s (by simp))

theorem trim_start_append {ss : List Segment} {s : Segment} (h : component? s ≠ none)
    (hss : ∀ t ∈ ss, component? t = none) (ts : List Segment) :
    trimStart (ss ++ s :: ts) = s :: ts := by
  induction ss with
  | nil => exact List.dropWhile_cons_of_neg (by simpa using h)
  | cons t ss ih =>
    have ht : component? t = none := hss t (by simp)
    rw [trimStart, List.cons_append, List.dropWhile_cons_of_pos (by simpa using ht)]
    exact ih fun u hu => hss u (by simp [hu])

/-- Dropping what some segments contribute drops these segments, up to some that contribute nothing. -/
theorem drop_components_append (ss ts : List Segment) :
    ∃ rest, dropComponents (components ss) (ss ++ ts) = some (rest ++ ts) ∧
      ∀ t ∈ rest, component? t = none := by
  induction ss with
  | nil => exact ⟨[], by simp [components, dropComponents], by simp⟩
  | cons s ss ih =>
    obtain ⟨rest, hrest, hnone⟩ := ih
    rcases hs : component? s with _ | k
    · have hsame : components (s :: ss) = components ss := by
        rw [components_cons, hs]
        rfl
      rw [hsame]
      rcases hks : components ss with _ | ⟨k, ks⟩
      · refine ⟨s :: ss, by rw [dropComponents], ?_⟩
        intro t ht
        rcases List.mem_cons.mp ht with rfl | ht
        · exact hs
        · exact List.filterMap_eq_nil_iff.mp hks t ht
      · rw [hks] at hrest
        exact ⟨rest, by rw [List.cons_append, dropComponents, hs]; exact hrest, hnone⟩
    · have hmore : components (s :: ss) = k :: components ss := by
        rw [components_cons, hs]
        rfl
      refine ⟨rest, ?_, hnone⟩
      rw [hmore, List.cons_append, dropComponents, hs]
      simpa using hrest

theorem components_trim_start (ss : List Segment) : components (trimStart ss) = components ss := by
  induction ss with
  | nil => rfl
  | cons s ss ih =>
    unfold trimStart at ih ⊢
    rcases hs : component? s with _ | k
    · rw [List.dropWhile_cons_of_pos (by simpa using hs), ih, components_cons, hs]
      rfl
    · rw [List.dropWhile_cons_of_neg (by simp [hs])]

theorem trim_start_first {ss : List Segment} {s : Segment} (h : (trimStart ss).head? = some s) :
    component? s ≠ none := by
  induction ss with
  | nil => cases h
  | cons t ss ih =>
    unfold trimStart at ih h
    rcases ht : component? t with _ | k
    · rw [List.dropWhile_cons_of_pos (by simpa using ht)] at h
      exact ih h
    · rw [List.dropWhile_cons_of_neg (by simp [ht])] at h
      obtain rfl := Option.some.inj h
      simp [ht]

theorem drop_components_front {ks r : List Component} {ss : List Segment} (h : components ss = ks ++ r) :
    ∃ rest, dropComponents ks ss = some rest ∧ components rest = r ∧ rest <:+ ss := by
  induction ss generalizing ks with
  | nil =>
    obtain ⟨rfl, rfl⟩ := List.append_eq_nil_iff.mp h.symm
    exact ⟨[], rfl, rfl, List.suffix_rfl⟩
  | cons s ss ih =>
    rcases ks with _ | ⟨k, ks⟩
    · exact ⟨s :: ss, rfl, h, List.suffix_rfl⟩
    · rw [components_cons] at h
      rcases hs : component? s with _ | k'
      · rw [hs] at h
        obtain ⟨rest, hdrop, hrest, hsuffix⟩ := @ih (k :: ks) h
        exact ⟨rest, by rw [dropComponents, hs]; exact hdrop, hrest, hsuffix.trans (List.suffix_cons s ss)⟩
      · rw [hs] at h
        obtain ⟨rfl, htail⟩ := List.cons.inj h
        obtain ⟨rest, hdrop, hrest, hsuffix⟩ := ih htail
        exact ⟨rest, by rw [dropComponents, hs]; simpa using hdrop, hrest, hsuffix.trans (List.suffix_cons s ss)⟩

end Segment

end BundleWatch
