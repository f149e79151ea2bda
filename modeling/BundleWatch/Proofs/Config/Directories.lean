import BundleWatch.Config.Validate
import BundleWatch.Proofs.Path.Spelling

/-!
# Directories of a project file

Validation takes two directories for one if they contribute the same components, so below a project they are
spellings of one path.
-/

set_option autoImplicit false

namespace BundleWatch

namespace Segment

theorem text_of_component {s : Segment} {k : Component} (h : component? s = some k) : k.text.toList = s := by
  unfold component? at h
  split at h
  · cases h
  · split at h
    · next hup =>
      cases h
      exact hup.symm
    · cases h
      exact String.toList_ofList

theorem texts_of_components (ss : List Segment) :
    (components ss).map (fun k => k.text.toList) = ss.filter fun s => component? s ≠ none := by
  induction ss with
  | nil => rfl
  | cons s ss ih =>
    rw [components_cons, List.map_append, ih, List.filter_cons]
    rcases hs : component? s with _ | k
    · rfl
    · simpa using text_of_component hs

theorem components_filter (ss : List Segment) :
    components (ss.filter fun s => component? s ≠ none) = components ss := by
  induction ss with
  | nil => rfl
  | cons s ss ih =>
    rw [List.filter_cons]
    split
    · rw [components_cons, components_cons, ih]
    · next hs =>
      rw [ih, components_cons, show component? s = none by simpa using hs]
      rfl

/-- Components can be read back from a text of their names. -/
theorem components_of_texts (ss : List Segment) (hss : ∀ s ∈ ss, '/' ∉ s) :
    components (split (Path.ofNames ((components ss).map Component.text)).chars) = components ss := by
  have hchars : (Path.ofNames ((components ss).map Component.text)).chars =
      join (ss.filter fun s => component? s ≠ none) := by
    rw [Path.chars_of_names, List.map_map, ← texts_of_components]
    rfl
  have hfilter := components_filter ss
  rw [hchars]
  by_cases hnone : ss.filter (fun s => component? s ≠ none) = []
  · rw [hnone] at hfilter ⊢
    exact hfilter
  · rw [split_join (fun s hs => hss s (List.mem_of_mem_filter hs)) hnone, hfilter]

theorem components_separators (cs : List Char) {ds : List Char} (hds : ∀ d ∈ ds, d = '/') :
    components (split (cs ++ ds)) = components (split cs) := by
  induction ds generalizing cs with
  | nil => rw [List.append_nil]
  | cons d ds ih =>
    obtain ⟨rfl, hrest⟩ := List.forall_mem_cons.mp hds
    rw [List.append_cons, ih _ hrest, split_append, components_append]
    exact List.append_nil _

end Segment

namespace ProjectFile

open Segment

/-- A text without blanks around it that denotes a directory below the project. -/
structure PlainDir (d : String) : Prop where
  relative : (⟨d⟩ : Path).isAbsolute = false
  trimmed : Text.trim d = d

instance (d : String) : Decidable (PlainDir d) :=
  decidable_of_iff ((⟨d⟩ : Path).isAbsolute = false ∧ Text.trim d = d) ⟨fun h => ⟨h.1, h.2⟩, fun h => ⟨h.1, h.2⟩⟩

variable {d d' : String}

theorem PlainDir.normal_dir (h : PlainDir d) :
    normalDir d = "/".intercalate ((Segment.components (split d.toList)).map Component.text) := by
  have hcut : (d.toList.reverse.dropWhile (· = '/')).reverse ++ (d.toList.reverse.takeWhile (· = '/')).reverse =
      d.toList := by
    rw [← List.reverse_append, List.takeWhile_append_dropWhile, List.reverse_reverse]
  have hslashes : ∀ c ∈ (d.toList.reverse.takeWhile (· = '/')).reverse, c = '/' := by
    intro c hc
    simpa using List.all_eq_true.mp List.all_takeWhile c (List.mem_reverse.mp hc)
  unfold normalDir
  rw [h.trimmed]
  simp only []
  generalize (d.toList.reverse.dropWhile (· = '/')).reverse = front at hcut
  have hroot : (Path.ofChars front).anchor ≠ .root := by
    intro hroot
    have hhead : (Path.ofChars front).chars.head? = some '/' :=
      Path.is_absolute_iff_head.mp (by rw [Path.isAbsolute, hroot]; rfl)
    rw [Path.chars_of_chars] at hhead
    have habs : (⟨d⟩ : Path).isAbsolute = true := by
      rw [Path.is_absolute_iff_head, Path.chars, ← hcut, List.head?_append, hhead]
      rfl
    rw [h.relative] at habs
    cases habs
  have hbody : (Segment.components (Path.ofChars front).body).filter (· ≠ .here) =
      Segment.components (split d.toList) := by
    rw [← hcut, components_separators front hslashes, Anchor.components_split, Path.body, Path.chars_of_chars]
    refine List.filter_eq_self.mpr fun k hk => ?_
    obtain ⟨s, -, hs⟩ := List.mem_filterMap.mp hk
    rw [decide_eq_true_eq]
    rintro rfl
    exact (component?_ne_anchor s).2 hs
  rw [← hbody, Path.components, List.filter_append]
  cases hanchor : (Path.ofChars front).anchor with
  | root => exact absurd hanchor hroot
  | here | bare => rfl

/-- Directories that validation takes for one contribute the same. -/
theorem PlainDir.components_eq (hd : PlainDir d) (hd' : PlainDir d') (h : normalDir d = normalDir d') :
    Segment.components (split d.toList) = Segment.components (split d'.toList) := by
  rw [hd.normal_dir, hd'.normal_dir] at h
  rw [← components_of_texts (split d.toList) fun _ => no_separator,
    ← components_of_texts (split d'.toList) fun _ => no_separator, Path.ofNames, Path.ofNames, h]

theorem PlainDir.same (hd : PlainDir d) (hd' : PlainDir d') (h : normalDir d = normalDir d') {root : Path}
    (hroot : root.text ≠ "") : (root.join ⟨d⟩).Same (root.join ⟨d'⟩) := by
  rw [Path.Same, Path.components_join hd.relative hroot, Path.components_join hd'.relative hroot]
  exact congrArg _ (hd.components_eq hd' h)

end ProjectFile

end BundleWatch
