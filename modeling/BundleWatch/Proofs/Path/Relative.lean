import BundleWatch.Proofs.Path.Spelling

/-!
# Relative names undo joining

What is left of a path below a directory leads back to the path if it is joined to the directory, however both are
spelled. Joined elsewhere it leads on from there. A relative name is the text of what is left, so it leads back as
long as the names below the directory are texts. In the other direction, a relative path that is written without empty
segments and `.` is read back behind every directory, character by character.
-/

set_option autoImplicit false

namespace BundleWatch

open Segment

theorem Segment.mem_of_split {cs : List Char} {s : Segment} (h : s ∈ split cs) : ∀ c ∈ s, c ∈ cs := by
  induction cs generalizing s with
  | nil =>
    rw [List.mem_singleton.mp h]
    exact fun _ => id
  | cons d cs ih =>
    intro c hc
    by_cases hd : d = '/'
    · rw [split, if_pos hd] at h
      rcases List.mem_cons.mp h with rfl | h
      · cases hc
      · exact List.mem_cons_of_mem d (ih h c hc)
    · obtain ⟨t, ts, ht, hdt⟩ := split_cons hd cs
      rw [hdt] at h
      rcases List.mem_cons.mp h with rfl | h
      · rcases List.mem_cons.mp hc with rfl | hc
        · exact List.mem_cons_self
        · exact List.mem_cons_of_mem d (ih (by simp [ht]) c hc)
      · exact List.mem_cons_of_mem d (ih (by simp [ht, h]) c hc)

theorem Anchor.mem_of_read {cs : List Char} {s : Segment} (h : s ∈ (Anchor.read cs).2) : ∀ c ∈ s, c ∈ cs := by
  rcases cs with _ | ⟨d, cs⟩
  · cases h
  · by_cases hd : d = '/'
    · rw [hd, Anchor.read_root] at h
      exact fun c hc => List.mem_cons_of_mem d (mem_of_split h c hc)
    · obtain ⟨t, ts, hs, hread⟩ := Anchor.read_cons hd cs
      refine mem_of_split ?_
      rw [hread] at h
      rw [hs]
      split at h
      · exact List.mem_cons_of_mem _ h
      · exact h

/-! ## Texts in paths -/

namespace Component

/-- A name that is a text. What is no name is written the same everywhere. -/
def isText [Encoding] : Component → Bool
  | .name n => (Encoding.read? n).isSome
  | _ => true

end Component

namespace Segment

theorem join_cons (s : Segment) {ss : List Segment} (h : ss ≠ []) : join (s :: ss) = s ++ '/' :: join ss := by
  obtain ⟨t, ts, rfl⟩ := List.exists_cons_of_ne_nil h
  rfl

theorem join_split (cs : List Char) : join (split cs) = cs := by
  induction cs with
  | nil => rfl
  | cons c cs ih =>
    by_cases hc : c = '/'
    · rw [split, if_pos hc, join_cons [] (split_ne_nil cs), ih, hc]
      rfl
    · obtain ⟨s, ss, hs, hcs⟩ := split_cons hc cs
      rw [hs] at ih
      rw [hcs, ← ih]
      cases ss <;> rfl

variable [Encoding]

theorem write_join (ss : List Segment) : (Encoding.write (String.ofList (join ss))).toList =
    join (ss.map fun s => (Encoding.write (String.ofList s)).toList) := by
  induction ss with
  | nil => rw [join, String.ofList_nil, Encoding.write_empty]; rfl
  | cons s ss ih =>
    rcases ss with _ | ⟨t, ts⟩
    · rfl
    · have hslash : String.ofList (s ++ '/' :: join (t :: ts)) =
          String.ofList s ++ "/" ++ String.ofList (join (t :: ts)) := by
        rw [← String.toList_inj]
        simp
      rw [join_cons s (List.cons_ne_nil t ts), hslash, Encoding.write_append, Encoding.write_append,
        Encoding.write_slash, String.toList_append, String.toList_append, ih]
      simp [join]

/-- Segments that are texts make up a text. -/
theorem written_join {ss : List Segment} (h : ∀ s ∈ ss, ∃ t, s = (Encoding.write t).toList) :
    ∃ t, join ss = (Encoding.write t).toList := by
  have hall : ∃ ts : List Segment, ss = ts.map fun s => (Encoding.write (String.ofList s)).toList := by
    induction ss with
    | nil => exact ⟨[], rfl⟩
    | cons s ss ih =>
      obtain ⟨t, rfl⟩ := h s List.mem_cons_self
      obtain ⟨ts, rfl⟩ := ih fun s hs => h s (List.mem_cons_of_mem _ hs)
      exact ⟨t.toList :: ts, by rw [List.map_cons, String.ofList_toList]⟩
  obtain ⟨ts, rfl⟩ := hall
  exact ⟨_, (write_join ts).symm⟩

end Segment

namespace Path

variable {a base p q root : Path}

/-! ## What is left below a directory -/

/-- Only at its beginning a path is anchored. -/
theorem tail_not_anchor {c : Component} (h : c ∈ p.components.tail) : c ≠ .root ∧ c ≠ .here := by
  have hbody : c ∈ Segment.components p.body := by
    unfold components at h
    cases ha : p.anchor <;> rw [ha] at h
    · exact h
    · exact h
    · exact List.mem_of_mem_tail h
  obtain ⟨s, -, hs⟩ := List.mem_filterMap.mp hbody
  constructor
  · rintro rfl
    exact (component?_ne_anchor s).1 hs
  · rintro rfl
    exact (component?_ne_anchor s).2 hs

/-- A path without an anchor leads on from wherever it is joined to. -/
theorem components_join_bare (hq : ∀ c ∈ q.components, c ≠ .root ∧ c ≠ .here) (base : Path) :
    (base.join q).components = base.components ++ q.components := by
  have hbare : q.anchor = .bare := by
    cases ha : q.anchor with
    | bare => rfl
    | root => exact absurd rfl (hq .root (by simp [components, ha, Anchor.components])).1
    | here => exact absurd rfl (hq .here (by simp [components, ha, Anchor.components])).2
  by_cases hempty : base.text = ""
  · rw [join_of_empty hempty, text_empty_iff.mp hempty, List.nil_append]
  · have hrelative : q.isAbsolute = false := by simp [isAbsolute, hbare]
    have hparts : q.components = Segment.components q.body := by rw [components, hbare]; rfl
    rw [components_join hrelative hempty, Anchor.components_split, hparts]
    rfl

theorem below?_components (h : a.below? p = some q) : p.components = a.components ++ q.components := by
  have hparts := components_below? a p
  rw [h, Option.map_some] at hparts
  split at hparts
  · next hprefix =>
    rw [Option.some.inj hparts]
    exact List.prefix_iff_eq_append.mp hprefix |>.symm
  · cases hparts

theorem below?_is_some (h : a.components <+: p.components) : ∃ q, a.below? p = some q := by
  rw [← Option.isSome_iff_exists, ← Option.isSome_map, components_below?, if_pos h]
  rfl

/-- What is left of a path below a directory is not anchored, so it can be joined to any other one. -/
theorem components_join_below? (hne : a.components ≠ []) (h : a.below? p = some q) (base : Path) :
    (base.join q).components = base.components ++ q.components := by
  refine components_join_bare (fun c hc => tail_not_anchor (p := p) ?_) base
  rw [below?_components h, List.tail_append_of_ne_nil hne]
  exact List.mem_append_right _ hc

theorem join_below? (h : a.below? p = some q) : (a.join q).Same p := by
  by_cases hempty : a.components = []
  · rw [join_of_empty (text_empty_iff.mpr hempty), Same, below?_components h, hempty, List.nil_append]
  · rw [Same, components_join_below? hempty h, below?_components h]

/-! ## Names without backslashes -/

theorem chars_written {an : Anchor} {ss : List Segment} {c : Char} (h : c ∈ an.write ss) :
    c = '/' ∨ c = '.' ∨ ∃ s ∈ ss, c ∈ s := by
  have hjoin : c ∈ Segment.join ss → c = '/' ∨ c = '.' ∨ ∃ s ∈ ss, c ∈ s := fun hin =>
    (mem_join hin).imp_right .inr
  cases an with
  | root =>
    rcases List.mem_cons.mp h with rfl | h
    · exact .inl rfl
    · exact hjoin h
  | here =>
    rcases ss with _ | ⟨s, ss⟩
    · exact .inr (.inl (List.mem_singleton.mp h))
    · rw [Anchor.write] at h
      · rcases List.mem_cons.mp h with rfl | h
        · exact .inr (.inl rfl)
        · rcases List.mem_cons.mp h with rfl | h
          · exact .inl rfl
          · exact hjoin h
      · exact List.cons_ne_nil _ _
  | bare => exact hjoin h

/-- What is left of a path is written with its characters, and with separators and dots. -/
theorem chars_below? (h : a.below? p = some q) {c : Char} (hc : c ∈ q.chars) : c = '/' ∨ c = '.' ∨ c ∈ p.chars := by
  have hbody (an : Anchor) (ss : List Segment) (hss : ss ⊆ p.body) (hq : q = ofChars (an.write ss)) :
      c = '/' ∨ c = '.' ∨ c ∈ p.chars := by
    subst hq
    rw [chars_of_chars] at hc
    refine (chars_written hc).imp_right (.imp_right ?_)
    rintro ⟨s, hs, hin⟩
    exact Anchor.mem_of_read (hss hs) c hin
  have hinner : ∀ {ks : List Component}, ((dropComponents ks p.body).map fun ss =>
      ofChars (Segment.join (trimStart (trimEnd ss)))) = some q → c = '/' ∨ c = '.' ∨ c ∈ p.chars := by
    intro ks hq
    obtain ⟨ss, hss, rfl⟩ := Option.map_eq_some_iff.mp hq
    refine hbody .bare (trimStart (trimEnd ss)) ?_ rfl
    exact fun s hs => (drop_components_suffix hss).subset
      ((trim_end_begins ss).subset ((List.dropWhile_suffix _).subset hs))
  unfold below? at h
  simp only [] at h
  split at h
  · exact hbody _ _ (trim_end_begins p.body).subset (Option.some.inj h).symm
  · exact hinner h
  · split at h
    · exact hinner h
    · cases h

/-- What every name of a path is, is in the segments of its text. -/
theorem name_of_segment {s : Segment} {n : String} (hs : s ∈ split p.chars) (hn : component? s = some (.name n)) :
    .name n ∈ p.components := by
  have hin : s ∈ p.body → .name n ∈ p.components := fun hbody =>
    List.mem_append_right _ (List.mem_filterMap.mpr ⟨s, hbody, hn⟩)
  unfold body at hin
  rcases hchars : p.chars with _ | ⟨c, cs⟩ <;> rw [hchars] at hs hin
  · rw [List.mem_singleton.mp hs] at hn
    cases hn
  · by_cases hc : c = '/'
    · subst hc
      rw [split, if_pos rfl] at hs
      rw [Anchor.read_root] at hin
      rcases List.mem_cons.mp hs with rfl | hs
      · cases hn
      · exact hin hs
    · obtain ⟨t, ts, ht, hread⟩ := Anchor.read_cons hc cs
      rw [ht] at hs
      rw [hread] at hin
      split at hin
      · next hdot =>
        rcases List.mem_cons.mp hs with rfl | hs
        · rw [hdot] at hn
          cases hn
        · exact hin hs
      · exact hin hs

section

variable [Encoding]

theorem text_of_names (h : ∀ c ∈ q.components, c.isText = true) : ∃ t, q.text = Encoding.write t := by
  have hsegments : ∀ s ∈ split q.chars, ∃ t, s = (Encoding.write t).toList := by
    intro s hs
    by_cases hempty : s = []
    · exact ⟨"", by rw [Encoding.write_empty, hempty]; rfl⟩
    by_cases hdot : s = ['.']
    · exact ⟨".", by rw [Encoding.write_dot, hdot]; rfl⟩
    by_cases hup : s = ['.', '.']
    · exact ⟨"..", by rw [Encoding.write_up, hup]; rfl⟩
    have hname : component? s = some (.name (String.ofList s)) := by
      rw [component?, if_neg (not_or.mpr ⟨hempty, hdot⟩), if_neg hup]
    obtain ⟨t, ht⟩ := Option.isSome_iff_exists.mp (h _ (name_of_segment hs hname))
    exact ⟨t, by rw [← Encoding.read?_eq_some.mp ht, String.toList_ofList]⟩
  obtain ⟨t, ht⟩ := written_join hsegments
  rw [join_split] at ht
  exact ⟨t, String.toList_inj.mp ht⟩

def TextBelow (root p : Path) : Prop := ∀ c ∈ p.components.drop root.components.length, c.isText = true

instance (root p : Path) : Decidable (root.TextBelow p) := inferInstanceAs (Decidable (∀ c ∈ _, _))

theorem relative_to?_none (place : Path → Option Path) (h : root.components <+: p.components) :
    relativeTo? place root p = none ↔ p.Same root := by
  obtain ⟨q, hq⟩ := below?_is_some h
  rw [relativeTo?, hq]
  refine relative_text?_none.trans ?_
  rw [text_empty_iff, Same, below?_components hq]
  simp

/-- Below a directory a path without backslashes is named by the text of what is left of it. -/
theorem relative_to?_below (place : Path → Option Path) (hback : '\\' ∉ p.chars)
    (h : root.components <+: p.components) (htext : root.TextBelow p) :
    ∃ t, root.below? p = some ⟨Encoding.write t⟩ ∧ relativeTo? place root p = if t = "" then none else some t := by
  obtain ⟨q, hq⟩ := below?_is_some h
  have hnames : ∀ c ∈ q.components, c.isText = true := by
    intro c hc
    refine htext c ?_
    rwa [below?_components hq, List.drop_left]
  obtain ⟨t, ht⟩ := text_of_names hnames
  obtain rfl : q = ⟨Encoding.write t⟩ := congrArg Path.mk ht
  have hplain : '\\' ∉ t.toList := by
    intro hin
    rcases chars_below? hq ((Encoding.mem_write (by decide)).mpr hin) with heq | heq | hin
    · cases heq
    · cases heq
    · exact hback hin
  refine ⟨t, hq, ?_⟩
  rw [relativeTo?, hq]
  exact relative_text?_written hplain

/-! ## Written names -/

/-- A relative path of segments that all contribute is read back behind every directory as it is written. -/
theorem relative_to?_join_written (place : Path → Option Path) {ss : List Segment} (hne : ss ≠ [])
    (hss : ∀ s ∈ ss, s ≠ [] ∧ s ≠ ['.'] ∧ '/' ∉ s ∧ '\\' ∉ s) (root : Path) :
    relativeTo? place root (root.join ⟨Encoding.write (String.ofList (Segment.join ss))⟩) =
      some (String.ofList (Segment.join ss)) := by
  set t := String.ofList (Segment.join ss) with ht
  set q : Path := ⟨Encoding.write t⟩ with hq
  set us := ss.map fun s => (Encoding.write (String.ofList s)).toList with hus
  have hus_mem : ∀ u ∈ us, u ≠ [] ∧ u ≠ ['.'] ∧ '/' ∉ u := by
    intro u hu
    obtain ⟨s, hs, rfl⟩ := List.mem_map.mp hu
    obtain ⟨hempty, hdot, hslash, -⟩ := hss s hs
    have hother {r : String} (hr : Encoding.write r = r) (hne : s ≠ r.toList) :
        (Encoding.write (String.ofList s)).toList ≠ r.toList := by
      intro heq
      refine hne ?_
      rw [← Encoding.write_injective ((String.toList_inj.mp heq).trans hr.symm), String.toList_ofList]
    refine ⟨hother Encoding.write_empty hempty, hother Encoding.write_dot hdot, ?_⟩
    rwa [Encoding.mem_write (by decide), String.toList_ofList]
  have hchars : q.chars = Segment.join us := write_join ss
  have hus_ne : us ≠ [] := by simpa [hus] using hne
  have hsplit : split q.chars = us := by rw [hchars, split_join (fun u hu => (hus_mem u hu).2.2) hus_ne]
  have hread : q.anchor = .bare ∧ q.body = split q.chars := by
    obtain ⟨u, vs, hcons⟩ := List.exists_cons_of_ne_nil hus_ne
    obtain ⟨hempty, hdot, -⟩ := hus_mem u (by simp [hcons])
    unfold anchor body
    rw [Anchor.read_segments (hsplit.trans hcons) hempty hdot, hsplit, hcons]
    exact ⟨rfl, rfl⟩
  have hback : '\\' ∉ t.toList := by
    intro hc
    rw [ht, String.toList_ofList] at hc
    rcases mem_join hc with heq | ⟨s, hs, hin⟩
    · cases heq
    · exact (hss s hs).2.2.2 hin
  have hwritten : t ≠ "" := by
    intro hempty
    have hnone : q.chars = [] := by
      rw [hq, hempty, Encoding.write_empty]
      rfl
    rw [hnone] at hsplit
    exact (hus_mem [] (by simp [← hsplit, split])).1 rfl
  obtain ⟨hanchor, hbody, -⟩ := join_read (p := root) (by simp [isAbsolute, hread.1]) fun _ => hread
  rw [hsplit] at hbody
  have hbelow := below?_behind hanchor hbody hus_ne fun u hu =>
    contributes_iff.mpr ⟨(hus_mem u hu).1, (hus_mem u hu).2.1⟩
  have hsame : ofChars (Segment.join us) = q := by
    rw [← hchars]
    exact congrArg Path.mk String.ofList_toList
  rw [relativeTo?, hbelow, hsame]
  exact (relative_text?_written hback).trans (if_neg hwritten)

/-! ## Main statement -/

/-- Taking the name of a path relative to a directory undoes joining. Below the directory only the directory itself
has no name, and a name tells the path up to its spelling, as long as the names below the directory are texts. A path
that is written without empty segments and `.` is its own name behind any directory. Elsewhere nothing has a name,
unless the disk has places for both paths. -/
theorem relative_undoes_join (place : Path → Option Path) (root : Path) :
    (∀ p, '\\' ∉ p.chars → root.components <+: p.components →
      (relativeTo? place root p = none ↔ p.Same root) ∧
      (¬p.Same root → root.TextBelow p →
        ∃ s, relativeTo? place root p = some s ∧ (root.join ⟨Encoding.write s⟩).Same p)) ∧
    (∀ p q, '\\' ∉ p.chars → '\\' ∉ q.chars → root.components <+: p.components → root.components <+: q.components →
      root.TextBelow p → root.TextBelow q → relativeTo? place root p = relativeTo? place root q → p.Same q) ∧
    (∀ ss : List Segment, ss ≠ [] → (∀ s ∈ ss, s ≠ [] ∧ s ≠ ['.'] ∧ '/' ∉ s ∧ '\\' ∉ s) →
      relativeTo? place root (root.join ⟨Encoding.write (String.ofList (Segment.join ss))⟩) =
        some (String.ofList (Segment.join ss))) ∧
    (∀ p, ¬root.components <+: p.components → place root = none ∨ place p = none →
      relativeTo? place root p = none) := by
  refine ⟨fun p hback hbelow => ⟨relative_to?_none place hbelow, fun hother htext => ?_⟩,
    fun p q hp hq hpbelow hqbelow hptext hqtext hsame => ?_, fun ss hne hss => ?_, fun p hnot hplace => ?_⟩
  · obtain ⟨t, ht, hname⟩ := relative_to?_below place hback hbelow htext
    have hsome : relativeTo? place root p ≠ none := (relative_to?_none place hbelow).not.mpr hother
    rw [hname] at hsome ⊢
    refine ⟨t, if_neg fun hempty => hsome (if_pos hempty), join_below? ht⟩
  · obtain ⟨t, ht, hpname⟩ := relative_to?_below place hp hpbelow hptext
    obtain ⟨u, hu, hqname⟩ := relative_to?_below place hq hqbelow hqtext
    have htexts : t = u := by
      rw [hpname, hqname] at hsame
      split at hsame <;> split at hsame
      · next hempty hempty' => rw [hempty, hempty']
      · cases hsame
      · cases hsame
      · exact Option.some.inj hsame
    subst htexts
    exact (join_below? ht).symm.trans (join_below? hu)
  · exact relative_to?_join_written place hne hss root
  · have hnone : root.below? p = none := by
      rw [← Option.map_eq_none_iff (f := components), components_below?, if_neg hnot]
    rw [relativeTo?, hnone]
    rcases hplace with hroot | hp
    · rw [hroot]
    · rw [hp]
      cases place root <;> rfl

end

/-- The directory and the paths are not written in their shortest forms, and the directory is no text. -/
theorem relative_undoes_join_spelled :
    letI := Encoding.bytes
    let root : Path := ⟨"/\xff/./"⟩
    let p : Path := ⟨"//\xff/src/.//a.css/"⟩
    (∃ s, relativeTo? (fun _ => none) root p = some s ∧ (root.join ⟨Encoding.write s⟩).Same p) ∧
      relativeTo? (fun _ => none) root ⟨"/\xff/."⟩ = none ∧ p.Same ⟨"/\xff//src/.//a.css"⟩ ∧
      relativeTo? (fun _ => none) root (root.join ⟨"../q/\xc3\xa4.css"⟩) = some "../q/ä.css" ∧
      relativeTo? (fun _ => none) root ⟨"/q/a.css"⟩ = none := by
  let := Encoding.bytes
  intro root p
  obtain ⟨hnames, hapart, hwritten, houtside⟩ := relative_undoes_join (fun _ => none) root
  refine ⟨(hnames p (by decide) (by decide)).2 (by decide) (by decide +kernel),
    (hnames _ (by decide) (by decide)).1.mpr (by decide),
    hapart _ _ (by decide) (by decide) (by decide) (by decide) (by decide +kernel) (by decide +kernel)
      (by decide +kernel), ?_, houtside _ (by decide) (.inl rfl)⟩
  exact hwritten [['.', '.'], ['q'], "ä.css".toList] (by decide) (by decide)

/-- A name that is no text leads to another path, and two of them may have one name. -/
theorem relative_of_bytes :
    letI := Encoding.bytes
    let root : Path := ⟨"/p"⟩
    let name := relativeTo? (fun _ => none) root
    (name ⟨"/p/\xff"⟩ = some "\uFFFD" ∧ name ⟨"/p/\xfe"⟩ = some "\uFFFD") ∧
    (¬∀ p, '\\' ∉ p.chars → root.components <+: p.components → ¬p.Same root →
      ∃ s, name p = some s ∧ (root.join ⟨Encoding.write s⟩).Same p) ∧
    ¬∀ p q, '\\' ∉ p.chars → '\\' ∉ q.chars → root.components <+: p.components → root.components <+: q.components →
      name p = name q → p.Same q := by
  let := Encoding.bytes
  intro root name
  have hname : name ⟨"/p/\xff"⟩ = some "\uFFFD" := by decide +kernel
  have hother : name ⟨"/p/\xfe"⟩ = some "\uFFFD" := by decide +kernel
  refine ⟨⟨hname, hother⟩, fun hjoins => ?_, fun hapart => ?_⟩
  · obtain ⟨s, hs, hsame⟩ := hjoins ⟨"/p/\xff"⟩ (by decide) (by decide) (by decide)
    obtain rfl := Option.some.inj (hname.symm.trans hs)
    exact absurd hsame (by decide +kernel)
  · have hsame := hapart ⟨"/p/\xff"⟩ ⟨"/p/\xfe"⟩ (by decide) (by decide) (by decide) (by decide)
      (hname.trans hother.symm)
    exact absurd hsame (by decide)

end Path

end BundleWatch
