import BundleWatch.Proofs.Path.Ancestry

/-!
# Spellings of one path

What is made of a path by its components, the path above it or a path joined to it, is made of every spelling of
the path, up to spelling again. What is left of a path below a directory keeps the text, and with it the spelling.
-/

set_option autoImplicit false

namespace BundleWatch

open Segment

namespace Segment

theorem component?_ne_anchor (s : Segment) : component? s ≠ some .root ∧ component? s ≠ some .here := by
  rcases component?_cases s with h | h | h <;> simp [h]

theorem component?_inj {s t : Segment} {k : Component} (hs : component? s = some k) (ht : component? t = some k) :
    s = t := by
  unfold component? at hs ht
  split at hs
  · cases hs
  · split at ht
    · cases ht
    · split at hs
      · next hup =>
        split at ht
        · next hup' => rw [hup, hup']
        · rw [← hs] at ht
          cases ht
      · split at ht
        · rw [← ht] at hs
          cases hs
        · rw [← hs] at ht
          exact (String.ofList_inj.mp (Component.name.inj (Option.some.inj ht))).symm

theorem eq_of_components {ss ts : List Segment} (hss : ∀ s ∈ ss, component? s ≠ none)
    (hts : ∀ t ∈ ts, component? t ≠ none) (h : components ss = components ts) : ss = ts := by
  induction ss generalizing ts with
  | nil =>
    cases ts with
    | nil => rfl
    | cons t ts =>
      obtain ⟨k, hk⟩ := Option.ne_none_iff_exists'.mp (hts t (by simp))
      rw [components_cons, hk] at h
      cases h
  | cons s ss ih =>
    obtain ⟨k, hk⟩ := Option.ne_none_iff_exists'.mp (hss s (by simp))
    rw [components_cons, hk] at h
    cases ts with
    | nil => cases h
    | cons t ts =>
      obtain ⟨l, hl⟩ := Option.ne_none_iff_exists'.mp (hts t (by simp))
      rw [components_cons, hl] at h
      obtain ⟨rfl, hrest⟩ := List.cons.inj h
      rw [component?_inj hk hl, ih (fun u hu => hss u (by simp [hu])) (fun u hu => hts u (by simp [hu])) hrest]

theorem trim_start_skip {front : List Segment} (hfront : ∀ s ∈ front, component? s = none) (ss : List Segment) :
    trimStart (front ++ ss) = trimStart ss := by
  unfold trimStart
  rw [List.dropWhile_append_of_pos]
  simpa using hfront

theorem trim_start_keep (ss : List Segment) {s : Segment} (hs : component? s ≠ none) (ts : List Segment) :
    trimStart (ss ++ s :: ts) = trimStart ss ++ s :: ts := by
  induction ss with
  | nil => exact List.dropWhile_cons_of_neg (by simpa using hs)
  | cons t ss ih =>
    unfold trimStart at ih ⊢
    rcases ht : component? t with _ | k
    · rw [List.cons_append, List.dropWhile_cons_of_pos (by simpa using ht), ih,
        List.dropWhile_cons_of_pos (by simpa using ht)]
    · rw [List.cons_append, List.dropWhile_cons_of_neg (by simp [ht]), List.dropWhile_cons_of_neg (by simp [ht]),
        List.cons_append]

theorem components_dropped {ks : List Component} {ss rest : List Segment} (h : dropComponents ks ss = some rest) :
    components ss = ks ++ components rest := by
  induction ss generalizing ks with
  | nil =>
    cases ks with
    | nil =>
      obtain rfl := Option.some.inj h
      rfl
    | cons k ks => cases h
  | cons s ss ih =>
    cases ks with
    | nil =>
      obtain rfl := Option.some.inj h
      rfl
    | cons k ks =>
      rw [dropComponents] at h
      rcases hs : component? s with _ | k'
      · rw [hs] at h
        rw [components_cons, hs]
        exact ih h
      · rw [hs] at h
        simp only [] at h
        split at h
        · next heq =>
          rw [components_cons, hs, ih h, heq]
          rfl
        · cases h

theorem drop_components_suffix {ks : List Component} {ss rest : List Segment}
    (h : dropComponents ks ss = some rest) : rest <:+ ss := by
  obtain ⟨rest', hrest', -, hsuffix⟩ := drop_components_front (components_dropped h)
  rw [h] at hrest'
  exact Option.some.inj hrest' ▸ hsuffix

theorem components_drop_components (ks : List Component) (ss : List Segment) :
    (dropComponents ks ss).map components =
      if ks <+: components ss then some ((components ss).drop ks.length) else none := by
  split
  · next hfirst =>
    obtain ⟨r, hr⟩ := hfirst
    obtain ⟨rest, hdrop, hrest, -⟩ := drop_components_front hr.symm
    rw [hdrop, Option.map_some, hrest, ← hr, List.drop_left]
  · next hfirst =>
    rcases hdrop : dropComponents ks ss with _ | rest
    · rfl
    · exact absurd ⟨_, (components_dropped hdrop).symm⟩ hfirst

end Segment

namespace Anchor

/-- An anchor that is written out as a segment contributes nothing there. -/
theorem trim_start_read {cs : List Char} (h : cs.head? ≠ some '/') : trimStart (split cs) = trimStart (read cs).2 := by
  cases cs with
  | nil => rfl
  | cons c cs =>
    have hc : c ≠ '/' := fun heq => h (congrArg some heq)
    obtain ⟨s, ss, hs, hread⟩ := read_cons hc cs
    rw [hread, hs]
    split
    · next hdot =>
      rw [hdot]
      have hdots : ∀ t ∈ [['.']], component? t = none := by decide
      exact trim_start_skip hdots ss
    · rfl

end Anchor

namespace Path

variable {p p' q q' : Path}

theorem is_absolute_iff_head : p.isAbsolute = true ↔ p.chars.head? = some '/' := by
  unfold isAbsolute anchor
  rcases p.chars with _ | ⟨c, cs⟩
  · simp [Anchor.read]
  · by_cases hc : c = '/'
    · simp [hc, Anchor.read_root]
    · obtain ⟨s, ss, -, hread⟩ := Anchor.read_cons hc cs
      rw [hread]
      split <;> simp [hc]

/-! ## What spellings share -/

theorem body_head_ne (p : Path) {k : Component} (hk : k = .root ∨ k = .here) :
    (Segment.components p.body).head? ≠ some k := by
  intro hhead
  obtain ⟨s, -, hs⟩ := List.mem_filterMap.mp (List.mem_of_head? hhead)
  rcases hk with rfl | rfl
  · exact (component?_ne_anchor s).1 hs
  · exact (component?_ne_anchor s).2 hs

theorem Same.eq (h : p.Same p') : p.components = p'.components := h

/-- Spellings start at one place, and what stands behind it contributes the same. -/
theorem Same.parts (h : p.Same p') :
    p.anchor = p'.anchor ∧ Segment.components p.body = Segment.components p'.body := by
  unfold Same components at h
  have hhead := congrArg List.head? h
  rcases ha : p.anchor <;> rcases ha' : p'.anchor <;> rw [ha, ha'] at h hhead
  case root.root | here.here | bare.bare => exact ⟨rfl, List.append_cancel_left h⟩
  case root.here | here.root => cases hhead
  case root.bare => exact absurd hhead.symm (p'.body_head_ne (.inl rfl))
  case here.bare => exact absurd hhead.symm (p'.body_head_ne (.inr rfl))
  case bare.root => exact absurd hhead (p.body_head_ne (.inl rfl))
  case bare.here => exact absurd hhead (p.body_head_ne (.inr rfl))

theorem Same.is_absolute (h : p.Same p') : p.isAbsolute = p'.isAbsolute := by
  unfold Path.isAbsolute
  rw [h.parts.1]

theorem text_empty_iff : p.text = "" ↔ p.components = [] := by
  rw [← chars_empty]
  constructor
  · intro hempty
    rw [components, anchor, body, hempty]
    rfl
  · intro hnone
    obtain ⟨hanchor, hbody⟩ := List.append_eq_nil_iff.mp hnone
    have hbare : p.anchor = .bare := by cases ha : p.anchor <;> rw [ha] at hanchor <;> first | rfl | cases hanchor
    exact Anchor.read_empty hbare (body_of_no_components hbare hbody)

theorem Same.text_empty (h : p.Same p') : p.text = "" ↔ p'.text = "" := by
  rw [text_empty_iff, text_empty_iff, h.eq]

theorem same_cases {q? q'? : Option Path} (h : q?.map components = q'?.map components) :
    (q? = none ∧ q'? = none) ∨ ∃ q q', q? = some q ∧ q'? = some q' ∧ q.Same q' := by
  rcases q? with _ | q <;> rcases q'? with _ | q'
  · exact .inl ⟨rfl, rfl⟩
  · cases h
  · cases h
  · exact .inr ⟨q, q', rfl, rfl, Option.some.inj h⟩

theorem join_of_empty (hp : p.text = "") (q : Path) : p.join q = q := by
  rw [join]
  split
  · rfl
  · rw [if_pos (.inl hp), hp, String.empty_append]

theorem Same.join (h : p.Same p') (hq : q.Same q') : (p.join q).Same (p'.join q') := by
  rcases habs : q.isAbsolute
  · by_cases hempty : p.text = ""
    · rwa [join_of_empty hempty, join_of_empty (h.text_empty.mp hempty)]
    · have hempty' := fun heq => hempty (h.text_empty.mpr heq)
      rw [Same, components_join habs hempty, components_join (hq.is_absolute ▸ habs) hempty',
        Anchor.components_split, Anchor.components_split, h.eq]
      exact congrArg _ hq.parts.2
  · rw [Path.join, Path.join, if_pos habs, if_pos (hq.is_absolute ▸ habs)]
    exact hq

theorem Same.parent? (h : p.Same p') : p.parent?.map components = p'.parent?.map components := by
  have hnone : p.parent? = none ↔ p'.parent? = none := by rw [parent?_none_iff, parent?_none_iff, h.eq]
  rcases hq : p.parent? with _ | q
  · rw [hnone.mp hq]
  · obtain ⟨q', hq'⟩ := Option.ne_none_iff_exists'.mp fun hnone' => by
      rw [hnone.mpr hnone'] at hq
      cases hq
    rw [hq', Option.map_some, Option.map_some, (parent?_components hq).1, (parent?_components hq').1, h.eq]

theorem Same.ancestors (h : p.Same p') : List.Forall₂ Same p.ancestors p'.ancestors := by
  have hup (n : Nat) : ∀ {p p' : Path}, p.Same p' → List.Forall₂ Same (ancestorsUpTo n p) (ancestorsUpTo n p') := by
    induction n with
    | zero => exact fun h => .cons h .nil
    | succ n ih =>
      intro p p' h
      rw [ancestorsUpTo, ancestorsUpTo]
      rcases same_cases h.parent? with ⟨hq, hq'⟩ | ⟨q, q', hq, hq', hsame⟩ <;> rw [hq, hq']
      · exact .cons h .nil
      · exact .cons h (ih hsame)
  rw [Path.ancestors, Path.ancestors, h.eq]
  exact hup _ h

/-- What is looked for among spellings of the same paths is found at the same place. -/
theorem find_some?_same {as as' : List Path} (has : List.Forall₂ Same as as') {f f' : Path → Option Path}
    (hf : ∀ a a', a.Same a' → (f a).map components = (f' a').map components) :
    (as.findSome? f).map components = (as'.findSome? f').map components := by
  induction has with
  | nil => rfl
  | @cons a a' as as' ha _ ih =>
    have hfirst := hf a a' ha
    rw [List.findSome?_cons, List.findSome?_cons]
    rcases same_cases hfirst with ⟨hq, hq'⟩ | ⟨q, q', hq, hq', -⟩
    · rwa [hq, hq']
    · rwa [hq, hq'] at hfirst ⊢

theorem components_of_chars (cs : List Char) :
    (ofChars cs).components = (Anchor.read cs).1.components ++ Segment.components (Anchor.read cs).2 := by
  rw [components, anchor, body, chars_of_chars]

/-- What is written of trimmed segments contributes what the segments do. -/
theorem components_trimmed {ss : List Segment} (hss : ∀ s ∈ ss, '/' ∉ s) :
    (ofChars (Segment.join (trimStart (trimEnd ss)))).components = Segment.components ss := by
  have hsub : trimStart (trimEnd ss) ⊆ ss := fun s hs =>
    (trim_end_begins ss).subset ((List.dropWhile_suffix _).subset hs)
  obtain ⟨hanchor, hcomponents⟩ := Anchor.read_write .bare (fun s hs => hss s (hsub hs)) fun _ s hs =>
    contributes_iff.mp (trim_start_first hs)
  refine (components_of_chars _).trans ?_
  rw [← Anchor.write, hanchor, hcomponents, components_trim_start, components_trim_end]
  rfl

theorem components_below? (a p : Path) :
    (a.below? p).map components =
      if a.components <+: p.components then some (p.components.drop a.components.length) else none := by
  have hinner (ks : List Component) :
      ((dropComponents ks p.body).map fun ss => ofChars (Segment.join (trimStart (trimEnd ss)))).map components =
        if ks <+: Segment.components p.body then some ((Segment.components p.body).drop ks.length) else none := by
    rw [← components_drop_components, Option.map_map]
    refine Option.map_congr fun ss hss => components_trimmed fun s hs => ?_
    exact body_no_separator ((drop_components_suffix hss).subset hs)
  unfold Path.below?
  rcases ha : a.components with _ | ⟨k, ks⟩
  · have hsub := trim_end_begins p.body
    obtain ⟨hanchor, hcomponents⟩ := Anchor.read_write p.anchor
      (fun s hs => body_no_separator (hsub.subset hs)) fun hbare s hs => by
        obtain ⟨rest, hrest⟩ := hsub
        refine contributes_iff.mp (body_bare hbare ?_)
        rw [← hrest, List.head?_append, hs]
        rfl
    simp only [Option.map_some, List.nil_prefix, if_true, List.length_nil, List.drop_zero]
    rw [components_of_chars, hanchor, hcomponents, components_trim_end]
    rfl
  · rw [components]
    cases p.anchor with
    | bare => exact hinner (k :: ks)
    | root | here =>
      simp only [Anchor.components, List.singleton_append, List.cons_prefix_cons, List.length_cons,
        List.drop_succ_cons]
      split
      · next hk => simpa [hk] using hinner ks
      · next hk => simp [Ne.symm hk]

theorem Same.below? (h : q.Same q') (hp : p.Same p') : (q.below? p).map components = (q'.below? p').map components := by
  rw [components_below?, components_below?, h.eq,
    hp.eq]

theorem Same.file_name? (h : p.Same p') : p.fileName? = p'.fileName? := by
  rw [Path.fileName?, Path.fileName?, h.parts.2]

theorem Same.descend (h : p.Same p') {ns : List String} (hns : ∀ n ∈ ns, IsName n) :
    (p.descend ns).Same (p'.descend ns) := by
  rw [Same, components_descend hns, components_descend hns, h.eq]

/-! ## What keeps the spelling -/

/-- The segments with which the names of files below a relative directory begin: its own, from the first that
contributes. -/
def inner (p : Path) : List Segment := trimStart p.trunk

def Tidy (p : Path) : Prop := ∀ s ∈ p.inner, component? s ≠ none

instance (p : Path) : Decidable p.Tidy := inferInstanceAs (Decidable (∀ s ∈ _, _))

theorem trunk_slash (h : p.chars.getLast? = some '/') : p.trunk = p.body.dropLast := if_pos h

theorem trunk_whole (h : p.chars.getLast? ≠ some '/') : p.trunk = p.body := if_neg h

theorem components_inner (p : Path) : Segment.components p.inner = Segment.components p.body := by
  rw [inner, components_trim_start, components_trunk]

/-- Tidy spellings of what stands behind the anchor are read alike. -/
theorem Tidy.inner_eq (hp : p.Tidy) (hp' : p'.Tidy)
    (h : Segment.components p.body = Segment.components p'.body) : p.inner = p'.inner := by
  refine eq_of_components hp hp' ?_
  rw [components_inner, components_inner, h]

theorem trunk_no_separator {s : Segment} (h : s ∈ p.trunk) : '/' ∉ s := by
  unfold trunk at h
  split at h
  · exact body_no_separator (List.dropLast_subset _ h)
  · exact body_no_separator h

theorem inner_no_separator {s : Segment} (h : s ∈ p.inner) : '/' ∉ s :=
  trunk_no_separator ((List.dropWhile_suffix _).subset h)

/-- Behind a directory stands a relative path as it is written, up to segments in front that contribute nothing. -/
theorem trunk_join (hp : p.text ≠ "") (hq : q.isAbsolute = false) :
    ∃ back, (p.join q).trunk = p.trunk ++ back ∧ trimStart back = q.inner := by
  have hhead : q.chars.head? ≠ some '/' := by
    intro habs
    rw [is_absolute_iff_head.mpr habs] at hq
    cases hq
  obtain ⟨-, hbody, -⟩ := join_read hq fun h => absurd h hp
  unfold inner
  by_cases hempty : q.chars = []
  · have hslash : (p.join q).chars.getLast? = some '/' := by
      rw [chars_join hq, hempty]
      split
      · next h => simpa using h.resolve_left hp
      · simp
    refine ⟨[], ?_, ?_⟩
    · rw [trunk_slash hslash, hbody, hempty, List.append_nil]
      exact List.dropLast_concat
    · rw [trunk_whole (by simp [hempty]), body, hempty]
      rfl
  · have hlast := get_last?_join (p := p) hq hempty
    -- a separator at the end stands in for the one that joining writes
    by_cases hslash : q.chars.getLast? = some '/'
    · obtain ⟨cs, hcs⟩ : ∃ cs, q.chars = cs ++ ['/'] := ⟨_, (List.dropLast_append_getLast? _ hslash).symm⟩
      have hne : cs ≠ [] := by
        rintro rfl
        exact hhead (by rw [hcs]; rfl)
      have hsplit : split q.chars = split cs ++ [[]] := by rw [hcs, split_append]; rfl
      have hread : q.body = (Anchor.read cs).2 ++ [[]] := by rw [body, hcs, Anchor.read_append hne]; rfl
      refine ⟨split cs, ?_, ?_⟩
      · rw [trunk_slash (hlast ▸ hslash), hbody, hsplit, ← List.append_assoc, List.dropLast_concat]
      · rw [hcs, List.head?_append_of_ne_nil _ hne] at hhead
        rw [trunk_slash hslash, hread, List.dropLast_concat, Anchor.trim_start_read hhead]
    · exact ⟨split q.chars, by rw [trunk_whole (hlast ▸ hslash), hbody],
        by rw [trunk_whole hslash, Anchor.trim_start_read hhead, body]⟩

/-- A file below a directory of a project is named by the spelling of the directory and the names behind it. -/
theorem below?_join (hp : p.isAbsolute = true) (hq : q.isAbsolute = false) {ns : List String}
    (hns : ∀ n ∈ ns, IsName n) (hne : ns ≠ []) :
    p.below? ((p.join q).descend ns) = some (ofChars (Segment.join (q.inner ++ ns.map String.toList))) := by
  have hroot : p.anchor = .root := by simpa [isAbsolute] using hp
  obtain ⟨back, hback, hinner⟩ := trunk_join (is_absolute_nonempty hp) hq
  obtain ⟨hanchor, hbody⟩ := descend_read hns hne (p.join q)
  rw [(join_read hq fun h => absurd h (is_absolute_nonempty hp)).1, hroot] at hanchor
  obtain ⟨rest, hrest, hnone⟩ := drop_components_append p.trunk (back ++ ns.map String.toList)
  rw [components_trunk, ← List.append_assoc, ← hback, ← hbody] at hrest
  have htrim : trimEnd (rest ++ (back ++ ns.map String.toList)) = rest ++ (back ++ ns.map String.toList) := by
    rw [← List.append_assoc]
    exact trim_end_keep (by simpa using hne) (contributes_names hns) _
  have hstart : trimStart (rest ++ (back ++ ns.map String.toList)) = q.inner ++ ns.map String.toList := by
    rw [trim_start_skip hnone, ← hinner]
    obtain ⟨n, ms, rfl⟩ := List.exists_cons_of_ne_nil hne
    exact trim_start_keep back (contributes_name (hns n (by simp))) _
  unfold below?
  simp only [components, hroot, hanchor, Anchor.components, List.singleton_append, if_true, hrest, Option.map_some,
    htrim, hstart]

/-- The name of a file tells how its directory is spelled, as far as names are read with it. -/
theorem below?_join_iff (hp : p.isAbsolute = true) (hq : q.isAbsolute = false) (hq' : q'.isAbsolute = false)
    {ns : List String} (hns : ∀ n ∈ ns, IsName n) (hne : ns ≠ []) :
    p.below? ((p.join q).descend ns) = p.below? ((p.join q').descend ns) ↔ q.inner = q'.inner := by
  rw [below?_join hp hq hns hne, below?_join hp hq' hns hne]
  constructor
  · intro h
    have hsplit {q : Path} :
        split (Segment.join (q.inner ++ ns.map String.toList)) = q.inner ++ ns.map String.toList := by
      refine split_join ?_ (by simp [hne])
      intro s hs
      rcases List.mem_append.mp hs with hs | hs
      · exact inner_no_separator hs
      · obtain ⟨n, hn, rfl⟩ := List.mem_map.mp hs
        exact (hns n hn).no_separator
    have hchars := congrArg (split ∘ chars) (Option.some.inj h)
    simp only [Function.comp_apply, chars_of_chars, hsplit] at hchars
    exact List.append_cancel_right hchars
  · intro h
    rw [h]

end Path

end BundleWatch
