import BundleWatch.Rule.Template
import Mathlib.Data.List.Infix

/-!
# Rendering and substitution

Names that are replaced one after the other are replaced all at once, as long as the values that were put in never
form a name that is still to come. A value that holds such a name is itself expanded.
-/

set_option autoImplicit false

namespace BundleWatch

namespace Text

/-- Copies the text, puts the value of the first name that begins where it stands, and skips `n` characters first. -/
def substituteFrom (bs : List (String × String)) : Nat → List Char → List Char
  | _, [] => []
  | n + 1, _ :: cs => substituteFrom bs n cs
  | 0, c :: cs =>
    match bs.find? fun b => b.1.toList.isPrefixOf (c :: cs) with
    | some b => b.2.toList ++ substituteFrom bs (b.1.length - 1) cs
    | none => c :: substituteFrom bs 0 cs

def Braced (name : String) : Prop := ∃ ys, name.toList = '{' :: (ys ++ ['}']) ∧ ys ≠ [] ∧ '{' ∉ ys ∧ '}' ∉ ys

def blank : String := "\x7b\x7d"

variable {bs : List (String × String)} {name : String} {cs ys : List Char} {n : Nat}

theorem Braced.opens (h : Braced name) : ∃ ys, name.toList = '{' :: ys ∧ '{' ∉ ys := by
  obtain ⟨ys, hys, -, hopening, -⟩ := h
  exact ⟨ys ++ ['}'], hys, by simp [hopening]⟩

theorem substitute_from_skip (bs : List (String × String)) (n : Nat) (cs : List Char) :
    substituteFrom bs n cs = substituteFrom bs 0 (cs.drop n) := by
  induction n generalizing cs with
  | zero => rfl
  | succ n ih =>
    cases cs with
    | nil => simp [substituteFrom]
    | cons c cs => exact ih cs

theorem replace_from_skip (pattern value : List Char) (n : Nat) (cs : List Char) :
    replaceFrom pattern value n cs = replaceFrom pattern value 0 (cs.drop n) := by
  induction n generalizing cs with
  | zero => rfl
  | succ n ih =>
    cases cs with
    | nil => simp [replaceFrom]
    | cons c cs => exact ih cs

theorem substitute_from_nil (cs : List Char) : substituteFrom [] 0 cs = cs := by
  induction cs with
  | nil => rfl
  | cons c cs ih => rw [substituteFrom, List.find?_nil, ih]

/-- One more name makes a difference only where it begins itself. -/
theorem substitute_from_cons (bs : List (String × String)) (name : String) (c : Char) (cs : List Char) :
    (∃ us n, substituteFrom bs 0 (c :: cs) = us ++ substituteFrom bs n cs ∧
        ∀ v, substituteFrom (bs ++ [(name, v)]) 0 (c :: cs) = us ++ substituteFrom (bs ++ [(name, v)]) n cs) ∨
      name.toList <+: c :: cs ∧ substituteFrom bs 0 (c :: cs) = c :: substituteFrom bs 0 cs ∧
        ∀ v, substituteFrom (bs ++ [(name, v)]) 0 (c :: cs) =
          v.toList ++ substituteFrom (bs ++ [(name, v)]) (name.length - 1) cs := by
  simp only [substituteFrom, List.find?_append, List.find?_singleton]
  generalize (bs.find? fun b => b.1.toList.isPrefixOf (c :: cs)) = found
  rcases found with _ | b
  · by_cases hbegins : name.toList.isPrefixOf (c :: cs) = true
    · right
      simp only [hbegins, if_true, Option.none_or]
      exact ⟨List.isPrefixOf_iff_prefix.mp hbegins, trivial, fun v => trivial⟩
    · left
      simp only [hbegins, Bool.false_eq_true, if_false, Option.none_or]
      exact ⟨[c], 0, rfl, fun v => rfl⟩
  · exact .inl ⟨b.2.toList, b.1.length - 1, rfl, fun v => rfl⟩

/-- No name begins in text without an opening brace. -/
theorem substitute_from_copy (hbs : ∀ b ∈ bs, Braced b.1) (hys : '{' ∉ ys) (cs : List Char) :
    substituteFrom bs 0 (ys ++ cs) = ys ++ substituteFrom bs 0 cs := by
  induction ys with
  | nil => rfl
  | cons c ys ih =>
    obtain ⟨hc, hys⟩ := not_or.mp (mt List.mem_cons.mpr hys)
    have hnone : (bs.find? fun b => b.1.toList.isPrefixOf (c :: (ys ++ cs))) = none := by
      rw [List.find?_eq_none]
      intro b hb hbegins
      obtain ⟨zs, hzs, -⟩ := (hbs b hb).opens
      rw [hzs] at hbegins
      simp [hc] at hbegins
    rw [List.cons_append, substituteFrom, hnone]
    exact congrArg (c :: ·) (ih hys)

theorem replace_from_copy {pattern us : List Char} (value : List Char)
    (h : ∀ s, s <:+ us → s ≠ [] → ¬pattern <+: s ++ cs) :
    replaceFrom pattern value 0 (us ++ cs) = us ++ replaceFrom pattern value 0 cs := by
  induction us with
  | nil => rfl
  | cons c us ih =>
    have hhere : ¬pattern <+: c :: (us ++ cs) := h (c :: us) List.suffix_rfl (List.cons_ne_nil _ _)
    rw [List.cons_append, replaceFrom, if_neg (by rwa [List.isPrefixOf_iff_prefix])]
    exact congrArg (c :: ·) (ih fun s hs => h s (hs.trans (List.suffix_cons c us)))

theorem prefix_append_cases {r us : List Char} (h : r <+: us ++ cs) :
    r <+: us ∨ ∃ s, r = us ++ s ∧ s <+: cs := by
  rcases List.prefix_or_prefix_of_prefix h (List.prefix_append us cs) with hr | ⟨s, rfl⟩
  · exact .inl hr
  · exact .inr ⟨s, rfl, (List.prefix_append_right_inj us).mp h⟩

/-- Where one more name is blanked out, the text in front of it stays. -/
theorem prefix_blanked (hname : Braced name) (hys : '{' ∉ ys) (h : ys <+: substituteFrom bs n cs) :
    ys <+: substituteFrom (bs ++ [(name, blank)]) n cs := by
  induction cs generalizing n ys with
  | nil => simpa [substituteFrom] using h
  | cons c cs ih =>
    rcases n with _ | n
    · rcases substitute_from_cons bs name c cs with ⟨us, n, hold, hnew⟩ | ⟨hbegins, hold, -⟩
      · rw [hold] at h
        rw [hnew]
        rcases prefix_append_cases h with hus | ⟨s, rfl, hs⟩
        · exact hus.trans (List.prefix_append us _)
        · exact (List.prefix_append_right_inj us).mpr (ih (fun hin => hys (List.mem_append_right us hin)) hs)
      · -- the name begins with a brace, and so the text in front of it is empty
        obtain ⟨zs, hzs, -⟩ := hname.opens
        rw [hzs, List.cons_prefix_cons] at hbegins
        rw [hold, ← hbegins.1] at h
        cases ys with
        | nil => exact List.nil_prefix
        | cons y ys =>
          obtain ⟨rfl, -⟩ := List.cons_prefix_cons.mp h
          exact absurd List.mem_cons_self hys
    · exact ih hys h

theorem name_prefix_blanked (hname : Braced name) {us : List Char} (hus : us ≠ [])
    (h : name.toList <+: us ++ substituteFrom bs n cs) :
    name.toList <+: us ++ substituteFrom (bs ++ [(name, blank)]) n cs := by
  rcases prefix_append_cases h with hin | ⟨zs, hzs, hrest⟩
  · exact hin.trans (List.prefix_append us _)
  · have hbrace : '{' ∉ zs := by
      obtain ⟨ys, hys, hnone⟩ := hname.opens
      obtain ⟨u, us, rfl⟩ := List.exists_cons_of_ne_nil hus
      rw [hys, List.cons_append] at hzs
      obtain ⟨-, rfl⟩ := List.cons.inj hzs
      exact fun hin => hnone (List.mem_append_right us hin)
    rw [hzs]
    exact (List.prefix_append_right_inj us).mpr (prefix_blanked hname hbrace hrest)

/-- A name that the values before it nowhere form is replaced as if all were replaced at once. -/
theorem replace_substituted (hbs : ∀ b ∈ bs, Braced b.1) (hname : Braced name) (value : String)
    (hnever : ¬name.toList <:+: substituteFrom (bs ++ [(name, blank)]) n cs) :
    replaceFrom name.toList value.toList 0 (substituteFrom bs n cs) =
      substituteFrom (bs ++ [(name, value)]) n cs := by
  induction cs generalizing n with
  | nil => simp [substituteFrom, replaceFrom]
  | cons c cs ih =>
    rcases n with _ | n
    · rcases substitute_from_cons bs name c cs with ⟨us, n, hold, hnew⟩ | ⟨hbegins, hold, hnew⟩
      · rw [hnew] at hnever
        have hcopied : ∀ s, s <:+ us → s ≠ [] → ¬name.toList <+: s ++ substituteFrom bs n cs := by
          rintro s ⟨us, rfl⟩ hs hbegins
          refine hnever (List.IsInfix.trans (name_prefix_blanked hname hs hbegins).isInfix ?_)
          rw [List.append_assoc]
          exact (List.suffix_append us _).isInfix
        have hlater : ¬name.toList <:+: substituteFrom (bs ++ [(name, blank)]) n cs :=
          fun hin => hnever (hin.trans (List.suffix_append us _).isInfix)
        rw [hold, hnew, replace_from_copy _ hcopied, ih hlater]
      · rw [hnew] at hnever
        have hlater : ¬name.toList <:+: substituteFrom (bs ++ [(name, blank)]) (name.length - 1) cs :=
          fun hin => hnever (hin.trans (List.suffix_append _ _).isInfix)
        rw [hold, hnew, ← ih hlater]
        obtain ⟨ys, hys, hbrace⟩ := hname.opens
        have hlen : name.length - 1 = ys.length := by rw [← String.length_toList, hys]; rfl
        rw [hys] at hbegins ⊢
        obtain ⟨rfl, rest, rfl⟩ := List.cons_prefix_cons.mp hbegins
        -- the text of the name is copied as it is, and then replaced
        rw [substitute_from_copy hbs hbrace, hlen, substitute_from_skip bs ys.length, List.drop_left, replaceFrom,
          if_pos (by simp), replace_from_skip]
        simp
    · exact ih hnever

/-- The values that are put in before a name never form it, be it with the text around them. -/
def Inert (bs : List (String × String)) (cs : List Char) : Prop :=
  ∀ i (h : i < bs.length), ¬bs[i].1.toList <:+: substituteFrom (bs.take i ++ [(bs[i].1, blank)]) 0 cs

instance (bs : List (String × String)) (cs : List Char) : Decidable (Inert bs cs) :=
  inferInstanceAs (Decidable (∀ _ _, _))

theorem replace_in_turn (hbs : ∀ b ∈ bs, Braced b.1) (hinert : Inert bs cs) {i : Nat} (hi : i ≤ bs.length) :
    (bs.take i).foldl (fun cs b => replaceFrom b.1.toList b.2.toList 0 cs) cs =
      substituteFrom (bs.take i) 0 cs := by
  induction i with
  | zero => rw [List.take_zero, List.foldl_nil, substitute_from_nil]
  | succ i ih =>
    have hbefore : ∀ b ∈ bs.take i, Braced b.1 := fun b hb => hbs b (List.mem_of_mem_take hb)
    rw [← List.take_append_getElem hi, List.foldl_append, ih (Nat.le_of_succ_le hi)]
    exact replace_substituted hbefore (hbs _ (List.getElem_mem hi)) _ (hinert i hi)

theorem replace_all_in_turn (hbs : ∀ b ∈ bs, Braced b.1) (text : String) :
    bs.foldl (fun text b => replaceAll b.1 b.2 text) text =
      String.ofList (bs.foldl (fun cs b => replaceFrom b.1.toList b.2.toList 0 cs) text.toList) := by
  induction bs generalizing text with
  | nil => exact String.ofList_toList.symm
  | cons b bs ih =>
    obtain ⟨hb, hbs⟩ := List.forall_mem_cons.mp hbs
    have hnonempty : ¬b.1.isEmpty = true := by
      obtain ⟨ys, hys, -⟩ := hb.opens
      rw [String.isEmpty_iff]
      rintro hempty
      rw [hempty] at hys
      cases hys
    rw [List.foldl_cons, List.foldl_cons, ih hbs, replaceAll, if_neg hnonempty, String.toList_ofList]

end Text

namespace TemplateVars

theorem bindings_braced (v : TemplateVars) : ∀ b ∈ v.bindings, Text.Braced b.1 := by
  simp only [bindings, List.forall_mem_cons]
  exact ⟨⟨"path".toList, by decide⟩, ⟨"rel".toList, by decide⟩, ⟨"capture".toList, by decide⟩,
    ⟨"out".toList, by decide⟩, ⟨"stem".toList, by decide⟩, List.forall_mem_nil _⟩

/-- One pass over the template puts the value in the place of each name, and copies all other text. -/
def substitute (v : TemplateVars) (template : String) : String :=
  String.ofList (Text.substituteFrom v.bindings 0 template.toList)

/-- Names that are replaced one after the other are replaced in one pass, unless a value forms a later name. -/
theorem render_eq_substitute (v : TemplateVars) (template : String) (h : Text.Inert v.bindings template.toList) :
    v.render template = v.substitute template := by
  have hturn := Text.replace_in_turn v.bindings_braced h (Nat.le_refl _)
  rw [List.take_length] at hturn
  rw [render, Text.replace_all_in_turn v.bindings_braced, hturn, substitute]

def bracedFile : TemplateVars :=
  ofFile ⟨"/p/src/\x7ba\x7d.css"⟩ "src/\x7ba\x7d.css" (some "\x7bpath\x7d.css") ⟨"/p/build"⟩

theorem render_eq_substitute_braced :
    Text.Inert bracedFile.bindings "\x7bout\x7d/\x7bstem\x7d \x7b\x7brel\x7d".toList ∧
      bracedFile.render "\x7bout\x7d/\x7bstem\x7d \x7b\x7brel\x7d" = "/p/build/\x7bpath\x7d \x7bsrc/\x7ba\x7d.css" := by
  have hinert : Text.Inert bracedFile.bindings "\x7bout\x7d/\x7bstem\x7d \x7b\x7brel\x7d".toList := by decide +kernel
  refine ⟨hinert, ?_⟩
  rw [render_eq_substitute _ _ hinert]
  decide +kernel

def expandedFile : TemplateVars :=
  ofFile ⟨"/p/src/\x7bout\x7d.css"⟩ "src/\x7bout\x7d.css" (some "out") ⟨"/p/build"⟩

/-- A value that holds a later name is expanded, and so is one that becomes a name between the braces of the
template. -/
theorem render_expands_values :
    (expandedFile.substitute "\x7brel\x7d" = "src/\x7bout\x7d.css" ∧
        expandedFile.render "\x7brel\x7d" = "src//p/build.css") ∧
      expandedFile.substitute "\x7b\x7bcapture\x7d\x7d" = "\x7bout\x7d" ∧
        expandedFile.render "\x7b\x7bcapture\x7d\x7d" = "/p/build" := by
  decide +kernel

end TemplateVars

end BundleWatch
