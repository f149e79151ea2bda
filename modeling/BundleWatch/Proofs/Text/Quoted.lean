import BundleWatch.Text.Quoted
import Mathlib.Data.List.Basic

/-!
# Reading quoted texts

What is quoted can be read again, whatever stands behind it: an escape tells its character, and only a quote that
is not escaped ends the text. A reader that knows no more than whether it stands between quotes finds its way
through quoted texts, and two readers of which one stands between quotes and the other does not never agree again.
-/

set_option autoImplicit false

namespace BundleWatch.Text

variable {style : QuoteStyle} {c d : Char} {cs ds r q : List Char}

/-! ## Digits -/

theorem mem_to_digits {b n : Nat} (hb : 1 < b) (h : c ∈ Nat.toDigits b n) : ∃ i < b, c = i.digitChar := by
  induction n using Nat.strongRecOn with
  | ind n ih =>
    rw [Nat.toDigits_eq_if hb] at h
    split at h
    · next hlt => exact ⟨n, hlt, List.mem_singleton.mp h⟩
    · next hge =>
      rcases List.mem_append.mp h with h | h
      · exact ih (n / b) (Nat.div_lt_self (by omega) hb) h
      · exact ⟨n % b, Nat.mod_lt n (by omega), List.mem_singleton.mp h⟩

theorem digits_injective {b n m : Nat} (hb : 1 < b) (hb' : b ≤ 16) (h : Nat.toDigits b n = Nat.toDigits b m) : n = m := by
  have hdigit : ∀ i < 16, ∀ j < 16, Nat.digitChar i = Nat.digitChar j → i = j := by decide
  have hshort : ∀ {i j : Nat} {l : Char}, [l] ≠ Nat.toDigits b i ++ [Nat.digitChar j] := by
    intro i j l heq
    have hlen := congrArg List.length heq
    have hpos := List.length_pos_iff.mpr (Nat.toDigits_ne_nil (n := i) (b := b))
    simp only [List.length_append, List.length_singleton] at hlen
    omega
  induction n using Nat.strongRecOn generalizing m with
  | ind n ih =>
    rw [Nat.toDigits_eq_if hb, Nat.toDigits_eq_if (n := m) hb] at h
    split at h
    · next hn =>
      split at h
      · next hm => exact hdigit n (by omega) m (by omega) (List.singleton_inj.mp h)
      · exact absurd h hshort
    · next hn =>
      split at h
      · exact absurd h.symm hshort
      · obtain ⟨hhigh, hlow⟩ := List.append_inj' h rfl
        have hquot := ih (n / b) (Nat.div_lt_self (by omega) hb) hhigh
        have hsmall (k : Nat) : k % b < 16 := Nat.lt_of_lt_of_le (Nat.mod_lt k (by omega)) hb'
        have hrem := hdigit _ (hsmall n) _ (hsmall m) (List.singleton_inj.mp hlow)
        rw [← Nat.div_add_mod n b, ← Nat.div_add_mod m b, hquot, hrem]

/-- Two texts of some characters are equal if what comes behind them begins with no such character. -/
theorem cut_cancel {p : Char → Bool} (hcs : ∀ c ∈ cs, p c = true) (hds : ∀ c ∈ ds, p c = true)
    (hr : ∀ c ∈ r.head?, p c = false) (hq : ∀ c ∈ q.head?, p c = false) (h : cs ++ r = ds ++ q) :
    cs = ds ∧ r = q := by
  have hnone : ∀ {rest : List Char}, (∀ c ∈ rest.head?, p c = false) → rest.takeWhile p = [] := by
    intro rest hrest
    cases rest with
    | nil => rfl
    | cons c rest => exact List.takeWhile_cons_of_neg (by simp [hrest c rfl])
  have hcut := congrArg (List.takeWhile p) h
  rw [List.takeWhile_append_of_pos hcs, List.takeWhile_append_of_pos hds, hnone hr, hnone hq, List.append_nil,
    List.append_nil] at hcut
  subst hcut
  exact ⟨rfl, List.append_cancel_left h⟩

/-! ## Escapes -/

def namedBy (l : Char) : Char :=
  if l = '0' then '\x00' else if l = 't' then '\t' else if l = 'r' then '\r' else if l = 'n' then '\n' else l

theorem escape_cases (style : QuoteStyle) (c : Char) :
    (escape style c = [c] ∧ c ≠ '\\' ∧ c ≠ '"') ∨
      (∃ l, escape style c = ['\\', l] ∧ namedBy l = c ∧ l ≠ 'u' ∧ l ≠ '(') ∨ escape style c = codePoint c := by
  unfold escape
  split_ifs with h0 ht hr hn hself hvisible
  · exact .inr (.inl ⟨'0', rfl, h0.symm, by decide, by decide⟩)
  · exact .inr (.inl ⟨'t', rfl, ht.symm, by decide, by decide⟩)
  · exact .inr (.inl ⟨'r', rfl, hr.symm, by decide, by decide⟩)
  · exact .inr (.inl ⟨'n', rfl, hn.symm, by decide, by decide⟩)
  · refine .inr (.inl ⟨c, rfl, ?_⟩)
    rcases hself with rfl | rfl | ⟨-, rfl⟩ <;> decide
  · rw [not_or, not_or] at hself
    exact .inl ⟨rfl, hself.1, hself.2.1⟩
  · exact .inr (.inr rfl)

theorem mem_hex_ne {l : Char} {n : Nat} (h : l ∈ Nat.toDigits 16 n) :
    l ≠ '\x7d' ∧ l ≠ '"' ∧ l ≠ '\\' := by
  obtain ⟨i, hi, rfl⟩ := mem_to_digits (by decide) h
  have hall : ∀ i < 16, Nat.digitChar i ≠ '\x7d' ∧ Nat.digitChar i ≠ '"' ∧ Nat.digitChar i ≠ '\\' := by decide
  exact hall i hi

theorem code_point_cancel (h : codePoint c ++ r = codePoint d ++ q) : c = d ∧ r = q := by
  simp only [codePoint, List.append_assoc] at h
  have hdigits := List.append_cancel_left h
  obtain ⟨hhex, hrest⟩ := cut_cancel (p := (· != '\x7d')) (fun l hl => by simpa using (mem_hex_ne hl).1)
    (fun l hl => by simpa using (mem_hex_ne hl).1) (by simp) (by simp) hdigits
  exact ⟨Char.toNat_inj.mp (digits_injective (by decide) (by decide) hhex), List.append_cancel_left hrest⟩

theorem escape_cancel (h : escape style c ++ r = escape style d ++ q) : c = d ∧ r = q := by
  rcases escape_cases style c with ⟨hc, hback, -⟩ | ⟨l, hc, hname, hu, -⟩ | hc <;>
    rcases escape_cases style d with ⟨hd, hback', -⟩ | ⟨l', hd, hname', hu', -⟩ | hd <;> rw [hc, hd] at h
  · exact List.cons.inj h
  · exact absurd (List.cons.inj h).1 hback
  · exact absurd (List.cons.inj h).1 hback
  · exact absurd (List.cons.inj h).1.symm hback'
  · obtain ⟨rfl, hrest⟩ := List.cons.inj (List.cons.inj h).2
    exact ⟨hname.symm.trans hname', hrest⟩
  · exact absurd (List.cons.inj (List.cons.inj h).2).1 hu
  · exact absurd (List.cons.inj h).1.symm hback'
  · exact absurd (List.cons.inj (List.cons.inj h).2).1.symm hu'
  · exact code_point_cancel h

theorem escape_begins (style : QuoteStyle) (c : Char) (r : List Char) :
    ∃ l rest, escape style c ++ r = l :: rest ∧ l ≠ '"' := by
  rcases escape_cases style c with ⟨hc, -, hquote⟩ | ⟨l, hc, -⟩ | hc <;> rw [hc]
  · exact ⟨c, r, rfl, hquote⟩
  · exact ⟨'\\', l :: r, rfl, by decide⟩
  · exact ⟨'\\', _, rfl, by decide⟩

theorem escapes_cancel (h : cs.flatMap (escape style) ++ '"' :: r = ds.flatMap (escape style) ++ '"' :: q) :
    cs = ds ∧ r = q := by
  induction cs generalizing ds with
  | nil =>
    cases ds with
    | nil => exact ⟨rfl, (List.cons.inj h).2⟩
    | cons d ds =>
      obtain ⟨l, rest, hbegins, hl⟩ := escape_begins style d (ds.flatMap (escape style) ++ '"' :: q)
      rw [List.flatMap_cons, List.append_assoc, hbegins] at h
      exact absurd (List.cons.inj h).1.symm hl
  | cons c cs ih =>
    cases ds with
    | nil =>
      obtain ⟨l, rest, hbegins, hl⟩ := escape_begins style c (cs.flatMap (escape style) ++ '"' :: r)
      rw [List.flatMap_cons, List.append_assoc, hbegins] at h
      exact absurd (List.cons.inj h).1 hl
    | cons d ds =>
      rw [List.flatMap_cons, List.flatMap_cons, List.append_assoc, List.append_assoc] at h
      obtain ⟨rfl, hrest⟩ := escape_cancel h
      obtain ⟨rfl, hr⟩ := ih hrest
      exact ⟨rfl, hr⟩

theorem quote_to_list (s : String) : (quote s).toList = '"' :: (s.toList.flatMap (escape plain) ++ ['"']) :=
  String.toList_ofList

theorem quote_cancel {s t : String} (h : (quote s).toList ++ r = (quote t).toList ++ q) : s = t ∧ r = q := by
  rw [quote_to_list, quote_to_list, List.cons_append, List.cons_append, List.append_assoc, List.append_assoc] at h
  obtain ⟨htext, hrest⟩ := escapes_cancel (List.cons.inj h).2
  exact ⟨String.toList_inj.mp htext, hrest⟩

/-! ## Items -/

section Items

variable {α : Type} {f : α → List Char} {stop : Char} {xs ys : List α}

def behind (f : α → List Char) (stop : Char) (r : List Char) : List α → List Char
  | [] => stop :: r
  | x :: xs => ',' :: ' ' :: (f x ++ behind f stop r xs)

theorem intercalate_behind (x : α) (xs : List α) :
    [',', ' '].intercalate ((x :: xs).map f) ++ stop :: r = f x ++ behind f stop r xs := by
  induction xs generalizing x with
  | nil => rw [List.map_singleton, List.intercalate_singleton, behind]
  | cons y ys ih =>
    rw [List.map_cons, List.map_cons, List.intercalate_cons_cons, ← List.map_cons, List.append_assoc,
      List.append_assoc, ih y]
    rfl

theorem behind_head (xs : List α) : (behind f stop r xs).head? = some ',' ∨ (behind f stop r xs).head? = some stop := by
  cases xs with
  | nil => exact .inr rfl
  | cons x xs => exact .inl rfl

variable (hstop : stop ≠ ',')
  (hf : ∀ {x y r q}, (r.head? = some ',' ∨ r.head? = some stop) → (q.head? = some ',' ∨ q.head? = some stop) →
    f x ++ r = f y ++ q → x = y ∧ r = q)

include hstop hf

theorem behind_cancel (h : behind f stop r xs = behind f stop q ys) : xs = ys ∧ r = q := by
  induction xs generalizing ys with
  | nil =>
    cases ys with
    | nil => exact ⟨rfl, (List.cons.inj h).2⟩
    | cons y ys => exact absurd (List.cons.inj h).1 hstop
  | cons x xs ih =>
    cases ys with
    | nil => exact absurd (List.cons.inj h).1.symm hstop
    | cons y ys =>
      obtain ⟨rfl, hrest⟩ := hf (behind_head xs) (behind_head ys) (List.cons.inj (List.cons.inj h).2).2
      obtain ⟨rfl, hr⟩ := ih hrest
      exact ⟨rfl, hr⟩

/-- A list of items can be read if its items can, and if none of them begins as the list ends. -/
theorem items_cancel (hfirst : ∀ x r, (f x ++ r).head? ≠ some stop)
    (h : [',', ' '].intercalate (xs.map f) ++ stop :: r = [',', ' '].intercalate (ys.map f) ++ stop :: q) :
    xs = ys ∧ r = q := by
  cases xs with
  | nil =>
    cases ys with
    | nil => exact ⟨rfl, (List.cons.inj h).2⟩
    | cons y ys =>
      rw [intercalate_behind] at h
      exact absurd (congrArg List.head? h).symm (hfirst y _)
  | cons x xs =>
    rw [intercalate_behind] at h
    cases ys with
    | nil => exact absurd (congrArg List.head? h) (hfirst x _)
    | cons y ys =>
      rw [intercalate_behind] at h
      obtain ⟨rfl, hrest⟩ := hf (behind_head xs) (behind_head ys) h
      obtain ⟨rfl, hr⟩ := behind_cancel hstop hf hrest
      exact ⟨rfl, hr⟩

end Items

/-! ## Between quotes -/

inductive Place
  | outside
  | inside
  | escaped

namespace Place

variable {p p' s s' : Place}

/-- Outside of quotes stand no backslashes and no opening parentheses, and no parenthesis is escaped. -/
def step? : Place → Char → Option Place
  | .outside, c => if c = '"' then some .inside else if c = '\\' ∨ c = '(' then none else some .outside
  | .inside, c => if c = '"' then some .outside else if c = '\\' then some .escaped else some .inside
  | .escaped, c => if c = '(' then none else some .inside

def read? (p : Place) (cs : List Char) : Option Place := cs.foldlM step? p

theorem read?_cons (p : Place) (c : Char) (cs : List Char) : p.read? (c :: cs) = (p.step? c).bind (·.read? cs) := rfl

theorem read?_append (p : Place) (cs ds : List Char) : p.read? (cs ++ ds) = (p.read? cs).bind (·.read? ds) :=
  List.foldlM_append

theorem read_outside (hcs : ∀ c ∈ cs, c ≠ '"' ∧ c ≠ '\\' ∧ c ≠ '(') : outside.read? cs = some outside := by
  induction cs with
  | nil => rfl
  | cons c cs ih =>
    obtain ⟨⟨hquote, hback, hparen⟩, hrest⟩ := List.forall_mem_cons.mp hcs
    rw [read?_cons, step?, if_neg hquote, if_neg (not_or.mpr ⟨hback, hparen⟩)]
    exact ih hrest

theorem read_inside (hcs : ∀ c ∈ cs, c ≠ '"' ∧ c ≠ '\\') : inside.read? cs = some inside := by
  induction cs with
  | nil => rfl
  | cons c cs ih =>
    obtain ⟨⟨hquote, hback⟩, hrest⟩ := List.forall_mem_cons.mp hcs
    rw [read?_cons, step?, if_neg hquote, if_neg hback]
    exact ih hrest

theorem read_escape (style : QuoteStyle) (c : Char) : inside.read? (escape style c) = some inside := by
  rcases escape_cases style c with ⟨hc, hback, hquote⟩ | ⟨l, hc, -, -, hparen⟩ | hc <;> rw [hc]
  · exact read_inside (List.forall_mem_singleton.mpr ⟨hquote, hback⟩)
  · simp [read?, step?, hparen]
  · have hopens : inside.read? ['\\', 'u', '\x7b'] = some inside := rfl
    rw [codePoint, read?_append, read?_append, hopens, Option.bind_some, read_inside fun l hl => (mem_hex_ne hl).2]
    rfl

theorem read_escapes (cs : List Char) : inside.read? (cs.flatMap (escape style)) = some inside := by
  induction cs with
  | nil => rfl
  | cons c cs ih =>
    rw [List.flatMap_cons, read?_append, read_escape]
    exact ih

theorem read_quote (s : String) : outside.read? (quote s).toList = some outside := by
  rw [quote_to_list, read?_cons, step?, if_pos rfl, Option.bind_some, read?_append, read_escapes]
  rfl

theorem read_items {α : Type} {f : α → List Char} {xs : List α}
    (hf : ∀ x ∈ xs, outside.read? (f x) = some outside) :
    outside.read? ([',', ' '].intercalate (xs.map f)) = some outside := by
  induction xs with
  | nil => rfl
  | cons x xs ih =>
    obtain ⟨hx, hrest⟩ := List.forall_mem_cons.mp hf
    cases xs with
    | nil => rwa [List.map_singleton, List.intercalate_singleton]
    | cons y ys =>
      rw [List.map_cons, List.map_cons, List.intercalate_cons_cons, ← List.map_cons, read?_append, read?_append, hx]
      exact ih hrest

/-- The place of a reader that took a quote more or less. -/
def across : Place → Place
  | .outside => .inside
  | .inside => .outside
  | .escaped => .escaped

theorem step_across {t t' : Place} (hp : p ≠ .escaped) (ht : p.step? c = some t) (ht' : p.across.step? c = some t') :
    t ≠ .escaped ∧ t' = t.across := by
  cases p with
  | escaped => exact absurd rfl hp
  | outside | inside =>
    simp only [across, step?] at ht ht'
    split_ifs at ht ht' <;> cases ht <;> cases ht' <;> simp_all [across]

/-- Of two readers of one text, one between quotes and one outside, neither comes to an escape, since the other one
would not read on, and a quote changes the places of both. -/
theorem read_across (hp : p ≠ .escaped) (hs : p.read? cs = some s) (hs' : p.across.read? cs = some s') :
    s ≠ .escaped ∧ s' = s.across := by
  induction cs generalizing p with
  | nil =>
    obtain rfl := Option.some.inj hs
    exact ⟨hp, (Option.some.inj hs').symm⟩
  | cons c cs ih =>
    rw [read?_cons] at hs hs'
    obtain ⟨t, ht, hs⟩ := Option.bind_eq_some_iff.mp hs
    obtain ⟨t', ht', hs'⟩ := Option.bind_eq_some_iff.mp hs'
    obtain ⟨hnext, rfl⟩ := step_across hp ht ht'
    exact ih hnext hs hs'

/-- What begins behind a parenthesis within quotes is no text with all its quotes closed. -/
theorem not_read_behind (h : outside.read? (cs ++ '(' :: ds) = some outside) : outside.read? ds ≠ some outside := by
  intro hds
  rw [read?_append] at h
  obtain ⟨p, -, h⟩ := Option.bind_eq_some_iff.mp h
  rw [read?_cons] at h
  obtain ⟨p', hp', h⟩ := Option.bind_eq_some_iff.mp h
  have hinside : p' = inside := by
    cases p <;> simp [step?] at hp'
    exact hp'.symm
  rw [hinside] at h
  obtain ⟨-, hacross⟩ := read_across (by simp) hds h
  cases hacross

end Place

end BundleWatch.Text
