import BundleWatch.Files.Memory
import BundleWatch.Proofs.Engine.Batch
import BundleWatch.Proofs.Task.Identity
import BundleWatch.Proofs.Text.Quoted

/-!
# Reports of tasks

A task that fails is reported by the call that it is, and the call can be read from the report. The name of a handler
is not quoted and may itself look like a call, but then its parentheses stand outside of quotes where those behind
them stand within, and no text has both readings.
-/

set_option autoImplicit false

namespace BundleWatch

open Text (Place)

namespace Arg

variable {a b : Arg} {n m : Int64} {c : Char} {r q : List Char}

def isNumeral (c : Char) : Bool := c.isDigit || c == '-'

theorem number_to_list (n : Int64) : ∃ c cs, (describe (.number n)).toList = c :: cs ∧ ∀ d ∈ c :: cs, isNumeral d := by
  have hdigits : ∀ k : Nat, ∀ d ∈ Nat.toDigits 10 k, isNumeral d := fun k d hd => by
    rw [isNumeral, Nat.isDigit_of_mem_toDigits (by decide) (by decide) hd, Bool.true_or]
  rw [describe, Int.toString_eq_repr, Int.repr_eq_if]
  split
  · obtain ⟨c, cs, hcs⟩ := List.exists_cons_of_ne_nil (Nat.toDigits_ne_nil (n := n.toInt.toNat) (b := 10))
    refine ⟨c, cs, Nat.toList_repr.trans hcs, ?_⟩
    rw [← hcs]
    exact hdigits _
  · refine ⟨'-', Nat.toDigits 10 (-n.toInt).toNat, ?_, List.forall_mem_cons.mpr ⟨by decide, hdigits _⟩⟩
    rw [String.toList_append, Nat.toList_repr]
    rfl

theorem list_to_list (xs : List String) : (describe (.list xs)).toList =
    '[' :: ([',', ' '].intercalate (xs.map fun s => (Text.quote s).toList) ++ [']']) := by
  rw [describe, Text.quoteList, String.toList_append, String.toList_append, String.toList_intercalate, List.map_map]
  rfl

theorem repr_injective {n m : Int} (h : n.repr = m.repr) : n = m := by
  have hsign : ∀ k i : Nat, '-' :: Nat.toDigits 10 k ≠ Nat.toDigits 10 i := fun k i heq => by
    have hdigit := Nat.isDigit_of_mem_toDigits (c := '-') (n := i) (b := 10) (by decide) (by decide) (by simp [← heq])
    cases hdigit
  have hwritten (k : Nat) : ("-" ++ k.repr).toList = '-' :: Nat.toDigits 10 k := by
    rw [String.toList_append, Nat.toList_repr]
    rfl
  rw [Int.repr_eq_if, Int.repr_eq_if, ← String.toList_inj] at h
  split at h <;> split at h <;> simp only [hwritten, Nat.toList_repr] at h
  · have htoNat := Text.digits_injective (by decide) (by decide) h
    omega
  · exact absurd h.symm (hsign _ _)
  · exact absurd h (hsign _ _)
  · have htoNat := Text.digits_injective (by decide) (by decide) (List.cons.inj h).2
    omega

theorem number_cancel (hr : r.head? = some ',' ∨ r.head? = some ')') (hq : q.head? = some ',' ∨ q.head? = some ')')
    (h : (describe (.number n)).toList ++ r = (describe (.number m)).toList ++ q) : n = m ∧ r = q := by
  have hends : ∀ {l : List Char}, (l.head? = some ',' ∨ l.head? = some ')') → ∀ c ∈ l.head?, isNumeral c = false := by
    rintro l (hl | hl) c hc <;> obtain rfl := Option.some.inj (hl.symm.trans hc) <;> rfl
  obtain ⟨c, cs, hn, hcs⟩ := number_to_list n
  obtain ⟨d, ds, hm, hds⟩ := number_to_list m
  rw [hn, hm] at h
  obtain ⟨hnumeral, hrest⟩ := Text.cut_cancel hcs hds (hends hr) (hends hq) h
  refine ⟨Int64.toInt_inj.mp (repr_injective (String.toList_inj.mp ?_)), hrest⟩
  rw [← Int.toString_eq_repr, ← Int.toString_eq_repr]
  exact hn.trans (hnumeral.trans hm.symm)

def Opens : Arg → Char → Prop
  | .text _, c => c = '"'
  | .number _, c => isNumeral c
  | .list _, c => c = '['

theorem describe_opens (a : Arg) : ∃ c cs, a.describe.toList = c :: cs ∧ a.Opens c := by
  cases a with
  | text s => exact ⟨'"', _, Text.quote_to_list s, rfl⟩
  | number n =>
    obtain ⟨c, cs, hn, hcs⟩ := number_to_list n
    exact ⟨c, cs, hn, hcs c List.mem_cons_self⟩
  | list xs => exact ⟨'[', _, list_to_list xs, rfl⟩

inductive Alike : Arg → Arg → Prop
  | texts (s t : String) : Alike (.text s) (.text t)
  | numbers (n m : Int64) : Alike (.number n) (.number m)
  | lists (xs ys : List String) : Alike (.list xs) (.list ys)

theorem Opens.alike (ha : a.Opens c) (hb : b.Opens c) : Alike a b := by
  have hquote : ¬isNumeral '"' := by decide
  have hbracket : ¬isNumeral '[' := by decide
  cases a <;> cases b <;> simp only [Opens] at ha hb
  · exact .texts _ _
  · exact absurd (ha ▸ hb) hquote
  · exact absurd (ha.symm.trans hb) (by decide)
  · exact absurd (hb ▸ ha) hquote
  · exact .numbers _ _
  · exact absurd (hb ▸ ha) hbracket
  · exact absurd (hb.symm.trans ha) (by decide)
  · exact absurd (ha ▸ hb) hbracket
  · exact .lists _ _

theorem describe_cancel (hr : r.head? = some ',' ∨ r.head? = some ')') (hq : q.head? = some ',' ∨ q.head? = some ')')
    (h : a.describe.toList ++ r = b.describe.toList ++ q) : a = b ∧ r = q := by
  have halike : Alike a b := by
    obtain ⟨c, cs, ha, hopens⟩ := describe_opens a
    obtain ⟨d, ds, hb, hopens'⟩ := describe_opens b
    rw [ha, hb] at h
    obtain rfl := (List.cons.inj h).1
    exact hopens.alike hopens'
  cases halike with
  | texts s t =>
    obtain ⟨rfl, hrest⟩ := Text.quote_cancel h
    exact ⟨rfl, hrest⟩
  | numbers n m =>
    obtain ⟨rfl, hrest⟩ := number_cancel hr hq h
    exact ⟨rfl, hrest⟩
  | lists xs ys =>
    rw [list_to_list, list_to_list, List.cons_append, List.cons_append, List.append_assoc, List.append_assoc] at h
    obtain ⟨rfl, hrest⟩ := Text.items_cancel (show ']' ≠ ',' by decide) (fun _ _ => Text.quote_cancel)
      (fun s l => by simp [Text.quote_to_list]) (List.cons.inj h).2
    exact ⟨rfl, hrest⟩

theorem describe_first (a : Arg) (r : List Char) : (a.describe.toList ++ r).head? ≠ some ')' := by
  obtain ⟨c, cs, ha, hopens⟩ := describe_opens a
  rw [ha]
  intro hc
  obtain rfl := Option.some.inj hc
  cases a <;> simp [Opens, isNumeral] at hopens

/-- All quotes of an argument are closed, and its parentheses stand between them. -/
theorem read_describe (a : Arg) : Place.outside.read? a.describe.toList = some .outside := by
  cases a with
  | text s => exact Place.read_quote s
  | number n =>
    obtain ⟨c, cs, hn, hcs⟩ := number_to_list n
    rw [hn]
    refine Place.read_outside fun d hd => ⟨?_, ?_, ?_⟩ <;> rintro rfl <;> exact absurd (hcs _ hd) (by decide)
  | list xs =>
    have hopen : Place.outside.read? ['['] = some .outside := rfl
    have hclose : Place.outside.read? [']'] = some .outside := rfl
    rw [list_to_list, ← List.singleton_append, Place.read?_append, hopen, Option.bind_some, Place.read?_append,
      Place.read_items fun s _ => Place.read_quote s]
    exact hclose

end Arg

namespace Task

variable {t u : Task}

def inner (t : Task) : List Char := [',', ' '].intercalate (t.args.map fun a => a.describe.toList)

theorem describe_to_list (t : Task) : t.describe.toList = t.handler.toList ++ '(' :: (t.inner ++ [')']) := by
  rw [describe, String.toList_append, String.toList_append, String.toList_append, String.toList_intercalate,
    List.map_map, List.append_assoc, List.append_assoc]
  rfl

theorem read_inner (t : Task) : Place.outside.read? t.inner = some .outside :=
  Place.read_items fun a _ => a.read_describe

/-- If one handler is longer than another, the inner text of the other call goes on behind a parenthesis of the
longer handler, where a reader stands between quotes. -/
theorem not_longer {l : List Char} (h : '(' :: t.inner = l ++ '(' :: u.inner) : l = [] := by
  cases l with
  | nil => rfl
  | cons c l =>
    have hread := t.read_inner
    rw [(List.cons.inj h).2] at hread
    exact absurd u.read_inner (Place.not_read_behind hread)

theorem describe_injective (h : t.describe = u.describe) : t = u := by
  have htext := congrArg String.toList h
  rw [describe_to_list, describe_to_list, ← List.cons_append, ← List.cons_append, ← List.append_assoc,
    ← List.append_assoc] at htext
  obtain ⟨hcall, -⟩ := List.append_inj' htext rfl
  have hhandler : t.handler.toList = u.handler.toList := by
    rcases List.append_eq_append_iff.mp hcall with ⟨l, hname, hinner⟩ | ⟨l, hname, hinner⟩
    · rw [hname, not_longer hinner, List.append_nil]
    · rw [hname, not_longer hinner, List.append_nil]
  rw [hhandler] at hcall
  have hinner : t.inner ++ [')'] = u.inner ++ [')'] := by
    rw [(List.cons.inj (List.append_cancel_left hcall)).2]
  obtain ⟨hargs, -⟩ := Text.items_cancel (by decide) Arg.describe_cancel Arg.describe_first hinner
  exact ext_call (String.toList_inj.mp hhandler) hargs

end Task

namespace Engine

variable {σ τ : Type} {e : Engine σ} {t : Task} {f : Failure}

/-- A flush comes to a task behind others that succeed, and the task fails. -/
def FailsAt (e : Engine σ) (t : Task) (f : Failure) : Prop :=
  ∃ calls later q w q' w', e.queue.pending = calls.map (·.1) ++ t :: later ∧
    Calls e.settings e.handlers calls e.queue.takeBatch.1 e.world q w ∧
    (workOf e.settings e.handlers t w).run q = (q', w', .error f)

theorem FailsAt.flush (h : e.FailsAt t f) : e.flush.2 = .error (.taskFailed t.describe f.message) := by
  obtain ⟨calls, later, q, w, q', w', hbatch, hcalls, hfails⟩ := h
  rw [flush_eq hcalls hbatch, (batch_gives_up hfails later).1]
  rfl

theorem flush_error {err : BuildError} (h : e.flush.2 = .error err) :
    ∃ t f, e.FailsAt t f ∧ err = .taskFailed t.describe f.message := by
  obtain ⟨calls, rest, q, w, hbatch, hcalls, hstops⟩ :=
    exists_calls e.settings e.handlers e.queue.pending e.queue.takeBatch.1 e.world
  cases rest with
  | nil =>
    rw [flush_eq hcalls hbatch] at h
    cases h
  | cons t later =>
    obtain ⟨q', w', f, hfails⟩ := hstops t rfl
    have hat : e.FailsAt t f := ⟨calls, later, q, w, q', w', hbatch, hcalls, hfails⟩
    exact ⟨t, f, hat, Except.error.inj (h.symm.trans hat.flush)⟩

/-- A flush whose failure has a label fails at the task of which this is the report, and at no other. -/
theorem fails_at_iff {label message : String} (h : e.flush.2 = .error (.taskFailed label message)) (t : Task) :
    (∃ f, e.FailsAt t f) ↔ label = t.describe := by
  obtain ⟨u, g, hat, herr⟩ := flush_error h
  obtain ⟨hlabel, -⟩ := BuildError.taskFailed.inj herr
  constructor
  · rintro ⟨f, hat'⟩
    exact (BuildError.taskFailed.inj (Except.error.inj (h.symm.trans hat'.flush))).1
  · intro hlabel'
    obtain rfl := Task.describe_injective (hlabel.symm.trans hlabel')
    exact ⟨g, hat⟩

/-- Two tasks have one report only if they are one call. So two flushes, of whatever engines, whose failures have one
label fail at one task. -/
theorem failure_names_task :
    (∀ t u : Task, t.describe = u.describe → t.handler = u.handler ∧ t.args = u.args) ∧
      ∀ (e : Engine σ) (e' : Engine τ) (label message message' : String),
        e.flush.2 = .error (.taskFailed label message) → e'.flush.2 = .error (.taskFailed label message') →
          ∃ t, label = t.describe ∧ (∀ u, (∃ f, e.FailsAt u f) ↔ u = t) ∧ ∀ u, (∃ f, e'.FailsAt u f) ↔ u = t := by
  refine ⟨fun t u h => ?_, fun e e' label message message' h h' => ?_⟩
  · obtain rfl := Task.describe_injective h
    exact ⟨rfl, rfl⟩
  · obtain ⟨t, f, -, herr⟩ := flush_error h
    obtain ⟨hlabel, -⟩ := BuildError.taskFailed.inj herr
    have honly : ∀ u : Task, label = u.describe ↔ u = t := fun u =>
      ⟨fun hu => Task.describe_injective (hu.symm.trans hlabel), fun hu => hu ▸ hlabel⟩
    exact ⟨t, hlabel, fun u => (fails_at_iff h u).trans (honly u), fun u => (fails_at_iff h' u).trans (honly u)⟩

def openQuote : Task := .new "f(\"" [.text ")("]

/-- A call whose argument looks like what stands behind the parenthesis in the name of `openQuote`. -/
def quotedQuote : Task := .new "f" [.text "(\")("]

def unhandled : Engine Memory where
  settings := default
  world := { files := .new }
  queue := (TaskQueue.empty.push openQuote).1

def refusing : Engine Memory :=
  { unhandled with handlers := ⟨[(openQuote.handler, fun _ _ w => .finish w (.error ⟨"no", []⟩))]⟩ }

/-- The reports of the two calls differ in one backslash. -/
theorem failure_names_task_open_quote :
    (openQuote.describe = "f(\"(\")(\")" ∧ quotedQuote.describe = "f(\"(\\\")(\")") ∧
      openQuote.describe ≠ quotedQuote.describe ∧
      ∃ t, openQuote.describe = t.describe ∧ (∀ u, (∃ f, unhandled.FailsAt u f) ↔ u = t) ∧
        ∀ u, (∃ f, refusing.FailsAt u f) ↔ u = t :=
  ⟨by decide +kernel,
    fun h => absurd ((@failure_names_task Memory Memory).1 openQuote quotedQuote h).1 (by decide),
    failure_names_task.2 unhandled refusing openQuote.describe "no handler registered as 'f(\"'" "no" (by decide +kernel)
      (by decide +kernel)⟩

end Engine

end BundleWatch
