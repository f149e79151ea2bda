import BundleWatch.Task.Basic
import Mathlib.Algebra.Group.Nat.Defs

/-!
# Identities of tasks

The encoding of a task can be read back: what is written before it and behind it cannot be confused with
it, since every text and every list carries its length. So tasks are told apart by their identities as
far as the digest tells their encodings apart.
-/

set_option autoImplicit false

namespace BundleWatch

namespace TaskId

theorem word_byte (n : UInt64) (i : Nat) (hi : i < 8) :
    ((n >>> (8 * i.toUInt64)).toUInt8).toNat = n.toNat / 2 ^ (8 * i) % 256 := by
  have hs : (8 * i.toUInt64).toNat = 8 * i := by
    simp only [UInt64.toNat_mul, Nat.toUInt64_eq, UInt64.toNat_ofNat']
    change 8 * (i % 2 ^ 64) % 2 ^ 64 = 8 * i
    omega
  have hmod : 8 * i % 64 = 8 * i := Nat.mod_eq_of_lt (by omega)
  rw [UInt64.toNat_toUInt8, UInt64.toNat_shiftRight, hs, hmod, Nat.shiftRight_eq_div_pow]

theorem bytes_injective {k n m : Nat} (hn : n < 2 ^ (8 * k)) (hm : m < 2 ^ (8 * k))
    (h : ∀ i < k, n / 2 ^ (8 * i) % 256 = m / 2 ^ (8 * i) % 256) : n = m := by
  induction k generalizing n m with
  | zero => simp at hn hm; omega
  | succ k ih =>
    have hlow : n % 256 = m % 256 := by simpa using h 0 (by omega)
    have hpow : 2 ^ (8 * (k + 1)) = 2 ^ (8 * k) * 256 := by rw [Nat.mul_succ, Nat.pow_add]
    have hhigh : n / 256 = m / 256 := by
      apply ih
      · rw [hpow] at hn
        exact Nat.div_lt_of_lt_mul (by rwa [Nat.mul_comm])
      · rw [hpow] at hm
        exact Nat.div_lt_of_lt_mul (by rwa [Nat.mul_comm])
      · intro i hi
        have hi' := h (i + 1) (by omega)
        rw [Nat.mul_succ, Nat.pow_add, Nat.mul_comm] at hi'
        rw [Nat.div_div_eq_div_mul, Nat.div_div_eq_div_mul]
        exact hi'
    omega

theorem word_injective {n m : UInt64} (h : word n = word m) : n = m := by
  apply UInt64.toNat.inj
  apply bytes_injective (show n.toNat < 2 ^ (8 * 8) from n.toNat_lt) m.toNat_lt
  intro i hi
  have hat := congrArg (fun bs : Bytes => bs[i]?.map UInt8.toNat) h
  simp only [word, List.getElem?_map, List.getElem?_range hi, Option.map_some,
    word_byte _ i hi] at hat
  exact Option.some.inj hat

theorem word_length (n : UInt64) : (word n).length = 8 := by simp [word]

theorem word_cancel {n m : UInt64} {r q : Bytes} (h : word n ++ r = word m ++ q) :
    n = m ∧ r = q := by
  obtain ⟨hw, hr⟩ := List.append_inj h (by rw [word_length, word_length])
  exact ⟨word_injective hw, hr⟩

theorem count_cancel {n m : Nat} (hn : n < 2 ^ 64) (hm : m < 2 ^ 64) {r q : Bytes}
    (h : count n ++ r = count m ++ q) : n = m ∧ r = q := by
  obtain ⟨hw, hr⟩ := word_cancel h
  have heq := congrArg UInt64.toNat hw
  simp only [Nat.toUInt64_eq, UInt64.toNat_ofNat'] at heq
  rw [Nat.mod_eq_of_lt hn, Nat.mod_eq_of_lt hm] at heq
  exact ⟨heq, hr⟩

theorem of_text_injective {s t : String} (h : Bytes.ofText s = Bytes.ofText t) : s = t := by
  have hread := Bytes.to_text_of_text s
  rw [h, Bytes.to_text_of_text] at hread
  exact (Except.ok.inj hread).symm

end TaskId

def SizedText (s : String) : Prop := (Bytes.ofText s).length < 2 ^ 64

def Arg.Sized : Arg → Prop
  | .text s => SizedText s
  | .number _ => True
  | .list xs => xs.length < 2 ^ 64 ∧ ∀ s ∈ xs, SizedText s

/-- All lengths in the task can be written down in eight bytes, as they can on every machine. -/
structure Task.Sized (t : Task) : Prop where
  handler : SizedText t.handler
  count : t.args.length < 2 ^ 64
  args : ∀ a ∈ t.args, a.Sized

instance (s : String) : Decidable (SizedText s) := inferInstanceAs (Decidable (_ < _))

instance : DecidablePred Arg.Sized
  | .text s => inferInstanceAs (Decidable (SizedText s))
  | .number _ => .isTrue trivial
  | .list xs => inferInstanceAs (Decidable (xs.length < 2 ^ 64 ∧ ∀ s ∈ xs, SizedText s))

instance (t : Task) : Decidable t.Sized :=
  decidable_of_iff (SizedText t.handler ∧ t.args.length < 2 ^ 64 ∧ ∀ a ∈ t.args, a.Sized)
    ⟨fun ⟨hhandler, hcount, hargs⟩ => ⟨hhandler, hcount, hargs⟩, fun h => ⟨h.handler, h.count, h.args⟩⟩

namespace TaskId

theorem encode_text_cancel {s t : String} {r q : Bytes} (hs : SizedText s) (ht : SizedText t)
    (h : encodeText s ++ r = encodeText t ++ q) : s = t ∧ r = q := by
  simp only [encodeText, List.append_assoc] at h
  obtain ⟨hlen, hrest⟩ := count_cancel hs ht h
  obtain ⟨htext, hr⟩ := List.append_inj hrest hlen
  exact ⟨of_text_injective htext, hr⟩

theorem flat_map_cancel {α : Type} {f : α → Bytes} {P : α → Prop}
    (hf : ∀ {x y : α} {r q : Bytes}, P x → P y → f x ++ r = f y ++ q → x = y ∧ r = q)
    {xs ys : List α} {r q : Bytes} (hlen : xs.length = ys.length) (hx : ∀ x ∈ xs, P x)
    (hy : ∀ y ∈ ys, P y) (h : xs.flatMap f ++ r = ys.flatMap f ++ q) : xs = ys ∧ r = q := by
  induction xs generalizing ys with
  | nil =>
    cases ys with
    | nil => exact ⟨rfl, h⟩
    | cons y ys => simp at hlen
  | cons x xs ih =>
    cases ys with
    | nil => simp at hlen
    | cons y ys =>
      simp only [List.flatMap_cons, List.append_assoc] at h
      obtain ⟨rfl, hrest⟩ := hf (hx x (by simp)) (hy y (by simp)) h
      obtain ⟨rfl, hr⟩ := ih (by simpa using hlen) (fun a ha => hx a (by simp [ha]))
        (fun a ha => hy a (by simp [ha])) hrest
      exact ⟨rfl, hr⟩

theorem encode_arg_cancel {a b : Arg} {r q : Bytes} (ha : a.Sized) (hb : b.Sized)
    (h : encodeArg a ++ r = encodeArg b ++ q) : a = b ∧ r = q := by
  cases a with
  | text s =>
    cases b with
    | text t =>
      obtain ⟨rfl, hr⟩ := encode_text_cancel ha hb (List.cons.inj h).2
      exact ⟨rfl, hr⟩
    | number m => simp [encodeArg] at h
    | list ys => simp [encodeArg] at h
  | number n =>
    cases b with
    | text t => simp [encodeArg] at h
    | number m =>
      obtain ⟨hn, hr⟩ := word_cancel (List.cons.inj h).2
      obtain ⟨n⟩ := n
      obtain ⟨m⟩ := m
      exact ⟨congrArg (fun k => Arg.number ⟨k⟩) hn, hr⟩
    | list ys => simp [encodeArg] at h
  | list xs =>
    cases b with
    | text t => simp [encodeArg] at h
    | number m => simp [encodeArg] at h
    | list ys =>
      simp only [encodeArg, List.cons_append, List.append_assoc] at h
      obtain ⟨hlen, hrest⟩ := count_cancel ha.1 hb.1 (List.cons.inj h).2
      obtain ⟨rfl, hr⟩ := flat_map_cancel encode_text_cancel hlen ha.2 hb.2 hrest
      exact ⟨rfl, hr⟩

end TaskId

namespace Task

def encoding (t : Task) : Bytes := TaskId.encode t.handler t.args

theorem ext_call {t u : Task} (hh : t.handler = u.handler) (ha : t.args = u.args) : t = u := by
  obtain ⟨handler, args, id, hid⟩ := t
  obtain ⟨handler', args', id', hid'⟩ := u
  simp only at hh ha
  subst hh ha hid hid'
  rfl

theorem encoding_cancel {t u : Task} {r q : Bytes} (ht : t.Sized) (hu : u.Sized)
    (h : t.encoding ++ r = u.encoding ++ q) : t = u ∧ r = q := by
  simp only [encoding, TaskId.encode, List.append_assoc] at h
  obtain ⟨hhandler, hrest⟩ := TaskId.encode_text_cancel ht.handler hu.handler h
  obtain ⟨hlen, hargs⟩ := TaskId.count_cancel ht.count hu.count hrest
  obtain ⟨hargs, hr⟩ := TaskId.flat_map_cancel TaskId.encode_arg_cancel hlen ht.args hu.args hargs
  exact ⟨ext_call hhandler hargs, hr⟩

/-- No encoding begins another one. So two tasks for whose encodings the digest does not collide have one identity
only if they are the same call. -/
theorem encode_prefix_free {handler handler' : String} {args args' : List Arg}
    (h : (Task.new handler args).Sized) (h' : (Task.new handler' args').Sized) :
    (TaskId.encode handler args <+: TaskId.encode handler' args' → handler = handler' ∧ args = args') ∧
      ((Digest.ofBytes (TaskId.encode handler args) = Digest.ofBytes (TaskId.encode handler' args') →
          TaskId.encode handler args = TaskId.encode handler' args') →
        ((Task.new handler args).id = (Task.new handler' args').id ↔ handler = handler' ∧ args = args')) := by
  have hbegins : TaskId.encode handler args <+: TaskId.encode handler' args' → handler = handler' ∧ args = args' := by
    rintro ⟨rest, hrest⟩
    have hread : (Task.new handler args).encoding ++ rest = (Task.new handler' args').encoding ++ [] := by
      rw [List.append_nil]
      exact hrest
    obtain ⟨hcall, -⟩ := encoding_cancel h h' hread
    exact ⟨congrArg Task.handler hcall, congrArg Task.args hcall⟩
  refine ⟨hbegins, fun hcollide => ⟨fun hid => ?_, ?_⟩⟩
  · exact hbegins ⟨[], (List.append_nil _).trans (hcollide hid)⟩
  · rintro ⟨rfl, rfl⟩
    rfl

theorem encode_prefix_free_regrouped :
    ¬TaskId.encode "x" [.text "ab", .text "c"] <+: TaskId.encode "x" [.text "a", .text "bc"] ∧
      (Task.new "x" [.text "ab", .text "c"]).id ≠ (Task.new "x" [.text "a", .text "bc"]).id := by
  have hcalls : ¬("x" = "x" ∧ [Arg.text "ab", .text "c"] = [.text "a", .text "bc"]) := by decide
  obtain ⟨hbegins, hids⟩ :=
    @encode_prefix_free "x" "x" [.text "ab", .text "c"] [.text "a", .text "bc"] (by decide +kernel) (by decide +kernel)
  refine ⟨fun hcommon => hcalls (hbegins hcommon), fun hid => hcalls ((hids ?_).mp hid)⟩
  intro hdigest
  exact absurd hdigest (by decide +kernel)

/-- The digest tells the encodings of some tasks apart. -/
structure Apart (ts : List Task) : Prop where
  sized : ∀ t ∈ ts, t.Sized
  digest : ∀ t ∈ ts, ∀ u ∈ ts, t.encoding ≠ u.encoding → t.id ≠ u.id

theorem Apart.eq {ts : List Task} (h : Apart ts) {t u : Task} (ht : t ∈ ts) (hu : u ∈ ts)
    (hid : t.id = u.id) : t = u := by
  have henc : t.encoding = u.encoding :=
    Decidable.byContradiction fun hne => h.digest t ht u hu hne hid
  exact (encoding_cancel (r := []) (q := []) (h.sized t ht) (h.sized u hu) (by simp [henc])).1

theorem Apart.mono {ts us : List Task} (h : Apart us) (hsub : ts ⊆ us) :
    Apart ts where
  sized t ht := h.sized t (hsub ht)
  digest t ht u hu := h.digest t (hsub ht) u (hsub hu)

end Task

end BundleWatch
