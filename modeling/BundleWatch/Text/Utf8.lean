/-!
# Bytes and text

Text is stored as UTF-8. Bytes that are no text are reported with the length of the longest
readable beginning.
-/

set_option autoImplicit false

namespace BundleWatch

abbrev Bytes := List UInt8

namespace Bytes

def ofText (s : String) : Bytes := s.toUTF8.data.toList

/-- Why bytes are no text. `offset` bytes can be read before the fault. -/
inductive Fault
  | invalid (length offset : Nat)
  | incomplete (offset : Nat)
deriving DecidableEq, Repr

def Fault.message : Fault → String
  | .invalid n i => "invalid utf-8 sequence of " ++ toString n ++ " bytes from index " ++ toString i
  | .incomplete i => "incomplete utf-8 byte sequence from index " ++ toString i

private def continues (b : UInt8) : Bool := 0x80 ≤ b && b ≤ 0xBF

private def second (a b : UInt8) : Bool :=
  if a = 0xE0 then 0xA0 ≤ b && b ≤ 0xBF
  else if a = 0xED then 0x80 ≤ b && b ≤ 0x9F
  else if a = 0xF0 then 0x90 ≤ b && b ≤ 0xBF
  else if a = 0xF4 then 0x80 ≤ b && b ≤ 0x8F
  else continues b

def faultFrom : Nat → Bytes → Option Fault
  | _, [] => none
  | i, a :: rest =>
    if a < 0x80 then faultFrom (i + 1) rest
    else if 0xC2 ≤ a && a ≤ 0xDF then
      match rest with
      | [] => some (.incomplete i)
      | b :: r => if continues b then faultFrom (i + 2) r else some (.invalid 1 i)
    else if 0xE0 ≤ a && a ≤ 0xEF then
      match rest with
      | [] => some (.incomplete i)
      | b :: r =>
        if second a b then
          match r with
          | [] => some (.incomplete i)
          | c :: q => if continues c then faultFrom (i + 3) q else some (.invalid 2 i)
        else some (.invalid 1 i)
    else if 0xF0 ≤ a && a ≤ 0xF4 then
      match rest with
      | [] => some (.incomplete i)
      | b :: r =>
        if second a b then
          match r with
          | [] => some (.incomplete i)
          | c :: q =>
            if continues c then
              match q with
              | [] => some (.incomplete i)
              | d :: p => if continues d then faultFrom (i + 4) p else some (.invalid 3 i)
            else some (.invalid 2 i)
        else some (.invalid 1 i)
    else some (.invalid 1 i)

def toText (bs : Bytes) : Except Fault String :=
  match String.fromUTF8? ⟨bs.toArray⟩ with
  | some s => .ok s
  | none => .error ((faultFrom 0 bs).getD (.incomplete 0))

theorem to_text_eq_ok {bs : Bytes} {s : String} : bs.toText = .ok s ↔ bs = ofText s := by
  have hbytes : (⟨bs.toArray⟩ : ByteArray) = s.toByteArray ↔ bs = ofText s := by
    rw [ofText, ByteArray.ext_iff, ← Array.toList_inj]
    rfl
  rw [← hbytes, toText, String.fromUTF8?]
  split
  · next t ht =>
    split at ht
    · obtain rfl := Option.some.inj ht
      rw [Except.ok.injEq, ← String.toByteArray_inj]
      rfl
    · cases ht
  · next hnone =>
    split at hnone
    · cases hnone
    · next hnot => exact iff_of_false nofun fun h => hnot (h ▸ s.isValidUTF8)

theorem to_text_of_text (s : String) : (ofText s).toText = .ok s := to_text_eq_ok.mpr rfl

/-- The text before the first fault, a mark for the fault, and the same for what is behind it, at most `n`
times. -/
def markFaults : Nat → Bytes → String
  | 0, _ => ""
  | n + 1, bs =>
    let before (offset : Nat) := (toText (bs.take offset)).toOption.getD ""
    match bs.toText with
    | .ok s => s
    | .error (.invalid length offset) =>
      before offset ++ "\uFFFD" ++ markFaults n (bs.drop (offset + length))
    | .error (.incomplete offset) => before offset ++ "\uFFFD"

def lossyText (bs : Bytes) : String := markFaults (bs.length + 1) bs

theorem lossy_text_of_text (s : String) : (ofText s).lossyText = s := by
  rw [lossyText, markFaults, to_text_of_text]

theorem lossy_text_eq_empty {bs : Bytes} : bs.lossyText = "" ↔ bs = [] := by
  rw [lossyText, markFaults]
  split
  · next s hs =>
    rw [to_text_eq_ok] at hs
    constructor
    · rintro rfl
      exact hs
    · intro hempty
      rw [hempty, ← to_text_eq_ok] at hs
      exact Except.ok.inj (hs.symm.trans (to_text_of_text ""))
  all_goals
    next herror =>
      refine iff_of_false (fun h => ?_) ?_
      · simpa using congrArg String.toList h
      · rintro rfl
        cases herror.symm.trans (to_text_of_text "")

theorem of_text_append (s t : String) : ofText (s ++ t) = ofText s ++ ofText t := by
  simp [ofText]

theorem of_text_singleton (c : Char) : ofText (String.singleton c) = String.utf8EncodeChar c := by
  rw [String.singleton_eq_ofList, ofText]
  simp [List.utf8Encode_singleton]

theorem of_text_ascii {c : Char} (h : c.toNat < 128) : ofText (String.singleton c) = [UInt8.ofNat c.toNat] := by
  have hlow : c.val.toNat ≤ 127 := Nat.le_of_lt_succ h
  rw [of_text_singleton, String.utf8EncodeChar]
  simp only [hlow, if_true]
  rfl

theorem of_text_other {c : Char} (h : 128 ≤ c.toNat) : ∀ b ∈ ofText (String.singleton c), 128 ≤ b.toNat := by
  have hhigh : 128 ≤ c.val.toNat := h
  rw [of_text_singleton]
  fun_cases String.utf8EncodeChar c <;> intro b hb <;>
    simp only [List.mem_cons, List.not_mem_nil, or_false] at hb
  · omega
  · rcases hb with rfl | rfl <;> simp <;> omega
  · rcases hb with rfl | rfl | rfl <;> simp <;> omega
  · rcases hb with rfl | rfl | rfl | rfl <;> simp <;> omega

end Bytes

end BundleWatch
