import BundleWatch.Text.Utf8

/-!
# Names of the system

The system does not name files by texts. Where its names are bytes, only some of them can be read. A name is
kept as a string of units here; how units make up a text, and what is read of a name that is none, is the
encoding. The definitions run with names that are texts.
-/

set_option autoImplicit false

namespace BundleWatch

class Encoding where
  /-- The name that a text stands for. -/
  write : String → String
  read? : String → Option String
  /-- A text for every name, also for those that cannot be read. -/
  lossy : String → String
  read?_eq_some : ∀ {s t : String}, read? s = some t ↔ s = write t
  lossy_write : ∀ t : String, lossy (write t) = t
  lossy_eq_empty : ∀ {s : String}, lossy s = "" ↔ s = ""
  write_append : ∀ s t : String, write (s ++ t) = write s ++ write t
  write_ascii : ∀ c : Char, c.toNat < 128 → write (String.singleton c) = String.singleton c
  write_other : ∀ c : Char, 128 ≤ c.toNat → ∀ u ∈ (write (String.singleton c)).toList, 128 ≤ u.toNat

namespace Encoding

instance unicode : Encoding where
  write s := s
  read? := some
  lossy s := s
  read?_eq_some := Option.some_inj
  lossy_write _ := rfl
  lossy_eq_empty := .rfl
  write_append _ _ := rfl
  write_ascii _ _ := rfl
  write_other c hc := by simpa using hc

/-! ## What is written -/

section

variable [Encoding] {s t : String} {c : Char}

theorem write_injective (h : write s = write t) : s = t :=
  Option.some_inj.mp ((read?_eq_some.mpr rfl).symm.trans (read?_eq_some.mpr h))

theorem write_empty : write "" = "" := by
  have htwice := congrArg String.length (write_append "" "")
  rw [String.append_empty, String.length_append] at htwice
  exact String.length_eq_zero_iff.mp (by omega)

theorem write_dot : write "." = "." := write_ascii '.' (by decide)

theorem write_slash : write "/" = "/" := write_ascii '/' (by decide)

theorem write_up : write ".." = ".." := by
  rw [show ".." = "." ++ "." from rfl, write_append, write_dot]

/-- A character in ASCII is written as it is, and no other character is written with it. -/
theorem mem_write (hc : c.toNat < 128) : c ∈ (write t).toList ↔ c ∈ t.toList := by
  obtain ⟨cs, rfl⟩ : ∃ cs, t = String.ofList cs := ⟨t.toList, String.ofList_toList.symm⟩
  induction cs with
  | nil => rw [String.ofList_nil, write_empty]
  | cons d cs ih =>
    have hsplit : String.ofList (d :: cs) = String.singleton d ++ String.ofList cs := by
      rw [String.singleton_eq_ofList, ← String.ofList_append, List.singleton_append]
    rw [hsplit, write_append, String.toList_append, String.toList_append, List.mem_append, List.mem_append, ih]
    refine or_congr_left ?_
    by_cases hd : d.toNat < 128
    · rw [write_ascii d hd]
    · have hother := write_other d (Nat.le_of_not_lt hd)
      refine iff_of_false (fun hin => ?_) (fun hin => ?_)
      · exact absurd hc (Nat.not_lt.mpr (hother c hin))
      · rw [String.toList_singleton, List.mem_singleton] at hin
        exact hd (hin ▸ hc)

end

/-! ## Bytes -/

def unit (b : UInt8) : Char := Char.ofNat b.toNat

def ofBytes (bs : Bytes) : String := String.ofList (bs.map unit)

def toBytes (s : String) : Bytes := s.toList.map fun u => UInt8.ofNat u.toNat

theorem unit_to_nat (b : UInt8) : (unit b).toNat = b.toNat := by
  have hvalid : b.toNat.isValidChar := .inl (Nat.lt_trans b.toNat_lt (by decide))
  rw [unit, Char.ofNat, dif_pos hvalid]
  rfl

theorem unit_ascii {c : Char} (hc : c.toNat < 128) : unit (UInt8.ofNat c.toNat) = c := by
  rw [← Char.toNat_inj, unit_to_nat, UInt8.toNat_ofNat']
  omega

theorem to_bytes_of_bytes (bs : Bytes) : toBytes (ofBytes bs) = bs := by
  have hbyte (b : UInt8) : UInt8.ofNat (unit b).toNat = b := by rw [unit_to_nat, UInt8.ofNat_toNat]
  rw [toBytes, ofBytes, String.toList_ofList, List.map_map]
  exact (List.map_congr_left fun b _ => hbyte b).trans (List.map_id bs)

/-- A name is bytes, and the name of a text is the text in UTF-8. -/
@[reducible]
def bytes : Encoding where
  write t := ofBytes (.ofText t)
  read? s := if ofBytes (toBytes s) = s then (toBytes s).toText.toOption else none
  lossy s := (toBytes s).lossyText
  read?_eq_some := by
    intro s t
    constructor
    · intro hread
      split at hread
      · next hs =>
        rcases htext : (toBytes s).toText with fault | t' <;> rw [htext] at hread
        · cases hread
        · obtain rfl : t' = t := Option.some.inj hread
          rw [← Bytes.to_text_eq_ok.mp htext, hs]
      · cases hread
    · rintro rfl
      rw [to_bytes_of_bytes, if_pos rfl, Bytes.to_text_of_text]
      rfl
  lossy_write t := by rw [to_bytes_of_bytes, Bytes.lossy_text_of_text]
  lossy_eq_empty := by
    intro s
    rw [Bytes.lossy_text_eq_empty, toBytes, List.map_eq_nil_iff, String.toList_eq_nil_iff]
  write_append s t := by
    rw [Bytes.of_text_append, ofBytes, List.map_append, String.ofList_append]
    rfl
  write_ascii c hc := by
    rw [Bytes.of_text_ascii hc, ofBytes, String.singleton_eq_ofList, List.map_singleton, unit_ascii hc]
  write_other c hc u hu := by
    rw [ofBytes, String.toList_ofList] at hu
    obtain ⟨b, hb, rfl⟩ := List.mem_map.mp hu
    rw [unit_to_nat]
    exact Bytes.of_text_other hc b hb

end Encoding

end BundleWatch
