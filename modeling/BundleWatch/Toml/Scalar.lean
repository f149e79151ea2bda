import BundleWatch.Toml.Value
import BundleWatch.Unicode.Ranges

/-!
# TOML numbers, truth values and moments

A word that is no text is a truth value, a number or a moment in time.
-/

set_option autoImplicit false

namespace BundleWatch.Toml

/-! ## Numbers -/

def digits? (isDigit : Char → Bool) : List Char → Option (List Char)
  | [] => none
  | [c] => if isDigit c then some [c] else none
  | c :: '_' :: cs => if isDigit c then (digits? isDigit cs).map (c :: ·) else none
  | c :: cs => if isDigit c then (digits? isDigit cs).map (c :: ·) else none

def numeral (base : Nat) (ds : List Char) : Nat :=
  ds.foldl (fun n c => base * n + Unicode.hexDigit c) 0

def decimal? (cs : List Char) : Option (List Char) := do
  let ds ← digits? (·.isDigit) cs
  match ds with
  | '0' :: _ :: _ => none
  | _ => some ds

def signed : List Char → Bool × List Char
  | '-' :: cs => (true, cs)
  | '+' :: cs => (false, cs)
  | cs => (false, cs)

def inRange (n : Int) : Bool := -Int.ofNat (1 <<< 127) ≤ n && n < Int.ofNat (1 <<< 128)

def integer? (cs : List Char) : Option Int := do
  let n ← match cs with
    | '0' :: 'x' :: cs =>
      (digits? Unicode.isHexDigit cs).map fun ds => Int.ofNat (numeral 16 ds)
    | '0' :: 'o' :: cs =>
      (digits? (fun c => '0' ≤ c && c ≤ '7') cs).map fun ds => Int.ofNat (numeral 8 ds)
    | '0' :: 'b' :: cs =>
      (digits? (fun c => c = '0' || c = '1') cs).map fun ds => Int.ofNat (numeral 2 ds)
    | cs =>
      let (negative, cs) := signed cs
      (decimal? cs).map fun ds => if negative then -(numeral 10 ds : Int) else numeral 10 ds
  if inRange n then return n else none

/-- Whether `m · 10^e` is too large for a number with a fraction: at least halfway from the
greatest one to the next power of two. -/
def overflows (m : Nat) (e : Int) : Bool :=
  let limit : Nat := 1 <<< 1024 - 1 <<< 970
  let size : Int := (Nat.toDigits 10 m).length + e
  if m = 0 ∨ size < 300 then false
  else if 320 < size then true
  else if 0 ≤ e then limit ≤ m * Nat.pow 10 e.toNat
  else limit * Nat.pow 10 (-e).toNat ≤ m

def real? (cs : List Char) : Option Unit := do
  let (_, cs) := signed cs
  if cs = ['i', 'n', 'f'] ∨ cs = ['n', 'a', 'n'] then return ()
  let isE := fun c : Char => c = 'e' || c = 'E'
  let (mantissa, exponent) := cs.span (!isE ·)
  let (whole, fraction) := mantissa.span (· ≠ '.')
  if fraction.isEmpty && exponent.isEmpty then none
  let whole ← decimal? whole
  let fraction ← match fraction with
    | [] => some []
    | _ :: ds => digits? (·.isDigit) ds
  let exponent ← match exponent with
    | [] => some (0 : Int)
    | _ :: cs =>
      let (negative, cs) := signed cs
      (digits? (·.isDigit) cs).map fun ds =>
        if negative then -(numeral 10 ds : Int) else numeral 10 ds
  if overflows (numeral 10 (whole ++ fraction)) (exponent - fraction.length) then none
  else return ()

/-! ## Moments -/

def fixed? (n : Nat) (cs : List Char) : Option (Nat × List Char) :=
  let ds := cs.take n
  if ds.length = n ∧ ds.all (·.isDigit) then some (numeral 10 ds, cs.drop n) else none

def isLeap (year : Nat) : Bool := year % 4 = 0 && (year % 100 != 0 || year % 400 = 0)

def daysIn (year month : Nat) : Nat :=
  if month = 2 then (if isLeap year then 29 else 28)
  else if month ∈ [4, 6, 9, 11] then 30
  else 31

def date? (cs : List Char) : Option (List Char) := do
  let (year, '-' :: cs) ← fixed? 4 cs | none
  let (month, '-' :: cs) ← fixed? 2 cs | none
  let (day, cs) ← fixed? 2 cs
  if 1 ≤ month ∧ month ≤ 12 ∧ 1 ≤ day ∧ day ≤ daysIn year month then return cs else none

def time? (cs : List Char) : Option (List Char) := do
  let (hour, ':' :: cs) ← fixed? 2 cs | none
  let (minute, cs) ← fixed? 2 cs
  if 23 < hour ∨ 59 < minute then none
  match cs with
  | ':' :: cs =>
    let (second, cs) ← fixed? 2 cs
    if 60 < second then none
    match cs with
    | '.' :: cs => if (cs.head?.map (·.isDigit)).getD false then return cs.dropWhile (·.isDigit) else none
    | cs => return cs
  | cs => return cs

def offset? : List Char → Option Unit
  | [] => some ()
  | ['Z'] => some ()
  | ['z'] => some ()
  | c :: cs => do
    if c ≠ '+' ∧ c ≠ '-' then none
    let (hour, ':' :: cs) ← fixed? 2 cs | none
    let (minute, cs) ← fixed? 2 cs
    if hour ≤ 23 ∧ minute ≤ 59 ∧ cs = [] then return () else none

def moment? (cs : List Char) : Option Unit :=
  match date? cs with
  | some [] => some ()
  | some (c :: rest) =>
    if c = 'T' ∨ c = 't' ∨ c = ' ' then (time? rest).bind offset? else none
  | none => (time? cs).bind fun rest => if rest.isEmpty then some () else none

/-! ## Words -/

def isWordChar (c : Char) : Bool :=
  c.isAlphanum || c = '_' || c = '+' || c = '-' || c = '.' || c = ':'

def word (cs : Input) : List Char × Input :=
  let (w, rest) := cs.span isWordChar
  match rest with
  | ' ' :: d :: more =>
    if d.isDigit ∧ date? w = some [] then
      let (t, rest) := (d :: more).span isWordChar
      (w ++ ' ' :: t, rest)
    else (w, rest)
  | _ => (w, rest)

def scalar? (w : List Char) : Option Value :=
  if w = "true".toList then some (.boolean true)
  else if w = "false".toList then some (.boolean false)
  else
    match integer? w with
    | some n => some (.integer n)
    | none =>
      match real? w with
      | some _ => some .real
      | none => (moment? w).map fun _ => .moment

end BundleWatch.Toml
