import BundleWatch.Shell.Script

/-!
# Arithmetic

Sums, products and brackets over whole numbers and variables, as a shell computes them. Division goes
toward zero, and there is no answer where the divisor is zero.
-/

set_option autoImplicit false

namespace BundleWatch.Shell.Arithmetic

abbrev Variables := String → Option String

def skipBlanks (cs : List Char) : List Char := cs.dropWhile fun c => c = ' ' ∨ c = '\t' ∨ c = '\n'

def divide (f : Int → Int → Int) (a b : Int) : Option Int := if b = 0 then none else some (f a b)

abbrev Reader := List Char → Option (Int × List Char)

mutual

def sum? (vs : Variables) : Nat → Reader
  | 0, _ => none
  | n + 1, cs => do
    let (a, rest) ← product? vs n cs
    sumFrom? vs n a rest

def sumFrom? (vs : Variables) : Nat → Int → Reader
  | 0, _, _ => none
  | n + 1, a, cs =>
    match skipBlanks cs with
    | '+' :: rest => do
      let (b, rest) ← product? vs n rest
      sumFrom? vs n (a + b) rest
    | '-' :: rest => do
      let (b, rest) ← product? vs n rest
      sumFrom? vs n (a - b) rest
    | rest => some (a, rest)

def product? (vs : Variables) : Nat → Reader
  | 0, _ => none
  | n + 1, cs => do
    let (a, rest) ← factor? vs n cs
    productFrom? vs n a rest

def productFrom? (vs : Variables) : Nat → Int → Reader
  | 0, _, _ => none
  | n + 1, a, cs =>
    match skipBlanks cs with
    | '*' :: rest => do
      let (b, rest) ← factor? vs n rest
      productFrom? vs n (a * b) rest
    | '/' :: rest => do
      let (b, rest) ← factor? vs n rest
      productFrom? vs n (← divide Int.tdiv a b) rest
    | '%' :: rest => do
      let (b, rest) ← factor? vs n rest
      productFrom? vs n (← divide Int.tmod a b) rest
    | rest => some (a, rest)

def factor? (vs : Variables) : Nat → Reader
  | 0, _ => none
  | n + 1, cs =>
    match skipBlanks cs with
    | '-' :: rest => (factor? vs n rest).map fun (a, rest) => (-a, rest)
    | '+' :: rest => factor? vs n rest
    | '(' :: rest => do
      let (a, rest) ← sum? vs n rest
      match skipBlanks rest with
      | ')' :: rest => return (a, rest)
      | _ => none
    | cs =>
      let cs := cs.dropWhile (· = '$')
      let word := cs.takeWhile isNameChar
      if word.isEmpty then none
      else if word.all Char.isDigit then
        (String.ofList word).toInt?.map (·, cs.drop word.length)
      else
        some ((((vs (String.ofList word)).getD "0").toInt?).getD 0, cs.drop word.length)

end

def eval? (vs : Variables) (text : String) : Option Int :=
  match sum? vs (4 * text.length + 8) text.toList with
  | some (a, rest) => if (skipBlanks rest).isEmpty then some a else none
  | none => none

end BundleWatch.Shell.Arithmetic
