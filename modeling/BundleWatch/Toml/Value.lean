/-!
# TOML values

Values of a TOML document. The numbers with a fraction, the infinities and the moments in time are
only told apart from the rest, because nothing that is read here asks for their contents.
-/

set_option autoImplicit false

namespace BundleWatch.Toml

inductive Value
  | text (s : String)
  | integer (n : Int)
  | real
  | boolean (b : Bool)
  | moment
  | array (xs : List Value)
  | table (members : List (String × Value))
deriving Inhabited

abbrev Input := List Char

def isSpace (c : Char) : Bool := c = ' ' || c = '\t'

def skipSpaces (cs : Input) : Input := cs.dropWhile isSpace

def isPrintable (c : Char) : Bool := c = '\t' || (32 ≤ c.toNat && c.toNat != 127)

def skipComment : Input → Input
  | '#' :: cs => cs.dropWhile isPrintable
  | cs => cs

def endOfLine? : Input → Option Input
  | [] => some []
  | '\n' :: cs => some cs
  | '\r' :: '\n' :: cs => some cs
  | _ => none

def skipLines : Nat → Input → Input
  | 0, cs => cs
  | n + 1, cs =>
    match skipComment (skipSpaces cs) with
    | [] => []
    | rest =>
      match endOfLine? rest with
      | some rest => skipLines n rest
      | none => rest

end BundleWatch.Toml
