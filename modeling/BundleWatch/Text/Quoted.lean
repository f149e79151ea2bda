import BundleWatch.Unicode.Category
import BundleWatch.Unicode.Property

/-!
# Quoted text

Quoted text stands between double quotes. A quote, a backslash and the control characters that
have a letter of their own are written with a backslash; any other character that cannot be seen
by itself is written by its code point.
-/

set_option autoImplicit false

namespace BundleWatch.Text

def hiddenCategories : List Unicode.Category :=
  [.control, .format, .surrogate, .privateUse, .unassigned, .lineSeparator, .paragraphSeparator,
   .spaceSeparator]

def isVisible (c : Char) : Bool :=
  if c.toNat < 127 then 32 ≤ c.toNat
  else !Unicode.graphemeExtend.contains c.toNat && !hiddenCategories.any (·.contains c)

def codePoint (c : Char) : List Char :=
  ['\\', 'u', '\x7b'] ++ Nat.toDigits 16 c.toNat ++ ['\x7d']

structure QuoteStyle where
  apostrophe : Bool

def plain : QuoteStyle := ⟨false⟩

def fileName : QuoteStyle := ⟨true⟩

def escape (style : QuoteStyle) (c : Char) : List Char :=
  if c = '\x00' then ['\\', '0']
  else if c = '\t' then ['\\', 't']
  else if c = '\r' then ['\\', 'r']
  else if c = '\n' then ['\\', 'n']
  else if c = '\\' ∨ c = '"' ∨ (style.apostrophe ∧ c = '\x27') then ['\\', c]
  else if isVisible c then [c]
  else codePoint c

def quoteWith (style : QuoteStyle) (s : String) : String :=
  String.ofList ('"' :: s.toList.flatMap (escape style) ++ ['"'])

def quote (s : String) : String := quoteWith plain s

def quoteList (xs : List String) : String :=
  "[" ++ ", ".intercalate (xs.map quote) ++ "]"

def quoteOption : Option String → String
  | none => "None"
  | some s => "Some(" ++ quote s ++ ")"

end BundleWatch.Text
