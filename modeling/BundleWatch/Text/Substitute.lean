/-!
# Substitution of a fixed text

Every occurrence of a pattern is replaced, from left to right and without overlaps.
-/

set_option autoImplicit false

namespace BundleWatch.Text

/-- Copies the text, puts `value` where `pattern` begins, and skips `n` characters first. -/
def replaceFrom (pattern value : List Char) : Nat → List Char → List Char
  | _, [] => []
  | n + 1, _ :: cs => replaceFrom pattern value n cs
  | 0, c :: cs =>
    if pattern.isPrefixOf (c :: cs) then value ++ replaceFrom pattern value (pattern.length - 1) cs
    else c :: replaceFrom pattern value 0 cs

def replaceAll (pattern value text : String) : String :=
  if pattern.isEmpty then text
  else String.ofList (replaceFrom pattern.toList value.toList 0 text.toList)

def occursIn (part : List Char) : List Char → Bool
  | [] => part.isEmpty
  | c :: cs => part.isPrefixOf (c :: cs) || occursIn part cs

end BundleWatch.Text
