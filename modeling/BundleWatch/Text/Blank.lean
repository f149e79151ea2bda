import BundleWatch.Unicode.Property

/-!
# Blank characters

Blanks are the characters with the white-space property. Texts are trimmed and cut into words
at them.
-/

set_option autoImplicit false

namespace BundleWatch.Text

def isBlank (c : Char) : Bool := Unicode.whiteSpace.contains c.toNat

def trimStart (cs : List Char) : List Char := cs.dropWhile isBlank

def trimEnd (cs : List Char) : List Char := (cs.reverse.dropWhile isBlank).reverse

def trim (s : String) : String := String.ofList (trimEnd (trimStart s.toList))

private def wordsFrom : List Char → List Char → List (List Char)
  | w, [] => if w.isEmpty then [] else [w.reverse]
  | w, c :: cs =>
    if isBlank c then (if w.isEmpty then wordsFrom [] cs else w.reverse :: wordsFrom [] cs)
    else wordsFrom (c :: w) cs

def words (s : String) : List String := (wordsFrom [] s.toList).map String.ofList

end BundleWatch.Text
