import BundleWatch.Unicode.Category
import BundleWatch.Unicode.Folding
import BundleWatch.Unicode.Property
import BundleWatch.Unicode.Script

/-!
# Sets of characters

A set of characters as an expression writes it: intervals under the operations of sets and the
closure under case.
-/

set_option autoImplicit false

namespace BundleWatch.Regex

inductive CharSet
  | intervals (r : Unicode.Ranges)
  | union (a b : CharSet)
  | inter (a b : CharSet)
  | diff (a b : CharSet)
  | symmDiff (a b : CharSet)
  | complement (a : CharSet)
  | anyCase (a : CharSet)
  | asciiCase (a : CharSet)
deriving Inhabited

namespace CharSet

def asciiVariants (n : Nat) : List Nat :=
  if 65 ≤ n ∧ n ≤ 90 then [n, n + 32]
  else if 97 ≤ n ∧ n ≤ 122 then [n - 32, n]
  else [n]

def contains : CharSet → Nat → Bool
  | .intervals r, n => r.contains n
  | .union a b, n => a.contains n || b.contains n
  | .inter a b, n => a.contains n && b.contains n
  | .diff a b, n => a.contains n && !b.contains n
  | .symmDiff a b, n => a.contains n != b.contains n
  | .complement a, n => !a.contains n
  | .anyCase a, n => (Unicode.caseVariants n).any a.contains
  | .asciiCase a, n => (asciiVariants n).any a.contains

def empty : CharSet := .intervals ⟨[]⟩

def range (a b : Nat) : CharSet := .intervals ⟨[(a, b)]⟩

def singleton (c : Char) : CharSet := range c.toNat c.toNat

def everything : CharSet := range 0 0x10FFFF

def unions (ss : List CharSet) : CharSet := ss.foldr .union empty

def isAscii (s : CharSet) : Bool := (List.range 128).all fun i => !s.contains (128 + i)

def ofCategories (ks : List Unicode.Category) : CharSet :=
  .intervals ⟨ks.flatMap fun k => k.ranges.intervals⟩

def digit : CharSet := ofCategories [.decimalNumber]

def space : CharSet := .intervals Unicode.whiteSpace

def word : CharSet :=
  .intervals ⟨Unicode.alphabetic.intervals ++ Unicode.joinControl.intervals ++
    [Unicode.Category.nonspacingMark, .spacingMark, .enclosingMark, .decimalNumber,
      .connectorPunctuation].flatMap fun k => k.ranges.intervals⟩

def asciiDigit : CharSet := range 48 57
def asciiSpace : CharSet := .intervals ⟨[(9, 13), (32, 32)]⟩
def asciiWord : CharSet := .intervals ⟨[(48, 57), (65, 90), (95, 95), (97, 122)]⟩

def namedAscii : String → Option CharSet
  | "alnum" => some (.intervals ⟨[(48, 57), (65, 90), (97, 122)]⟩)
  | "alpha" => some (.intervals ⟨[(65, 90), (97, 122)]⟩)
  | "ascii" => some (range 0 127)
  | "blank" => some (.intervals ⟨[(9, 9), (32, 32)]⟩)
  | "cntrl" => some (.intervals ⟨[(0, 31), (127, 127)]⟩)
  | "digit" => some asciiDigit
  | "graph" => some (range 33 126)
  | "lower" => some (range 97 122)
  | "print" => some (range 32 126)
  | "punct" => some (.intervals ⟨[(33, 47), (58, 64), (91, 96), (123, 126)]⟩)
  | "space" => some asciiSpace
  | "upper" => some (range 65 90)
  | "word" => some asciiWord
  | "xdigit" => some (.intervals ⟨[(48, 57), (65, 70), (97, 102)]⟩)
  | _ => none

/-! ## Sets named by a Unicode property -/

def looseName (s : String) : String :=
  let fold := fun cs : List Char =>
    (cs.filter fun c => c.toNat < 128 && c != ' ' && c != '_' && c != '-').map Char.toLower
  match s.toList with
  | i :: t :: cs =>
    if (i = 'i' ∨ i = 'I') ∧ (t = 's' ∨ t = 'S') then
      if fold cs = ['c'] then "isc" else String.ofList (fold cs)
    else String.ofList (fold (i :: t :: cs))
  | cs => String.ofList (fold cs)

def ofCategoryName (name : String) : Option CharSet :=
  if name = "any" then some everything
  else if name = "ascii" then some (range 0 127)
  else if name = "assigned" then some (.complement (ofCategories [.unassigned]))
  else
    match Unicode.Category.all.find? (·.names.contains name) with
    | some k => some (ofCategories [k])
    | none => (Unicode.Category.unions.find? (·.1.contains name)).map fun u => ofCategories u.2

def ofScriptName (name : String) : Option CharSet :=
  (Unicode.scripts.find? (·.names.contains name)).map fun s => .intervals s.ranges

def ofPropertyName (name : String) : Option CharSet :=
  (Unicode.properties.find? (·.names.contains name)).map fun p => .intervals (p.ranges ())

def ofName (s : String) : Option CharSet :=
  let name := looseName s
  (ofPropertyName name).orElse fun _ => (ofCategoryName name).orElse fun _ => ofScriptName name

def ofNameValue (property value : String) : Option CharSet :=
  match looseName property with
  | "gc" | "generalcategory" => ofCategoryName (looseName value)
  | "sc" | "script" | "scx" | "scriptextensions" => ofScriptName (looseName value)
  | _ => none

end CharSet

end BundleWatch.Regex
