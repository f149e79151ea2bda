/-!
# Sets of code points

A set of code points is a list of closed intervals, written in a table as hexadecimal text.
-/

set_option autoImplicit false

namespace BundleWatch.Unicode

def isHexDigit (c : Char) : Bool :=
  c.isDigit || ('a' ≤ c && c ≤ 'f') || ('A' ≤ c && c ≤ 'F')

def hexDigit (c : Char) : Nat :=
  if c.isDigit then c.toNat - 48
  else if 'a' ≤ c ∧ c ≤ 'f' then c.toNat - 87
  else c.toNat - 55

def hexNat (digits : List Char) : Nat := digits.foldl (fun n c => 16 * n + hexDigit c) 0

structure Ranges where
  intervals : List (Nat × Nat)
deriving Inhabited, DecidableEq

private def piecesFrom (gap : Char → Bool) : List Char → List Char → List (List Char)
  | w, [] => if w.isEmpty then [] else [w.reverse]
  | w, c :: cs =>
    if gap c then
      if w.isEmpty then piecesFrom gap [] cs else w.reverse :: piecesFrom gap [] cs
    else piecesFrom gap (c :: w) cs

def pieces (gap : Char → Bool) (cs : List Char) : List (List Char) := piecesFrom gap [] cs

def entries (s : String) : List (List Char) := pieces (fun c => c = ' ' || c = '\n') s.toList

namespace Ranges

def contains (r : Ranges) (n : Nat) : Bool :=
  r.intervals.any fun p => p.1 ≤ n && n ≤ p.2

private def interval (w : List Char) : Nat × Nat :=
  match pieces (· = '-') w with
  | [a] => (hexNat a, hexNat a)
  | a :: b :: _ => (hexNat a, hexNat b)
  | [] => (0, 0)

def ofText (s : String) : Ranges := ⟨(entries s).map interval⟩

end Ranges

end BundleWatch.Unicode
