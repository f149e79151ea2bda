import BundleWatch.Regex.CharSet

/-!
# Regular expressions

Expressions over characters, positions and groups, with the two facts about the lengths of their
matches on which the compilation of a repetition rests.
-/

set_option autoImplicit false

namespace BundleWatch

namespace Regex

inductive Look
  | start
  | stop
  | lineStart
  | lineEnd
  | lineStartCrlf
  | lineEndCrlf
  | boundary (unicode : Bool)
  | noBoundary (unicode : Bool)
  | wordStart (unicode : Bool)
  | wordEnd (unicode : Bool)
  | wordStartHalf (unicode : Bool)
  | wordEndHalf (unicode : Bool)
deriving DecidableEq, Inhabited

def isWord (unicode : Bool) : Option Char → Bool
  | none => false
  | some c => (if unicode then CharSet.word else CharSet.asciiWord).contains c.toNat

def Look.holds (before after : Option Char) : Look → Bool
  | .start => before.isNone
  | .stop => after.isNone
  | .lineStart => before.isNone || before = some '\n'
  | .lineEnd => after.isNone || after = some '\n'
  | .lineStartCrlf =>
    before.isNone || before = some '\n' || (before = some '\r' && after != some '\n')
  | .lineEndCrlf =>
    after.isNone || after = some '\r' || (after = some '\n' && before != some '\r')
  | .boundary u => isWord u before != isWord u after
  | .noBoundary u => isWord u before == isWord u after
  | .wordStart u => !isWord u before && isWord u after
  | .wordEnd u => isWord u before && !isWord u after
  | .wordStartHalf u => !isWord u before
  | .wordEndHalf u => !isWord u after

end Regex

inductive Regex
  | empty
  | set (s : Regex.CharSet)
  | look (l : Regex.Look)
  | seq (a b : Regex)
  | alt (a b : Regex)
  | group (index : Nat) (r : Regex)
  | repeated (least : Nat) (most : Option Nat) (greedy : Bool) (r : Regex)
deriving Inhabited

namespace Regex

def concat : List Regex → Regex
  | [] => .empty
  | [r] => r
  | r :: rs => .seq r (concat rs)

def oneOf : List Regex → Regex
  | [] => .empty
  | [r] => r
  | r :: rs => .alt r (oneOf rs)

def consumes : Regex → Bool
  | .set _ => true
  | .empty | .look _ => false
  | .seq a b => a.consumes || b.consumes
  | .alt a b => a.consumes && b.consumes
  | .group _ r => r.consumes
  | .repeated n _ _ r => 0 < n && r.consumes

def neverConsumes : Regex → Bool
  | .set _ => false
  | .empty | .look _ => true
  | .seq a b => a.neverConsumes && b.neverConsumes
  | .alt a b => a.neverConsumes && b.neverConsumes
  | .group _ r => r.neverConsumes
  | .repeated _ most _ r => most = some 0 || r.neverConsumes

/-- A repetition. What takes no character is repeated at most once, and what is repeated no time
leaves no group behind. -/
def times (r : Regex) (least : Nat) (most : Option Nat) (greedy : Bool) : Regex :=
  let (least, most) :=
    if r.neverConsumes then (min least 1, some (min (most.getD 1) 1)) else (least, most)
  if most = some 0 then .empty
  else if least = 1 ∧ most = some 1 then r
  else .repeated least most greedy r

def lastGroup : Regex → Nat
  | .empty | .set _ | .look _ => 0
  | .seq a b => max a.lastGroup b.lastGroup
  | .alt a b => max a.lastGroup b.lastGroup
  | .group i r => max i r.lastGroup
  | .repeated _ _ _ r => r.lastGroup

end Regex

end BundleWatch
