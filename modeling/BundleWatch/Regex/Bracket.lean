import BundleWatch.Regex.Escape

/-!
# Bracketed classes

Classes in brackets: characters, ranges, named classes and nested brackets, joined by the
operators `&&`, `--` and `~~`, which bind alike and to the left. A class also reports how deeply
it nests.
-/

set_option autoImplicit false

namespace BundleWatch.Regex

structure Bracket where
  set : CharSet
  depth : Nat

inductive SetOp
  | inter
  | diff
  | symmDiff

def SetOp.apply : SetOp → CharSet → CharSet → CharSet
  | .inter => .inter
  | .diff => .diff
  | .symmDiff => .symmDiff

def Bracket.ofItems (items : List Bracket) : Bracket :=
  match items with
  | [] => ⟨.empty, 0⟩
  | [b] => b
  | bs => ⟨.unions (bs.map (·.set)), 1 + (bs.map (·.depth)).foldl max 0⟩

/-- Joins what stands left of an operator with the operand read after it. Both sides are closed
under case first. -/
def Bracket.combine (f : Flags) (left : Option (Bracket × SetOp)) (right : Bracket) : Bracket :=
  match left with
  | none => right
  | some (l, op) => ⟨op.apply (f.close false l.set) (f.close false right.set), 1 + max l.depth right.depth⟩

def classCode (f : Flags) (c : Char) (byte : Bool) : Option Nat :=
  if f.unicode || byte || c.toNat < 128 then some c.toNat else none

def namedClass (f : Flags) (cs : List Char) : Option (CharSet × List Char) := do
  let ':' :: cs := cs | none
  let (negated, cs) := match cs with
    | '^' :: rest => (true, rest)
    | _ => (false, cs)
  let (name, ':' :: ']' :: rest) := cs.span (· ≠ ':') | none
  let s ← CharSet.namedAscii (String.ofList name)
  return (f.close negated s, rest)

def classItem (f : Flags) : List Char → Option (Primitive × List Char)
  | [] => none
  | c :: cs => if c = '\\' then escape f cs else some (.literal c false, cs)

def Primitive.code (f : Flags) : Primitive → Option Nat
  | .literal c byte => classCode f c byte
  | _ => none

def Primitive.set (f : Flags) : Primitive → Option CharSet
  | .literal c byte => (classCode f c byte).map fun n => .range n n
  | .members s => some s
  | .look _ => none

def classRange (f : Flags) (cs : List Char) : Option (CharSet × List Char) := do
  let (p, rest) ← classItem f cs
  let rest := f.skip rest
  match rest with
  | [] => none
  | '-' :: after =>
    match f.skip after with
    | [] => none
    | c :: more =>
      if c = ']' ∨ c = '-' then return (← p.set f, rest)
      else
        let (q, rest) ← classItem f (c :: more)
        let a ← p.code f
        let b ← q.code f
        if a ≤ b then return (.range a b, rest) else none
  | _ => return (← p.set f, rest)

def leadingHyphens (f : Flags) : Nat → List Bracket → List Char → Option (List Bracket × List Char)
  | 0, items, cs => some (items, cs)
  | n + 1, items, cs =>
    match cs with
    | [] => none
    | '-' :: rest => leadingHyphens f n (⟨.singleton '-', 0⟩ :: items) (f.skip rest)
    | _ => some (items, cs)

def openBracket (f : Flags) (cs : List Char) : Option (Bool × List Bracket × List Char) := do
  let cs := f.skip cs
  let (negated, cs) := match cs with
    | '^' :: rest => (true, f.skip rest)
    | _ => (false, cs)
  let (items, cs) ← leadingHyphens f cs.length [] cs
  match items, cs with
  | _, [] => none
  | [], ']' :: rest =>
    let rest := f.skip rest
    if rest.isEmpty then none else return (negated, [⟨.singleton ']', 0⟩], rest)
  | items, cs => return (negated, items, cs)

def classBody (f : Flags) :
    Nat → Bool → Option (Bracket × SetOp) → List Bracket → List Char → Option (Bracket × List Char)
  | 0, _, _, _, _ => none
  | n + 1, negated, left, items, cs =>
    let operator := fun (op : SetOp) (rest : List Char) =>
      classBody f n negated (some (Bracket.combine f left (.ofItems items), op)) [] rest
    match f.skip cs with
    | [] => none
    | '[' :: rest =>
      match namedClass f rest with
      | some (s, rest) => classBody f n negated left (⟨s, 0⟩ :: items) rest
      | none => do
        let (inverse, first, rest) ← openBracket f rest
        let (inner, rest) ← classBody f n inverse none first rest
        classBody f n negated left (inner :: items) rest
    | ']' :: rest =>
      let b := Bracket.combine f left (.ofItems items)
      some (⟨f.close negated b.set, b.depth + 1⟩, rest)
    | '&' :: '&' :: rest => operator .inter rest
    | '-' :: '-' :: rest => operator .diff rest
    | '~' :: '~' :: rest => operator .symmDiff rest
    | cs => do
      let (s, rest) ← classRange f cs
      classBody f n negated left (⟨s, 0⟩ :: items) rest

def bracket (f : Flags) (cs : List Char) : Option (Bracket × List Char) := do
  let (negated, items, rest) ← openBracket f cs
  let (b, rest) ← classBody f (2 * cs.length + 2) negated none items rest
  if f.unicode || b.set.isAscii then return (b, rest) else none

end BundleWatch.Regex
