import BundleWatch.Glob.Shape

/-!
# Globs

`?` stands for one byte and `*` for any bytes, separators included. Two stars that fill a whole
component stand for any directories. Brackets hold a set and braces hold alternatives.

The reader keeps the branches that are open: the pieces read so far in this branch, its earlier
siblings, and the same for every pair of braces around it.

Braces nested hundreds deep are read like any others. A matcher that is built from a regular
expression aborts on those: such globs are outside what is described here.
-/

set_option autoImplicit false

namespace BundleWatch.Glob

inductive Piece
  | literal (c : Char)
  | anyByte
  | anyBytes
  /-- Any directories in front: nothing, one separator, or all up to a separator. -/
  | leadingDirs
  /-- A separator and all that follows. -/
  | trailingDirs
  /-- One separator, or all between two. -/
  | innerDirs
  | members (s : ByteSet)
  | group (s : Option Shape)
deriving DecidableEq, Inhabited

def slash : Shape := .byte (.singleton 0x2F)

def Piece.shape? : Piece → Option Shape
  | .literal c => some (.ofBytes (.ofText (toString c)))
  | .anyByte => some (.byte .all)
  | .anyBytes => some .anything
  | .leadingDirs => some (.alt (.alt .blank slash) (.seq .anything slash))
  | .trailingDirs => some (.seq slash .anything)
  | .innerDirs => some (.alt slash (.seq slash (.seq .anything slash)))
  | .members s => some (.byte s)
  | .group s => s

def branchShape? (ps : List Piece) : Option Shape :=
  match ps.filterMap Piece.shape? with
  | [] => none
  | ss => some (.concat ss)

def Piece.ofBranches (branches : List (List Piece)) : Piece :=
  match branches.filterMap branchShape? with
  | [] => .group none
  | s :: ss => .group (some (.oneOf s ss))

/-! ## Sets in brackets -/

/-- The intervals of bytes that an interval of characters covers: the bytes of its ends one by one,
with an interval between the last byte of the first and the first byte of the second. -/
def byteIntervals (p : Char × Char) : List (UInt8 × UInt8) :=
  let one := fun b : UInt8 => (b, b)
  let low := Bytes.ofText (toString p.1)
  let high := Bytes.ofText (toString p.2)
  if p.1 = p.2 then low.map one
  else
    match low.getLast?, high with
    | some a, b :: rest => low.dropLast.map one ++ (a, b) :: rest.map one
    | _, _ => []

def ByteSet.ofCharacters (negated : Bool) (ps : List (Char × Char)) : ByteSet :=
  ⟨negated, ps.flatMap byteIntervals⟩

def extendLast (c : Char) : List (Char × Char) → Option (List (Char × Char))
  | [] => none
  | p :: ps => if c < p.1 then none else some ((p.1, c) :: ps)

/-- Reads the intervals of a set, the last one first, up to the closing bracket. `first` holds
before the first character, `wide` after a hyphen that may make an interval. -/
def readMembers : (first wide : Bool) → List (Char × Char) → List Char →
    Option (List (Char × Char) × List Char)
  | _, _, _, [] => none
  | first, wide, ps, c :: cs =>
    if c = ']' ∧ !first then some (if wide then ('-', '-') :: ps else ps, cs)
    else if c = '-' ∧ !first ∧ !wide then readMembers false true ps cs
    else if wide then do readMembers false false (← extendLast c ps) cs
    else readMembers false false ((c, c) :: ps) cs

def readSet (cs : List Char) : Option (ByteSet × List Char) :=
  let (negated, cs) := match cs with
    | '!' :: rest => (true, rest)
    | '^' :: rest => (true, rest)
    | _ => (false, cs)
  (readMembers true false [] cs).map fun (ps, rest) => (.ofCharacters negated ps.reverse, rest)

/-! ## The reader -/

structure Branch where
  pieces : List Piece := []
  siblings : List (List Piece) := []
deriving Inhabited

structure Reader where
  branch : Branch := {}
  outer : List Branch := []
  previous : Option Char := none
  rest : List Char
deriving Inhabited

namespace Reader

def push (r : Reader) (p : Piece) : Reader :=
  { r with branch := { r.branch with pieces := p :: r.branch.pieces } }

def skip (r : Reader) (c : Char) (rest : List Char) : Reader :=
  { r with previous := some c, rest := rest }

def enter (r : Reader) : Reader := { r with branch := {}, outer := r.branch :: r.outer }

def nextSibling (r : Reader) : Reader :=
  { r with branch := ⟨[], r.branch.pieces :: r.branch.siblings⟩ }

def leave? (r : Reader) : Option Reader :=
  match r.outer with
  | [] => none
  | b :: outer =>
    let branches := (r.branch.pieces :: r.branch.siblings).reverse.map List.reverse
    some ({ r with branch := b, outer := outer }.push (.ofBranches branches))

def twoStars (r : Reader) : Reader := (r.push .anyBytes).push .anyBytes

def replaceLast (r : Reader) (p : Piece) : Reader :=
  match r.branch.pieces with
  | .leadingDirs :: _ => r
  | .trailingDirs :: _ => r
  | _ :: ps => { r with branch := { r.branch with pieces := p :: ps } }
  | [] => r

/-- Two stars behind the character `before`. They fill a component if a separator, or the edge of
the branch, stands on either side. -/
def doubleStar (r : Reader) (before : Option Char) : Reader :=
  let inside := !r.outer.isEmpty
  if r.branch.pieces.isEmpty then
    match r.rest with
    | [] => r.push .leadingDirs
    | '/' :: rest => (r.push .leadingDirs).skip '/' rest
    | _ => r.twoStars
  else if before ≠ some '/' ∧ !(inside ∧ (before = some ',' ∨ before = some '\x7b')) then
    r.twoStars
  else
    match r.rest with
    | [] => r.replaceLast .trailingDirs
    | '/' :: rest => (r.replaceLast .innerDirs).skip '/' rest
    | c :: _ =>
      if inside ∧ (c = ',' ∨ c = '\x7d') then r.replaceLast .trailingDirs else r.twoStars

def step (r : Reader) (c : Char) (rest : List Char) : Option Reader :=
  let next := r.skip c rest
  match c with
  | '?' => some (next.push .anyByte)
  | '*' =>
    match rest with
    | '*' :: rest => some ((next.skip '*' rest).doubleStar r.previous)
    | _ => some (next.push .anyBytes)
  | '[' => (readSet rest).map fun (s, rest) => (next.skip ']' rest).push (.members s)
  | '\x7b' => some next.enter
  | '\x7d' => next.leave?
  | ',' => some (if r.outer.isEmpty then next.push (.literal ',') else next.nextSibling)
  | '\\' =>
    match rest with
    | [] => none
    | c :: rest => some ((next.skip c rest).push (.literal c))
  | c => some (next.push (.literal c))

def run : Nat → Reader → Option Reader
  | 0, _ => none
  | n + 1, r =>
    match r.rest with
    | [] => some r
    | c :: cs => (r.step c cs).bind (run n)

end Reader

def pieces? (source : String) : Option (List Piece) := do
  let cs := source.toList
  let r ← Reader.run (cs.length + 1) { rest := cs }
  if r.outer.isEmpty then return r.branch.pieces.reverse else none

def Shape.ofPieces (ps : List Piece) : Shape :=
  if ps = [.leadingDirs] then .anything else (branchShape? ps).getD .blank

end BundleWatch.Glob

namespace BundleWatch

structure Glob where
  source : String
  shape : Glob.Shape

namespace Glob

def compile? (source : String) : Option Glob :=
  (pieces? source).map fun ps => ⟨source, .ofPieces ps⟩

def isMatch (g : Glob) (text : String) : Bool := g.shape.accepts (.ofText text)

end Glob

end BundleWatch
