import BundleWatch.Shell.Script
import BundleWatch.Tool.Basic

/-!
# Expansion

A word becomes a row of pieces. Gaps cut it into fields, and a field with signs that stand for other
characters becomes the names that match it, if there are any.
-/

set_option autoImplicit false

namespace BundleWatch.Shell

abbrev Sign := Char × Bool

inductive Piece
  | sign (c : Sign)
  | gap
  | present
deriving DecidableEq

/-! ## Matching -/

def bracket? (ps : List Sign) : Option (Bool × List Char × List Sign) :=
  let (out, ps) := match ps with
    | ('!', true) :: rest => (true, rest)
    | _ => (false, ps)
  let (first, rest) := (ps.take 1, ps.drop 1)
  let items := rest.takeWhile (· ≠ (']', true))
  if items.length = rest.length then none
  else some (out, (first ++ items).map (·.1), rest.drop (items.length + 1))

def inItems (c : Char) : List Char → Bool
  | a :: '-' :: b :: rest => (a ≤ c && c ≤ b) || inItems c rest
  | a :: rest => a = c || inItems c rest
  | [] => false

def standsFor : Nat → List Sign → List Char → Bool
  | 0, _, _ => false
  | _ + 1, [], cs => cs.isEmpty
  | n + 1, ('*', true) :: ps, cs =>
    standsFor n ps cs ||
      match cs with
      | [] => false
      | _ :: rest => standsFor n (('*', true) :: ps) rest
  | n + 1, ('?', true) :: ps, _ :: cs => standsFor n ps cs
  | n + 1, ('[', true) :: ps, c :: cs =>
    match bracket? ps with
    | some (out, items, rest) => (inItems c items != out) && standsFor n rest cs
    | none => c = '[' && standsFor n ps cs
  | n + 1, (p, _) :: ps, c :: cs => p = c && standsFor n ps cs
  | _ + 1, _ :: _, [] => false

def matchesText (ps : List Sign) (s : String) : Bool :=
  standsFor (ps.length + s.length + 1) ps s.toList

def isActive (p : Sign) : Bool := p.2 && (p.1 = '*' || p.1 = '?' || p.1 = '[')

def bare (s : String) : List Sign := s.toList.map fun c => (c, true)

def textOf (ps : List Sign) : String := String.ofList (ps.map (·.1))

/-! ## Names that match -/

def splitPath : List Sign → List (List Sign)
  | [] => [[]]
  | p :: ps =>
    match splitPath ps with
    | [] => [[p]]
    | s :: ss => if p.1 = '/' then [] :: s :: ss else (p :: s) :: ss

def namesMatching (d : Disk) (dir : String) (ps : List Sign) : List String :=
  let names := match d.stat ⟨if dir.isEmpty then "." else dir⟩ with
    | .ok (l, .dir) => d.childNames l
    | _ => []
  let shown := names.filter fun n =>
    matchesText ps n && (!n.startsWith "." || (ps.head?.map (·.1)) = some '.')
  shown.mergeSort fun a b => decide (a ≤ b)

def pathsMatching (d : Disk) : String → List (List Sign) → List String
  | start, [] => [start]
  | start, [ps] =>
    if ps.any isActive then (namesMatching d start ps).map (start ++ ·)
    else if d.isThere ⟨start ++ textOf ps⟩ then [start ++ textOf ps] else []
  | start, ps :: rest =>
    if ps.any isActive then
      (namesMatching d start ps).flatMap fun n => pathsMatching d (start ++ n ++ "/") rest
    else pathsMatching d (start ++ textOf ps ++ "/") rest

def fieldTexts (d : Disk) (ps : List Sign) : List String :=
  if ps.any isActive then
    match pathsMatching d "" (splitPath ps) with
    | [] => [textOf ps]
    | names => names
  else [textOf ps]

/-! ## Fields -/

def fieldsFrom : Option (List Sign) → List Piece → List (List Sign)
  | f, [] => (f.map List.reverse).toList
  | f, .gap :: ps => (f.map List.reverse).toList ++ fieldsFrom none ps
  | f, .present :: ps => fieldsFrom (some (f.getD [])) ps
  | f, .sign c :: ps => fieldsFrom (some (c :: f.getD [])) ps

def fields (ps : List Piece) : List (List Sign) := fieldsFrom none ps

def wholeText (ps : List Piece) : String :=
  textOf (ps.filterMap fun
    | .sign c => some c
    | .gap => some (' ', false)
    | .present => none)

def valuePieces (s : String) (isQuoted : Bool) : List Piece :=
  if isQuoted then .present :: s.toList.map fun c => .sign (c, false)
  else s.toList.map fun c => if c = ' ' ∨ c = '\t' ∨ c = '\n' then .gap else .sign (c, true)

def cutWhere (p : List Char → List Char → Bool) (cs : List Char) (longestStart : Bool) :
    Option (List Char × List Char) :=
  let cuts := (List.range (cs.length + 1)).map fun i => (cs.take i, cs.drop i)
  (if longestStart then cuts.reverse else cuts).find? fun c => p c.1 c.2

def Change.apply (c : Change) (value : Option String) : String :=
  let s := value.getD ""
  let given (empty : Bool) : Bool := value.isSome && !(empty && s.isEmpty)
  match c with
  | .fallback empty text => if given empty then s else text
  | .instead empty text => if given empty then text else ""
  | .size => toString s.length
  | .cutStart longest p =>
    match cutWhere (fun a _ => matchesText (bare p) (String.ofList a)) s.toList longest with
    | some (_, b) => String.ofList b
    | none => s
  | .cutEnd longest p =>
    match cutWhere (fun _ b => matchesText (bare p) (String.ofList b)) s.toList !longest with
    | some (a, _) => String.ofList a
    | none => s

end BundleWatch.Shell
