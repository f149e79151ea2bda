import BundleWatch.Regex.Basic
import BundleWatch.Text.Blank

/-!
# Escapes in regular expressions

What a backslash and the characters after it stand for. A reader takes the characters after a
point and returns what it read with the characters that remain; it fails on anything else.
-/

set_option autoImplicit false

namespace BundleWatch.Regex

structure Flags where
  anyCase : Bool := false
  multiLine : Bool := false
  dotAll : Bool := false
  swapGreed : Bool := false
  unicode : Bool := true
  crlf : Bool := false
  ignoreSpace : Bool := false
deriving DecidableEq, Inhabited

def skipSpace : List Char → List Char
  | [] => []
  | c :: cs =>
    if Text.isBlank c then skipSpace cs
    else if c = '#' then skipComment cs
    else c :: cs
where
  skipComment : List Char → List Char
    | [] => []
    | c :: cs => if c = '\n' then skipSpace cs else skipComment cs

def Flags.skip (f : Flags) (cs : List Char) : List Char :=
  if f.ignoreSpace then skipSpace cs else cs

inductive Primitive
  | literal (c : Char) (byte : Bool)
  | members (s : CharSet)
  | look (l : Look)

def hexChar (cs : List Char) : Option Char :=
  let n := Unicode.hexNat cs
  if cs.isEmpty || !cs.all Unicode.isHexDigit then none
  else if n.isValidChar then some (Char.ofNat n)
  else none

def takeDigits (f : Flags) : Nat → List Char → Option (List Char × List Char)
  | 0, cs => some ([], cs)
  | n + 1, cs =>
    match f.skip cs with
    | [] => none
    | c :: cs => (takeDigits f n cs).map fun (ds, rest) => (c :: ds, rest)

def takeBraced (f : Flags) (cs : List Char) : Option (List Char × List Char) :=
  match cs.span (· ≠ '\x7d') with
  | (inner, _ :: rest) =>
    some (if f.ignoreSpace then inner.filter (!Text.isBlank ·) else inner, rest)
  | (_, []) => none

def hexEscape (f : Flags) (letter : Char) (cs : List Char) : Option (Primitive × List Char) :=
  match f.skip cs with
  | [] => none
  | c :: cs =>
    if c = '\x7b' then do
      let (ds, rest) ← takeBraced f cs
      return (.literal (← hexChar ds) false, rest)
    else do
      let n := if letter = 'x' then 2 else if letter = 'u' then 4 else 8
      let (ds, rest) ← takeDigits f n (c :: cs)
      return (.literal (← hexChar ds) (letter = 'x'), rest)

def cutAt (mark : List Char) : List Char → Option (List Char × List Char)
  | [] => none
  | c :: cs =>
    if mark.isPrefixOf (c :: cs) then some ([], (c :: cs).drop mark.length)
    else (cutAt mark cs).map fun (a, b) => (c :: a, b)

def propertyClass (name : List Char) : Option (CharSet × Bool) :=
  let byValue := fun (p : List Char × List Char) =>
    CharSet.ofNameValue (String.ofList p.1) (String.ofList p.2)
  match cutAt ['!', '='] name with
  | some p => (byValue p).map fun s => (s, true)
  | none =>
    match cutAt [':'] name with
    | some p => (byValue p).map fun s => (s, false)
    | none =>
      match cutAt ['='] name with
      | some p => (byValue p).map fun s => (s, false)
      | none => (CharSet.ofName (String.ofList name)).map fun s => (s, false)

def Flags.close (f : Flags) (negated : Bool) (s : CharSet) : CharSet :=
  let s := if f.anyCase then (if f.unicode then .anyCase s else .asciiCase s) else s
  if negated then .complement s else s

def unicodeEscape (f : Flags) (letter : Char) (cs : List Char) : Option (Primitive × List Char) :=
  if !f.unicode then none
  else
    let negated := letter = 'P'
    match f.skip cs with
    | [] => none
    | c :: cs =>
      if c = '\x7b' then do
        let (name, rest) ← takeBraced f cs
        let (s, differs) ← propertyClass name
        return (.members (f.close (negated != differs) s), rest)
      else if c = '\\' then none
      else do
        let s ← CharSet.ofName (String.singleton c)
        return (.members (f.close negated s), f.skip cs)

def perlClass (f : Flags) (letter : Char) : Option CharSet :=
  let s :=
    match letter.toLower with
    | 'd' => if f.unicode then CharSet.digit else .asciiDigit
    | 's' => if f.unicode then CharSet.space else .asciiSpace
    | _ => if f.unicode then CharSet.word else .asciiWord
  if letter.isUpper then (if f.unicode then some (.complement s) else none) else some s

def namedBoundary (u : Bool) : String → Option Look
  | "start" => some (.wordStart u)
  | "end" => some (.wordEnd u)
  | "start-half" => some (.wordStartHalf u)
  | "end-half" => some (.wordEndHalf u)
  | _ => none

def isBoundaryChar (c : Char) : Bool := c.isAlpha || c = '-'

def boundaryEscape (f : Flags) (cs : List Char) : Option (Look × List Char) :=
  match cs with
  | c :: inner =>
    if c = '\x7b' then
      match f.skip inner with
      | [] => none
      | d :: ds =>
        if isBoundaryChar d then do
          let (name, rest) ← takeBraced f (d :: ds)
          return (← namedBoundary f.unicode (String.ofList name), rest)
        else some (.boundary f.unicode, cs)
    else some (.boundary f.unicode, cs)
  | [] => some (.boundary f.unicode, cs)

def isPlainEscape (c : Char) : Bool :=
  c.toNat < 128 && !c.isAlphanum && c != '<' && c != '>'

def escape (f : Flags) : List Char → Option (Primitive × List Char)
  | [] => none
  | c :: cs =>
    let char := fun n => some (Primitive.literal (Char.ofNat n) false, cs)
    if c.isDigit then none
    else if c = 'x' ∨ c = 'u' ∨ c = 'U' then hexEscape f c cs
    else if c = 'p' ∨ c = 'P' then unicodeEscape f c cs
    else if "dswDSW".toList.contains c then (perlClass f c).map fun s => (.members s, cs)
    else if isPlainEscape c then some (.literal c false, cs)
    else
      match c with
      | 'a' => char 7
      | 'f' => char 12
      | 't' => char 9
      | 'n' => char 10
      | 'r' => char 13
      | 'v' => char 11
      | 'A' => some (.look .start, cs)
      | 'z' => some (.look .stop, cs)
      | 'b' => (boundaryEscape f cs).map fun (l, rest) => (.look l, rest)
      | 'B' => some (.look (.noBoundary f.unicode), cs)
      | '<' => some (.look (.wordStart f.unicode), cs)
      | '>' => some (.look (.wordEnd f.unicode), cs)
      | _ => none

end BundleWatch.Regex
