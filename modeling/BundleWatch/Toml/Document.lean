import BundleWatch.Toml.Scalar
import BundleWatch.Toml.Table
import BundleWatch.Toml.Text

/-!
# TOML documents

A document is a sequence of lines. A line opens a table or adds a value to the table that is open.
-/

set_option autoImplicit false

namespace BundleWatch.Toml

def isKeyChar (c : Char) : Bool := c.isAlphanum || c = '_' || c = '-'

def keyPart? (cs : Input) : Option (String × Input) :=
  match cs with
  | '"' :: _ | '\x27' :: _ => lineText? cs
  | _ =>
    let (w, rest) := cs.span isKeyChar
    if w.isEmpty then none else some (String.ofList w, rest)

def key? : Nat → Input → Option (List String × Input)
  | 0, _ => none
  | n + 1, cs => do
    let (k, rest) ← keyPart? (skipSpaces cs)
    match skipSpaces rest with
    | '.' :: rest =>
      let (ks, rest) ← key? n rest
      return (k :: ks, rest)
    | rest => return ([k], rest)

def maxDepth : Nat := 80

mutual

/-- Reads a value. The second number is the depth that is left. -/
def value? : Nat → Nat → Input → Option (Value × Input)
  | 0, _, _ => none
  | n + 1, depth, cs =>
    match cs with
    | '"' :: _ | '\x27' :: _ => (text? cs).map fun (s, rest) => (.text s, rest)
    | '[' :: rest =>
      match depth with
      | 0 => none
      | d + 1 => items? n d [] rest
    | '\x7b' :: rest =>
      match depth with
      | 0 => none
      | d + 1 => members? n d [] rest
    | _ =>
      let (w, rest) := word cs
      (scalar? w).map fun v => (v, rest)

def items? : Nat → Nat → List Value → Input → Option (Value × Input)
  | 0, _, _, _ => none
  | n + 1, depth, out, cs =>
    match skipLines cs.length cs with
    | ']' :: rest => some (.array out.reverse, rest)
    | rest => do
      let (v, rest) ← value? n depth rest
      match skipLines rest.length rest with
      | ',' :: rest => items? n depth (v :: out) rest
      | ']' :: rest => return (.array (v :: out).reverse, rest)
      | _ => none

def members? : Nat → Nat → Entries → Input → Option (Value × Input)
  | 0, _, _, _ => none
  | n + 1, depth, es, cs =>
    match skipLines cs.length cs with
    | '\x7d' :: rest => some ((Node.table .header es).value, rest)
    | rest => do
      let (path, rest) ← key? (rest.length + 1) rest
      let '=' :: rest := rest | none
      let (v, rest) ← value? n depth (skipSpaces rest)
      let es ← es.insert path v .header
      match skipLines rest.length rest with
      | ',' :: rest => members? n depth es rest
      | '\x7d' :: rest => return ((Node.table .header es).value, rest)
      | _ => none

end

structure Draft where
  header : List String := []
  entries : Entries := []

def finishLine? (cs : Input) : Option Input := endOfLine? (skipComment (skipSpaces cs))

def Draft.readHeader? (d : Draft) (cs : Input) : Option (Draft × Input) := do
  match cs with
  | '[' :: cs =>
    let (path, rest) ← key? (cs.length + 1) cs
    let ']' :: ']' :: rest := rest | none
    return (⟨path, ← d.entries.openNext path⟩, ← finishLine? rest)
  | cs =>
    let (path, rest) ← key? (cs.length + 1) cs
    let ']' :: rest := rest | none
    return (⟨path, ← d.entries.openTable path⟩, ← finishLine? rest)

def Draft.readMember? (d : Draft) (cs : Input) : Option (Draft × Input) := do
  let (path, rest) ← key? (cs.length + 1) cs
  let '=' :: rest := rest | none
  let (v, rest) ← value? (2 * rest.length + 2) maxDepth (skipSpaces rest)
  return (⟨d.header, ← d.entries.insertUnder d.header path v⟩, ← finishLine? rest)

def Draft.read? : Nat → Draft → Input → Option Draft
  | 0, _, _ => none
  | n + 1, d, cs =>
    match skipLines (cs.length + 1) cs with
    | [] => some d
    | '[' :: rest => do
      let (d, rest) ← d.readHeader? rest
      read? n d rest
    | rest => do
      let (d, rest) ← d.readMember? rest
      read? n d rest

def parse? (source : String) : Option (List (String × Value)) :=
  let cs := match source.toList with
    | '\uFEFF' :: cs => cs
    | cs => cs
  (Draft.read? (cs.length + 1) {} cs).map fun d => Node.members d.entries

end BundleWatch.Toml
