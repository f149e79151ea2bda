import BundleWatch.Toml.Value
import BundleWatch.Unicode.Ranges

/-!
# TOML texts

Texts stand between quotes. Those between double quotes know escapes; those between three quotes
go over several lines.
-/

set_option autoImplicit false

namespace BundleWatch.Toml

structure TextStyle where
  mark : Char
  escapes : Bool
  multiline : Bool

def coded? (n : Nat) (cs : Input) : Option (Char × Input) :=
  let ds := cs.take n
  let code := Unicode.hexNat ds
  if ds.length = n ∧ ds.all Unicode.isHexDigit ∧ code.isValidChar then
    some (Char.ofNat code, cs.drop n)
  else none

def escaped? : Input → Option (Char × Input)
  | 'b' :: cs => some ('\x08', cs)
  | 't' :: cs => some ('\t', cs)
  | 'n' :: cs => some ('\n', cs)
  | 'f' :: cs => some ('\x0c', cs)
  | 'r' :: cs => some ('\r', cs)
  | 'e' :: cs => some ('\x1b', cs)
  | '"' :: cs => some ('"', cs)
  | '\\' :: cs => some ('\\', cs)
  | 'x' :: cs => coded? 2 cs
  | 'u' :: cs => coded? 4 cs
  | 'U' :: cs => coded? 8 cs
  | _ => none

def joinedLines? (cs : Input) : Option Input :=
  let isGap := fun c : Char => isSpace c || c = '\n' || c = '\r'
  match skipSpaces cs with
  | '\n' :: rest => some (rest.dropWhile isGap)
  | '\r' :: '\n' :: rest => some (rest.dropWhile isGap)
  | _ => none

/-- The closing quotes of a text over several lines. Up to two quotes before them belong to the
text. -/
def closing? (mark : Char) (cs : Input) : Option (List Char × Input) :=
  let n := (cs.takeWhile (· = mark)).length
  if n < 3 then none
  else
    let inner := min (n - 3) 2
    some (List.replicate inner mark, cs.drop (inner + 3))

def readText (style : TextStyle) : Nat → List Char → Input → Option (String × Input)
  | 0, _, _ => none
  | n + 1, out, cs =>
    match (if style.multiline then closing? style.mark cs else none) with
    | some (more, rest) => some (String.ofList (out.reverse ++ more), rest)
    | none =>
      match cs with
      | [] => none
      | c :: rest =>
        if c = style.mark ∧ !style.multiline then some (String.ofList out.reverse, rest)
        else if c = '\\' ∧ style.escapes then
          match (if style.multiline then joinedLines? rest else none) with
          | some rest => readText style n out rest
          | none => do
            let (c, rest) ← escaped? rest
            readText style n (c :: out) rest
        else if isPrintable c then readText style n (c :: out) rest
        else if style.multiline ∧ c = '\n' then readText style n (c :: out) rest
        else if style.multiline ∧ c = '\r' ∧ rest.head? = some '\n' then
          readText style n (c :: out) rest
        else none

def skipFirstLine : Input → Input
  | '\n' :: cs => cs
  | '\r' :: '\n' :: cs => cs
  | cs => cs

def lineText? (cs : Input) : Option (String × Input) :=
  match cs with
  | '"' :: rest => readText ⟨'"', true, false⟩ (cs.length + 1) [] rest
  | '\x27' :: rest => readText ⟨'\x27', false, false⟩ (cs.length + 1) [] rest
  | _ => none

def text? (cs : Input) : Option (String × Input) :=
  match cs with
  | '"' :: '"' :: '"' :: rest =>
    readText ⟨'"', true, true⟩ (cs.length + 1) [] (skipFirstLine rest)
  | '\x27' :: '\x27' :: '\x27' :: rest =>
    readText ⟨'\x27', false, true⟩ (cs.length + 1) [] (skipFirstLine rest)
  | _ => lineText? cs

end BundleWatch.Toml
