import BundleWatch.Shell.Script

/-!
# Tokens of scripts

A script is cut into words, operators and redirections. Blanks stand between words, and a comment goes
from a number sign to the end of the line.
-/

set_option autoImplicit false

namespace BundleWatch.Shell

inductive Token
  | word (w : Word)
  | operator (s : String)
  | redirect (channel : Nat) (mode : RedirectMode)
deriving DecidableEq

def enclosed (opening closing : Char) : Nat → Option Char → List Char → Option (List Char × List Char)
  | _, _, [] => none
  | n, quote, '\\' :: c :: cs =>
    (enclosed opening closing n quote cs).map fun (text, rest) => ('\\' :: c :: text, rest)
  | n, some q, c :: cs =>
    (enclosed opening closing n (if c = q then none else some q) cs).map
      fun (text, rest) => (c :: text, rest)
  | n, none, c :: cs =>
    let more (n : Nat) (quote : Option Char) :=
      (enclosed opening closing n quote cs).map fun (text, rest) => (c :: text, rest)
    if c = closing then
      match n with
      | 0 => some ([], cs)
      | n + 1 => more n none
    else if c = opening then more (n + 1) none
    else if c = '"' ∨ c = '\x27' then more n (some c)
    else more n none

def nameOf (cs : List Char) : String × List Char :=
  match cs with
  | c :: rest =>
    if c.isDigit then (toString c, rest)
    else if isNameChar c then (String.ofList (cs.takeWhile isNameChar), cs.dropWhile isNameChar)
    else if "?$!#@*-".toList.contains c then (toString c, rest)
    else ("", cs)
  | [] => ("", [])

def braced? (cs : List Char) (isQuoted : Bool) : Option Fragment :=
  let (cs, size) := match cs with
    | '#' :: c :: rest => (c :: rest, true)
    | _ => (cs, false)
  let (name, rest) := nameOf cs
  let text (cs : List Char) := String.ofList cs
  let change : Option (Option Change) := match rest with
    | [] => some (if size then some .size else none)
    | ':' :: '-' :: more | ':' :: '=' :: more => some (some (.fallback true (text more)))
    | '-' :: more | '=' :: more => some (some (.fallback false (text more)))
    | ':' :: '+' :: more => some (some (.instead true (text more)))
    | '+' :: more => some (some (.instead false (text more)))
    | '#' :: '#' :: more => some (some (.cutStart true (text more)))
    | '#' :: more => some (some (.cutStart false (text more)))
    | '%' :: '%' :: more => some (some (.cutEnd true (text more)))
    | '%' :: more => some (some (.cutEnd false (text more)))
    | _ => none
  if name.isEmpty then none else change.map fun c => .variable name c isQuoted

def readDollar (isQuoted : Bool) (cs : List Char) : Except ScriptError (Fragment × List Char) :=
  match cs with
  | '(' :: inner =>
    match enclosed '(' ')' 0 none inner with
    | some (script, rest) =>
      if script.head? = some '(' && script.getLast? = some ')' then
        .ok (.arithmetic (String.ofList script.tail.dropLast), rest)
      else .ok (.output (String.ofList script) isQuoted, rest)
    | none => .error (.unterminated "command substitution")
  | '\x7b' :: inner =>
    match enclosed '\x7b' '\x7d' 0 none inner with
    | some (text, rest) =>
      match braced? text isQuoted with
      | some f => .ok (f, rest)
      | none => .error (.unexpected "Bad substitution")
    | none => .error (.unterminated "variable")
  | _ =>
    match nameOf cs with
    | ("", _) => .ok (.plain "$", cs)
    | (name, rest) => .ok (.variable name none isQuoted, rest)

def readBackquoted (isQuoted : Bool) (cs : List Char) : Except ScriptError (Fragment × List Char) :=
  match enclosed '\x60' '\x60' 0 none cs with
  | some (script, rest) => .ok (.output (String.ofList script) isQuoted, rest)
  | none => .error (.unterminated "quoted string")

def readQuoted : Nat → List Char → Except ScriptError (Word × List Char)
  | 0, _ | _ + 1, [] => .error (.unterminated "quoted string")
  | _ + 1, '"' :: cs => .ok ([.quoted ""], cs)
  | n + 1, '\\' :: c :: cs => do
    let shown := if c = '\n' then "" else if "$`\"\\".toList.contains c then toString c
      else String.ofList ['\\', c]
    let (w, rest) ← readQuoted n cs
    return (.quoted shown :: w, rest)
  | n + 1, '$' :: cs => do
    let (f, rest) ← readDollar true cs
    let f := match f with
      | .plain s => .quoted s
      | f => f
    let (w, rest) ← readQuoted n rest
    return (f :: w, rest)
  | n + 1, '\x60' :: cs => do
    let (f, rest) ← readBackquoted true cs
    let (w, rest) ← readQuoted n rest
    return (f :: w, rest)
  | n + 1, c :: cs => do
    let (w, rest) ← readQuoted n cs
    return (.quoted (toString c) :: w, rest)

def endsWord (c : Char) : Bool := " \t\n;&|()<>".toList.contains c

def readWord : Nat → List Char → Except ScriptError (Word × List Char)
  | 0, cs => .ok ([], cs)
  | _ + 1, [] => .ok ([], [])
  | n + 1, '\\' :: '\n' :: cs => readWord n cs
  | n + 1, '\\' :: c :: cs => do
    let (w, rest) ← readWord n cs
    return (.quoted (toString c) :: w, rest)
  | n + 1, '"' :: cs => do
    let (inner, rest) ← readQuoted n cs
    let (w, rest) ← readWord n rest
    return (inner ++ w, rest)
  | n + 1, '$' :: cs => do
    let (f, rest) ← readDollar false cs
    let (w, rest) ← readWord n rest
    return (f :: w, rest)
  | n + 1, '\x60' :: cs => do
    let (f, rest) ← readBackquoted false cs
    let (w, rest) ← readWord n rest
    return (f :: w, rest)
  | n + 1, c :: cs =>
    if c = '\x27' then
      let text := cs.takeWhile (· ≠ '\x27')
      match cs.drop text.length with
      | [] => .error (.unterminated "quoted string")
      | _ :: rest => do
        let (w, rest) ← readWord n rest
        return (.quoted (String.ofList text) :: w, rest)
    else if endsWord c then .ok ([], c :: cs)
    else do
      let (w, rest) ← readWord n cs
      return (.plain (toString c) :: w, rest)

def tidy : Word → Word
  | [] => []
  | f :: w =>
    match f, tidy w with
    | .plain s, .plain t :: rest => .plain (s ++ t) :: rest
    | .quoted s, .quoted t :: rest => .quoted (s ++ t) :: rest
    | f, rest => f :: rest

def operator? : List Char → Option (String × List Char)
  | '&' :: '&' :: cs => some ("&&", cs)
  | '|' :: '|' :: cs => some ("||", cs)
  | ';' :: ';' :: cs => some (";;", cs)
  | '&' :: cs => some ("&", cs)
  | '|' :: cs => some ("|", cs)
  | ';' :: cs => some (";", cs)
  | '(' :: cs => some ("(", cs)
  | ')' :: cs => some (")", cs)
  | '\n' :: cs => some ("\n", cs)
  | _ => none

def redirect? : List Char → Option (Token × List Char)
  | '>' :: '>' :: cs => some (.redirect 1 .append, cs)
  | '>' :: '&' :: cs => some (.redirect 1 .duplicate, cs)
  | '>' :: '|' :: cs => some (.redirect 1 .write, cs)
  | '>' :: cs => some (.redirect 1 .write, cs)
  | '<' :: '&' :: cs => some (.redirect 0 .duplicate, cs)
  | '<' :: cs => some (.redirect 0 .read, cs)
  | _ => none

def numberedRedirect? : List Char → Option (Token × List Char)
  | d :: cs =>
    match redirect? cs with
    | some (.redirect _ mode, rest) =>
      if d.isDigit then some (.redirect (d.toNat - '0'.toNat) mode, rest) else none
    | _ => none
  | [] => none

def readTokens : Nat → List Char → Except ScriptError (List Token)
  | 0, _ | _ + 1, [] => .ok []
  | n + 1, '\\' :: '\n' :: cs => readTokens n cs
  | n + 1, c :: cs =>
    if c = ' ' ∨ c = '\t' then readTokens n cs
    else if c = '#' then readTokens n (cs.dropWhile (· ≠ '\n'))
    else
      match operator? (c :: cs), (numberedRedirect? (c :: cs)).orElse fun _ => redirect? (c :: cs) with
      | some (op, rest), _ => do return .operator op :: (← readTokens n rest)
      | none, some (t, rest) => do return t :: (← readTokens n rest)
      | none, none => do
        let (w, rest) ← readWord (n + 1) (c :: cs)
        return .word (tidy w) :: (← readTokens n rest)

def tokens (text : String) : Except ScriptError (List Token) :=
  readTokens (text.length + 1) text.toList

end BundleWatch.Shell
