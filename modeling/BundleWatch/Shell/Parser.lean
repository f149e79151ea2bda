import BundleWatch.Shell.Token

/-!
# Reading scripts

A script is a list of commands. Each reader takes what it knows from the front of the tokens and returns
the rest; the first argument bounds its steps.
-/

set_option autoImplicit false

namespace BundleWatch.Shell

def shown : List Token → String
  | [] => "end of file"
  | .operator "\n" :: _ => "newline"
  | .operator s :: _ => "\"" ++ s ++ "\""
  | .word (.plain s :: _) :: _ => "\"" ++ s ++ "\""
  | .word _ :: _ => "word"
  | .redirect _ _ :: _ => "redirection"

def unexpected {α : Type} (ts : List Token) : Except ScriptError α := .error (.unexpected (shown ts))

def keyword? : List Token → Option String
  | .word [.plain s] :: _ => some s
  | _ => none

def expectKeyword (s : String) (ts : List Token) : Except ScriptError (List Token) :=
  if keyword? ts = some s then .ok ts.tail else unexpected ts

def closers : List String := ["then", "else", "elif", "fi", "do", "done", "\x7d"]

def dropNewlines (ts : List Token) : List Token := ts.dropWhile (· = .operator "\n")

def endsList (ts : List Token) : Bool :=
  match ts, keyword? ts with
  | [], _ => true
  | .operator ")" :: _, _ => true
  | _, some s => closers.contains s
  | _, none => false

def assignment? : Word → Option (String × Word)
  | .plain s :: w =>
    let cs := s.toList
    let name := cs.takeWhile isNameChar
    match cs.drop name.length, name with
    | '=' :: value, c :: _ =>
      if c.isDigit then none
      else some (String.ofList name,
        if value.isEmpty then w else .plain (String.ofList value) :: w)
    | _, _ => none
  | _ => none

def readRedirections : List Token → Except ScriptError (List Redirection × List Token)
  | .redirect channel mode :: .word w :: ts => do
    let (rs, ts) ← readRedirections ts
    return (⟨channel, mode, w⟩ :: rs, ts)
  | .redirect _ _ :: ts => unexpected ts
  | ts => .ok ([], ts)

structure SimpleParts where
  assignments : List (String × Word) := []
  words : List Word := []
  redirections : List Redirection := []

def readSimple (s : SimpleParts) : List Token → Except ScriptError (SimpleParts × List Token)
  | .word w :: ts =>
    match s.words, assignment? w with
    | [], some a => readSimple { s with assignments := s.assignments ++ [a] } ts
    | _, _ => readSimple { s with words := s.words ++ [w] } ts
  | .redirect channel mode :: .word w :: ts =>
    readSimple { s with redirections := s.redirections ++ [⟨channel, mode, w⟩] } ts
  | .redirect _ _ :: ts => unexpected ts
  | ts => .ok (s, ts)

def readItems : List Token → List Word × List Token
  | .word w :: ts =>
    let (ws, ts) := readItems ts
    (w :: ws, ts)
  | ts => ([], ts)

def dropSeparator : List Token → List Token
  | .operator ";" :: ts => dropNewlines ts
  | ts => dropNewlines ts

abbrev Reader := List Token → Except ScriptError (Script × List Token)

def finishCompound (s : Script) : Reader := fun ts => do
  let (rs, ts) ← readRedirections ts
  return (if rs.isEmpty then s else .redirected s rs, ts)

def readSimpleCommand : Reader := fun ts => do
  let (s, rest) ← readSimple {} ts
  if s.assignments.isEmpty && s.words.isEmpty && s.redirections.isEmpty then unexpected ts
  return (.simple s.assignments s.words s.redirections, rest)

mutual

def readList : Nat → Reader
  | 0, ts => unexpected ts
  | n + 1, ts => do
    let ts := dropNewlines ts
    if endsList ts then return (.skip, ts)
    let (s, ts) ← readChain n ts
    match ts with
    | .operator "&" :: ts =>
      let (rest, ts) ← readList n ts
      return (.both (.background s) rest, ts)
    | .operator ";" :: ts | .operator "\n" :: ts =>
      let (rest, ts) ← readList n ts
      return (if rest = .skip then s else .both s rest, ts)
    | ts => return (s, ts)

def readChain : Nat → Reader
  | 0, ts => unexpected ts
  | n + 1, ts => do
    let (s, ts) ← readPipeline n ts
    readChainFrom n s ts

def readChainFrom : Nat → Script → Reader
  | 0, _, ts => unexpected ts
  | n + 1, s, ts => do
    match ts with
    | .operator "&&" :: ts =>
      let (t, ts) ← readPipeline n (dropNewlines ts)
      readChainFrom n (.andThen s t) ts
    | .operator "||" :: ts =>
      let (t, ts) ← readPipeline n (dropNewlines ts)
      readChainFrom n (.orElse s t) ts
    | ts => return (s, ts)

def readPipeline : Nat → Reader
  | 0, ts => unexpected ts
  | n + 1, ts => do
    if keyword? ts = some "!" then
      let (s, ts) ← readPipeline n ts.tail
      return (.negate s, ts)
    let (s, ts) ← readCommand n ts
    match ts with
    | .operator "|" :: ts =>
      let (t, ts) ← readPipes n (dropNewlines ts)
      return (.pipe s t, ts)
    | ts => return (s, ts)

def readPipes : Nat → Reader
  | 0, ts => unexpected ts
  | n + 1, ts => do
    let (s, ts) ← readCommand n ts
    match ts with
    | .operator "|" :: ts =>
      let (t, ts) ← readPipes n (dropNewlines ts)
      return (.pipe s t, ts)
    | ts => return (s, ts)

def readCommand : Nat → Reader
  | 0, ts => unexpected ts
  | n + 1, ts => do
    match ts with
    | .operator "(" :: inner =>
      let (s, rest) ← readList n inner
      match rest with
      | .operator ")" :: rest => finishCompound (.subshell s) rest
      | rest => unexpected rest
    | ts =>
      match keyword? ts with
      | some "\x7b" =>
        let (s, rest) ← readList n ts.tail
        finishCompound s (← expectKeyword "\x7d" rest)
      | some "if" =>
        let (s, rest) ← readChoice n ts.tail
        finishCompound s rest
      | some "while" => readLoop n false ts.tail
      | some "until" => readLoop n true ts.tail
      | some "for" => readEach n ts.tail
      | some s => if closers.contains s then unexpected ts else readSimpleCommand ts
      | none => readSimpleCommand ts

def readChoice : Nat → Reader
  | 0, ts => unexpected ts
  | n + 1, ts => do
    let (condition, ts) ← readList n ts
    let (yes, ts) ← readList n (← expectKeyword "then" ts)
    match keyword? ts with
    | some "elif" =>
      let (no, ts) ← readChoice n ts.tail
      return (.choose condition yes no, ts)
    | some "else" =>
      let (no, ts) ← readList n ts.tail
      return (.choose condition yes no, ← expectKeyword "fi" ts)
    | _ => return (.choose condition yes .skip, ← expectKeyword "fi" ts)

def readLoop : Nat → Bool → Reader
  | 0, _, ts => unexpected ts
  | n + 1, whileFails, ts => do
    let (condition, ts) ← readList n ts
    let (body, ts) ← readList n (← expectKeyword "do" ts)
    finishCompound (.loop whileFails condition body) (← expectKeyword "done" ts)

def readEach : Nat → Reader
  | 0, ts => unexpected ts
  | n + 1, ts => do
    match keyword? ts with
    | none => unexpected ts
    | some name =>
      let ts := ts.tail
      let (items, ts) := if keyword? (dropNewlines ts) = some "in" then readItems (dropNewlines ts).tail
        else ([[.variable "@" none true]], ts)
      let (body, ts) ← readList n (← expectKeyword "do" (dropSeparator ts))
      finishCompound (.each name items body) (← expectKeyword "done" ts)

end

def Script.parse (text : String) : Except ScriptError Script := do
  let ts ← tokens text
  let (s, rest) ← readList (8 * ts.length + 8) ts
  if rest.isEmpty then return s else unexpected rest

end BundleWatch.Shell
