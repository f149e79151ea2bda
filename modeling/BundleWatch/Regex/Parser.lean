import BundleWatch.Regex.Bracket

/-!
# Reading regular expressions

The reader goes once through the text and keeps the groups that are open on a stack. It fails on
anything that is no expression, on expressions that nest too deeply, and on those whose automaton
would grow too large.
-/

set_option autoImplicit false

namespace BundleWatch.Regex

inductive Item
  | term (r : Regex) (depth : Nat)
  | flags

structure Term where
  regex : Regex
  depth : Nat

def Item.depth : Item → Nat
  | .term _ d => d
  | .flags => 0

def Item.regex? : Item → Option Regex
  | .term r _ => some r
  | .flags => none

def Term.ofItems (items : List Item) : Term :=
  let depth := (items.map Item.depth).foldl max 0
  ⟨concat (items.reverse.filterMap Item.regex?), if items.length ≤ 1 then depth else depth + 1⟩

def Term.ofBranches (branches : List Term) : Term :=
  let depth := (branches.map (·.depth)).foldl max 0
  ⟨oneOf (branches.reverse.map (·.regex)), if branches.length ≤ 1 then depth else depth + 1⟩

structure OpenGroup where
  items : List Item
  branches : List Term
  flags : Flags
  index : Option Nat

structure State where
  rest : List Char
  flags : Flags := {}
  items : List Item := []
  branches : List Term := []
  stack : List OpenGroup := []
  groups : Nat := 0
  names : List String := []

def State.add (s : State) (r : Regex) (depth : Nat) (rest : List Char) : State :=
  { s with items := .term r depth :: s.items, rest := rest }

def State.current (s : State) : Term := .ofBranches (.ofItems s.items :: s.branches)

/-! ## Groups and flags -/

private def setFlag (f : Flags) (on : Bool) : Char → Option Flags
  | 'i' => some { f with anyCase := on }
  | 'm' => some { f with multiLine := on }
  | 's' => some { f with dotAll := on }
  | 'U' => some { f with swapGreed := on }
  | 'u' => some { f with unicode := on }
  | 'R' => some { f with crlf := on }
  | 'x' => some { f with ignoreSpace := on }
  | _ => none

def readFlags : Flags → List Char → List Char → Option (Flags × Nat × List Char)
  | _, _, [] => none
  | f, seen, c :: cs =>
    if c = ':' ∨ c = ')' then
      if seen.head? = some '-' then none else some (f, seen.length, c :: cs)
    else if seen.contains c then none
    else if c = '-' then readFlags f ('-' :: seen) cs
    else do
      let f ← setFlag f (!seen.contains '-') c
      readFlags f (c :: seen) cs

def isNameStart (c : Char) : Bool := c = '_' || Unicode.alphabetic.contains c.toNat

def isNameChar (c : Char) : Bool :=
  isNameStart c || c = '.' || c = '[' || c = ']' ||
  [Unicode.Category.decimalNumber, .letterNumber, .otherNumber].any (·.contains c)

def groupName (cs : List Char) : Option (String × List Char) := do
  let (name, '>' :: rest) := cs.span (· ≠ '>') | none
  match name with
  | [] => none
  | c :: more => if isNameStart c && more.all isNameChar then return (String.ofList name, rest) else none

def State.enter (s : State) (index : Option Nat) (flags : Flags) (rest : List Char) : State :=
  { s with
      rest := rest
      flags := flags
      items := []
      branches := []
      stack := ⟨s.items, s.branches, s.flags, index⟩ :: s.stack
      groups := s.groups + (if index.isSome then 1 else 0) }

def State.enterNamed (s : State) (cs : List Char) : Option State := do
  let (name, rest) ← groupName cs
  if s.names.contains name then none
  else
    let s := { s with names := name :: s.names }
    return s.enter (some (s.groups + 1)) s.flags rest

def State.openGroup (s : State) (cs : List Char) : Option State :=
  match s.flags.skip cs with
  | '?' :: '=' :: _ | '?' :: '!' :: _ | '?' :: '<' :: '=' :: _ | '?' :: '<' :: '!' :: _ => none
  | '?' :: 'P' :: '<' :: cs => s.enterNamed cs
  | '?' :: '<' :: cs => s.enterNamed cs
  | '?' :: cs => do
    let (f, n, rest) ← readFlags s.flags [] cs
    match rest with
    | ')' :: rest =>
      if n = 0 then none
      else return { s with flags := f, items := .flags :: s.items, rest := rest }
    | _ :: rest => return s.enter none f rest
    | [] => none
  | cs => some (s.enter (some (s.groups + 1)) s.flags cs)

def State.closeGroup (s : State) (rest : List Char) : Option State :=
  match s.stack with
  | [] => none
  | g :: stack =>
    let t := s.current
    let r := match g.index with
      | some i => .group i t.regex
      | none => t.regex
    some { s with
      rest := rest
      flags := g.flags
      items := .term r (t.depth + 1) :: g.items
      branches := g.branches
      stack := stack }

/-! ## Repetitions -/

def State.repeatLast (s : State) (least : Nat) (most : Option Nat) (lazy : Bool)
    (rest : List Char) : Option State :=
  match s.items with
  | .term r d :: items =>
    some { s with
      items := .term (r.times least most (lazy == s.flags.swapGreed)) (d + 1) :: items
      rest := rest }
  | _ => none

def lazyMark : List Char → Bool × List Char
  | '?' :: rest => (true, rest)
  | rest => (false, rest)

def State.repeatSimply (s : State) (least : Nat) (most : Option Nat) (rest : List Char) :
    Option State :=
  let (lazy, rest) := lazyMark rest
  s.repeatLast least most lazy rest

/-- At most `n` digits in front. What has no meaning under the flags may stand behind each. -/
def digits (f : Flags) : Nat → List Char → List Char × List Char
  | n + 1, c :: cs =>
    if c.isDigit then
      let (ds, rest) := digits f n (f.skip cs)
      (c :: ds, rest)
    else ([], c :: cs)
  | _, cs => ([], cs)

def decimal (f : Flags) (cs : List Char) : Option (Nat × List Char) :=
  let cs := cs.dropWhile Text.isBlank
  let (ds, rest) := digits f cs.length cs
  let n := ds.foldl (fun n c => 10 * n + (c.toNat - 48)) 0
  if ds.isEmpty || 4294967295 < n then none else some (n, rest.dropWhile Text.isBlank)

def counts (f : Flags) (cs : List Char) : Option (Nat × Option Nat × List Char) := do
  let (least, rest) ← decimal f (f.skip cs)
  match rest with
  | ',' :: rest =>
    match f.skip rest with
    | '\x7d' :: rest => return (least, none, rest)
    | rest =>
      let (most, rest) ← decimal f rest
      match rest with
      | '\x7d' :: rest => if least ≤ most then return (least, some most, rest) else none
      | _ => none
  | '\x7d' :: rest => return (least, some least, rest)
  | _ => none

def State.repeatCounted (s : State) (cs : List Char) : Option State := do
  let (least, most, rest) ← counts s.flags cs
  match s.flags.skip rest with
  | '?' :: rest => s.repeatLast least most true rest
  | rest => s.repeatLast least most false rest

/-! ## Single characters and classes -/

def character (f : Flags) (c : Char) (byte : Bool) : Option Regex :=
  if !f.unicode && byte && 128 ≤ c.toNat then none
  else some (.set (f.close false (.singleton c)))

def dot (f : Flags) : Option Regex :=
  if !f.unicode then none
  else if f.dotAll then some (.set .everything)
  else if f.crlf then some (.set (.complement (.intervals ⟨[(10, 10), (13, 13)]⟩)))
  else some (.set (.complement (.range 10 10)))

def lineStart (f : Flags) : Look :=
  if f.multiLine then (if f.crlf then .lineStartCrlf else .lineStart) else .start

def lineEnd (f : Flags) : Look :=
  if f.multiLine then (if f.crlf then .lineEndCrlf else .lineEnd) else .stop

def Primitive.regex (f : Flags) : Primitive → Option Regex
  | .literal c byte => character f c byte
  | .members s => some (.set s)
  | .look l => some (.look l)

/-! ## The reader -/

def State.step (s : State) (c : Char) (cs : List Char) : Option State :=
  match c with
  | '(' => s.openGroup cs
  | ')' => s.closeGroup cs
  | '|' => some { s with branches := .ofItems s.items :: s.branches, items := [], rest := cs }
  | '[' => (bracket s.flags cs).map fun (b, rest) => s.add (.set b.set) b.depth rest
  | '?' => s.repeatSimply 0 (some 1) cs
  | '*' => s.repeatSimply 0 none cs
  | '+' => s.repeatSimply 1 none cs
  | '\x7b' => s.repeatCounted cs
  | '.' => (dot s.flags).map fun r => s.add r 0 cs
  | '^' => some (s.add (.look (lineStart s.flags)) 0 cs)
  | '$' => some (s.add (.look (lineEnd s.flags)) 0 cs)
  | '\\' => do
    let (p, rest) ← escape s.flags cs
    return s.add (← p.regex s.flags) 0 rest
  | c => (character s.flags c false).map fun r => s.add r 0 cs

def State.run : Nat → State → Option State
  | 0, _ => none
  | n + 1, s =>
    match s.flags.skip s.rest with
    | [] => some s
    | c :: cs => (s.step c cs).bind (run n)

def maxDepth : Nat := 250

def parse (text : String) : Option Regex := do
  let cs := text.toList
  let s ← State.run (cs.length + 1) { rest := cs }
  let t := s.current
  if s.stack.isEmpty && t.depth ≤ maxDepth then return t.regex else none

end BundleWatch.Regex
