import BundleWatch.Text.Quoted

/-!
# Paths

A path is kept as it was written. Its components are what the spellings of one path share: repeated
separators and inner or trailing `.` do not count, `..` does, and so does a leading `.`. Two paths name
the same place if their components are equal. The units of which a path consists stand for characters,
or for bytes where names need not be text: the separator and the dot are themselves under every encoding.
-/

set_option autoImplicit false

namespace BundleWatch

structure Path where
  text : String
deriving DecidableEq, Inhabited, Repr

inductive Component
  | root
  | here
  | up
  | name (s : String)
deriving DecidableEq, Inhabited, Repr

def Component.text : Component → String
  | .root => "/"
  | .here => "."
  | .up => ".."
  | .name s => s

abbrev Segment := List Char

namespace Segment

def split : List Char → List Segment
  | [] => [[]]
  | c :: cs =>
    if c = '/' then [] :: split cs
    else
      match split cs with
      | [] => [[c]]
      | s :: ss => (c :: s) :: ss

def join : List Segment → List Char
  | [] => []
  | [s] => s
  | s :: ss => s ++ '/' :: join ss

def component? (s : Segment) : Option Component :=
  if s = [] ∨ s = ['.'] then none
  else if s = ['.', '.'] then some .up
  else some (.name (String.ofList s))

def components (ss : List Segment) : List Component := ss.filterMap component?

def trimEnd (ss : List Segment) : List Segment :=
  ss.foldr (fun s rest => if rest = [] ∧ component? s = none then [] else s :: rest) []

def trimStart (ss : List Segment) : List Segment :=
  ss.dropWhile fun s => component? s = none

def dropComponents : List Component → List Segment → Option (List Segment)
  | [], ss => some ss
  | _ :: _, [] => none
  | k :: ks, s :: ss =>
    match component? s with
    | none => dropComponents (k :: ks) ss
    | some k' => if k' = k then dropComponents ks ss else none

end Segment

/-- Where a path starts: at the root, at a written `.`, or at its first segment. -/
inductive Anchor
  | root
  | here
  | bare
deriving DecidableEq, Repr

namespace Anchor

def components : Anchor → List Component
  | .root => [.root]
  | .here => [.here]
  | .bare => []

def read : List Char → Anchor × List Segment
  | [] => (.bare, [])
  | c :: cs =>
    if c = '/' then (.root, Segment.split cs)
    else
      match Segment.split (c :: cs) with
      | s :: ss => if s = ['.'] then (.here, ss) else (.bare, s :: ss)
      | [] => (.bare, [])

def write : Anchor → List Segment → List Char
  | .root, ss => '/' :: Segment.join ss
  | .here, [] => ['.']
  | .here, ss => '.' :: '/' :: Segment.join ss
  | .bare, ss => Segment.join ss

end Anchor

namespace Path

def ofChars (cs : List Char) : Path := ⟨String.ofList cs⟩

def chars (p : Path) : List Char := p.text.toList

def quoted (p : Path) : String := Text.quoteWith Text.fileName p.text

def anchor (p : Path) : Anchor := (Anchor.read p.chars).1

def body (p : Path) : List Segment := (Anchor.read p.chars).2

def components (p : Path) : List Component :=
  p.anchor.components ++ Segment.components p.body

def Same (p q : Path) : Prop := p.components = q.components

instance (p q : Path) : Decidable (Same p q) := inferInstanceAs (Decidable (_ = _))

def isAbsolute (p : Path) : Bool := p.anchor = .root

def parent? (p : Path) : Option Path :=
  match Segment.trimEnd p.body with
  | [] => if p.anchor = .here then some (ofChars []) else none
  | ss => some (ofChars (p.anchor.write (Segment.trimEnd ss.dropLast)))

def fileName? (p : Path) : Option String :=
  match (Segment.components p.body).getLast? with
  | some (.name s) => some s
  | _ => none

def ancestorsUpTo : Nat → Path → List Path
  | 0, p => [p]
  | n + 1, p =>
    match p.parent? with
    | none => [p]
    | some q => p :: ancestorsUpTo n q

def ancestors (p : Path) : List Path := ancestorsUpTo p.components.length p

def join (p q : Path) : Path :=
  if q.isAbsolute then q
  else if p.text = "" ∨ p.chars.getLast? = some '/' then ⟨p.text ++ q.text⟩
  else ⟨p.text ++ "/" ++ q.text⟩

/-- What is left of `p` below `base`. The text between its ends is kept as written. -/
def below? (base p : Path) : Option Path :=
  let inner (ks : List Component) : Option Path :=
    (Segment.dropComponents ks p.body).map fun ss =>
      ofChars (Segment.join (Segment.trimStart (Segment.trimEnd ss)))
  match base.components, p.anchor.components with
  | [], _ => some (ofChars (p.anchor.write (Segment.trimEnd p.body)))
  | ks, [] => inner ks
  | k :: ks, a :: _ => if a = k then inner ks else none

end Path

namespace Component

private def rank : Component → Nat
  | .root => 0
  | .here => 1
  | .up => 2
  | .name _ => 3

def precedes : Component → Component → Bool
  | .name s, .name t => s < t
  | k, l => rank k < rank l

end Component

def Path.precedes (p q : Path) : Bool :=
  p.components.lex q.components Component.precedes

def Path.sort (ps : List Path) : List Path :=
  ps.mergeSort fun p q => !q.precedes p

end BundleWatch
