import BundleWatch.Regex.Automaton
import BundleWatch.Regex.Parser

/-!
# Matching

An automaton runs over a text once, from its beginning. The threads that are alive at a position
are kept in the order of preference, and no node is entered twice at one position: the thread that
comes first is the preferred one. When a thread is done, those after it are given up.
-/

set_option autoImplicit false

namespace BundleWatch.Regex

structure Notes where
  start : Option Nat := none
  stop : Option Nat := none
deriving DecidableEq, Inhabited

structure Thread where
  node : Nat
  notes : Notes

structure Match where
  length : Nat
  notes : Notes
deriving DecidableEq

structure Place where
  index : Nat
  before : Option Char
  after : Option Char

structure Frontier where
  entered : Array Bool
  threads : List Thread

def follow (a : Automaton) (p : Place) : Nat → Nat → Notes → Frontier → Frontier
  | 0, _, _, f => f
  | n + 1, i, notes, f =>
    if (f.entered[i]?).getD true then f
    else
      let f := { f with entered := f.entered.setIfInBounds i true }
      match a.node? i with
      | none => f
      | some (.take _ _) => { f with threads := ⟨i, notes⟩ :: f.threads }
      | some .done => { f with threads := ⟨i, notes⟩ :: f.threads }
      | some (.check l next) => if l.holds p.before p.after then follow a p n next notes f else f
      | some (.note false next) => follow a p n next { notes with start := some p.index } f
      | some (.note true next) => follow a p n next { notes with stop := some p.index } f
      | some (.branch nexts) => nexts.foldl (fun f i => follow a p n i notes f) f

def arrive (a : Automaton) (p : Place) (arrivals : List Thread) : List Thread :=
  let f : Frontier := ⟨Array.replicate a.nodes.size false, []⟩
  (arrivals.foldl (fun f t => follow a p (a.nodes.size + 1) t.node t.notes f) f).threads.reverse

def cutDone (a : Automaton) : List Thread → List Thread × Option Notes
  | [] => ([], none)
  | t :: ts =>
    match a.node? t.node with
    | some .done => ([], some t.notes)
    | _ =>
      let (alive, notes) := cutDone a ts
      (t :: alive, notes)

def takes (a : Automaton) (c : Char) (ts : List Thread) : List Thread :=
  ts.filterMap fun t =>
    match a.node? t.node with
    | some (.take s next) => if s.contains c.toNat then some ⟨next, t.notes⟩ else none
    | _ => none

def advance (a : Automaton) :
    List Char → Nat → Option Char → List Thread → Option Match → Option Match
  | cs, i, before, arrivals, best =>
    let (alive, notes) := cutDone a (arrive a ⟨i, before, cs.head?⟩ arrivals)
    let best := (notes.map fun n => ⟨i, n⟩).or best
    match cs with
    | [] => best
    | c :: rest =>
      if alive.isEmpty then best else advance a rest (i + 1) (some c) (takes a c alive) best

def Automaton.matchStart? (a : Automaton) (text : String) : Option Match :=
  advance a text.toList 0 none [⟨a.start, {}⟩] none

end BundleWatch.Regex

namespace BundleWatch

structure CompiledRegex where
  source : String
  automaton : Regex.Automaton
  groups : Nat

namespace CompiledRegex

def compile? (source : String) : Option CompiledRegex := do
  let r ← Regex.parse source
  if r.room ≤ Regex.maxRoom then return ⟨source, .ofRegex r, r.lastGroup⟩ else none

/-- Matches a whole text. The leftmost match decides, even if a longer one would cover the text.
The result is the first group, where it took part. -/
def fullMatch? (r : CompiledRegex) (text : String) : Option (Option String) := do
  let m ← r.automaton.matchStart? text
  if m.length = text.length then
    match m.notes.start, m.notes.stop with
    | some i, some j => return some (String.ofList ((text.toList.drop i).take (j - i)))
    | _, _ => return none
  else none

end CompiledRegex

end BundleWatch
