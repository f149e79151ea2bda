import BundleWatch.Regex.Basic

/-!
# Automata

An expression becomes an automaton whose nodes are numbered. A node takes a character, checks a
position, notes a position, or goes on at several nodes, of which the earlier ones are preferred.
-/

set_option autoImplicit false

namespace BundleWatch.Regex

inductive Node
  | take (s : CharSet) (next : Nat)
  | check (l : Look) (next : Nat)
  | note (stop : Bool) (next : Nat)
  | branch (nexts : List Nat)
  | done
deriving Inhabited

structure Automaton where
  nodes : Array Node
  start : Nat

def Automaton.node? (a : Automaton) (i : Nat) : Option Node := a.nodes[i]?

abbrev Build := StateM (Array Node)

namespace Build

def add (n : Node) : Build Nat := fun ns => (ns.size, ns.push n)

def put (i : Nat) (n : Node) : Build Unit := fun ns => ((), ns.setIfInBounds i n)

end Build

def choice (greedy : Bool) (again after : Nat) : Node :=
  .branch (if greedy then [again, after] else [after, again])

def chain (part : Nat → Build Nat) : Nat → Nat → Build Nat
  | 0, next => pure next
  | n + 1, next => do chain part n (← part next)

def chainOptional (part : Nat → Build Nat) (greedy : Bool) (after : Nat) : Nat → Nat → Build Nat
  | 0, next => pure next
  | n + 1, next => do
    let first ← part next
    chainOptional part greedy after n (← Build.add (choice greedy first after))

def loop (part : Nat → Build Nat) (greedy : Bool) (after : Nat) : Build (Nat × Nat) := do
  let decide ← Build.add .done
  let first ← part decide
  Build.put decide (choice greedy first after)
  return (first, decide)

/-- Adds the nodes of an expression in front of a node and returns where they begin. A part that
can match without taking a character is repeated behind a choice of its own, so that the
preference among its matches survives. -/
def build : Regex → Nat → Build Nat
  | .empty, next => pure next
  | .set s, next => Build.add (.take s next)
  | .look l, next => Build.add (.check l next)
  | .seq a b, next => do build a (← build b next)
  | .alt a b, next => do
    let j ← build b next
    let i ← build a next
    Build.add (.branch [i, j])
  | .group i r, next =>
    if i = 1 then do
      let stop ← Build.add (.note true next)
      Build.add (.note false (← build r stop))
    else build r next
  | .repeated 0 none greedy r, next => do
    let (first, decide) ← loop (build r) greedy next
    if r.consumes then return decide else Build.add (choice greedy first next)
  | .repeated (n + 1) none greedy r, next => do
    let (first, _) ← loop (build r) greedy next
    chain (build r) n first
  | .repeated n (some m) greedy r, next => do
    chain (build r) n (← chainOptional (build r) greedy next (m - n) next)

def Automaton.ofRegex (r : Regex) : Automaton :=
  let (start, nodes) := ((do build r (← Build.add .done)) : Build Nat).run #[]
  ⟨nodes, start⟩

/-! ## Size -/

def width (n : Nat) : Nat := if n < 0x80 then 1 else if n < 0x800 then 2 else if n < 0x10000 then 3 else 4

def CharSet.room : CharSet → Nat
  | .intervals ⟨[(a, b)]⟩ => if a = b then 32 * width a else if b < 0x80 then 72 else 400
  | .intervals r => 64 + (r.intervals.map fun p => if p.2 < 0x80 then 8 else 66).sum
  | .union a b | .inter a b | .diff a b | .symmDiff a b => a.room + b.room
  | .complement a => 400 + a.room
  | .anyCase a => 8 + a.room
  | .asciiCase a => 8 + a.room

def room : Regex → Nat
  | .empty => 32
  | .set s => s.room
  | .look _ => 32
  | .seq a b => a.room + b.room
  | .alt a b => a.room + b.room + 40
  | .group _ r => r.room + 64
  | .repeated n none _ r => (max n 1) * r.room + 40
  | .repeated n (some m) _ r => m * r.room + (m - n) * 40 + 32

def maxRoom : Nat := 10 * 1024 * 1024

end BundleWatch.Regex
