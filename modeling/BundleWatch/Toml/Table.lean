import BundleWatch.Toml.Value

/-!
# Tables in the making

While a document is read, a table remembers how it came to be. A header opens a table once, dotted
keys add only to tables that dotted keys made, and a written value is closed.
-/

set_option autoImplicit false

namespace BundleWatch.Toml

inductive Origin
  | header
  | implied
  | dotted
deriving DecidableEq

inductive Node
  | leaf (v : Value)
  | table (origin : Origin) (entries : List (String × Node))
  | tables (last : List (String × Node)) (earlier : List (List (String × Node)))

abbrev Entries := List (String × Node)

namespace Entries

def get? (es : Entries) (k : String) : Option Node := (es.find? (·.1 = k)).map (·.2)

def put (es : Entries) (k : String) (v : Node) : Entries :=
  if es.any (·.1 = k) then es.map fun e => if e.1 = k then (k, v) else e
  else es ++ [(k, v)]

/-- Changes the table at the end of a path from a table of the given origin. Tables that are
missing on the way are made. -/
def within (dotted : Bool) (change : Origin → Entries → Option Entries) :
    List String → Origin → Entries → Option Entries
  | [], o, es => change o es
  | k :: ks, _, es => do
    match es.get? k with
    | none =>
      let origin := if dotted then .dotted else .implied
      return es.put k (.table origin (← within dotted change ks origin []))
    | some (.table o inner) =>
      if dotted ∧ o = .header then none
      else return es.put k (.table o (← within dotted change ks o inner))
    | some (.tables last earlier) =>
      return es.put k (.tables (← within dotted change ks .header last) earlier)
    | some (.leaf _) => none

/-- Adds a value under a dotted key. A table holds it as its own entry only if it is no table of
another kind. -/
def insert (path : List String) (v : Value) (o : Origin) (es : Entries) : Option Entries :=
  match path.getLast? with
  | none => none
  | some k =>
    let outer := path.dropLast
    within true (fun o es =>
      if (o == .dotted) == outer.isEmpty || (es.get? k).isSome then none
      else some (es.put k (.leaf v))) outer o es

def openTable (path : List String) (es : Entries) : Option Entries :=
  match path.getLast? with
  | none => none
  | some k =>
    within false (fun _ es =>
      match es.get? k with
      | none => some (es.put k (.table .header []))
      | some (.table .implied inner) => some (es.put k (.table .header inner))
      | _ => none) path.dropLast .header es

def openNext (path : List String) (es : Entries) : Option Entries :=
  match path.getLast? with
  | none => none
  | some k =>
    within false (fun _ es =>
      match es.get? k with
      | none => some (es.put k (.tables [] []))
      | some (.tables last earlier) => some (es.put k (.tables [] (last :: earlier)))
      | _ => none) path.dropLast .header es

def insertUnder (header path : List String) (v : Value) (es : Entries) : Option Entries :=
  within false (insert path v) header .header es

end Entries

mutual

def Node.value : Node → Value
  | .leaf v => v
  | .table _ es => .table (Node.members es)
  | .tables last earlier => .array (Node.items earlier [.table (Node.members last)])

def Node.members : List (String × Node) → List (String × Value)
  | [] => []
  | (k, v) :: es => (k, v.value) :: Node.members es

def Node.items : List (List (String × Node)) → List Value → List Value
  | [], out => out
  | es :: rest, out => Node.items rest (.table (Node.members es) :: out)

end

end BundleWatch.Toml
