import BundleWatch.Glob.Basic
import BundleWatch.Regex.Search
import BundleWatch.Text.Quoted

/-!
# Patterns

A pattern accepts or rejects the relative name of a file as a whole. Those with an open end capture
what lies there, and an expression captures its first group.
-/

set_option autoImplicit false

namespace BundleWatch

inductive PatternSpec
  | exact (s : String)
  | leading (s : String)
  | trailing (s : String)
  | glob (s : String)
  | regex (s : String)
deriving DecidableEq, Inhabited

namespace PatternSpec

def text : PatternSpec → String
  | .exact s | .leading s | .trailing s | .glob s | .regex s => s

def kindName : PatternSpec → String
  | .exact _ => "Exact"
  | .leading _ => "Prefix"
  | .trailing _ => "Suffix"
  | .glob _ => "Glob"
  | .regex _ => "Regex"

def describe (p : PatternSpec) : String := p.kindName ++ "(" ++ Text.quote p.text ++ ")"

end PatternSpec

inductive PatternError
  | glob (source : String)
  | regex (source : String)
deriving DecidableEq

def PatternError.message : PatternError → String
  | .glob s => "invalid glob '" ++ s ++ "'"
  | .regex s => "invalid regex '" ++ s ++ "'"

inductive Pattern
  | exact (s : String)
  | leading (s : String)
  | trailing (s : String)
  | glob (g : Glob)
  | regex (r : CompiledRegex)

structure PathMatch where
  capture : Option String
deriving DecidableEq

def afterLeading? (start s : List Char) : Option (List Char) :=
  if start.isPrefixOf s && start.length < s.length then some (s.drop start.length) else none

def beforeTrailing? (ending s : List Char) : Option (List Char) :=
  if ending.isSuffixOf s && ending.length < s.length then
    some (s.take (s.length - ending.length))
  else none

namespace Pattern

def compile : PatternSpec → Except PatternError Pattern
  | .exact s => .ok (.exact s)
  | .leading s => .ok (.leading s)
  | .trailing s => .ok (.trailing s)
  | .glob s =>
    match Glob.compile? s with
    | some g => .ok (.glob g)
    | none => .error (.glob s)
  | .regex s =>
    match CompiledRegex.compile? s with
    | some r => .ok (.regex r)
    | none => .error (.regex s)

def spec : Pattern → PatternSpec
  | .exact s => .exact s
  | .leading s => .leading s
  | .trailing s => .trailing s
  | .glob g => .glob g.source
  | .regex r => .regex r.source

def describe (p : Pattern) : String := p.spec.describe

def captureGroups : Pattern → Nat
  | .leading _ | .trailing _ => 1
  | .exact _ | .glob _ => 0
  | .regex r => r.groups

def fullMatch? (p : Pattern) (name : String) : Option PathMatch :=
  match p with
  | .exact s => if name = s then some ⟨none⟩ else none
  | .leading s => (afterLeading? s.toList name.toList).map fun cs => ⟨some (String.ofList cs)⟩
  | .trailing s => (beforeTrailing? s.toList name.toList).map fun cs => ⟨some (String.ofList cs)⟩
  | .glob g => if g.isMatch name then some ⟨none⟩ else none
  | .regex r => (r.fullMatch? name).map fun c => ⟨c⟩

def isMatch (p : Pattern) (name : String) : Bool := (p.fullMatch? name).isSome

end Pattern

end BundleWatch
