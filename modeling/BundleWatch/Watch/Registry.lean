import BundleWatch.Failure
import BundleWatch.Path.Relative
import BundleWatch.Pattern.Basic

/-!
# Watched directories

Each directory is watched at most once. The number of a watch is its place in the list, and the
filter is the one of the first registration. An index leads from a directory, however it is spelled,
to the number of its watch. A backend installs the watches and may refuse.
-/

set_option autoImplicit false

namespace BundleWatch

abbrev WatchId := Nat

abbrev WatchBackend (ω : Type) := WatchId → Path → ω → ω × Except Failure Unit

structure Registration where
  dir : Path
  filter : Option Pattern

structure WatchRegistry where
  enabled : Bool := false
  registrations : List Registration := []
  byDir : List (Path × WatchId) := []

namespace WatchRegistry

def disabled : WatchRegistry := {}

def new : WatchRegistry := ⟨true, [], []⟩

def find? (r : WatchRegistry) (dir : Path) : Option WatchId :=
  (r.byDir.find? fun e => e.1.Same dir).map (·.2)

def add (r : WatchRegistry) (id : WatchId) (dir : Path) (filter : Option Pattern) : WatchRegistry :=
  { r with
    registrations := r.registrations ++ [⟨dir, filter⟩]
    byDir := (dir, id) :: r.byDir.filter fun e => ¬e.1.Same dir }

/-- Watches a directory. A directory that is watched already keeps its number and its filter. -/
def register {ω : Type} (r : WatchRegistry) (backend : WatchBackend ω) (dir : Path)
    (filter : Option Pattern) (s : ω) : WatchRegistry × ω × Except Failure (Option WatchId) :=
  if !r.enabled then (r, s, .ok none)
  else
    match r.find? dir with
    | some id => (r, s, .ok (some id))
    | none =>
      let id := r.registrations.length
      match backend id dir s with
      | (s, .ok ()) => (r.add id dir filter, s, .ok (some id))
      | (s, .error f) => (r, s, .error f)

def accepts (r : WatchRegistry) (place : Path → Option Path) (id : WatchId) (p : Path) : Bool :=
  match r.registrations[id]? with
  | none => false
  | some g =>
    match g.filter with
    | none => true
    | some f => ((Path.relativeTo? place g.dir p).map f.isMatch).getD false

def describe (r : WatchRegistry) : String :=
  "WatchRegistry \x7b enabled: " ++ toString r.enabled ++ ", dirs: [" ++
    ", ".intercalate (r.registrations.map (·.dir.quoted)) ++ "] \x7d"

end WatchRegistry

end BundleWatch
