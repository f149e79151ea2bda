import BundleWatch.Files.Basic
import BundleWatch.Text.Encoding

/-!
# Files in memory

Entries are stored under the components of their paths. A directory keeps the texts of the names of its
children in the order in which they came; what is no text is not listed. Directories above an entry are
made when it is added. A link is followed wherever it stands on a path, up to a fixed number of links.
-/

set_option autoImplicit false

namespace BundleWatch

abbrev Key := List Component

namespace Key

def here : Key := [.here]

def root : Key := [.root]

/-- The key of the directory above. Relative paths of one component lie in `.`. -/
def parent? (k : Key) : Option Key :=
  if k = [] ∨ k = root then none
  else if k.dropLast = [] then some here
  else some k.dropLast

def name? (k : Key) : Option String :=
  match k.getLast? with
  | some (.name s) => some s
  | _ => none

end Key

inductive Entry
  | file (bytes : Bytes)
  | dir (children : List String)
  | link (target : Path)
deriving DecidableEq, Inhabited

def maxLinkHops : Nat := 32

structure Memory where
  entries : List (Key × Entry)
deriving Inhabited

namespace Memory

def new : Memory := ⟨[(Key.here, .dir []), (Key.root, .dir [])]⟩

def get? (m : Memory) (k : Key) : Option Entry := m.entries.lookup k

def has (m : Memory) (k : Key) : Bool := (m.get? k).isSome

def erase (m : Memory) (k : Key) : Memory := ⟨m.entries.filter fun e => e.1 ≠ k⟩

def put (m : Memory) (k : Key) (e : Entry) : Memory := ⟨(k, e) :: (m.erase k).entries⟩

section

variable [Encoding]

def addChild (m : Memory) (k : Key) (name : Option String) : Memory :=
  match m.get? k, name.bind Encoding.read? with
  | some (.dir cs), some n => if n ∈ cs then m else m.put k (.dir (cs ++ [n]))
  | _, _ => m

/-- Makes a directory that is missing, and those above it. The key is given from its last component
to its first. -/
def ensureDirOf (m : Memory) : List Component → Memory
  | [] => if m.has [] then m else m.put [] (.dir [])
  | [c] =>
    if m.has [c] then m
    else
      let m := m.put [c] (.dir [])
      if c = .root ∨ c = .here then m
      else
        let m := if m.has Key.here then m else m.put Key.here (.dir [])
        m.addChild Key.here (Key.name? [c])
  | c :: d :: up =>
    let k := (c :: d :: up).reverse
    if m.has k then m
    else
      let above := (d :: up).reverse
      ((m.put k (.dir [])).ensureDirOf (d :: up)).addChild above (Key.name? [c])

def ensureDir (m : Memory) (k : Key) : Memory := m.ensureDirOf k.reverse

def listInParent (m : Memory) (k : Key) : Memory :=
  match k.parent? with
  | none => m
  | some p => (m.ensureDir p).addChild p k.name?

def addFile (m : Memory) (p : Path) (bytes : Bytes) : Memory :=
  (m.put p.components (.file bytes)).listInParent p.components

def addDir (m : Memory) (p : Path) : Memory := m.ensureDir p.components

def addLink (m : Memory) (p target : Path) : Memory :=
  (m.put p.components (.link target)).listInParent p.components

/-- Removes an entry, and in the directory above all that reads like its name. -/
def remove (m : Memory) (p : Path) : Memory :=
  let k : Key := p.components
  let m := m.erase k
  match Key.parent? k, Key.name? k with
  | some above, some n =>
    match m.get? above with
    | some (.dir cs) => m.put above (.dir (cs.filter (· ≠ Encoding.lossy n)))
    | _ => m
  | _, _ => m

end

/-! ## Links -/

/-- The path behind the link that stands nearest to the end of `p`. -/
def follow? (m : Memory) (p : Path) : Option Path :=
  p.ancestors.findSome? fun a =>
    match m.get? a.components with
    | some (.link target) =>
      let rest := (a.below? p).getD ⟨""⟩
      some (if rest.text = "" then target else target.join rest)
    | _ => none

def resolveWithin (m : Memory) : Nat → Path → Path
  | 0, p => p
  | n + 1, p =>
    match m.follow? p with
    | none => p
    | some q => m.resolveWithin n q

def resolve (m : Memory) (p : Path) : Path := m.resolveWithin maxLinkHops p

def lookup? (m : Memory) (p : Path) : Option Entry := m.get? (m.resolve p).components

def own (m : Memory) (p : Path) : Path :=
  match p.parent?, p.fileName? with
  | some above, some n => (m.resolve above).join ⟨n⟩
  | _, _ => p

end Memory

/-! ## Reading -/

inductive MemoryError
  | notFound (p : Path)
  | isDirectory (p : Path)
  | notDirectory (p : Path)
  | notText (fault : Bytes.Fault)
deriving DecidableEq

def MemoryError.message : MemoryError → String
  | .notFound p => "File not found: " ++ p.quoted
  | .isDirectory p => "Is a directory: " ++ p.quoted
  | .notDirectory p => "Not a directory or not found: " ++ p.quoted
  | .notText fault => "Invalid UTF-8: " ++ fault.message

namespace Memory

def fail {α : Type} (e : MemoryError) : Except Failure α := .error ⟨e.message, []⟩

def contents (m : Memory) (p : Path) : Except Failure Bytes :=
  match m.lookup? p with
  | some (.file bytes) => .ok bytes
  | some _ => fail (.isDirectory p)
  | none => fail (.notFound p)

def contentsText (m : Memory) (p : Path) : Except Failure String := do
  match (← m.contents p).toText with
  | .ok s => return s
  | .error fault => fail (.notText fault)

def isThere (m : Memory) (p : Path) : Bool := (m.lookup? p).isSome

def isFile (m : Memory) (p : Path) : Bool :=
  match m.lookup? p with
  | some (.file _) => true
  | _ => false

def isDir (m : Memory) (p : Path) : Bool :=
  match m.lookup? p with
  | some (.dir _) => true
  | _ => false

def isLink (m : Memory) (p : Path) : Bool :=
  match m.get? (m.own p).components with
  | some (.link _) => true
  | _ => false

def canonicalize (m : Memory) (p : Path) : Except Failure Path :=
  let q := m.resolve p
  if m.has q.components then .ok q else fail (.notFound p)

def readDir [Encoding] (m : Memory) (p : Path) : Except Failure (List Path) :=
  match m.lookup? p with
  | some (.dir cs) => .ok (cs.map fun n => p.join ⟨Encoding.write n⟩)
  | _ => fail (.notDirectory p)

def copy [Encoding] (m : Memory) (source target : Path) : Memory × Except Failure Nat :=
  match m.contents source with
  | .ok bytes => (m.addFile target bytes, .ok bytes.length)
  | .error f => (m, .error f)

def longestKey (m : Memory) : Nat := (m.entries.map (·.1.length)).foldl max 0

instance [Encoding] : FileSystem Memory where
  openRead m p := (m.contents p).map .ok
  readText := contentsText
  write m p bytes := (m.addFile p bytes, .ok ())
  copy := copy
  isThere := isThere
  isFile := isFile
  isDir := isDir
  isLink := isLink
  canonicalize := canonicalize
  readDir := readDir
  place _ _ := none
  entryCount m := m.entries.length
  depthBound m := (maxLinkHops + 1) * m.longestKey + 1

instance : Host Memory where
  startFault? _ _ _ := some "No such file or directory (os error 2)"

end Memory

end BundleWatch
