import BundleWatch.Files.Basic
import BundleWatch.Hash.HalfMd4

/-!
# Files on a disk

A disk is a tree of files, directories and links under their names from the root, seen from a
current directory. Paths are followed as the system does it: `..` leads to the directory above the
one that was reached, links are followed on the way, and a separator at the end asks for a
directory. What goes wrong is reported with the number of the system's error.
-/

set_option autoImplicit false

namespace BundleWatch

inductive DiskError
  | notFound
  | denied
  | exists
  | notDirectory
  | isDirectory
  | nameTooLong
  | notEmpty
  | manyLinks
  | nulByte
  | notText
  | notRegular
  | wholeTree
deriving DecidableEq

namespace DiskError

def reason : DiskError → String
  | .notFound => "No such file or directory"
  | .denied => "Permission denied"
  | .exists => "File exists"
  | .notDirectory => "Not a directory"
  | .isDirectory => "Is a directory"
  | .nameTooLong => "File name too long"
  | .notEmpty => "Directory not empty"
  | .manyLinks => "Too many levels of symbolic links"
  | .nulByte => "file name contained an unexpected NUL byte"
  | .notText => "stream did not contain valid UTF-8"
  | .notRegular => "the source path is neither a regular file nor a symlink to a regular file"
  | .wholeTree => "failed to create whole tree"

def number? : DiskError → Option Nat
  | .notFound => some 2
  | .denied => some 13
  | .exists => some 17
  | .notDirectory => some 20
  | .isDirectory => some 21
  | .nameTooLong => some 36
  | .notEmpty => some 39
  | .manyLinks => some 40
  | .nulByte | .notText | .notRegular | .wholeTree => none

def message (e : DiskError) : String :=
  match e.number? with
  | some n => e.reason ++ " (os error " ++ toString n ++ ")"
  | none => e.reason

end DiskError

abbrev Location := List String

inductive Inode
  | file (bytes : Bytes)
  | dir
  | link (target : Path)
deriving DecidableEq, Inhabited

structure Disk where
  entries : List (Location × Inode)
  currentDir : Location := []
deriving Inhabited

namespace Disk

def locationPath (l : Location) : Path := ⟨"/" ++ "/".intercalate l⟩

def get? (d : Disk) (l : Location) : Option Inode :=
  if l = [] then some .dir else d.entries.lookup l

def erase (d : Disk) (l : Location) : Disk :=
  { d with entries := d.entries.filter fun e => e.1 ≠ l }

def put (d : Disk) (l : Location) (i : Inode) : Disk :=
  { d with entries := (l, i) :: (d.erase l).entries }

def childNames (d : Disk) (l : Location) : List String :=
  HalfMd4.sort (d.entries.filterMap fun e =>
    if e.1 ≠ [] ∧ e.1.dropLast = l then e.1.getLast? else none)

/-! ## Following paths -/

def maxLinks : Nat := 40

def maxNameBytes : Nat := 255
def maxPathBytes : Nat := 4095

def parts (p : Path) : List String × Bool :=
  ((p.text.splitOn "/").filter (!·.isEmpty), p.text.endsWith "/")

inductive Aim
  | entry
  | target
  /-- A file that is written, which no separator may follow. -/
  | file
deriving DecidableEq

/-- Goes along the parts of a path from a directory. The last part need not exist. With `wantDir` the
path must not lead to a file. -/
def follow (d : Disk) (aim : Aim) (wantDir : Bool) (hops : Nat) (l : Location) :
    List String → Except DiskError Location
  | [] => .ok l
  | n :: rest =>
    if n = "." then d.follow aim wantDir hops l rest
    else if n = ".." then d.follow aim wantDir hops l.dropLast rest
    else if maxNameBytes < n.utf8ByteSize then .error .nameTooLong
    else if aim = .file ∧ wantDir ∧ rest.isEmpty then .error .isDirectory
    else
      let here := l ++ [n]
      match d.get? here with
      | none => if rest.isEmpty then .ok here else .error .notFound
      | some .dir => d.follow aim wantDir hops here rest
      | some (.file _) =>
        if rest.isEmpty && !wantDir then .ok here else .error .notDirectory
      | some (.link target) =>
        if rest.isEmpty && aim = .entry && !wantDir then .ok here
        else
          match hops with
          | 0 => .error .manyLinks
          | hops + 1 =>
            if target.text.isEmpty then .error .notFound
            else
              let (ps, dir) := parts target
              d.follow aim (wantDir || (rest.isEmpty && dir)) hops
                (if target.isAbsolute then [] else l) (ps ++ rest)
termination_by rest => (hops, rest.length)

def locate (d : Disk) (aim : Aim) (p : Path) : Except DiskError Location :=
  if p.text.isEmpty then .error .notFound
  else if p.text.toList.contains '\x00' then .error .nulByte
  else if maxPathBytes < p.text.utf8ByteSize then .error .nameTooLong
  else
    let (ps, dir) := parts p
    d.follow aim dir maxLinks (if p.isAbsolute then [] else d.currentDir) ps

def stat (d : Disk) (p : Path) : Except DiskError (Location × Inode) := do
  let l ← d.locate .target p
  match d.get? l with
  | some i => return (l, i)
  | none => throw .notFound

def isThere (d : Disk) (p : Path) : Bool := (d.stat p).toOption.isSome

def isFile (d : Disk) (p : Path) : Bool :=
  match d.stat p with
  | .ok (_, .file _) => true
  | _ => false

def isDir (d : Disk) (p : Path) : Bool :=
  match d.stat p with
  | .ok (_, .dir) => true
  | _ => false

def isLink (d : Disk) (p : Path) : Bool :=
  match d.locate .entry p with
  | .ok l =>
    match d.get? l with
    | some (.link _) => true
    | _ => false
  | .error _ => false

def canonicalize (d : Disk) (p : Path) : Except DiskError Path :=
  (d.stat p).map fun (l, _) => locationPath l

def readDir (d : Disk) (p : Path) : Except DiskError (List Path) := do
  match ← d.stat p with
  | (l, .dir) => return (d.childNames l).map fun n => p.join ⟨n⟩
  | _ => throw .notDirectory

/-! ## Reading and writing -/

def openRead (d : Disk) (p : Path) : Except DiskError (Except DiskError Bytes) := do
  match ← d.stat p with
  | (_, .file bytes) => return .ok bytes
  | _ => return .error .isDirectory

def readText (d : Disk) (p : Path) : Except DiskError String := do
  match ← d.openRead p with
  | .error e => throw e
  | .ok bytes =>
    match bytes.toText with
    | .ok s => return s
    | .error _ => throw .notText

def makeDir (d : Disk) (p : Path) : Except DiskError Disk := do
  let l ← d.locate .entry p
  if (d.get? l).isSome then throw .exists else return d.put l .dir

def makeDirHere (d : Disk) (p : Path) : Except DiskError Disk :=
  match d.makeDir p with
  | .ok d => .ok d
  | .error e => if d.isDir p then .ok d else .error e

/-- Makes a directory and those above it, at most `n` of them. What was made stays if it fails. -/
def makeDirsWithin : Nat → Disk → Path → Disk × Except DiskError Unit
  | 0, d, _ => (d, .error .wholeTree)
  | n + 1, d, p =>
    if p.text.isEmpty then (d, .ok ())
    else
      match d.makeDirHere p with
      | .ok d => (d, .ok ())
      | .error .notFound =>
        match p.parent? with
        | none => (d, .error .wholeTree)
        | some above =>
          match makeDirsWithin n d above with
          | (d, .error e) => (d, .error e)
          | (d, .ok ()) =>
            match d.makeDirHere p with
            | .ok d => (d, .ok ())
            | .error e => (d, .error e)
      | .error e => (d, .error e)

def makeDirs (d : Disk) (p : Path) : Disk × Except DiskError Unit :=
  makeDirsWithin (p.components.length + 1) d p

def create (d : Disk) (p : Path) (bytes : Bytes) : Except DiskError Disk := do
  let l ← d.locate .file p
  match d.get? l with
  | some .dir => throw .isDirectory
  | _ => return d.put l (.file bytes)

def makeLink (d : Disk) (p target : Path) : Except DiskError Disk := do
  let l ← d.locate .entry p
  if (d.get? l).isSome then throw .exists else return d.put l (.link target)

def unlink (d : Disk) (p : Path) : Except DiskError Disk := do
  let l ← d.locate .entry p
  match d.get? l with
  | none => throw .notFound
  | some .dir => throw .isDirectory
  | some _ => return d.erase l

/-- Copies a file onto another path. A file copied onto itself ends up empty, because the target is
emptied before the source is read. -/
def copyFile (d : Disk) (source target : Path) : Except DiskError (Disk × Nat) := do
  match ← d.stat source with
  | (_, .file _) =>
    let d ← d.create target []
    match ← d.stat source with
    | (_, .file bytes) => return (← d.create target bytes, bytes.length)
    | _ => throw .notRegular
  | _ => throw .notRegular

/-! ## As a file system -/

def fail {α : Type} (what : String) (e : DiskError) : Except Failure α := .error ⟨what, [e.message]⟩

def inParent {α : Type} (d : Disk) (p : Path) (op : Disk → Disk × Except Failure α) :
    Disk × Except Failure α :=
  match p.parent? with
  | none => op d
  | some above =>
    match d.makeDirs above with
    | (d, .ok ()) => op d
    | (d, .error e) => (d, fail ("creating dir " ++ above.quoted) e)

def writeFile (d : Disk) (p : Path) (bytes : Bytes) : Disk × Except Failure Unit :=
  d.inParent p fun d =>
    match d.create p bytes with
    | .ok d => (d, .ok ())
    | .error e => (d, fail ("creating file " ++ p.quoted) e)

def deepest (d : Disk) : Nat := (d.entries.map (·.1.length)).foldl max 0

instance : FileSystem Disk where
  openRead d p :=
    match d.openRead p with
    | .ok (.ok bytes) => .ok (.ok bytes)
    | .ok (.error e) => .ok (.error ⟨e.message, []⟩)
    | .error e => fail ("opening file " ++ p.quoted) e
  readText d p :=
    match d.readText p with
    | .ok s => .ok s
    | .error e => fail ("reading file " ++ p.quoted) e
  write := writeFile
  copy d source target :=
    d.inParent target fun d =>
      match d.copyFile source target with
      | .ok (d, n) => (d, .ok n)
      | .error e => (d, fail ("copying " ++ source.quoted ++ " to " ++ target.quoted) e)
  isThere := isThere
  isFile := isFile
  isDir := isDir
  isLink := isLink
  canonicalize d p :=
    match d.canonicalize p with
    | .ok q => .ok q
    | .error e => fail ("canonicalizing " ++ p.quoted) e
  readDir d p :=
    match d.readDir p with
    | .ok ps => .ok ps
    | .error e => fail ("reading dir " ++ p.quoted) e
  place d p := (d.canonicalize p).toOption
  entryCount d := d.entries.length + 1
  depthBound d := d.deepest

end Disk

end BundleWatch
