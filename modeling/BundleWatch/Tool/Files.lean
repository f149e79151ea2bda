import BundleWatch.Tool.Basic

/-!
# Tools for files

Copying, moving, removing, and making files, directories and links, and listing a directory.
-/

set_option autoImplicit false

namespace BundleWatch

namespace Disk

def tree (d : Disk) (l : Location) : List (Location × Inode) :=
  d.entries.filter fun e => l.isPrefixOf e.1

def prune (d : Disk) (l : Location) : Disk :=
  { d with entries := d.entries.filter fun e => !l.isPrefixOf e.1 }

def graft (d : Disk) (tree : List (Location × Inode)) (source target : Location) : Disk :=
  tree.reverse.foldl (fun d e => d.put (target ++ e.1.drop source.length) e.2) d

def entryAt (d : Disk) (p : Path) : Except DiskError (Location × Inode) := do
  let l ← d.locate .entry p
  match d.get? l with
  | some i => return (l, i)
  | none => throw .notFound

def move (d : Disk) (source target : Path) : Except DiskError Disk := do
  let (l, i) ← d.entryAt source
  let k ← d.locate .entry target
  if k = l then return d
  match d.get? k, i with
  | some .dir, .dir => if (d.childNames k).isEmpty then pure () else throw .notEmpty
  | some .dir, _ => throw .isDirectory
  | some _, .dir => throw .notDirectory
  | _, _ => pure ()
  return ((d.prune l).prune k).graft (d.tree l) l k

def removeDir (d : Disk) (p : Path) : Except DiskError Disk := do
  match ← d.entryAt p with
  | (l, .dir) => if (d.childNames l).isEmpty then return d.erase l else throw .notEmpty
  | _ => throw .notDirectory

def touch (d : Disk) (p : Path) : Except DiskError Disk := do
  let l ← d.locate .target p
  if (d.get? l).isSome then return d else return d.put l (.file [])

end Disk

namespace Tool

def placeIn (d : Disk) (source target : String) : String :=
  if d.isDir ⟨target⟩ then (Path.join ⟨target⟩ ⟨lastName source⟩).text else target

def ontoTarget (tool : String) (op : String → String → ToolRun → ToolRun) (names : List String)
    (r : ToolRun) : ToolRun :=
  match names.getLast?, names.dropLast with
  | none, _ => r.complain (tool ++ ": missing file operand")
  | some only, [] => r.complain (tool ++ ": missing destination file operand after " ++ quoted only)
  | some target, sources =>
    if 1 < sources.length && !r.disk.isDir ⟨target⟩ then
      r.complain (tool ++ ": target " ++ quoted target ++ ": Not a directory")
    else sources.foldl (fun r s => op s (placeIn r.disk s target) r) r

def copyRegular (source target : String) (bytes : Bytes) (r : ToolRun) : ToolRun :=
  if target = nullDevice then r
  else
    match r.disk.stat ⟨source⟩, r.disk.stat ⟨target⟩ with
    | .ok (l, _), .ok (k, _) =>
      if l = k then
        r.complain ("cp: " ++ quoted source ++ " and " ++ quoted target ++ " are the same file")
      else r.change ("cp: cannot create regular file " ++ quoted target)
        (r.disk.create ⟨target⟩ bytes)
    | _, _ => r.change ("cp: cannot create regular file " ++ quoted target)
        (r.disk.create ⟨target⟩ bytes)

def copyTree (source target : String) (l : Location) (r : ToolRun) : ToolRun :=
  match r.disk.locate .target ⟨target⟩ with
  | .error e => r.complain ("cp: cannot create directory " ++ quoted target ++ ": " ++ e.reason)
  | .ok k =>
    if l.isPrefixOf k then
      r.complain ("cp: cannot copy a directory, " ++ quoted source ++ ", into itself, " ++
        quoted target)
    else { r with disk := r.disk.graft ((l, .dir) :: r.disk.tree l) l k }

def copyOne (recursive : Bool) (source target : String) (r : ToolRun) : ToolRun :=
  if source = nullDevice then copyRegular source target [] r
  else
    match r.disk.stat ⟨source⟩ with
    | .error e => r.complain ("cp: cannot stat " ++ quoted source ++ ": " ++ e.reason)
    | .ok (_, .file bytes) => copyRegular source target bytes r
    | .ok (l, _) =>
      if recursive then copyTree source target l r
      else r.complain ("cp: -r not specified; omitting directory " ++ quoted source)

def copyFiles : Tool := fun args r =>
  let (flags, names) := options args
  ontoTarget "cp" (copyOne (flags.any fun c => c = 'r' ∨ c = 'R' ∨ c = 'a')) names r

def moveOne (source target : String) (r : ToolRun) : ToolRun :=
  match r.disk.entryAt ⟨source⟩ with
  | .error e => r.complain ("mv: cannot stat " ++ quoted source ++ ": " ++ e.reason)
  | .ok _ => r.change ("mv: cannot move " ++ quoted source ++ " to " ++ quoted target)
      (r.disk.move ⟨source⟩ ⟨target⟩)

def moveFiles : Tool := fun args r => ontoTarget "mv" moveOne (options args).2 r

def removeOne (recursive force : Bool) (r : ToolRun) (name : String) : ToolRun :=
  match r.disk.entryAt ⟨name⟩ with
  | .error e =>
    if force && (e = .notFound || e = .notDirectory) then r
    else r.complain ("rm: cannot remove " ++ quoted name ++ ": " ++ e.reason)
  | .ok (l, .dir) =>
    if recursive then { r with disk := r.disk.prune l }
    else r.complain ("rm: cannot remove " ++ quoted name ++ ": " ++ DiskError.isDirectory.reason)
  | .ok (l, _) => { r with disk := r.disk.erase l }

def removeFiles : Tool := fun args r =>
  let (flags, names) := options args
  names.foldl (removeOne (flags.any fun c => c = 'r' ∨ c = 'R') (flags.contains 'f')) r

def removeDirs : Tool := fun args r =>
  (options args).2.foldl (fun r n =>
    r.change ("rmdir: failed to remove " ++ quoted n) (r.disk.removeDir ⟨n⟩)) r

def makeDirs : Tool := fun args r =>
  let (flags, names) := options args
  names.foldl (fun r n =>
    let what := "mkdir: cannot create directory " ++ quoted n
    if flags.contains 'p' then
      let (d, made) := r.disk.makeDirs ⟨n⟩
      { r with disk := d }.change what (made.map fun _ => d)
    else r.change what (r.disk.makeDir ⟨n⟩)) r

def touchFiles : Tool := fun args r =>
  (options args).2.foldl (fun r n => r.change ("touch: cannot touch " ++ quoted n)
    (r.disk.touch ⟨n⟩)) r

/-- Makes a link. One that is not symbolic becomes a copy. -/
def linkOne (symbolic force : Bool) (source target : String) (r : ToolRun) : ToolRun :=
  let r := if force then { r with disk := (r.disk.unlink ⟨target⟩).toOption.getD r.disk } else r
  if symbolic then
    r.change ("ln: failed to create symbolic link " ++ quoted target)
      (r.disk.makeLink ⟨target⟩ ⟨source⟩)
  else if (r.disk.entryAt ⟨target⟩).toOption.isSome then
    r.complain ("ln: failed to create hard link " ++ quoted target ++ ": " ++
      DiskError.exists.reason)
  else
    r.change ("ln: failed to access " ++ quoted source)
      ((r.disk.copyFile ⟨source⟩ ⟨target⟩).map (·.1))

def linkFiles : Tool := fun args r =>
  let (flags, names) := options args
  let names := if names.length = 1 then names ++ ["."] else names
  ontoTarget "ln" (linkOne (flags.contains 's') (flags.contains 'f')) names r

def visibleNames (d : Disk) (l : Location) (all : Bool) : List String :=
  let names := (d.childNames l).filter fun n => all || !n.startsWith "."
  names.mergeSort fun a b => decide (a ≤ b)

def listOne (all : Bool) (r : ToolRun) (name : String) : ToolRun :=
  match r.disk.stat ⟨name⟩ with
  | .error e =>
    { r.complain ("ls: cannot access " ++ quoted name ++ ": " ++ e.reason) with status := 2 }
  | .ok (l, .dir) => (visibleNames r.disk l all).foldl ToolRun.sayLine r
  | .ok _ => r.sayLine name

def listFiles : Tool := fun args r =>
  let (flags, names) := options args
  (if names.isEmpty then ["."] else names).foldl (listOne (flags.contains 'A')) r

def currentDir : Tool := fun _ r => r.sayLine (Disk.locationPath r.disk.currentDir).text

end Tool

end BundleWatch
