import BundleWatch.CommandLine.Report

/-!
# The program

The directories of a project are read in, the build runs on that picture of them, and what it changed is
written back. While it watches, the picture is taken again after every pause.
-/

set_option autoImplicit false

namespace BundleWatch

partial def readBelow (dir : Path) (l : Location) : IO (List (Location × Inode)) := do
  let mut found := []
  for e in ← (← IO.FS.realPath ⟨dir.text⟩).readDir do
    let here := l ++ [e.fileName]
    match (← e.path.symlinkMetadata).type with
    | .dir => found := (← readBelow (dir.join ⟨e.fileName⟩) here) ++ (here, .dir) :: found
    | .file => found := (here, .file (← IO.FS.readBinFile e.path).toList) :: found
    | _ => pure ()
  return found

def directories (args : List String) : IO (List Path) := do
  let current : Path := ⟨(← IO.currentDir).toString⟩
  match Invocation.parse args with
  | .error _ => return []
  | .ok i =>
    let root := current.join (projectRoot current ⟨i.config⟩)
    let real ← try pure (some (← IO.FS.realPath ⟨root.text⟩).toString) catch _ => pure none
    match real with
    | some text => return if Path.Same ⟨text⟩ current then [current] else [current, ⟨text⟩]
    | none => return [current]

def readDisk (dirs : List Path) : IO Disk := do
  let current : Path := ⟨(← IO.currentDir).toString⟩
  let mut disk : Disk := { entries := [], currentDir := current.components.filterMap name? }
  for dir in dirs do
    disk := (disk.makeDirs dir).1
    for (l, i) in (← readBelow dir (dir.components.filterMap name?)).reverse do
      disk := disk.put l i
  return disk
where
  name? : Component → Option String
    | .name s => some s
    | _ => none

def writeBack (before after : Disk) : IO Unit := do
  for l in Session.changes before after do
    let p := (Disk.locationPath l).text
    match after.get? l, before.get? l with
    | some (.file bytes), _ => IO.FS.writeBinFile ⟨p⟩ ⟨bytes.toArray⟩
    | some .dir, _ => IO.FS.createDirAll ⟨p⟩
    | none, some (.file _) => IO.FS.removeFile ⟨p⟩
    | none, some .dir => IO.FS.removeDirAll ⟨p⟩
    | _, _ => pure ()

def pause : UInt32 := 250

partial def watchOn (dirs : List Path) (s : Session) : IO Report := do
  let before := s.disk
  let s := s.runToEnd
  writeBack before s.disk
  if s.loop.status = .running then
    IO.sleep pause
    watchOn dirs (s.setDisk (← readDisk dirs)).notice
  else return .ofSession s

def runProgram (args : List String) : IO UInt32 := do
  let dirs ← directories args
  let disk ← readDisk dirs
  let report ← match Opening.ofArgs args disk with
    | .report r => do
      writeBack disk r.disk
      pure r
    | .session s => do
      writeBack disk s.disk
      watchOn dirs s
  IO.print report.output
  match report.complaint with
  | some line => IO.eprintln line
  | none => pure ()
  return report.exitCode.toUInt32

end BundleWatch

def main (args : List String) : IO UInt32 := BundleWatch.runProgram args
