import BundleWatch.Process.Thread
import BundleWatch.Shell.Expansion

/-!
# The state of a shell

Where a shell stands, what its variables hold, where its channels lead and how the last command ended.
What is printed to a pipe is kept until the pipe is read.
-/

set_option autoImplicit false

namespace BundleWatch.Shell

inductive Channel
  | log
  | pipe
  | file (l : Location)
deriving DecidableEq

inductive Jump
  | leave
  | again
deriving DecidableEq

structure State where
  dir : Location
  pid : Nat
  name : String := "sh"
  args : List String := []
  vars : List (String × String) := []
  exported : List String := []
  status : Nat := 0
  input : Bytes := []
  output : Channel := .log
  errors : Channel := .log
  piped : Bytes := []
  child : Option Nat := none
  stopsOnError : Bool := false
  guarded : Bool := false
  jump : Option Jump := none
  nested : Bool := false
  /-- What to run for a signal, or for the end if the number is zero. -/
  traps : List (Nat × String) := []

namespace State

def view (s : State) (d : Disk) : Disk := { d with currentDir := s.dir }

def value? (s : State) (name : String) : Option String :=
  match name with
  | "?" => some (toString s.status)
  | "$" => some (toString s.pid)
  | "!" => s.child.map fun n => toString (s.pid + n)
  | "#" => some (toString s.args.length)
  | "@" | "*" => some (" ".intercalate s.args)
  | "0" => some s.name
  | "-" => some ""
  | "PWD" => some (Disk.locationPath s.dir).text
  | _ =>
    match name.toNat? with
    | some n => s.args[n - 1]?
    | none => s.vars.lookup name

def assign (s : State) (name value : String) : State :=
  { s with vars := (name, value) :: s.vars.filter (·.1 ≠ name) }

def assignAll (s : State) (vs : List (String × String)) : State :=
  vs.foldl (fun s v => s.assign v.1 v.2) s

def exportAll (s : State) (names : List String) : State := { s with exported := names ++ s.exported }

def forProgram (s : State) : State :=
  { s with
    vars := s.vars.filter fun v => s.exported.contains v.1
    args := []
    traps := []
    stopsOnError := false
    guarded := false
    nested := true
    pid := s.pid + 1000 }

def endWith (s : State) (status : Nat) : State := { s with status := status }

def restore (s earlier : State) (inputToo : Bool) : State :=
  { s with
    output := earlier.output
    errors := earlier.errors
    input := if inputToo then earlier.input else s.input }

def afterApart (s inner : State) : State :=
  { s with status := inner.status, input := inner.input, piped := inner.piped }

def report (s : State) (text : String) : String := s.name ++ ": 1: " ++ text

end State

abbrev Next := State → Thread

def onDisk {α : Type} (s : State) (op : Disk → Disk × α) (next : α → Thread) : Thread :=
  .act fun d =>
    let (e, a) := op (s.view d)
    ({ e with currentDir := d.currentDir }, next a)

def appendBytes (d : Disk) (l : Location) (bs : Bytes) : Disk :=
  match d.get? l with
  | some (.file before) => d.put l (.file (before ++ bs))
  | _ => d

def print (s : State) (c : Channel) (bs : Bytes) (next : Next) : Thread :=
  if bs.isEmpty then next s
  else
    match c with
    | .log => next s
    | .pipe => next { s with piped := s.piped ++ bs }
    | .file l => .act fun d => (appendBytes d l bs, next s)

def complain (s : State) (text : String) (status : Nat) (next : Next) : Thread :=
  print s s.errors (.ofText (s.report text ++ "\n")) fun s => next (s.endWith status)

def runTool (tool : Tool) (args : List String) (s : State) (next : Next) : Thread :=
  onDisk s (fun d =>
    let r := tool args { disk := d, input := s.input }
    (r.disk, r)) fun r =>
      print s s.output r.output fun s =>
        print s s.errors (.ofText (String.join (r.faults.map (· ++ "\n")))) fun s =>
          next { s with status := r.status, input := r.input }

/-! ## Redirection -/

def State.connect (s : State) (channel : Nat) (c : Channel) : State :=
  match channel with
  | 1 => { s with output := c }
  | 2 => { s with errors := c }
  | _ => s

def openFile (d : Disk) (name : String) (keep : Bool) : Except DiskError (Disk × Channel) :=
  if name = Tool.nullDevice then .ok (d, .log)
  else do
    let l ← d.locate .file ⟨name⟩
    match d.get? l with
    | some .dir => throw .isDirectory
    | some (.file _) => return (if keep then d else d.put l (.file []), .file l)
    | _ => return (d.put l (.file []), .file l)

def openFault (writing : Bool) (name : String) (e : DiskError) : String :=
  let reason := match e with
    | .notFound => if writing then "Directory nonexistent" else "No such file"
    | e => e.reason
  (if writing then "cannot create " else "cannot open ") ++ name ++ ": " ++ reason

def redirect (s : State) (channel : Nat) (mode : RedirectMode) (target : String)
    (next : Next) (failed : Next) : Thread :=
  let write (keep : Bool) : Thread :=
    onDisk s (fun d =>
      match openFile d target keep with
      | .ok (d, c) => (d, .ok c)
      | .error e => (d, Except.error e)) fun
      | .ok c => next (s.connect channel c)
      | .error e => complain s (openFault true target e) 2 failed
  match mode with
  | .write => write false
  | .append => write true
  | .read =>
    onDisk s (fun d => (d, Tool.readFile d target)) fun
      | .ok bs => next { s with input := bs }
      | .error e => complain s (openFault false target e) 2 failed
  | .duplicate =>
    match target with
    | "1" => next (s.connect channel s.output)
    | "2" => next (s.connect channel s.errors)
    | "-" => next (s.connect channel .log)
    | "0" => next s
    | _ => complain s ("Syntax error: Bad fd number") 2 failed

/-! ## Words of commands -/

def milliseconds? (text : String) : Option Nat :=
  let cs := text.toList
  let (cs, unit) := match cs.getLast? with
    | some 's' => (cs.dropLast, 1)
    | some 'm' => (cs.dropLast, 60)
    | some 'h' => (cs.dropLast, 3600)
    | _ => (cs, 1)
  let whole := cs.takeWhile Char.isDigit
  let fraction := match cs.drop whole.length with
    | '.' :: rest => some rest
    | [] => some []
    | _ => none
  let value (ds : List Char) := ds.foldl (fun v c => 10 * v + (c.toNat - '0'.toNat)) 0
  match fraction with
  | none => none
  | some ds =>
    if ds.all Char.isDigit && !(whole.isEmpty && ds.isEmpty) then
      some (unit * (1000 * value whole + value ((ds ++ ['0', '0', '0']).take 3)))
    else none

def signalNumbers : List (String × Nat) :=
  [("EXIT", 0), ("HUP", 1), ("INT", 2), ("QUIT", 3), ("ILL", 4), ("TRAP", 5), ("ABRT", 6),
   ("BUS", 7), ("FPE", 8), ("KILL", 9), ("USR1", 10), ("SEGV", 11), ("USR2", 12), ("PIPE", 13),
   ("ALRM", 14), ("TERM", 15), ("STKFLT", 16), ("CHLD", 17), ("CONT", 18), ("STOP", 19),
   ("TSTP", 20), ("TTIN", 21), ("TTOU", 22), ("URG", 23), ("XCPU", 24), ("XFSZ", 25),
   ("VTALRM", 26), ("PROF", 27), ("WINCH", 28), ("POLL", 29), ("PWR", 30), ("SYS", 31)]

def signal? (name : String) : Option Nat :=
  match name.toNat? with
  | some n => if n ≤ 64 then some n else none
  | none => signalNumbers.lookup name.toUpper

def isHarmless (n : Nat) : Bool := [0, 17, 18, 19, 20, 21, 22, 23, 28].contains n

def killArgs? : List String → Option (Nat × List String)
  | "-s" :: name :: rest => (signal? name).map (·, rest)
  | a :: rest =>
    match a.toList with
    | '-' :: cs => (signal? (String.ofList cs)).map (·, rest)
    | _ => some (15, a :: rest)
  | [] => none

def programDirs : List String := ["/bin/", "/usr/bin/"]

def programName (name : String) : String :=
  match programDirs.find? fun dir => name.startsWith dir with
  | some dir => String.ofList (name.toList.drop dir.length)
  | none => name

def shellNames : List String := ["sh", "dash", "bash"]

def stopFlag? (arg : String) : Option Bool :=
  match arg.toList with
  | '-' :: cs => if cs.contains 'e' then some true else none
  | '+' :: cs => if cs.contains 'e' then some false else none
  | _ => none

end BundleWatch.Shell
