import BundleWatch.Files.Disk

/-!
# Tools

A tool is a small program that runs to its end without a pause. It takes its arguments, reads what is
left of its input, works on the disk and prints. A fault does not stop it: it is reported on a line of
its own and the status is 1.
-/

set_option autoImplicit false

namespace BundleWatch

structure ToolRun where
  disk : Disk
  input : Bytes := []
  output : Bytes := []
  faults : List String := []
  status : Nat := 0

abbrev Tool := List String → ToolRun → ToolRun

namespace ToolRun

def print (r : ToolRun) (bs : Bytes) : ToolRun := { r with output := r.output ++ bs }

def say (r : ToolRun) (s : String) : ToolRun := r.print (.ofText s)

def sayLine (r : ToolRun) (s : String) : ToolRun := r.say (s ++ "\n")

def complain (r : ToolRun) (line : String) : ToolRun :=
  { r with faults := r.faults ++ [line], status := 1 }

def change (r : ToolRun) (what : String) : Except DiskError Disk → ToolRun
  | .ok d => { r with disk := d }
  | .error e => r.complain (what ++ ": " ++ e.reason)

def endWith (r : ToolRun) (b : Bool) : ToolRun := { r with status := if b then 0 else 1 }

end ToolRun

namespace Tool

def nullDevice : String := "/dev/null"

def readFile (d : Disk) (name : String) : Except DiskError Bytes :=
  if name = nullDevice then .ok []
  else
    match d.openRead ⟨name⟩ with
    | .ok r => r
    | .error e => .error e

def operand (tool name : String) (r : ToolRun) : Option Bytes × ToolRun :=
  if name = "-" then (some r.input, { r with input := [] })
  else
    match readFile r.disk name with
    | .ok bs => (some bs, r)
    | .error e => (none, r.complain (tool ++ ": " ++ name ++ ": " ++ e.reason))

def operands (tool : String) (names : List String) (r : ToolRun) : Bytes × ToolRun :=
  (if names.isEmpty then ["-"] else names).foldl (fun (bs, r) n =>
    let (more, r) := operand tool n r
    (bs ++ more.getD [], r)) ([], r)

def options : List String → List Char × List String
  | [] => ([], [])
  | a :: rest =>
    if a = "--" then ([], rest)
    else
      let (flags, names) := options rest
      match a.toList with
      | '-' :: c :: cs => (c :: cs ++ flags, names)
      | _ => (flags, a :: names)

def quoted (name : String) : String := "'" ++ name ++ "'"

def lastName (name : String) : String :=
  ((Path.components ⟨name⟩).getLast?.map Component.text).getD ""

def lines : Bytes → List Bytes
  | [] => []
  | b :: bs =>
    if b = 10 then [] :: lines bs
    else
      match lines bs with
      | [] => [[b]]
      | l :: ls => (b :: l) :: ls

def unlines (ls : List Bytes) : Bytes := ls.flatMap fun l => l ++ [10]

end Tool

end BundleWatch
