import BundleWatch.Text.Blank
import BundleWatch.Tool.Basic

/-!
# Conditions

A tool that prints nothing and whose status says whether a condition holds: of a file, of two texts or
numbers, or of conditions joined by `-a`, `-o` and `!`.
-/

set_option autoImplicit false

namespace BundleWatch.Tool.Condition

abbrev Verdict := Except String Bool

def size (d : Disk) (name : String) : Nat :=
  match d.stat ⟨name⟩ with
  | .ok (_, .file bytes) => bytes.length
  | .ok _ => 1
  | .error _ => 0

def unary? (d : Disk) : String → Option (String → Bool)
  | "-n" => some fun s => !s.isEmpty
  | "-z" => some String.isEmpty
  | "-e" => some fun s => s = nullDevice || d.isThere ⟨s⟩
  | "-r" | "-w" => some fun s => s = nullDevice || d.isThere ⟨s⟩
  | "-f" => some fun s => d.isFile ⟨s⟩
  | "-d" | "-x" => some fun s => d.isDir ⟨s⟩
  | "-L" | "-h" => some fun s => d.isLink ⟨s⟩
  | "-s" => some fun s => 0 < size d s
  | _ => none

def integer (s : String) : Except String Int :=
  match (Text.trim s).toInt? with
  | some n => .ok n
  | none => .error ("Illegal number: " ++ s)

def compare (p : Int → Int → Bool) (a b : String) : Verdict := do
  return p (← integer a) (← integer b)

def binary? : String → Option (String → String → Verdict)
  | "=" => some fun a b => .ok (a = b)
  | "!=" => some fun a b => .ok (a ≠ b)
  | "-eq" => some (compare (· = ·))
  | "-ne" => some (compare (· ≠ ·))
  | "-lt" => some (compare (· < ·))
  | "-le" => some (compare (· ≤ ·))
  | "-gt" => some (compare (· > ·))
  | "-ge" => some (compare (· ≥ ·))
  | _ => none

def judge (d : Disk) : Nat → List String → Verdict
  | 0, _ => .error "too many arguments"
  | _ + 1, [] => .ok false
  | _ + 1, [s] => .ok (!s.isEmpty)
  | n + 1, [op, s] =>
    match op, unary? d op with
    | "!", _ => (judge d n [s]).map (!·)
    | _, some p => .ok (p s)
    | _, none => .error (op ++ ": unexpected operator")
  | n + 1, a :: b :: c :: rest =>
    match rest, binary? b with
    | [], some p => p a c
    | _, _ =>
      let args := a :: b :: c :: rest
      let parts (op : String) := (args.takeWhile (· ≠ op), (args.dropWhile (· ≠ op)).tail)
      if args.contains "-o" then do
        let (left, right) := parts "-o"
        let x ← judge d n left
        let y ← judge d n right
        return x || y
      else if args.contains "-a" then do
        let (left, right) := parts "-a"
        let x ← judge d n left
        let y ← judge d n right
        return x && y
      else if a = "!" then (judge d n (b :: c :: rest)).map (!·)
      else .error (b ++ ": unexpected operator")

def run (name : String) : Tool := fun args r =>
  match judge r.disk (args.length + 1) args with
  | .ok b => r.endWith b
  | .error e => { r.complain (name ++ ": " ++ e) with status := 2 }

def runBracketed : Tool := fun args r =>
  if args.getLast? = some "]" then run "[" args.dropLast r
  else { r.complain "[: missing ]" with status := 2 }

end BundleWatch.Tool.Condition
