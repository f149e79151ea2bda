/-!
# Written JSON

Objects whose values are texts, one member a line, indented by two blanks a level.
-/

set_option autoImplicit false

namespace BundleWatch.Text.Json

private def hex (n : Nat) : Char := (Nat.toDigits 16 n).headD '0'

def escape (c : Char) : List Char :=
  if c = '"' ∨ c = '\\' then ['\\', c]
  else if c.toNat = 8 then ['\\', 'b']
  else if c.toNat = 12 then ['\\', 'f']
  else if c = '\n' then ['\\', 'n']
  else if c = '\r' then ['\\', 'r']
  else if c = '\t' then ['\\', 't']
  else if c.toNat < 32 then ['\\', 'u', '0', '0', hex (c.toNat / 16), hex (c.toNat % 16)]
  else [c]

def text (s : String) : String :=
  String.ofList ('"' :: s.toList.flatMap escape ++ ['"'])

private def indent (level : Nat) : String := "".pushn ' ' (2 * level)

def object (level : Nat) (members : List (String × String)) : String :=
  if members.isEmpty then "\x7b\x7d"
  else
    "\x7b\n" ++
    ",\n".intercalate (members.map fun (k, v) => indent (level + 1) ++ text k ++ ": " ++ v) ++
    "\n" ++ indent level ++ "\x7d"

end BundleWatch.Text.Json
