import BundleWatch.Tool.Condition
import BundleWatch.Tool.Files
import BundleWatch.Tool.Text

/-!
# The tools under their names
-/

set_option autoImplicit false

namespace BundleWatch.Tool

def find? : String → Option Tool
  | "true" | ":" => some fun _ r => r
  | "false" => some fun _ r => r.endWith false
  | "echo" => some echo
  | "printf" => some printf
  | "seq" => some sequence
  | "basename" => some baseName
  | "dirname" => some dirName
  | "cat" => some concatenate
  | "tee" => some tee
  | "head" => some head
  | "tail" => some tail
  | "wc" => some count
  | "tr" => some recode
  | "sort" => some sortLines
  | "uniq" => some unique
  | "cp" => some copyFiles
  | "mv" => some moveFiles
  | "rm" => some removeFiles
  | "rmdir" => some removeDirs
  | "mkdir" => some makeDirs
  | "touch" => some touchFiles
  | "ln" => some linkFiles
  | "ls" => some listFiles
  | "pwd" => some currentDir
  | "test" => some (Condition.run "test")
  | "[" => some Condition.runBracketed
  | _ => none

end BundleWatch.Tool
