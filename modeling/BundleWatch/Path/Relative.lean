import BundleWatch.Path.Basic
import BundleWatch.Text.Encoding

/-!
# Relative names

Rules, filters and listings see a file by its name relative to a directory, written with `/`.
-/

set_option autoImplicit false

namespace BundleWatch.Path

variable [Encoding]

/-- What is read of a relative path, with `/` for every backslash. A path without text has no name. -/
def relativeText? (p : Path) : Option String :=
  let cs := (Encoding.lossy p.text).toList.map fun c => if c = '\\' then '/' else c
  if cs.isEmpty then none else some (String.ofList cs)

/-- The name of `p` relative to `base`. Where the spellings do not show that `p` lies below
`base`, the places where the disk has them are compared. -/
def relativeTo? (place : Path → Option Path) (base p : Path) : Option String :=
  match base.below? p with
  | some q => q.relativeText?
  | none =>
    match place base, place p with
    | some base', some p' => (base'.below? p').bind relativeText?
    | _, _ => none

end BundleWatch.Path
