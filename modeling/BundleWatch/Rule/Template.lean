import BundleWatch.Path.Basic
import BundleWatch.Text.Substitute

/-!
# Templates

A template names values of the file that matched in braces: its path, its relative name, what the
pattern captured, the output directory, and the capture without its ending.
-/

set_option autoImplicit false

namespace BundleWatch

structure TemplateVars where
  path : String
  rel : String
  capture : String
  out : String
  stem : String
deriving DecidableEq

namespace TemplateVars

/-- A name without its last ending. A dot in front is no ending. -/
def stemOf (name : List Char) : List Char :=
  match name.reverse.dropWhile (· ≠ '.') with
  | _ :: rest => if rest.isEmpty then name else rest.reverse
  | [] => name

def stemOfPath (cs : List Char) : List Char :=
  let name := (cs.reverse.takeWhile (· ≠ '/')).reverse
  cs.take (cs.length - name.length) ++ stemOf name

def ofFile (path : Path) (rel : String) (capture : Option String) (out : Path) : TemplateVars :=
  let capture := capture.getD rel
  { path := path.text
    rel := rel
    capture := capture
    out := out.text
    stem := String.ofList (stemOfPath capture.toList) }

def bindings (v : TemplateVars) : List (String × String) :=
  [("\x7bpath\x7d", v.path), ("\x7brel\x7d", v.rel), ("\x7bcapture\x7d", v.capture),
   ("\x7bout\x7d", v.out), ("\x7bstem\x7d", v.stem)]

def render (v : TemplateVars) (template : String) : String :=
  v.bindings.foldl (fun text b => Text.replaceAll b.1 b.2 text) template

end TemplateVars

end BundleWatch
