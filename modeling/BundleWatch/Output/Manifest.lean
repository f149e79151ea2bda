import BundleWatch.Hash.Blake3
import BundleWatch.Output.Listing
import BundleWatch.Text.Json

/-!
# The manifest

The manifest gives every artifact a version: the first eight digits of the digest of its contents.
It is written only if it changed.
-/

set_option autoImplicit false

namespace BundleWatch

variable {σ : Type} [FileSystem σ]

open FileSystem

def fileDigest (s : σ) (p : Path) : Except Failure Digest :=
  match openRead s p with
  | .error f => .error (f.under ("opening file for hashing: " ++ p.quoted))
  | .ok contents => contents.map Digest.ofBytes

def versionLength : Nat := 8

structure Manifest where
  files : List (String × String)
deriving DecidableEq

namespace Manifest

def entry (s : σ) (out : Path) (name : String) : Except Failure (String × String) := do
  return (name, (← fileDigest s (out.join ⟨name⟩)).short versionLength)

def build (s : σ) (out : Path) (manifestName : String) : Except Failure Manifest := do
  let names := (← artifacts s out).filter (· ≠ manifestName)
  return ⟨← names.mapM (entry s out)⟩

def render (m : Manifest) : String :=
  Text.Json.object 0
    [("files", Text.Json.object 1 (m.files.map fun e => (e.1, Text.Json.text e.2)))] ++ "\n"

def isCurrent (s : σ) (target : Path) (text : String) : Bool :=
  isFile s target &&
  match readText s target with
  | .ok old => old = text
  | .error _ => false

def regenerate (s : σ) (out : Path) (manifestName : String) : σ × Except Failure Bool :=
  match build s out manifestName with
  | .error f => (s, .error f)
  | .ok m =>
    let target := out.join ⟨manifestName⟩
    if isCurrent s target m.render then (s, .ok false)
    else
      let (s, done) := write s target (.ofText m.render)
      (s, done.map fun _ => true)

end Manifest

end BundleWatch
