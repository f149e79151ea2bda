import BundleWatch.Failure
import BundleWatch.Path.Relative
import BundleWatch.Text.Utf8

/-!
# File systems

What a build asks of the place where its files are. A state of type `σ` holds the files; an
operation that changes them returns the new state, also if it fails halfway. Writing and copying make
the directories above their target.
-/

set_option autoImplicit false

namespace BundleWatch

class FileSystem (σ : Type) where
  /-- Opening may fail, and reading what was opened may fail as well. -/
  openRead : σ → Path → Except Failure (Except Failure Bytes)
  readText : σ → Path → Except Failure String
  write : σ → Path → Bytes → σ × Except Failure Unit
  copy : σ → Path → Path → σ × Except Failure Nat
  isThere : σ → Path → Bool
  /-- Like `isDir` this looks through links; `isLink` does not. -/
  isFile : σ → Path → Bool
  isDir : σ → Path → Bool
  isLink : σ → Path → Bool
  canonicalize : σ → Path → Except Failure Path
  readDir : σ → Path → Except Failure (List Path)
  /-- Where the disk has a path, if files are on a disk at all. -/
  place : σ → Path → Option Path
  /-- No more directories than this can be told apart by `canonicalize`. -/
  entryCount : σ → Nat
  /-- No directory lies deeper than this below another one. -/
  depthBound : σ → Nat

class Host (σ : Type) extends FileSystem σ where
  startFault? : σ → Path → List String → Option String

namespace FileSystem

variable {σ : Type} [FileSystem σ]

def readBytes (s : σ) (p : Path) : Except Failure Bytes := do
  match ← openRead s p with
  | .ok bs => return bs
  | .error f => throw (f.under ("reading file " ++ p.quoted))

def relative? (s : σ) (base p : Path) : Option String := Path.relativeTo? (place s) base p

end FileSystem

end BundleWatch
