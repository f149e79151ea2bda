import BundleWatch.Files.Basic
import BundleWatch.Pattern.Basic

/-!
# Walking a directory

All files below a directory whose relative names a filter accepts. Links to directories are
entered, but no directory is read twice, so that links that lead back do no harm. A link is never
reported as a file.
-/

set_option autoImplicit false

namespace BundleWatch

/-- The failure of a loop that ran longer than its file system can make it run. -/
def endless (dir : Path) : Failure := ⟨"no end of directories below " ++ dir.quoted, []⟩

variable {σ : Type} [FileSystem σ]

open FileSystem

def identity (s : σ) (dir : Path) : Path :=
  match canonicalize s dir with
  | .ok p => p
  | .error _ => dir

def passes (s : σ) (base : Path) (filter : Option Pattern) (p : Path) : Bool :=
  match filter with
  | none => true
  | some f => ((relative? s base p).map f.isMatch).getD false

def filesAmong (s : σ) (base : Path) (filter : Option Pattern) (entries : List Path) : List Path :=
  entries.filter fun p => !isDir s p && !isLink s p && isFile s p && passes s base filter p

/-- Works through the directories on a stack, the top first. At most `n` directories are read; those
in `seen` are passed over. -/
def walkFrom (s : σ) (base : Path) (filter : Option Pattern) (n : Nat) (seen : List Path) :
    List Path → List Path → Except Failure (List Path)
  | [], files => .ok files
  | dir :: stack, files =>
    let id := identity s dir
    if seen.any fun p => p.Same id then walkFrom s base filter n seen stack files
    else
      match n with
      | 0 => .error (endless base)
      | n + 1 => do
        let entries ← readDir s dir
        walkFrom s base filter n (id :: seen) ((entries.filter (isDir s)).reverse ++ stack)
          (files ++ filesAmong s base filter entries)
termination_by stack => (n, stack.length)

def walkFiles (s : σ) (dir : Path) (filter : Option Pattern) : Except Failure (List Path) :=
  (walkFrom s dir filter (entryCount s + 1) [] [dir] []).map Path.sort

end BundleWatch
