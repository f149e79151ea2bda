import BundleWatch.Files.Basic

/-!
# Files that cannot be listed

A file system in which, while a fault lasts, no directory can be read.
-/

set_option autoImplicit false

namespace BundleWatch

structure Faulty (σ : Type) where
  files : σ
  fault : Option String := none

open FileSystem in
instance {σ : Type} [FileSystem σ] : FileSystem (Faulty σ) where
  openRead s := openRead s.files
  readText s := readText s.files
  write s p bytes :=
    let (files, done) := write s.files p bytes
    ({ s with files := files }, done)
  copy s source target :=
    let (files, done) := copy s.files source target
    ({ s with files := files }, done)
  isThere s := isThere s.files
  isFile s := isFile s.files
  isDir s := isDir s.files
  isLink s := isLink s.files
  canonicalize s := canonicalize s.files
  readDir s p :=
    match s.fault with
    | none => readDir s.files p
    | some text => .error ⟨text, []⟩
  place s := place s.files
  entryCount s := entryCount s.files
  depthBound s := depthBound s.files

end BundleWatch
