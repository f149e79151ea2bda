import BundleWatch.Files.Disk
import BundleWatch.Files.Memory

/-!
# Layouts

A layout lists files, directories and links that are put in place one after the other.
-/

set_option autoImplicit false

namespace BundleWatch

inductive LayoutItem
  | file (p : Path) (bytes : Bytes)
  | dir (p : Path)
  | link (p target : Path)

abbrev Layout := List LayoutItem

namespace Memory

def place (m : Memory) : LayoutItem → Memory
  | .file p bytes => m.addFile p bytes
  | .dir p => m.addDir p
  | .link p target => m.addLink p target

def placeAll (m : Memory) (l : Layout) : Memory := l.foldl place m

end Memory

namespace Disk

def place (d : Disk) (item : LayoutItem) : Disk :=
  let under (p : Path) := ((p.parent?.map d.makeDirs).map (·.1)).getD d
  match item with
  | .file p bytes => ((under p).create p bytes).toOption.getD d
  | .dir p => (d.makeDirs p).1
  | .link p target => ((under p).makeLink p target).toOption.getD d

def placeAll (d : Disk) (l : Layout) : Disk := l.foldl place d

def remove (d : Disk) (p : Path) : Disk := (d.unlink p).toOption.getD d

def below (d : Disk) (l : Location) : List (Location × Inode) :=
  let inner := d.entries.filterMap fun e =>
    if l.isPrefixOf e.1 && l.length < e.1.length then some (e.1.drop l.length, e.2) else none
  inner.mergeSort fun a b => !b.1.lex a.1

end Disk

end BundleWatch
