import BundleWatch.Process.Tracker
import BundleWatch.Shell.Run

/-!
# Starting programs on a disk

A program is started in a directory that has to be there. It is found by its name, or it is a file, which
no system here can run.
-/

set_option autoImplicit false

namespace BundleWatch

namespace Disk

def startFault? (d : Disk) (dir : Path) (program : String) : Option DiskError :=
  match d.stat dir with
  | .error e => some e
  | .ok (l, .dir) =>
    if Shell.isProgram program then none
    else if program.toList.contains '/' then
      match ({ d with currentDir := l }).stat ⟨program⟩ with
      | .error e => some e
      | .ok _ => some .denied
    else some .notFound
  | .ok _ => some .notDirectory

instance : Host Disk where
  startFault? d dir argv :=
    if argv.any fun a => a.toList.contains '\x00' then some "nul byte found in provided data"
    else (d.startFault? dir (argv.headD "")).map DiskError.message

end Disk

end BundleWatch
