import BundleWatch.Process.Host
import BundleWatch.Process.Schedule

/-!
# Machines

A disk and the tools that run on it. A tool can be started, waited for and forgotten, and all can be
killed at once.
-/

set_option autoImplicit false

namespace BundleWatch

structure Machine where
  disk : Disk
  tracker : Tracker := {}
  schedule : Schedule := {}
  exits : List Exit := []

namespace Machine

def track (m : Machine) (t : Tracker) : Machine :=
  { m with tracker := t, schedule := m.schedule.follow t m.disk }

def spawn (m : Machine) (description : String) (argv : List String) (dir : Path) :
    Machine × Except Tracker.SpawnError Nat :=
  match m.tracker.spawn m.disk description argv dir with
  | .ok (t, id) => (m.track t, .ok id)
  | .error e => (m, .error e)

def patience : Nat := 100000

def exit? (m : Machine) (id : Nat) : Option Exit := m.exits.find? (·.job.id = id)

def awaitWithin : Nat → Machine → Nat → Machine × Option Exit
  | 0, m, id => (m, m.exit? id)
  | n + 1, m, id =>
    match m.exit? id with
    | some e => (m, some e)
    | none =>
      let (s, d, exits) := m.schedule.runUntilExit patience m.disk
      let m := { m with schedule := s, disk := d, exits := m.exits ++ exits }
      if exits.isEmpty then (m, none) else awaitWithin n m id

def await (m : Machine) (id : Nat) : Machine × Option Exit :=
  awaitWithin (m.schedule.programs.length + 1) m id

def finish (m : Machine) (id : Nat) : Machine × Option String :=
  let (t, description) := m.tracker.finish id
  ({ m with tracker := t }, description)

def killAll (m : Machine) : Machine := m.track m.tracker.killAll

end Machine

end BundleWatch
