import BundleWatch.Engine.Loop
import BundleWatch.Output.Listing
import BundleWatch.Process.Host
import BundleWatch.Process.Schedule
import BundleWatch.Session.Project
import BundleWatch.Task.Builtin

/-!
# Sessions

A session builds a project on a disk. The loop handles its events first; when none is left the started
tools go on, and when they sleep time passes. Tools that end and files that change are reported to the
loop.
-/

set_option autoImplicit false

namespace BundleWatch

structure Session where
  project : Project
  loop : Loop Disk
  schedule : Schedule := {}
  seen : Disk

namespace Session

/-! ## Beginning -/

def engineOf (settings : Settings) (rules : RuleTable) (d : Disk) : Engine Disk where
  settings := settings
  rules := rules
  handlers := HandlerRegistry.empty.registerBuiltins
  world := { files := d }
  watches := if settings.watch then .new else .disabled
  exitWhenIdle := !settings.watch

def addScan (p : Project) (e : Engine Disk) (s : ScanSpec) : Engine.Result Disk Unit :=
  match s.filter.mapM Pattern.compile with
  | .error err => (e, .error (.config (.pattern err)))
  | .ok filter =>
    let dir := p.root.join ⟨s.dir⟩
    if s.watchOnly then
      let (e, r) := e.watchDir dir filter
      (e, r.map fun _ => ())
    else
      let (e, r) := e.scan dir filter
      (e, r.map fun _ => ())

def addScans (p : Project) (e : Engine Disk) : List ScanSpec → Engine.Result Disk Unit
  | [] => (e, .ok ())
  | s :: ss =>
    match addScan p e s with
    | (e, .ok ()) => addScans p e ss
    | (e, .error err) => (e, .error err)

def launch (p : Project) (watch verbose : Bool) (d : Disk) : Disk × Except BuildError Session :=
  let s := Settings.ofConfig p.config p.root watch verbose
  match d.makeDirs s.outputDir with
  | (d, .error e) => (d, .error (.other ⟨"creating output dir " ++ s.outputDir.quoted, [e.message]⟩))
  | (d, .ok ()) =>
    match p.config.ruleTable with
    | .error e => (d, .error (.config e))
    | .ok rules =>
      match addScans p (engineOf s rules d) p.config.scans with
      | (e, .error err) => (e.world.files, .error err)
      | (e, .ok ()) =>
        let d := e.world.files
        (d, .ok { project := p, loop := Loop.start e [], seen := d })

/-! ## Going on -/

def disk (s : Session) : Disk := s.loop.engine.world.files

def setDisk (s : Session) (d : Disk) : Session :=
  let e := s.loop.engine
  { s with loop := { s.loop with engine := { e with world := { e.world with files := d } } } }

def post (s : Session) (ev : Event) : Session := { s with loop := s.loop.post ev }

def changes (before after : Disk) : List Location :=
  let gone := before.entries.filter fun e => (after.get? e.1).isNone
  let new := after.entries.reverse.filter fun e => before.get? e.1 ≠ some e.2
  (gone ++ new).map (·.1)

def changeEvents (s : Session) (l : Location) : List Event :=
  s.loop.engine.watches.registrations.zipIdx.filterMap fun (r, id) =>
    match s.disk.locate .target r.dir with
    | .ok base =>
      if base.isPrefixOf l && base.length < l.length then
        some (.pathChanged id (r.dir.join ⟨"/".intercalate (l.drop base.length)⟩))
      else none
    | .error _ => none

def notice (s : Session) : Session :=
  let evs := (changes s.seen s.disk).flatMap s.changeEvents
  let s := { s with seen := s.disk }
  evs.foldl post s

def patience : Nat := 100000

def handleEvents (s : Session) : Session := ({ s with loop := s.loop.run patience }).notice

def runTools (s : Session) : Session :=
  let schedule := s.schedule.follow s.loop.engine.world.processes s.disk
  let (schedule, d, exits) := schedule.run s.disk
  let s := ({ s with schedule := schedule }.setDisk d).notice
  exits.foldl (fun s e => s.post (.commandExited e.job.id e.job.description e.status)) s

def stopTools (s : Session) : Session :=
  if s.loop.status = .running then s else { s with schedule := s.schedule.killAll }

def settle : Nat → Session → Session
  | 0, s => s.stopTools
  | n + 1, s =>
    let s := s.handleEvents.runTools
    if s.loop.isReady then settle n s else s.stopTools

def tick? (s : Session) : Option Session :=
  if s.loop.status = .running then s.schedule.tick?.map fun t => { s with schedule := t } else none

def runUntil (p : Session → Bool) : Nat → Session → Session
  | 0, s => s
  | n + 1, s =>
    let s := s.settle patience
    if p s then s
    else
      match s.tick? with
      | some s => runUntil p n s
      | none => s

def runToEnd (s : Session) : Session := s.runUntil (fun _ => false) patience

/-! ## Ending -/

def shutDown (s : Session) : Session := ((s.post .shutdown).handleEvents).stopTools

/-- What came of a session whose loop ended. A build without watching looks for its artifacts at the
end, and only says so if some are missing. -/
def outcome (s : Session) : Except BuildError Unit :=
  match s.loop.status with
  | .failed e => .error e
  | .running | .stopped =>
    let settings := s.loop.engine.settings
    let required := s.project.config.gate.required
    if settings.watch || required.isEmpty then .ok ()
    else ((isComplete s.disk settings.outputDir required).map fun _ => ()).mapError .other

end Session

end BundleWatch
