import BundleWatch.Process.Status
import BundleWatch.Process.Tracker
import BundleWatch.Shell.Run

/-!
# Programs in time

Each started tool is a program with one or more threads, and the schedule says when each of them goes on.
A program ends with its first thread, and what other threads it started may outlive it. Time only passes
when no thread can go on.
-/

set_option autoImplicit false

namespace BundleWatch

structure Strand where
  id : Nat
  startedBy : Nat
  wake : Nat
  thread : Thread

structure Program where
  job : Job
  strands : List Strand
  nextStrand : Nat := 1
  ended : List (Nat × Nat) := []
  status : Option CommandStatus := none

namespace Program

def leader : Nat := 0

def start (now : Nat) (job : Job) (thread : Thread) : Program :=
  { job := job, strands := [⟨leader, leader, now, thread⟩] }

def isReady (p : Program) (now : Nat) (s : Strand) : Bool :=
  s.wake ≤ now &&
    match s.thread with
    | .wait (some id) _ => !p.strands.any (·.id = id)
    | .wait none _ => !p.strands.any fun t => t.startedBy = s.id && t.id ≠ s.id
    | _ => true

def replace (p : Program) (s : Strand) : Program :=
  { p with strands := p.strands.map fun t => if t.id = s.id then s else t }

def codeOf : CommandStatus → Nat
  | .success => 0
  | .interrupted => 128 + CommandStatus.terminateSignal
  | .failed code => code.toNat

def endStrand (p : Program) (id : Nat) (status : CommandStatus) : Program :=
  { p with
    strands := p.strands.filter (·.id ≠ id)
    ended := (id, codeOf status) :: p.ended
    status := if id = leader then some (p.status.getD status) else p.status }

def step (p : Program) (now : Nat) (s : Strand) (d : Disk) : Program × Disk :=
  match s.thread with
  | .exit code => (p.endStrand s.id (.ofCode (code % 256)), d)
  | .act run =>
    let (d, rest) := run d
    (p.replace { s with thread := rest }, d)
  | .sleep time rest => (p.replace { s with wake := now + time, thread := rest }, d)
  | .fork other rest =>
    let child : Strand := ⟨p.nextStrand, s.id, now, other⟩
    let p := p.replace { s with thread := rest p.nextStrand }
    ({ p with strands := p.strands ++ [child], nextStrand := p.nextStrand + 1 }, d)
  | .wait target rest =>
    let code := (target.bind fun id => p.ended.lookup id).getD 0
    (p.replace { s with thread := rest code }, d)
  | .signal target n rest => ((p.replace { s with thread := rest }).endStrand target (.ofSignal n), d)

def run (now : Nat) : Nat → Program → Disk → Program × Disk
  | 0, p, d => (p, d)
  | n + 1, p, d =>
    match p.strands.find? (p.isReady now) with
    | none => (p, d)
    | some s =>
      let (p, d) := p.step now s d
      run now n p d

def nextWake? (p : Program) (now : Nat) : Option Nat :=
  ((p.strands.map (·.wake)).filter (now < ·)).min?

end Program

structure Exit where
  job : Job
  status : CommandStatus
deriving DecidableEq

structure Schedule where
  /-- In milliseconds. -/
  now : Nat := 0
  programs : List Program := []
  /-- Jobs with smaller numbers were started. -/
  started : Nat := 0

namespace Schedule

def patience : Nat := 1000000

def firstPid : Nat := 4000

def programOf (s : Schedule) (d : Disk) (job : Job) : Program :=
  let dir := (d.locate .target job.dir).toOption.getD d.currentDir
  .start s.now job (Shell.thread (firstPid + 10000 * job.id) dir job.argv)

def follow (s : Schedule) (t : Tracker) (d : Disk) : Schedule :=
  let kept := s.programs.filter fun p => p.status.isSome || t.running.any (·.id = p.job.id)
  let fresh := t.running.filter (s.started ≤ ·.id)
  { s with
    programs := kept ++ fresh.map (s.programOf d)
    started := max s.started t.nextId }

def runProgram (now : Nat) (p : Program) (d : Disk) : Program × Disk × List Exit :=
  let (q, d) := p.run now patience d
  match p.status, q.status with
  | none, some status => (q, d, [⟨q.job, status⟩])
  | _, _ => (q, d, [])

def run (s : Schedule) (d : Disk) : Schedule × Disk × List Exit :=
  let (programs, d, exits) := s.programs.foldl (fun (ps, d, exits) p =>
    let (p, d, ended) := runProgram s.now p d
    (ps ++ [p], d, exits ++ ended)) ([], d, [])
  ({ s with programs := programs.filter fun p => !p.strands.isEmpty || p.status.isNone }, d, exits)

def tick? (s : Schedule) : Option Schedule :=
  ((s.programs.filterMap (·.nextWake? s.now)).min?).map fun t => { s with now := t }

def runUntilExit : Nat → Schedule → Disk → Schedule × Disk × List Exit
  | 0, s, d => (s, d, [])
  | n + 1, s, d =>
    let (s, d, exits) := s.run d
    if exits.isEmpty then
      match s.tick? with
      | some s => runUntilExit n s d
      | none => (s, d, [])
    else (s, d, exits)

def killAll (s : Schedule) : Schedule := { s with programs := [] }

end Schedule

end BundleWatch
