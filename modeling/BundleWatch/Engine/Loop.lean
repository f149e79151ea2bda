import BundleWatch.Engine.Step

/-!
# The event loop

The loop takes one event after the other from a channel. A flush that is scheduled goes to the end of
the channel, behind all that waits there. The first error ends the loop.
-/

set_option autoImplicit false

namespace BundleWatch

inductive LoopStatus
  | running
  | stopped
  | failed (e : BuildError)
deriving DecidableEq

structure Loop (σ : Type) where
  engine : Engine σ
  channel : List Event := []
  status : LoopStatus := .running

namespace Loop

variable {σ : Type}

def post (l : Loop σ) (ev : Event) : Loop σ := { l with channel := l.channel ++ [ev] }

def apply (l : Loop σ) (s : Step) : Loop σ :=
  let flushes := (s.commands.filter (· = .scheduleFlush)).map fun _ => Event.flush
  { l with
    channel := l.channel ++ flushes
    status := if s.keepRunning then l.status else .stopped }

def start (e : Engine σ) (channel : List Event) : Loop σ :=
  let (e, s) := e.nextStep true
  Loop.apply { engine := e, channel := channel } s

def isReady (l : Loop σ) : Bool := l.status = .running && !l.channel.isEmpty

def advance [FileSystem σ] (l : Loop σ) : Loop σ :=
  match l.status, l.channel with
  | .running, ev :: rest =>
    match l.engine.step ev with
    | (e, .ok s) => Loop.apply { l with engine := e, channel := rest } s
    | (e, .error err) => { l with engine := e, channel := rest, status := .failed err }
  | _, _ => l

def run [FileSystem σ] : Nat → Loop σ → Loop σ
  | 0, l => l
  | n + 1, l => if l.isReady then run n l.advance else l

def finalHub (l : Loop σ) : Hub := l.engine.world.hub.detachAll

end Loop

end BundleWatch
