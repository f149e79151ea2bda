import BundleWatch.Reload.Hub
import BundleWatch.Reload.Stream

/-!
# Connections

A connection reads its request, is refused or asks the engine to be attached, and then writes a
header and one frame for each message. It writes in pieces of any length. When it ends after it was
attached, it tells the engine once.
-/

set_option autoImplicit false

namespace BundleWatch

inductive ConnectionPhase
  | reading
  | refusing (left : Bytes)
  | registering
  | streaming (client : Nat) (left : Bytes)
  | closed
deriving DecidableEq

structure Connection where
  phase : ConnectionPhase := .reading
  written : Bytes := []
deriving DecidableEq

inductive Notice
  | connected
  | disconnected (client : Nat)
deriving DecidableEq

def Notice.describe : Notice → String
  | .connected => "connected"
  | .disconnected c => "disconnected " ++ clientName c

namespace Connection

def answerRequest (c : Connection) (endpoint : String) (r : Stream.Request) :
    Connection × List Notice :=
  match c.phase, r with
  | .reading, .complete line =>
    if Stream.asksFor endpoint line then ({ c with phase := .registering }, [.connected])
    else ({ c with phase := .refusing (.ofText Stream.notFound) }, [])
  | .reading, .broken => ({ c with phase := .closed }, [])
  | _, _ => (c, [])

def attached (c : Connection) (client : Nat) : Connection :=
  match c.phase with
  | .registering => { c with phase := .streaming client (.ofText Stream.okHeader) }
  | _ => c

def write (c : Connection) (n : Nat) : Connection :=
  match c.phase with
  | .refusing left =>
    let rest := left.drop n
    ⟨if rest.isEmpty then .closed else .refusing rest, c.written ++ left.take n⟩
  | .streaming client left => ⟨.streaming client (left.drop n), c.written ++ left.take n⟩
  | _ => c

def take (c : Connection) (message : String) : Connection :=
  match c.phase with
  | .streaming client [] => { c with phase := .streaming client (.ofText (Stream.frame message)) }
  | _ => c

def finish (c : Connection) : Connection × List Notice :=
  match c.phase with
  | .streaming client _ => ({ c with phase := .closed }, [.disconnected client])
  | _ => ({ c with phase := .closed }, [])

def writeAll (c : Connection) : Connection :=
  match c.phase with
  | .refusing left => c.write left.length
  | .streaming _ left => c.write left.length
  | _ => c

end Connection

/-! ## One visit -/

inductive Network
  | loopback
  | unreachable
deriving DecidableEq

structure Visit where
  response : Bytes := []
  notices : List Notice := []
  delivered : List Nat := []
deriving DecidableEq

def exchange (hub : Hub) (client : Nat) (c : Connection) : List String → Connection × List Nat
  | [] => (c, [])
  | m :: ms =>
    let (hub, n) := hub.notify m
    let (hub, received) := hub.receive client
    let c := (received.getD []).foldl (fun c m => (c.take m).writeAll) c
    let (c, ns) := exchange hub client c ms
    (c, n :: ns)

/-- A client alone at the server: it sends a request, perhaps closes its side, and otherwise waits
for the frames of the given messages before it leaves. -/
def visit (net : Network) (endpoint : String) (request : Bytes) (closes : Bool)
    (messages : List String) : Except String Visit :=
  match net with
  | .unreachable => .error "Network is unreachable (os error 101)"
  | .loopback =>
    let start : Connection := {}
    let (c, asked) := start.answerRequest endpoint (.read closes request)
    if asked.isEmpty then .ok { response := c.writeAll.written }
    else
      let (hub, client) := Hub.empty.attach
      let c := (c.attached client).writeAll
      let (c, delivered) := if closes then (c, []) else exchange hub client c messages
      let (c, left) := c.finish
      .ok ⟨c.written, asked ++ left, delivered⟩

end BundleWatch
