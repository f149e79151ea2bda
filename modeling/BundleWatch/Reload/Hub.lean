/-!
# The live-reload hub

The hub sends the name of a changed output file to every client that is attached. Each client has a
mailbox, which it empties when it likes and which it may give up. Clients that gave up are dropped
with the next message; the numbers of clients are never used again.
-/

set_option autoImplicit false

namespace BundleWatch

structure Mailbox where
  waiting : List String := []
  hungUp : Bool := false
deriving DecidableEq, Inhabited

structure Hub where
  /-- The attached clients, in the order of their numbers. -/
  clients : List Nat := []
  /-- One mailbox for each client there ever was. -/
  mailboxes : List Mailbox := []
deriving DecidableEq, Inhabited

namespace Hub

def empty : Hub := {}

def mailbox? (h : Hub) (client : Nat) : Option Mailbox := h.mailboxes[client]?

def isAttached (h : Hub) (client : Nat) : Bool := h.clients.contains client

def attach (h : Hub) : Hub × Nat :=
  let client := h.mailboxes.length
  (⟨h.clients ++ [client], h.mailboxes ++ [⟨[], false⟩]⟩, client)

def detach (h : Hub) (client : Nat) : Hub × Bool :=
  ({ h with clients := h.clients.filter (· ≠ client) }, h.isAttached client)

def detachAll (h : Hub) : Hub := { h with clients := [] }

def update (h : Hub) (client : Nat) (f : Mailbox → Mailbox) : Hub :=
  { h with mailboxes := h.mailboxes.modify client f }

def hangUp (h : Hub) (client : Nat) : Hub := h.update client fun _ => ⟨[], true⟩

def isOpen (h : Hub) (client : Nat) : Bool := ((h.mailbox? client).map (!·.hungUp)).getD false

def deliver (h : Hub) (message : String) (client : Nat) : Hub :=
  h.update client fun b => { b with waiting := b.waiting ++ [message] }

def notify (h : Hub) (message : String) : Hub × Nat :=
  let reached := h.clients.filter h.isOpen
  ({ reached.foldl (fun h c => h.deliver message c) h with clients := reached }, reached.length)

def receive (h : Hub) (client : Nat) : Hub × Option (List String) :=
  match h.mailbox? client with
  | some b =>
    if b.hungUp then (h, none) else (h.update client fun b => { b with waiting := [] }, some b.waiting)
  | none => (h, none)

def count (h : Hub) : Nat := h.clients.length

end Hub

def clientName (client : Nat) : String := "client#" ++ toString client

end BundleWatch
