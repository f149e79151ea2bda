import BundleWatch.Text.Blank
import BundleWatch.Text.Utf8

/-!
# The event stream

The texts that a client and the live-reload server exchange: a request with headers up to an empty
line, one of two responses, and one frame for each message.
-/

set_option autoImplicit false

namespace BundleWatch.Stream

def okHeader : String :=
  "HTTP/1.1 200 OK\r\nContent-Type: text/event-stream\r\nCache-Control: no-cache\r\n" ++
  "Connection: keep-alive\r\nAccess-Control-Allow-Origin: *\r\n\r\n"

def notFound : String :=
  "HTTP/1.1 404 Not Found\r\nContent-Length: 0\r\nConnection: close\r\n\r\n"

def frame (message : String) : String := "data: " ++ message ++ "\n\n"

def asksFor (endpoint line : String) : Bool :=
  match Text.words line with
  | method :: target :: _ =>
    method == "GET" && String.ofList (target.toList.takeWhile (· ≠ '?')) == endpoint
  | _ => false

inductive Request
  | partly
  | broken
  | complete (line : String)
deriving DecidableEq

/-- Takes a line with its end. Without an end the line is whole only if no more can come. -/
def takeLine (closed : Bool) (bs : Bytes) : Option (Bytes × Bytes) :=
  let (line, rest) := bs.span (· ≠ 0x0A)
  match rest with
  | b :: rest => some (line ++ [b], rest)
  | [] => if closed then some (line, []) else none

def skipHeaders (closed : Bool) (line : String) : Nat → Bytes → Request
  | 0, _ => .partly
  | n + 1, bs =>
    match takeLine closed bs with
    | none => .partly
    | some (header, rest) =>
      match header.toText with
      | .error _ => .broken
      | .ok s =>
        if s = "" ∨ s = "\n" ∨ s = "\r\n" then .complete line else skipHeaders closed line n rest

def Request.read (closed : Bool) (bs : Bytes) : Request :=
  match takeLine closed bs with
  | none => .partly
  | some (first, rest) =>
    match first.toText with
    | .error _ => .broken
    | .ok line => skipHeaders closed line (rest.length + 1) rest

end BundleWatch.Stream
