/-!
# How programs end

A program ends with a code or by a signal. The signals that ask a program to stop are no failure.
-/

set_option autoImplicit false

namespace BundleWatch

inductive CommandStatus
  | success
  | interrupted
  | failed (code : Int)
deriving DecidableEq, Inhabited

namespace CommandStatus

def interruptSignal : Nat := 2
def terminateSignal : Nat := 15

def ofCode (code : Nat) : CommandStatus := if code = 0 then .success else .failed code

def ofSignal (n : Nat) : CommandStatus :=
  if n = interruptSignal ∨ n = terminateSignal then .interrupted else .failed (128 + n)

/-- Reads the word in which the system reports the end of a program: a signal in the low seven
bits, or none and a code in the second byte. Only the word zero means success, and a program that
was stopped has neither code nor signal. -/
def ofWaitStatus (raw : Int) : CommandStatus :=
  let word := (raw % Int.ofNat UInt32.size).toNat
  let signal := word % 128
  if word = 0 then .success
  else if signal = 0 then .failed (word / 256 % 256 : Nat)
  else if signal = 127 then .failed (-1)
  else ofSignal signal

end CommandStatus

end BundleWatch
