import BundleWatch.Hash.Blake3
import BundleWatch.Text.Quoted
import BundleWatch.Text.Utf8

/-!
# Tasks

A task names a handler and its arguments. Its identity is the digest of an encoding in which every
text and every list carries its length.
-/

set_option autoImplicit false

namespace BundleWatch

inductive Arg
  | text (s : String)
  | number (n : Int64)
  | list (xs : List String)
deriving DecidableEq, Inhabited

namespace Arg

def text? : Arg → Option String
  | .text s => some s
  | _ => none

def list? : Arg → Option (List String)
  | .list xs => some xs
  | _ => none

def describe : Arg → String
  | .text s => Text.quote s
  | .number n => toString n.toInt
  | .list xs => Text.quoteList xs

end Arg

abbrev TaskId := Digest

namespace TaskId

def word (n : UInt64) : Bytes :=
  (List.range 8).map fun i => (n >>> (8 * i.toUInt64)).toUInt8

def count (n : Nat) : Bytes := word n.toUInt64

def encodeText (s : String) : Bytes :=
  let bs := Bytes.ofText s
  count bs.length ++ bs

def encodeArg : Arg → Bytes
  | .text s => 0x73 :: encodeText s
  | .number n => 0x6E :: word n.toUInt64
  | .list xs => 0x6C :: count xs.length ++ xs.flatMap encodeText

def encode (handler : String) (args : List Arg) : Bytes :=
  encodeText handler ++ count args.length ++ args.flatMap encodeArg

def derive (handler : String) (args : List Arg) : TaskId :=
  Digest.ofBytes (encode handler args)

def display (i : TaskId) : String := i.short 12

end TaskId

structure Task where
  handler : String
  args : List Arg
  id : TaskId
  id_eq : id = TaskId.derive handler args
deriving DecidableEq

namespace Task

def new (handler : String) (args : List Arg) : Task :=
  ⟨handler, args, TaskId.derive handler args, rfl⟩

def describe (t : Task) : String :=
  t.handler ++ "(" ++ ", ".intercalate (t.args.map Arg.describe) ++ ")"

end Task

end BundleWatch
