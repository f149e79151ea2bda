import BundleWatch.Text.Utf8

/-!
# The order of directory entries

A directory on disk lists its entries by a short digest of their names: half an MD4, over blocks of
eight words into which the name is packed, with each byte read as a signed number.
-/

set_option autoImplicit false

namespace BundleWatch.HalfMd4

structure Words where
  a : UInt32
  b : UInt32
  c : UInt32
  d : UInt32

def initial : Words := ⟨0x67452301, 0xefcdab89, 0x98badcfe, 0x10325476⟩

def rotate (x : UInt32) (n : UInt32) : UInt32 := (x <<< n) ||| (x >>> (32 - n))

def choose (x y z : UInt32) : UInt32 := z ^^^ (x &&& (y ^^^ z))

def majority (x y z : UInt32) : UInt32 := (x &&& y) + ((x ^^^ y) &&& z)

def parity (x y z : UInt32) : UInt32 := x ^^^ y ^^^ z

def step (f : UInt32 → UInt32 → UInt32 → UInt32) (w : Words) (x shift : UInt32) : Words :=
  ⟨w.d, rotate (w.a + f w.b w.c w.d + x) shift, w.b, w.c⟩

structure Round where
  mix : UInt32 → UInt32 → UInt32 → UInt32
  add : UInt32
  order : List Nat
  shifts : List UInt32

def rounds : List Round :=
  [⟨choose, 0, [0, 1, 2, 3, 4, 5, 6, 7], [3, 7, 11, 19]⟩,
   ⟨majority, 0x5a827999, [1, 3, 5, 7, 0, 2, 4, 6], [3, 5, 9, 13]⟩,
   ⟨parity, 0x6ed9eba1, [3, 7, 2, 6, 1, 5, 0, 4], [3, 9, 11, 15]⟩]

def Round.run (r : Round) (block : List UInt32) (w : Words) : Words :=
  (r.order.zip (r.shifts ++ r.shifts)).foldl
    (fun w (i, shift) => step r.mix w (block.getD i 0 + r.add) shift) w

def compress (w : Words) (block : List UInt32) : Words :=
  let v := rounds.foldl (fun v r => r.run block v) w
  ⟨w.a + v.a, w.b + v.b, w.c + v.c, w.d + v.d⟩

def signed (b : UInt8) : UInt32 := if b < 128 then b.toUInt32 else b.toUInt32 - 256

def pack (pad : UInt32) (bs : Bytes) : UInt32 := bs.foldl (fun v b => signed b + (v <<< 8)) pad

def block (bs : Bytes) : List UInt32 :=
  let n := bs.length.toUInt32
  let pad := n ||| (n <<< 8)
  let pad := pad ||| (pad <<< 16)
  (List.range 8).map fun i => pack pad ((bs.drop (4 * i)).take 4)

def absorb : Nat → Bytes → Words → Words
  | 0, _, w => w
  | n + 1, bs, w => if bs.isEmpty then w else absorb n (bs.drop 32) (compress w (block bs))

def key (name : String) : UInt32 × UInt32 :=
  let bs := Bytes.ofText name
  let w := absorb (bs.length / 32 + 1) bs initial
  (w.b &&& 0xfffffffe, w.c)

def precedes (m n : String) : Bool :=
  let (a, b) := key m
  let (c, d) := key n
  a < c || (a == c && b ≤ d)

def sort (names : List String) : List String := names.mergeSort precedes

end BundleWatch.HalfMd4
