/-!
# BLAKE3

The BLAKE3 digest of a list of bytes. Chunks of 1024 bytes are compressed block by block; the
chaining values of the chunks are joined in a binary tree whose left subtrees are full.
-/

set_option autoImplicit false

namespace BundleWatch.Blake3

abbrev Words := Vector UInt32 8
abbrev Block := Vector UInt32 16

def iv : Words :=
  #v[0x6A09E667, 0xBB67AE85, 0x3C6EF372, 0xA54FF53A, 0x510E527F, 0x9B05688C, 0x1F83D9AB, 0x5BE0CD19]

def rotateRight (x : UInt32) (n : UInt32) : UInt32 := (x >>> n) ||| (x <<< (32 - n))

def mix (v : Block) (a b c d : Fin 16) (x y : UInt32) : Block :=
  let va := v[a] + v[b] + x
  let vd := rotateRight (v[d] ^^^ va) 16
  let vc := v[c] + vd
  let vb := rotateRight (v[b] ^^^ vc) 12
  let va := va + vb + y
  let vd := rotateRight (vd ^^^ va) 8
  let vc := vc + vd
  let vb := rotateRight (vb ^^^ vc) 7
  (((v.set a va).set b vb).set c vc).set d vd

def round (v m : Block) : Block :=
  let v := mix v 0 4 8 12 m[0] m[1]
  let v := mix v 1 5 9 13 m[2] m[3]
  let v := mix v 2 6 10 14 m[4] m[5]
  let v := mix v 3 7 11 15 m[6] m[7]
  let v := mix v 0 5 10 15 m[8] m[9]
  let v := mix v 1 6 11 12 m[10] m[11]
  let v := mix v 2 7 8 13 m[12] m[13]
  mix v 3 4 9 14 m[14] m[15]

def permute (m : Block) : Block :=
  #v[m[2], m[6], m[3], m[10], m[7], m[0], m[4], m[13],
     m[1], m[11], m[12], m[5], m[9], m[14], m[15], m[8]]

def rounds : Nat → Block → Block → Block
  | 0, v, _ => v
  | n + 1, v, m => rounds n (round v m) (permute m)

structure Node where
  chain : Words
  block : Block
  counter : UInt64
  size : UInt32
  flags : UInt32

def chunkStart : UInt32 := 1
def chunkEnd : UInt32 := 2
def parent : UInt32 := 4
def rootNode : UInt32 := 8

def Node.compress (n : Node) (extra : UInt32) : Words :=
  let h := n.chain
  let v : Block :=
    #v[h[0], h[1], h[2], h[3], h[4], h[5], h[6], h[7], iv[0], iv[1], iv[2], iv[3],
       n.counter.toUInt32, (n.counter >>> 32).toUInt32, n.size, n.flags ||| extra]
  let v := rounds 7 v n.block
  #v[v[0] ^^^ v[8], v[1] ^^^ v[9], v[2] ^^^ v[10], v[3] ^^^ v[11],
     v[4] ^^^ v[12], v[5] ^^^ v[13], v[6] ^^^ v[14], v[7] ^^^ v[15]]

private def wordAt (bytes : Array UInt8) (i : Nat) : UInt32 :=
  let byte (j : Nat) : UInt32 := ((bytes[4 * i + j]?).getD 0).toUInt32
  byte 0 ||| (byte 1 <<< 8) ||| (byte 2 <<< 16) ||| (byte 3 <<< 24)

def blockOf (bytes : List UInt8) : Block :=
  let a := bytes.toArray
  Vector.ofFn fun i : Fin 16 => wordAt a i

def chunk (counter : UInt64) (chain : Words) (start : UInt32) (bytes : List UInt8) : Node :=
  if 64 < bytes.length then
    let n : Node := ⟨chain, blockOf (bytes.take 64), counter, 64, start⟩
    chunk counter (n.compress 0) 0 (bytes.drop 64)
  else ⟨chain, blockOf bytes, counter, bytes.length.toUInt32, start ||| chunkEnd⟩
termination_by bytes.length
decreasing_by simp only [List.length_drop]; omega

def join (l r : Words) : Node :=
  ⟨iv, #v[l[0], l[1], l[2], l[3], l[4], l[5], l[6], l[7], r[0], r[1], r[2], r[3], r[4], r[5], r[6], r[7]],
   0, 64, parent⟩

def leftSize (n : Nat) : Nat := Nat.pow 2 (n - 1).log2

theorem left_size_pos (n : Nat) : 0 < leftSize n := Nat.two_pow_pos _

theorem left_size_lt {n : Nat} (h : 1024 < n) : leftSize n < n :=
  Nat.lt_of_le_of_lt (Nat.log2_self_le (by omega)) (by omega)

def tree (counter : Nat) (bytes : List UInt8) : Node :=
  if h : 1024 < bytes.length then
    let k := leftSize bytes.length
    join ((tree counter (bytes.take k)).compress 0)
      ((tree (counter + k / 1024) (bytes.drop k)).compress 0)
  else chunk counter.toUInt64 iv chunkStart bytes
termination_by bytes.length
decreasing_by
  · have := left_size_lt h
    simp only [List.length_take]
    omega
  · have := left_size_pos bytes.length
    simp only [List.length_drop]
    omega

end BundleWatch.Blake3

namespace BundleWatch

structure Digest where
  words : Vector UInt32 8
deriving DecidableEq

namespace Digest

def ofBytes (bytes : List UInt8) : Digest := ⟨(Blake3.tree 0 bytes).compress Blake3.rootNode⟩

private def nibble (w : UInt32) (i : UInt32) : Char :=
  let n := ((w >>> (4 * i)) &&& 15).toNat
  Char.ofNat (if n < 10 then 48 + n else 87 + n)

def hex (d : Digest) : String :=
  String.ofList <| d.words.toList.flatMap fun w => [1, 0, 3, 2, 5, 4, 7, 6].map (nibble w)

def short (d : Digest) (n : Nat) : String := String.ofList (d.hex.toList.take n)

end Digest

end BundleWatch
