/-!
# BLAKE3

The 256 bit BLAKE3 digest of a list of bytes. A text is cut into chunks of 1024 bytes, a chunk into
blocks of 64 bytes. The blocks of a chunk are chained, and the chunks are the leaves of a binary tree
whose left subtrees are as large as a power of two can make them.
-/

namespace PolicyLint.Blake3

/-- Sixteen words: a block, or the state of the compression function. -/
abbrev Words := Vector UInt32 16

def initial : Vector UInt32 8 :=
  #v[0x6A09E667, 0xBB67AE85, 0x3C6EF372, 0xA54FF53A, 0x510E527F, 0x9B05688C, 0x1F83D9AB,
    0x5BE0CD19]

/-- The order in which a round takes the words of the block of the round before. -/
def permutation : Vector (Fin 16) 16 :=
  #v[2, 6, 3, 10, 7, 0, 4, 13, 1, 11, 12, 5, 9, 14, 15, 8]

def chunkStart : UInt32 := 1

def chunkEnd : UInt32 := 2

def parent : UInt32 := 4

def root : UInt32 := 8

def rotateRight (x : UInt32) (n : UInt32) : UInt32 := (x >>> n) ||| (x <<< (32 - n))

/-- Mixes two words of the block into one column or diagonal of the state. -/
def quarter (s : Words) (a b c d : Fin 16) (x y : UInt32) : Words :=
  let va := s[a] + s[b] + x
  let vd := rotateRight (s[d] ^^^ va) 16
  let vc := s[c] + vd
  let vb := rotateRight (s[b] ^^^ vc) 12
  let va := va + vb + y
  let vd := rotateRight (vd ^^^ va) 8
  let vc := vc + vd
  let vb := rotateRight (vb ^^^ vc) 7
  (((s.set a va).set b vb).set c vc).set d vd

def round (s m : Words) : Words :=
  let s := quarter s 0 4 8 12 m[0] m[1]
  let s := quarter s 1 5 9 13 m[2] m[3]
  let s := quarter s 2 6 10 14 m[4] m[5]
  let s := quarter s 3 7 11 15 m[6] m[7]
  let s := quarter s 0 5 10 15 m[8] m[9]
  let s := quarter s 1 6 11 12 m[10] m[11]
  let s := quarter s 2 7 8 13 m[12] m[13]
  quarter s 3 4 9 14 m[14] m[15]

def rounds : Nat → Words → Words → Words
  | 0, s, _ => s
  | n + 1, s, m => rounds n (round s m) (permutation.map fun i => m[i])

/-- What is left to compress of a chunk or of a parent node. -/
structure Output where
  chaining : Vector UInt32 8
  block : Words
  counter : UInt64
  length : UInt32
  flags : UInt32

namespace Output

/-- The chaining value that results, or the digest when the flags mark a root. -/
def compress (o : Output) (flags : UInt32) : Vector UInt32 8 :=
  let h := o.chaining
  let s : Words :=
    #v[h[0], h[1], h[2], h[3], h[4], h[5], h[6], h[7], initial[0], initial[1], initial[2],
      initial[3], o.counter.toUInt32, (o.counter >>> 32).toUInt32, o.length, o.flags ||| flags]
  let s := rounds 7 s o.block
  Vector.ofFn fun i : Fin 8 => s[i.val] ^^^ s[i.val + 8]

end Output

/-- A word of a block of bytes, the low byte first; bytes beyond the end are zero. -/
def word (bytes : Array UInt8) (i : Nat) : UInt32 :=
  let byte (k : Nat) : UInt32 := (bytes.getD (4 * i + k) 0).toUInt32
  byte 0 ||| (byte 1 <<< 8) ||| (byte 2 <<< 16) ||| (byte 3 <<< 24)

def blockOf (bytes : List UInt8) : Words :=
  let bytes := bytes.toArray
  Vector.ofFn fun i : Fin 16 => word bytes i.val

/-- The output of a chunk from its remaining bytes; `flags` marks the first block. -/
def chunkOutput (counter : UInt64) (chaining : Vector UInt32 8) (flags : UInt32)
    (bytes : List UInt8) : Output :=
  if bytes.length ≤ 64 then
    { chaining, block := blockOf bytes, counter, length := bytes.length.toUInt32
      flags := flags ||| chunkEnd }
  else
    let o : Output := { chaining, block := blockOf (bytes.take 64), counter, length := 64, flags }
    chunkOutput counter (o.compress 0) 0 (bytes.drop 64)
termination_by bytes.length
decreasing_by simp only [List.length_drop]; omega

/-- The bytes of the left subtree of a node with more than one chunk. -/
def leftLength (length : Nat) : Nat := Nat.pow 2 ((length - 1) / 1024).log2 * 1024

theorem leftLength_pos (length : Nat) : 0 < leftLength length := by
  have := Nat.two_pow_pos ((length - 1) / 1024).log2
  simp only [leftLength, Nat.pow_eq]
  omega

theorem leftLength_lt {length : Nat} (long : 1024 < length) : leftLength length < length := by
  have positive : (length - 1) / 1024 ≠ 0 := by omega
  have := Nat.log2_self_le positive
  simp only [leftLength, Nat.pow_eq]
  omega

/-- The output of the subtree over some bytes whose first chunk has the number `counter`. -/
def treeOutput (counter : Nat) (bytes : List UInt8) : Output :=
  if long : 1024 < bytes.length then
    let left := leftLength bytes.length
    have := leftLength_pos bytes.length
    have := leftLength_lt long
    let l := (treeOutput counter (bytes.take left)).compress 0
    let r := (treeOutput (counter + left / 1024) (bytes.drop left)).compress 0
    { chaining := initial, block := l ++ r, counter := 0, length := 64, flags := parent }
  else chunkOutput counter.toUInt64 initial chunkStart bytes
termination_by bytes.length
decreasing_by
  · simp only [List.length_take]; omega
  · simp only [List.length_drop]; omega

def digest (bytes : List UInt8) : Vector UInt32 8 := (treeOutput 0 bytes).compress root

def hexByte (b : UInt8) : List Char :=
  [Nat.digitChar (b.toNat / 16), Nat.digitChar (b.toNat % 16)]

def wordBytes (w : UInt32) : List UInt8 :=
  [w.toUInt8, (w >>> 8).toUInt8, (w >>> 16).toUInt8, (w >>> 24).toUInt8]

def hex (bytes : List UInt8) : String :=
  String.ofList ((digest bytes).toList.flatMap fun w => (wordBytes w).flatMap hexByte)

end PolicyLint.Blake3
