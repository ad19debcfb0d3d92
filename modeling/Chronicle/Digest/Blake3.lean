import Chronicle.Text.Utf8

/-! # BLAKE3 digests

The 256-bit digest of bytes without a key. The bytes are cut into chunks of 1024, each chunk into blocks
of 64, and the chaining values of the chunks are joined in a binary tree whose left sides hold as many
chunks as a power of two allows. -/
namespace Chronicle.Blake3
open Text.Utf8

/-- Sixteen words: a block, or the state of the compression. -/
abbrev Words := Vector UInt32 16

abbrev ChainingValue := Vector UInt32 8

def initialValue : ChainingValue :=
  #v[0x6a09e667, 0xbb67ae85, 0x3c6ef372, 0xa54ff53a, 0x510e527f, 0x9b05688c, 0x1f83d9ab, 0x5be0cd19]

def chunkStart : UInt32 := 1

def chunkEnd : UInt32 := 2

def parent : UInt32 := 4

def root : UInt32 := 8

def rotate (x n : UInt32) : UInt32 := (x >>> n) ||| (x <<< (32 - n))

/-- Mixes two words into a column or diagonal of the state. -/
def mix (s : Words) (a b c d : Fin 16) (x y : UInt32) : Words :=
  let va := s[a] + s[b] + x
  let vd := rotate (s[d] ^^^ va) 16
  let vc := s[c] + vd
  let vb := rotate (s[b] ^^^ vc) 12
  let va := va + vb + y
  let vd := rotate (vd ^^^ va) 8
  let vc := vc + vd
  let vb := rotate (vb ^^^ vc) 7
  (((s.set a va).set b vb).set c vc).set d vd

/-- All columns, then all diagonals. -/
def round (s m : Words) : Words :=
  let s := mix s 0 4 8 12 m[0] m[1]
  let s := mix s 1 5 9 13 m[2] m[3]
  let s := mix s 2 6 10 14 m[4] m[5]
  let s := mix s 3 7 11 15 m[6] m[7]
  let s := mix s 0 5 10 15 m[8] m[9]
  let s := mix s 1 6 11 12 m[10] m[11]
  let s := mix s 2 7 8 13 m[12] m[13]
  mix s 3 4 9 14 m[14] m[15]

/-- The order of the words of the block in the next round. -/
def permute (m : Words) : Words :=
  #v[m[2], m[6], m[3], m[10], m[7], m[0], m[4], m[13], m[1], m[11], m[12], m[5], m[9], m[14], m[15], m[8]]

def rounds : Nat → Words → Words → Words
  | 0, s, _ => s
  | n + 1, s, m => rounds n (round s m) (permute m)

/-- A block that is ready to be compressed. -/
structure Input where
  value : ChainingValue
  block : Words
  counter : Nat
  size : Nat
  flags : UInt32

/-- The next chaining value, or the digest when the input is the root of the tree. -/
def Input.compress (i : Input) : ChainingValue :=
  let v := i.value
  let w := initialValue
  let s := rounds 7 #v[v[0], v[1], v[2], v[3], v[4], v[5], v[6], v[7], w[0], w[1], w[2], w[3],
    .ofNat i.counter, .ofNat (i.counter >>> 32), .ofNat i.size, i.flags] i.block
  #v[s[0] ^^^ s[8], s[1] ^^^ s[9], s[2] ^^^ s[10], s[3] ^^^ s[11],
    s[4] ^^^ s[12], s[5] ^^^ s[13], s[6] ^^^ s[14], s[7] ^^^ s[15]]

/-- The least significant byte comes first; missing bytes are zero. -/
def word (bytes : Bytes) : UInt32 :=
  bytes.foldr (fun b w => w <<< 8 ||| b.toUInt32) 0

def blockOf (bytes : Bytes) : Words := Vector.ofFn fun i => word ((bytes.drop (4 * i.val)).take 4)

def blockSize : Nat := 64

def chunkSize : Nat := 1024

/-- Cuts bytes into pieces of the given size; the last piece may be shorter. -/
def pieces (size : Nat) : Nat → Bytes → List Bytes
  | 0, _ => []
  | fuel + 1, bytes =>
    if bytes.length ≤ size then [bytes] else bytes.take size :: pieces size fuel (bytes.drop size)

/-- The last block of a chunk, after all blocks before it are compressed. -/
def lastOfBlocks (counter : Nat) (value : ChainingValue) (flags : UInt32) : List Bytes → Input
  | [] => ⟨value, blockOf [], counter, 0, flags ||| chunkEnd⟩
  | [b] => ⟨value, blockOf b, counter, b.length, flags ||| chunkEnd⟩
  | b :: rest => lastOfBlocks counter (Input.compress ⟨value, blockOf b, counter, blockSize, flags⟩) 0 rest

def chunk (counter : Nat) (bytes : Bytes) : Input :=
  lastOfBlocks counter initialValue chunkStart (pieces blockSize (bytes.length + 1) bytes)

def join (left right : ChainingValue) : Input :=
  ⟨initialValue, left ++ right, 0, blockSize, parent⟩

/-- The greatest power of two below a number. -/
def leftCount (n : Nat) : Nat := 1 <<< (n - 1).log2

/-- Joins the inputs of a list of chunks; fuel bounds the height of the tree. -/
def tree : Nat → List Input → Input
  | 0, _ => chunk 0 []
  | _, [] => chunk 0 []
  | _, [i] => i
  | fuel + 1, is =>
    let n := leftCount is.length
    join (tree fuel (is.take n)).compress (tree fuel (is.drop n)).compress

def whole (bytes : Bytes) : Input :=
  let chunks := (pieces chunkSize (bytes.length + 1) bytes).mapIdx chunk
  tree (chunks.length + 1) chunks

/-- The digest as bytes. -/
def digest (bytes : Bytes) : Bytes :=
  let i := whole bytes
  (Input.compress { i with flags := i.flags ||| root }).toList.flatMap fun (w : UInt32) =>
    [w.toUInt8, (w >>> 8).toUInt8, (w >>> 16).toUInt8, (w >>> 24).toUInt8]

/-- The digest as 64 hexadecimal digits. -/
def hexDigest (bytes : Bytes) : String :=
  String.ofList ((digest bytes).flatMap fun b =>
    [Nat.digitChar (b.toNat / 16), Nat.digitChar (b.toNat % 16)])

end Chronicle.Blake3
