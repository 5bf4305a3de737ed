import CodeAtlas.Digest.Hex

/-! # BLAKE3

The unkeyed 32-byte hash. The input is cut into chunks of 1024 bytes, each a chain of blocks of 64;
chunks are the leaves of a binary tree whose left halves are full. -/
namespace CodeAtlas.Digest.Blake3

abbrev Words8 := Vector UInt32 8
abbrev Words16 := Vector UInt32 16

def initialWords : Words8 :=
  #v[0x6A09E667, 0xBB67AE85, 0x3C6EF372, 0xA54FF53A, 0x510E527F, 0x9B05688C, 0x1F83D9AB,
    0x5BE0CD19]

/-- Where each message word comes from in the next round. -/
def schedule : Vector (Fin 16) 16 := #v[2, 6, 3, 10, 7, 0, 4, 13, 1, 11, 12, 5, 9, 14, 15, 8]

def chunkStart : UInt32 := 1
def chunkEnd : UInt32 := 2
def parentFlag : UInt32 := 4
def rootFlag : UInt32 := 8

def rotateRight (w : UInt32) (n : UInt32) : UInt32 := (w >>> n) ||| (w <<< (32 - n))

def quarter (v : Words16) (a b c d : Fin 16) (x y : UInt32) : Words16 :=
  let v := v.set a (v[a] + v[b] + x)
  let v := v.set d (rotateRight (v[d] ^^^ v[a]) 16)
  let v := v.set c (v[c] + v[d])
  let v := v.set b (rotateRight (v[b] ^^^ v[c]) 12)
  let v := v.set a (v[a] + v[b] + y)
  let v := v.set d (rotateRight (v[d] ^^^ v[a]) 8)
  let v := v.set c (v[c] + v[d])
  v.set b (rotateRight (v[b] ^^^ v[c]) 7)

/-- Columns, then diagonals. -/
def round (v m : Words16) : Words16 :=
  let v := quarter v 0 4 8 12 m[0] m[1]
  let v := quarter v 1 5 9 13 m[2] m[3]
  let v := quarter v 2 6 10 14 m[4] m[5]
  let v := quarter v 3 7 11 15 m[6] m[7]
  let v := quarter v 0 5 10 15 m[8] m[9]
  let v := quarter v 1 6 11 12 m[10] m[11]
  let v := quarter v 2 7 8 13 m[12] m[13]
  quarter v 3 4 9 14 m[14] m[15]

def rounds : Nat → Words16 → Words16 → Words16
  | 0, v, _ => v
  | n + 1, v, m => rounds n (round v m) (schedule.map fun i => m[i])

/-- Everything that one application of the compression function takes. -/
structure Node where
  chain : Words8
  block : Words16
  counter : UInt64
  size : UInt32
  flags : UInt32

/-- The chaining value of a node, with extra flags. -/
def Node.compress (n : Node) (extra : UInt32) : Words8 :=
  let v : Words16 :=
    #v[n.chain[0], n.chain[1], n.chain[2], n.chain[3], n.chain[4], n.chain[5], n.chain[6],
      n.chain[7], initialWords[0], initialWords[1], initialWords[2], initialWords[3],
      n.counter.toUInt32, (n.counter >>> 32).toUInt32, n.size, n.flags ||| extra]
  let v := rounds 7 v n.block
  #v[v[0] ^^^ v[8], v[1] ^^^ v[9], v[2] ^^^ v[10], v[3] ^^^ v[11], v[4] ^^^ v[12], v[5] ^^^ v[13],
    v[6] ^^^ v[14], v[7] ^^^ v[15]]

/-- The little-endian word at a byte offset; bytes past the end count as zero. -/
def wordAt (bytes : ByteArray) (stop i : Nat) : UInt32 :=
  let byte (j : Nat) : UInt32 := if j < stop then (bytes[j]?.getD 0).toUInt32 else 0
  byte i ||| (byte (i + 1) <<< 8) ||| (byte (i + 2) <<< 16) ||| (byte (i + 3) <<< 24)

def blockAt (bytes : ByteArray) (stop i : Nat) : Words16 :=
  Vector.ofFn fun k : Fin 16 => wordAt bytes stop (i + 4 * k.val)

/-- The last block of a chunk, the blocks before it compressed into its chain. -/
def chunkNode (bytes : ByteArray) (index start stop : Nat) : Node :=
  let blocks := (stop - start + 63) / 64
  let last := blocks - 1
  let counter := UInt64.ofNat index
  let chain := (List.range last).foldl (fun chain k =>
      let node : Node :=
        ⟨chain, blockAt bytes stop (start + 64 * k), counter, 64, if k = 0 then chunkStart else 0⟩
      node.compress 0) initialWords
  ⟨chain, blockAt bytes stop (start + 64 * last), counter,
    UInt32.ofNat (stop - start - 64 * last),
    (if last = 0 then chunkStart else 0) ||| chunkEnd⟩

def parentNode (left right : Words8) : Node :=
  ⟨initialWords,
    #v[left[0], left[1], left[2], left[3], left[4], left[5], left[6], left[7], right[0], right[1],
      right[2], right[3], right[4], right[5], right[6], right[7]],
    0, 64, parentFlag⟩

/-- The largest power of two below `n`, at least one. -/
def leftChunks (n : Nat) : Nat := Nat.pow 2 (Nat.log2 (n - 1))

/-- The top node over `count` chunks from chunk `index` on; `fuel` bounds the depth. -/
def treeNode (bytes : ByteArray) : (fuel index count : Nat) → Node
  | 0, index, _ => chunkNode bytes index (1024 * index) (min bytes.size (1024 * index + 1024))
  | fuel + 1, index, count =>
      if count ≤ 1 then
        chunkNode bytes index (1024 * index) (min bytes.size (1024 * index + 1024))
      else
        let left := leftChunks count
        parentNode ((treeNode bytes fuel index left).compress 0)
          ((treeNode bytes fuel (index + left) (count - left)).compress 0)

def hash (bytes : ByteArray) : Words8 :=
  let chunks := max 1 ((bytes.size + 1023) / 1024)
  (treeNode bytes chunks 0 chunks).compress rootFlag

def hashText (bytes : ByteArray) : String :=
  let digits := (hash bytes).toList.flatMap fun (w : UInt32) =>
    hex [w.toUInt8, (w >>> 8).toUInt8, (w >>> 16).toUInt8, (w >>> 24).toUInt8]
  String.ofList digits

end CodeAtlas.Digest.Blake3
