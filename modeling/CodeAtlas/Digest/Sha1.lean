import CodeAtlas.Digest.Hex

/-! # SHA-1

The 20-byte hash that names the objects of a history. -/
namespace CodeAtlas.Digest.Sha1

/-- The five chaining words. -/
structure State where
  a : UInt32
  b : UInt32
  c : UInt32
  d : UInt32
  e : UInt32

def initial : State := ⟨0x67452301, 0xEFCDAB89, 0x98BADCFE, 0x10325476, 0xC3D2E1F0⟩

def rotateLeft (w n : UInt32) : UInt32 := (w <<< n) ||| (w >>> (32 - n))

/-- A one bit, zeros, and the bit length in eight bytes fill the last blocks. -/
def padded (bytes : ByteArray) : ByteArray :=
  let zeros := (119 - bytes.size % 64) % 64
  let bits := bytes.size * 8
  let size := (List.range 8).map fun k => UInt8.ofNat (bits / Nat.pow 256 (7 - k))
  bytes ++ ⟨(0x80 :: List.replicate zeros 0 ++ size).toArray⟩

def wordAt (bytes : ByteArray) (i : Nat) : UInt32 :=
  let byte (j : Nat) : UInt32 := (bytes[j]?.getD 0).toUInt32
  (byte i <<< 24) ||| (byte (i + 1) <<< 16) ||| (byte (i + 2) <<< 8) ||| byte (i + 3)

/-- The eighty words of a block: sixteen read, the others mixed from earlier ones. -/
def expand (bytes : ByteArray) (start : Nat) : Array UInt32 :=
  (List.range 64).foldl (fun w _ =>
      let back (k : Nat) : UInt32 := w[w.size - k]?.getD 0
      w.push (rotateLeft (back 3 ^^^ back 8 ^^^ back 14 ^^^ back 16) 1))
    ((List.range 16).map fun k => wordAt bytes (start + 4 * k)).toArray

/-- The step function and constant of each quarter of the rounds. -/
def step (s : State) (round : Nat) (word : UInt32) : State :=
  let mixed : UInt32 × UInt32 :=
    if round < 20 then ((s.b &&& s.c) ||| (~~~s.b &&& s.d), 0x5A827999)
    else if round < 40 then (s.b ^^^ s.c ^^^ s.d, 0x6ED9EBA1)
    else if round < 60 then ((s.b &&& s.c) ||| (s.b &&& s.d) ||| (s.c &&& s.d), 0x8F1BBCDC)
    else (s.b ^^^ s.c ^^^ s.d, 0xCA62C1D6)
  ⟨rotateLeft s.a 5 + mixed.1 + s.e + mixed.2 + word, s.a, rotateLeft s.b 30, s.c, s.d⟩

def block (s : State) (bytes : ByteArray) (start : Nat) : State :=
  let words := expand bytes start
  let t := (List.range 80).foldl (fun t k => step t k (words[k]?.getD 0)) s
  ⟨s.a + t.a, s.b + t.b, s.c + t.c, s.d + t.d, s.e + t.e⟩

def hashText (bytes : ByteArray) : String :=
  let data := padded bytes
  let s := (List.range (data.size / 64)).foldl (fun s k => block s data (64 * k)) initial
  String.ofList (hexWord s.a ++ hexWord s.b ++ hexWord s.c ++ hexWord s.d ++ hexWord s.e)

end CodeAtlas.Digest.Sha1
