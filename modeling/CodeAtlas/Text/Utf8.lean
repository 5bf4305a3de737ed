/-! # Text in bytes

Bytes are read as text even where they are not well formed: each longest beginning of a character
that is cut short, and each byte that begins none, becomes one replacement character. -/
namespace CodeAtlas.Text

/-- The bytes that a first byte calls for: how many, and the bounds of the first of them. -/
def following? (first : Nat) : Option (Nat × Nat × Nat) :=
  if first < 0x80 then some (0, 0, 0)
  else if first < 0xC2 then none
  else if first < 0xE0 then some (1, 0x80, 0xBF)
  else if first = 0xE0 then some (2, 0xA0, 0xBF)
  else if first = 0xED then some (2, 0x80, 0x9F)
  else if first < 0xF0 then some (2, 0x80, 0xBF)
  else if first = 0xF0 then some (3, 0x90, 0xBF)
  else if first < 0xF4 then some (3, 0x80, 0xBF)
  else if first = 0xF4 then some (3, 0x80, 0x8F)
  else none

def replacement : Char := '\uFFFD'

/-- The value of a first byte without the marks of its length. -/
def leadingValue (first count : Nat) : Nat :=
  if count = 0 then first else first % Nat.pow 2 (6 - count)

/-- Read `count` bytes that go on with a character of which `value` is known. Gives the character
and how many bytes belong to it. -/
def readFollowing : (count low high value used : Nat) → List UInt8 → Char × Nat
  | 0, _, _, value, used, _ => (Char.ofNat value, used)
  | _ + 1, _, _, _, used, [] => (replacement, used)
  | count + 1, low, high, value, used, b :: rest =>
      if low ≤ b.toNat ∧ b.toNat ≤ high then
        readFollowing count 0x80 0xBF (value * 64 + b.toNat % 64) (used + 1) rest
      else (replacement, used)

/-- The character at the beginning of bytes, and how many bytes behind the first belong to it. -/
def firstChar (first : UInt8) (rest : List UInt8) : Char × Nat :=
  match following? first.toNat with
  | none => (replacement, 0)
  | some (count, low, high) =>
      readFollowing count low high (leadingValue first.toNat count) 0 rest

/-- The characters of bytes, the first `skip` bytes apart. -/
def decodeAfter : (skip : Nat) → List UInt8 → List Char
  | _, [] => []
  | skip + 1, _ :: rest => decodeAfter skip rest
  | 0, b :: rest => (firstChar b rest).1 :: decodeAfter (firstChar b rest).2 rest

def decodeBytes (bytes : List UInt8) : List Char := decodeAfter 0 bytes

def ofBytes (bytes : List UInt8) : String := String.ofList (decodeBytes bytes)

def toBytes (text : String) : List UInt8 := text.toUTF8.toList

end CodeAtlas.Text
