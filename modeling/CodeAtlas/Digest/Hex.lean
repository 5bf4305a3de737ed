/-! # Hexadecimal text

Two digits a byte, high half first. -/
namespace CodeAtlas.Digest

def hexDigit (n : Nat) : Char :=
  if n < 10 then Char.ofNat (48 + n) else Char.ofNat (87 + n)

def hexValue? (c : Char) : Option Nat :=
  if '0' ≤ c ∧ c ≤ '9' then some (c.toNat - 48)
  else if 'a' ≤ c ∧ c ≤ 'f' then some (c.toNat - 87)
  else if 'A' ≤ c ∧ c ≤ 'F' then some (c.toNat - 55)
  else none

theorem hexValue?_hexDigit {n : Nat} (h : n < 16) : hexValue? (hexDigit n) = some n := by
  revert n; decide

def hexByte (b : UInt8) : List Char := [hexDigit (b.toNat / 16), hexDigit (b.toNat % 16)]

def hex (bytes : List UInt8) : List Char := bytes.flatMap hexByte

/-- The bytes that pairs of digits stand for; `none` at an odd count or a foreign character. -/
def ofHex? : List Char → Option (List UInt8)
  | [] => some []
  | [_] => none
  | a :: b :: cs =>
      match hexValue? a, hexValue? b, ofHex? cs with
      | some x, some y, some rest => some (UInt8.ofNat (16 * x + y) :: rest)
      | _, _, _ => none

/-- Eight digits of a word, most significant first. -/
def hexWord (w : UInt32) : List Char :=
  hex [(w >>> 24).toUInt8, (w >>> 16).toUInt8, (w >>> 8).toUInt8, w.toUInt8]

end CodeAtlas.Digest
