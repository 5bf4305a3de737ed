/-! # Binary floating point

The formats of 32 and 64 bits as numbers `m * 2 ^ q`, and rounding of an exact quotient to the
nearest such number, a tie going to the even one. -/
namespace CodeAtlas.Number

/-- A binary interchange format: bits of precision, bits of the exponent field. -/
structure BinaryFormat where
  precision : Nat
  exponentBits : Nat

namespace BinaryFormat

def single : BinaryFormat := ⟨24, 8⟩
def double : BinaryFormat := ⟨53, 11⟩

/-- The exponent of the smallest step, negated. -/
def depth (f : BinaryFormat) : Nat := Nat.pow 2 (f.exponentBits - 1) + f.precision - 3

def infinityBits (f : BinaryFormat) : Nat := (Nat.pow 2 f.exponentBits - 1) * Nat.pow 2 (f.precision - 1)

def signBit (f : BinaryFormat) : Nat := Nat.pow 2 (f.precision - 1 + f.exponentBits)

def nanBits (f : BinaryFormat) : Nat := f.infinityBits + Nat.pow 2 (f.precision - 2)

end BinaryFormat

/-- What a bit pattern stands for; a finite value is `m * 2 ^ (e - depth)`. -/
inductive BinaryValue where
  | finite (negative : Bool) (m e : Nat)
  | infinite (negative : Bool)
  | nan
  deriving DecidableEq, Repr

def BinaryFormat.decode (f : BinaryFormat) (bits : Nat) : BinaryValue :=
  let negative := bits / f.signBit % 2 == 1
  let magnitude := bits % f.signBit
  let half := Nat.pow 2 (f.precision - 1)
  let exponent := magnitude / half
  let fraction := magnitude % half
  if magnitude = f.infinityBits then .infinite negative
  else if f.infinityBits < magnitude then .nan
  else if exponent = 0 then .finite negative fraction 0
  else .finite negative (fraction + half) (exponent - 1)

/-- A quotient rounded to the nearest integer, a half to the even one. -/
def roundDiv (num den : Nat) : Nat :=
  let q := num / den
  let r := num % den
  if 2 * r < den then q
  else if den < 2 * r then q + 1
  else q + q % 2

/-- The bits of the nonnegative value nearest to `num / den`. -/
def BinaryFormat.ofRatio (f : BinaryFormat) (num den : Nat) : Nat :=
  if num = 0 then 0
  else
    let half := Nat.pow 2 (f.precision - 1)
    -- The first guess of the step is at most one too small.
    let lead : Int := (Nat.log2 num : Int) - Nat.log2 den
    let guess := (lead - 1 - (f.precision - 1) + f.depth).toNat
    let scaled (e : Nat) : Nat × Nat :=
      if e < f.depth then (num * Nat.pow 2 (f.depth - e), den) else (num, den * Nat.pow 2 (e - f.depth))
    let e := if 2 * half * (scaled guess).2 ≤ (scaled guess).1 then guess + 1 else guess
    let e := if 2 * half * (scaled e).2 ≤ (scaled e).1 then e + 1 else e
    let m := roundDiv (scaled e).1 (scaled e).2
    min (e * half + m) f.infinityBits

/-- The bits of the value nearest to `digits * 10 ^ exponent`. Exponents far outside every range
are answered without the power. -/
def BinaryFormat.ofDecimal (f : BinaryFormat) (negative : Bool) (digits : Nat) (exponent : Int) :
    Nat :=
  let sign := if negative then f.signBit else 0
  let places : Int := (Nat.log2 digits : Int) / 3 + 1
  if digits = 0 then sign
  else if exponent < -1200 - places then sign
  else if 1200 < exponent then sign + f.infinityBits
  else if 0 ≤ exponent then sign + f.ofRatio (digits * Nat.pow 10 exponent.toNat) 1
  else sign + f.ofRatio digits (Nat.pow 10 (-exponent).toNat)

/-- The same value in another format, rounded if need be. -/
def BinaryFormat.convert (f g : BinaryFormat) (bits : Nat) : Nat :=
  match f.decode bits with
  | .nan => g.nanBits
  | .infinite negative => (if negative then g.signBit else 0) + g.infinityBits
  | .finite negative m e =>
      (if negative then g.signBit else 0) +
        if e < f.depth then g.ofRatio m (Nat.pow 2 (f.depth - e))
        else g.ofRatio (m * Nat.pow 2 (e - f.depth)) 1

/-- A 32-bit floating-point number by its bits. -/
structure Binary32 where
  bits : UInt32
  deriving DecidableEq, Repr, Inhabited

/-- A 64-bit floating-point number by its bits. -/
structure Binary64 where
  bits : UInt64
  deriving DecidableEq, Repr, Inhabited

namespace Binary32

def decode (x : Binary32) : BinaryValue := BinaryFormat.single.decode x.bits.toNat
def ofNatBits (n : Nat) : Binary32 := ⟨UInt32.ofNat n⟩
def zero : Binary32 := ⟨0⟩
def one : Binary32 := ⟨0x3F800000⟩

def isNaN (x : Binary32) : Bool := x.decode matches .nan
def isFinite (x : Binary32) : Bool := x.decode matches .finite ..

/-- The nearest number to `num / den`. -/
def ofRatio (num den : Nat) : Binary32 := ofNatBits (BinaryFormat.single.ofRatio num den)

def toFloat32 (x : Binary32) : Float32 := Float32.ofBits x.bits
def ofFloat32 (x : Float32) : Binary32 := ⟨x.toBits⟩

def add (x y : Binary32) : Binary32 := ofFloat32 (x.toFloat32 + y.toFloat32)
def mul (x y : Binary32) : Binary32 := ofFloat32 (x.toFloat32 * y.toFloat32)
def div (x y : Binary32) : Binary32 := ofFloat32 (x.toFloat32 / y.toFloat32)
def sqrt (x : Binary32) : Binary32 := ofFloat32 x.toFloat32.sqrt

/-- An order key: how far a number lies from zero, in steps, with its sign. Both zeros have key
zero. -/
def steps (x : Binary32) : Int :=
  let n : Int := (x.bits.toNat % 0x80000000 : Nat)
  if x.bits.toNat < 0x80000000 then n else -n

/-- The numeric order; a not-a-number compares with nothing. -/
def lt (x y : Binary32) : Bool := !x.isNaN && !y.isNaN && decide (x.steps < y.steps)
def le (x y : Binary32) : Bool := !x.isNaN && !y.isNaN && decide (x.steps ≤ y.steps)

end Binary32

namespace Binary64

def decode (x : Binary64) : BinaryValue := BinaryFormat.double.decode x.bits.toNat
def ofNatBits (n : Nat) : Binary64 := ⟨UInt64.ofNat n⟩
def isFinite (x : Binary64) : Bool := x.decode matches .finite ..

def ofInt (n : Int) : Binary64 :=
  ofNatBits ((if n < 0 then BinaryFormat.double.signBit else 0) +
    BinaryFormat.double.ofRatio n.natAbs 1)

/-- The nearest number to `digits * 10 ^ exponent`. -/
def ofDecimal (negative : Bool) (digits : Nat) (exponent : Int) : Binary64 :=
  ofNatBits (BinaryFormat.double.ofDecimal negative digits exponent)

def toBinary32 (x : Binary64) : Binary32 :=
  .ofNatBits (BinaryFormat.double.convert .single x.bits.toNat)

end Binary64

def Binary32.toBinary64 (x : Binary32) : Binary64 :=
  .ofNatBits (BinaryFormat.single.convert .double x.bits.toNat)

end CodeAtlas.Number
