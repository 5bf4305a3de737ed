import CodeAtlas.Number.Binary
import CodeAtlas.Number.Digits

/-! # Shortest decimal text

The fewest decimal digits that read back as the same binary number, and of those the nearest; a
tie goes to the even digit. Also decimals with a fixed number of places. -/
namespace CodeAtlas.Number

/-- A decimal `coefficient * 10 ^ exponent`. -/
structure Decimal where
  coefficient : Nat
  exponent : Int
  deriving DecidableEq, Repr

def scaleTen (num den : Nat) (k : Int) : Nat × Nat :=
  if 0 ≤ k then (num, den * Nat.pow 10 k.toNat) else (num * Nat.pow 10 (-k).toNat, den)

/-- The decimal of step `10 ^ k` nearest to `num / den` among those that lie between `low / den`
and `high / den`, ends included if `closed`. -/
def nearestOnGrid (num low high den : Nat) (closed : Bool) (k : Int) : Option Nat :=
  let inside (d : Nat) : Bool :=
    let v := if 0 ≤ k then d * Nat.pow 10 k.toNat * den else d * den
    let lift (n : Nat) := if 0 ≤ k then n else n * Nat.pow 10 (-k).toNat
    if closed then lift low ≤ v && v ≤ lift high else lift low < v && v < lift high
  let (n, d) := scaleTen num den k
  let below := n / d
  let rest := n % d
  match inside below, inside (below + 1) with
  | true, false => some below
  | false, true => some (below + 1)
  | false, false => none
  | true, true =>
      if 2 * rest < d then some below
      else if d < 2 * rest then some (below + 1)
      else some (below + below % 2)

/-- Trailing zeros moved into the exponent; `fuel` bounds their number. -/
def Decimal.strip (d : Decimal) : Nat → Decimal
  | 0 => d
  | fuel + 1 =>
      if d.coefficient ≠ 0 ∧ d.coefficient % 10 = 0 then
        Decimal.strip ⟨d.coefficient / 10, d.exponent + 1⟩ fuel
      else d

/-- The shortest decimal that reads back as `m * 2 ^ (e - depth)`, which is positive. -/
def BinaryFormat.shortest (f : BinaryFormat) (m e : Nat) : Decimal :=
  -- Everything is counted in quarters of a step, so that the ends of the interval are whole.
  let up := if e < f.depth then 1 else Nat.pow 2 (e - f.depth)
  let down := if e < f.depth then Nat.pow 2 (f.depth - e) else 1
  let num := 4 * m * up
  let high := (4 * m + 2) * up
  let low := (if m = Nat.pow 2 (f.precision - 1) ∧ 0 < e then 4 * m - 1 else 4 * m - 2) * up
  let den := 4 * down
  let closed := m % 2 == 0
  -- The power of ten at or just above the leading digit.
  let size := (digits (num / den)).length
  let lead : Int :=
    if den ≤ num then size
    else 1 - (digits (den / num)).length
  let grids := (List.range 19).map fun (n : Nat) => lead + 1 - (n : Int)
  match grids.findSome? fun k =>
      (nearestOnGrid num low high den closed k).bind fun d =>
        if d = 0 then none else some (Decimal.mk d k) with
  | some d => d.strip 20
  | none => ⟨num / den, 0⟩

/-- Digits with the point placed, no exponent; a whole number has no point. -/
def Decimal.positional (d : Decimal) : String :=
  if 0 ≤ d.exponent then
    String.ofList (digits d.coefficient ++ List.replicate d.exponent.toNat '0')
  else
    let places := (-d.exponent).toNat
    let ds := digits d.coefficient
    let padded := List.replicate (places + 1 - ds.length) '0' ++ ds
    String.ofList (padded.take (padded.length - places) ++ ['.'] ++
      padded.drop (padded.length - places))

/-- Sign and names around the text of a positive magnitude. -/
def signedText (v : BinaryValue) (zero : String) (positive : Nat → Nat → String) : String :=
  match v with
  | .nan => "NaN"
  | .infinite negative => if negative then "-inf" else "inf"
  | .finite negative m e =>
      (if negative then "-" else "") ++ if m = 0 then zero else positive m e

/-- The shortest text of a 32-bit number, always positional. -/
def Binary32.shortestText (x : Binary32) : String :=
  signedText x.decode "0" fun m e => (BinaryFormat.single.shortest m e).positional

/-- A positive magnitude with a fixed number of places, a half going to the even digit. -/
def fixedText (f : BinaryFormat) (places : Nat) (m e : Nat) : String :=
  let num := m * Nat.pow 10 places * (if e < f.depth then 1 else Nat.pow 2 (e - f.depth))
  let den := if e < f.depth then Nat.pow 2 (f.depth - e) else 1
  Decimal.positional ⟨roundDiv num den, -(places : Int)⟩

def Binary32.twoPlaces (x : Binary32) : String :=
  signedText x.decode "0.00" (fixedText .single 2)

/-- Digits with a point or, for magnitudes below `10 ^ (-5)` or from `10 ^ 16` on, an exponent;
always recognisable as no integer. -/
def Decimal.scientific (d : Decimal) : String :=
  let ds := digits d.coefficient
  let point := ds.length + d.exponent
  if 0 ≤ d.exponent ∧ point ≤ 16 then d.positional ++ ".0"
  else if -5 < point ∧ point ≤ 16 then d.positional
  else
    let mantissa := match ds with
      | [] => []
      | [c] => [c]
      | c :: cs => c :: '.' :: cs
    String.ofList mantissa ++ "e" ++ intText (point - 1)

/-- The text of a 64-bit number in a data format; only finite numbers have one. -/
def Binary64.dataText (x : Binary64) : Option String :=
  if x.isFinite then
    some (signedText x.decode "0.0" fun m e => (BinaryFormat.double.shortest m e).scientific)
  else none

/-- The text of a 32-bit number in a data format; only finite numbers have one. -/
def Binary32.dataText (x : Binary32) : Option String :=
  if x.isFinite then
    some (signedText x.decode "0.0" fun m e => (BinaryFormat.single.shortest m e).scientific)
  else none

end CodeAtlas.Number
