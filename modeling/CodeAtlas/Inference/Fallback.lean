import CodeAtlas.Number.Binary

/-! # Vectors without a service

A vector of unit length computed from the characters of a text and their places. Equal texts get
equal vectors. -/
namespace CodeAtlas.Inference

open Number

/-- The units of sixteen bits that a character is encoded in. -/
def units16 (c : Char) : List Nat :=
  let n := c.toNat
  if n < 0x10000 then [n]
  else [0xD800 + (n - 0x10000) / 0x400, 0xDC00 + (n - 0x10000) % 0x400]

def unitWeight (unit : Nat) : Float := ((Float.ofNat unit) * 0.01).sin * 0.1

/-- The sums of the weights of all units, before scaling. Each unit goes to the component that its
value times its place, counted from one, leaves as remainder. -/
def unitSums (dimension : Nat) (units : List Nat) : Array Float :=
  (units.foldl (fun (state : Array Float × Nat) unit =>
    let index := unit * state.2 % dimension
    (state.1.modify index (· + unitWeight unit), state.2 + 1))
    (Array.replicate dimension 0.0, 1)).1

def fallbackVector (text : String) (dimension : Nat) : List Binary32 :=
  let sums := unitSums (max dimension 1) (text.toList.flatMap units16)
  let magnitude := (sums.foldl (fun sum x => sum + x * x) 0.0).sqrt
  let magnitude := if magnitude > 0.0 then magnitude else 1.0
  sums.toList.map fun x => .ofFloat32 (x / magnitude).toFloat32

end CodeAtlas.Inference
