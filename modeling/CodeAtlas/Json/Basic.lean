import CodeAtlas.Number.Shortest

/-! # JSON documents -/
namespace CodeAtlas

open Number

/-- A number of a document. The last case is written with the digits that 32 bits need; reading
never yields it. -/
inductive JsonNumber where
  | int (n : Int)
  | double (x : Binary64)
  | single (x : Binary32)
  deriving DecidableEq, Repr

/-- A document. The fields of an object stand in the order in which they are written. -/
inductive Json where
  | null
  | bool (b : Bool)
  | number (n : JsonNumber)
  | string (s : String)
  | array (items : List Json)
  | object (fields : List (String × Json))
  deriving Repr, Inhabited

namespace Json

def int (n : Int) : Json := .number (.int n)
def nat (n : Nat) : Json := .number (.int n)

/-- A 32-bit number; one that is not finite has no number in a document and is null. -/
def single (x : Binary32) : Json := if x.isFinite then .number (.single x) else .null

def strings (xs : List String) : Json := .array (xs.map .string)

def optional (f : α → Json) : Option α → Json
  | none => .null
  | some a => f a

def get? (j : Json) (key : String) : Option Json :=
  match j with
  | .object fields => (fields.find? (·.1 = key)).map (·.2)
  | _ => none

def string? : Json → Option String
  | .string s => some s
  | _ => none

def array? : Json → Option (List Json)
  | .array items => some items
  | _ => none

def nat? : Json → Option Nat
  | .number (.int n) => if 0 ≤ n ∧ n < 0x10000000000000000 then some n.toNat else none
  | _ => none

/-- Any number, rounded to 64 bits. -/
def double? : Json → Option Binary64
  | .number (.int n) => some (Binary64.ofInt n)
  | .number (.double x) => some x
  | .number (.single x) => some x.toBinary64
  | _ => none

/-- One step into a document: a field of an object, or an item of an array by its number. A number
has no sign and no leading zero. -/
def step? (j : Json) (key : String) : Option Json :=
  match j with
  | .object _ => j.get? key
  | .array items =>
      let cs := key.toList
      if cs.isEmpty || !cs.all Number.isDigit || (cs.head? = some '0' && cs.length ≠ 1) then none
      else items[Number.value cs]?
  | _ => none

def at? (j : Json) (path : List String) : Option Json :=
  path.foldl (fun found key => found.bind (·.step? key)) (some j)

/-- Put a field into an object, in place of an earlier one of the same name. -/
def setField (fields : List (String × Json)) (key : String) (value : Json) :
    List (String × Json) :=
  if fields.any (·.1 = key) then
    fields.map fun f => if f.1 = key then (key, value) else f
  else fields ++ [(key, value)]

end Json

end CodeAtlas
