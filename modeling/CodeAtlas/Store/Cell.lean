import CodeAtlas.Number.Binary
import CodeAtlas.Store.Error

/-! # Cells

What may stand in a column of a row. A column of numbers turns a text that says a number into that
number. Any other cell that is not of the kind of its column is kept there as a stray, and is
noticed when it is read. -/
namespace CodeAtlas.Store

open Number

inductive Cell where
  | null
  | int (n : Int)
  | real (x : Binary64)
  | text (s : String)
  | bytes (b : List UInt8)
  deriving DecidableEq, Repr, Inhabited

namespace Cell

def kind : Cell → String
  | null => "Null"
  | int _ => "Integer"
  | real _ => "Real"
  | text _ => "Text"
  | bytes _ => "Blob"

/-! ## Order -/

/-- The place of a kind: a missing value, numbers, texts, bytes. -/
def rank : Cell → Nat
  | null => 0
  | int _ | real _ => 1
  | text _ => 2
  | bytes _ => 3

/-- A number in steps of the least 64-bit number above zero. -/
def steps : Cell → Int
  | int n => n * Nat.pow 2 BinaryFormat.double.depth
  | real x =>
      match x.decode with
      | .finite negative m e => (if negative then -1 else 1) * (m * Nat.pow 2 e : Nat)
      | .infinite negative => (if negative then -1 else 1) * (Nat.pow 2 2200 : Nat)
      | .nan => 0
  | _ => 0

def le (a b : Cell) : Bool :=
  if a.rank ≠ b.rank then decide (a.rank < b.rank)
  else match a, b with
    | text s, text t => !decide (t < s)
    | _, _ => decide (a.steps ≤ b.steps)

/-- Whether two cells are equal as values. Nothing equals a missing value, and a text equals no
number. -/
def equals (a b : Cell) : Bool :=
  a.rank ≠ 0 && a.rank == b.rank && if a.rank = 1 then a.steps == b.steps else a == b

/-! ## Numbers in texts -/

def isBlankChar (c : Char) : Bool := c = ' ' || (9 ≤ c.toNat && c.toNat ≤ 13)

def takeSign : List Char → Bool × List Char
  | '-' :: cs => (true, cs)
  | '+' :: cs => (false, cs)
  | cs => (false, cs)

/-- The exponent at the end of a number, with the characters after it. -/
def takeExponent (cs : List Char) : Option (Int × List Char) :=
  match cs with
  | c :: rest =>
      if c = 'e' || c = 'E' then
        let (negative, rest) := takeSign rest
        let ds := rest.takeWhile isDigit
        if ds.isEmpty then none
        else some (if negative then -(value ds : Int) else value ds, rest.dropWhile isDigit)
      else some (0, cs)
  | [] => some (0, [])

/-- The integer that a number is, if it has 64 bits with a sign. -/
def whole? (x : Binary64) : Option Int :=
  match x.decode with
  | .finite negative m e =>
      let unit := Nat.pow 2 BinaryFormat.double.depth
      let n := m * Nat.pow 2 e / unit
      if n * unit = m * Nat.pow 2 e ∧ n < 0x8000000000000000 then
        some (if negative then -(n : Int) else n)
      else none
  | _ => none

/-- The cell of a number: an integer if the number is one. -/
def ofNumber (x : Binary64) : Cell := ((whole? x).map int).getD (real x)

/-- The number that a whole text says: digits, maybe with a sign, a point and an exponent. -/
def ofText? (s : String) : Option Cell :=
  let (negative, cs) := takeSign (s.toList.dropWhile isBlankChar)
  let first := cs.takeWhile isDigit
  let rest := cs.dropWhile isDigit
  let (more, rest) := match rest with
    | '.' :: r => (r.takeWhile isDigit, r.dropWhile isDigit)
    | r => ([], r)
  match takeExponent rest with
  | none => none
  | some (exponent, after) =>
      if (first ++ more).isEmpty || !after.all isBlankChar then none
      else
        let n : Int := if negative then -(value first : Int) else value first
        let isPlain := rest.length = after.length && cs.length = first.length + after.length
        if isPlain && -0x8000000000000000 ≤ n && n < 0x8000000000000000 then some (int n)
        else some (ofNumber (.ofDecimal negative (value (first ++ more)) (exponent - more.length)))

def numeric : Cell → Cell
  | text s => (ofText? s).getD (text s)
  | real x => ofNumber x
  | c => c

end Cell

/-! ## Columns of one kind -/

/-- What a column with a kind of its own holds: a value, or a stray. -/
inductive Held (α : Type) where
  | value (a : α)
  | stray (c : Cell)
  deriving DecidableEq, Repr, Inhabited

namespace Held

/-- The value in a column of a table, which has a place counted from zero and a name. -/
def getAt (index : Nat) (column : String) : Held α → Except StoreError α
  | value a => .ok a
  | stray c => .error (.columnKind index column c.kind)

theorem getAt_value (index : Nat) (column : String) (a : α) :
    (value a).getAt index column = .ok a := rfl

def cell (toCell : α → Cell) : Held α → Cell
  | value a => toCell a
  | stray c => c

def le : Held Int → Held Int → Bool
  | value a, value b => decide (a ≤ b)
  | a, b => (a.cell .int).le (b.cell .int)

def holds [DecidableEq α] (a : α) (h : Held α) : Bool := h = value a

/-- A size from a column; one below zero is zero. -/
def sizeAt (index : Nat) (column : String) (h : Held Int) : Except StoreError Nat :=
  (h.getAt index column).map Int.toNat

def word32At (index : Nat) (column : String) (h : Held Int) : Except StoreError Nat := do
  let n ← h.getAt index column
  if 0 ≤ n ∧ n < 0x100000000 then .ok n.toNat else .error (.outOfRange index n)

end Held

end CodeAtlas.Store
