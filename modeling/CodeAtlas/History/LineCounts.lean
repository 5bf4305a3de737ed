import Std.Data.HashMap

/-! # Lines added and deleted

How many lines have to be deleted from a text and added to it to get another. Lines that both texts
begin or end with are left alone, and lines that the other text does not have are counted at once.
Of the rest a shortest script of single changes is taken. -/
namespace CodeAtlas.History

/-- The lines of bytes, each with its newline. -/
def byteLines : List UInt8 → List (List UInt8)
  | [] => []
  | b :: rest =>
      if b = 10 then [10] :: byteLines rest
      else
        match rest with
        | [] => [[b]]
        | c :: more =>
            match byteLines (c :: more) with
            | [] => [[b]]
            | line :: others => (b :: line) :: others

/-- Number lines so that equal lines have equal numbers. -/
def numberLines (known : Std.HashMap (List UInt8) Nat) :
    List (List UInt8) → Std.HashMap (List UInt8) Nat × List Nat
  | [] => (known, [])
  | line :: rest =>
      let n := known.getD line known.size
      let (known, numbers) := numberLines (known.insert line n) rest
      (known, n :: numbers)

/-- How many members two lists have in common at the beginning. -/
def commonStart : List Nat → List Nat → Nat
  | a :: as, b :: bs => if a = b then commonStart as bs + 1 else 0
  | _, _ => 0

/-- A power of two that is not below the root of a number. -/
def rootBound (n : Nat) : Nat := if n = 0 then 1 else Nat.pow 2 (n.log2 / 2 + 1)

/-- How a line is met in the other text. -/
inductive Meeting where
  | never
  | seldom
  | often
  deriving DecidableEq, Repr

/-- How far around a line it is looked for lines that are never met. -/
def scanWindow : Nat := 100

/-- How many lines stand in a run of lines that are not met seldom: those that are never met, and
those that are met often. -/
def runCounts : List Meeting → Nat × Nat
  | .never :: rest => let (a, b) := runCounts rest; (a + 1, b)
  | .often :: rest => let (a, b) := runCounts rest; (a, b + 1)
  | _ => (0, 0)

/-- Whether a line that is met often is given up, because the lines around it on both sides are
mostly never met. The lines before it are listed from the nearest on. -/
def isGivenUp (before after : List Meeting) : Bool :=
  let (never0, often0) := runCounts (before.take scanWindow)
  let (never1, often1) := runCounts (after.take scanWindow)
  if never0 = 0 || never1 = 0 then false
  else
    let often := often0 + often1 + 2
    often * 4 < often + never0 + never1

def keptLines : (before : List Meeting) → List (Nat × Meeting) → List Nat
  | _, [] => []
  | before, (n, m) :: rest =>
      let kept : Bool := match m with
        | .never => false
        | .seldom => true
        | .often => !isGivenUp before ((rest.take scanWindow).map (·.2))
      let others := keptLines (m :: before) rest
      if kept then n :: others else others

def occurrences (numbers : List Nat) : Std.HashMap Nat Nat :=
  numbers.foldl (fun counts n => counts.insert n (counts.getD n 0 + 1)) ∅

/-- How the lines of a text of `size` lines are met in another one. -/
def meetings (size : Nat) (other : Std.HashMap Nat Nat) (numbers : List Nat) :
    List (Nat × Meeting) :=
  let limit := min (rootBound size) 1024
  numbers.map fun n =>
    let met := other.getD n 0
    (n, if met = 0 then .never else if limit ≤ met then .often else .seldom)

/-! ## Shortest scripts -/

def slide (a b : Array Nat) : (fuel x y : Nat) → Nat
  | 0, x, _ => x
  | fuel + 1, x, y =>
      if x < a.size ∧ y < b.size ∧ a[x]? = b[y]? then slide a b fuel (x + 1) (y + 1) else x

/-- Whether a position of the first list has a partner on a diagonal. Diagonal `i` of `cost` is
where the first position is ahead of the second by `2 * i - cost`. -/
def onDiagonal (a b : Array Nat) (cost i x : Nat) : Bool :=
  x ≤ a.size && 2 * i ≤ x + cost && x + cost ≤ b.size + 2 * i

/-- The furthest positions reached with `cost` changes on its diagonals, from those reached with
one change less. -/
def reach (a b : Array Nat) (cost : Nat) (earlier : Array (Option Nat)) : Array (Option Nat) :=
  (Array.range (cost + 1)).map fun i =>
    let deleted := if i = 0 then none else (earlier[i - 1]?.join).map (· + 1)
    let added := earlier[i]?.join
    let start := if cost = 0 then some 0 else none
    let starts := [deleted, added, start].filterMap fun o => o.filter (onDiagonal a b cost i)
    starts.max?.map fun x => slide a b (a.size + 1) x (x + cost - 2 * i)

/-- The number of changes of a shortest script, found by trying ever more. -/
def scriptLength (a b : Array Nat) : (fuel cost : Nat) → Array (Option Nat) → Nat
  | 0, cost, _ => cost
  | fuel + 1, cost, earlier =>
      let now := reach a b cost earlier
      let done := (List.range (cost + 1)).any fun i =>
        now[i]?.join == some a.size && a.size + cost == b.size + 2 * i
      if done then cost else scriptLength a b fuel (cost + 1) now

def commonLength (a b : List Nat) : Nat :=
  let changes := scriptLength a.toArray b.toArray (a.length + b.length + 1) 0 #[]
  (a.length + b.length - changes) / 2

/-- How many lines are added and deleted between two texts. -/
def lineCounts (old new : List UInt8) : Nat × Nat :=
  let (known, a) := numberLines ∅ (byteLines old)
  let (_, b) := numberLines known (byteLines new)
  let start := commonStart a b
  let a' := a.drop start
  let b' := b.drop start
  let tail := commonStart a'.reverse b'.reverse
  let a' := a'.take (a'.length - tail)
  let b' := b'.take (b'.length - tail)
  let keptA := keptLines [] (meetings a.length (occurrences b) a')
  let keptB := keptLines [] (meetings b.length (occurrences a) b')
  let common := commonLength keptA keptB
  (b'.length - common, a'.length - common)

end CodeAtlas.History
