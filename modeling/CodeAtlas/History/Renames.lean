import CodeAtlas.History.Object
import CodeAtlas.History.Similarity

/-! # Renames

A file that is gone and a file that is new may be one that was moved. Equal contents are paired
first, then names that are unique on both sides with contents alike for three quarters, then the
rest by how alike the contents are, down to one half. -/
namespace CodeAtlas.History

/-- A file on one side of a comparison. -/
structure Side where
  path : List UInt8
  mode : EntryMode
  object : ObjectName
  deriving DecidableEq, Repr

/-- A changed path: what it was and what it is. -/
structure PathChange where
  old : Option Side
  new : Option Side
  deriving DecidableEq, Repr

def renameScore : Nat := 30000

/-- The lowest score of a rename that keeps a unique name. -/
def sameNameScore : Nat := 45000

def baseName (path : List UInt8) : FileName := ((FileTree.pieces path).getLast?).getD []

/-- Files that are gone with files that they have become. -/
abbrev Pairs := List (Side × Side)

namespace Pairs

def usesOld (pairs : Pairs) (s : Side) : Bool := pairs.any (·.1 == s)
def usesNew (pairs : Pairs) (s : Side) : Bool := pairs.any (·.2 == s)

end Pairs

/-- Whether a file may have become another one of equal contents. -/
def isSameContent (old new : Side) : Bool :=
  old.object == new.object &&
    ((old.mode.isRegular && new.mode.isRegular) || old.mode == new.mode)

/-- Pair files of equal contents, of several that are left one of the same name before others. -/
def exactPairs (gone : List Side) (added : List Side) : Pairs :=
  added.foldl (fun pairs new =>
    let candidates := (gone.filter fun old => !pairs.usesOld old && isSameContent old new).take 100
    match candidates.find? fun old => baseName old.path == baseName new.path with
    | some old => pairs ++ [(old, new)]
    | none =>
        match candidates with
        | old :: _ => pairs ++ [(old, new)]
        | [] => pairs) []

/-- How files of some contents are compared. Links are never alike. -/
abbrev Comparison := (lowest : Nat) → Side → Side → Nat

/-- Pair files of a name that only one of the files left on each side has. -/
def namePairs (score : Comparison) (gone added : List Side) : Pairs :=
  gone.filterMap fun old =>
    let name := baseName old.path
    match gone.filter (baseName ·.path == name), added.filter (baseName ·.path == name) with
    | [_], [new] => if sameNameScore ≤ score sameNameScore old new then some (old, new) else none
    | _, _ => none

/-- A pair of files with their score, and whether they have the same name. -/
structure Candidate where
  old : Side
  new : Side
  score : Nat
  sameName : Bool

def Candidate.before (a b : Candidate) : Bool :=
  if a.score = b.score then a.sameName && !b.sameName else b.score < a.score

def candidatesPerFile : Nat := 4

/-- The place of the first candidate that no other comes behind. -/
def worstPlace (kept : List Candidate) : Nat :=
  (kept.zipIdx.foldl (fun (worst : Option (Candidate × Nat)) c =>
    match worst with
    | none => some c
    | some w => if w.1.before c.1 then some c else some w) none).elim 0 (·.2)

/-- Keep a candidate if there is room or if it comes before the worst that is kept. -/
def keepBetter (kept : List Candidate) (c : Candidate) : List Candidate :=
  if kept.length < candidatesPerFile then kept ++ [c]
  else
    match kept[worstPlace kept]? with
    | some w => if c.before w then kept.set (worstPlace kept) c else kept
    | none => kept

/-- How many files are compared with each other, at most. -/
def comparisonLimit : Nat := 1000 * 1000

/-- Pair what is left by similarity, the most similar first. -/
def similarPairs (score : Comparison) (gone added : List Side) : Pairs :=
  if comparisonLimit < gone.length * added.length then []
  else
    let candidates := added.flatMap fun new =>
      gone.foldl (fun kept old =>
        keepBetter kept ⟨old, new, score renameScore old new,
          baseName old.path == baseName new.path⟩) []
    let sorted := candidates.mergeSort fun a b => !b.before a
    (sorted.takeWhile (renameScore ≤ ·.score)).foldl (fun pairs c =>
      if pairs.usesOld c.old || pairs.usesNew c.new then pairs else pairs ++ [(c.old, c.new)]) []

/-- The renames among files that are gone and files that are new. -/
def findRenames (score : Comparison) (gone added : List Side) : Pairs :=
  let exact := exactPairs gone added
  let gone := gone.filter (!exact.usesOld ·)
  let added := added.filter (!exact.usesNew ·)
  let named := namePairs score gone added
  let gone := gone.filter (!named.usesOld ·)
  let added := added.filter (!named.usesNew ·)
  exact ++ named ++ similarPairs score gone added

def withRenames (score : Comparison) (changes : List PathChange) : List PathChange :=
  let gone := changes.filterMap fun c => if c.new.isNone then c.old else none
  let added := changes.filterMap fun c => if c.old.isNone then c.new else none
  let pairs := findRenames score gone added
  changes.filterMap fun c =>
    match c.old, c.new with
    | some old, none => if pairs.usesOld old then none else some c
    | none, some new => some ⟨(pairs.find? (·.2 == new)).map (·.1), some new⟩
    | _, _ => some c

end CodeAtlas.History
