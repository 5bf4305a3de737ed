import CodeAtlas.Number.Digits
import CodeAtlas.Records
import CodeAtlas.Text.Blank
import CodeAtlas.Text.Lines

/-! # Diff summaries

A summary has a line for each changed path that begins with a colon and tells modes, object names,
a status and the paths, and after all of these a line for each path with the numbers of lines added
and deleted. Both kinds of lines come in the same order. Reading pairs them by their place. -/
namespace CodeAtlas.History

open Number

/-! ## Writing -/

abbrev PathBytes := List UInt8

/-- A changed path. Without counts it is binary. -/
structure DiffEntry where
  oldMode : String
  newMode : String
  oldObject : String
  newObject : String
  status : Char
  score : Option Nat
  /-- The path before a rename, or what was copied. -/
  oldPath : Option PathBytes
  path : PathBytes
  counts : Option (Nat × Nat)
  deriving DecidableEq, Repr

/-- Whether a byte keeps a path from being written as it is. -/
def needsQuoting (b : UInt8) : Bool := b < 0x20 || b == 34 || b == 92 || 0x7F ≤ b

/-- A byte within quotes: a letter behind a backslash, or three octal digits. -/
def quotedByte (b : UInt8) : List Char :=
  if !needsQuoting b then [Char.ofNat b.toNat]
  else
    match b.toNat with
    | 7 => ['\\', 'a']
    | 8 => ['\\', 'b']
    | 9 => ['\\', 't']
    | 10 => ['\\', 'n']
    | 11 => ['\\', 'v']
    | 12 => ['\\', 'f']
    | 13 => ['\\', 'r']
    | 34 => ['\\', '"']
    | 92 => ['\\', '\\']
    | n => ['\\', digitChar (n / 64), digitChar (n / 8 % 8), digitChar (n % 8)]

/-- A path in a summary: as it is, or between quotes if a byte of it must not stand there. -/
def pathChars (path : PathBytes) : List Char :=
  if path.any needsQuoting then '"' :: (path.flatMap quotedByte ++ ['"'])
  else path.map fun b => Char.ofNat b.toNat

/-- The letter of a status, with a score of three digits if there is one. -/
def DiffEntry.statusChars (e : DiffEntry) : List Char :=
  e.status ::
    match e.score with
    | none => []
    | some n => [digitChar (n / 100 % 10), digitChar (n / 10 % 10), digitChar (n % 10)]

/-- The line of modes, objects, status and paths. -/
def DiffEntry.rawLine (e : DiffEntry) : List Char :=
  (":" ++ e.oldMode ++ " " ++ e.newMode ++ " " ++ e.oldObject ++ " " ++ e.newObject ++ " ").toList
    ++ e.statusChars ++
    (match e.oldPath with
      | none => []
      | some old => '\t' :: pathChars old) ++
    '\t' :: pathChars e.path ++ ['\n']

/-- How much two paths share at the beginning, up to a slash. -/
def sharedStart : PathBytes → PathBytes → Nat
  | a :: as, b :: bs =>
      if a ≠ b then 0
      else
        match sharedStart as bs with
        | 0 => if a = 47 then 1 else 0
        | n + 1 => n + 2
  | _, _ => 0

/-- The two paths of a rename, what they share written once if neither has to be quoted. -/
def renameChars (old new : PathBytes) : List Char :=
  let arrow := [' ', '=', '>', ' ']
  if old.any needsQuoting || new.any needsQuoting then pathChars old ++ arrow ++ pathChars new
  else
    let start := sharedStart old new
    let tail := sharedStart (old.drop (start - 1)).reverse (new.drop (start - 1)).reverse
    let middle (path : PathBytes) : List Char :=
      pathChars ((path.drop start).take (path.length - start - tail))
    if start + tail = 0 then middle old ++ arrow ++ middle new
    else
      pathChars (old.take start) ++ '\x7b' :: (middle old ++ arrow ++ middle new) ++
        '\x7d' :: pathChars (old.drop (old.length - tail))

def DiffEntry.countLine (e : DiffEntry) : List Char :=
  (match e.counts with
    | none => ['-', '\t', '-']
    | some (added, deleted) => digits added ++ '\t' :: digits deleted) ++
  '\t' ::
    (match e.oldPath with
      | none => pathChars e.path
      | some old => renameChars old e.path) ++ ['\n']

def renderSummary (entries : List DiffEntry) : List Char :=
  entries.flatMap DiffEntry.rawLine ++ entries.flatMap DiffEntry.countLine

/-! ## Reading -/

/-- A line of a summary. -/
inductive SummaryLine where
  | path (kind : ChangeKind) (path : List Char)
  | counts (added deleted : Nat)
  | other
  deriving DecidableEq, Repr

/-- A count below 2^32, with a plus sign if need be. What is no such count is 0. -/
def readCount (cs : List Char) : Nat :=
  let ds := match cs with
    | '+' :: rest => rest
    | _ => cs
  if ds.isEmpty || !ds.all isDigit || 0x100000000 ≤ value ds then 0 else value ds

/-- Read a line. The path is the last field, the status the last word before the first path. -/
def SummaryLine.read (line : List Char) : SummaryLine :=
  match line with
  | ':' :: rest =>
      match Text.cut '\t' rest with
      | about :: first :: more =>
          .path (.ofStatus (((Text.words about).getLast?).getD []))
            (((first :: more).getLast?).getD [])
      | _ => .other
  | _ =>
      if (Text.trim line).isEmpty then .other
      else
        match Text.cut '\t' line with
        | added :: deleted :: _ => .counts (readCount added) (readCount deleted)
        | added :: [] => .counts (readCount added) 0
        | [] => .other

def SummaryLine.path? : SummaryLine → Option (ChangeKind × List Char)
  | path kind name => some (kind, name)
  | _ => none

def SummaryLine.counts? : SummaryLine → Option (Nat × Nat)
  | counts added deleted => some (added, deleted)
  | _ => none

/-- Give each path the counts in the same place, or none. -/
def pairChanges : List (ChangeKind × List Char) → List (Nat × Nat) → List FileChange
  | [], _ => []
  | (kind, name) :: paths, [] => ⟨String.ofList name, 0, 0, kind⟩ :: pairChanges paths []
  | (kind, name) :: paths, (added, deleted) :: counts =>
      ⟨String.ofList name, added, deleted, kind⟩ :: pairChanges paths counts

def readSummary (summary : List Char) : List FileChange :=
  let lines := (Text.terminatedLines summary).map SummaryLine.read
  pairChanges (lines.filterMap SummaryLine.path?) (lines.filterMap SummaryLine.counts?)

end CodeAtlas.History
