import CodeAtlas.History.Summary
import CodeAtlas.Text.Lowercase
import CodeAtlas.Text.Utf8

/-! # What git tells of a history

A library reads the commits of a repository, and git itself prints what changed between two of them.
Either is taken as it answers; the records of the commits are made of that here. -/
namespace CodeAtlas.History

abbrev ObjectName := String

/-- A commit as it is read. Its author and its time may not be readable. -/
structure GitCommit where
  name : ObjectName
  author : Option (List UInt8 × List UInt8)
  message : List UInt8
  seconds : Option Int64
  parents : List ObjectName
  deriving DecidableEq, Repr, Inhabited

/-- An open repository: what leads to its head, the latest commit first and nothing in place of one
that cannot be read, and what git prints of two commits, unless that fails. -/
structure GitLog where
  commits : List (Option GitCommit)
  diff : (parent child : ObjectName) → Option (List UInt8)

/-- The repository around the directory at a path, if there is one. -/
abbrev Git := (path : String) → Option GitLog

def shortHashLength : Nat := 7

def smallName (name : ObjectName) : ObjectName :=
  String.ofList (Text.asciiLowercase name.toList)

/-- What changed between two commits; nothing if git does not tell. -/
def GitLog.changes (log : GitLog) (parent child : ObjectName) : List FileChange :=
  match log.diff parent child with
  | some summary => readSummary (Text.decodeBytes summary)
  | none => []

/-- The record of a commit, with its changes against its first parent. -/
def GitLog.record (log : GitLog) (c : GitCommit) : Commit :=
  let hash := smallName c.name
  let parents := c.parents.map smallName
  let changes := match parents with
    | parent :: _ => log.changes parent hash
    | [] => []
  let decoded (bytes : List UInt8) : String := Text.trimmed (Text.ofBytes bytes)
  { hash := hash
    shortHash := Text.firstChars shortHashLength hash
    authorName := (c.author.map fun a => decoded a.1).getD ""
    authorEmail := (c.author.map fun a => decoded a.2).getD ""
    timestamp := (c.seconds.map Int64.toInt).getD 0
    message := decoded c.message
    filesChanged := changes
    totalAdditions := changes.foldl (fun sum c => sum + c.additions) 0
    totalDeletions := changes.foldl (fun sum c => sum + c.deletions) 0
    filesChangedCount := changes.length
    parentHashes := parents }

/-- At most `limit` commits of the repository around a path; without one there are none. -/
def commitsAt (git : Git) (path : String) (limit : Nat) : List Commit :=
  match git path with
  | some log => ((log.commits.filterMap id).take limit).map log.record
  | none => []

end CodeAtlas.History
