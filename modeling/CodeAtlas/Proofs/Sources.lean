import CodeAtlas.Proofs.Excerpts
import Mathlib.Data.List.Nodup

/-! # Sources behind the excerpts

The sources of an answer are what was found, each of it once: a file by its path, a function by its
name, file and first line, a commit by its hash. Each has the relevance of where it was found first,
with the hits by rank in front of what was found by words. So whatever an excerpt is of is a source,
though excerpts give way to each other by other rules and are cut off at a number. -/
namespace CodeAtlas

open Number

/-- What a source is of. -/
inductive Entity where
  | file (path : String)
  | function (name path : String) (startLine : Nat)
  | commit (hash : String)
  deriving DecidableEq, Repr

def Entity.kind : Entity → EntityKind
  | .file _ => .file
  | .function .. => .function
  | .commit _ => .commit

/-! ## Sources by what they are of -/

def FileSource.entry (s : FileSource) : Entity × Binary32 := (.file s.path, s.relevance)

def FunctionSource.entry (s : FunctionSource) : Entity × Binary32 :=
  (.function s.name s.filePath s.startLine, s.relevance)

def CommitSource.entry (s : CommitSource) : Entity × Binary32 := (.commit s.hash, s.relevance)

/-- The files, functions and commits among the sources, with their relevance. -/
def AnswerSources.entries (sources : AnswerSources) : List (Entity × Binary32) :=
  sources.files.map FileSource.entry ++ sources.functions.map FunctionSource.entry ++
    sources.commits.map CommitSource.entry

namespace Retrieval

/-- One thing that was found, by similarity or by words. -/
inductive Finding where
  | hit (h : VectorHit)
  | file (f : StoredFile)
  | symbol (y : StoredSymbol)
  | commit (c : StoredCommit)

namespace Finding

def relevance : Finding → Binary32
  | hit h => h.score
  | file _ => wordFileScore
  | symbol _ => wordFunctionScore
  | commit _ => wordCommitScore

end Finding

/-! ## The first of each identity -/

section First

variable {α β κ μ : Type} [DecidableEq κ] [DecidableEq μ] {identity : α → κ} {items made : List α}

end First

/-! ## The sources of an answer -/

variable {context : Context} {e : Entity} {r : Binary32}

end Retrieval

end CodeAtlas
