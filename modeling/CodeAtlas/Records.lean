import CodeAtlas.Kinds
import CodeAtlas.Language
import CodeAtlas.Number.Binary
import CodeAtlas.Json.Basic

/-! # Records

What an analysis finds in a working tree and its history, and what an answer is made of. -/
namespace CodeAtlas

open Number

/-- What a commit did to one file. -/
structure FileChange where
  filename : String
  additions : Nat
  deletions : Nat
  kind : ChangeKind
  deriving DecidableEq, Repr, Inhabited

/-- A commit of the history, with what it changed against its first parent. -/
structure Commit where
  hash : String
  shortHash : String
  authorName : String
  authorEmail : String
  timestamp : Int
  message : String
  filesChanged : List FileChange
  totalAdditions : Nat
  totalDeletions : Nat
  filesChangedCount : Nat
  parentHashes : List String
  deriving DecidableEq, Repr, Inhabited

/-- A text file of a working tree. -/
structure SourceFile where
  path : String
  filename : String
  extension : String
  language : Language
  content : String
  size : Nat
  lineCount : Nat
  deriving DecidableEq, Repr, Inhabited

/-- A parameter of a function as it stands in the source. -/
structure Parameter where
  name : String
  typeName : String
  defaultValue : Option String
  deriving DecidableEq, Repr, Inhabited

def Parameter.untyped (name : String) : Parameter := ⟨name, "any", none⟩

/-- The type of what a function returns when the source does not say. -/
def unknownType : String := "unknown"

/-- A function, method or class of a source file. -/
structure CodeSymbol where
  name : String
  kind : SymbolKind
  startLine : Nat
  endLine : Nat
  parameters : List Parameter
  returnType : String
  isExported : Bool
  isAsync : Bool
  complexity : Nat
  calls : List String
  code : String
  deriving DecidableEq, Repr, Inhabited

/-- What a source file defines, imports and exports. -/
structure Outline where
  symbols : List CodeSymbol
  imports : List String
  exports : List String
  deriving DecidableEq, Repr, Inhabited

def Outline.empty : Outline := ⟨[], [], []⟩

/-- Counts over the tables of one subject. -/
structure SubjectStats where
  totalCommits : Nat
  totalFiles : Nat
  totalFunctions : Nat
  totalDependencies : Nat
  languages : List String
  deriving DecidableEq, Repr, Inhabited

/-- A dependency between two nodes; a target outside the subject has no id. -/
structure Edge where
  sourceKind : NodeKind
  sourceId : Int
  targetKind : NodeKind
  targetId : Option Int
  targetName : String
  kind : EdgeKind
  isExternal : Bool
  deriving DecidableEq, Repr, Inhabited

/-- An embedded text: what it stands for, the text, its vector and its metadata. -/
structure Embedding where
  entityKind : EntityKind
  entityId : String
  entityName : String
  content : String
  contentKind : ContentKind
  vector : List Binary32
  metadata : Json
  deriving Inhabited

/-- An excerpt that an answer was drawn from. -/
structure ContextChunk where
  content : String
  source : String
  score : Binary32
  deriving DecidableEq, Repr, Inhabited

structure FileSource where
  path : String
  relevance : Binary32
  deriving DecidableEq, Repr, Inhabited

structure FunctionSource where
  name : String
  filePath : String
  startLine : Nat
  endLine : Nat
  relevance : Binary32
  deriving DecidableEq, Repr, Inhabited

structure CommitSource where
  hash : String
  message : String
  relevance : Binary32
  deriving DecidableEq, Repr, Inhabited

structure GraphNode where
  id : Int
  kind : NodeKind
  name : String
  connections : Nat
  deriving DecidableEq, Repr, Inhabited

/-- Everything that was retrieved for an answer. -/
structure AnswerSources where
  files : List FileSource
  functions : List FunctionSource
  commits : List CommitSource
  graphNodes : List GraphNode
  deriving DecidableEq, Repr, Inhabited

end CodeAtlas
