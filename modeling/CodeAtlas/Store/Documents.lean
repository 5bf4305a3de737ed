import CodeAtlas.Json.Shape
import CodeAtlas.Records.Document

/-! # Reading stored documents

The records that the store keeps as documents, read field by field. -/
namespace CodeAtlas.Store

open Json Number

/-- Read a field into a draft, unless the draft has it already. -/
def takeField (has : σ → Bool) (read : Reader β) (put : β → σ → σ) (draft : σ) :
    Option (Reader σ) :=
  if has draft then none
  else some fun c => do
    let (b, c) ← read c
    .ok (put b draft, c)

def required (name : String) : Option α → Except String α
  | some a => .ok a
  | none => .error name

/-! ## Changes of a commit -/

structure ChangeDraft where
  filename : Option String := none
  additions : Option Nat := none
  deletions : Option Nat := none
  kind : Option ChangeKind := none

def changeShape : RecordShape ChangeDraft FileChange where
  name := "FileChange"
  fields := ["filename", "additions", "deletions", "kind"]
  start := {}
  take field draft :=
    match field with
    | "filename" => takeField (·.filename.isSome) readString (fun v d => { d with filename := v }) draft
    | "additions" => takeField (·.additions.isSome) readU32 (fun v d => { d with additions := v }) draft
    | "deletions" => takeField (·.deletions.isSome) readU32 (fun v d => { d with deletions := v }) draft
    | "kind" => takeField (·.kind.isSome) (readWordOf ChangeKind.all ChangeKind.name)
        (fun v d => { d with kind := v }) draft
    | _ => none
  finish draft := do
    return ⟨← required "filename" draft.filename, ← required "additions" draft.additions,
      ← required "deletions" draft.deletions, ← required "kind" draft.kind⟩

/-! ## Parameters of a symbol -/

structure ParameterDraft where
  name : Option String := none
  typeName : Option String := none
  defaultValue : Option (Option String) := none

def parameterShape : RecordShape ParameterDraft Parameter where
  name := "Parameter"
  fields := ["name", "type_name", "default_value"]
  start := {}
  take field draft :=
    match field with
    | "name" => takeField (·.name.isSome) readString (fun v d => { d with name := v }) draft
    | "type_name" => takeField (·.typeName.isSome) readString (fun v d => { d with typeName := v }) draft
    | "default_value" => takeField (·.defaultValue.isSome) readOptionalString
        (fun v d => { d with defaultValue := some v }) draft
    | _ => none
  finish draft := do
    return ⟨← required "name" draft.name, ← required "type_name" draft.typeName,
      draft.defaultValue.join⟩

/-! ## Excerpts and sources of an answer -/

structure ChunkDraft where
  content : Option String := none
  source : Option String := none
  score : Option Binary32 := none

def chunkShape : RecordShape ChunkDraft ContextChunk where
  name := "ContextChunk"
  fields := ["content", "source", "score"]
  start := {}
  take field draft :=
    match field with
    | "content" => takeField (·.content.isSome) readString (fun v d => { d with content := v }) draft
    | "source" => takeField (·.source.isSome) readString (fun v d => { d with source := v }) draft
    | "score" => takeField (·.score.isSome) readBinary32 (fun v d => { d with score := v }) draft
    | _ => none
  finish draft := do
    return ⟨← required "content" draft.content, ← required "source" draft.source,
      ← required "score" draft.score⟩

structure FileDraft where
  path : Option String := none
  relevance : Option Binary32 := none

def fileShape : RecordShape FileDraft FileSource where
  name := "FileSource"
  fields := ["path", "relevance"]
  start := {}
  take field draft :=
    match field with
    | "path" => takeField (·.path.isSome) readString (fun v d => { d with path := v }) draft
    | "relevance" => takeField (·.relevance.isSome) readBinary32
        (fun v d => { d with relevance := v }) draft
    | _ => none
  finish draft := do
    return ⟨← required "path" draft.path, ← required "relevance" draft.relevance⟩

structure FunctionDraft where
  name : Option String := none
  filePath : Option String := none
  startLine : Option Nat := none
  endLine : Option Nat := none
  relevance : Option Binary32 := none

def functionShape : RecordShape FunctionDraft FunctionSource where
  name := "FunctionSource"
  fields := ["name", "file_path", "start_line", "end_line", "relevance"]
  start := {}
  take field draft :=
    match field with
    | "name" => takeField (·.name.isSome) readString (fun v d => { d with name := v }) draft
    | "file_path" => takeField (·.filePath.isSome) readString (fun v d => { d with filePath := v }) draft
    | "start_line" => takeField (·.startLine.isSome) readUsize
        (fun v d => { d with startLine := v }) draft
    | "end_line" => takeField (·.endLine.isSome) readUsize (fun v d => { d with endLine := v }) draft
    | "relevance" => takeField (·.relevance.isSome) readBinary32
        (fun v d => { d with relevance := v }) draft
    | _ => none
  finish draft := do
    return ⟨← required "name" draft.name, ← required "file_path" draft.filePath,
      ← required "start_line" draft.startLine, ← required "end_line" draft.endLine,
      ← required "relevance" draft.relevance⟩

structure CommitDraft where
  hash : Option String := none
  message : Option String := none
  relevance : Option Binary32 := none

def commitShape : RecordShape CommitDraft CommitSource where
  name := "CommitSource"
  fields := ["hash", "message", "relevance"]
  start := {}
  take field draft :=
    match field with
    | "hash" => takeField (·.hash.isSome) readString (fun v d => { d with hash := v }) draft
    | "message" => takeField (·.message.isSome) readString (fun v d => { d with message := v }) draft
    | "relevance" => takeField (·.relevance.isSome) readBinary32
        (fun v d => { d with relevance := v }) draft
    | _ => none
  finish draft := do
    return ⟨← required "hash" draft.hash, ← required "message" draft.message,
      ← required "relevance" draft.relevance⟩

structure NodeDraft where
  id : Option Int := none
  kind : Option NodeKind := none
  name : Option String := none
  connections : Option Nat := none

def nodeShape : RecordShape NodeDraft GraphNode where
  name := "GraphNodeSource"
  fields := ["id", "kind", "name", "connections"]
  start := {}
  take field draft :=
    match field with
    | "id" => takeField (·.id.isSome) readI64 (fun v d => { d with id := v }) draft
    | "kind" => takeField (·.kind.isSome) (readWordOf NodeKind.all NodeKind.name)
        (fun v d => { d with kind := v }) draft
    | "name" => takeField (·.name.isSome) readString (fun v d => { d with name := v }) draft
    | "connections" => takeField (·.connections.isSome) readUsize
        (fun v d => { d with connections := v }) draft
    | _ => none
  finish draft := do
    return ⟨← required "id" draft.id, ← required "kind" draft.kind, ← required "name" draft.name,
      ← required "connections" draft.connections⟩

structure SourcesDraft where
  files : Option (List FileSource) := none
  functions : Option (List FunctionSource) := none
  commits : Option (List CommitSource) := none
  graphNodes : Option (List GraphNode) := none

def sourcesShape : RecordShape SourcesDraft AnswerSources where
  name := "AnswerSources"
  fields := ["files", "functions", "commits", "graph_nodes"]
  start := {}
  take field draft :=
    match field with
    | "files" => takeField (·.files.isSome) (readList fileShape.read)
        (fun v d => { d with files := v }) draft
    | "functions" => takeField (·.functions.isSome) (readList functionShape.read)
        (fun v d => { d with functions := v }) draft
    | "commits" => takeField (·.commits.isSome) (readList commitShape.read)
        (fun v d => { d with commits := v }) draft
    | "graph_nodes" => takeField (·.graphNodes.isSome) (readList nodeShape.read)
        (fun v d => { d with graphNodes := v }) draft
    | _ => none
  finish draft := do
    return ⟨← required "files" draft.files, ← required "functions" draft.functions,
      ← required "commits" draft.commits, ← required "graph_nodes" draft.graphNodes⟩

end CodeAtlas.Store
