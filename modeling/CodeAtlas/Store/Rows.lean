import CodeAtlas.Store.Cell
import CodeAtlas.Store.Coded
import CodeAtlas.Store.VectorBytes

/-! # Rows

The rows of the eight tables. The columns of a table can also be seen by their names, as cells. -/
namespace CodeAtlas.Store

open Number

structure SubjectRow where
  name : String
  rootPath : String
  status : Coded SubjectStatus
  progress : Held Int
  statusMessage : Option String
  totalCommits : Held Int
  totalFiles : Held Int
  totalFunctions : Held Int
  totalDependencies : Held Int
  languages : Coded (List String)
  lastAnalyzedAt : Option (Held Int)
  isDeleted : Held Bool
  createdAt : Held Int
  updatedAt : Held Int
  deriving DecidableEq, Repr, Inhabited

structure CommitRow where
  subjectId : Int
  hash : String
  shortHash : String
  authorName : String
  authorEmail : String
  timestamp : Held Int
  message : String
  filesChanged : Coded (List FileChange)
  totalAdditions : Held Int
  totalDeletions : Held Int
  filesChangedCount : Held Int
  parentHashes : Coded (List String)
  deriving DecidableEq, Repr, Inhabited

structure FileRow where
  subjectId : Int
  path : String
  filename : String
  extension : String
  language : Coded Language
  content : String
  size : Held Int
  lineCount : Held Int
  imports : Coded (List String)
  exports : Coded (List String)
  contentHash : String
  isDeleted : Held Bool
  lastSeenAt : Held Int
  deriving DecidableEq, Repr, Inhabited

structure SymbolRow where
  subjectId : Int
  fileId : Int
  name : String
  kind : Coded SymbolKind
  startLine : Held Int
  endLine : Held Int
  parameters : Coded (List Parameter)
  returnType : String
  isExported : Held Bool
  isAsync : Held Bool
  complexity : Held Int
  calls : Coded (List String)
  code : String
  lastSeenAt : Held Int
  deriving DecidableEq, Repr, Inhabited

structure EdgeRow where
  subjectId : Int
  sourceKind : Coded NodeKind
  sourceId : Held Int
  targetKind : Coded NodeKind
  targetId : Option (Held Int)
  targetName : String
  kind : Coded EdgeKind
  isExternal : Held Bool
  deriving DecidableEq, Repr, Inhabited

structure EmbeddingRow where
  subjectId : Int
  entityKind : Coded EntityKind
  entityId : String
  entityName : String
  content : String
  contentKind : Coded ContentKind
  dimension : Held Int
  vector : Held (List UInt8)
  metadata : Coded Json
  createdAt : Held Int
  deriving Inhabited

structure QuestionRow where
  subjectId : Int
  asker : String
  text : String
  status : Coded QuestionStatus
  errorMessage : Option String
  createdAt : Held Int
  updatedAt : Held Int
  deriving DecidableEq, Repr, Inhabited

structure AnswerRow where
  questionId : Int
  answer : String
  explanation : String
  sources : Coded AnswerSources
  context : Coded (List ContextChunk)
  totalTokens : Held Int
  confidence : Held Binary32
  milliseconds : Held Int
  createdAt : Held Int
  deriving DecidableEq, Repr, Inhabited

/-! ## Columns -/

def Cell.text? : Cell → Option String
  | text s => some s
  | int n => some (intText n)
  | _ => none

/-- What a column of integers holds after a cell was given to it. -/
def heldInt : Cell → Option (Held Int)
  | .null | .bytes _ => none
  | c =>
      match c.numeric with
      | .int n => some (.value n)
      | c => some (.stray c)

/-- What a column of yes or no holds: any number but zero is yes. -/
def heldBool (c : Cell) : Option (Held Bool) :=
  (heldInt c).map fun
    | .value n => .value (n != 0)
    | .stray c => .stray c

/-- What a column of numbers of 32 bits holds. It has no zero with a sign. -/
def heldReal (c : Cell) : Option (Held Binary32) :=
  match c.numeric with
  | .int n => some (.value (Binary64.ofInt n).toBinary32)
  | .real x => some (.value x.toBinary32)
  | .text s => some (.stray (.text s))
  | .null | .bytes _ => none

def heldBytes : Cell → Option (Held (List UInt8))
  | .null => none
  | .bytes b => some (.value b)
  | c => some (.stray c)

/-- A named column: what stands there, and how it is overwritten. What does not fit is not
written. -/
structure Column (ρ : Type) where
  name : String
  get : ρ → Cell
  set : Cell → ρ → ρ

namespace Column

def ofText (name : String) (get : ρ → String) (put : String → ρ → ρ) : Column ρ :=
  ⟨name, fun r => .text (get r), fun c r => (c.text?.map (put · r)).getD r⟩

/-- A column of keys, which only holds integers. -/
def ofKey (name : String) (get : ρ → Int) (put : Int → ρ → ρ) : Column ρ :=
  ⟨name, fun r => .int (get r), fun c r =>
    match c.numeric with
    | .int n => put n r
    | _ => r⟩

def ofHeld (held : Cell → Option (Held α)) (toCell : α → Cell) (name : String) (get : ρ → Held α)
    (put : Held α → ρ → ρ) : Column ρ :=
  ⟨name, fun r => (get r).cell toCell, fun c r => ((held c).map (put · r)).getD r⟩

def ofInt : String → (ρ → Held Int) → (Held Int → ρ → ρ) → Column ρ := ofHeld heldInt .int

def ofBool : String → (ρ → Held Bool) → (Held Bool → ρ → ρ) → Column ρ :=
  ofHeld heldBool fun b => .int (if b then 1 else 0)

def ofCoded (name : String) (get : ρ → Coded α) (put : Coded α → ρ → ρ) : Column ρ :=
  ⟨name, fun r => .text (get r).text, fun c r => (c.text?.map fun s => put ⟨s⟩ r).getD r⟩

def ofOptionalText (name : String) (get : ρ → Option String) (put : Option String → ρ → ρ) :
    Column ρ :=
  ⟨name, fun r => ((get r).map .text).getD .null, fun c r => (c.text?.map fun s => put (some s) r).getD r⟩

def ofOptionalInt (name : String) (get : ρ → Option (Held Int))
    (put : Option (Held Int) → ρ → ρ) : Column ρ :=
  ⟨name, fun r => ((get r).map (·.cell .int)).getD .null, fun c r =>
    ((heldInt c).map fun v => put (some v) r).getD r⟩

end Column
/-! ## The columns of each table -/

def SubjectRow.columns : List (Column SubjectRow) := [
  .ofText "name" (·.name) (fun v r => { r with name := v }),
  .ofText "root_path" (·.rootPath) (fun v r => { r with rootPath := v }),
  .ofCoded "status" (·.status) (fun v r => { r with status := v }),
  .ofInt "progress" (·.progress) (fun v r => { r with progress := v }),
  .ofOptionalText "status_message" (·.statusMessage) (fun v r => { r with statusMessage := v }),
  .ofInt "total_commits" (·.totalCommits) (fun v r => { r with totalCommits := v }),
  .ofInt "total_files" (·.totalFiles) (fun v r => { r with totalFiles := v }),
  .ofInt "total_functions" (·.totalFunctions) (fun v r => { r with totalFunctions := v }),
  .ofInt "total_dependencies" (·.totalDependencies) (fun v r => { r with totalDependencies := v }),
  .ofCoded "languages" (·.languages) (fun v r => { r with languages := v }),
  .ofOptionalInt "last_analyzed_at" (·.lastAnalyzedAt) (fun v r => { r with lastAnalyzedAt := v }),
  .ofBool "is_deleted" (·.isDeleted) (fun v r => { r with isDeleted := v }),
  .ofInt "created_at" (·.createdAt) (fun v r => { r with createdAt := v }),
  .ofInt "updated_at" (·.updatedAt) (fun v r => { r with updatedAt := v })]

def CommitRow.columns : List (Column CommitRow) := [
  .ofKey "subject_id" (·.subjectId) (fun v r => { r with subjectId := v }),
  .ofText "hash" (·.hash) (fun v r => { r with hash := v }),
  .ofText "short_hash" (·.shortHash) (fun v r => { r with shortHash := v }),
  .ofText "author_name" (·.authorName) (fun v r => { r with authorName := v }),
  .ofText "author_email" (·.authorEmail) (fun v r => { r with authorEmail := v }),
  .ofInt "timestamp" (·.timestamp) (fun v r => { r with timestamp := v }),
  .ofText "message" (·.message) (fun v r => { r with message := v }),
  .ofCoded "files_changed" (·.filesChanged) (fun v r => { r with filesChanged := v }),
  .ofInt "total_additions" (·.totalAdditions) (fun v r => { r with totalAdditions := v }),
  .ofInt "total_deletions" (·.totalDeletions) (fun v r => { r with totalDeletions := v }),
  .ofInt "files_changed_count" (·.filesChangedCount) (fun v r => { r with filesChangedCount := v }),
  .ofCoded "parent_hashes" (·.parentHashes) (fun v r => { r with parentHashes := v })]

def FileRow.columns : List (Column FileRow) := [
  .ofKey "subject_id" (·.subjectId) (fun v r => { r with subjectId := v }),
  .ofText "path" (·.path) (fun v r => { r with path := v }),
  .ofText "filename" (·.filename) (fun v r => { r with filename := v }),
  .ofText "extension" (·.extension) (fun v r => { r with extension := v }),
  .ofCoded "language" (·.language) (fun v r => { r with language := v }),
  .ofText "content" (·.content) (fun v r => { r with content := v }),
  .ofInt "size" (·.size) (fun v r => { r with size := v }),
  .ofInt "line_count" (·.lineCount) (fun v r => { r with lineCount := v }),
  .ofCoded "imports" (·.imports) (fun v r => { r with imports := v }),
  .ofCoded "exports" (·.exports) (fun v r => { r with exports := v }),
  .ofText "content_hash" (·.contentHash) (fun v r => { r with contentHash := v }),
  .ofBool "is_deleted" (·.isDeleted) (fun v r => { r with isDeleted := v }),
  .ofInt "last_seen_at" (·.lastSeenAt) (fun v r => { r with lastSeenAt := v })]

def SymbolRow.columns : List (Column SymbolRow) := [
  .ofKey "subject_id" (·.subjectId) (fun v r => { r with subjectId := v }),
  .ofKey "file_id" (·.fileId) (fun v r => { r with fileId := v }),
  .ofText "name" (·.name) (fun v r => { r with name := v }),
  .ofCoded "kind" (·.kind) (fun v r => { r with kind := v }),
  .ofInt "start_line" (·.startLine) (fun v r => { r with startLine := v }),
  .ofInt "end_line" (·.endLine) (fun v r => { r with endLine := v }),
  .ofCoded "parameters" (·.parameters) (fun v r => { r with parameters := v }),
  .ofText "return_type" (·.returnType) (fun v r => { r with returnType := v }),
  .ofBool "is_exported" (·.isExported) (fun v r => { r with isExported := v }),
  .ofBool "is_async" (·.isAsync) (fun v r => { r with isAsync := v }),
  .ofInt "complexity" (·.complexity) (fun v r => { r with complexity := v }),
  .ofCoded "calls" (·.calls) (fun v r => { r with calls := v }),
  .ofText "code" (·.code) (fun v r => { r with code := v }),
  .ofInt "last_seen_at" (·.lastSeenAt) (fun v r => { r with lastSeenAt := v })]

def EdgeRow.columns : List (Column EdgeRow) := [
  .ofKey "subject_id" (·.subjectId) (fun v r => { r with subjectId := v }),
  .ofCoded "source_kind" (·.sourceKind) (fun v r => { r with sourceKind := v }),
  .ofInt "source_id" (·.sourceId) (fun v r => { r with sourceId := v }),
  .ofCoded "target_kind" (·.targetKind) (fun v r => { r with targetKind := v }),
  .ofOptionalInt "target_id" (·.targetId) (fun v r => { r with targetId := v }),
  .ofText "target_name" (·.targetName) (fun v r => { r with targetName := v }),
  .ofCoded "edge_kind" (·.kind) (fun v r => { r with kind := v }),
  .ofBool "is_external" (·.isExternal) (fun v r => { r with isExternal := v })]

def EmbeddingRow.columns : List (Column EmbeddingRow) := [
  .ofKey "subject_id" (·.subjectId) (fun v r => { r with subjectId := v }),
  .ofCoded "entity_kind" (·.entityKind) (fun v r => { r with entityKind := v }),
  .ofText "entity_id" (·.entityId) (fun v r => { r with entityId := v }),
  .ofText "entity_name" (·.entityName) (fun v r => { r with entityName := v }),
  .ofText "content" (·.content) (fun v r => { r with content := v }),
  .ofCoded "content_kind" (·.contentKind) (fun v r => { r with contentKind := v }),
  .ofInt "dimension" (·.dimension) (fun v r => { r with dimension := v }),
  .ofHeld heldBytes .bytes "vector" (·.vector) (fun v r => { r with vector := v }),
  .ofCoded "metadata" (·.metadata) (fun v r => { r with metadata := v }),
  .ofInt "created_at" (·.createdAt) (fun v r => { r with createdAt := v })]

def QuestionRow.columns : List (Column QuestionRow) := [
  .ofKey "subject_id" (·.subjectId) (fun v r => { r with subjectId := v }),
  .ofText "asker" (·.asker) (fun v r => { r with asker := v }),
  .ofText "text" (·.text) (fun v r => { r with text := v }),
  .ofCoded "status" (·.status) (fun v r => { r with status := v }),
  .ofOptionalText "error_message" (·.errorMessage) (fun v r => { r with errorMessage := v }),
  .ofInt "created_at" (·.createdAt) (fun v r => { r with createdAt := v }),
  .ofInt "updated_at" (·.updatedAt) (fun v r => { r with updatedAt := v })]

def AnswerRow.columns : List (Column AnswerRow) := [
  .ofKey "question_id" (·.questionId) (fun v r => { r with questionId := v }),
  .ofText "answer" (·.answer) (fun v r => { r with answer := v }),
  .ofText "explanation" (·.explanation) (fun v r => { r with explanation := v }),
  .ofCoded "sources" (·.sources) (fun v r => { r with sources := v }),
  .ofCoded "context" (·.context) (fun v r => { r with context := v }),
  .ofInt "total_tokens_used" (·.totalTokens) (fun v r => { r with totalTokens := v }),
  .ofHeld heldReal (fun x => .real x.toBinary64) "confidence" (·.confidence)
    (fun v r => { r with confidence := v }),
  .ofInt "processing_time_ms" (·.milliseconds) (fun v r => { r with milliseconds := v }),
  .ofInt "created_at" (·.createdAt) (fun v r => { r with createdAt := v })]

end CodeAtlas.Store
