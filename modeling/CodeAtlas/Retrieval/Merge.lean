import CodeAtlas.Number.Digits
import CodeAtlas.Retrieval.Ranking
import CodeAtlas.Text.Lines

/-! # Merging what was found

Excerpts for the prompt and sources for the answer, from hits by similarity and hits by words. -/
namespace CodeAtlas.Retrieval

open Number

/-- Everything that was found for a question. -/
structure Context where
  keywords : List String := []
  vectorHits : List VectorHit := []
  files : List StoredFile := []
  symbols : List StoredSymbol := []
  commits : List StoredCommit := []
  edges : List StoredEdge := []
  deriving Inhabited

/-- An excerpt with a label that says what it is from. -/
structure Chunk where
  kind : EntityKind
  name : String
  source : String
  content : String
  score : Binary32
  deriving DecidableEq, Repr, Inhabited

def maxChunks : Nat := 15
def wordFileScore : Binary32 := ⟨0x3F000000⟩
def wordFunctionScore : Binary32 := ⟨0x3F19999A⟩
def wordCommitScore : Binary32 := ⟨0x3F000000⟩

/-- The longest excerpt of a file that was found by words. -/
def fileExcerptLimit : Nat := 1500

def Chunk.ofHit (hit : VectorHit) : Chunk :=
  let e := hit.stored.embedding
  ⟨e.entityKind, e.entityName, e.entityKind.name ++ ": " ++ e.entityName, e.content, hit.score⟩

def Chunk.ofFile (f : StoredFile) : Chunk :=
  ⟨.file, f.file.path, "file: " ++ f.file.path, Text.firstChars fileExcerptLimit f.file.content,
    wordFileScore⟩

def Chunk.ofSymbol (s : StoredSymbol) : Chunk :=
  ⟨.function, s.symbol.name, "function: " ++ s.symbol.name ++ " (" ++ s.filePath ++ ")",
    s.symbol.code, wordFunctionScore⟩

def addFile (chunks : List Chunk) (f : StoredFile) : List Chunk :=
  if chunks.any fun c => Text.occursIn f.file.path.toList c.source.toList then chunks
  else chunks ++ [.ofFile f]

/-- Add a symbol unless a chunk has its label, or is a function of its name. -/
def addSymbol (chunks : List Chunk) (s : StoredSymbol) : List Chunk :=
  let new := Chunk.ofSymbol s
  if chunks.any fun c => c.source == new.source || (c.kind == .function && c.name == new.name) then
    chunks
  else chunks ++ [new]

/-- Hits by similarity, then files and then symbols that were found by words. -/
def mergeChunks (context : Context) : List Chunk :=
  (context.symbols.foldl addSymbol
    (context.files.foldl addFile (context.vectorHits.map Chunk.ofHit))).take maxChunks

/-! ## Sources -/

def metadataText? (metadata : Json) (key : String) : Option String :=
  (metadata.get? key).bind Json.string?

def metadataNat (metadata : Json) (key : String) : Nat :=
  ((metadata.get? key).bind Json.nat?).getD 0

/-- Add a source unless there is one of the same identity. -/
def addSource [DecidableEq κ] (identity : α → κ) (sources : List α) (source : α) : List α :=
  if sources.any fun s => identity s = identity source then sources else sources ++ [source]

def addFileSource : List FileSource → FileSource → List FileSource := addSource (·.path)

def addFunctionSource : List FunctionSource → FunctionSource → List FunctionSource :=
  addSource fun s => (s.name, s.filePath, s.startLine)

def addCommitSource : List CommitSource → CommitSource → List CommitSource := addSource (·.hash)

def firstLine (text : String) : String :=
  String.ofList ((Text.terminatedLines text.toList).head?.getD [])

def hitFile? (hit : VectorHit) : Option FileSource :=
  let e := hit.stored.embedding
  if e.entityKind = .file then
    some ⟨(metadataText? e.metadata "path").getD e.entityName, hit.score⟩
  else none

def hitFunction? (hit : VectorHit) : Option FunctionSource :=
  let e := hit.stored.embedding
  if e.entityKind = .function then
    some ⟨e.entityName, (metadataText? e.metadata "file_path").getD "",
      metadataNat e.metadata "start_line", metadataNat e.metadata "end_line", hit.score⟩
  else none

def hitCommit? (hit : VectorHit) : Option CommitSource :=
  let e := hit.stored.embedding
  if e.entityKind = .commit then
    some ⟨(metadataText? e.metadata "hash").getD e.entityId,
      (metadataText? e.metadata "message").getD e.content, hit.score⟩
  else none

def wordFile (f : StoredFile) : FileSource := ⟨f.file.path, wordFileScore⟩

def wordFunction (s : StoredSymbol) : FunctionSource :=
  ⟨s.symbol.name, s.filePath, s.symbol.startLine, s.symbol.endLine, wordFunctionScore⟩

def wordCommit (c : StoredCommit) : CommitSource :=
  ⟨c.commit.hash, firstLine c.commit.message, wordCommitScore⟩

/-! ## Nodes of the dependency graph -/

/-- A node of the graph: its kind and number. -/
abbrev NodeKey := NodeKind × Int

/-- The nodes that an edge touches: its source, and its target if that is inside the subject. -/
def edgeNodes (e : Edge) : List NodeKey :=
  (e.sourceKind, e.sourceId) ::
    match e.targetId with
    | some id => if e.targetKind = .external then [] else [(e.targetKind, id)]
    | none => []

/-- The name of a node: of the last file or symbol that was found with its number, or else of the
first edge that leads to it. -/
def nodeName (context : Context) (key : NodeKey) : String :=
  let file := context.files.reverse.find? fun f => (NodeKind.file, f.id) = key
  let symbol := context.symbols.reverse.find? fun s => (NodeKind.function, s.id) = key
  let edge := context.edges.find? fun e =>
    e.edge.targetId = some key.2 ∧ e.edge.targetKind = key.1 ∧ key.1 ≠ .external
  match file, symbol, edge with
  | some f, _, _ => f.file.path
  | none, some s, _ => s.symbol.name
  | none, none, some e => e.edge.targetName
  | none, none, none => key.1.name ++ "#" ++ intText key.2

/-- Whether a node is listed before another: more connections first, then by kind and number. -/
def GraphNode.before (a b : GraphNode) : Bool :=
  if a.connections ≠ b.connections then b.connections < a.connections
  else if a.kind ≠ b.kind then a.kind.rank < b.kind.rank
  else a.id ≤ b.id

def graphNodeLimit : Nat := 10

/-- The nodes that the edges touch, the most connected first. -/
def graphNodes (context : Context) : List GraphNode :=
  let touched := context.edges.flatMap fun e => edgeNodes e.edge
  let nodes := touched.eraseDups.map fun key =>
    (⟨key.2, key.1, nodeName context key, touched.count key⟩ : GraphNode)
  (nodes.mergeSort GraphNode.before).take graphNodeLimit

/-- What the answer is drawn from, whatever a reply says. -/
def answerSources (context : Context) : AnswerSources where
  files := (context.vectorHits.filterMap hitFile? ++ context.files.map wordFile).foldl
    addFileSource []
  functions :=
    (context.vectorHits.filterMap hitFunction? ++ context.symbols.map wordFunction).foldl
      addFunctionSource []
  commits :=
    (context.vectorHits.filterMap hitCommit? ++ context.commits.map wordCommit).foldl
      addCommitSource []
  graphNodes := graphNodes context

end CodeAtlas.Retrieval
