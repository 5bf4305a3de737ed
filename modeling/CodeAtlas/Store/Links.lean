import CodeAtlas.Store.Contents

/-! # Edges and embeddings in the store

Both are replaced as a whole, subject by subject. If one of the edges cannot be written, none is;
an embedding that cannot be written is left out. -/
namespace CodeAtlas.Store

/-! ## Edges -/

def EdgeRow.record (id : Int) (r : EdgeRow) : Except StoreError StoredEdge := do
  let sourceKind ← r.sourceKind.getAt nodeKind 2
  let sourceId ← r.sourceId.getAt 3 "source_id"
  let targetKind ← r.targetKind.getAt nodeKind 4
  let targetId ← r.targetId.mapM (·.getAt 5 "target_id")
  let kind ← r.kind.getAt edgeKind 7
  let isExternal ← r.isExternal.getAt 8 "is_external"
  return {
    id := id
    subjectId := r.subjectId
    edge := {
      sourceKind := sourceKind
      sourceId := sourceId
      targetKind := targetKind
      targetId := targetId
      targetName := r.targetName
      kind := kind
      isExternal := isExternal } }

def EdgeRow.new (subject : Int) (e : Edge) : EdgeRow where
  subjectId := subject
  sourceKind := nodeKind.write e.sourceKind
  sourceId := .value e.sourceId
  targetKind := nodeKind.write e.targetKind
  targetId := e.targetId.map .value
  targetName := e.targetName
  kind := edgeKind.write e.kind
  isExternal := .value e.isExternal

def addEdge (s : Store) (subject : Int) (e : Edge) : Except StoreError Store := do
  let row := EdgeRow.new subject e
  s.allow .insert .edges EdgeRow.columns row
  belongs (s.subjects.contains subject)
  return { s with edges := s.edges.add row }

/-- Replace the edges of a subject, and count the new ones. -/
def replaceEdges (s : Store) (subject : Int) (edges : List Edge) :
    Except StoreError (Nat × Store) := do
  let cleared := { s with edges := s.edges.removeWhere (·.subjectId = subject) }
  let s ← edges.foldlM (fun s e => s.addEdge subject e) cleared
  return (edges.length, s)

def listEdges (s : Store) (subject : Int) : Except StoreError (List StoredEdge) :=
  (s.edges.filter (·.subjectId = subject)).mapM fun e => e.2.record e.1

/-- Whether an edge begins or ends at one of some files or symbols. -/
def EdgeRow.touches (files symbols : List Int) (r : EdgeRow) : Bool :=
  let isAt (kind : Coded NodeKind) (id : Option (Held Int)) : Bool :=
    id.any fun id =>
      (kind.text = NodeKind.file.name && files.any (id.holds ·)) ||
        (kind.text = NodeKind.function.name && symbols.any (id.holds ·))
  isAt r.sourceKind (some r.sourceId) || isAt r.targetKind r.targetId

/-- The first edges that begin or end at one of some files or symbols. -/
def neighborhood (s : Store) (subject : Int) (files symbols : List Int) (limit : Nat) :
    Except StoreError (List StoredEdge) :=
  let rows := s.edges.filter fun r => r.subjectId = subject && r.touches files symbols
  (limited limit rows).mapM fun e => e.2.record e.1

/-! ## Embeddings -/

def EmbeddingRow.record (id : Int) (r : EmbeddingRow) : Except StoreError StoredEmbedding := do
  let vector ← r.vector.getAt 7 "vector"
  let entityKind ← r.entityKind.getAt Store.entityKind 2
  let contentKind ← r.contentKind.getAt Store.contentKind 6
  let metadata ← r.metadata.getAt Store.metadata 8
  return {
    id := id
    subjectId := r.subjectId
    embedding := {
      entityKind := entityKind
      entityId := r.entityId
      entityName := r.entityName
      content := r.content
      contentKind := contentKind
      vector := vectorOfBytes vector
      metadata := metadata } }

def EmbeddingRow.new (subject now : Int) (e : Embedding) : EmbeddingRow where
  subjectId := subject
  entityKind := Store.entityKind.write e.entityKind
  entityId := e.entityId
  entityName := e.entityName
  content := e.content
  contentKind := Store.contentKind.write e.contentKind
  dimension := .value e.vector.length
  vector := .value (bytesOfVector e.vector)
  metadata := Store.metadata.write e.metadata
  createdAt := .value now

def addEmbedding (s : Store) (subject now : Int) (e : Embedding) : Except StoreError Store := do
  let row := EmbeddingRow.new subject now e
  s.allow .insert .embeddings EmbeddingRow.columns row
  belongs (s.subjects.contains subject)
  return { s with embeddings := s.embeddings.add row }

/-- Replace the embeddings of a subject, and count those that were written. -/
def replaceEmbeddings (s : Store) (subject now : Int) (embeddings : List Embedding) : Nat × Store :=
  let cleared := { s with embeddings := s.embeddings.removeWhere (·.subjectId = subject) }
  embeddings.foldl (fun state e =>
    match state.2.addEmbedding subject now e with
    | .ok s => (state.1 + 1, s)
    | .error _ => state) (0, cleared)

def listEmbeddings (s : Store) (subject : Int) : Except StoreError (List StoredEmbedding) :=
  (s.embeddings.filter (·.subjectId = subject)).mapM fun e => e.2.record e.1

end CodeAtlas.Store
