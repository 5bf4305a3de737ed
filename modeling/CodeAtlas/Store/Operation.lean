import CodeAtlas.Store.Questions

/-! # Operations

What can be asked of the store in one step. An operation is performed as a whole at a time of the
clock; one that fails changes nothing, but that naming a subject may succeed before reading it
fails. -/
namespace CodeAtlas.Store

inductive Operation where
  | registerSubject (name rootPath : String)
  | getSubject (id : Int)
  | findSubject (rootPath : String)
  | updateStatus (id : Int) (status : SubjectStatus) (progress : Option Nat)
      (message : Option String)
  | saveStats (id : Int) (stats : SubjectStats) (analyzedAt : Int)
  | calculateStats (id : Int)
  | writeCommit (subject : Int) (commit : Commit)
  | listCommits (subject : Int) (limit : Nat)
  | searchCommits (subject : Int) (words : List String) (limit : Nat)
  | writeFile (subject : Int) (file : SourceFile) (imports exports : List String) (seenAt : Int)
  | markUnseen (subject seenAt : Int)
  | listFiles (subject : Int)
  | searchFiles (subject : Int) (pathWords contentWords : List String) (limit : Nat)
  | writeSymbol (subject file : Int) (symbol : CodeSymbol) (seenAt : Int)
  | pruneSymbols (subject seenAt : Int)
  | listSymbols (subject : Int)
  | searchSymbols (subject : Int) (nameWords codeWords : List String) (limit : Nat)
  | replaceEdges (subject : Int) (edges : List Edge)
  | listEdges (subject : Int)
  | neighborhood (subject : Int) (files symbols : List Int) (limit : Nat)
  | replaceEmbeddings (subject : Int) (embeddings : List Embedding)
  | listEmbeddings (subject : Int)
  | createQuestion (subject : Int) (asker text : String)
  | updateQuestion (id : Int) (status : QuestionStatus) (message : Option String)
  | saveAnswer (question : Int) (answer : Answer)
  | listHistory (subject : Int) (asker : String)

namespace Operation

def Result : Operation → Type
  | registerSubject .. => Subject
  | getSubject .. | findSubject .. => Option Subject
  | updateStatus .. | saveStats .. | updateQuestion .. => Unit
  | calculateStats .. => SubjectStats
  | writeCommit .. | writeFile .. | writeSymbol .. => Int
  | listCommits .. | searchCommits .. => List StoredCommit
  | markUnseen .. | pruneSymbols .. | replaceEdges .. | replaceEmbeddings .. => Nat
  | listFiles .. | searchFiles .. => List StoredFile
  | listSymbols .. | searchSymbols .. => List StoredSymbol
  | listEdges .. | neighborhood .. => List StoredEdge
  | listEmbeddings .. => List StoredEmbedding
  | createQuestion .. => Question
  | saveAnswer .. => StoredAnswer
  | listHistory .. => List Exchange

end Operation

/-- The outcome of a change: its result and the store afterwards, or an error and the store as it
was. -/
def changed (s : Store) (r : Except StoreError (α × Store)) : Except StoreError α × Store :=
  match r with
  | .ok (a, s') => (.ok a, s')
  | .error e => (.error e, s)

def changedOnly (s : Store) (r : Except StoreError Store) : Except StoreError Unit × Store :=
  s.changed (r.map fun s' => ((), s'))

/-- Name a root, and read the subject that it belongs to. -/
def registerSubject (s : Store) (now : Int) (name rootPath : String) :
    Except StoreError Subject × Store :=
  match s.writeSubject now name rootPath with
  | .error e => (.error e, s)
  | .ok (id, s') =>
      match s'.getSubject id with
      | .ok (some subject) => (.ok subject, s')
      | .ok none => (.error (.notFound "subject" id), s')
      | .error e => (.error e, s')

def perform (now : Int) (s : Store) : (o : Operation) → Except StoreError o.Result × Store
  | .registerSubject name rootPath => s.registerSubject now name rootPath
  | .getSubject id => (s.getSubject id, s)
  | .findSubject rootPath => (s.findSubject rootPath, s)
  | .updateStatus id status progress message =>
      s.changedOnly (s.updateStatus now id status progress message)
  | .saveStats id stats analyzedAt => s.changedOnly (s.saveStats id stats analyzedAt)
  | .calculateStats id => (.ok (s.calculateStats id), s)
  | .writeCommit subject commit => s.changed (s.writeCommit subject commit)
  | .listCommits subject limit => (s.listCommits subject limit, s)
  | .searchCommits subject words limit => (s.searchCommits subject words limit, s)
  | .writeFile subject file imports exports seenAt =>
      s.changed (s.writeFile subject file imports exports seenAt)
  | .markUnseen subject seenAt => s.changed (s.markUnseen subject seenAt)
  | .listFiles subject => (s.listFiles subject, s)
  | .searchFiles subject pathWords contentWords limit =>
      (s.searchFiles subject pathWords contentWords limit, s)
  | .writeSymbol subject file symbol seenAt => s.changed (s.writeSymbol subject file symbol seenAt)
  | .pruneSymbols subject seenAt => s.changed (.ok (s.pruneSymbols subject seenAt))
  | .listSymbols subject => (s.listSymbols subject, s)
  | .searchSymbols subject nameWords codeWords limit =>
      (s.searchSymbols subject nameWords codeWords limit, s)
  | .replaceEdges subject edges => s.changed (s.replaceEdges subject edges)
  | .listEdges subject => (s.listEdges subject, s)
  | .neighborhood subject files symbols limit => (s.neighborhood subject files symbols limit, s)
  | .replaceEmbeddings subject embeddings =>
      s.changed (.ok (s.replaceEmbeddings subject now embeddings))
  | .listEmbeddings subject => (s.listEmbeddings subject, s)
  | .createQuestion subject asker text => s.changed (s.createQuestion now subject asker text)
  | .updateQuestion id status message => s.changedOnly (s.updateQuestion now id status message)
  | .saveAnswer question answer => s.changed (s.saveAnswer now question answer)
  | .listHistory subject asker => (s.listHistory subject asker, s)

/-! ## Damage -/

def Table.overwrite (t : Table ρ) (columns : List (Column ρ)) (name : String) (c : Cell) : Table ρ :=
  match columns.find? fun column => column.name = name with
  | some column => t.update (fun _ => true) (column.set c)
  | none => t

/-- Overwrite a column of a table, whatever the rules of the store, and count its rows. -/
def overwrite (s : Store) (table : TableName) (column : String) (c : Cell) : Nat × Store :=
  match table with
  | .subjects =>
      (s.subjects.rows.length, { s with subjects := s.subjects.overwrite SubjectRow.columns column c })
  | .commits =>
      (s.commits.rows.length, { s with commits := s.commits.overwrite CommitRow.columns column c })
  | .files => (s.files.rows.length, { s with files := s.files.overwrite FileRow.columns column c })
  | .symbols =>
      (s.symbols.rows.length, { s with symbols := s.symbols.overwrite SymbolRow.columns column c })
  | .edges => (s.edges.rows.length, { s with edges := s.edges.overwrite EdgeRow.columns column c })
  | .embeddings =>
      (s.embeddings.rows.length,
        { s with embeddings := s.embeddings.overwrite EmbeddingRow.columns column c })
  | .questions =>
      (s.questions.rows.length,
        { s with questions := s.questions.overwrite QuestionRow.columns column c })
  | .answers =>
      (s.answers.rows.length, { s with answers := s.answers.overwrite AnswerRow.columns column c })

def refuse (s : Store) (r : Refusal) : Store := { s with refusals := s.refusals ++ [r] }

end CodeAtlas.Store
