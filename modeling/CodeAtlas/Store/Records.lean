import CodeAtlas.Records.Document

/-! # Stored records

Records with the numbers that the store gives them. -/
namespace CodeAtlas

open Number

/-- A working tree that is analysed, and where its analysis stands. -/
structure Subject where
  id : Int
  name : String
  rootPath : String
  status : SubjectStatus
  progress : Nat
  statusMessage : Option String
  stats : SubjectStats
  lastAnalyzedAt : Option Int
  isDeleted : Bool
  createdAt : Int
  deriving DecidableEq, Repr, Inhabited

structure StoredCommit where
  id : Int
  subjectId : Int
  commit : Commit
  deriving DecidableEq, Repr, Inhabited

structure StoredFile where
  id : Int
  subjectId : Int
  file : SourceFile
  imports : List String
  exports : List String
  contentHash : String
  isDeleted : Bool
  deriving DecidableEq, Repr, Inhabited

structure StoredSymbol where
  id : Int
  subjectId : Int
  fileId : Int
  filePath : String
  symbol : CodeSymbol
  deriving DecidableEq, Repr, Inhabited

structure StoredEdge where
  id : Int
  subjectId : Int
  edge : Edge
  deriving DecidableEq, Repr, Inhabited

structure StoredEmbedding where
  id : Int
  subjectId : Int
  embedding : Embedding
  deriving Inhabited

/-- A question about a subject, and where its answer stands. -/
structure Question where
  id : Int
  subjectId : Int
  asker : String
  text : String
  status : QuestionStatus
  errorMessage : Option String
  createdAt : Int
  deriving DecidableEq, Repr, Inhabited

/-- An answer with what it was drawn from. -/
structure Answer where
  answer : String
  explanation : String
  sources : AnswerSources
  context : List ContextChunk
  totalTokens : Nat
  confidence : Binary32
  milliseconds : Nat
  deriving DecidableEq, Repr, Inhabited

structure StoredAnswer where
  id : Int
  questionId : Int
  answer : Answer
  createdAt : Int
  deriving DecidableEq, Repr, Inhabited

/-- A question with its answer, if it has one. -/
structure Exchange where
  question : Question
  answer : Option StoredAnswer
  deriving DecidableEq, Repr, Inhabited

/-! ## As documents -/

def Subject.toJson (s : Subject) : Json :=
  .object [("id", .int s.id), ("name", .string s.name), ("root_path", .string s.rootPath),
    ("status", .string s.status.name), ("progress", .nat s.progress),
    ("status_message", .optional .string s.statusMessage), ("stats", s.stats.toJson),
    ("last_analyzed_at", .optional .int s.lastAnalyzedAt), ("is_deleted", .bool s.isDeleted),
    ("created_at", .int s.createdAt)]

def StoredCommit.toJson (c : StoredCommit) : Json :=
  .object ([("id", .int c.id), ("subject_id", .int c.subjectId)] ++ c.commit.fields)

def StoredFile.toJson (f : StoredFile) : Json :=
  .object [("id", .int f.id), ("subject_id", .int f.subjectId), ("path", .string f.file.path),
    ("filename", .string f.file.filename), ("extension", .string f.file.extension),
    ("language", .string f.file.language.recordName), ("content", .string f.file.content),
    ("size", .nat f.file.size), ("line_count", .nat f.file.lineCount),
    ("imports", .strings f.imports), ("exports", .strings f.exports),
    ("content_hash", .string f.contentHash), ("is_deleted", .bool f.isDeleted)]

def StoredSymbol.toJson (s : StoredSymbol) : Json :=
  .object ([("id", .int s.id), ("subject_id", .int s.subjectId), ("file_id", .int s.fileId),
    ("file_path", .string s.filePath)] ++ s.symbol.fields)

def StoredEdge.toJson (e : StoredEdge) : Json :=
  .object ([("id", .int e.id), ("subject_id", .int e.subjectId)] ++ e.edge.fields)

def Question.toJson (q : Question) : Json :=
  .object [("id", .int q.id), ("subject_id", .int q.subjectId), ("asker", .string q.asker),
    ("text", .string q.text), ("status", .string q.status.name),
    ("error_message", .optional .string q.errorMessage), ("created_at", .int q.createdAt)]

def StoredAnswer.toJson (a : StoredAnswer) : Json :=
  .object [("id", .int a.id), ("question_id", .int a.questionId),
    ("answer", .string a.answer.answer), ("explanation", .string a.answer.explanation),
    ("sources", a.answer.sources.toJson),
    ("context", .array (a.answer.context.map ContextChunk.toJson)),
    ("total_tokens_used", .nat a.answer.totalTokens),
    ("confidence", .single a.answer.confidence),
    ("processing_time_ms", .nat a.answer.milliseconds), ("created_at", .int a.createdAt)]

def Exchange.toJson (e : Exchange) : Json :=
  .object [("question", e.question.toJson), ("answer", .optional StoredAnswer.toJson e.answer)]

end CodeAtlas
