import CodeAtlas.Store.Links

/-! # Questions and answers in the store

A question has at most one answer, which is never changed. -/
namespace CodeAtlas.Store

open Number

def QuestionRow.record (id : Int) (r : QuestionRow) : Except StoreError Question := do
  let status ← r.status.getAt questionStatus 4
  let createdAt ← r.createdAt.getAt 6 "created_at"
  return {
    id := id
    subjectId := r.subjectId
    asker := r.asker
    text := r.text
    status := status
    errorMessage := r.errorMessage
    createdAt := createdAt }

def AnswerRow.record (id : Int) (r : AnswerRow) : Except StoreError StoredAnswer := do
  let confidence ← r.confidence.getAt 7 "confidence"
  let milliseconds ← r.milliseconds.sizeAt 8 "processing_time_ms"
  let sources ← r.sources.getAt Store.sources 4
  let context ← r.context.getAt Store.context 5
  let totalTokens ← r.totalTokens.word32At 6 "total_tokens_used"
  let createdAt ← r.createdAt.getAt 9 "created_at"
  return {
    id := id
    questionId := r.questionId
    answer := {
      answer := r.answer
      explanation := r.explanation
      sources := sources
      context := context
      totalTokens := totalTokens
      confidence := confidence
      milliseconds := milliseconds }
    createdAt := createdAt }

def QuestionRow.new (now subject : Int) (asker text : String) : QuestionRow where
  subjectId := subject
  asker := asker
  text := text
  status := questionStatus.write .pending
  errorMessage := none
  createdAt := .value now
  updatedAt := .value now

/-- A question with another status, and another message if one is given. -/
def QuestionRow.updated (r : QuestionRow) (now : Int) (status : QuestionStatus)
    (message : Option String) : QuestionRow :=
  { r with
    status := questionStatus.write status
    errorMessage := message <|> r.errorMessage
    updatedAt := .value now }

def createQuestion (s : Store) (now subject : Int) (asker text : String) :
    Except StoreError (Question × Store) := do
  let row := QuestionRow.new now subject asker text
  s.allow .insert .questions QuestionRow.columns row
  belongs (s.subjects.contains subject)
  return (⟨s.questions.nextId, subject, asker, text, .pending, none, now⟩,
    { s with questions := s.questions.add row })

/-- Set the status of a question, and its message if one is given. -/
def updateQuestion (s : Store) (now id : Int) (status : QuestionStatus) (message : Option String) :
    Except StoreError Store := do
  match s.questions.find? id with
  | none => throw (.notFound "question" id)
  | some old =>
      let row := old.updated now status message
      s.allow .update .questions QuestionRow.columns row
      return { s with questions := s.questions.set id row }

/-- A number as a column keeps it, where zero has no sign. -/
def unsignedZero (x : Binary32) : Binary32 := if x.bits = 0x80000000 then .zero else x

def AnswerRow.new (now question : Int) (a : Answer) : AnswerRow where
  questionId := question
  answer := a.answer
  explanation := a.explanation
  sources := Store.sources.write a.sources
  context := Store.context.write a.context
  totalTokens := .value a.totalTokens
  confidence := .value (unsignedZero a.confidence)
  milliseconds := .value (columnInt a.milliseconds)
  createdAt := .value now

/-- Write the answer to a question that has none. A confidence that is no number is no value. -/
def saveAnswer (s : Store) (now question : Int) (a : Answer) :
    Except StoreError (StoredAnswer × Store) := do
  if (s.answers.findWhere (·.questionId = question)).isSome then
    throw (.alreadyAnswered question)
  let row := AnswerRow.new now question a
  s.allow .insert .answers AnswerRow.columns row
  if a.confidence.isNaN then throw (.notNull "answers.confidence")
  belongs (s.questions.contains question)
  return (⟨s.answers.nextId, question, a, now⟩, { s with answers := s.answers.add row })

/-- Questions, the last asked first. -/
def lastAskedFirst (rows : List (Int × QuestionRow)) : List (Int × QuestionRow) :=
  orderedBy (fun a b => b.le a) QuestionRow.createdAt rows.reverse

/-- A question with its answer, if it has one. -/
def exchangeOf (s : Store) (q : Question) : Except StoreError Exchange :=
  match s.answers.findWhere (·.questionId = q.id) with
  | none => .ok ⟨q, none⟩
  | some (id, row) => (row.record id).map fun a => ⟨q, some a⟩

/-- The questions that somebody asked about a subject, with their numbers. -/
def askedBy (s : Store) (subject : Int) (asker : String) : List (Int × QuestionRow) :=
  s.questions.filter fun r => r.subjectId = subject && r.asker = asker

/-- What somebody asked about a subject, with the answers. -/
def listHistory (s : Store) (subject : Int) (asker : String) :
    Except StoreError (List Exchange) := do
  let questions ← (lastAskedFirst (s.askedBy subject asker)).mapM fun e => e.2.record e.1
  questions.mapM s.exchangeOf

end CodeAtlas.Store
