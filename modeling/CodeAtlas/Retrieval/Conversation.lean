import CodeAtlas.Retrieval.Prompt
import CodeAtlas.Retrieval.Reply
import CodeAtlas.Retrieval.Search

/-! # Questions and answers

A question about a subject that is ready is stored, answered from what a search finds, and stored
with its answer. A completion service that is missing or fails gives way to a fixed answer. A search
that fails leaves the question in error; one that breaks off leaves it as it is. -/
namespace CodeAtlas.Retrieval

open Inference (Services ServiceError Completion)
open Number

/-- Why a question gets no answer. -/
inductive AskError where
  | emptyQuestion
  | subjectNotFound (subject : Int)
  | notReady (subject : Int) (status : SubjectStatus)
  | store (e : StoreError)
  deriving DecidableEq, Repr

namespace AskError

def message : AskError → String
  | emptyQuestion => "invalid input: question must not be empty"
  | subjectNotFound subject => "subject " ++ intText subject ++ " not found"
  | notReady subject status =>
      "subject " ++ intText subject ++ " is not ready (status: " ++ status.name ++ ")"
  | store e => "store error: " ++ e.message

/-- What is wrong, from the outermost cause to the innermost. -/
def causes (e : AskError) : List String :=
  e.message :: match e with
    | store cause => cause.causes
    | _ => []

end AskError

/-- How a call ends that returns no answer: it fails, or it breaks off where hits are sorted. -/
inductive Halt where
  | failed (e : AskError)
  | brokeOff
  deriving DecidableEq, Repr

/-- What is said where a call breaks off. -/
def brokenSort : String :=
  "user-provided comparison function does not correctly implement a total order"

def Halt.causes : Halt → List String
  | failed e => e.causes
  | brokeOff => [brokenSort]

/-- A question with its answer. -/
structure Answered where
  question : Question
  answer : StoredAnswer
  deriving DecidableEq, Repr, Inhabited

def Answered.toJson (a : Answered) : Json :=
  .object [("question", a.question.toJson), ("answer", a.answer.toJson)]

/-! ## Answers -/

/-- The confidence of a written answer: 0.8. -/
def writtenConfidence : Binary32 := ⟨0x3F4CCCCD⟩

/-- The confidence of an answer that nothing writes: 0.5. -/
def unwrittenConfidence : Binary32 := ⟨0x3F000000⟩

/-- The confidence of an answer that could not be written: 0.3. -/
def failedConfidence : Binary32 := ⟨0x3E99999A⟩

/-- The longest excerpt that is kept with an answer, in characters. -/
def contextExcerpt : Nat := 500

def unwrittenAnswer : String :=
  "Detailed AI analysis requires a configured completion service. The most relevant files, " ++
    "functions and commits found for this question are listed in the sources."

def unwrittenExplanation : String :=
  "No completion provider is configured. Set [inference] provider in .quarry/config.toml (or " ++
    "export OPENAI_API_KEY) to get generated answers."

def failedAnswer : String :=
  "The completion service could not produce an answer. The retrieved structural matches are " ++
    "listed in the sources."

/-- The answer that what the completion service says comes to. -/
def answerOf (context : Context) (said : Except ServiceError (Option Completion))
    (milliseconds : Nat) : Answer :=
  let base : Answer := {
    answer := ""
    explanation := ""
    sources := answerSources context
    context := (mergeChunks context).map fun c =>
      ⟨Text.firstChars contextExcerpt c.content, c.source, c.score⟩
    totalTokens := 0
    confidence := unwrittenConfidence
    milliseconds := milliseconds }
  match said with
  | .ok (some completion) =>
      let reply := Reply.parse completion.text
      { base with
        answer := reply.answer
        explanation := reply.explanation
        totalTokens := completion.totalTokens
        confidence := writtenConfidence }
  | .ok none => { base with answer := unwrittenAnswer, explanation := unwrittenExplanation }
  | .error e =>
      { base with
        answer := failedAnswer
        explanation := "Completion error: " ++ e.message
        confidence := failedConfidence }

/-- The answer to a question, unless the search for it breaks off. -/
def answer (services : Services) (subject : Int) (question : String) : Task (Option Answer) := do
  let started ← Program.time
  match ← search services subject question with
  | none => return none
  | some context =>
      let said ← Program.completion
        (prompt question (mergeChunks context) (answerSources context).graphNodes)
      let finished ← Program.time
      return some (answerOf context said (finished - started).toNat)

/-! ## Conversations -/

abbrev Talk := ExceptT Halt Program

/-- Ask the store; its errors are told as they are. -/
def storeTalk (task : Task α) : Talk α := task.adapt fun e => .failed (.store e)

/-- A question, unless it cannot be asked now. -/
def questionToAsk (subject : Int) (question : String) : Talk String := do
  let question := Text.trimmed question
  if question.isEmpty then throw (.failed .emptyQuestion)
  let found : Option Subject ← storeTalk (ask (.getSubject subject))
  match found with
  | none => throw (.failed (.subjectNotFound subject))
  | some s =>
      if s.status = .ready then return question else throw (.failed (.notReady subject s.status))

/-- Leave a question in error if its talk fails. What the store says to that counts for nothing. -/
def recordFailure (question : Int) : Halt → Program Unit
  | .failed e => do
      let _ ← Program.request (.updateQuestion question .error (some e.message))
  | .brokeOff => return

/-- Store the answer to a question, unless the search for it broke off. -/
def conclude (stored : Question) : Option Answer → Talk Answered
  | none => throw .brokeOff
  | some answer => do
      let saved : StoredAnswer ← storeTalk (ask (.saveAnswer stored.id answer))
      let _ ← storeTalk (ask (.updateQuestion stored.id .completed none))
      return ⟨{ stored with status := .completed }, saved⟩

def converse (services : Services) (subject : Int) (question asker : String) :
    Talk Answered := do
  let question ← questionToAsk subject question
  let stored : Question ← storeTalk (ask (.createQuestion subject asker question))
  let _ ← storeTalk (ask (.updateQuestion stored.id .processing none))
  let found ← tryCatch (storeTalk (answer services subject question)) fun e => do
    recordFailure stored.id e
    throw e
  conclude stored found

/-- All questions of an asker about a subject with their answers, the latest first. -/
def history (subject : Int) (asker : String) : Talk (List Exchange) :=
  storeTalk (ask (.listHistory subject asker))

end CodeAtlas.Retrieval
