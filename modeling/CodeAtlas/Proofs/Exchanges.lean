import CodeAtlas.Proofs.Stages

/-! # Exchanges

A question and its answer, from the talk that asks to the rows that the store keeps. The number that
the store gives a question is known to one talk only, so that only this talk changes its status and
writes its answer, whatever other talks and analyses do in between. -/
namespace CodeAtlas

/-- How the status of a question may change. -/
inductive QuestionStatus.Moves : QuestionStatus → QuestionStatus → Prop
  | taken : Moves .pending .processing
  | completed : Moves .processing .completed
  | failed : Moves .processing .error

namespace Store

variable {s s' : Store} {now : Int} {o : Operation} {r : Except StoreError o.Result}

/-! ## Questions and answers belong together -/

/-- Numbers are given once, each answer is to a question that is there, and no two answers are to
the same. -/
structure Paired (s : Store) : Prop where
  questionIds : s.questions.Ordered
  answerIds : s.answers.Ordered
  asked : ∀ e ∈ s.answers.rows, s.questions.contains e.2.questionId = true
  once : s.answers.Unique AnswerRow.questionId

namespace Paired

lemma empty (refusals : List Refusal) : Paired { Store.empty with refusals } where
  questionIds := Table.ordered_empty
  answerIds := Table.ordered_empty
  asked := by simp [Store.empty, Table.empty]
  once := by simp [Store.empty, Table.empty, Table.Unique]

lemma of_eq (h : s.Paired) (questions : s'.questions = s.questions)
    (answers : s'.answers = s.answers) : s'.Paired := by
  constructor <;> simp only [questions, answers]
  exacts [h.questionIds, h.answerIds, h.asked, h.once]

lemma createQuestion (h : s.Paired) (row : QuestionRow) :
    Paired { s with questions := s.questions.add row } :=
  { h with
    questionIds := h.questionIds.add row
    asked := fun e he => h.questionIds.contains_add (h.asked e he) }

lemma updateQuestion (h : s.Paired) (id : Int) (row : QuestionRow) :
    Paired { s with questions := s.questions.set id row } :=
  { h with
    questionIds := h.questionIds.set id row
    asked := fun e he => Table.contains_set.trans (h.asked e he) }

lemma saveAnswer (h : s.Paired) (row : AnswerRow)
    (unanswered : s.answers.findWhere (·.questionId = row.questionId) = none)
    (asked : s.questions.contains row.questionId = true) :
    Paired { s with answers := s.answers.add row } := by
  have other : ∀ e ∈ s.answers.rows, e.2.questionId ≠ row.questionId :=
    fun e he => by simpa using Table.findWhere_eq_none.1 unanswered e he
  refine { h with
    answerIds := h.answerIds.add row
    asked := fun e he => ?_
    once := h.once.add other }
  rcases Table.mem_add.1 he with he | rfl
  · exact h.asked e he
  · exact asked

/-- Every operation keeps it. -/
theorem answered (h : s.Paired) (answers : s.Answers now o r s') : s'.Paired := by
  cases o with
  | createQuestion subject asker text =>
    obtain ⟨-, -, rfl⟩ | ⟨-, rfl⟩ := answers.createQuestion
    · exact h
    · exact h.createQuestion _
  | updateQuestion id status message =>
    obtain ⟨-, -, rfl⟩ | ⟨-, old, -, rfl⟩ := answers.updateQuestion
    · exact h
    · exact h.updateQuestion id _
  | saveAnswer question a =>
    obtain ⟨-, -, rfl⟩ | ⟨-, unanswered, asked, rfl⟩ := answers.saveAnswer
    · exact h
    · exact h.saveAnswer (.new now question a) unanswered asked
  | _ => exact h.of_eq (answers.sameBut.questions (by simp)) (answers.sameBut.answers (by simp))

lemma unanswered (h : s.Paired) : s.answers.filter (·.questionId = s.questions.nextId) = [] :=
  List.filter_eq_nil_iff.2 fun e he same =>
    h.questionIds.ne_nextId (h.asked e he) (of_decide_eq_true same)

end Paired

/-- The store has a question with its status, and its answer if and only if there is one. -/
structure Holds (s : Store) (x : Exchange) : Prop where
  question : ∃ row, s.questions.find? x.question.id = some row ∧
    row.subjectId = x.question.subjectId ∧ row.asker = x.question.asker ∧
    row.text = x.question.text ∧ row.status = questionStatus.write x.question.status
  answer : s.answers.filter (·.questionId = x.question.id) =
    x.answer.toList.map fun a => (a.id, .new a.createdAt a.questionId a.answer)

/-- What becomes of questions and answers: an answer stays as it is, a question moves on or stays as
it is, and a question that is new is pending. -/
structure Advances (s s' : Store) : Prop where
  answers : ∀ e ∈ s.answers.rows, e ∈ s'.answers.rows
  questions : ∀ id row, s.questions.find? id = some row →
    ∃ row', s'.questions.find? id = some row' ∧ (row' = row ∨
      ∃ now status status' message, row.status = questionStatus.write status ∧
        status.Moves status' ∧ row' = row.updated now status' message)
  posed : ∀ id row, s'.questions.find? id = some row → s.questions.find? id = none →
    row.status = questionStatus.write .pending

end Store

/-- However far a program has got, questions and answers belong together. -/
lemma Program.Steps.paired {p q : Program α} {w v : World} (h : Steps p w q v)
    (paired : w.store.Paired) : v.store.Paired := by
  induction h with
  | refl => exact paired
  | step first _ ih =>
    cases first with
    | now => exact ih paired
    | perform later answers => exact ih (paired.answered answers)
    | complete => exact ih paired

theorem History.paired {log : List (Call × Ending)} {w : World} (h : History log w) :
    w.store.Paired := by
  induction h with
  | start refusals => exact .empty refusals
  | returned _ steps ih => exact steps.paired ih
  | killed _ steps _ ih => exact steps.paired ih

namespace Retrieval

open Inference (Services)
open Store (Operation QuestionRow AnswerRow Table)

variable {may : Int → String → String → Prop} {x y : Option Exchange} {s s' : Store}

/-! ## What a talk does to its exchange -/

/-- What a talk may ask for, given its exchange as the store has it. -/
inductive MayAsk (may : Int → String → String → Prop) : Option Exchange → Operation → Prop
  | aside {x : Option Exchange} {o : Operation} (questions : o.table? ≠ some .questions)
      (answers : o.table? ≠ some .answers) : MayAsk may x o
  | pose {subject : Int} {asker text : String} (posable : may subject asker text) :
      MayAsk may none (.createQuestion subject asker text)
  | move {x : Exchange} {status : QuestionStatus} {message : Option String}
      (moves : x.question.status.Moves status) :
      MayAsk may (some x) (.updateQuestion x.question.id status message)
  | tell {x : Exchange} {a : Answer} : MayAsk may (some x) (.saveAnswer x.question.id a)

/-- The exchange of a talk after what the store says to an operation. -/
def exchangeAfter : Option Exchange → (o : Operation) → Except StoreError o.Result →
    Option Exchange
  | none, .createQuestion .., .ok q => some ⟨{ q with status := .pending }, none⟩
  | some x, .updateQuestion _ status _, .ok () =>
      some { x with question := { x.question with status } }
  | some x, .saveAnswer .., .ok a => some { x with answer := some a }
  | x, _, _ => x

/-- The rules of talks that may pose some questions. -/
def talking (may : Int → String → String → Prop) : Rules (Option Exchange) where
  permits := MayAsk may
  next := exchangeAfter

/-- All that one request may do to the exchange of a talk and to the rows of the store. -/
inductive Talked (may : Int → String → String → Prop) (s : Store) :
    Option Exchange → Option Exchange → Store → Prop
  | aside {x : Option Exchange} {s' : Store} (questions : s'.questions = s.questions)
      (answers : s'.answers = s.answers) : Talked may s x x s'
  | posed {subject : Int} {asker text : String} (now : Int) (posable : may subject asker text) :
      Talked may s none
        (some ⟨⟨s.questions.nextId, subject, asker, text, .pending, none, now⟩, none⟩)
        { s with questions := s.questions.add (.new now subject asker text) }
  | moved {x : Exchange} {status : QuestionStatus} {old : QuestionRow} (now : Int)
      (message : Option String) (moves : x.question.status.Moves status)
      (found : s.questions.find? x.question.id = some old) :
      Talked may s (some x) (some { x with question := { x.question with status } })
        { s with questions := s.questions.set x.question.id (old.updated now status message) }
  | told {x : Exchange} (now : Int) (a : Answer)
      (unanswered : s.answers.findWhere (·.questionId = x.question.id) = none)
      (asked : s.questions.contains x.question.id = true) :
      Talked may s (some x)
        (some { x with answer := some ⟨s.answers.nextId, x.question.id, a, now⟩ })
        { s with answers := s.answers.add (.new now x.question.id a) }

lemma exchangeAfter_aside {o : Operation} {r : Except StoreError o.Result}
    (questions : o.table? ≠ some .questions) (answers : o.table? ≠ some .answers) :
    exchangeAfter x o r = x := by
  cases o with
  | createQuestion | updateQuestion => exact absurd rfl questions
  | saveAnswer => exact absurd rfl answers
  | _ => cases x <;> rfl

lemma talked_of_request (h : (talking may).Request x s y s') : Talked may s x y s' := by
  cases h with
  | silent => exact .aside rfl rfl
  | @asked o t r _ permitted answers =>
    cases permitted with
    | aside questions others =>
      rw [show (talking may).next x o r = x from exchangeAfter_aside questions others]
      exact .aside (answers.sameBut.questions questions) (answers.sameBut.answers others)
    | pose posable =>
      obtain ⟨e, rfl, rfl⟩ | ⟨rfl, rfl⟩ := answers.createQuestion
      · exact .aside rfl rfl
      · exact .posed t posable
    | move moves =>
      obtain ⟨e, rfl, rfl⟩ | ⟨rfl, old, found, rfl⟩ := answers.updateQuestion
      · exact .aside rfl rfl
      · exact .moved t _ moves found
    | tell =>
      obtain ⟨e, rfl, rfl⟩ | ⟨rfl, unanswered, asked, rfl⟩ := answers.saveAnswer
      · exact .aside rfl rfl
      · exact .told t _ unanswered asked

namespace Talked

lemma paired (h : Talked may s x y s') (paired : s.Paired) : s'.Paired := by
  cases h with
  | aside questions answers => exact paired.of_eq questions answers
  | posed now posable => exact paired.createQuestion _
  | moved now message moves found => exact paired.updateQuestion _ _
  | told now a unanswered asked => exact paired.saveAnswer (.new now _ a) unanswered asked

lemma advances (h : Talked may s x y s') (paired : s.Paired)
    (own : ∀ e, x = some e → s.Holds e) : s.Advances s' := by
  have ordered := (h.paired paired).questionIds
  cases h with
  | aside questions answers =>
    refine ⟨fun e he => answers ▸ he, fun id row found => ⟨row, questions ▸ found, .inl rfl⟩, ?_⟩
    intro id row found missing
    rw [questions, missing] at found
    cases found
  | posed now posable =>
    refine ⟨fun e he => he, fun id row found => ⟨row, ?_, .inl rfl⟩, fun id row found missing => ?_⟩
    · have mem := paired.questionIds.find?_eq_some.1 found
      exact ordered.find?_eq_some.2 (Table.mem_add.2 (.inl mem))
    · rcases Table.mem_add.1 (ordered.find?_eq_some.1 found) with old | new
      · rw [paired.questionIds.find?_eq_some.2 old] at missing
        cases missing
      · cases new
        rfl
  | @moved e status old now message moves found =>
    obtain ⟨row, held, -, -, -, stands⟩ := (own e rfl).question
    cases found.symm.trans held
    refine ⟨fun e he => he, fun id row' found' => ?_, fun id row' found' missing => ?_⟩
    · by_cases same : id = e.question.id
      · subst same
        cases found.symm.trans found'
        exact ⟨old.updated now status message, by simp [Table.find?_set, found],
          .inr ⟨now, _, status, message, stands, moves, rfl⟩⟩
      · exact ⟨row', by simp [Table.find?_set, same, found'], .inl rfl⟩
    · have there : s.questions.contains id = true := by
        rw [← Table.contains_set, Table.contains, found']
        rfl
      simp [Table.contains, missing] at there
  | told now a unanswered asked =>
    refine ⟨fun e he => Table.mem_add.2 (.inl he), fun id row found => ⟨row, found, .inl rfl⟩, ?_⟩
    intro id row found missing
    rw [missing] at found
    cases found

lemma holds (h : Talked may s x y s') (paired : s.Paired)
    (own : ∀ e, x = some e → s.Holds e) : ∀ e, y = some e → s'.Holds e := by
  cases h with
  | aside questions answers =>
    intro e he
    obtain ⟨question, answer⟩ := own e he
    exact ⟨questions ▸ question, answers ▸ answer⟩
  | @posed subject asker text now posable =>
    rintro _ ⟨⟩
    refine ⟨⟨.new now subject asker text, paired.questionIds.find?_add _, rfl, rfl, rfl, rfl⟩, ?_⟩
    exact paired.unanswered
  | @moved e status old now message moves found =>
    rintro _ ⟨⟩
    obtain ⟨⟨row, held, subject, asker, text, -⟩, answer⟩ := own e rfl
    cases found.symm.trans held
    refine ⟨⟨old.updated now status message, ?_, subject, asker, text, rfl⟩, answer⟩
    simp [Table.find?_set, found]
  | @told e now a unanswered asked =>
    rintro _ ⟨⟩
    refine ⟨(own e rfl).question, ?_⟩
    have none : s.answers.filter (·.questionId = e.question.id) = [] :=
      List.filter_eq_nil_iff.2 fun d hd => by simpa using Table.findWhere_eq_none.1 unanswered d hd
    simp [Table.filter_add_of_pos, AnswerRow.new, none]

/-- A talk has the question that it had, or one that is new. -/
lemma known (h : Talked may s x y s') : ∀ e, y = some e →
    (∃ d, x = some d ∧ d.question.id = e.question.id) ∨
      x = none ∧ e.question.id = s.questions.nextId := by
  cases h with
  | aside => exact fun e he => .inl ⟨e, he, rfl⟩
  | posed =>
    rintro _ ⟨⟩
    exact .inr ⟨rfl, rfl⟩
  | moved | told =>
    rintro _ ⟨⟩
    exact .inl ⟨_, rfl, rfl⟩

lemma posable (h : Talked may s x y s')
    (own : ∀ e, x = some e → may e.question.subjectId e.question.asker e.question.text) :
    ∀ e, y = some e → may e.question.subjectId e.question.asker e.question.text := by
  cases h with
  | aside => exact own
  | posed now posable =>
    rintro _ ⟨⟩
    exact posable
  | @moved e | @told e =>
    rintro _ ⟨⟩
    exact own e rfl

/-- The exchange of another talk is left alone. -/
lemma holds_other (h : Talked may s x y s') (paired : s.Paired) {d : Exchange} (held : s.Holds d)
    (other : ∀ e, x = some e → e.question.id ≠ d.question.id) : s'.Holds d := by
  obtain ⟨⟨row, found, same⟩, answer⟩ := held
  cases h with
  | aside questions answers => exact ⟨⟨row, questions ▸ found, same⟩, answers ▸ answer⟩
  | posed now posable =>
    refine ⟨⟨row, (paired.questionIds.add _).find?_eq_some.2 ?_, same⟩, answer⟩
    exact Table.mem_add.2 (.inl (paired.questionIds.find?_eq_some.1 found))
  | @moved e status old now message moves =>
    refine ⟨⟨row, ?_, same⟩, answer⟩
    simpa [Table.find?_set, (other e rfl).symm] using found
  | @told e now a =>
    refine ⟨⟨row, found, same⟩, (Table.filter_add ?_).trans answer⟩
    exact decide_eq_false (other e rfl)

end Talked

/-! ## Talks keep to their rules -/

lemma storeTalk_follows {o : Operation} {ok : o.Result → Option Exchange → Prop}
    {bad : Halt → Option Exchange → Prop} (permitted : MayAsk may x o)
    (good : ∀ a, ok a (exchangeAfter x o (.ok a)))
    (failed : ∀ e, bad (.failed (.store e)) (exchangeAfter x o (.error e))) :
    FollowsOr (talking may) ok bad (storeTalk (ask o)) x := by
  refine .adapt ⟨Program.follows_request permitted fun r => ?_⟩
  cases r with
  | ok a => exact good a
  | error e => exact failed e

lemma follows_of_reads {p : ExceptT ε Program α} (h : AsksOnly IsRead p) :
    FollowsOr (talking may) (fun _ y => y = x) (fun _ y => y = x) p x := by
  refine h.follows_at fun o reads => ?_
  have aside : ∀ table, o.table? ≠ some table := fun table writes => by
    cases reads.symm.trans writes
  exact ⟨.aside (aside _) (aside _), fun r => exchangeAfter_aside (aside _) (aside _)⟩

variable {services : Services} {subject : Int} {question asker : String}

lemma questionToAsk_follows :
    FollowsOr (talking may) (fun text y => text = Text.trimmed question ∧ y = none)
      (fun _ _ => True) (questionToAsk subject question) none := by
  have found : FollowsOr (talking may) (fun (_ : Option Subject) y => y = none) (fun _ _ => True)
      (storeTalk (ask (.getSubject subject))) none :=
    storeTalk_follows (o := .getSubject subject) (.aside nofun nofun) (fun _ => rfl)
      fun _ => trivial
  unfold questionToAsk
  dsimp only
  split
  · exact FollowsOr.bind (M := fun _ _ => False) (.of_throw trivial) fun _ _ h => h.elim
  · refine found.bind ?_
    rintro (_ | s) _ rfl
    · exact .of_throw trivial
    · dsimp only
      split
      · exact .of_pure ⟨rfl, rfl⟩
      · exact .of_throw trivial

/-- What a talk has stored when it ends well. -/
def Told (a : Answered) (y : Option Exchange) : Prop :=
  y = some ⟨a.question, some a.answer⟩ ∧ a.question.status = .completed

lemma conclude_follows {q : Question} {found : Option Answer} :
    FollowsOr (talking may) Told (fun _ _ => True) (conclude q found)
      (some ⟨{ q with status := .processing }, none⟩) := by
  cases found with
  | none => exact .of_throw trivial
  | some a =>
    refine FollowsOr.bind (M := fun saved y =>
      y = some ⟨{ q with status := .processing }, some saved⟩) ?_ ?_
    · exact storeTalk_follows (.tell (x := ⟨{ q with status := .processing }, none⟩))
        (fun _ => rfl) fun _ => trivial
    · rintro saved _ rfl
      refine FollowsOr.bind (M := fun _ y =>
        y = some ⟨{ q with status := .completed }, some saved⟩) ?_ ?_
      · exact storeTalk_follows
          (.move (x := ⟨{ q with status := .processing }, some saved⟩) .completed)
          (fun _ => rfl) fun _ => trivial
      · rintro _ _ rfl
        exact .of_pure ⟨rfl, rfl⟩

/-- A talk keeps to the rules, and has stored what it tells when it ends well. -/
lemma converse_follows (posable : may subject asker (Text.trimmed question)) :
    FollowsOr (talking may) Told (fun _ _ => True) (converse services subject question asker)
      none := by
  refine questionToAsk_follows.bind ?_
  rintro _ _ ⟨rfl, rfl⟩
  refine FollowsOr.bind
    (M := fun (q : Question) y => y = some ⟨{ q with status := .pending }, none⟩)
    (storeTalk_follows (.pose posable) (fun _ => rfl) fun _ => trivial) ?_
  rintro q _ rfl
  refine FollowsOr.bind (M := fun _ y => y = some ⟨{ q with status := .processing }, none⟩) ?_ ?_
  · exact storeTalk_follows (.move (x := ⟨{ q with status := .pending }, none⟩) .taken)
      (fun _ => rfl) fun _ => trivial
  rintro _ _ rfl
  refine FollowsOr.bind (M := fun _ y => y = some ⟨{ q with status := .processing }, none⟩) ?_ ?_
  · refine FollowsOr.tryCatch (M := fun _ y => y = some ⟨{ q with status := .processing }, none⟩)
      (.adapt (follows_of_reads reads_answer)) ?_
    rintro e _ rfl
    refine FollowsOr.bind (M := fun _ _ => True) (.of_lift ?_) fun _ _ _ => .of_throw trivial
    cases e with
    | brokeOff => exact .done trivial
    | failed e =>
      exact Program.Follows.bind (M := fun _ _ => True)
        (Program.follows_request (.move (x := ⟨{ q with status := .processing }, none⟩) .failed)
          fun _ => trivial) fun _ _ _ => .done trivial
  · rintro found _ rfl
    exact conclude_follows

end Retrieval

/-! ## Analyses leave exchanges alone -/

namespace Analysis

/-- Neither questions nor answers are written. -/
def LeavesExchanges (o : Store.Operation) : Prop :=
  o.table? ≠ some .questions ∧ o.table? ≠ some .answers

lemma run_leaves {disk : Disk} {services : Inference.Services} {subject : Int}
    {options : AnalysisOptions} :
    AsksOnly LeavesExchanges (run disk services subject options) := by
  refine run_writes.mono fun o writes => ⟨fun h => ?_, fun h => ?_⟩
  · simpa using writes _ h
  · simpa using writes _ h

end Analysis

end CodeAtlas
