import CodeAtlas.Proofs.Attained
import CodeAtlas.Proofs.Refusals

/-! # What is recalled

The history of an asker on an attained store: each question that was asked, once, with its answer.
It can be read as long as the scores of all its answers can be told from their documents. Those have
no numbers that are not finite, so with such a score in one answer all of the history is lost. -/
namespace CodeAtlas

/-- An answer as its columns give it back. -/
def Answer.inColumns (a : Answer) : Answer :=
  { a with
    confidence := Store.unsignedZero a.confidence
    milliseconds := Store.columnSize a.milliseconds }

/-- The scores of what an answer draws on. -/
def Answer.scores (a : Answer) : List Number.Binary32 :=
  Store.sourceScores a.sources ++ a.context.map (·.score)

namespace Store

/-! ## Rows -/

lemma AnswerRow.record_new {now question : Int} {a : Answer}
    (fits : (Operation.saveAnswer question a).InRange) (told : ∀ score ∈ a.scores, ScoreTold score)
    (id : Int) :
    (AnswerRow.new now question a).record id = .ok ⟨id, question, a.inColumns, now⟩ := by
  obtain ⟨sourcesTold, contextTold⟩ := List.forall_mem_append.1 told
  have sources := (sources_keeps fits.2 sourcesTold).getAt 4
  have context := (context_keeps (List.forall_mem_map.1 contextTold)).getAt 5
  simp only [record, AnswerRow.new, sources, context, Held.getAt_value, Held.sizeAt_value,
    Held.word32At_value fits.1, ok_bind]
  rfl

lemma AnswerRow.record_infinite {now question : Int} {a : Answer}
    (fits : (Operation.saveAnswer question a).InRange)
    (told : ∀ score ∈ a.scores, score.isFinite = true → ScoreTold score)
    (infinite : ∃ score ∈ a.scores, score.isFinite = false) {id : Int} {x : StoredAnswer} :
    (AnswerRow.new now question a).record id ≠ .ok x := by
  intro read
  obtain ⟨sourcesTold, contextTold⟩ := List.forall_mem_append.1 told
  simp only [record, bind_eq_ok] at read
  obtain ⟨_, -, _, -, _, sources, _, context, -⟩ := read
  obtain ⟨score, mem, is_infinite⟩ := infinite
  rcases List.mem_append.1 mem with mem | mem
  · exact not_reads_sources fits.2 sourcesTold ⟨score, mem, is_infinite⟩
      (Codec.reads_of_getAt sources)
  · obtain ⟨chunk, there, rfl⟩ := List.mem_map.1 mem
    exact not_reads_context (List.forall_mem_map.1 contextTold) ⟨chunk, there, is_infinite⟩
      (Codec.reads_of_getAt context)

lemma Held.eq_of_getAt {index : Nat} {column : String} {h : Held α} {a : α}
    (read : h.getAt index column = .ok a) : h = .value a := by
  cases h with
  | value b => rw [Except.ok.inj read]
  | stray c => cases read

lemma QuestionRow.keys_of_record {id : Int} {r : QuestionRow} {q : Question}
    (h : r.record id = .ok q) :
    q.id = id ∧ q.subjectId = r.subjectId ∧ q.asker = r.asker ∧
      r.createdAt = .value q.createdAt := by
  simp only [QuestionRow.record, bind_eq_ok, pure_eq_ok] at h
  obtain ⟨_, -, c, hc, rfl⟩ := h
  exact ⟨rfl, rfl, rfl, Held.eq_of_getAt hc⟩

namespace Table

variable {t : Table ρ} {p : ρ → Bool}

lemma findWhere_add (none : t.findWhere p = none) {row : ρ} (hp : p row = true) :
    (t.add row).findWhere p = some (t.nextId, row) := by
  have before : t.rows.find? (fun e => p e.2) = .none := none
  simp [findWhere, add, List.find?_append, before, hp]

end Table

/-! ## Questions in the order in which they were asked -/

variable {s s' : Store} {subject : Int} {asker : String} {history : List Exchange}

lemma mem_askedBy {e : Int × QuestionRow} : e ∈ s.askedBy subject asker ↔
    e ∈ s.questions.rows ∧ e.2.subjectId = subject ∧ e.2.asker = asker := by
  simp [askedBy, Table.mem_filter]

lemma lastAskedFirst_perm (rows : List (Int × QuestionRow)) : (lastAskedFirst rows).Perm rows :=
  (orderedBy_perm _).trans (List.reverse_perm _)

lemma createdAt_set {t : Table QuestionRow} (ordered : t.Ordered) {id : Int} {old row : QuestionRow}
    (found : t.find? id = some old) (kept : row.createdAt = old.createdAt) :
    (t.set id row).rows.map (fun e => e.2.createdAt) = t.rows.map fun e => e.2.createdAt := by
  rw [Table.set, List.map_map]
  refine List.map_congr_left fun e he => ?_
  by_cases same : e.1 = id
  · have mem : (id, e.2) ∈ t.rows := same ▸ he
    have is_old : e.2 = old := ordered.eq_of_id mem (Table.mem_of_find? found)
    simp [same, kept, is_old]
  · simp [same]

/-- The moments at which questions were asked are readings of the clock, in their order. -/
lemma Attained.createdAt {readings : List Int} (h : Attained readings s) :
    ∃ moments : List Int, moments.Sublist readings ∧
      s.questions.rows.map (fun e => e.2.createdAt) = moments.map .value := by
  induction h with
  | empty => exact ⟨[], .slnil, rfl⟩
  | @answered readings s s' now o r before fits answers ih =>
    obtain ⟨moments, sub, same⟩ := ih
    have longer : moments.Sublist (readings ++ [now]) := sub.trans (List.sublist_append_left ..)
    cases o with
    | createQuestion subject asker text =>
      obtain ⟨e, -, rfl⟩ | ⟨-, rfl⟩ := answers.createQuestion
      · exact ⟨moments, longer, same⟩
      · refine ⟨moments ++ [now], sub.append (.refl _), ?_⟩
        simp [Table.add, same, QuestionRow.new]
    | updateQuestion id status message =>
      obtain ⟨e, -, rfl⟩ | ⟨-, old, found, rfl⟩ := answers.updateQuestion
      · exact ⟨moments, longer, same⟩
      · refine ⟨moments, longer, ?_⟩
        have kept : (old.updated now status message).createdAt = old.createdAt := rfl
        exact (createdAt_set before.legible.questionIds found kept).trans same
    | _ =>
      have unchanged : s'.questions = s.questions := answers.sameBut.questions (by simp)
      exact ⟨moments, longer, unchanged ▸ same⟩

lemma Attained.pairwise_askedBy {readings : List Int} (h : Attained readings s)
    (forward : readings.Pairwise (· ≤ ·)) : (s.askedBy subject asker).Pairwise fun e e' =>
      e.2.createdAt.le e'.2.createdAt = true := by
  obtain ⟨moments, sub, same⟩ := h.createdAt
  have rising : (s.questions.rows.map fun e => e.2.createdAt).Pairwise fun c d =>
      c.le d = true := by
    rw [same]
    exact List.pairwise_map.2 ((forward.sublist sub).imp decide_eq_true)
  exact (List.pairwise_map.1 rising).filter _

/-- Under a clock that never went back, the last question that was asked is the first. -/
lemma Attained.lastAskedFirst {readings : List Int} (h : Attained readings s)
    (forward : readings.Pairwise (· ≤ ·)) (subject : Int) (asker : String) :
    lastAskedFirst (s.askedBy subject asker) = (s.askedBy subject asker).reverse := by
  have rising : (s.askedBy subject asker).Pairwise _ := h.pairwise_askedBy forward
  have falling := List.pairwise_reverse.2 rising
  rw [Store.lastAskedFirst, orderedBy, sorted_eq_insertionSort]
  exact falling.insertionSort_eq

/-! ## Histories -/

lemma question_of_exchangeOf {q : Question} {x : Exchange} (h : s.exchangeOf q = .ok x) :
    x.question = q := by
  unfold exchangeOf at h
  split at h
  next => cases h; rfl
  next id row found =>
    obtain ⟨a, -, rfl⟩ := map_eq_ok.1 h
    rfl

lemma map_listHistory (h : s.listHistory subject asker = .ok history) {g : Question → γ}
    {k : Int × QuestionRow → γ} (hg : ∀ e q, e.2.record e.1 = .ok q → g q = k e) :
    history.map (fun x => g x.question) = (lastAskedFirst (s.askedBy subject asker)).map k := by
  obtain ⟨questions, read, exchanged⟩ := bind_eq_ok.1 h
  have same : history.map (fun x => g x.question) = questions.map g :=
    map_of_mapM_eq_ok exchanged fun q x hx => by rw [question_of_exchangeOf hx]
  exact same.trans (map_of_mapM_eq_ok read hg)

lemma ids_listHistory (h : s.listHistory subject asker = .ok history) :
    history.map (·.question.id) = (lastAskedFirst (s.askedBy subject asker)).map (·.1) :=
  map_listHistory h fun _ _ hq => (QuestionRow.keys_of_record hq).1

lemma nodup_listHistory (ordered : s.questions.Ordered)
    (h : s.listHistory subject asker = .ok history) : (history.map (·.question.id)).Nodup := by
  have increasing : (s.askedBy subject asker).Pairwise fun e e' => e.1 < e'.1 :=
    ordered.increasing.filter _
  rw [ids_listHistory h, ((lastAskedFirst_perm _).map _).nodup_iff]
  exact List.pairwise_map.2 (increasing.imp Int.ne_of_lt)

lemma mem_listHistory (ordered : s.questions.Ordered)
    (h : s.listHistory subject asker = .ok history) {id : Int} :
    id ∈ history.map (·.question.id) ↔
      ∃ row, s.questions.find? id = some row ∧ row.subjectId = subject ∧ row.asker = asker := by
  rw [ids_listHistory h, ((lastAskedFirst_perm _).map _).mem_iff]
  constructor
  · intro hid
    obtain ⟨e, he, rfl⟩ := List.mem_map.1 hid
    obtain ⟨there, asked⟩ := mem_askedBy.1 he
    exact ⟨e.2, ordered.find?_eq_some.2 there, asked⟩
  · rintro ⟨row, found, asked⟩
    exact List.mem_map.2 ⟨(id, row), mem_askedBy.2 ⟨Table.mem_of_find? found, asked⟩, rfl⟩

/-- The latest question comes first. -/
lemma Attained.pairwise_listHistory {readings : List Int} (attained : Attained readings s)
    (forward : readings.Pairwise (· ≤ ·)) (h : s.listHistory subject asker = .ok history) :
    history.Pairwise fun x y => y.question.id < x.question.id ∧
      y.question.createdAt ≤ x.question.createdAt := by
  have order := attained.lastAskedFirst forward subject asker
  have ids : history.map (·.question.id) = (s.askedBy subject asker).reverse.map (·.1) :=
    order ▸ ids_listHistory h
  have moments : history.map (fun x => Held.value x.question.createdAt) =
      (s.askedBy subject asker).reverse.map fun e => e.2.createdAt := by
    rw [← order]
    exact map_listHistory h fun _ _ hq => (QuestionRow.keys_of_record hq).2.2.2.symm
  have falling : (history.map (·.question.id)).Pairwise fun a b => b < a := by
    rw [ids]
    have increasing : (s.askedBy subject asker).Pairwise fun e e' => e.1 < e'.1 :=
      attained.legible.questionIds.increasing.filter _
    exact List.pairwise_map.2 (List.pairwise_reverse.2 increasing)
  have earlier : (history.map fun x => Held.value x.question.createdAt).Pairwise
      fun c d => d.le c = true := by
    rw [moments]
    exact List.pairwise_map.2 (List.pairwise_reverse.2 (attained.pairwise_askedBy forward))
  refine (List.pairwise_map.1 falling).imp₂ (fun x y before later => ⟨before, ?_⟩)
    (List.pairwise_map.1 earlier)
  exact of_decide_eq_true later

/-! ## Answers -/

/-- The scores of an answer are told by the documents in its row. -/
def AnswerRow.IsTold (r : AnswerRow) : Prop :=
  ∃ now question a, (Operation.saveAnswer question a).InRange ∧
    (∀ score ∈ a.scores, ScoreTold score) ∧ r = .new now question a

/-- All answers to somebody's questions about a subject are told. -/
def Tells (s : Store) (subject : Int) (asker : String) : Prop :=
  ∀ e ∈ s.answers.rows, ∀ row, s.questions.find? e.2.questionId = some row →
    row.subjectId = subject → row.asker = asker → e.2.IsTold

lemma Legible.exists_exchangeOf (legible : s.Legible) (tells : s.Tells subject asker)
    {e : Int × QuestionRow} (he : e ∈ s.askedBy subject asker) {q : Question}
    (hq : e.2.record e.1 = .ok q) : ∃ x, s.exchangeOf q = .ok x := by
  obtain ⟨there, home, whose⟩ := mem_askedBy.1 he
  have id_eq : q.id = e.1 := (QuestionRow.keys_of_record hq).1
  unfold exchangeOf
  split
  next => exact ⟨_, rfl⟩
  next id row found =>
    obtain ⟨mem, same⟩ := Table.mem_of_findWhere found
    have question_eq : row.questionId = e.1 := (of_decide_eq_true same).trans id_eq
    have asked : s.questions.find? e.1 = some e.2 := legible.questionIds.find?_eq_some.2 there
    obtain ⟨now, question, a, fits, told, rfl⟩ := tells _ mem e.2 (question_eq ▸ asked) home whose
    exact ⟨_, congrArg (Except.map _) (AnswerRow.record_new fits told id)⟩

lemma Legible.exists_listHistory (legible : s.Legible) (tells : s.Tells subject asker) :
    ∃ history, s.listHistory subject asker = .ok history := by
  have asked : ∀ e ∈ lastAskedFirst (s.askedBy subject asker), e ∈ s.askedBy subject asker :=
    fun e he => (lastAskedFirst_perm _).mem_iff.1 he
  obtain ⟨questions, read⟩ := exists_mapM (f := fun e : Int × QuestionRow => e.2.record e.1)
    fun e he => legible.questions e (mem_askedBy.1 (asked e he)).1 e.1
  have exchanged : ∀ q ∈ questions, ∃ x, s.exchangeOf q = .ok x := by
    intro q hq
    obtain ⟨e, he, record⟩ := (mem_of_mapM_eq_ok read).1 hq
    exact legible.exists_exchangeOf tells (asked e he) record
  obtain ⟨history, hhistory⟩ := exists_mapM exchanged
  exact ⟨history, bind_eq_ok.2 ⟨questions, read, hhistory⟩⟩

lemma exchangeOf_saved {now question : Int} {a : Answer}
    (unanswered : s.answers.findWhere (·.questionId = question) = none) {q : Question}
    (id_eq : q.id = question) :
    exchangeOf { s with answers := s.answers.add (.new now question a) } q =
      ((AnswerRow.new now question a).record s.answers.nextId).map fun x => ⟨q, some x⟩ := by
  subst id_eq
  have found : (s.answers.add (.new now q.id a)).findWhere (·.questionId = q.id) =
      some (s.answers.nextId, .new now q.id a) :=
    Table.findWhere_add unanswered (decide_eq_true rfl)
  simp only [exchangeOf, found]

/-- A history that is read has what is read of each question that was asked. -/
lemma exists_exchange (listed : s.listHistory subject asker = .ok history) {id : Int}
    {row : QuestionRow} (there : (id, row) ∈ s.askedBy subject asker) :
    ∃ q x, row.record id = .ok q ∧ s.exchangeOf q = .ok x ∧ x ∈ history := by
  obtain ⟨questions, read, exchanged⟩ := bind_eq_ok.1 listed
  obtain ⟨q, hq, record⟩ := exists_of_mapM_eq_ok read ((lastAskedFirst_perm _).mem_iff.2 there)
  obtain ⟨x, hx, exchange⟩ := exists_of_mapM_eq_ok exchanged hq
  exact ⟨q, x, record, exchange, hx⟩

section Saved

variable {now question : Int} {a : Answer} {x : StoredAnswer}

lemma exists_of_saved (saved : s.perform now (.saveAnswer question a) = (.ok x, s')) :
    ∃ row, s.questions.find? question = some row ∧ x.id = s.answers.nextId ∧
      s.answers.findWhere (·.questionId = question) = none ∧
      s' = { s with answers := s.answers.add (.new now question a) } ∧
      (question, row) ∈ s'.askedBy row.subjectId row.asker := by
  have answers : s.Answers now (.saveAnswer question a) (.ok x) s' := .of_perform saved
  obtain ⟨e, failed, -⟩ | ⟨stored, unanswered, asked, rfl⟩ := answers.saveAnswer
  · cases failed
  cases stored
  obtain ⟨row, found⟩ := Option.isSome_iff_exists.1 asked
  exact ⟨row, found, rfl, unanswered, rfl, mem_askedBy.2 ⟨Table.mem_of_find? found, rfl, rfl⟩⟩

/-- An answer that was saved is in the history of who asked, if all answers there are told. -/
lemma Legible.recalled (legible : s.Legible) (fits : (Operation.saveAnswer question a).InRange)
    (told : ∀ score ∈ a.scores, ScoreTold score)
    (saved : s.perform now (.saveAnswer question a) = (.ok x, s')) {row : QuestionRow}
    (found : s.questions.find? question = some row) (tells : s'.Tells row.subjectId row.asker) :
    ∃ history q, s'.listHistory row.subjectId row.asker = .ok history ∧
      row.record question = .ok q ∧
      ⟨q, some ⟨x.id, question, a.inColumns, now⟩⟩ ∈ history := by
  have answers : s.Answers now (.saveAnswer question a) (.ok x) s' := .of_perform saved
  have legible' : s'.Legible := legible.answered (o := .saveAnswer question a) fits answers
  obtain ⟨history, listed⟩ := legible'.exists_listHistory tells
  obtain ⟨row, found', id_eq, unanswered, rfl, there⟩ := exists_of_saved saved
  cases found.symm.trans found'
  obtain ⟨q, y, record, exchange, hy⟩ := exists_exchange listed there
  rw [exchangeOf_saved unanswered (QuestionRow.keys_of_record record).1,
    AnswerRow.record_new fits told] at exchange
  cases exchange
  exact ⟨history, q, listed, record, id_eq ▸ hy⟩

/-- The history of who asked is lost with an answer that has a score which is not finite. -/
lemma lost_of_infinite (fits : (Operation.saveAnswer question a).InRange)
    (told : ∀ score ∈ a.scores, score.isFinite = true → ScoreTold score)
    (infinite : ∃ score ∈ a.scores, score.isFinite = false)
    (saved : s.perform now (.saveAnswer question a) = (.ok x, s')) {row : QuestionRow}
    (found : s.questions.find? question = some row) :
    ∃ e, s'.listHistory row.subjectId row.asker = .error e := by
  obtain ⟨row, found', -, unanswered, rfl, there⟩ := exists_of_saved saved
  cases found.symm.trans found'
  cases listed : listHistory _ row.subjectId row.asker with
  | error e => exact ⟨e, rfl⟩
  | ok history =>
    obtain ⟨q, y, record, exchange, -⟩ := exists_exchange listed there
    rw [exchangeOf_saved unanswered (QuestionRow.keys_of_record record).1] at exchange
    obtain ⟨z, read, -⟩ := map_eq_ok.1 exchange
    exact absurd read (AnswerRow.record_infinite fits told infinite)

end Saved

/-- What is saved is recalled, as long as the scores of all answers there are told. No history is
read that has an answer with a score which is not finite, while its finite ones are told. Each
question that somebody asked about a subject is listed once, the latest first. -/
theorem history_recalls {readings : List Int} (attained : Attained readings s) :
    (∀ now question a x s', (Operation.saveAnswer question a).InRange →
      (∀ score ∈ a.scores, score.isFinite = true → ScoreTold score) →
      s.perform now (.saveAnswer question a) = (.ok x, s') →
      ∃ row, s.questions.find? question = some row ∧
        ((∀ score ∈ a.scores, score.isFinite = true) → s'.Tells row.subjectId row.asker →
          ∃ history q, s'.listHistory row.subjectId row.asker = .ok history ∧
            row.record question = .ok q ∧
            ⟨q, some ⟨x.id, question, a.inColumns, now⟩⟩ ∈ history) ∧
        ((∃ score ∈ a.scores, score.isFinite = false) →
          ∃ e, s'.listHistory row.subjectId row.asker = .error e)) ∧
    ∀ subject asker history, s.listHistory subject asker = .ok history →
      (history.map (·.question.id)).Nodup ∧
      (∀ id, id ∈ history.map (·.question.id) ↔
        ∃ row, s.questions.find? id = some row ∧ row.subjectId = subject ∧ row.asker = asker) ∧
      (readings.Pairwise (· ≤ ·) → history.Pairwise fun x y =>
        y.question.id < x.question.id ∧ y.question.createdAt ≤ x.question.createdAt) := by
  have legible := attained.legible
  constructor
  · intro now question a x s' fits told saved
    obtain ⟨row, found, -⟩ := exists_of_saved saved
    refine ⟨row, found, fun finite tells => ?_, fun infinite => ?_⟩
    · exact legible.recalled fits (fun score mem => told score mem (finite score mem)) saved found
        tells
    · exact lost_of_infinite fits told infinite saved found
  · intro subject asker history listed
    refine ⟨nodup_listHistory legible.questionIds listed,
      fun id => mem_listHistory legible.questionIds listed, fun forward => ?_⟩
    exact attained.pairwise_listHistory forward listed

section Example

/-- A subject with one question. -/
def questioned : Store :=
  ((Store.empty.perform 0 (.registerSubject "tree" "/")).2.perform 0
    (.createQuestion 1 "ann" "why")).2

lemma attained_questioned : Attained [0, 0] questioned :=
  have registered : Attained [0] (Store.empty.perform 0 (.registerSubject "tree" "/")).2 :=
    .answered (o := .registerSubject "tree" "/") .empty trivial .performed
  .answered (o := .createQuestion 1 "ann" "why") registered trivial .performed

/-- An answer that draws on one file and one excerpt. -/
def answerFrom (relevance : Number.Binary32) : Answer where
  answer := "because"
  explanation := ""
  sources := ⟨[⟨"a.rs", relevance⟩], [], [], []⟩
  context := [⟨"fn main() {}", "file: a.rs", relevance⟩]
  totalTokens := 0
  confidence := .zero
  milliseconds := 0

/-- The question with that answer. -/
def answeredFrom (relevance : Number.Binary32) : Store :=
  { questioned with answers := questioned.answers.add (.new 0 1 (answerFrom relevance)) }

lemma saveAnswer_questioned (relevance : Number.Binary32) :
    questioned.perform 0 (.saveAnswer 1 (answerFrom relevance)) =
      (.ok ⟨1, 1, answerFrom relevance, 0⟩, answeredFrom relevance) := by
  have number : Number.Binary32.zero.isNaN = false := by decide
  exact perform_saveAnswer rfl rfl number rfl 0

/-- An answer is saved whose relevance is no number, and then the history cannot be read. -/
theorem history_unreadable : ∃ x s', Attained [0, 0] questioned ∧
    questioned.perform 0 (.saveAnswer 1 (answerFrom ⟨0x7FC00000⟩)) = (.ok x, s') ∧
    ∃ e, s'.listHistory 1 "ann" = .error e := by
  have unread : ((answeredFrom ⟨0x7FC00000⟩).listHistory 1 "ann").isOk = false := by decide +kernel
  refine ⟨_, _, attained_questioned, saveAnswer_questioned _, ?_⟩
  cases listed : (answeredFrom ⟨0x7FC00000⟩).listHistory 1 "ann" with
  | error e => exact ⟨e, rfl⟩
  | ok history =>
    rw [listed] at unread
    cases unread

/-- An answer whose relevance is a half is recalled. -/
theorem history_recalls_questioned : ∃ history q,
    (answeredFrom ⟨0x3F000000⟩).listHistory 1 "ann" = .ok history ∧ q.id = 1 ∧
      ⟨q, some ⟨1, 1, answerFrom ⟨0x3F000000⟩, 0⟩⟩ ∈ history := by
  have fits : (Operation.saveAnswer 1 (answerFrom ⟨0x3F000000⟩)).InRange :=
    ⟨by decide, nofun, nofun⟩
  have told : ∀ score ∈ (answerFrom ⟨0x3F000000⟩).scores, ScoreTold score := by decide +kernel
  obtain ⟨row, found, recalled, -⟩ := (history_recalls attained_questioned).1 0 1
    (answerFrom ⟨0x3F000000⟩) _ _ fits (fun score mem _ => told score mem) (saveAnswer_questioned _)
  obtain rfl : QuestionRow.new 0 1 "ann" "why" = row := Option.some.inj (Eq.trans rfl found)
  have tells : (answeredFrom ⟨0x3F000000⟩).Tells 1 "ann" := by
    intro e he row _ _ _
    obtain rfl := List.mem_singleton.1 he
    exact ⟨0, 1, _, fits, told, rfl⟩
  obtain ⟨history, q, listed, record, there⟩ := recalled (by decide) tells
  exact ⟨history, q, listed, (QuestionRow.keys_of_record record).1, there⟩

end Example

end Store

end CodeAtlas
