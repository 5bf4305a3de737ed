import CodeAtlas.Proofs.Exchanges
import CodeAtlas.Proofs.Freshness
import CodeAtlas.Proofs.Recall

/-! # One subject and another

An analysis of a subject and a talk about it write rows of that subject alone. However far they get
and however they end, all that can be listed of another subject is as it was, the questions about it
and their answers included. -/
namespace CodeAtlas

/-- The subject that a call analyzes or asks about. -/
def Call.subject? : Call → Option Int
  | resolve .. => none
  | analyze _ _ subject _ | ask _ subject .. => some subject

namespace Store

variable {s s' s'' : Store} {b : Int}

/-! ## What is asked about a subject -/

/-- The questions about a subject and their answers are the same. -/
structure SameTalks (b : Int) (s s' : Store) : Prop where
  questions : s'.questions.filter (·.subjectId = b) = s.questions.filter (·.subjectId = b)
  answers : ∀ e ∈ s.questions.filter (·.subjectId = b),
    s'.answers.findWhere (·.questionId = e.1) = s.answers.findWhere (·.questionId = e.1)

namespace SameTalks

lemma of_eq (questions : s'.questions = s.questions) (answers : s'.answers = s.answers) :
    SameTalks b s s' :=
  ⟨by rw [questions], fun _ _ => by rw [answers]⟩

lemma trans (h : SameTalks b s s') (h' : SameTalks b s' s'') : SameTalks b s s'' where
  questions := h'.questions.trans h.questions
  answers e he := (h'.answers e (h.questions ▸ he)).trans (h.answers e he)

lemma listHistory (h : SameTalks b s s') (asker : String) :
    s'.listHistory b asker = s.listHistory b asker := by
  have same : s'.askedBy b asker = s.askedBy b asker := by
    simp only [askedBy, Table.filter_and, h.questions]
  unfold Store.listHistory
  rw [same]
  cases read : (lastAskedFirst (s.askedBy b asker)).mapM fun e => e.2.record e.1 with
  | error e => rfl
  | ok questions =>
    rw [ok_bind, ok_bind]
    refine mapM_congr fun q hq => ?_
    obtain ⟨e, he, record⟩ := (mem_of_mapM_eq_ok read).1 hq
    obtain ⟨there, home, -⟩ := mem_askedBy.1 ((lastAskedFirst_perm _).mem_iff.1 he)
    have id_eq : q.id = e.1 := (QuestionRow.keys_of_record record).1
    simp only [exchangeOf, id_eq, h.answers e (Table.mem_filter.2 ⟨there, decide_eq_true home⟩)]

end SameTalks

/-! ## All that can be listed of a subject -/

/-- Everything that can be listed of a subject is the same. -/
structure SameView (b : Int) (s s' : Store) : Prop where
  subject : s'.getSubject b = s.getSubject b
  files : s'.listFiles b = s.listFiles b
  symbols : s'.listSymbols b = s.listSymbols b
  commits : ∀ limit, s'.listCommits b limit = s.listCommits b limit
  edges : s'.listEdges b = s.listEdges b
  embeddings : s'.listEmbeddings b = s.listEmbeddings b
  stats : s'.calculateStats b = s.calculateStats b
  history : ∀ asker, s'.listHistory b asker = s.listHistory b asker

lemma SameFor.view (h : SameFor b s s') (talks : SameTalks b s s') (sound : s.Sound)
    (sound' : s'.Sound) : SameView b s s' where
  subject := h.getSubject
  files := h.listFiles
  symbols := h.listSymbols sound sound'
  commits := h.listCommits
  edges := h.listEdges
  embeddings := h.listEmbeddings
  stats := h.calculateStats
  history := talks.listHistory

lemma Answers.sameFor_of_talk {now : Int} {o : Operation} {r : Except StoreError o.Result}
    (answers : s.Answers now o r s') (talk : Retrieval.IsTalk o) : SameFor b s s' := by
  have same := answers.sameBut
  constructor
  · rw [same.subjects (talk.elsewhere (by simp) (by simp))]
  · rw [same.commits (talk.elsewhere (by simp) (by simp))]
  · rw [same.files (talk.elsewhere (by simp) (by simp))]
  · rw [same.symbols (talk.elsewhere (by simp) (by simp))]
  · rw [same.edges (talk.elsewhere (by simp) (by simp))]
  · rw [same.embeddings (talk.elsewhere (by simp) (by simp))]

end Store

namespace Retrieval

open Store (SameTalks Table AnswerRow)

variable {a b : Int} {x y : Option Exchange} {s s₀ s' : Store}

/-- A talk about one subject leaves the questions about another and their answers as they are. -/
lemma Talked.sameTalks (h : Talked (fun subject _ _ => subject = a) s x y s') (paired : s.Paired)
    (own : ∀ e, x = some e → s.Holds e) (about : ∀ e, x = some e → e.question.subjectId = a)
    (other : b ≠ a) : SameTalks b s s' := by
  cases h with
  | aside questions answers => exact .of_eq questions answers
  | posed now posable =>
    exact ⟨Table.filter_add (decide_eq_false fun same => other (same.symm.trans posable)),
      fun _ _ => rfl⟩
  | @moved e status old now message moves found =>
    obtain ⟨row, held, home, -⟩ := (own e rfl).question
    obtain rfl : old = row := Option.some.inj (found.symm.trans held)
    have away : old.subjectId ≠ b := fun same =>
      other (same.symm.trans (home.trans (about e rfl)))
    refine ⟨Table.filter_set (decide_eq_false away) fun old' hold' => ?_, fun _ _ => rfl⟩
    rw [paired.questionIds.eq_of_id hold' (Table.mem_of_find? found)]
    exact decide_eq_false away
  | @told e now answer unanswered asked =>
    obtain ⟨row, held, home, -⟩ := (own e rfl).question
    refine ⟨rfl, fun d hd => ?_⟩
    obtain ⟨there, hb⟩ := Table.mem_filter.1 hd
    have ne : e.question.id ≠ d.1 := by
      intro same
      have mem : (d.1, row) ∈ s.questions.rows := same ▸ Table.mem_of_find? held
      rw [paired.questionIds.eq_of_id mem there] at home
      exact other ((of_decide_eq_true hb).symm.trans (home.trans (about e rfl)))
    simp [Table.findWhere, Table.add, List.find?_append, AnswerRow.new, ne]

/-- What holds while a talk goes on: its exchange is the one that the store has, and the talks about
other subjects are as they were. -/
structure Keeping (a : Int) (s₀ : Store) (x : Option Exchange) (s : Store) : Prop where
  paired : s.Paired
  own : ∀ e, x = some e → s.Holds e
  about : ∀ e, x = some e → e.question.subjectId = a
  others : ∀ b, b ≠ a → SameTalks b s₀ s

lemma Keeping.talked (h : Keeping a s₀ x s)
    (talked : Talked (fun subject _ _ => subject = a) s x y s') :
    Keeping a s₀ y s' where
  paired := talked.paired h.paired
  own := talked.holds h.paired h.own
  about := talked.posable h.about
  others b other := (h.others b other).trans (talked.sameTalks h.paired h.own h.about other)

lemma converse_sameTalks {services : Inference.Services} {question asker : String}
    {w v : World} {p : Program Bool} (paired : w.store.Paired)
    (steps : (succeeds (converse services a question asker)).Steps w p v) (other : b ≠ a) :
    SameTalks b w.store v.store := by
  have follows : (succeeds (converse services a question asker)).Follows
      (talking fun subject _ _ => subject = a) (fun _ _ => True) none :=
    (converse_follows rfl).follows.bind fun _ _ _ => .done trivial
  have start : Keeping a w.store none w.store :=
    ⟨paired, by simp, by simp, fun _ _ => .of_eq rfl rfl⟩
  obtain ⟨x, -, kept⟩ := steps.follows (J := Keeping a w.store)
    (fun _ _ _ _ kept request => kept.talked (talked_of_request request)) follows start
  exact kept.others b other

end Retrieval

lemma Analysis.run_sameTalks {disk : Disk} {services : Inference.Services} {a b : Int}
    {options : AnalysisOptions} {w v : World} {p : Program Bool}
    (steps : (succeeds (run disk services a options)).Steps w p v) :
    Store.SameTalks b w.store v.store := by
  have same := always_of_steps steps (run_leaves.keeps (J := fun u =>
    u.store.questions = w.store.questions ∧ u.store.answers = w.store.answers) ⟨rfl, rfl⟩
    (fun _ _ h _ => h) fun u o t r s ⟨questions, others⟩ leaves _ answers =>
      ⟨(answers.sameBut.questions leaves.1).trans questions,
        (answers.sameBut.answers leaves.2).trans others⟩)
  exact .of_eq same.1 same.2

/-- Whatever calls were made before, and however far an analysis or a talk gets, all that can be
listed of another subject stays the same. -/
theorem History.separates {log : List (Call × Ending)} {w : World} (history : History log w)
    {call : Call} {a b : Int} (about : call.subject? = some a) (other : b ≠ a) {p : Program Bool}
    {v : World} (steps : call.program.Steps w p v) : w.store.SameView b v.store := by
  have regular := history.regular
  have sound' := (call.regular regular history.fresh steps).sound
  cases call with
  | resolve => cases about
  | analyze disk services subject options =>
    obtain rfl : subject = a := Option.some.inj about
    have same := (always_of_steps steps (run_regular regular history.fresh)).2 b other
    exact same.view (Analysis.run_sameTalks steps) regular.sound sound'
  | ask services subject question asker =>
    obtain rfl : subject = a := Option.some.inj about
    have same := always_of_steps steps (Retrieval.talks_converse.keeps
      (J := fun u => w.store.SameFor b u.store) (.refl b _) (fun _ _ h _ => h)
      fun _ _ _ _ _ same talk _ answers => same.trans (answers.sameFor_of_talk talk))
    exact same.view (Retrieval.converse_sameTalks history.paired steps other) regular.sound sound'

section Example

open Analysis

/-- A working tree without files, in a directory of its own. -/
def innerTree : Disk := ⟨.directory [([98], .directory [])], [], fun _ => none⟩

/-- A store in which a run has failed, with a second subject. -/
def twoSubjects (message contentHash : String) : Store :=
  ((leftover message (letterRow contentHash)).perform 0 (.registerSubject "inner" "/b")).2

lemma history_twoSubjects : ∃ log message contentHash,
    History log ⟨twoSubjects message contentHash, 0, []⟩ := by
  obtain ⟨message, contentHash, history⟩ := history_leftover
  obtain ⟨v, most, left, -, steps⟩ := steps_still
    (Call.resolve innerTree "/b" (some "inner")).program (.offline 2)
    (leftover message (letterRow contentHash)) (Int.le_refl 0)
  have value : ((Call.resolve innerTree "/b" (some "inner")).program.run (.offline 2) (fun _ => 0)
      ⟨leftover message (letterRow contentHash), 0, []⟩).1 = true := by cbv
  have store : ((Call.resolve innerTree "/b" (some "inner")).program.run (.offline 2) (fun _ => 0)
      ⟨leftover message (letterRow contentHash), 0, []⟩).2.store =
        twoSubjects message contentHash := by cbv
  rw [value] at steps
  have named := history.returned steps
  rw [left, store, Int.le_antisymm most steps.later] at named
  exact ⟨_, message, contentHash, named⟩

/-- The second subject is analyzed, and the file of the first is listed as before. -/
theorem History.separates_innerTree : ∃ log w v, History log w ∧
    (Call.analyze innerTree (.offline 2) 2 {}).program.Steps w (.done true) v ∧
    w.store.SameView 1 v.store ∧
    (v.store.getSubject 2).map (·.map (·.status)) = .ok (some .ready) ∧
    ∃ contentHash, v.store.listFiles 1 = .ok [⟨1, 1, letter, [], [], contentHash, false⟩] := by
  obtain ⟨log, message, contentHash, history⟩ := history_twoSubjects
  obtain ⟨v, -, left, -, steps⟩ := steps_still (Call.analyze innerTree (.offline 2) 2 {}).program
    (.offline 2) (twoSubjects message contentHash) (Int.le_refl 0)
  have value : ((Call.analyze innerTree (.offline 2) 2 {}).program.run (.offline 2) (fun _ => 0)
      ⟨twoSubjects message contentHash, 0, []⟩).1 = true := by cbv
  rw [value] at steps
  have same := history.separates rfl (show (1 : Int) ≠ 2 by decide) steps
  have ready : (((Call.analyze innerTree (.offline 2) 2 {}).program.run (.offline 2) (fun _ => 0)
      ⟨twoSubjects message contentHash, 0, []⟩).2.store.getSubject 2).map (·.map (·.status)) =
        .ok (some .ready) := by cbv
  rw [← left] at ready
  exact ⟨log, _, v, history, steps, same, ready, contentHash, same.files.trans (by cbv)⟩

end Example

end CodeAtlas
