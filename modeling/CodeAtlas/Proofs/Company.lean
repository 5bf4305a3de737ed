import CodeAtlas.Proofs.Exchanges
import CodeAtlas.Proofs.Failures

/-! # Talks in company

Talks and analyses, any number of them and about any subjects, share a store. In whatever order
their requests are answered, each talk has its question to itself: what it tells at the end is what
the store keeps, and no question is ever answered twice. -/
namespace CodeAtlas

open Inference (Services)
open Retrieval (Halt Answered)

structure TalkCall where
  services : Services
  subject : Int
  question : String
  asker : String

structure RunCall where
  disk : Disk
  services : Services
  subject : Int
  options : AnalysisOptions

def TalkCall.program (c : TalkCall) : Program (Except Halt Answered) :=
  (Retrieval.converse c.services c.subject c.question c.asker).run

def RunCall.program (c : RunCall) : Program (Except AnalysisError SubjectStats) :=
  (Analysis.run c.disk c.services c.subject c.options).run

open Retrieval in
lemma TalkCall.follows (c : TalkCall) {may : Int → String → String → Prop}
    (posable : may c.subject c.asker (Text.trimmed c.question)) :
    c.program.Follows (talking may) (fun r y => ∀ a, r = .ok a → Told a y) none := by
  have talk : FollowsOr (talking may) Told (fun _ _ => True)
      (converse c.services c.subject c.question c.asker) none := converse_follows posable
  refine talk.follows.mono fun r y hr a ok => ?_
  subst ok
  exact hr

open Retrieval in
lemma RunCall.follows (c : RunCall) {may : Int → String → String → Prop} :
    c.program.Follows (talking may) (fun _ _ => True) none := by
  have stays : ∀ o, Analysis.LeavesExchanges o →
      (talking may).permits none o ∧ ∀ r, (talking may).next none o r = none :=
    fun o aside => ⟨.aside aside.1 aside.2, fun r => exchangeAfter_aside aside.1 aside.2⟩
  exact (Analysis.run_leaves.follows_at stays).follows.mono fun _ _ _ => trivial

lemma Store.Attained.paired {readings : List Int} {s : Store} (h : Attained readings s) :
    s.Paired := by
  induction h with
  | empty => exact .empty []
  | answered _ _ answers ih => exact ih.answered answers

namespace Retrieval

variable {ι : Type} {may : ι → Int → String → String → Prop}
  {x : ι → Option Exchange} {s s' : Store}

/-- The store has the exchange of each talk, and no two talks have the same question. -/
structure Apart (may : ι → Int → String → String → Prop) (x : ι → Option Exchange) (s : Store) :
    Prop where
  paired : s.Paired
  held : ∀ i e, x i = some e → s.Holds e
  posable : ∀ i e, x i = some e → may i e.question.subjectId e.question.asker e.question.text
  apart : ∀ i j e d, x i = some e → x j = some d → e.question.id = d.question.id → i = j

lemma Apart.start (paired : s.Paired) : Apart may (fun _ => none) s :=
  ⟨paired, by simp, by simp, by simp⟩

lemma Apart.ne_of_talked (h : Apart may x s) {i j : ι} {y : Option Exchange}
    (talked : Talked (may i) s (x i) y s') (other : j ≠ i) {e d : Exchange} (he : y = some e)
    (hd : x j = some d) : e.question.id ≠ d.question.id := by
  intro same
  obtain ⟨e', he', old⟩ | ⟨-, new⟩ := talked.known e he
  · exact other (h.apart i j e' d he' hd (old.trans same)).symm
  · obtain ⟨row, found, -⟩ := (h.held j d hd).question
    rw [← same, new] at found
    exact h.paired.questionIds.not_mem_nextId row (h.paired.questionIds.find?_eq_some.1 found)

/-- One request of one talk leaves all talks apart. -/
lemma Apart.talked [DecidableEq ι] (h : Apart may x s) {i : ι} {y : Option Exchange}
    (talked : Talked (may i) s (x i) y s') : Apart may (Function.update x i y) s' := by
  refine ⟨talked.paired h.paired, fun j e he => ?_, fun j e he => ?_, fun j k e d he hd same => ?_⟩
  · obtain rfl | other := eq_or_ne j i
    · rw [Function.update_self] at he
      exact talked.holds h.paired (h.held j) e he
    · rw [Function.update_of_ne other] at he
      exact talked.holds_other h.paired (h.held j e he) fun d hd same =>
        other (h.apart i j d e hd he same).symm
  · obtain rfl | other := eq_or_ne j i
    · rw [Function.update_self] at he
      exact talked.posable (h.posable j) e he
    · rw [Function.update_of_ne other] at he
      exact h.posable j e he
  · obtain rfl | hj := eq_or_ne j i <;> obtain rfl | hk := eq_or_ne k j
    · rfl
    · rw [Function.update_self] at he
      rw [Function.update_of_ne hk] at hd
      exact absurd same (h.ne_of_talked talked hk he hd)
    · rfl
    · rw [Function.update_of_ne hj] at he
      obtain rfl | hki := eq_or_ne k i
      · rw [Function.update_self] at hd
        exact absurd same.symm (h.ne_of_talked talked hj hd he)
      · rw [Function.update_of_ne hki] at hd
        exact h.apart j k e d he hd same

end Retrieval

namespace Scene

open Retrieval

/-- What talks and analyses tell at their ends. -/
@[reducible] def Outcome {ι κ : Type} : ι ⊕ κ → Type
  | .inl _ => Except Halt Answered
  | .inr _ => Except AnalysisError SubjectStats

/-- Talks and analyses that are about to begin. -/
def company {ι κ : Type} (talks : ι → TalkCall) (runs : κ → RunCall) (s : Store) (t : Int) :
    Scene (ι ⊕ κ) Outcome where
  left
    | .inl i => (talks i).program
    | .inr k => (runs k).program
  store := s
  time := t

variable {ι κ : Type} {talks : ι → TalkCall} {runs : κ → RunCall} {s : Store} {t : Int}
  {S : Scene (ι ⊕ κ) Outcome}

/-- The question that a talk may pose; an analysis may pose none. -/
def mayPose (talks : ι → TalkCall) : ι ⊕ κ → Int → String → String → Prop
  | .inl i, subject, asker, text => subject = (talks i).subject ∧ asker = (talks i).asker ∧
      text = Text.trimmed (talks i).question
  | .inr _, _, _, _ => False

/-- What is known of an exchange at an end. -/
def endsAs : ∀ i : ι ⊕ κ, Outcome i → Option Exchange → Prop
  | .inl _, .ok a, y => Told a y
  | _, _, _ => True

lemma company_follow : Follow (fun i => talking (mayPose talks i)) endsAs
    (company talks runs s t) fun _ => none := by
  rintro (i | k)
  · have talk : (talks i).program.Follows (talking (mayPose (κ := κ) talks (.inl i)))
        (fun r y => ∀ a, r = .ok a → Told a y) none := (talks i).follows ⟨rfl, rfl, rfl⟩
    refine talk.mono fun r y told => ?_
    cases r with
    | ok a => exact told a rfl
    | error e => trivial
  · exact ((runs k).follows).mono fun _ _ _ => trivial

variable [DecidableEq ι] [DecidableEq κ]

lemma company_apart (paired : s.Paired) (reach : Turns (company talks runs s t) S) : ∃ x,
    Follow (fun i => talking (mayPose talks i)) endsAs S x ∧ Apart (mayPose talks) x S.store := by
  refine Turns.follow (J := Apart (mayPose talks)) (fun x s i y s' apart request => ?_) reach
    company_follow (.start paired)
  exact apart.talked (talked_of_request request)

/-- In whatever order requests are answered, questions and answers belong together, statuses only
move on, and answers stay. A talk that ends well leaves its question completed with the one answer
that it tells, and it shares the question with no other talk. -/
theorem company_exchanges (paired : s.Paired) (reach : Turns (company talks runs s t) S) :
    S.store.Paired ∧
    (∀ S', Turn S S' → S.store.Advances S'.store) ∧
    (∀ i a, S.left (.inl i) = .done (.ok a) →
      S.store.Holds ⟨a.question, some a.answer⟩ ∧ a.question.status = .completed ∧
      a.question.subjectId = (talks i).subject ∧ a.question.asker = (talks i).asker ∧
      a.question.text = Text.trimmed (talks i).question) ∧
    ∀ i j a b, S.left (.inl i) = .done (.ok a) → S.left (.inl j) = .done (.ok b) →
      a.question.id = b.question.id → i = j := by
  obtain ⟨x, follow, apart⟩ := company_apart paired reach
  have told : ∀ i a, S.left (.inl i) = .done (.ok a) → Told a (x (.inl i)) := by
    intro i a left
    have ends := follow (.inl i)
    rw [left] at ends
    cases ends with
    | done last => exact last
  refine ⟨apart.paired, fun S' turn => ?_, fun i a left => ?_, fun i j a b hi hj same => ?_⟩
  · obtain ⟨i, y, request, -⟩ := turn.follow follow
    exact (talked_of_request request).advances apart.paired (apart.held i)
  · obtain ⟨held, completed⟩ := told i a left
    exact ⟨apart.held _ _ held, completed, apart.posable _ _ held⟩
  · exact Sum.inl.inj (apart.apart _ _ _ _ (told i a hi).1 (told j b hj).1 same)

section Example

open Retrieval

/-- Two askers ask the same about one subject. -/
def twoTalks (ann : Bool) : TalkCall := ⟨.offline 2, 1, "why", if ann then "ann" else "bob"⟩

/-- They ask while an analysis of the subject is about to begin. -/
def twoTalksScene : Scene (Bool ⊕ Unit) Outcome :=
  company twoTalks (fun _ => ⟨Analysis.letterTree, .offline 2, 1, {}⟩) (readySubject []) 0

def bobAsked : Store := ((readySubject []).perform 0 (.createQuestion 1 "bob" "why")).2

lemma attained_bobAsked : Store.Attained [0, 0, 0, 0] bobAsked :=
  .answered (o := .createQuestion 1 "bob" "why") (attained_readySubject []) trivial .performed

lemma bob_asks : ∃ S, Turns twoTalksScene S ∧ S.store = bobAsked ∧ S.time = 0 ∧
    (S.left (.inl false)).Pending ∧ S.left (.inl true) = (twoTalks true).program := by
  have first : twoTalksScene.left (.inl false) = .perform (.getSubject 1) _ := rfl
  have read := Turns.ask .refl first (Int.le_refl 0) (.of_perform rfl)
  have posed := read.ask (i := .inl false) (o := .createQuestion 1 "bob" "why") rfl
    (Int.le_refl 0) (.of_perform rfl)
  exact ⟨_, posed, rfl, rfl, trivial, rfl⟩

lemma ann_asks : ∃ a v, (twoTalks true).program.Steps ⟨bobAsked, 0, []⟩ (.done (.ok a)) v := by
  have listed : bobAsked.listEmbeddings 1 = .ok [] := rfl
  have askable : Askable bobAsked 1 "why" := ⟨by decide, _, rfl, rfl⟩
  obtain ⟨result, m', now, runs, answered, -⟩ := runs_converse (m := ⟨bobAsked, 0, []⟩)
    (.offline 2) (fun _ => 0) "ann" attained_bobAsked.legible askable listed
  obtain ⟨a, later, last, rfl, -⟩ := answered (by decide)
  obtain ⟨time, -, steps⟩ := Program.steps_run (.offline 2) (fun _ => 0) (fun _ => Int.le_refl 0)
    (twoTalks true).program ⟨bobAsked, 0, []⟩ 0 [] (Int.le_refl 0)
  have result : (twoTalks true).program.run (.offline 2) (fun _ => 0) ⟨bobAsked, 0, []⟩ = _ := runs
  rw [result] at steps
  exact ⟨_, _, steps⟩

/-- One talk has stored its question and waits, while the other ends well. -/
theorem company_exchanges_twoTalks : ∃ S a, Turns twoTalksScene S ∧ (S.left (.inl false)).Pending ∧
    S.left (.inl true) = .done (.ok a) ∧ S.store.Holds ⟨a.question, some a.answer⟩ ∧
    a.question.status = .completed := by
  obtain ⟨S, reach, store, time, pending, left⟩ := bob_asks
  obtain ⟨a, v, steps⟩ := ann_asks
  obtain ⟨S', reach', left', -, waits⟩ := reach.steps steps left store time
  have paired : (readySubject []).Paired := (attained_readySubject []).paired
  obtain ⟨-, -, told, -⟩ := company_exchanges paired reach'
  obtain ⟨held, completed, -⟩ := told true a left'
  exact ⟨S', a, reach', waits (.inl false) (by simp) ▸ pending, left', held, completed⟩

end Example

end Scene

end CodeAtlas
