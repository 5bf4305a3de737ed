import CodeAtlas.Proofs.Calls
import CodeAtlas.Proofs.Conversations

/-! # Questions that get no answer

How a talk that fails leaves the question it has stored, whatever else fails, as long as the status
of a question can be set. A search that fails leaves it in error, with the message of the failure.
What comes after the search does not: an answer that cannot be saved leaves the question in
processing. -/
namespace CodeAtlas

/-- The question that an event created. -/
def Event.created? : Event → Option Question
  | ⟨.createQuestion .., .ok q, _⟩ => some q
  | _ => none

/-- An answer was to be saved. -/
def Event.saves : Event → Bool
  | ⟨.saveAnswer .., _, _⟩ => true
  | _ => false

/-- The status of a question was to be set, and was not. -/
def Event.missesStatus : Event → Bool
  | ⟨.updateQuestion .., .error _, _⟩ => true
  | _ => false

/-- Each status of a question that was to be set was set. -/
def StatusesSet (trace : List Event) : Prop := ∀ e ∈ trace, e.missesStatus = false

lemma StatusesSet.front {trace more : List Event} (h : StatusesSet (trace ++ more)) :
    StatusesSet trace := fun e he => h e (List.mem_append_left _ he)

/-- The status and the message that a question is stored with. -/
def Store.QuestionStands (s : Store) (id : Int) (status : QuestionStatus)
    (message : Option String) : Prop :=
  ∃ row, s.questions.find? id = some row ∧ row.status = questionStatus.write status ∧
    row.errorMessage = message

namespace Retrieval

open Inference (Services)

variable {w v : World} {t : Int} {s : Store} {q : Question} {saved : Prop} {status : QuestionStatus}
  {message : Option String}

/-! ## Reading -/

lemma created?_of_read {e : Event} (h : IsRead e.operation) : e.created? = none := by
  obtain ⟨o, r, s⟩ := e
  cases o <;> first | rfl | cases h

lemma saves_of_read {e : Event} (h : IsRead e.operation) : e.saves = false := by
  obtain ⟨o, r, s⟩ := e
  cases o <;> first | rfl | cases h

/-- Nothing but reading has happened from one world to another. -/
structure Idle (w v : World) : Prop where
  store : v.store = w.store
  trace : ∃ more, v.trace = w.trace ++ more ∧ ∀ e ∈ more, IsRead e.operation

namespace Idle

lemma refl (w : World) : Idle w w := ⟨rfl, [], (List.append_nil _).symm, by simp⟩

lemma read (h : Idle w v) (t : Int) : Idle w (v.read t) := ⟨h.store, h.trace⟩

lemma answered (h : Idle w v) {o : Store.Operation} (reads : IsRead o)
    {r : Except StoreError o.Result} (answers : v.store.Answers t o r s) :
    Idle w (v.answered t o r s) := by
  obtain ⟨more, trace, quiet⟩ := h.trace
  refine ⟨(answers.eq_of_reads reads).trans h.store, more ++ [⟨o, r, s⟩], ?_, ?_⟩
  · rw [World.trace_answered, trace, List.append_assoc]
  · intro e he
    rcases List.mem_append.1 he with he | he
    · exact quiet e he
    · cases List.mem_singleton.1 he
      exact reads

lemma reads (h : Idle v w) (fresh : v.trace = []) : ∀ e ∈ w.trace, IsRead e.operation := by
  obtain ⟨more, trace, quiet⟩ := h.trace
  rw [fresh, List.nil_append] at trace
  exact trace ▸ quiet

end Idle

lemma created_of_reads {trace : List Event} (h : ∀ e ∈ trace, IsRead e.operation) :
    trace.filterMap Event.created? = [] :=
  List.filterMap_eq_nil_iff.2 fun e he => created?_of_read (h e he)

lemma idle_of_reads {x : ExceptT ε Program α} (h : AsksOnly IsRead x) :
    EnsuresOr (fun _ _ => True) (fun _ v => Idle w v) (fun _ v => Idle w v) x w := by
  have kept := h.keeps (Idle.refl w) (fun _ t idle _ => idle.read t)
    fun _ _ _ _ _ idle reads _ answers => idle.answered reads answers
  exact kept.weaken fun _ _ _ => trivial

/-! ## The question that was stored -/

/-- One question was stored. If each status was set, it stands as it was set last. -/
structure Posed (q : Question) (saved : Prop) (status : QuestionStatus) (message : Option String)
    (w : World) : Prop where
  created : w.trace.filterMap Event.created? = [q]
  saves : (∃ e ∈ w.trace, e.saves = true) ↔ saved
  stands : StatusesSet w.trace → w.store.QuestionStands q.id status message

namespace Posed

lemma idle (h : Posed q saved status message w) (idle : Idle w v) :
    Posed q saved status message v := by
  obtain ⟨more, trace, quiet⟩ := idle.trace
  refine ⟨?_, ?_, fun set => ?_⟩
  · rw [trace, List.filterMap_append, h.created, created_of_reads quiet, List.append_nil]
  · rw [← h.saves, trace]
    constructor
    · rintro ⟨e, he, saves⟩
      rcases List.mem_append.1 he with he | he
      · exact ⟨e, he, saves⟩
      · simp [saves_of_read (quiet e he)] at saves
    · rintro ⟨e, he, saves⟩
      exact ⟨e, List.mem_append_left _ he, saves⟩
  · rw [idle.store]
    exact h.stands (.front (trace ▸ set))

/-- However the status of a question is to be set, no question is stored, and no answer. -/
lemma asked_status (h : Posed q saved status message w) {id : Int} {status' : QuestionStatus}
    {message' : Option String}
    {r : Except StoreError (Store.Operation.Result (.updateQuestion id status' message'))}
    {status'' : QuestionStatus} {message'' : Option String}
    (stands : StatusesSet (w.answered t _ r s).trace → s.QuestionStands q.id status'' message'') :
    Posed q saved status'' message'' (w.answered t _ r s) := by
  refine ⟨?_, ?_, stands⟩
  · rw [World.trace_answered, List.filterMap_append, h.created]
    rfl
  · simp [World.trace_answered, ← h.saves, Event.saves, or_and_right, exists_or]

lemma status_set (h : Posed q saved status message w) {status' : QuestionStatus}
    {message' : Option String}
    {r : Except StoreError (Store.Operation.Result (.updateQuestion q.id status' message'))}
    (answers : w.store.Answers t _ r s) :
    Posed q saved status' (message' <|> message) (w.answered t _ r s) := by
  refine h.asked_status fun set => ?_
  have last := set _ (List.mem_append_right _ (List.mem_singleton_self _))
  obtain ⟨e, rfl, -⟩ | ⟨-, old, found, rfl⟩ := answers.updateQuestion
  · cases last
  · obtain ⟨row, found', -, kept⟩ := h.stands set.front
    obtain rfl : old = row := Option.some.inj (found.symm.trans found')
    refine ⟨old.updated t status' message', ?_, rfl, ?_⟩
    · simp [Store.Table.find?_set, found]
    · simp [Store.QuestionRow.updated, kept]

/-- Nothing is said of a question once a status could not be set. -/
lemma status_unset (h : Posed q saved status message w) {id : Int}
    {status' status'' : QuestionStatus} {message' message'' : Option String} {e : StoreError} :
    Posed q saved status'' message''
      (w.answered t (.updateQuestion id status' message') (.error e) s) := by
  refine h.asked_status fun set => ?_
  have last := set _ (List.mem_append_right _ (List.mem_singleton_self _))
  cases last

lemma save (h : Posed q saved status message w) {question : Int} {a : Answer}
    {r : Except StoreError (Store.Operation.Result (.saveAnswer question a))}
    (answers : w.store.Answers t _ r s) : Posed q True status message (w.answered t _ r s) := by
  refine ⟨?_, ?_, fun set => ?_⟩
  · rw [World.trace_answered, List.filterMap_append, h.created]
    rfl
  · simp only [iff_true]
    exact ⟨_, List.mem_append_right _ (List.mem_singleton_self _), rfl⟩
  · obtain ⟨row, found, stands⟩ := h.stands set.front
    have same : s.questions = w.store.questions := answers.sameBut.questions nofun
    exact ⟨row, same ▸ found, stands⟩

end Posed

/-- A question is stored after nothing but reading. -/
lemma posed_created (idle : Idle v w) (fresh : v.trace = []) (ordered : v.store.questions.Ordered)
    {subject : Int} {asker text : String}
    {r : Except StoreError (Store.Operation.Result (.createQuestion subject asker text))}
    (answers : w.store.Answers t _ r s) (ok : r = .ok q) :
    Posed q False .pending none (w.answered t _ r s) := by
  have quiet := idle.reads fresh
  subst ok
  refine ⟨?_, ?_, fun _ => ?_⟩
  · rw [World.trace_answered, List.filterMap_append, created_of_reads quiet]
    rfl
  · simp only [iff_false, not_exists, not_and, Bool.not_eq_true]
    intro e he
    rcases List.mem_append.1 he with he | he
    · exact saves_of_read (quiet e he)
    · cases List.mem_singleton.1 he
      rfl
  · obtain ⟨e, failed, -⟩ | ⟨stored, rfl⟩ := answers.createQuestion
    · cases failed
    · cases stored
      rw [← idle.store] at ordered
      exact ⟨.new t subject asker text, ordered.find?_add _, rfl, rfl⟩

/-! ## Talks that fail -/

/-- How a talk that has no answer leaves the question that was stored, if one was. -/
inductive Left (e : Halt) (w : World) : Prop
  | unposed (none : w.trace.filterMap Event.created? = [])
  | recorded {q : Question} {cause : AskError} (failed : e = .failed cause)
      (posed : Posed q False .error (some cause.message) w)
  | stranded {q : Question} {saved : Prop} (posed : Posed q saved .processing none w)
      (late : saved ∨ e = .brokeOff)

variable {subject : Int} {question asker : String} {services : Services}

lemma ask_ensures {o : Store.Operation} {ok : o.Result → World → Prop}
    {bad : StoreError → World → Prop}
    (good : ∀ t a s, w.store.Answers t o (.ok a) s → ok a (w.answered t o (.ok a) s))
    (failed : ∀ t e s, w.store.Answers t o (.error e) s → bad e (w.answered t o (.error e) s)) :
    EnsuresOr (fun _ _ => True) ok bad (ask o) w := by
  refine ⟨Program.ensures_request.2 ⟨trivial, fun t _ r s answers => ?_⟩⟩
  cases r with
  | ok a => exact good t a s answers
  | error e => exact failed t e s answers

lemma recordFailure_ensures {e : AskError} (posed : Posed q False .processing none w) :
    EnsuresOr (fun _ _ => True) (fun _ v => Posed q False .error (some e.message) v) Left
      (liftM (recordFailure q.id (.failed e)) : Talk Unit) w := by
  refine .of_lift (Program.ensures_bind.2 (Program.ensures_request.2 ⟨trivial, ?_⟩))
  intro t _ r s answers
  exact posed.status_set answers

lemma conclude_ensures {found : Option Answer} (posed : Posed q False .processing none w) :
    EnsuresOr (fun _ _ => True) (fun _ _ => True) Left (conclude q found) w := by
  cases found with
  | none => exact .of_throw (.stranded posed (.inr rfl))
  | some a =>
    refine EnsuresOr.bind (M := fun _ v => Posed q True .processing none v) ?_ fun _ v saved => ?_
    · exact .adapt (ask_ensures (fun t a s answers => posed.save answers) fun t e s answers =>
        .stranded (posed.save answers) (.inl trivial))
    · refine EnsuresOr.bind (M := fun _ _ => True) ?_ fun _ _ _ => .of_pure trivial
      exact .adapt (ask_ensures (fun _ _ _ _ => trivial) fun t e s _ =>
        .stranded saved.status_unset (.inl trivial))

lemma converse_ensures (fresh : w.trace = []) (ordered : w.store.questions.Ordered) :
    EnsuresOr (fun _ _ => True) (fun _ _ => True) Left (converse services subject question asker)
      w := by
  have unposed : ∀ e v, Idle w v → Left e v :=
    fun e v idle => .unposed (created_of_reads (idle.reads fresh))
  refine ((idle_of_reads reads_questionToAsk).mono (fun _ _ idle => idle) unposed).bind ?_
  intro text v idle
  refine EnsuresOr.bind (M := fun q u => Posed q False .pending none u) (.adapt ?_) ?_
  · refine ask_ensures (fun t q s answers => posed_created idle fresh ordered answers rfl) ?_
    intro t e s _
    refine .unposed ?_
    rw [World.trace_answered, List.filterMap_append, created_of_reads (idle.reads fresh)]
    rfl
  intro q u pending
  refine EnsuresOr.bind (M := fun _ x => Posed q False .processing none x) (.adapt ?_) ?_
  · exact ask_ensures (fun t _ s answers => pending.status_set answers)
      fun t e s _ => .recorded rfl pending.status_unset
  intro _ x processing
  refine EnsuresOr.bind (M := fun _ y => Posed q False .processing none y) ?_
    fun found y answered => conclude_ensures answered
  refine EnsuresOr.tryCatch (M := fun e y => Posed q False .processing none y ∧
    ∃ cause, e = .failed cause) (.adapt ?_) ?_
  · exact (idle_of_reads reads_answer).mono (fun _ y idle => processing.idle idle)
      fun e y idle => ⟨processing.idle idle, _, rfl⟩
  · rintro _ y ⟨posed, cause, rfl⟩
    exact (recordFailure_ensures posed).bind fun _ z recorded => .of_throw (.recorded rfl recorded)

/-- If a talk fails, the question that was stored is left in error with the message of the failure,
unless its answer was to be saved. Then it is left in processing. -/
theorem converse_leaves {s : Store} {t : Int} {e : AskError} {v : World}
    (ordered : s.questions.Ordered)
    (steps : (converse services subject question asker).run.Steps ⟨s, t, []⟩
      (.done (.error (.failed e))) v)
    (set : StatusesSet v.trace) {q : Question} (created : q ∈ v.trace.filterMap Event.created?) :
    ((∀ event ∈ v.trace, event.saves = false) →
      v.store.QuestionStands q.id .error (some e.message)) ∧
    ((∃ event ∈ v.trace, event.saves = true) → v.store.QuestionStands q.id .processing none) := by
  have left : Left (.failed e) v := (converse_ensures rfl ordered).of_failed steps
  cases left with
  | unposed none =>
    rw [none] at created
    cases created
  | recorded failed posed =>
    cases failed
    rw [posed.created, List.mem_singleton] at created
    subst created
    exact ⟨fun _ => posed.stands set, fun late => absurd late posed.saves.1⟩
  | stranded posed late =>
    rw [posed.created, List.mem_singleton] at created
    subst created
    refine ⟨fun unsaved => ?_, fun _ => posed.stands set⟩
    obtain ⟨event, there, saves⟩ := posed.saves.2 (late.resolve_right nofun)
    simp [unsaved event there] at saves

section Example

lemma talk_gives {o : Store.Operation} {a : o.Result} (h : w.store.perform w.time o = (.ok a, s)) :
    Gives (storeTalk (ask o)) w (.ok a) (w.answered w.time o (.ok a) s) :=
  .step (.perform (Int.le_refl _) (.of_perform h)) (.refl _ _)

lemma answer_gives_error (services : Services) (subject : Int) (question : String) (w : World) :
    Gives (storeTalk (answer services subject question)) w (.error (.failed (.store .refused)))
      (w.answered w.time (.listEmbeddings subject) (.error .refused) w.store) :=
  .step (.now (Int.le_refl _)) (.step (.perform (Int.le_refl _) (.failed _)) (.refl _ _))

lemma converse_gives_error : ∃ v,
    Gives (converse (.offline 2) 1 "why" "ann") ⟨readySubject [], 0, []⟩
      (.error (.failed (.store .refused))) v ∧
    StatusesSet v.trace ∧ (∀ e ∈ v.trace, e.saves = false) ∧
    v.trace.filterMap Event.created? = [⟨1, 1, "ann", "why", .pending, none, 0⟩] := by
  apply Exists.intro
  constructor
  · apply Gives.bind
    · exact .bind (talk_gives rfl) (.refl _ _)
    · apply Gives.bind (talk_gives rfl)
      apply Gives.bind (talk_gives rfl)
      apply Gives.bind_error
      apply Gives.tryCatch (answer_gives_error _ _ _ _)
      apply Gives.bind
      · apply Gives.lift
        exact .bind (Program.steps_request (Int.le_refl _) (.of_perform rfl)) (.refl _ _)
      · exact .refl _ _
  · refine ⟨?_, ?_, rfl⟩
    · simp [StatusesSet, World.answered, Event.missesStatus]
    · simp [World.answered, Event.saves]

/-- The question is left in error. -/
theorem converse_leaves_readySubject : ∃ v,
    (converse (.offline 2) 1 "why" "ann").run.Steps ⟨readySubject [], 0, []⟩
      (.done (.error (.failed (.store .refused)))) v ∧
    v.store.QuestionStands 1 .error (some (AskError.store .refused).message) := by
  obtain ⟨v, steps, set, unsaved, created⟩ := converse_gives_error
  have ordered := (attained_readySubject []).legible.questionIds
  have there : ⟨1, 1, "ann", "why", .pending, none, 0⟩ ∈ v.trace.filterMap Event.created? :=
    created ▸ List.mem_singleton_self _
  exact ⟨v, steps, (converse_leaves ordered steps set there).1 unsaved⟩

/-- A ready subject, in a store that refuses the answer that nothing writes. -/
def refusing : Store :=
  { readySubject [] with refusals := [⟨.answers, .insert, "answer", .text unwrittenAnswer⟩] }

/-- A question about it. -/
def refused : Program (Except Halt Answered) := (converse (.offline 2) 1 "why" "ann").run

/-- The answer cannot be saved, and the question stays in processing. -/
theorem converse_strands : ∃ v,
    refused.Steps ⟨refusing, 0, []⟩ (.done (.error (.failed (.store .refused)))) v ∧
    StatusesSet v.trace ∧
    v.trace.filterMap Event.created? = [⟨1, 1, "ann", "why", .pending, none, 0⟩] ∧
    v.store.QuestionStands 1 .processing none := by
  obtain ⟨time, -, steps⟩ := Program.steps_run (.offline 2) (fun _ => 0) (fun _ => Int.le_refl _)
    refused ⟨refusing, 0, []⟩ 0 [] (Int.le_refl _)
  have result : (refused.run (.offline 2) (fun _ => 0) ⟨refusing, 0, []⟩).1 =
      .error (.failed (.store .refused)) := by decide +kernel
  have set : ∀ e ∈ refused.events (.offline 2) (fun _ => 0) ⟨refusing, 0, []⟩,
      e.missesStatus = false := by decide +kernel
  have created : (refused.events (.offline 2) (fun _ => 0) ⟨refusing, 0, []⟩).filterMap
      Event.created? = [⟨1, 1, "ann", "why", .pending, none, 0⟩] := by decide +kernel
  have stands : ((refused.run (.offline 2) (fun _ => 0) ⟨refusing, 0, []⟩).2.store.questions.find?
      1).map (fun row => (row.status, row.errorMessage)) =
        some (Store.questionStatus.write .processing, none) := by
    decide +kernel
  generalize refused.run (.offline 2) (fun _ => 0) ⟨refusing, 0, []⟩ = out at steps result stands
  generalize refused.events (.offline 2) (fun _ => 0) ⟨refusing, 0, []⟩ = trace at steps set created
  obtain ⟨row, found, same⟩ := Option.map_eq_some_iff.1 stands
  obtain ⟨status, message⟩ := Prod.ext_iff.1 same
  rw [result, List.nil_append] at steps
  exact ⟨_, steps, set, created, row, found, status, message⟩

end Example

end Retrieval

end CodeAtlas
