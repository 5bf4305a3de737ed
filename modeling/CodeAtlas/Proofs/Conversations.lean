import CodeAtlas.Proofs.Attained
import CodeAtlas.Proofs.Progress
import CodeAtlas.Proofs.Rankings
import CodeAtlas.Retrieval.Conversation

/-! # Questions that are answered

What becomes of a question when no operation of the store fails. On a store that operations have
made, a question that may be asked is stored and completed with one answer, whatever the services
give, unless the sort of the hits breaks off. That is left to the library where there are many hits
without an order. A question that may not be asked leaves no trace. -/
namespace CodeAtlas

open Inference (Services ServiceError Completion)

/-! ## Runs of programs that may fail -/

/-- A run gives a result and ends at a moment. -/
def Runs (services : Services) (clock : Nat → Int) (x : ExceptT ε Program α) (m : Moment)
    (r : Except ε α) (m' : Moment) : Prop :=
  x.run.run services clock m = (r, m')

namespace Runs

variable {services : Services} {clock : Nat → Int} {x : ExceptT ε Program α} {m m' m'' : Moment}

lemma pure (a : α) : Runs services clock (pure a : ExceptT ε Program α) m (.ok a) m := rfl

lemma throw (e : ε) : Runs services clock (throw e : ExceptT ε Program α) m (.error e) m := rfl

lemma bind {f : α → ExceptT ε Program β} {a : α} {r : Except ε β}
    (hx : Runs services clock x m (.ok a) m') (hf : Runs services clock (f a) m' r m'') :
    Runs services clock (x >>= f) m r m'' := by
  change (x.run.bind _).run services clock m = _
  rw [Program.run_bind, hx]
  exact hf

lemma bind_error {f : α → ExceptT ε Program β} {e : ε}
    (hx : Runs services clock x m (.error e) m') :
    Runs services clock (x >>= f) m (.error e) m' := by
  change (x.run.bind _).run services clock m = _
  rw [Program.run_bind, hx]
  rfl

lemma tryCatch {handle : ε → ExceptT ε Program α} {a : α}
    (hx : Runs services clock x m (.ok a) m') :
    Runs services clock (tryCatch x handle) m (.ok a) m' := by
  change (x.run.bind _).run services clock m = _
  rw [Program.run_bind, hx]
  rfl

lemma adapt {a : α} (f : ε → ε') (hx : Runs services clock x m (.ok a) m') :
    Runs services clock (x.adapt f) m (.ok a) m' := by
  change (x.run.bind _).run services clock m = _
  rw [Program.run_bind, hx]
  rfl

lemma time : Runs services clock (liftM Program.time : ExceptT ε Program Int) m
    (.ok (clock m.readings)) { m with readings := m.readings + 1 } := rfl

lemma completion (prompt : String) :
    Runs services clock (liftM (Program.completion prompt) : ExceptT ε Program _) m
      (.ok (services.complete prompt)) { m with prompts := prompt :: m.prompts } := rfl

lemma ask {o : Store.Operation} {a : o.Result} {s : Store}
    (h : m.store.perform (clock m.readings) o = (.ok a, s)) :
    Runs services clock (Retrieval.ask o) m (.ok a)
      { m with store := s, readings := m.readings + 1 } := by
  change ((m.store.perform (clock m.readings) o).1, ({ m with
    store := (m.store.perform (clock m.readings) o).2
    readings := m.readings + 1 } : Moment)) = _
  rw [h]

end Runs

namespace Retrieval

variable {services : Services} {clock : Nat → Int} {m : Moment} {subject : Int}
  {question asker : String}

/-! ## What is found -/

lemma runs_read (legible : m.store.Legible) {o : Store.Operation} (reads : o.table? = none)
    (embeddings : ∀ subject, o ≠ .listEmbeddings subject)
    (history : ∀ subject asker, o ≠ .listHistory subject asker) :
    ∃ a, Runs services clock (ask o) m (.ok a) { m with readings := m.readings + 1 } := by
  obtain ⟨a, ha⟩ := legible.read reads embeddings history (clock m.readings)
  exact ⟨a, .ask ha⟩

lemma runs_searchWords (services : Services) (clock : Nat → Int) (subject : Int)
    (question : String) (hits : List VectorHit) (legible : m.store.Legible) : ∃ context,
      Runs services clock (searchWords subject question hits) m (.ok context)
        { m with readings := m.readings + 4 } := by
  have legible' : ∀ n, ({ m with readings := n } : Moment).store.Legible := fun _ => legible
  obtain ⟨files, hfiles⟩ := runs_read (legible' _) rfl (o := .searchFiles ..) nofun nofun
  obtain ⟨symbols, hsymbols⟩ := runs_read (legible' _) rfl (o := .searchSymbols ..) nofun nofun
  obtain ⟨commits, hcommits⟩ := runs_read (legible' _) rfl (o := .searchCommits ..) nofun nofun
  obtain ⟨edges, hedges⟩ := runs_read (legible' _) rfl (o := .neighborhood ..) nofun nofun
  exact ⟨_, hfiles.bind (hsymbols.bind (hcommits.bind (hedges.bind (.pure _))))⟩

/-- The sort of the hits for a question does not break off. -/
def Sorts (services : Services) (question : String) (embeddings : List StoredEmbedding) : Prop :=
  (sortHits services.libraries (hitsOf (services.embed question) embeddings)).isSome = true

/-- The hits for a question are few, or can be ordered. -/
def Sortable (services : Services) (question : String) (embeddings : List StoredEmbedding) : Prop :=
  embeddings.length ≤ placedLimit ∨ areOrdered (hitsOf (services.embed question) embeddings) = true

instance {embeddings : List StoredEmbedding} : Decidable (Sorts services question embeddings) :=
  inferInstanceAs (Decidable (_ = true))

instance {embeddings : List StoredEmbedding} : Decidable (Sortable services question embeddings) :=
  inferInstanceAs (Decidable (_ ∨ _))

variable {embeddings : List StoredEmbedding}

lemma Sortable.sorts (h : Sortable services question embeddings) :
    Sorts services question embeddings := by
  have ranks := rankEmbeddings_ranked services.libraries h 0
  obtain ⟨sorted, found, -⟩ := Option.map_eq_some_iff.1 ranks
  rw [Sorts, found]
  rfl

lemma rankEmbeddings_isSome {top : Nat} :
    (rankEmbeddings services.libraries (services.embed question) embeddings top).isSome = true ↔
      Sorts services question embeddings := by
  rw [rankEmbeddings, Option.isSome_map]
  rfl

/-- A search finds something unless the sort of its hits breaks off. -/
lemma runs_search (services : Services) (clock : Nat → Int) (subject : Int) (question : String)
    (legible : m.store.Legible) (listed : m.store.listEmbeddings subject = .ok embeddings) :
    ∃ found m', Runs services clock (search services subject question) m (.ok found) m' ∧
      m'.store = m.store ∧ (found.isSome = true ↔ Sorts services question embeddings) := by
  have first : Runs services clock (ask (.listEmbeddings subject)) m (.ok embeddings)
    { m with readings := m.readings + 1 } := .ask (Prod.ext listed rfl)
  have sorts : (rankEmbeddings services.libraries (services.embed question) embeddings
      vectorLimit).isSome = true ↔ Sorts services question embeddings := rankEmbeddings_isSome
  cases ranks : rankEmbeddings services.libraries (services.embed question) embeddings
      vectorLimit with
  | none =>
    refine ⟨none, { m with readings := m.readings + 1 }, first.bind ?_, rfl, ?_⟩
    · simp only [ranks]
      exact .pure _
    · rw [← sorts, ranks]
      rfl
  | some hits =>
    obtain ⟨context, words⟩ := runs_searchWords (m := { m with readings := m.readings + 1 })
      services clock subject question hits legible
    refine ⟨some context, { m with readings := m.readings + 1 + 4 }, first.bind ?_, rfl, ?_⟩
    · simp only [ranks]
      exact words.bind (.pure _)
    · rw [← sorts, ranks, Option.isSome_some, Option.isSome_some]

/-- The confidence of an answer is a number. -/
lemma answerOf_confidence {context : Context} {said : Except ServiceError (Option Completion)}
    {milliseconds : Nat} : (answerOf context said milliseconds).confidence.isNaN = false := by
  rcases said with e | _ | completion
  · change failedConfidence.isNaN = false
    decide
  · change unwrittenConfidence.isNaN = false
    decide
  · change writtenConfidence.isNaN = false
    decide

lemma runs_answer (services : Services) (clock : Nat → Int) (subject : Int) (question : String)
    (legible : m.store.Legible) (listed : m.store.listEmbeddings subject = .ok embeddings) :
    ∃ found m', Runs services clock (answer services subject question) m (.ok found) m' ∧
      m'.store = m.store ∧ (found.isSome = true ↔ Sorts services question embeddings) ∧
      ∀ a, found = some a → a.confidence.isNaN = false := by
  obtain ⟨found, m', searched, store, sorts⟩ := runs_search
    (m := { m with readings := m.readings + 1 }) services clock subject question legible listed
  cases found with
  | none => exact ⟨none, _, .bind .time (searched.bind (.pure _)), store, sorts, nofun⟩
  | some context =>
    refine ⟨some _, _, .bind .time (searched.bind (.bind (.completion _) (.bind .time (.pure _)))),
      store, by simpa using sorts, ?_⟩
    rintro a ⟨⟩
    exact answerOf_confidence

/-! ## Conversations -/

/-- There is a question, and it is about a subject that is ready. -/
def Askable (s : Store) (subject : Int) (question : String) : Prop :=
  (Text.trimmed question).isEmpty = false ∧
    ∃ found, s.getSubject subject = .ok (some found) ∧ found.status = .ready

lemma runs_getSubject {found : Option Subject} (h : m.store.getSubject subject = .ok found) :
    Runs services clock (storeTalk (ask (.getSubject subject))) m (.ok found)
      { m with readings := m.readings + 1 } :=
  .adapt _ (.ask (Prod.ext h rfl))

lemma runs_questionToAsk (askable : Askable m.store subject question) :
    Runs services clock (questionToAsk subject question) m (.ok (Text.trimmed question))
      { m with readings := m.readings + 1 } := by
  obtain ⟨given, found, known, ready⟩ := askable
  unfold questionToAsk
  simp only [given, Bool.false_eq_true, if_false]
  refine (runs_getSubject known).bind ?_
  simp only [ready, if_true]
  exact .pure _

/-- Why a question may not be asked. -/
inductive Barred (s : Store) (subject : Int) (question : String) : AskError → Prop
  | empty (nothing : (Text.trimmed question).isEmpty = true) :
      Barred s subject question .emptyQuestion
  | unknown (missing : s.getSubject subject = .ok none) :
      Barred s subject question (.subjectNotFound subject)
  | unready {found : Subject} (known : s.getSubject subject = .ok (some found))
      (unready : found.status ≠ .ready) : Barred s subject question (.notReady subject found.status)

lemma runs_questionToAsk_error (services : Services) (clock : Nat → Int) (legible : m.store.Legible)
    (unaskable : ¬ Askable m.store subject question) :
    ∃ e m', Runs services clock (questionToAsk subject question) m (.error (.failed e)) m' ∧
      Barred m.store subject question e ∧ m'.store = m.store := by
  unfold questionToAsk
  by_cases empty : (Text.trimmed question).isEmpty = true
  · simp only [empty, if_true]
    exact ⟨_, _, .bind_error (.throw _), .empty empty, rfl⟩
  · simp only [empty, Bool.false_eq_true, if_false]
    obtain ⟨found, known⟩ := legible.exists_getSubject subject
    cases found with
    | none => exact ⟨_, _, (runs_getSubject known).bind (.throw _), .unknown known, rfl⟩
    | some found =>
      have unready : found.status ≠ .ready :=
        fun ready => unaskable ⟨by simpa using empty, found, known, ready⟩
      refine ⟨_, { m with readings := m.readings + 1 }, (runs_getSubject known).bind ?_,
        .unready known unready, rfl⟩
      simp only [unready, if_false]
      exact .throw _

/-- The last question, which has no answer, gets one. -/
lemma runs_conclude (services : Services) (clock : Nat → Int) {t : Store.Table Store.QuestionRow}
    {row : Store.QuestionRow} {stored : Question} {a : Answer} (legible : m.store.Legible)
    (ordered : t.Ordered)
    (last : m.store.questions = t.add row) (is_last : stored.id = t.nextId)
    (unanswered : m.store.answers.findWhere (·.questionId = stored.id) = none)
    (number : a.confidence.isNaN = false) : ∃ m' later,
      Runs services clock (conclude stored (some a)) m
        (.ok ⟨{ stored with status := .completed },
          ⟨m.store.answers.nextId, stored.id, a, clock m.readings⟩⟩) m' ∧
      m'.store = { m.store with
        questions := t.add (row.updated later .completed none)
        answers := m.store.answers.add (.new (clock m.readings) stored.id a) } := by
  have asked : m.store.questions.contains stored.id = true := by
    rw [last, is_last, Store.Table.contains, ordered.find?_add]
    rfl
  have saved := Store.perform_saveAnswer legible.refusals unanswered number asked (clock m.readings)
  let s : Store :=
    { m.store with answers := m.store.answers.add (.new (clock m.readings) stored.id a) }
  let m₁ : Moment := { m with store := s, readings := m.readings + 1 }
  have completed := Store.perform_setStatus (s := s) legible.refusals ordered last .completed
    (clock m₁.readings)
  rw [← is_last] at completed
  exact ⟨_, clock m₁.readings,
    (Runs.adapt _ (.ask saved)).bind ((Runs.adapt _ (.ask (m := m₁) completed)).bind (.pure _)),
    rfl⟩

/-- What a question becomes that may be asked. -/
lemma runs_converse (services : Services) (clock : Nat → Int) (asker : String)
    (legible : m.store.Legible) (askable : Askable m.store subject question)
    (listed : m.store.listEmbeddings subject = .ok embeddings) :
    ∃ result m' now, Runs services clock (converse services subject question asker) m result m' ∧
      (Sorts services (Text.trimmed question) embeddings →
        ∃ a later last, result = .ok ⟨⟨m.store.questions.nextId, subject, asker,
            Text.trimmed question, .completed, none, now⟩,
            ⟨m.store.answers.nextId, m.store.questions.nextId, a, later⟩⟩ ∧
          m'.store = { m.store with
            questions := m.store.questions.add
              ((Store.QuestionRow.new now subject asker (Text.trimmed question)).updated last
                .completed none)
            answers := m.store.answers.add (.new later m.store.questions.nextId a) }) ∧
      (¬ Sorts services (Text.trimmed question) embeddings →
        ∃ last, result = .error .brokeOff ∧
          m'.store = { m.store with
            questions := m.store.questions.add
              ((Store.QuestionRow.new now subject asker (Text.trimmed question)).updated last
                .processing none) }) := by
  obtain ⟨-, found, known, -⟩ := id askable
  have there : m.store.subjects.contains subject = true := by
    obtain ⟨row, hrow, -⟩ := Store.getSubject_eq_some.1 known
    simp [Store.Table.contains, hrow]
  have ordered := legible.questionIds
  let m₁ : Moment := { m with readings := m.readings + 1 }
  let stored : Question := ⟨m.store.questions.nextId, subject, asker, Text.trimmed question,
    .pending, none, clock m₁.readings⟩
  let row := Store.QuestionRow.new (clock m₁.readings) subject asker (Text.trimmed question)
  let s₂ : Store := { m.store with questions := m.store.questions.add row }
  have created : m.store.perform (clock m₁.readings)
      (.createQuestion subject asker (Text.trimmed question)) = (.ok stored, s₂) :=
    Store.perform_createQuestion legible.refusals there asker (Text.trimmed question)
  let m₂ : Moment := { m₁ with store := s₂, readings := m₁.readings + 1 }
  let s₃ : Store := { m.store with
    questions := m.store.questions.add (row.updated (clock m₂.readings) .processing none) }
  have processing : s₂.perform (clock m₂.readings) (.updateQuestion stored.id .processing none) =
      (.ok (), s₃) := Store.perform_setStatus (s := s₂) legible.refusals ordered rfl .processing _
  let m₃ : Moment := { m₂ with store := s₃, readings := m₂.readings + 1 }
  have legible₂ : s₂.Legible :=
    legible.answered (o := .createQuestion ..) trivial (.of_perform created)
  have legible₃ : s₃.Legible :=
    legible₂.answered (o := .updateQuestion ..) trivial (.of_perform processing)
  -- The questions have changed since the embeddings were listed, and these have not.
  obtain ⟨found, m₄, answered, store, sorts, number⟩ :=
    runs_answer (m := m₃) services clock subject (Text.trimmed question) legible₃ listed
  have asks : ∀ {r : Except Halt Answered} {m' : Moment},
      Runs services clock (conclude stored found) m₄ r m' →
      Runs services clock (converse services subject question asker) m r m' := fun rest =>
    (runs_questionToAsk askable).bind ((Runs.adapt _ (.ask created)).bind
      ((Runs.adapt _ (.ask processing)).bind ((Runs.tryCatch (.adapt _ answered)).bind rest)))
  cases found with
  | none =>
    have broken : ¬ Sorts services (Text.trimmed question) embeddings := by simp [← sorts]
    exact ⟨_, m₄, _, asks (.throw _), fun sorted => absurd sorted broken, fun _ => ⟨_, rfl, store⟩⟩
  | some a =>
    have sorted : Sorts services (Text.trimmed question) embeddings := by simp [← sorts]
    have unanswered : m₄.store.answers.findWhere (·.questionId = stored.id) = none := by
      rw [store]
      exact Store.Table.findWhere_eq_none.2 fun e he => by simpa using legible.unanswered e he
    obtain ⟨m', last, concluded, after⟩ := runs_conclude services clock
      (store ▸ legible₃) ordered (congrArg Store.questions store) rfl unanswered (number a rfl)
    rw [store] at concluded after
    exact ⟨_, m', _, asks concluded, fun _ => ⟨a, _, last, rfl, after⟩,
      fun broken => absurd sorted broken⟩

/-- A question that may not be asked leaves no trace. One that may is stored, and then completed
with the one answer to it, unless the sort of its hits breaks off; then it is left in processing. No
sort does of hits that are few or can be ordered. -/
theorem converse_outcome {readings : List Int} {s : Store} (attained : Store.Attained readings s)
    (services : Services) (clock : Nat → Int) (subject : Int) (question asker : String)
    {embeddings : List StoredEmbedding} (listed : s.listEmbeddings subject = .ok embeddings)
    (n : Nat) (prompts : List String) : ∃ result m',
      Runs services clock (converse services subject question asker) ⟨s, n, prompts⟩ result m' ∧
      (¬ Askable s subject question →
        ∃ e, result = .error (.failed e) ∧ Barred s subject question e ∧ m'.store = s) ∧
      (Askable s subject question → ∃ now last,
        let row := Store.QuestionRow.new now subject asker (Text.trimmed question)
        (∀ e ∈ s.answers.rows, e.2.questionId ≠ s.questions.nextId) ∧
        (Sorts services (Text.trimmed question) embeddings →
          ∃ a later, result = .ok ⟨⟨s.questions.nextId, subject, asker, Text.trimmed question,
              .completed, none, now⟩, ⟨s.answers.nextId, s.questions.nextId, a, later⟩⟩ ∧
            m'.store = { s with
              questions := s.questions.add (row.updated last .completed none)
              answers := s.answers.add (.new later s.questions.nextId a) }) ∧
        (¬ Sorts services (Text.trimmed question) embeddings →
          result = .error .brokeOff ∧
            m'.store = { s with
              questions := s.questions.add (row.updated last .processing none) })) ∧
      (Sortable services (Text.trimmed question) embeddings →
        Sorts services (Text.trimmed question) embeddings) := by
  have legible := attained.legible
  by_cases askable : Askable s subject question
  · obtain ⟨result, m', now, runs, sorted, broken⟩ :=
      runs_converse (m := ⟨s, n, prompts⟩) services clock asker legible askable listed
    refine ⟨result, m', runs, fun h => absurd askable h, fun _ => ?_, Sortable.sorts⟩
    by_cases sorts : Sorts services (Text.trimmed question) embeddings
    · obtain ⟨a, later, last, ok, store⟩ := sorted sorts
      exact ⟨now, last, legible.unanswered, fun _ => ⟨a, later, ok, store⟩,
        fun h => absurd sorts h⟩
    · obtain ⟨last, error, store⟩ := broken sorts
      exact ⟨now, last, legible.unanswered, fun h => absurd h sorts, fun _ => ⟨error, store⟩⟩
  · obtain ⟨e, m', barred, why, store⟩ := runs_questionToAsk_error (m := ⟨s, n, prompts⟩)
      services clock legible askable
    exact ⟨.error (.failed e), m', barred.bind_error, fun _ => ⟨e, rfl, why, store⟩,
      fun h => absurd h askable, Sortable.sorts⟩

section Example

/-- The subject that is new, once it is ready, with embeddings. -/
def readySubject (embeddings : List Embedding) : Store :=
  ((Analysis.newSubject.perform 0 (.replaceEmbeddings 1 embeddings)).2.perform 0
    (.updateStatus 1 .ready none none)).2

lemma attained_readySubject (embeddings : List Embedding) :
    Store.Attained [0, 0, 0] (readySubject embeddings) :=
  have new : Store.Attained [0] Analysis.newSubject :=
    .answered (o := .registerSubject "tree" "/") .empty trivial (.of_perform rfl)
  have described : Store.Attained [0, 0] _ :=
    .answered (o := .replaceEmbeddings 1 embeddings) new trivial .performed
  .answered (o := .updateStatus 1 .ready none none) described trivial .performed

/-- Vectors of one member, the rest of two. -/
def crowd : List Embedding :=
  (List.range 24).map fun i => {
    entityKind := .file
    entityId := ""
    entityName := ""
    content := ""
    contentKind := .code
    vector := if i = 0 then [⟨0xBF800000⟩] else if i = 12 then [⟨0x7FC00000⟩] else [.zero, .zero]
    metadata := .null }

/-- What makes the vector `[1]` of each text. -/
def flat : Services := { embedder := some fun _ => .ok [⟨0x3F800000⟩], dimension := 1 }

lemma readySubject_eq (embeddings : List Embedding) :
    ∃ t, readySubject embeddings = { readySubject [] with embeddings := t } := by
  have replaced : Analysis.newSubject.Answers 0 (.replaceEmbeddings 1 embeddings) _ _ := .performed
  rw [readySubject]
  obtain ⟨e, -, same⟩ | ⟨-, kept, same, -⟩ := replaced.replaceEmbeddings
  · exact ⟨(readySubject []).embeddings, by rw [same]; rfl⟩
  · exact ⟨_, by rw [same]; rfl⟩

lemma askable_readySubject (embeddings : List Embedding) :
    Askable (readySubject embeddings) 1 "why" := by
  obtain ⟨t, same⟩ := readySubject_eq embeddings
  rw [same]
  exact ⟨by decide, _, rfl, rfl⟩

/-- What is listed of the embeddings of that subject. -/
def listedOf (embeddings : List Embedding) : List StoredEmbedding :=
  match (readySubject embeddings).listEmbeddings 1 with
  | .ok stored => stored
  | .error _ => []

lemma listEmbeddings_readySubject {embeddings : List Embedding}
    (ok : ((readySubject embeddings).listEmbeddings 1).isOk = true) :
    (readySubject embeddings).listEmbeddings 1 = .ok (listedOf embeddings) := by
  unfold listedOf
  cases listed : (readySubject embeddings).listEmbeddings 1 with
  | ok stored => rfl
  | error e =>
    rw [listed] at ok
    cases ok

lemma converse_readySubject {embeddings : List Embedding} (services : Services)
    {stored : List StoredEmbedding}
    (listed : (readySubject embeddings).listEmbeddings 1 = .ok stored)
    (breaks : ¬ Sorts services (Text.trimmed "why") stored) : ∃ m',
    Runs services (fun _ => 0) (converse services 1 "why" "ann") ⟨readySubject embeddings, 0, []⟩
      (.error .brokeOff) m' ∧
    m'.store.questions.rows.map (fun e => e.2.status) =
      [Store.questionStatus.write .processing] ∧
    m'.store.answers.rows.length = 0 := by
  have legible := (attained_readySubject embeddings).legible
  obtain ⟨result, m', now, runs, -, broken⟩ :=
    runs_converse (m := ⟨readySubject embeddings, 0, []⟩) services (fun _ => 0) "ann" legible
      (askable_readySubject embeddings) listed
  obtain ⟨last, rfl, store⟩ := broken breaks
  obtain ⟨t, same⟩ := readySubject_eq embeddings
  refine ⟨m', runs, ?_, ?_⟩
  · rw [store, same]
    rfl
  · rw [store, same]
    rfl

/-- Nothing is refused, and the question is left in processing without an answer. -/
theorem converse_breaks_off : ∃ readings m',
    Store.Attained readings (readySubject crowd) ∧ Askable (readySubject crowd) 1 "why" ∧
      (readySubject crowd).listEmbeddings 1 = .ok (listedOf crowd) ∧
      Runs flat (fun _ => 0) (converse flat 1 "why" "ann") ⟨readySubject crowd, 0, []⟩
        (.error .brokeOff) m' ∧
      m'.store.questions.rows.map (fun e => e.2.status) =
        [Store.questionStatus.write .processing] ∧
      m'.store.answers.rows.length = 0 := by
  have listed : (readySubject crowd).listEmbeddings 1 = .ok (listedOf crowd) :=
    listEmbeddings_readySubject (by decide +kernel)
  obtain ⟨m', breaks⟩ := converse_readySubject flat listed (by decide +kernel)
  exact ⟨_, m', attained_readySubject crowd, askable_readySubject crowd, listed, breaks⟩

lemma length_readySubject : (readySubject (crowd.take 20)).embeddings.rows.length = 20 := by
  decide +kernel

/-- Up to twenty of the crowd can be sorted, and the question is answered. -/
theorem converse_outcome_readySubject : ∃ answered m',
    Runs flat (fun _ => 0) (converse flat 1 "why" "ann") ⟨readySubject (crowd.take 20), 0, []⟩
      (.ok answered) m' ∧
    m'.store.questions.rows.map (fun e => e.2.status) =
      [Store.questionStatus.write .completed] ∧
    m'.store.answers.rows.map (fun e => e.2.questionId) = [1] ∧
    m'.store.embeddings.rows.length = 20 := by
  have listed : (readySubject (crowd.take 20)).listEmbeddings 1 = .ok (listedOf (crowd.take 20)) :=
    listEmbeddings_readySubject (by decide +kernel)
  obtain ⟨result, m', runs, -, asked, sorts⟩ := converse_outcome
    (attained_readySubject (crowd.take 20)) flat (fun _ => 0) 1 "why" "ann" listed 0 []
  obtain ⟨now, last, -, answered, -⟩ := asked (askable_readySubject (crowd.take 20))
  obtain ⟨a, later, rfl, store⟩ := answered (sorts (by decide +kernel))
  obtain ⟨t, same⟩ := readySubject_eq (crowd.take 20)
  refine ⟨_, m', runs, ?_, ?_, ?_⟩
  · rw [store, same]
    rfl
  · rw [store, same]
    rfl
  · have kept : m'.store.embeddings = (readySubject (crowd.take 20)).embeddings := by rw [store]
    rw [kept, length_readySubject]

end Example

end Retrieval

end CodeAtlas
