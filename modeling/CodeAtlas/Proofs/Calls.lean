import CodeAtlas.Proofs.Marks
import CodeAtlas.Proofs.Rules
import CodeAtlas.Session

/-! # Calls

What users do, one call after the other: they name working trees, analyze subjects and ask about
them. A call succeeds, fails, or is cut off before any of its requests, and the next one starts from
the store that it left. -/
namespace CodeAtlas

/-- What a user does. -/
inductive Call where
  | resolve (disk : Disk) (root : String) (name : Option String)
  | analyze (disk : Disk) (services : Inference.Services) (subject : Int)
      (options : AnalysisOptions)
  | ask (services : Inference.Services) (subject : Int) (question asker : String)

/-- Whether a program succeeds. -/
def succeeds (x : ExceptT ε Program α) : Program Bool := do
  let r ← x.run
  return r.isOk

/-- What a call does, and whether it succeeds. -/
def Call.program : Call → Program Bool
  | resolve disk root name => succeeds (Session.subjectAt disk root name)
  | analyze disk services subject options =>
      succeeds (Analysis.run disk services subject options)
  | ask services subject question asker =>
      succeeds (Retrieval.converse services subject question asker)

/-- How a call ends. -/
inductive Ending where
  | returned (ok : Bool)
  | killed
  deriving DecidableEq, Repr

/-- What the store and the clock may be after calls, the latest of which is the first. -/
inductive History : List (Call × Ending) → World → Prop
  | start (refusals : List Store.Refusal) : History [] ⟨{ Store.empty with refusals }, 0, []⟩
  | returned {log : List (Call × Ending)} {w v : World} {call : Call} {ok : Bool}
      (before : History log w) (steps : call.program.Steps w (.done ok) v) :
      History ((call, .returned ok) :: log) ⟨v.store, v.time, []⟩
  | killed {log : List (Call × Ending)} {w v : World} {call : Call} {p : Program Bool}
      (before : History log w) (steps : call.program.Steps w p v) (left : p.Pending) :
      History ((call, .killed) :: log) ⟨v.store, v.time, []⟩

namespace EnsuresOr

variable {inv : World → Option Store.Operation → Prop} {ok : α → World → Prop} {w : World}

lemma adapt {bad : ε' → World → Prop} {f : ε → ε'} {x : ExceptT ε Program α}
    (h : EnsuresOr inv ok (fun e v => bad (f e) v) x w) : EnsuresOr inv ok bad (x.adapt f) w := by
  refine ⟨Program.ensures_bind.2 (h.ensures.mono fun r v hr => ?_)⟩
  cases r <;> exact hr

lemma succeeds {bad : ε → World → Prop} {x : ExceptT ε Program α}
    (h : EnsuresOr inv ok bad x w) :
    (succeeds x).Ensures inv (fun b v => if b then ∃ a, ok a v else ∃ e, bad e v) w := by
  refine Program.ensures_bind.2 (h.ensures.mono fun r v hr => ?_)
  cases r with
  | ok a => exact ⟨a, hr⟩
  | error e => exact ⟨e, hr⟩

/-- What is known at the end of a program that returned. -/
lemma of_returned {bad : ε → World → Prop} {x : ExceptT ε Program α} {b : Bool} {v : World}
    (h : EnsuresOr inv ok bad x w) (steps : (CodeAtlas.succeeds x).Steps w (.done b) v) :
    if b then ∃ a, ok a v else ∃ e, bad e v :=
  steps.ensures h.succeeds

/-- What is known where a program was cut off. -/
lemma of_killed {bad : ε → World → Prop} {x : ExceptT ε Program α} {p : Program Bool} {v : World}
    (h : EnsuresOr inv ok bad x w) (steps : (CodeAtlas.succeeds x).Steps w p v)
    (left : p.Pending) : ∃ o, inv v o :=
  (steps.ensures h.succeeds).of_pending left

end EnsuresOr

/-- The rows to refuse stay the same. -/
lemma Program.Steps.refusals {p q : Program α} {w v : World} (h : Steps p w q v) :
    v.store.refusals = w.store.refusals := by
  induction h with
  | refl => rfl
  | step first rest ih =>
    cases first with
    | now later => exact ih
    | perform later answers => exact ih.trans answers.sameBut.refusals
    | complete reply => exact ih

/-! ## What is asked for -/

/-- One stage at which operations of one kind may be asked for. -/
def Rules.only (kind : Store.Operation → Prop) : Rules Unit where
  permits _ := kind
  next _ _ _ := ()

/-- A program that asks the store for operations of one kind only, whatever the store says. -/
structure AsksOnly (kind : Store.Operation → Prop) (x : ExceptT ε Program α) : Prop where
  follows : FollowsOr (.only kind) (fun _ _ => True) (fun _ _ => True) x ()

namespace AsksOnly

variable {kind kind' : Store.Operation → Prop} {x : ExceptT ε Program α}

lemma bind {f : α → ExceptT ε Program β} (hx : AsksOnly kind x) (hf : ∀ a, AsksOnly kind (f a)) :
    AsksOnly kind (x >>= f) :=
  ⟨hx.follows.bind fun a _ _ => (hf a).follows⟩

lemma pure {a : α} : AsksOnly kind (pure a : ExceptT ε Program α) := ⟨.of_pure trivial⟩

lemma throw {e : ε} : AsksOnly kind (throw e : ExceptT ε Program α) := ⟨.of_throw trivial⟩

lemma except {x : Except ε α} : AsksOnly kind (liftM x : ExceptT ε Program α) := by
  cases x with
  | ok a => exact .pure
  | error e => exact .throw

lemma time : AsksOnly kind (liftM Program.time : ExceptT ε Program Int) :=
  ⟨.of_lift (.now fun _ => .done trivial)⟩

lemma completion {prompt : String} :
    AsksOnly kind (liftM (Program.completion prompt) : ExceptT ε Program _) :=
  ⟨.of_lift (.complete fun _ => .done trivial)⟩

lemma ask {o : Store.Operation} (h : kind o) : AsksOnly kind (Retrieval.ask o) := by
  refine ⟨⟨Program.follows_request h fun r => ?_⟩⟩
  cases r <;> trivial

lemma adapt (f : ε → ε') (h : AsksOnly kind x) : AsksOnly kind (x.adapt f) := ⟨.adapt h.follows⟩

lemma tryCatch {handle : ε → ExceptT ε Program α} (hx : AsksOnly kind x)
    (hh : ∀ e, AsksOnly kind (handle e)) : AsksOnly kind (tryCatch x handle) :=
  ⟨FollowsOr.tryCatch hx.follows fun e _ _ => (hh e).follows⟩

/-- At a stage that no operation of the kind leads away from, the program stays. -/
lemma follows_at (h : AsksOnly kind x) {σ : Type} {rules : Rules σ} {y : σ}
    (stays : ∀ o, kind o → rules.permits y o ∧ ∀ r, rules.next y o r = y) :
    FollowsOr rules (fun _ z => z = y) (fun _ z => z = y) x y := by
  have stay : ∀ (p : Program (Except ε α)) u, p.Follows (.only kind) (fun _ _ => True) u →
      p.Follows rules (fun _ z => z = y) y := by
    intro p u hp
    induction hp with
    | done => exact .done rfl
    | now _ ih => exact .now ih
    | perform permitted _ ih =>
      obtain ⟨permitted', still⟩ := stays _ permitted
      exact .perform permitted' fun r => (still r).symm ▸ ih r
    | complete _ ih => exact .complete ih
  refine ⟨(stay x.run () (h.follows.follows.mono fun _ _ _ => trivial)).mono fun r z hz => ?_⟩
  cases r <;> exact hz

lemma mono (h : AsksOnly kind x) (wider : ∀ o, kind o → kind' o) : AsksOnly kind' x :=
  ⟨(h.follows_at fun o ho => ⟨wider o ho, fun _ => rfl⟩).mono (fun _ _ _ => trivial)
    fun _ _ _ => trivial⟩

lemma ensures (h : AsksOnly kind x) (w : World) :
    EnsuresOr (fun _ o => ∀ q ∈ o, kind q) (fun _ _ => True) (fun _ _ => True) x w := by
  refine ⟨((h.follows.follows.ensures w).weaken fun _ o asked q hq => ?_).mono fun r _ _ => ?_⟩
  · exact (asked q hq).choose_spec
  · cases r <;> trivial

/-- What every operation of the kind keeps, the program keeps. -/
lemma keeps (h : AsksOnly kind x) {J : World → Prop} {w : World} (start : J w)
    (read : ∀ v t, J v → v.time ≤ t → J (v.read t))
    (step : ∀ v o t r s, J v → kind o → v.time ≤ t → v.store.Answers t o r s →
      J (v.answered t o r s)) :
    EnsuresOr (fun v _ => J v) (fun _ v => J v) (fun _ v => J v) x w := by
  have kept := (h.ensures w).keep start read
    fun v o t r s holds asked later answers => step v o t r s holds (asked o rfl) later answers
  exact (kept.mono (fun _ _ holds => holds.2) fun _ _ holds => holds.2).weaken
    fun _ _ holds => holds.2

end AsksOnly

/-! ## Talks -/

namespace Retrieval

/-- Nothing is written. -/
def IsRead (o : Store.Operation) : Prop := o.table? = none

/-- What a talk may ask of the store: to read, or to write questions and answers. -/
def IsTalk (o : Store.Operation) : Prop :=
  IsRead o ∨ o.table? = some .questions ∨ o.table? = some .answers

/-- Other tables are left as they are. -/
lemma IsTalk.elsewhere {o : Store.Operation} (h : IsTalk o) {table : Store.TableName}
    (questions : table ≠ .questions) (answers : table ≠ .answers) : o.table? ≠ some table := by
  intro writes
  rcases h with reads | asks | tells
  · cases writes.symm.trans reads
  · exact questions (Option.some.inj (writes.symm.trans asks))
  · exact answers (Option.some.inj (writes.symm.trans tells))

lemma reads_searchWords {subject : Int} {question : String} {hits : List VectorHit} :
    AsksOnly IsRead (searchWords subject question hits) :=
  (AsksOnly.ask (by rfl)).bind fun _ => (AsksOnly.ask (by rfl)).bind fun _ =>
    (AsksOnly.ask (by rfl)).bind fun _ => (AsksOnly.ask (by rfl)).bind fun _ => .pure

lemma reads_search {services : Inference.Services} {subject : Int} {question : String} :
    AsksOnly IsRead (search services subject question) := by
  refine (AsksOnly.ask (by rfl)).bind fun embeddings => ?_
  split
  · exact .pure
  · exact reads_searchWords.bind fun _ => .pure

lemma reads_answer {services : Inference.Services} {subject : Int} {question : String} :
    AsksOnly IsRead (answer services subject question) := by
  refine AsksOnly.time.bind fun _ => reads_search.bind fun found => ?_
  cases found with
  | none => exact .pure
  | some context => exact AsksOnly.completion.bind fun _ => AsksOnly.time.bind fun _ => .pure

lemma reads_found {subject : Int} {question : String} (found : Option Subject) :
    AsksOnly IsRead (do
      match found with
      | none => throw (.failed (.subjectNotFound subject))
      | some s =>
        if s.status = .ready then return question
        else throw (.failed (.notReady subject s.status)) :
      Talk String) := by
  rcases found with _ | s
  · exact .throw
  · dsimp only
    split
    · exact .pure
    · exact .throw

lemma reads_questionToAsk {subject : Int} {question : String} :
    AsksOnly IsRead (questionToAsk subject question) := by
  have found : AsksOnly IsRead (storeTalk (ask (.getSubject subject))) := .adapt _ (.ask (by rfl))
  unfold questionToAsk
  dsimp only
  split
  · exact AsksOnly.throw.bind fun _ => found.bind reads_found
  · exact found.bind reads_found

lemma talks_conclude {stored : Question} {found : Option Answer} :
    AsksOnly IsTalk (conclude stored found) := by
  cases found with
  | none => exact .throw
  | some a =>
    exact (AsksOnly.adapt _ (.ask (.inr (.inr rfl)))).bind fun _ =>
      (AsksOnly.adapt _ (.ask (.inr (.inl rfl)))).bind fun _ => .pure

/-- A talk that fails is recorded; one that breaks off is not. -/
lemma talks_recordFailure {question : Int} {e : Halt} :
    AsksOnly IsTalk (liftM (recordFailure question e) : Talk Unit) := by
  cases e with
  | failed e =>
    have asked : (Program.request (.updateQuestion question .error (some e.message))).Follows
        (.only IsTalk) (fun _ _ => True) () :=
      Program.follows_request (.inr (.inl rfl)) fun _ => trivial
    exact ⟨.of_lift (asked.bind fun _ _ _ => .done trivial)⟩
  | brokeOff => exact .pure

lemma talks_converse {services : Inference.Services} {subject : Int} {question asker : String} :
    AsksOnly IsTalk (converse services subject question asker) := by
  have created : ∀ q, IsTalk (.createQuestion subject asker q) := fun _ => .inr (.inl rfl)
  have updated : ∀ id status message, IsTalk (.updateQuestion id status message) :=
    fun _ _ _ => .inr (.inl rfl)
  have read : ∀ o, IsRead o → IsTalk o := fun _ => .inl
  refine (reads_questionToAsk.mono read).bind fun question => ?_
  refine (AsksOnly.adapt _ (.ask (created question))).bind fun stored => ?_
  refine (AsksOnly.adapt _ (.ask (updated _ _ _))).bind fun _ => ?_
  refine AsksOnly.bind (.tryCatch (.adapt _ (reads_answer.mono read)) fun e => ?_) fun found => ?_
  · exact talks_recordFailure.bind fun _ => .throw
  · exact talks_conclude

end Retrieval

/-! ## Other calls -/

/-- Subjects that were known are as they were, and others are new. -/
structure Spares (w₀ w : World) : Prop where
  later : w₀.time ≤ w.time
  sound : w.store.Sound
  refusals : w.store.refusals = w₀.store.refusals
  commits : w.store.commits = w₀.store.commits
  files : w.store.files = w₀.store.files
  symbols : w.store.symbols = w₀.store.symbols
  edges : w.store.edges = w₀.store.edges
  embeddings : w.store.embeddings = w₀.store.embeddings
  known : ∀ b, w₀.store.subjects.contains b = true →
    w.store.subjects.find? b = w₀.store.subjects.find? b
  new : ∀ b row, w₀.store.subjects.contains b = false → w.store.subjects.find? b = some row →
    ∃ name rootPath now, row = .new name rootPath now

namespace Spares

variable {w₀ w : World} {o : Store.Operation} {r : Except StoreError o.Result} {s : Store} {t : Int}

lemma refl (sound : w.store.Sound) : Spares w w where
  later := Int.le_refl _
  sound := sound
  refusals := rfl
  commits := rfl
  files := rfl
  symbols := rfl
  edges := rfl
  embeddings := rfl
  known _ _ := rfl
  new b row missing found := by simp [Store.Table.contains, found] at missing

lemma read (h : Spares w₀ w) (later : w.time ≤ t) : Spares w₀ (w.read t) :=
  { h with later := Int.le_trans h.later later }

lemma sameFor (h : Spares w₀ w) {b : Int} (known : w₀.store.subjects.contains b = true) :
    w₀.store.SameFor b w.store :=
  ⟨h.known b known, by rw [h.commits], by rw [h.files], by rw [h.symbols], by rw [h.edges],
    by rw [h.embeddings]⟩

/-- A talk is of no subject. -/
lemma talk (h : Spares w₀ w) (later : w.time ≤ t) (talk : Retrieval.IsTalk o)
    (answers : w.store.Answers t o r s) : Spares w₀ (w.answered t o r s) := by
  have same := answers.sameBut
  have subjects := same.subjects (talk.elsewhere (by simp) (by simp))
  have commits := same.commits (talk.elsewhere (by simp) (by simp))
  have files := same.files (talk.elsewhere (by simp) (by simp))
  have symbols := same.symbols (talk.elsewhere (by simp) (by simp))
  exact
    { later := Int.le_trans h.later later
      sound := h.sound.of_eq subjects commits files symbols
      refusals := same.refusals.trans h.refusals
      commits := commits.trans h.commits
      files := files.trans h.files
      symbols := symbols.trans h.symbols
      edges := (same.edges (talk.elsewhere (by simp) (by simp))).trans h.edges
      embeddings := (same.embeddings (talk.elsewhere (by simp) (by simp))).trans h.embeddings
      known := fun b hb => (congrArg (·.find? b) subjects).trans (h.known b hb)
      new := fun b row missing found =>
        h.new b row missing ((congrArg (·.find? b) subjects).symm.trans found) }

/-- A subject is added whose root is not taken. -/
lemma register (h : Spares w₀ w) (later : w.time ≤ t) {name rootPath : String}
    {r : Except StoreError (Store.Operation.Result (.registerSubject name rootPath))}
    (free : ∀ e ∈ w.store.subjects.rows, e.2.rootPath ≠ rootPath)
    (answers : w.store.Answers t (.registerSubject name rootPath) r s) :
    Spares w₀ (w.answered t (.registerSubject name rootPath) r s) := by
  have sound := h.sound.answers (o := .registerSubject name rootPath) free answers
  obtain rfl | rfl := answers.registerSubject free
  · exact { h with later := Int.le_trans h.later later }
  · refine { h with
      later := Int.le_trans h.later later
      sound := sound
      known := fun b hb => ?_
      new := fun b row missing found => ?_ }
    · have there : w.store.subjects.contains b = true := by
        simpa only [Store.Table.contains, h.known b hb] using hb
      exact (h.sound.sameFor_addSubject there).subject.trans (h.known b hb)
    · rcases Store.Table.mem_add.1 (sound.subjectIds.find?_eq_some.1 found) with old | new
      · exact h.new b row missing (h.sound.subjectIds.find?_eq_some.2 old)
      · exact ⟨name, rootPath, t, (Prod.ext_iff.1 new).2⟩

end Spares

variable {w : World}

lemma free_of_missing {rootPath : String} (sound : w.store.Sound)
    (missing : w.store.findSubject rootPath = .ok none) :
    ∀ e ∈ w.store.subjects.rows, e.2.rootPath ≠ rootPath := by
  rintro e he rfl
  unfold Store.findSubject at missing
  split at missing
  next unknown =>
    have := Store.Table.findWhere_eq_none.1 unknown e he
    simp [sound.present e he, Store.Held.holds] at this
  next row found =>
    obtain ⟨_, -, h⟩ := Store.map_eq_ok.1 missing
    cases h

/-- A subject is named that may be new. -/
lemma subjectAt_spares {disk : Disk} {root : String} {name : Option String}
    (sound : w.store.Sound) :
    EnsuresOr (fun v _ => Spares w v) (fun _ v => Spares w v) (fun _ v => Spares w v)
      (Session.subjectAt disk root name) w := by
  have start := Spares.refl sound
  unfold Session.subjectAt
  split
  · exact .of_throw start
  next place _ =>
    refine EnsuresOr.bind (M := fun found v => v.store = w.store ∧ w.time ≤ v.time ∧
      w.store.findSubject (Session.rootPathOf place) = .ok found) ?_ ?_
    · refine EnsuresOr.of_request (o := .findSubject (Session.rootPathOf place)) start
        (fun t later found s answers => ?_) fun t later e s answers => ?_
      · cases answers.eq_of_reads rfl
        exact ⟨rfl, later, congrArg Prod.fst answers.eq_perform⟩
      · cases answers.eq_of_reads rfl
        exact start.talk later (.inl rfl) answers
    · rintro found v ⟨store, later, asked⟩
      have spared : Spares w v := by
        obtain ⟨s, t, trace⟩ := v
        cases store
        exact { start with later := later }
      rw [← store] at asked
      cases found with
      | some subject => exact .of_pure spared
      | none =>
        have free := free_of_missing spared.sound asked
        exact EnsuresOr.of_request spared
          (fun t later _ s answers => spared.register later free answers)
          fun t later _ s answers => spared.register later free answers

lemma AsksOnly.spares {x : ExceptT ε Program α} (h : AsksOnly Retrieval.IsTalk x)
    (sound : w.store.Sound) :
    EnsuresOr (fun v _ => Spares w v) (fun _ v => Spares w v) (fun _ v => Spares w v) x w :=
  h.keeps (Spares.refl sound) (fun _ _ spared later => spared.read later)
    fun _ _ _ _ _ spared talk later answers => spared.talk later talk answers

/-! ## Histories -/

open Analysis (Regular Marked)

/-- A new subject has no rows. -/
lemma Spares.marked_new {v : World} (h : Spares w v) (start : Regular w) {b : Int}
    (unknown : w.store.subjects.contains b = false) : Marked b v := by
  have missing : ∀ c, w.store.subjects.contains c = true → c ≠ b := by
    rintro c known rfl
    simp [known] at unknown
  refine ⟨none, ⟨fun row hrow => ?_, Int.le_trans start.started h.later⟩, fun e he hb => ?_,
    fun e he hb => ?_⟩
  · obtain ⟨name, rootPath, now, rfl⟩ := h.new b row unknown hrow
    rfl
  · rw [h.files] at he
    exact absurd hb (missing _ (start.sound.fileHomes e he))
  · rw [h.symbols] at he
    obtain ⟨f, found, home⟩ := start.sound.symbolHomes e he
    have known := start.sound.fileHomes _ (start.sound.fileIds.find?_eq_some.1 found)
    exact absurd (home.trans hb) (missing _ known)

lemma Spares.regular {v : World} (h : Spares w v) (start : Regular w) : Regular v := by
  refine ⟨h.sound, fun b => ?_, Int.le_trans start.started h.later⟩
  by_cases known : w.store.subjects.contains b = true
  · exact (start.marked b).sameFor start.sound h.sound (h.sameFor known) h.later
  · exact h.marked_new start (by simpa using known)

/-- The working tree of a subject, if it is found. -/
lemma exists_tree (disk : Disk) (a : Int) (options : AnalysisOptions) (s : Store) :
    ∃ tree, ∀ subject, s.getSubject a = .ok (some subject) →
      Analysis.filesAt disk subject.rootPath ⟨options.maxDepth, options.maxFileBytes⟩ = tree :=
  s.exists_of_getSubject a fun subject =>
    Analysis.filesAt disk subject.rootPath ⟨options.maxDepth, options.maxFileBytes⟩

/-- However far a run has got, it has not changed other subjects. -/
lemma run_regular {disk : Disk} {services : Inference.Services} {a : Int}
    {options : AnalysisOptions} (start : Regular w) (fresh : w.trace = []) :
    EnsuresOr (fun v _ => Regular v ∧ ∀ b, b ≠ a → w.store.SameFor b v.store)
      (fun _ v => Regular v ∧ ∀ b, b ≠ a → w.store.SameFor b v.store)
      (fun _ v => Regular v ∧ ∀ b, b ≠ a → w.store.SameFor b v.store)
      (Analysis.run disk services a options) w := by
  obtain ⟨last, dated, capped⟩ := start.marked a
  obtain ⟨tree, htree⟩ := exists_tree disk a options w.store
  have steady : EnsuresOr _ _ _ (Analysis.run disk services a options) w :=
    Analysis.run_steady fresh start.sound dated capped htree
  exact (steady.mono (fun _ _ h => ⟨h.2.regular start, h.2.others⟩)
    fun _ _ h => ⟨h.2.regular start, h.2.others⟩).weaken
    fun _ _ h => ⟨h.2.regular start, h.2.others⟩

lemma Spares.always {x : ExceptT ε Program α} (start : Regular w)
    (h : EnsuresOr (fun v _ => Spares w v) (fun _ v => Spares w v) (fun _ v => Spares w v) x w) :
    EnsuresOr (fun v _ => Regular v) (fun _ v => Regular v) (fun _ v => Regular v) x w :=
  (h.mono (fun _ _ h => h.regular start) fun _ _ h => h.regular start).weaken
    fun _ _ h => h.regular start

lemma always_of_steps {J : World → Prop} {x : ExceptT ε Program α} {p : Program Bool}
    {v : World} (steps : (succeeds x).Steps w p v)
    (h : EnsuresOr (fun v _ => J v) (fun _ v => J v) (fun _ v => J v) x w) : J v := by
  refine (steps.ensures (h.succeeds.mono fun b v hv => ?_)).always
  cases b <;> exact hv.choose_spec

/-- However far a call has got, another one may follow. -/
lemma Call.regular {call : Call} {p : Program Bool} {v : World} (start : Regular w)
    (fresh : w.trace = []) (steps : call.program.Steps w p v) : Regular v := by
  cases call with
  | resolve =>
    exact always_of_steps steps (Spares.always start (subjectAt_spares start.sound))
  | ask =>
    exact always_of_steps steps
      (Spares.always start (Retrieval.talks_converse.spares start.sound))
  | analyze => exact (always_of_steps steps (run_regular start fresh)).1

lemma History.fresh {log : List (Call × Ending)} (h : History log w) : w.trace = [] := by
  cases h <;> rfl

/-- Whatever calls were made, the store is sound and no mark is beyond the next one. -/
theorem History.regular {log : List (Call × Ending)} (h : History log w) : Regular w := by
  induction h with
  | start refusals =>
    refine ⟨Store.sound_empty refusals, fun b => ⟨none, ⟨?_, Int.le_refl 0⟩, ?_, ?_⟩,
      Int.le_refl 0⟩ <;> simp [Store.empty, Store.Table.empty, Store.Table.find?]
  | returned before steps ih =>
    exact (Call.regular ih before.fresh steps).restart
  | killed before steps left ih =>
    exact (Call.regular ih before.fresh steps).restart

end CodeAtlas
