import CodeAtlas.Proofs.Listings

/-! # Attained stores

What operations make of an empty store. Each row that they write can be read again, a question is
answered at most once, and only questions that are there are answered. So no operation that reads
fails, but for those that read documents which may tell less than was written: the metadata of an
embedding, and the scores of an answer. -/
namespace CodeAtlas.Store

/-! ## Rows -/

namespace Table

variable {t t' : Table ρ} {P : ρ → Prop}

/-- All rows of a table satisfy a condition. -/
def All (t : Table ρ) (P : ρ → Prop) : Prop := ∀ e ∈ t.rows, P e.2

lemma all_empty : (empty : Table ρ).All P := by simp [All, empty]

lemma All.add (h : t.All P) {row : ρ} (new : P row) : (t.add row).All P := by
  intro e he
  rcases mem_add.1 he with he | rfl
  · exact h e he
  · exact new

lemma All.addAll (h : t.All P) {rows : List ρ} (new : ∀ row ∈ rows, P row) :
    (t.addAll rows).All P := by
  induction rows generalizing t with
  | nil => exact h
  | cons row rest ih =>
    exact ih (h.add (new row List.mem_cons_self)) fun r hr => new r (List.mem_cons_of_mem _ hr)

lemma All.set (h : t.All P) {id : Int} {row : ρ} (new : P row) : (t.set id row).All P := by
  intro e he
  rcases mem_set.1 he with ⟨he, -⟩ | ⟨rfl, -⟩
  · exact h e he
  · exact new

lemma All.update (h : t.All P) {p : ρ → Bool} {f : ρ → ρ} (kept : ∀ r, P r → P (f r)) :
    (t.update p f).All P := by
  intro e he
  rcases mem_update.1 he with ⟨he, -⟩ | ⟨old, hold, -, heq⟩
  · exact h e he
  · exact heq ▸ kept old (h _ hold)

lemma All.removeWhere (h : t.All P) (p : ρ → Bool) : (t.removeWhere p).All P :=
  fun e he => h e (mem_removeWhere.1 he).1

lemma All.written (h : t.All P) {key : ρ → Bool} {merge : ρ → ρ} {new : ρ} {home : Bool} {id : Int}
    (written : t.Written key merge new home id t') (first : P new) (merged : ∀ r, P (merge r)) :
    t'.All P := by
  cases written with
  | replaced old found => exact h.set (merged old)
  | added => exact h.add first

lemma All.find? (h : t.All P) {id : Int} {row : ρ} (found : t.find? id = some row) : P row :=
  h _ (mem_of_find? found)

end Table

/-- Whatever its number, a row is read as a record. -/
def Readable (record : Int → ρ → Except StoreError α) (r : ρ) : Prop :=
  ∀ id, ∃ x, record id r = .ok x

/-! ## Attained stores -/

/-- Numbers that have the width of their kind. -/
def Operation.InRange : Operation → Prop
  | writeCommit _ c =>
      c.totalAdditions < 0x100000000 ∧ c.totalDeletions < 0x100000000 ∧
        c.filesChangedCount < 0x100000000 ∧
        ∀ x ∈ c.filesChanged, x.additions < 0x100000000 ∧ x.deletions < 0x100000000
  | writeSymbol _ _ y _ => y.complexity < 0x100000000
  | saveAnswer _ a => a.totalTokens < 0x100000000 ∧ SourcesFit a.sources
  | _ => True

/-- What an empty store becomes by operations at some readings of a clock. -/
inductive Attained : List Int → Store → Prop
  | empty : Attained [] empty
  | answered {readings : List Int} {s s' : Store} {now : Int} {o : Operation}
      {r : Except StoreError o.Result} (before : Attained readings s) (fits : o.InRange)
      (answers : s.Answers now o r s') : Attained (readings ++ [now]) s'

/-- What is stored can be read, and questions are answered once. -/
structure Legible (s : Store) : Prop where
  subjects : s.subjects.All (Readable SubjectRow.record)
  commits : s.commits.All (Readable CommitRow.record)
  files : s.files.All (Readable FileRow.record)
  symbols : s.symbols.All fun r => ∀ path, Readable (SymbolRow.record · path) r
  edges : s.edges.All (Readable EdgeRow.record)
  questions : s.questions.All (Readable QuestionRow.record)
  questionIds : s.questions.Ordered
  asked : s.answers.All fun r => s.questions.contains r.questionId = true
  once : s.answers.Unique AnswerRow.questionId
  refusals : s.refusals = []

/-! ## Rows that are written -/

section

variable {subject now : Int}

@[simp] lemma Held.word32At_value {index n : Nat} {column : String} (h : n < 0x100000000) :
    (Held.value (n : Int)).word32At index column = .ok n := by
  have fits : (0 : Int) ≤ n ∧ (n : Int) < 0x100000000 := by omega
  rw [Held.word32At, Held.getAt_value, ok_bind, if_pos fits, Int.toNat_natCast]

lemma SubjectRow.readable_new (name rootPath : String) :
    Readable SubjectRow.record (.new name rootPath now) :=
  fun _ => ⟨_, SubjectRow.record_new⟩

lemma SubjectRow.readable_renamed {r : SubjectRow} (h : Readable SubjectRow.record r)
    (name : String) : Readable SubjectRow.record (r.renamed now name) := by
  intro id
  obtain ⟨x, hx⟩ := h id
  simp only [SubjectRow.record, bind_eq_ok, pure_eq_ok] at hx
  obtain ⟨p, hp, st, hs, c, hc, f, hf, fn, hfn, d, hd, l, hl, a, ha, del, -, cr, hcr, rfl⟩ := hx
  simp [SubjectRow.record, SubjectRow.renamed, pure, Except.pure, *]

lemma SubjectRow.readable_updated {r : SubjectRow} (h : Readable SubjectRow.record r)
    (status : SubjectStatus) (progress : Option Nat) (message : Option String) :
    Readable SubjectRow.record (r.updated now status progress message) := by
  intro id
  obtain ⟨x, hx⟩ := h id
  exact ⟨_, SubjectRow.record_updated hx status progress message⟩

lemma SubjectRow.readable_counted {r : SubjectRow} (h : Readable SubjectRow.record r)
    (stats : SubjectStats) (analyzedAt : Int) :
    Readable SubjectRow.record (r.counted stats analyzedAt) := by
  intro id
  obtain ⟨x, hx⟩ := h id
  exact ⟨_, SubjectRow.record_counted hx stats analyzedAt⟩

lemma CommitRow.readable_new {c : Commit} (fits : (Operation.writeCommit subject c).InRange) :
    Readable CommitRow.record (.new subject c) := by
  obtain ⟨additions, deletions, count, changed⟩ := fits
  intro id
  simp [CommitRow.record, CommitRow.new, (changes_keeps changed).getAt, pure, Except.pure, *]

lemma FileRow.readable_deleted {r : FileRow} (h : Readable FileRow.record r) :
    Readable FileRow.record { r with isDeleted := .value true } := by
  intro id
  obtain ⟨x, hx⟩ := h id
  simp only [FileRow.record, bind_eq_ok, pure_eq_ok] at hx
  obtain ⟨_, hsize, _, hlines, _, himports, _, hexports, -⟩ := hx
  simp [FileRow.record, pure, Except.pure, *]

lemma SymbolRow.readable_new {file seenAt : Int} {y : CodeSymbol} (owner : Int)
    (fits : (Operation.writeSymbol subject file y seenAt).InRange) (path : String) :
    Readable (SymbolRow.record · path) { SymbolRow.new subject file y seenAt with
      subjectId := owner } := by
  have complexity : y.complexity < 0x100000000 := fits
  intro id
  simp [SymbolRow.record, SymbolRow.new, pure, Except.pure, *]

lemma QuestionRow.readable_new {asker text : String} :
    Readable QuestionRow.record (.new subject now asker text) := by
  intro id
  simp [QuestionRow.record, QuestionRow.new, pure, Except.pure]

lemma QuestionRow.readable_updated {r : QuestionRow} (h : Readable QuestionRow.record r) (now : Int)
    (status : QuestionStatus) (message : Option String) :
    Readable QuestionRow.record (r.updated now status message) := by
  intro id
  obtain ⟨x, hx⟩ := h id
  simp only [QuestionRow.record, bind_eq_ok, pure_eq_ok] at hx
  obtain ⟨_, -, c, hc, -⟩ := hx
  simp [QuestionRow.record, QuestionRow.updated, pure, Except.pure, *]

end

/-! ## Whatever is asked -/

theorem legible_empty : Legible empty where
  subjects := Table.all_empty
  commits := Table.all_empty
  files := Table.all_empty
  symbols := Table.all_empty
  edges := Table.all_empty
  questions := Table.all_empty
  questionIds := Table.ordered_empty
  asked := Table.all_empty
  once := by simp [empty, Table.empty, Table.Unique]
  refusals := rfl

variable {s s' : Store} {now : Int} {o : Operation} {r : Except StoreError o.Result}

/-- Questions stay, and may be asked anew. -/
lemma Legible.withQuestions (h : s.Legible) {t : Table QuestionRow}
    (readable : t.All (Readable QuestionRow.record)) (ordered : t.Ordered)
    (kept : ∀ id, s.questions.contains id = true → t.contains id = true) :
    Legible { s with questions := t } :=
  { h with
    questions := readable
    questionIds := ordered
    asked := fun e he => kept _ (h.asked e he) }

lemma Legible.saveAnswer (h : s.Legible) {question : Int} {a : Answer}
    (unanswered : s.answers.findWhere (·.questionId = question) = none)
    (asked : s.questions.contains question = true) :
    Legible { s with answers := s.answers.add (.new now question a) } := by
  have other : ∀ e ∈ s.answers.rows, e.2.questionId ≠ question :=
    fun e he => by simpa using Table.findWhere_eq_none.1 unanswered e he
  exact { h with
    asked := h.asked.add asked
    once := h.once.add other }

/-- Whatever the store says to an operation, its subjects can be read. -/
lemma Answers.readable_subjects (answers : s.Answers now o r s')
    (h : s.subjects.All (Readable SubjectRow.record)) :
    s'.subjects.All (Readable SubjectRow.record) := by
  by_cases writes : o.table? = some .subjects
  · cases o with
    | registerSubject name rootPath =>
      obtain rfl | ⟨-, rfl⟩ | ⟨id, old, found, rfl⟩ := answers.register
      · exact h
      · exact h.add (SubjectRow.readable_new name rootPath)
      · have readable := h _ (Table.mem_of_findWhere found).1
        exact h.set (SubjectRow.readable_renamed readable name)
    | updateStatus id status progress message =>
      obtain ⟨e, -, rfl⟩ | ⟨-, old, found, rfl⟩ := answers.updateStatus
      · exact h
      · exact h.set (SubjectRow.readable_updated (h.find? found) status progress message)
    | saveStats id stats analyzedAt =>
      obtain ⟨e, -, rfl⟩ | ⟨-, ⟨-, rfl⟩ | ⟨old, found, rfl⟩⟩ := answers.saveStats
      · exact h
      · exact h
      · exact h.set (SubjectRow.readable_counted (h.find? found) stats analyzedAt)
    | _ => cases writes
  · rw [answers.sameBut.subjects writes]
    exact h

theorem Legible.answered (h : s.Legible) (fits : o.InRange) (answers : s.Answers now o r s') :
    s'.Legible := by
  have subjects := answers.readable_subjects h.subjects
  cases o with
  | registerSubject name rootPath =>
    obtain rfl | ⟨-, rfl⟩ | ⟨id, old, found, rfl⟩ := answers.register
    · exact h
    · exact { h with subjects := subjects }
    · exact { h with subjects := subjects }
  | updateStatus id status progress message =>
    obtain ⟨e, -, rfl⟩ | ⟨-, old, found, rfl⟩ := answers.updateStatus
    · exact h
    · exact { h with subjects := subjects }
  | saveStats id stats analyzedAt =>
    obtain ⟨e, -, rfl⟩ | ⟨-, ⟨-, rfl⟩ | ⟨old, found, rfl⟩⟩ := answers.saveStats
    · exact h
    · exact h
    · exact { h with subjects := subjects }
  | writeCommit subject c =>
    obtain ⟨e, -, rfl⟩ | ⟨id, t, -, rfl, written⟩ := answers.writeCommit
    · exact h
    · have readable := CommitRow.readable_new fits
      exact { h with commits := h.commits.written written readable fun _ => readable }
  | writeFile subject f imports exports seenAt =>
    obtain ⟨e, -, rfl⟩ | ⟨id, t, -, rfl, written⟩ := answers.writeFile
    · exact h
    · exact { h with
        files := h.files.written written (fun _ => ⟨_, FileRow.record_new⟩)
          fun _ _ => ⟨_, FileRow.record_new⟩ }
  | markUnseen subject seenAt =>
    obtain ⟨e, -, rfl⟩ | ⟨-, rfl⟩ := answers.markUnseen
    · exact h
    · exact { h with files := h.files.update fun _ => FileRow.readable_deleted }
  | writeSymbol subject file y seenAt =>
    obtain ⟨e, -, rfl⟩ | ⟨id, t, -, rfl, written⟩ := answers.writeSymbol
    · exact h
    · exact { h with
        symbols := h.symbols.written written (SymbolRow.readable_new subject fits)
          fun old => SymbolRow.readable_new old.subjectId fits }
  | pruneSymbols subject seenAt =>
    obtain ⟨e, -, rfl⟩ | ⟨-, rfl⟩ := answers.pruneSymbols
    · exact h
    · exact { h with symbols := h.symbols.removeWhere _ }
  | replaceEdges subject edges =>
    obtain ⟨e, -, rfl⟩ | ⟨-, rfl⟩ := answers.replaceEdges
    · exact h
    · refine { h with edges := (h.edges.removeWhere _).addAll fun row hrow => ?_ }
      obtain ⟨e, -, rfl⟩ := List.mem_map.1 hrow
      exact fun _ => ⟨_, EdgeRow.record_new⟩
  | replaceEmbeddings subject embeddings =>
    obtain ⟨e, -, rfl⟩ | ⟨-, kept, rfl, -⟩ := answers.replaceEmbeddings
    · exact h
    · exact { h with }
  | createQuestion subject asker text =>
    obtain ⟨e, -, rfl⟩ | ⟨-, rfl⟩ := answers.createQuestion
    · exact h
    · exact h.withQuestions (h.questions.add QuestionRow.readable_new) (h.questionIds.add _)
        fun id there => h.questionIds.contains_add there
  | updateQuestion id status message =>
    obtain ⟨e, -, rfl⟩ | ⟨-, old, found, rfl⟩ := answers.updateQuestion
    · exact h
    · have readable := QuestionRow.readable_updated (h.questions.find? found) now status message
      exact h.withQuestions (h.questions.set readable) (h.questionIds.set ..) fun id' there =>
        Table.contains_set.trans there
  | saveAnswer question a =>
    obtain ⟨e, -, rfl⟩ | ⟨-, unanswered, asked, rfl⟩ := answers.saveAnswer
    · exact h
    · exact h.saveAnswer unanswered asked
  | _ =>
    obtain rfl := answers.eq_of_reads rfl
    exact h

/-! ## Reading -/

lemma exists_mapM {f : α → Except ε β} {as : List α} (h : ∀ a ∈ as, ∃ b, f a = .ok b) :
    ∃ bs, as.mapM f = .ok bs := by
  induction as with
  | nil => exact ⟨[], rfl⟩
  | cons a as ih =>
    obtain ⟨b, hb⟩ := h a List.mem_cons_self
    obtain ⟨bs, hbs⟩ := ih fun a ha => h a (List.mem_cons_of_mem _ ha)
    exact ⟨b :: bs, by rw [List.mapM_cons, hb, ok_bind, hbs]; rfl⟩

lemma mem_of_mem_symbolRows {p : SymbolRow → Bool} {e : Int × String × SymbolRow}
    (h : e ∈ s.symbolRows p) : (e.1, e.2.2) ∈ s.symbols.rows := by
  have mem := (sorted_perm _).mem_iff.1 h
  obtain ⟨x, hx, hf⟩ := List.mem_filterMap.1 mem
  obtain ⟨f, -, rfl⟩ := Option.map_eq_some_iff.1 hf
  exact (Table.mem_filter.1 hx).1

/-- The rows of a table that are read in some order, as far as they are. -/
lemma Table.All.read {t : Table ρ} {record : Int → ρ → Except StoreError α}
    (h : t.All (Readable record)) {p : ρ → Bool} {rows : List (Int × ρ)}
    (from_table : ∀ e ∈ rows, e ∈ t.filter p) :
    ∃ xs, rows.mapM (fun e => record e.1 e.2) = .ok xs :=
  exists_mapM fun e he => h e (Table.mem_filter.1 (from_table e he)).1 e.1

lemma exists_findSubject (h : s.subjects.All (Readable SubjectRow.record)) (rootPath : String) :
    ∃ found, s.findSubject rootPath = .ok found := by
  unfold findSubject
  split
  next => exact ⟨none, rfl⟩
  next id row found =>
    obtain ⟨x, hx⟩ := h _ (Table.mem_of_findWhere found).1 id
    exact ⟨some x, by rw [hx]; rfl⟩

lemma Legible.exists_getSubject (h : s.Legible) (id : Int) :
    ∃ found, s.getSubject id = .ok found := by
  unfold getSubject
  split
  next => exact ⟨none, rfl⟩
  next row found =>
    obtain ⟨x, hx⟩ := h.subjects.find? found id
    exact ⟨some x, by rw [hx]; rfl⟩

/-- Only embeddings and the history can fail to be read. -/
theorem Legible.read (h : s.Legible) (reads : o.table? = none)
    (embeddings : ∀ subject, o ≠ .listEmbeddings subject)
    (history : ∀ subject asker, o ≠ .listHistory subject asker) (now : Int) :
    ∃ a, s.perform now o = (.ok a, s) := by
  suffices found : ∃ a, (s.perform now o).1 = .ok a by
    obtain ⟨a, ha⟩ := found
    have answers : s.Answers now o _ _ := .performed
    exact ⟨a, Prod.ext ha (answers.eq_of_reads reads)⟩
  cases o with
  | getSubject id => exact h.exists_getSubject id
  | findSubject rootPath => exact exists_findSubject h.subjects rootPath
  | calculateStats => exact ⟨_, rfl⟩
  | listCommits subject limit =>
    exact h.commits.read fun e he => (orderedBy_perm _).mem_iff.1 (mem_of_mem_limited he)
  | searchCommits subject words limit =>
    exact h.commits.read fun e he => (orderedBy_perm _).mem_iff.1 (mem_of_mem_limited he)
  | listFiles subject => exact h.files.read fun e he => (orderedBy_perm _).mem_iff.1 he
  | searchFiles subject pathWords contentWords limit =>
    exact h.files.read fun e he => (orderedBy_perm _).mem_iff.1 (mem_of_mem_limited he)
  | listSymbols subject =>
    exact exists_mapM fun e he => h.symbols _ (mem_of_mem_symbolRows he) e.2.1 e.1
  | searchSymbols subject nameWords codeWords limit =>
    exact exists_mapM fun e he =>
      h.symbols _ (mem_of_mem_symbolRows (mem_of_mem_limited he)) e.2.1 e.1
  | listEdges subject => exact h.edges.read fun e he => he
  | neighborhood subject files symbols limit =>
    exact h.edges.read fun e he => mem_of_mem_limited he
  | listEmbeddings subject => exact absurd rfl (embeddings subject)
  | listHistory subject asker => exact absurd rfl (history subject asker)
  | _ => cases reads

theorem Attained.legible {readings : List Int} (h : Attained readings s) : s.Legible := by
  induction h with
  | empty => exact legible_empty
  | answered before fits answers ih => exact ih.answered fits answers

/-! ## Operations that succeed -/

lemma allow_eq_ok (unrefused : s.refusals = []) {event : RowEvent} {table : TableName}
    {columns : List (Column ρ)} {row : ρ} : s.allow event table columns row = .ok () := by
  simp [allow, unrefused]

lemma perform_createQuestion (unrefused : s.refusals = []) {subject : Int}
    (known : s.subjects.contains subject = true) (asker text : String) :
    s.perform now (.createQuestion subject asker text) =
      (.ok ⟨s.questions.nextId, subject, asker, text, .pending, none, now⟩,
        { s with questions := s.questions.add (.new now subject asker text) }) := by
  have created : s.createQuestion now subject asker text =
      .ok (⟨s.questions.nextId, subject, asker, text, .pending, none, now⟩,
        { s with questions := s.questions.add (.new now subject asker text) }) := by
    simp only [createQuestion, allow_eq_ok unrefused, belongs, known, if_true, ok_bind]
    rfl
  simp only [perform, created, changed]

lemma perform_updateQuestion (unrefused : s.refusals = []) {id : Int} {row : QuestionRow}
    (found : s.questions.find? id = some row) (status : QuestionStatus) :
    s.perform now (.updateQuestion id status none) =
      (.ok (), { s with questions := s.questions.set id (row.updated now status none) }) := by
  have updated : s.updateQuestion now id status none =
      .ok { s with questions := s.questions.set id (row.updated now status none) } := by
    simp only [updateQuestion, found, allow_eq_ok unrefused, ok_bind]
    rfl
  simp only [perform, updated, changedOnly, changed, Except.map]
  rfl

/-- The status of the last question is set. -/
lemma perform_setStatus (unrefused : s.refusals = []) {t : Table QuestionRow} (ordered : t.Ordered)
    {row : QuestionRow} (last : s.questions = t.add row) (status : QuestionStatus) (now : Int) :
    s.perform now (.updateQuestion t.nextId status none) =
      (.ok (), { s with questions := t.add (row.updated now status none) }) := by
  have found : s.questions.find? t.nextId = some row := last ▸ ordered.find?_add row
  rw [perform_updateQuestion unrefused found, last, ordered.set_add]

lemma perform_saveAnswer (unrefused : s.refusals = []) {question : Int} {a : Answer}
    (unanswered : s.answers.findWhere (·.questionId = question) = none)
    (number : a.confidence.isNaN = false) (asked : s.questions.contains question = true)
    (now : Int) :
    s.perform now (.saveAnswer question a) =
      (.ok ⟨s.answers.nextId, question, a, now⟩,
        { s with answers := s.answers.add (.new now question a) }) := by
  have saved : s.saveAnswer now question a =
      .ok (⟨s.answers.nextId, question, a, now⟩,
        { s with answers := s.answers.add (.new now question a) }) := by
    simp [saveAnswer, unanswered, allow_eq_ok unrefused, number, belongs, asked, pure, Except.pure]
  simp only [perform, saved, changed]

/-- The next question has no answer. -/
lemma Legible.unanswered (legible : s.Legible) :
    ∀ e ∈ s.answers.rows, e.2.questionId ≠ s.questions.nextId :=
  fun e he => legible.questionIds.ne_nextId (legible.asked e he)

end CodeAtlas.Store
