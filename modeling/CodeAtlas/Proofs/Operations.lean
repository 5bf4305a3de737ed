import CodeAtlas.Proofs.Execution
import CodeAtlas.Proofs.Tables
import Mathlib.Data.List.Forall2

/-! # What operations do

For each operation that writes, all that it may come to: it fails and the store is what it was, or
it succeeds and one table is changed in a way that is said. -/
namespace CodeAtlas.Store

/-! ## Outcomes -/

theorem bind_eq_ok {x : Except ε α} {f : α → Except ε β} {b : β} :
    (x >>= f) = .ok b ↔ ∃ a, x = .ok a ∧ f a = .ok b := by
  cases x <;> simp [bind, Except.bind]

theorem map_eq_ok {x : Except ε α} {f : α → β} {b : β} :
    x.map f = .ok b ↔ ∃ a, x = .ok a ∧ f a = b := by
  cases x <;> simp [Except.map]

theorem pure_eq_ok {a b : α} : (pure a : Except ε α) = .ok b ↔ a = b := by
  simp [pure, Except.pure]

theorem mapM_eq_ok {f : α → Except ε β} {as : List α} {bs : List β} :
    as.mapM f = .ok bs ↔ List.Forall₂ (fun a b => f a = .ok b) as bs := by
  induction as generalizing bs with
  | nil => cases bs <;> simp [pure, Except.pure]
  | cons a as ih =>
    simp only [List.mapM_cons, bind_eq_ok, ih]
    constructor
    · rintro ⟨b, hb, rest, hrest, h⟩
      cases h
      exact .cons hb hrest
    · rintro (_ | ⟨hb, hrest⟩)
      exact ⟨_, hb, _, hrest, rfl⟩

theorem mem_of_mapM_eq_ok {f : α → Except ε β} {as : List α} {bs : List β}
    (h : as.mapM f = .ok bs) {b : β} : b ∈ bs ↔ ∃ a ∈ as, f a = .ok b := by
  rw [mapM_eq_ok] at h
  induction h with
  | nil => simp
  | @cons a c as bs head tail ih =>
    rw [List.mem_cons, ih]
    constructor
    · rintro (rfl | ⟨a', ha, hb⟩)
      · exact ⟨a, List.mem_cons_self, head⟩
      · exact ⟨a', List.mem_cons_of_mem _ ha, hb⟩
    · rintro ⟨a', ha, hb⟩
      rcases List.mem_cons.1 ha with rfl | ha
      · exact .inl (Except.ok.inj (hb.symm.trans head))
      · exact .inr ⟨a', ha, hb⟩

theorem exists_of_mapM_eq_ok {f : α → Except ε β} {as : List α} {bs : List β}
    (h : as.mapM f = .ok bs) {a : α} (ha : a ∈ as) : ∃ b ∈ bs, f a = .ok b := by
  rw [mapM_eq_ok] at h
  induction h with
  | nil => cases ha
  | cons head tail ih =>
    rcases List.mem_cons.1 ha with rfl | ha
    · exact ⟨_, List.mem_cons_self, head⟩
    · obtain ⟨b, hb, same⟩ := ih ha
      exact ⟨b, List.mem_cons_of_mem _ hb, same⟩

theorem map_of_mapM_eq_ok {f : α → Except ε β} {as : List α} {bs : List β}
    (h : as.mapM f = .ok bs) {g : β → γ} {k : α → γ} (hg : ∀ a b, f a = .ok b → g b = k a) :
    bs.map g = as.map k := by
  rw [mapM_eq_ok] at h
  induction h with
  | nil => rfl
  | cons head tail ih => rw [List.map_cons, List.map_cons, ih, hg _ _ head]

theorem mapM_congr {f g : α → Except ε β} {as : List α} (h : ∀ a ∈ as, f a = g a) :
    as.mapM f = as.mapM g := by
  induction as with
  | nil => rfl
  | cons a as ih =>
    rw [List.mapM_cons, List.mapM_cons, h a List.mem_cons_self,
      ih fun a ha => h a (List.mem_cons_of_mem _ ha)]

theorem belongs_eq_ok {present : Bool} {u : Unit} : belongs present = .ok u ↔ present = true := by
  cases present <;> simp [belongs]

variable {s s' : Store} {now : Int}

/-- A change happens as a whole or not at all. -/
theorem Answers.of_changed {o : Operation} {r : Except StoreError o.Result}
    {x : Except StoreError (o.Result × Store)} (hx : s.perform now o = s.changed x)
    (h : s.Answers now o r s') :
    (∃ e, r = .error e ∧ s' = s) ∨ ∃ a, r = .ok a ∧ x = .ok (a, s') := by
  cases h with
  | failed e => exact .inl ⟨e, rfl, rfl⟩
  | performed =>
    rw [hx]
    cases x with
    | error e => exact .inl ⟨e, rfl, rfl⟩
    | ok out => exact .inr ⟨out.1, rfl, rfl⟩

/-- An operation that fails leaves the store as it was, but that a new subject may not be read. -/
theorem Answers.eq_of_error {o : Operation} {e : StoreError} (h : s.Answers now o (.error e) s')
    (known : ∀ name rootPath, o ≠ .registerSubject name rootPath) : s' = s := by
  have whole : ∀ {α : Type} {x : Except StoreError (α × Store)},
      (s.changed x).1 = .error e → (s.changed x).2 = s := by
    intro α x hx
    cases x with
    | error => rfl
    | ok => cases hx
  generalize hr : Except.error e = r at h
  cases h with
  | failed => rfl
  | performed =>
    cases o with
    | registerSubject name rootPath => exact absurd rfl (known name rootPath)
    | updateStatus | saveStats | writeCommit | writeFile | markUnseen | writeSymbol | pruneSymbols
    | replaceEdges | replaceEmbeddings | createQuestion | updateQuestion | saveAnswer =>
      exact whole hr.symm
    | _ => rfl

/-! ## Subjects -/

/-- The row of a subject with a status, and with a progress and a message if they are given. -/
def SubjectRow.updated (r : SubjectRow) (now : Int) (status : SubjectStatus)
    (progress : Option Nat) (message : Option String) : SubjectRow :=
  { r with
    status := subjectStatus.write status
    progress := (progress.map fun n => .value (Int.ofNat n)).getD r.progress
    statusMessage := message <|> r.statusMessage
    updatedAt := .value now }

theorem Answers.updateStatus {id : Int} {status : SubjectStatus} {progress : Option Nat}
    {message : Option String} {r : Except StoreError Unit}
    (h : s.Answers now (.updateStatus id status progress message) r s') :
    (∃ e, r = .error e ∧ s' = s) ∨ r = .ok () ∧ ∃ old, s.subjects.find? id = some old ∧
      s' = { s with subjects := s.subjects.set id (old.updated now status progress message) } := by
  rcases Answers.of_changed (o := .updateStatus id status progress message) rfl h with
    failed | ⟨⟨⟩, hr, hx⟩
  · exact .inl failed
  · obtain ⟨_, hs, hout⟩ := map_eq_ok.1 hx
    cases hout
    refine .inr ⟨hr, ?_⟩
    unfold Store.updateStatus at hs
    split at hs
    next => cases hs
    next old found =>
      obtain ⟨-, -, hs⟩ := bind_eq_ok.1 hs
      exact ⟨old, found, (pure_eq_ok.1 hs).symm⟩

/-- The row of a subject that is named again. -/
def SubjectRow.renamed (r : SubjectRow) (now : Int) (name : String) : SubjectRow :=
  { r with name := name, isDeleted := .value false, updatedAt := .value now }

theorem Answers.register {name rootPath : String}
    {r : Except StoreError (Operation.Result (.registerSubject name rootPath))}
    (h : s.Answers now (.registerSubject name rootPath) r s') :
    s' = s ∨
      (s.subjects.findWhere (·.rootPath = rootPath) = none ∧
        s' = { s with subjects := s.subjects.add (.new name rootPath now) }) ∨
      ∃ id old, s.subjects.findWhere (·.rootPath = rootPath) = some (id, old) ∧
        s' = { s with subjects := (s.subjects.set id (old.renamed now name)).skipId } := by
  cases h with
  | failed e => exact .inl rfl
  | performed =>
    have written : ∀ out, s.writeSubject now name rootPath = .ok out →
        (s.subjects.findWhere (·.rootPath = rootPath) = none ∧
          out.2 = { s with subjects := s.subjects.add (.new name rootPath now) }) ∨
        ∃ id old, s.subjects.findWhere (·.rootPath = rootPath) = some (id, old) ∧
          out.2 = { s with subjects := (s.subjects.set id (old.renamed now name)).skipId } := by
      intro out hout
      obtain ⟨-, -, hout⟩ := bind_eq_ok.1 hout
      split at hout
      next id old found =>
        obtain ⟨-, -, hout⟩ := bind_eq_ok.1 hout
        cases pure_eq_ok.1 hout
        exact .inr ⟨id, old, found, rfl⟩
      next missing =>
        cases pure_eq_ok.1 hout
        exact .inl ⟨missing, rfl⟩
    simp only [Store.perform, Store.registerSubject]
    split
    · exact .inl rfl
    next id v hv => split <;> exact .inr (written _ hv)

/-- The row of a subject with the counts of an analysis. -/
def SubjectRow.counted (r : SubjectRow) (stats : SubjectStats) (analyzedAt : Int) : SubjectRow :=
  { r with
    totalCommits := .value (columnInt stats.totalCommits)
    totalFiles := .value (columnInt stats.totalFiles)
    totalFunctions := .value (columnInt stats.totalFunctions)
    totalDependencies := .value (columnInt stats.totalDependencies)
    languages := strings.write stats.languages
    lastAnalyzedAt := some (.value analyzedAt)
    updatedAt := .value analyzedAt }

theorem Answers.saveStats {id : Int} {stats : SubjectStats} {analyzedAt : Int}
    {r : Except StoreError Unit} (h : s.Answers now (.saveStats id stats analyzedAt) r s') :
    (∃ e, r = .error e ∧ s' = s) ∨ r = .ok () ∧ (s.subjects.find? id = none ∧ s' = s ∨
      ∃ old, s.subjects.find? id = some old ∧
        s' = { s with subjects := s.subjects.set id (old.counted stats analyzedAt) }) := by
  rcases Answers.of_changed (o := .saveStats id stats analyzedAt) rfl h with
    failed | ⟨⟨⟩, hr, hx⟩
  · exact .inl failed
  · obtain ⟨_, hs, hout⟩ := map_eq_ok.1 hx
    cases hout
    refine .inr ⟨hr, ?_⟩
    unfold Store.saveStats at hs
    split at hs
    next missing => exact .inl ⟨missing, (pure_eq_ok.1 hs).symm⟩
    next old found =>
      obtain ⟨-, -, hs⟩ := bind_eq_ok.1 hs
      exact .inr ⟨old, found, (pure_eq_ok.1 hs).symm⟩

/-! ## Commits, files and symbols -/

/-- A number in a column has 64 bits and a sign. -/
def Held.InWord (h : Held Int) : Prop :=
  ∀ n, h = .value n → -0x8000000000000000 ≤ n ∧ n < 0x8000000000000000

theorem Held.inWord_columnInt (n : Nat) : (Held.value (columnInt n)).InWord := by
  rintro _ ⟨⟩
  unfold columnInt
  dsimp only
  split <;> omega

/-- Writing a row under a key. The row that has the key becomes another; if there is none, a new row
is added, which must belong to one that is there. -/
inductive Table.Written (t : Table ρ) (key : ρ → Bool) (merge : ρ → ρ) (new : ρ) (home : Bool)
    (id : Int) : Table ρ → Prop
  | replaced (old : ρ) (found : t.findWhere key = some (id, old)) :
      Written t key merge new home id (t.set id (merge old)).skipId
  | added (missing : t.findWhere key = none) (present : home = true) (next : id = t.nextId) :
      Written t key merge new home id (t.add new)

theorem Answers.writeCommit {subject : Int} {c : Commit} {r : Except StoreError Int}
    (h : s.Answers now (.writeCommit subject c) r s') :
    (∃ e, r = .error e ∧ s' = s) ∨ ∃ id t, r = .ok id ∧ s' = { s with commits := t } ∧
      s.commits.Written (fun r => r.subjectId = subject && r.hash = c.hash)
        (fun _ => .new subject c) (.new subject c) (s.subjects.contains subject) id t := by
  rcases Answers.of_changed (o := .writeCommit subject c) rfl h with failed | ⟨id, hr, hx⟩
  · exact .inl failed
  · refine .inr ⟨id, s'.commits, hr, ?_⟩
    obtain ⟨-, -, hx⟩ := bind_eq_ok.1 hx
    split at hx
    next old found =>
      obtain ⟨-, -, hx⟩ := bind_eq_ok.1 hx
      cases pure_eq_ok.1 hx
      exact ⟨rfl, .replaced _ found⟩
    next missing =>
      obtain ⟨_, present, hx⟩ := bind_eq_ok.1 hx
      cases pure_eq_ok.1 hx
      exact ⟨rfl, .added missing (belongs_eq_ok.1 present) rfl⟩

theorem Answers.writeFile {subject : Int} {f : SourceFile} {imports exports : List String}
    {seenAt : Int} {r : Except StoreError Int}
    (h : s.Answers now (.writeFile subject f imports exports seenAt) r s') :
    (∃ e, r = .error e ∧ s' = s) ∨ ∃ id t, r = .ok id ∧ s' = { s with files := t } ∧
      s.files.Written (fun r => r.subjectId = subject && r.path = f.path)
        (fun _ => .new subject f imports exports seenAt) (.new subject f imports exports seenAt)
        (s.subjects.contains subject) id t := by
  rcases Answers.of_changed (o := .writeFile subject f imports exports seenAt) rfl h with
    failed | ⟨id, hr, hx⟩
  · exact .inl failed
  · refine .inr ⟨id, s'.files, hr, ?_⟩
    obtain ⟨-, -, hx⟩ := bind_eq_ok.1 hx
    split at hx
    next old found =>
      obtain ⟨-, -, hx⟩ := bind_eq_ok.1 hx
      cases pure_eq_ok.1 hx
      exact ⟨rfl, .replaced _ found⟩
    next missing =>
      obtain ⟨_, present, hx⟩ := bind_eq_ok.1 hx
      cases pure_eq_ok.1 hx
      exact ⟨rfl, .added missing (belongs_eq_ok.1 present) rfl⟩

theorem Answers.markUnseen {subject seenAt : Int} {r : Except StoreError Nat}
    (h : s.Answers now (.markUnseen subject seenAt) r s') :
    (∃ e, r = .error e ∧ s' = s) ∨ (∃ n, r = .ok n) ∧
      s' = { s with files := s.files.update (·.isUnseen subject seenAt) fun r =>
        { r with isDeleted := .value true } } := by
  rcases Answers.of_changed (o := .markUnseen subject seenAt) rfl h with failed | ⟨n, hr, hx⟩
  · exact .inl failed
  · obtain ⟨-, -, hx⟩ := bind_eq_ok.1 hx
    cases pure_eq_ok.1 hx
    exact .inr ⟨⟨_, hr⟩, rfl⟩

theorem Answers.writeSymbol {subject file : Int} {y : CodeSymbol} {seenAt : Int}
    {r : Except StoreError Int} (h : s.Answers now (.writeSymbol subject file y seenAt) r s') :
    (∃ e, r = .error e ∧ s' = s) ∨ ∃ id t, r = .ok id ∧ s' = { s with symbols := t } ∧
      s.symbols.Written (fun r => r.fileId = file && r.name = y.name &&
          r.startLine = .value (columnInt y.startLine))
        (fun old => { SymbolRow.new subject file y seenAt with subjectId := old.subjectId })
        (.new subject file y seenAt) (s.subjects.contains subject && s.files.contains file)
        id t := by
  rcases Answers.of_changed (o := .writeSymbol subject file y seenAt) rfl h with
    failed | ⟨id, hr, hx⟩
  · exact .inl failed
  · refine .inr ⟨id, s'.symbols, hr, ?_⟩
    obtain ⟨-, -, hx⟩ := bind_eq_ok.1 hx
    split at hx
    next old found =>
      obtain ⟨-, -, hx⟩ := bind_eq_ok.1 hx
      cases pure_eq_ok.1 hx
      exact ⟨rfl, .replaced _ found⟩
    next missing =>
      obtain ⟨_, present, hx⟩ := bind_eq_ok.1 hx
      cases pure_eq_ok.1 hx
      exact ⟨rfl, .added missing (belongs_eq_ok.1 present) rfl⟩

theorem Answers.pruneSymbols {subject seenAt : Int} {r : Except StoreError Nat}
    (h : s.Answers now (.pruneSymbols subject seenAt) r s') :
    (∃ e, r = .error e ∧ s' = s) ∨ (∃ n, r = .ok n) ∧
      s' = { s with symbols := s.symbols.removeWhere fun r =>
        r.subjectId = subject && !r.lastSeenAt.holds seenAt } := by
  rcases Answers.of_changed (o := .pruneSymbols subject seenAt)
    (x := .ok (s.pruneSymbols subject seenAt)) rfl h with failed | ⟨n, hr, hx⟩
  · exact .inl failed
  · cases hx
    exact .inr ⟨⟨_, hr⟩, rfl⟩

/-! ## Edges and embeddings -/

theorem eq_of_foldlM_addEdge {subject : Int} {edges : List Edge}
    (h : edges.foldlM (fun s e => s.addEdge subject e) s = .ok s') :
    s' = { s with edges := s.edges.addAll (edges.map (EdgeRow.new subject)) } := by
  induction edges generalizing s with
  | nil => exact (pure_eq_ok.1 h).symm
  | cons e rest ih =>
    rw [List.foldlM_cons] at h
    obtain ⟨v, hv, h⟩ := bind_eq_ok.1 h
    obtain ⟨-, -, hv⟩ := bind_eq_ok.1 hv
    obtain ⟨-, -, hv⟩ := bind_eq_ok.1 hv
    cases pure_eq_ok.1 hv
    exact ih h

theorem Answers.replaceEdges {subject : Int} {edges : List Edge} {r : Except StoreError Nat}
    (h : s.Answers now (.replaceEdges subject edges) r s') :
    (∃ e, r = .error e ∧ s' = s) ∨ (∃ n, r = .ok n) ∧
      s' = { s with
        edges := (s.edges.removeWhere (·.subjectId = subject)).addAll
          (edges.map (EdgeRow.new subject)) } := by
  rcases Answers.of_changed (o := .replaceEdges subject edges) rfl h with failed | ⟨n, hr, hx⟩
  · exact .inl failed
  · obtain ⟨v, hv, hx⟩ := bind_eq_ok.1 hx
    cases pure_eq_ok.1 hx
    exact .inr ⟨⟨_, hr⟩, eq_of_foldlM_addEdge hv⟩

/-- Whether an embedding can be written for a subject. -/
def takesEmbedding (s : Store) (subject now : Int) (e : Embedding) : Bool :=
  (s.allow .insert .embeddings EmbeddingRow.columns (.new subject now e)).isOk &&
    s.subjects.contains subject

theorem addEmbedding_eq_ok_iff {subject : Int} {e : Embedding} :
    s.addEmbedding subject now e = .ok s' ↔ s.takesEmbedding subject now e = true ∧
      s' = { s with embeddings := s.embeddings.add (.new subject now e) } := by
  simp only [addEmbedding, takesEmbedding, bind_eq_ok, pure_eq_ok, Bool.and_eq_true]
  constructor
  · rintro ⟨⟨⟩, allowed, ⟨⟩, present, rfl⟩
    exact ⟨⟨by rw [allowed]; rfl, belongs_eq_ok.1 present⟩, rfl⟩
  · rintro ⟨⟨allowed, present⟩, rfl⟩
    refine ⟨(), ?_, (), belongs_eq_ok.2 present, rfl⟩
    cases h : s.allow .insert .embeddings EmbeddingRow.columns (.new subject now e) with
    | ok => rfl
    | error => rw [h] at allowed; cases allowed

/-- One embedding after another is added, unless it cannot be written, and those are counted. -/
theorem foldl_addEmbedding (subject now : Int) (embeddings : List Embedding) (n : Nat)
    (s : Store) :
    embeddings.foldl (fun state e =>
        match state.2.addEmbedding subject now e with
        | .ok s => (state.1 + 1, s)
        | .error _ => state) (n, s) =
      (n + (embeddings.filter (s.takesEmbedding subject now)).length,
        { s with
          embeddings := s.embeddings.addAll
            ((embeddings.filter (s.takesEmbedding subject now)).map (.new subject now)) }) := by
  induction embeddings generalizing n s with
  | nil => rfl
  | cons e rest ih =>
    rw [List.foldl_cons]
    split
    next v hv =>
      obtain ⟨takes, rfl⟩ := addEmbedding_eq_ok_iff.1 hv
      rw [ih, List.filter_cons_of_pos takes, List.length_cons, Nat.add_right_comm]
      rfl
    next hv =>
      have refused : ¬ s.takesEmbedding subject now e = true := fun takes => by
        rw [addEmbedding_eq_ok_iff.2 ⟨takes, rfl⟩] at hv
        cases hv
      rw [ih, List.filter_cons_of_neg refused]

theorem replaceEmbeddings_eq (s : Store) (subject now : Int) (embeddings : List Embedding) :
    s.replaceEmbeddings subject now embeddings =
      ((embeddings.filter (s.takesEmbedding subject now)).length,
        { s with
          embeddings := (s.embeddings.removeWhere (·.subjectId = subject)).addAll
            ((embeddings.filter (s.takesEmbedding subject now)).map (.new subject now)) }) := by
  refine (foldl_addEmbedding subject now embeddings 0 _).trans ?_
  rw [Nat.zero_add]
  rfl

/-- No row of an embedding is to be refused. -/
def TakesEmbeddings (s : Store) : Prop :=
  ∀ r ∈ s.refusals, ¬ (r.table = .embeddings ∧ r.event = .insert)

theorem TakesEmbeddings.takesEmbedding (h : s.TakesEmbeddings) {subject : Int} {e : Embedding}
    (present : s.subjects.contains subject = true) : s.takesEmbedding subject now e = true := by
  have allowed :
      s.allow .insert .embeddings EmbeddingRow.columns (.new subject now e) = .ok () := by
    refine if_neg ?_
    simp only [Bool.not_eq_true, List.any_eq_false, Bool.and_eq_true, not_and]
    intro r hr hkind
    exact absurd (by simpa using hkind) (h r hr)
  rw [Store.takesEmbedding, allowed, present]
  rfl

theorem Answers.replaceEmbeddings {subject : Int} {embeddings : List Embedding}
    {r : Except StoreError Nat} (h : s.Answers now (.replaceEmbeddings subject embeddings) r s') :
    (∃ e, r = .error e ∧ s' = s) ∨ (∃ n, r = .ok n) ∧ ∃ kept,
      s' = { s with
        embeddings := (s.embeddings.removeWhere (·.subjectId = subject)).addAll
          (kept.map (EmbeddingRow.new subject now)) } ∧
      (s.TakesEmbeddings → s.subjects.contains subject = true → kept = embeddings) := by
  rcases Answers.of_changed (o := .replaceEmbeddings subject embeddings)
    (x := .ok (s.replaceEmbeddings subject now embeddings)) rfl h with failed | ⟨n, hr, hx⟩
  · exact .inl failed
  · rw [replaceEmbeddings_eq] at hx
    cases hx
    exact .inr ⟨⟨_, hr⟩, _, rfl, fun takes present =>
      List.filter_eq_self.2 fun e _ => takes.takesEmbedding present⟩

/-! ## What an operation leaves alone -/

/-- The table that an operation writes. -/
@[simp] def Operation.table? : Operation → Option TableName
  | registerSubject .. | updateStatus .. | saveStats .. => some .subjects
  | writeCommit .. => some .commits
  | writeFile .. | markUnseen .. => some .files
  | writeSymbol .. | pruneSymbols .. => some .symbols
  | replaceEdges .. => some .edges
  | replaceEmbeddings .. => some .embeddings
  | createQuestion .. | updateQuestion .. => some .questions
  | saveAnswer .. => some .answers
  | _ => none

/-- All tables but one, and the rows to refuse, are the same. -/
structure SameBut (table? : Option TableName) (s s' : Store) : Prop where
  subjects : table? ≠ some .subjects → s'.subjects = s.subjects
  commits : table? ≠ some .commits → s'.commits = s.commits
  files : table? ≠ some .files → s'.files = s.files
  symbols : table? ≠ some .symbols → s'.symbols = s.symbols
  edges : table? ≠ some .edges → s'.edges = s.edges
  embeddings : table? ≠ some .embeddings → s'.embeddings = s.embeddings
  questions : table? ≠ some .questions → s'.questions = s.questions
  answers : table? ≠ some .answers → s'.answers = s.answers
  refusals : s'.refusals = s.refusals

theorem SameBut.refl (table? : Option TableName) (s : Store) : SameBut table? s s := by
  constructor <;> intros <;> rfl

theorem SameBut.eq (h : SameBut none s s') : s' = s := by
  obtain ⟨subjects, commits, files, symbols, edges, embeddings, questions, answers, refusals⟩ := h
  cases s
  cases s'
  simp_all

theorem writeSubject_sameBut {name rootPath : String} {id : Int}
    (h : s.writeSubject now name rootPath = .ok (id, s')) : SameBut (some .subjects) s s' := by
  obtain ⟨-, -, h⟩ := bind_eq_ok.1 h
  split at h
  · obtain ⟨-, -, h⟩ := bind_eq_ok.1 h
    cases pure_eq_ok.1 h
    constructor <;> simp
  · cases pure_eq_ok.1 h
    constructor <;> simp

theorem registerSubject_sameBut {name rootPath : String} :
    SameBut (some .subjects) s (s.registerSubject now name rootPath).2 := by
  unfold registerSubject
  split
  · exact .refl _ _
  next id v hv => split <;> exact writeSubject_sameBut hv

theorem Answers.createQuestion {subject : Int} {asker text : String}
    {r : Except StoreError Question} (h : s.Answers now (.createQuestion subject asker text) r s') :
    (∃ e, r = .error e ∧ s' = s) ∨
      r = .ok ⟨s.questions.nextId, subject, asker, text, .pending, none, now⟩ ∧
      s' = { s with questions := s.questions.add (.new now subject asker text) } := by
  rcases Answers.of_changed (o := .createQuestion subject asker text) rfl h with
    failed | ⟨q, hr, hx⟩
  · exact .inl failed
  · obtain ⟨-, -, hx⟩ := bind_eq_ok.1 hx
    obtain ⟨-, -, hx⟩ := bind_eq_ok.1 hx
    cases pure_eq_ok.1 hx
    exact .inr ⟨hr, rfl⟩

theorem Answers.updateQuestion {id : Int} {status : QuestionStatus} {message : Option String}
    {r : Except StoreError Unit} (h : s.Answers now (.updateQuestion id status message) r s') :
    (∃ e, r = .error e ∧ s' = s) ∨ r = .ok () ∧ ∃ old, s.questions.find? id = some old ∧
      s' = { s with questions := s.questions.set id (old.updated now status message) } := by
  rcases Answers.of_changed (o := .updateQuestion id status message) rfl h with
    failed | ⟨⟨⟩, hr, hx⟩
  · exact .inl failed
  · obtain ⟨_, hs, hout⟩ := map_eq_ok.1 hx
    cases hout
    refine .inr ⟨hr, ?_⟩
    unfold Store.updateQuestion at hs
    split at hs
    next => cases hs
    next old found =>
      obtain ⟨-, -, hs⟩ := bind_eq_ok.1 hs
      exact ⟨old, found, (pure_eq_ok.1 hs).symm⟩

theorem Answers.saveAnswer {question : Int} {a : Answer} {r : Except StoreError StoredAnswer}
    (h : s.Answers now (.saveAnswer question a) r s') :
    (∃ e, r = .error e ∧ s' = s) ∨ r = .ok ⟨s.answers.nextId, question, a, now⟩ ∧
      s.answers.findWhere (·.questionId = question) = none ∧
      s.questions.contains question = true ∧
      s' = { s with answers := s.answers.add (.new now question a) } := by
  rcases Answers.of_changed (o := .saveAnswer question a) rfl h with failed | ⟨stored, hr, hx⟩
  · exact .inl failed
  · simp only [Store.saveAnswer] at hx
    split at hx
    · cases hx
    next unanswered =>
      obtain ⟨-, -, hx⟩ := bind_eq_ok.1 hx
      split at hx
      · cases hx
      · obtain ⟨_, present, hx⟩ := bind_eq_ok.1 hx
        cases pure_eq_ok.1 hx
        exact .inr ⟨hr, by simpa using unanswered, belongs_eq_ok.1 present, rfl⟩

/-- An operation changes no table but its own. -/
theorem Answers.sameBut {o : Operation} {r : Except StoreError o.Result}
    (h : s.Answers now o r s') : SameBut o.table? s s' := by
  cases o with
  | registerSubject =>
    cases h with
    | performed => exact registerSubject_sameBut
    | failed => exact .refl _ _
  | updateStatus =>
    rcases h.updateStatus with ⟨-, -, rfl⟩ | ⟨-, -, -, rfl⟩ <;> constructor <;> simp
  | saveStats =>
    rcases h.saveStats with ⟨-, -, rfl⟩ | ⟨-, ⟨-, rfl⟩ | ⟨-, -, rfl⟩⟩ <;> constructor <;>
      simp
  | writeCommit =>
    rcases h.writeCommit with ⟨-, -, rfl⟩ | ⟨-, -, -, rfl, -⟩ <;> constructor <;>
      simp
  | writeFile =>
    rcases h.writeFile with ⟨-, -, rfl⟩ | ⟨-, -, -, rfl, -⟩ <;> constructor <;>
      simp
  | markUnseen =>
    rcases h.markUnseen with ⟨-, -, rfl⟩ | ⟨-, rfl⟩ <;> constructor <;> simp
  | writeSymbol =>
    rcases h.writeSymbol with ⟨-, -, rfl⟩ | ⟨-, -, -, rfl, -⟩ <;> constructor <;>
      simp
  | pruneSymbols =>
    rcases h.pruneSymbols with ⟨-, -, rfl⟩ | ⟨-, rfl⟩ <;> constructor <;> simp
  | replaceEdges =>
    rcases h.replaceEdges with ⟨-, -, rfl⟩ | ⟨-, rfl⟩ <;> constructor <;> simp
  | replaceEmbeddings =>
    rcases h.replaceEmbeddings with ⟨-, -, rfl⟩ | ⟨-, -, rfl, -⟩ <;> constructor <;>
      simp
  | createQuestion =>
    rcases h.createQuestion with ⟨-, -, rfl⟩ | ⟨-, rfl⟩ <;> constructor <;>
      simp
  | updateQuestion =>
    rcases h.updateQuestion with ⟨-, -, rfl⟩ | ⟨-, -, -, rfl⟩ <;> constructor <;>
      simp
  | saveAnswer =>
    rcases h.saveAnswer with ⟨-, -, rfl⟩ | ⟨-, -, -, rfl⟩ <;> constructor <;> simp
  | _ => cases h <;> exact .refl _ _

/-- An operation that writes no table changes nothing. -/
theorem Answers.eq_of_reads {o : Operation} {r : Except StoreError o.Result}
    (h : s.Answers now o r s') (reads : o.table? = none) : s' = s := by
  have same := h.sameBut
  rw [reads] at same
  exact same.eq

end CodeAtlas.Store
