import CodeAtlas.Proofs.Operations

/-! # Sound stores

Numbers and keys are given once, files belong to subjects, symbols belong to files of their own
subject, and what is counted has room in 64 bits. Operations keep this, and what they write for one
subject is not seen by another. -/
namespace CodeAtlas.Store

/-! ## Written rows -/

namespace Table

variable {t t' : Table ρ} {key : ρ → Bool} {merge : ρ → ρ} {new : ρ} {home : Bool} {id : Int}

/-- No two rows have the same key. -/
def Unique (t : Table ρ) (k : ρ → κ) : Prop :=
  ∀ e ∈ t.rows, ∀ e' ∈ t.rows, k e.2 = k e'.2 → e = e'

lemma Unique.of_subset {k : ρ → κ} (h : t.Unique k) (sub : ∀ e ∈ t'.rows, e ∈ t.rows) :
    t'.Unique k :=
  fun e he e' he' => h e (sub e he) e' (sub e' he')

lemma Unique.add {k : ρ → κ} (h : t.Unique k) {row : ρ} (free : ∀ e ∈ t.rows, k e.2 ≠ k row) :
    (t.add row).Unique k := by
  intro e he e' he' same
  rcases mem_add.1 he with he | rfl <;> rcases mem_add.1 he' with he' | rfl
  · exact h e he e' he' same
  · exact absurd same (free e he)
  · exact absurd same.symm (free e' he')
  · rfl

/-- A row that keeps its key may change. -/
lemma Unique.set {k : ρ → κ} (h : t.Unique k) (ordered : t.Ordered) {old row : ρ}
    (mem : (id, old) ∈ t.rows) (same : k row = k old) : (t.set id row).Unique k := by
  have before : ∀ e ∈ (t.set id row).rows, ∃ e' ∈ t.rows, e'.1 = e.1 ∧ k e'.2 = k e.2 := by
    intro e he
    rcases mem_set.1 he with ⟨he, -⟩ | ⟨rfl, -⟩
    · exact ⟨e, he, rfl, rfl⟩
    · exact ⟨_, mem, rfl, same.symm⟩
  intro e he d hd keys
  obtain ⟨e', he', hid, hk⟩ := before e he
  obtain ⟨d', hd', hid', hk'⟩ := before d hd
  have ids : e.1 = d.1 := by
    rw [← hid, ← hid', h e' he' d' hd' (hk.trans (keys.trans hk'.symm))]
  have there : (e.1, d.2) ∈ (t.set id row).rows := ids ▸ hd
  exact Prod.ext ids ((ordered.set id row).eq_of_id he there)

lemma Written.ordered (h : t.Written key merge new home id t') (ordered : t.Ordered) :
    t'.Ordered := by
  cases h with
  | replaced old found => exact (ordered.set ..).skipId
  | added => exact ordered.add _

/-- Writing puts one row in its place and leaves the others. -/
lemma Written.mem (h : t.Written key merge new home id t') (ordered : t.Ordered) :
    ∃ row, ((∃ old, (id, old) ∈ t.rows ∧ key old = true ∧ row = merge old) ∨
        row = new ∧ home = true ∧ id = t.nextId ∧ ∀ e ∈ t.rows, key e.2 = false) ∧
      ∀ e, e ∈ t'.rows ↔ (e ∈ t.rows ∧ e.1 ≠ id) ∨ e = (id, row) := by
  cases h with
  | replaced old found =>
    obtain ⟨mem, hkey⟩ := mem_of_findWhere found
    refine ⟨merge old, .inl ⟨old, mem, hkey, rfl⟩, fun e => ?_⟩
    rw [rows_skipId, mem_set]
    simp only [and_iff_left (show ∃ old, (id, old) ∈ t.rows from ⟨old, mem⟩)]
  | added missing present next =>
    refine ⟨new, .inr ⟨rfl, present, next, findWhere_eq_none.1 missing⟩, fun e => ?_⟩
    rw [mem_add, next]
    refine or_congr_left ⟨fun he => ⟨he, fun heq => ?_⟩, And.left⟩
    exact ordered.not_mem_nextId e.2 (heq ▸ he)

/-- The row that is written over is the one that has the key. -/
lemma Written.key_iff {k : ρ → κ} (h : t.Written key merge new home id t') (ordered : t.Ordered)
    (unique : t.Unique k) (hkey : ∀ r, key r = true ↔ k r = k new) {e : Int × ρ}
    (he : e ∈ t.rows) : key e.2 = true ↔ e.1 = id := by
  obtain ⟨row, ⟨old, hold, hkold, -⟩ | ⟨-, -, next, missing⟩, -⟩ := h.mem ordered
  · constructor
    · intro same
      have keys : k e.2 = k old := ((hkey _).1 same).trans ((hkey old).1 hkold).symm
      exact congrArg Prod.fst (unique e he (id, old) hold keys)
    · rintro rfl
      rwa [ordered.eq_of_id he hold]
  · constructor
    · intro same
      rw [missing e he] at same
      cases same
    · rintro rfl
      exact absurd (next ▸ he) (ordered.not_mem_nextId e.2)

lemma Written.unique {k : ρ → κ} (h : t.Written key merge new home id t') (ordered : t.Ordered)
    (unique : t.Unique k) (hkey : ∀ r, key r = true ↔ k r = k new)
    (hmerge : ∀ r, key r = true → k (merge r) = k new) : t'.Unique k := by
  obtain ⟨row, hrow, mem⟩ := h.mem ordered
  have hk : k row = k new := by
    rcases hrow with ⟨old, -, hold, rfl⟩ | ⟨rfl, -⟩
    · exact hmerge old hold
    · rfl
  -- another row with the key of the written one would have been replaced itself
  have alone : ∀ e ∈ t.rows, e.1 ≠ id → k e.2 ≠ k new :=
    fun e he hne same => hne ((h.key_iff ordered unique hkey he).1 ((hkey _).2 same))
  intro e he e' he' same
  rcases (mem e).1 he with ⟨he, hne⟩ | rfl <;> rcases (mem e').1 he' with ⟨he', hne'⟩ | rfl
  · exact unique e he e' he' same
  · exact absurd (same.trans hk) (alone e he hne)
  · exact absurd (same.symm.trans hk) (alone e' he' hne')
  · rfl

/-- Rows of another kind are left as they are. -/
lemma Written.filter_eq {p : ρ → Bool} (h : t.Written key merge new home id t')
    (ordered : t.Ordered)
    (hkey : ∀ e ∈ t.rows, key e.2 = true → p e.2 = false ∧ p (merge e.2) = false)
    (hnew : p new = false) : t'.filter p = t.filter p := by
  cases h with
  | replaced old found =>
    obtain ⟨mem, hold⟩ := mem_of_findWhere found
    obtain ⟨before, after⟩ := hkey _ mem hold
    rw [filter_skipId, filter_set after fun old' hold' => ?_]
    rwa [ordered.eq_of_id hold' mem]
  | added => exact filter_add hnew

end Table

/-! ## Swept files -/

/-- A file after those that were not seen were marked as deleted. -/
def FileRow.swept (subject seenAt : Int) (r : FileRow) : FileRow :=
  if r.isUnseen subject seenAt then { r with isDeleted := .value true } else r

section

variable {subject seenAt : Int} {r : FileRow}

lemma FileRow.isUnseen_iff : r.isUnseen subject seenAt = true ↔
    r.subjectId = subject ∧ r.isDeleted = .value false ∧ r.lastSeenAt ≠ .value seenAt := by
  simp [FileRow.isUnseen, Held.holds, and_assoc]

@[simp] lemma FileRow.swept_subjectId : (r.swept subject seenAt).subjectId = r.subjectId := by
  unfold FileRow.swept
  split <;> rfl

@[simp] lemma FileRow.swept_path : (r.swept subject seenAt).path = r.path := by
  unfold FileRow.swept
  split <;> rfl

@[simp] lemma FileRow.swept_lastSeenAt : (r.swept subject seenAt).lastSeenAt = r.lastSeenAt := by
  unfold FileRow.swept
  split <;> rfl

@[simp] lemma FileRow.swept_lineCount : (r.swept subject seenAt).lineCount = r.lineCount := by
  unfold FileRow.swept
  split <;> rfl

/-- All files after those that were not seen were marked as deleted. -/
def sweptFiles (s : Store) (subject seenAt : Int) : Table FileRow :=
  s.files.update (·.isUnseen subject seenAt) fun r => { r with isDeleted := .value true }

lemma mem_sweptFiles {s : Store} {e : Int × FileRow} :
    e ∈ (s.sweptFiles subject seenAt).rows ↔
      ∃ old, (e.1, old) ∈ s.files.rows ∧ e.2 = old.swept subject seenAt := by
  rw [sweptFiles, Table.mem_update]
  constructor
  · rintro (⟨he, seen⟩ | ⟨old, hold, unseen, heq⟩)
    · exact ⟨e.2, he, by simp [FileRow.swept, seen]⟩
    · exact ⟨old, hold, by simp [FileRow.swept, unseen, heq]⟩
  · rintro ⟨old, hold, heq⟩
    by_cases unseen : old.isUnseen subject seenAt = true
    · exact .inr ⟨old, hold, unseen, by simpa [FileRow.swept, unseen] using heq⟩
    · simp only [FileRow.swept, unseen, Bool.false_eq_true, if_false] at heq
      subst heq
      exact .inl ⟨hold, by simpa using unseen⟩

end

/-! ## Sound stores -/

/-- What all that is stored satisfies, however far an analysis has got. -/
structure Sound (s : Store) : Prop where
  subjectIds : s.subjects.Ordered
  commitIds : s.commits.Ordered
  fileIds : s.files.Ordered
  symbolIds : s.symbols.Ordered
  present : ∀ e ∈ s.subjects.rows, e.2.isDeleted = .value false
  roots : s.subjects.Unique SubjectRow.rootPath
  commitKeys : s.commits.Unique fun r => (r.subjectId, r.hash)
  fileKeys : s.files.Unique fun r => (r.subjectId, r.path)
  fileHomes : ∀ e ∈ s.files.rows, s.subjects.contains e.2.subjectId = true
  symbolKeys : s.symbols.Unique fun r => (r.fileId, r.name, r.startLine)
  symbolHomes : ∀ e ∈ s.symbols.rows, ∃ f,
    s.files.find? e.2.fileId = some f ∧ f.subjectId = e.2.subjectId
  commitTimes : ∀ e ∈ s.commits.rows, e.2.timestamp.InWord
  fileLines : ∀ e ∈ s.files.rows, e.2.lineCount.InWord
  symbolLines : ∀ e ∈ s.symbols.rows, e.2.startLine.InWord ∧ e.2.endLine.InWord

theorem sound_empty (refusals : List Refusal) : Sound { empty with refusals } where
  subjectIds := Table.ordered_empty
  commitIds := Table.ordered_empty
  fileIds := Table.ordered_empty
  symbolIds := Table.ordered_empty
  present := by simp [empty, Table.empty]
  roots := by simp [empty, Table.empty, Table.Unique]
  commitKeys := by simp [empty, Table.empty, Table.Unique]
  fileKeys := by simp [empty, Table.empty, Table.Unique]
  fileHomes := by simp [empty, Table.empty]
  symbolKeys := by simp [empty, Table.empty, Table.Unique]
  symbolHomes := by simp [empty, Table.empty]
  commitTimes := by simp [empty, Table.empty]
  fileLines := by simp [empty, Table.empty]
  symbolLines := by simp [empty, Table.empty]

/-- What an operation relies on: a symbol is written to a file of its subject, the root of a new
subject is not yet taken, and the time of a commit has 64 bits. -/
def Operation.Fits (s : Store) : Operation → Prop
  | writeCommit _ c => (Held.value c.timestamp).InWord
  | writeSymbol subject file .. => ∃ f, s.files.find? file = some f ∧ f.subjectId = subject
  | registerSubject _ rootPath => ∀ e ∈ s.subjects.rows, e.2.rootPath ≠ rootPath
  | _ => True

variable {s s' : Store} {now : Int}

namespace Sound

lemma of_eq (h : s.Sound) (subjects : s'.subjects = s.subjects) (commits : s'.commits = s.commits)
    (files : s'.files = s.files) (symbols : s'.symbols = s.symbols) : s'.Sound := by
  obtain ⟨h1, h2, h3, h4, h5, h6, h7, h8, h9, h10, h11, h12, h13, h14⟩ := h
  constructor <;> (try rw [subjects]) <;> (try rw [commits]) <;> (try rw [files]) <;>
    (try rw [symbols]) <;> assumption

lemma withSubjects (h : s.Sound) {t : Table SubjectRow} (ordered : t.Ordered)
    (present : ∀ e ∈ t.rows, e.2.isDeleted = .value false)
    (roots : t.Unique SubjectRow.rootPath)
    (kept : ∀ id, s.subjects.contains id = true → t.contains id = true) :
    Sound { s with subjects := t } :=
  { h with
    subjectIds := ordered
    present := present
    roots := roots
    fileHomes := fun e he => kept _ (h.fileHomes e he) }

lemma setSubject (h : s.Sound) {id : Int} {old row : SubjectRow}
    (found : s.subjects.find? id = some old) (same : row.isDeleted = old.isDeleted)
    (root : row.rootPath = old.rootPath) :
    Sound { s with subjects := s.subjects.set id row } := by
  have mem := h.subjectIds.find?_eq_some.1 found
  refine h.withSubjects (h.subjectIds.set ..) (fun e he => ?_)
    (h.roots.set h.subjectIds mem root) fun id' hid => ?_
  · rcases Table.mem_set.1 he with ⟨he, -⟩ | ⟨rfl, -⟩
    · exact h.present e he
    · exact same.trans (h.present _ mem)
  · simp only [Table.contains, Table.find?_set] at hid ⊢
    split
    · simp [found]
    · exact hid

lemma withFiles (h : s.Sound) {t : Table FileRow} (ordered : t.Ordered)
    (keys : t.Unique fun r => (r.subjectId, r.path))
    (homes : ∀ e ∈ t.rows, s.subjects.contains e.2.subjectId = true)
    (kept : ∀ id f, s.files.find? id = some f →
      ∃ f', t.find? id = some f' ∧ f'.subjectId = f.subjectId)
    (lines : ∀ e ∈ t.rows, e.2.lineCount.InWord) :
    Sound { s with files := t } := by
  refine { h with
    fileIds := ordered
    fileKeys := keys
    fileHomes := homes
    symbolHomes := ?_
    fileLines := lines }
  intro e he
  obtain ⟨f, found, home⟩ := h.symbolHomes e he
  obtain ⟨f', found', same⟩ := kept _ f found
  exact ⟨f', found', same.trans home⟩

lemma withSymbols (h : s.Sound) {t : Table SymbolRow} (ordered : t.Ordered)
    (keys : t.Unique fun r => (r.fileId, r.name, r.startLine))
    (homes : ∀ e ∈ t.rows, ∃ f, s.files.find? e.2.fileId = some f ∧ f.subjectId = e.2.subjectId)
    (lines : ∀ e ∈ t.rows, e.2.startLine.InWord ∧ e.2.endLine.InWord) :
    Sound { s with symbols := t } :=
  { h with symbolIds := ordered, symbolKeys := keys, symbolHomes := homes, symbolLines := lines }

end Sound

theorem Answers.registerSubject {name rootPath : String}
    {r : Except StoreError (Operation.Result (.registerSubject name rootPath))}
    (free : ∀ e ∈ s.subjects.rows, e.2.rootPath ≠ rootPath)
    (h : s.Answers now (.registerSubject name rootPath) r s') :
    s' = s ∨ s' = { s with subjects := s.subjects.add (.new name rootPath now) } := by
  obtain same | ⟨-, added⟩ | ⟨id, old, found, -⟩ := h.register
  · exact .inl same
  · exact .inr added
  · obtain ⟨mem, taken⟩ := Table.mem_of_findWhere found
    exact absurd (by simpa using taken) (free _ mem)

namespace Sound

section

variable {subject : Int} {f : SourceFile} {imports exports : List String} {seenAt id : Int}
  {t : Table FileRow}

/-- The row of a file that is written, and the other rows. -/
lemma mem_writeFile (h : s.Sound)
    (written : s.files.Written (fun r => r.subjectId = subject && r.path = f.path)
      (fun _ => .new subject f imports exports seenAt) (.new subject f imports exports seenAt)
      (s.subjects.contains subject) id t) (e : Int × FileRow) :
    e ∈ t.rows ↔ (e ∈ s.files.rows ∧ e.1 ≠ id) ∨
      e = (id, .new subject f imports exports seenAt) := by
  obtain ⟨row, ⟨-, -, -, rfl⟩ | ⟨rfl, -⟩, mem⟩ := written.mem h.fileIds <;> exact mem e

/-- The row that is written over is the one of the subject and the path. -/
lemma key_writeFile (h : s.Sound)
    (written : s.files.Written (fun r => r.subjectId = subject && r.path = f.path)
      (fun _ => .new subject f imports exports seenAt) (.new subject f imports exports seenAt)
      (s.subjects.contains subject) id t) {e : Int × FileRow} (he : e ∈ s.files.rows) :
    (e.2.subjectId = subject ∧ e.2.path = f.path) ↔ e.1 = id := by
  have keys := written.key_iff h.fileIds h.fileKeys (by simp [FileRow.new]) he
  simpa using keys

/-- No file that was there goes away or to another subject. -/
lemma keep_writeFile (h : s.Sound)
    (written : s.files.Written (fun r => r.subjectId = subject && r.path = f.path)
      (fun _ => .new subject f imports exports seenAt) (.new subject f imports exports seenAt)
      (s.subjects.contains subject) id t) {id' : Int} {old : FileRow}
    (found : s.files.find? id' = some old) :
    ∃ f', t.find? id' = some f' ∧ f'.subjectId = old.subjectId := by
  have mem := h.mem_writeFile written
  have ordered := written.ordered h.fileIds
  have hold := h.fileIds.find?_eq_some.1 found
  by_cases hid : id' = id
  · subst hid
    exact ⟨_, ordered.find?_eq_some.2 ((mem _).2 (.inr rfl)),
      ((h.key_writeFile written hold).2 rfl).1.symm⟩
  · exact ⟨old, ordered.find?_eq_some.2 ((mem _).2 (.inl ⟨hold, hid⟩)), rfl⟩

lemma writeFile (h : s.Sound)
    (written : s.files.Written (fun r => r.subjectId = subject && r.path = f.path)
      (fun _ => .new subject f imports exports seenAt) (.new subject f imports exports seenAt)
      (s.subjects.contains subject) id t) :
    Sound { s with files := t } := by
  have mem := h.mem_writeFile written
  have ordered := written.ordered h.fileIds
  have home : s.subjects.contains subject = true := by
    obtain ⟨row, ⟨old, hold, -, -⟩ | ⟨-, present, -⟩, -⟩ := written.mem h.fileIds
    · exact ((h.key_writeFile written hold).2 rfl).1 ▸ h.fileHomes _ hold
    · exact present
  refine h.withFiles ordered ?_ (fun e he => ?_) (fun _ _ => h.keep_writeFile written)
    fun e he => ?_
  · refine written.unique h.fileIds h.fileKeys (fun r => ?_) fun _ _ => rfl
    simp [FileRow.new]
  · rcases (mem e).1 he with ⟨he, -⟩ | rfl
    · exact h.fileHomes e he
    · exact home
  · rcases (mem e).1 he with ⟨he, -⟩ | rfl
    · exact h.fileLines e he
    · exact Held.inWord_columnInt f.lineCount

end

section

variable {subject seenAt : Int}

lemma keep_markUnseen (h : s.Sound) {id : Int} {old : FileRow}
    (found : s.files.find? id = some old) :
    ∃ f, (s.sweptFiles subject seenAt).find? id = some f ∧ f.subjectId = old.subjectId := by
  have ordered : (s.sweptFiles subject seenAt).Ordered := h.fileIds.update ..
  have mem := h.fileIds.find?_eq_some.1 found
  exact ⟨_, ordered.find?_eq_some.2 (mem_sweptFiles.2 ⟨old, mem, rfl⟩), FileRow.swept_subjectId⟩

lemma markUnseen (h : s.Sound) : Sound { s with files := s.sweptFiles subject seenAt } := by
  have ordered : (s.sweptFiles subject seenAt).Ordered := h.fileIds.update ..
  refine h.withFiles ordered (fun e he e' he' same => ?_) (fun e he => ?_)
    (fun _ _ => h.keep_markUnseen) fun e he => ?_
  · obtain ⟨old, hold, heq⟩ := mem_sweptFiles.1 he
    obtain ⟨old', hold', heq'⟩ := mem_sweptFiles.1 he'
    simp only [heq, heq', FileRow.swept_subjectId, FileRow.swept_path] at same
    have once : (e.1, old) = (e'.1, old') := h.fileKeys _ hold _ hold' same
    have ids : e.1 = e'.1 := (Prod.ext_iff.1 once).1
    have same_id : (e.1, e'.2) ∈ (s.sweptFiles subject seenAt).rows := ids ▸ he'
    exact Prod.ext ids (ordered.eq_of_id he same_id)
  · obtain ⟨old, hold, heq⟩ := mem_sweptFiles.1 he
    rw [heq, FileRow.swept_subjectId]
    exact h.fileHomes _ hold
  · obtain ⟨old, hold, heq⟩ := mem_sweptFiles.1 he
    rw [heq, FileRow.swept_lineCount]
    exact h.fileLines _ hold

end

lemma writeSymbol (h : s.Sound) {subject file : Int} {y : CodeSymbol} {seenAt id : Int}
    {t : Table SymbolRow} (fits : (Operation.writeSymbol subject file y seenAt).Fits s)
    (written : s.symbols.Written (fun r => r.fileId = file && r.name = y.name &&
        r.startLine = .value (columnInt y.startLine))
      (fun old => { SymbolRow.new subject file y seenAt with subjectId := old.subjectId })
      (.new subject file y seenAt) (s.subjects.contains subject && s.files.contains file) id t) :
    Sound { s with symbols := t } := by
  obtain ⟨row, hrow, mem⟩ := written.mem h.symbolIds
  refine h.withSymbols (written.ordered h.symbolIds) ?_ (fun e he => ?_) fun e he => ?_
  · refine written.unique h.symbolIds h.symbolKeys (fun r => ?_) fun _ _ => rfl
    simp [SymbolRow.new, and_assoc]
  · rcases (mem e).1 he with ⟨he, -⟩ | rfl
    · exact h.symbolHomes e he
    · rcases hrow with ⟨old, hold, hkey, rfl⟩ | ⟨rfl, -⟩
      · simp only [Bool.and_eq_true, decide_eq_true_eq] at hkey
        obtain ⟨f, found, home⟩ := h.symbolHomes _ hold
        exact ⟨f, hkey.1.1 ▸ found, home⟩
      · exact fits
  · rcases (mem e).1 he with ⟨he, -⟩ | rfl
    · exact h.symbolLines e he
    · rcases hrow with ⟨old, -, -, rfl⟩ | ⟨rfl, -⟩ <;>
        exact ⟨Held.inWord_columnInt y.startLine, Held.inWord_columnInt y.endLine⟩

lemma removeSymbols (h : s.Sound) (p : SymbolRow → Bool) :
    Sound { s with symbols := s.symbols.removeWhere p } :=
  h.withSymbols (h.symbolIds.removeWhere p)
    (h.symbolKeys.of_subset fun _ he => (Table.mem_removeWhere.1 he).1)
    (fun e he => h.symbolHomes e (Table.mem_removeWhere.1 he).1)
    fun e he => h.symbolLines e (Table.mem_removeWhere.1 he).1

/-- An operation that fits leaves a sound store sound. -/
theorem answers (h : s.Sound) {o : Operation} {r : Except StoreError o.Result} (fits : o.Fits s)
    (answers : s.Answers now o r s') : s'.Sound := by
  have same := answers.sameBut
  cases o with
  | registerSubject name rootPath =>
    rcases answers.registerSubject fits with rfl | rfl
    · exact h
    · refine h.withSubjects (h.subjectIds.add _) (fun e he => ?_) (h.roots.add fits)
        fun id hid => h.subjectIds.contains_add hid
      rcases Table.mem_add.1 he with he | rfl
      · exact h.present e he
      · rfl
  | updateStatus =>
    rcases answers.updateStatus with ⟨-, -, rfl⟩ | ⟨-, old, found, rfl⟩
    · exact h
    · exact h.setSubject found rfl rfl
  | saveStats =>
    rcases answers.saveStats with ⟨-, -, rfl⟩ | ⟨-, ⟨-, rfl⟩ | ⟨old, found, rfl⟩⟩
    · exact h
    · exact h
    · exact h.setSubject found rfl rfl
  | writeCommit =>
    rcases answers.writeCommit with ⟨-, -, rfl⟩ | ⟨id, t, -, rfl, written⟩
    · exact h
    · obtain ⟨row, hrow, mem⟩ := written.mem h.commitIds
      refine { h with
        commitIds := written.ordered h.commitIds
        commitKeys := written.unique h.commitIds h.commitKeys (fun r => ?_) fun _ _ => rfl
        commitTimes := fun e he => ?_ }
      · simp [CommitRow.new]
      · rcases (mem e).1 he with ⟨he, -⟩ | rfl
        · exact h.commitTimes e he
        · rcases hrow with ⟨old, -, -, rfl⟩ | ⟨rfl, -⟩ <;> exact fits
  | writeFile =>
    rcases answers.writeFile with ⟨-, -, rfl⟩ | ⟨id, t, -, rfl, written⟩
    · exact h
    · exact h.writeFile written
  | markUnseen =>
    rcases answers.markUnseen with ⟨-, -, rfl⟩ | ⟨-, rfl⟩
    · exact h
    · exact h.markUnseen
  | writeSymbol =>
    rcases answers.writeSymbol with ⟨-, -, rfl⟩ | ⟨id, t, -, rfl, written⟩
    · exact h
    · exact h.writeSymbol fits written
  | pruneSymbols =>
    rcases answers.pruneSymbols with ⟨-, -, rfl⟩ | ⟨-, rfl⟩
    · exact h
    · exact h.removeSymbols _
  | _ =>
    exact h.of_eq (same.subjects (by simp)) (same.commits (by simp)) (same.files (by simp))
      (same.symbols (by simp))

end Sound

/-! ## One subject and another -/

/-- All that is stored of a subject is the same. -/
structure SameFor (b : Int) (s s' : Store) : Prop where
  subject : s'.subjects.find? b = s.subjects.find? b
  commits : s'.commits.filter (·.subjectId = b) = s.commits.filter (·.subjectId = b)
  files : s'.files.filter (·.subjectId = b) = s.files.filter (·.subjectId = b)
  symbols : s'.symbols.filter (·.subjectId = b) = s.symbols.filter (·.subjectId = b)
  edges : s'.edges.filter (·.subjectId = b) = s.edges.filter (·.subjectId = b)
  embeddings : s'.embeddings.filter (·.subjectId = b) = s.embeddings.filter (·.subjectId = b)

/-- The subject that an operation writes something of. -/
@[simp] def Operation.subject? : Operation → Option Int
  | updateStatus id .. | saveStats id .. => some id
  | writeCommit subject .. | writeFile subject .. | markUnseen subject .. | writeSymbol subject ..
  | pruneSymbols subject .. | replaceEdges subject .. | replaceEmbeddings subject .. =>
      some subject
  | _ => none

variable {b : Int}

lemma SameFor.refl (b : Int) (s : Store) : SameFor b s s := ⟨rfl, rfl, rfl, rfl, rfl, rfl⟩

lemma SameFor.trans {s'' : Store} (h : SameFor b s s') (h' : SameFor b s' s'') : SameFor b s s'' :=
  ⟨h'.1.trans h.1, h'.2.trans h.2, h'.3.trans h.3, h'.4.trans h.4, h'.5.trans h.5, h'.6.trans h.6⟩

/-- A new subject leaves all others as they are. -/
lemma Sound.sameFor_addSubject (h : s.Sound) {row : SubjectRow}
    (there : s.subjects.contains b = true) :
    SameFor b s { s with subjects := s.subjects.add row } := by
  refine ⟨?_, rfl, rfl, rfl, rfl, rfl⟩
  obtain ⟨old, found⟩ := Option.isSome_iff_exists.1 there
  rw [found]
  exact (h.subjectIds.add _).find?_eq_some.2
    (Table.mem_add.2 (.inl (h.subjectIds.find?_eq_some.1 found)))

namespace Table

variable {t t' : Table ρ} {home : ρ → Int} {subject : Int} {p : ρ → Bool} {f : ρ → ρ}

lemma Written.filter_other {new : ρ} {present : Bool} {id : Int}
    (h : t.Written p f new present id t') (ordered : t.Ordered) (hne : subject ≠ b)
    (old : ∀ e ∈ t.rows, p e.2 = true → home e.2 = subject ∧ home (f e.2) = subject)
    (hnew : home new = subject) : t'.filter (home · = b) = t.filter (home · = b) := by
  refine h.filter_eq ordered (fun e he hp => ?_) ?_
  · obtain ⟨before, after⟩ := old e he hp
    simp [before, after, hne]
  · simp [hnew, hne]

lemma filter_update_other (hne : subject ≠ b)
    (hp : ∀ r, p r = true → home r = subject ∧ home (f r) = subject) :
    (t.update p f).filter (home · = b) = t.filter (home · = b) := by
  refine filter_update (fun r hr => ?_) fun r hr => ?_
  · simp [(hp r hr).1, hne]
  · simp [(hp r hr).2, hne]

lemma filter_removeWhere_other (hne : subject ≠ b) (hp : ∀ r, p r = true → home r = subject) :
    (t.removeWhere p).filter (home · = b) = t.filter (home · = b) :=
  filter_removeWhere fun r hr => by simp [hp r hr, hne]

/-- All rows of a subject are replaced by others. -/
lemma filter_replaced_other (hne : subject ≠ b) {rows : List ρ}
    (new : ∀ r ∈ rows, home r = subject) :
    ((t.removeWhere (home · = subject)).addAll rows).filter (home · = b) =
      t.filter (home · = b) := by
  refine (filter_addAll fun r hr => ?_).trans (filter_removeWhere_other hne fun r hr => ?_)
  · simp [new r hr, hne]
  · simpa using hr

end Table

/-- What is written for one subject is not seen by another. -/
theorem Answers.sameFor {o : Operation} {r : Except StoreError o.Result}
    (answers : s.Answers now o r s') (h : s.Sound) (fits : o.Fits s)
    (known : ∀ name rootPath, o ≠ .registerSubject name rootPath) (other : o.subject? ≠ some b) :
    SameFor b s s' := by
  have same := answers.sameBut
  have foreign : ∀ {subject}, o.subject? = some subject → subject ≠ b := by
    rintro subject hs rfl
    exact other hs
  cases o with
  | registerSubject name rootPath => exact absurd rfl (known name rootPath)
  | updateStatus id =>
    rcases answers.updateStatus with ⟨-, -, rfl⟩ | ⟨-, old, found, rfl⟩
    · exact .refl b _
    · exact ⟨by simp [Table.find?_set, (foreign rfl).symm], rfl, rfl, rfl, rfl, rfl⟩
  | saveStats id =>
    rcases answers.saveStats with ⟨-, -, rfl⟩ | ⟨-, ⟨-, rfl⟩ | ⟨old, found, rfl⟩⟩
    · exact .refl b _
    · exact .refl b _
    · exact ⟨by simp [Table.find?_set, (foreign rfl).symm], rfl, rfl, rfl, rfl, rfl⟩
  | writeCommit subject =>
    rcases answers.writeCommit with ⟨-, -, rfl⟩ | ⟨id, t, -, rfl, written⟩
    · exact .refl b _
    · refine ⟨rfl, written.filter_other h.commitIds (foreign rfl) (fun e _ hkey => ?_) rfl, rfl,
        rfl, rfl, rfl⟩
      simp only [Bool.and_eq_true, decide_eq_true_eq] at hkey
      exact ⟨hkey.1, rfl⟩
  | writeFile subject =>
    rcases answers.writeFile with ⟨-, -, rfl⟩ | ⟨id, t, -, rfl, written⟩
    · exact .refl b _
    · refine ⟨rfl, rfl, written.filter_other h.fileIds (foreign rfl) (fun e _ hkey => ?_) rfl, rfl,
        rfl, rfl⟩
      simp only [Bool.and_eq_true, decide_eq_true_eq] at hkey
      exact ⟨hkey.1, rfl⟩
  | markUnseen subject seenAt =>
    rcases answers.markUnseen with ⟨-, -, rfl⟩ | ⟨-, rfl⟩
    · exact .refl b _
    · refine ⟨rfl, rfl, Table.filter_update_other (foreign rfl) fun r hr => ?_, rfl, rfl, rfl⟩
      have home := (FileRow.isUnseen_iff.1 hr).1
      exact ⟨home, home⟩
  | writeSymbol subject file =>
    obtain ⟨f, found, home⟩ := fits
    rcases answers.writeSymbol with ⟨-, -, rfl⟩ | ⟨id, t, -, rfl, written⟩
    · exact .refl b _
    · refine ⟨rfl, rfl, rfl, written.filter_other h.symbolIds (foreign rfl) (fun e he hkey => ?_)
        rfl, rfl, rfl⟩
      -- the row that is replaced belongs to the same file, and so to the same subject
      simp only [Bool.and_eq_true, decide_eq_true_eq] at hkey
      obtain ⟨f', found', home'⟩ := h.symbolHomes e he
      rw [hkey.1.1] at found'
      cases found.symm.trans found'
      exact ⟨home'.symm.trans home, home'.symm.trans home⟩
  | pruneSymbols subject seenAt =>
    rcases answers.pruneSymbols with ⟨-, -, rfl⟩ | ⟨-, rfl⟩
    · exact .refl b _
    · refine ⟨rfl, rfl, rfl, Table.filter_removeWhere_other (foreign rfl) fun r hr => ?_, rfl, rfl⟩
      simp only [Bool.and_eq_true, decide_eq_true_eq] at hr
      exact hr.1
  | replaceEdges subject edges =>
    rcases answers.replaceEdges with ⟨-, -, rfl⟩ | ⟨-, rfl⟩
    · exact .refl b _
    · refine ⟨rfl, rfl, rfl, rfl, Table.filter_replaced_other (foreign rfl) fun r hr => ?_, rfl⟩
      obtain ⟨e, -, rfl⟩ := List.mem_map.1 hr
      rfl
  | replaceEmbeddings subject embeddings =>
    rcases answers.replaceEmbeddings with ⟨-, -, rfl⟩ | ⟨-, kept, rfl, -⟩
    · exact .refl b _
    · refine ⟨rfl, rfl, rfl, rfl, rfl, Table.filter_replaced_other (foreign rfl) fun r hr => ?_⟩
      obtain ⟨e, -, rfl⟩ := List.mem_map.1 hr
      rfl
  | _ =>
    exact ⟨by rw [same.subjects (by simp)], by rw [same.commits (by simp)],
      by rw [same.files (by simp)], by rw [same.symbols (by simp)], by rw [same.edges (by simp)],
      by rw [same.embeddings (by simp)]⟩

namespace SameFor

lemma getSubject (h : SameFor b s s') : s'.getSubject b = s.getSubject b := by
  simp only [Store.getSubject, h.subject]

lemma listFiles (h : SameFor b s s') : s'.listFiles b = s.listFiles b := by
  simp only [Store.listFiles, Table.filter_and, h.files]

lemma listCommits (h : SameFor b s s') (limit : Nat) :
    s'.listCommits b limit = s.listCommits b limit := by
  simp only [Store.listCommits, h.commits]

lemma listEdges (h : SameFor b s s') : s'.listEdges b = s.listEdges b := by
  simp only [Store.listEdges, h.edges]

lemma listEmbeddings (h : SameFor b s s') : s'.listEmbeddings b = s.listEmbeddings b := by
  simp only [Store.listEmbeddings, h.embeddings]

lemma calculateStats (h : SameFor b s s') : s'.calculateStats b = s.calculateStats b := by
  simp only [Store.calculateStats, Table.filter_and, h.commits, h.files, h.symbols, h.edges]

/-- The file of a symbol is found in both stores, since it is of the same subject. -/
lemma find_file (h : SameFor b s s') (sound : s.Sound) (sound' : s'.Sound) {e : Int × SymbolRow}
    (he : e ∈ s.symbols.filter (·.subjectId = b)) :
    s'.files.find? e.2.fileId = s.files.find? e.2.fileId := by
  obtain ⟨mem, hb⟩ := Table.mem_filter.1 he
  obtain ⟨f, found, home⟩ := sound.symbolHomes e mem
  rw [found]
  refine sound.fileIds.find?_eq_of_filter_eq sound'.fileIds h.files found ?_
  rw [home]
  exact hb

lemma listSymbols (h : SameFor b s s') (sound : s.Sound) (sound' : s'.Sound) :
    s'.listSymbols b = s.listSymbols b := by
  simp only [Store.listSymbols, symbolRows, h.symbols]
  rw [List.filterMap_congr fun e he => by rw [h.find_file sound sound' he]]

end SameFor

end CodeAtlas.Store
