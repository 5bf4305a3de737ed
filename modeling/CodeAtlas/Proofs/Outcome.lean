import CodeAtlas.Proofs.Rewriting
import CodeAtlas.Proofs.Stages

/-! # What a run has written

A run that succeeds has tried all commits of the history, all files of the working tree and all
symbols of the files that it has stored. Each takes the number of the row that has its key. -/
namespace CodeAtlas

open Store (Operation CommitRow FileRow SymbolRow Table)

namespace Event

def triedCommit? (e : Event) : Option Commit :=
  match e.operation with
  | .writeCommit _ c => some c
  | _ => none

def savedCommit? : Event → Option (Int × Commit)
  | ⟨.writeCommit _ c, .ok id, _⟩ => some (id, c)
  | _ => none

end Event

/-- The commits that were stored, with their numbers. -/
def savedCommits (trace : List Event) : List (Int × Commit) := trace.filterMap Event.savedCommit?

/-! ## Keys -/

def Store.CommitRow.key (r : CommitRow) : Int × String := (r.subjectId, r.hash)

def Store.FileRow.key (r : FileRow) : Int × String := (r.subjectId, r.path)

def Store.SymbolRow.key (r : SymbolRow) : Int × String × Store.Held Int :=
  (r.fileId, r.name, r.startLine)

/-- The key of a commit of a subject. -/
def commitKey (a : Int) (c : Commit) : Int × String := (a, c.hash)

/-- The key of a file of a subject. -/
def fileKey (a : Int) (f : SourceFile) : Int × String := (a, f.path)

/-- The key of a symbol of a file. -/
def symbolKey (y : Int × CodeSymbol) : Int × String × Store.Held Int :=
  (y.1, y.2.name, .value (Store.columnInt y.2.startLine))

/-- The hash of a commit that was stored. -/
def savedHash (x : Int × Commit) : String := x.2.hash

namespace Analysis

variable {a m t : Int} {w : World} {o : Operation} {r : Except StoreError o.Result} {s : Store}

/-! ## Commits -/

/-- Commits were tried, and those that were stored are in the table. -/
structure Committed (a : Int) (t₀ : Table CommitRow) (tried : List Commit) (w : World) : Prop where
  tried_eq : w.trace.filterMap Event.triedCommit? = tried
  rewrites : t₀.Rewrites CommitRow.key (commitKey a) (savedCommits w.trace) w.store.commits
  overlays : t₀.Overlays (CommitRow.new a) savedHash (savedCommits w.trace) w.store.commits

lemma savedCommits_answered {q : Operation} {r : Except StoreError q.Result}
    (silent : Event.savedCommit? ⟨q, r, s⟩ = none) :
    savedCommits (w.answered t q r s).trace = savedCommits w.trace := by
  simp [savedCommits, filterMap_answered, silent]

lemma Committed.congr {t₀ : Table CommitRow} {tried : List Commit} (h : Committed a t₀ tried w)
    {v : World}
    (tried_eq : v.trace.filterMap Event.triedCommit? = w.trace.filterMap Event.triedCommit?)
    (saved : savedCommits v.trace = savedCommits w.trace)
    (commits : v.store.commits = w.store.commits) : Committed a t₀ tried v := by
  refine ⟨tried_eq.trans h.tried_eq, ?_, ?_⟩
  · rw [saved, commits]
    exact h.rewrites
  · rw [saved, commits]
    exact h.overlays

lemma about_commits {t₀ : Table CommitRow} {tried : List Commit} :
    About .commits (Committed a t₀ tried) where
  read _ _ h _ := h.congr rfl rfl rfl
  answered w t o r s h other answers := by
    have silent : Event.triedCommit? ⟨o, r, s⟩ = none ∧ Event.savedCommit? ⟨o, r, s⟩ = none := by
      cases o with
      | writeCommit => exact absurd rfl other
      | _ => exact ⟨rfl, rfl⟩
    refine h.congr ?_ (savedCommits_answered silent.2) (answers.sameBut.commits other)
    simp [filterMap_answered, silent.1]

lemma key_iff_new {c : Commit} (r : CommitRow) :
    (r.subjectId = a && r.hash = c.hash) = true ↔ r.key = (CommitRow.new a c).key := by
  simp [CommitRow.key, CommitRow.new]

/-- A commit is tried, and if it is stored it has the number of its hash. -/
lemma Committed.write {t₀ : Table CommitRow} {tried : List Commit} (h : Committed a t₀ tried w)
    {c : Commit} {r : Except StoreError (Operation.Result (.writeCommit a c))}
    (answers : w.store.Answers t (.writeCommit a c) r s) :
    Committed a t₀ (tried ++ [c]) (w.answered t (.writeCommit a c) r s) := by
  have saved : savedCommits (w.answered t (.writeCommit a c) r s).trace =
      savedCommits w.trace ++ idOf c r := by
    rw [savedCommits, filterMap_answered]
    cases r <;> rfl
  refine ⟨by simp [filterMap_answered, h.tried_eq, Event.triedCommit?], ?_, ?_⟩ <;> rw [saved] <;>
    obtain ⟨e, rfl, rfl⟩ | ⟨id, u, rfl, rfl, written⟩ := answers.writeCommit
  · rw [idOf, List.append_nil]
    exact h.rewrites
  · exact h.rewrites.write written key_iff_new (fun _ _ => rfl) rfl
  · rw [idOf, List.append_nil]
    exact h.overlays
  · obtain ⟨row, hrow, mem⟩ := written.mem h.rewrites.ordered
    obtain rfl : row = .new a c := by
      rcases hrow with ⟨-, -, -, rfl⟩ | ⟨rfl, -⟩ <;> rfl
    refine h.overlays.write mem fun e he y row => ?_
    rw [← written.key_iff h.rewrites.ordered h.rewrites.unique key_iff_new he, key_iff_new, row]
    simp [savedHash, CommitRow.key, CommitRow.new]

variable {disk : Disk} {root : String} {services : Inference.Services} {options : AnalysisOptions}

lemma stages_commit {subject : Subject} {t₀ : Table CommitRow} (h : Committed subject.id t₀ [] w) :
    EnsuresOr (fun _ _ => True)
      (fun _ v => Committed subject.id t₀ (historyAt disk subject.rootPath options.maxCommits) v)
      (fun _ _ => True) (stages disk services subject options) w := by
  have loop : ∀ reached v, Committed subject.id t₀ [] v → EnsuresOr (fun _ _ => True)
      (fun _ v => Committed subject.id t₀ (historyAt disk subject.rootPath options.maxCommits) v)
      (fun _ _ => True) (commitStage disk subject.rootPath subject.id options reached) v := by
    intro reached v hv
    refine (report_leaves about_commits hv).bind fun _ v hv => ?_
    refine EnsuresOr.bind (.of_lift (saveCommits_ensures (J := Committed subject.id t₀) _
      (fun _ _ _ _ _ => trivial) (fun _ _ _ _ _ _ _ h _ answers => h.write answers) [] hv))
      fun _ v hv => ?_
    exact report_leaves about_commits hv
  refine (report_leaves about_commits h).bind fun reached v hv => ?_
  refine (loop reached v hv).bind fun _ v hv => (fileStage_writes.leaves about_commits hv).bind
    fun ⟨_, _, _⟩ v hv => (symbolStage_writes.leaves about_commits hv).bind fun _ v hv =>
    (edgeStage_writes.leaves about_commits hv).bind fun ⟨_, _, _⟩ v hv =>
    (embeddingStage_writes.leaves about_commits hv).bind fun _ v hv =>
    finalStage_writes.leaves about_commits hv

/-! ## Files -/

lemma savedFile_silent (o : Operation) (r : Except StoreError o.Result) (s : Store)
    (other : o.table? ≠ some .files) : Event.savedFile? ⟨o, r, s⟩ = none := by
  cases o with
  | writeFile => exact absurd rfl other
  | _ => rfl

/-- The files that were stored are in the table, which has no fewer paths than before. -/
def FilesKept (a : Int) (t₀ : Table FileRow) (w : World) : Prop :=
  t₀.Rewrites FileRow.key (fileKey a) (savedFiles w.trace) w.store.files

lemma about_files {t₀ : Table FileRow} : About .files (FilesKept a t₀) :=
  .of_log (P := fun l s => t₀.Rewrites FileRow.key (fileKey a) l s.files) savedFile_silent
    fun _ _ _ _ other same h => by rwa [same.files other]

lemma about_fileNumbers {t₀ : Table FileRow} : About .files fun w =>
    t₀.Reuses FileRow.key (fileKey a) (savedFiles w.trace) :=
  .of_log (P := fun l _ => t₀.Reuses FileRow.key (fileKey a) l) savedFile_silent
    fun _ _ _ _ _ _ h => h

/-- A file that is stored has the number of its path. -/
lemma FilesKept.write {t₀ : Table FileRow} (h : FilesKept a t₀ w) {f : SourceFile}
    {imports exports : List String}
    {r : Except StoreError (Operation.Result (.writeFile a f imports exports m))}
    (answers : w.store.Answers t (.writeFile a f imports exports m) r s) :
    FilesKept a t₀ (w.answered t (.writeFile a f imports exports m) r s) := by
  have saved : savedFiles (w.answered t (.writeFile a f imports exports m) r s).trace =
      savedFiles w.trace ++ idOf f r := by
    rw [savedFiles, filterMap_answered]
    cases r <;> rfl
  rw [FilesKept, saved]
  obtain ⟨e, rfl, rfl⟩ | ⟨id, u, rfl, rfl, written⟩ := answers.writeFile
  · rw [idOf, List.append_nil]
    exact h
  · refine Table.Rewrites.write h written (fun r => ?_) (fun _ _ => rfl) rfl
    simp [FileRow.key, FileRow.new]

/-- The files that are stored get the numbers that their paths had. -/
lemma stages_file {subject : Subject} {t₀ : Table FileRow} (h : FilesKept subject.id t₀ w) :
    EnsuresOr (fun _ _ => True)
      (fun _ v => t₀.Reuses FileRow.key (fileKey subject.id) (savedFiles v.trace))
      (fun _ _ => True) (stages disk services subject options) w := by
  have stage : ∀ reached v, FilesKept subject.id t₀ v → EnsuresOr (fun _ _ => True)
        (fun _ v => t₀.Reuses FileRow.key (fileKey subject.id) (savedFiles v.trace))
        (fun _ _ => True) (fileStage disk services subject.rootPath subject.id
          subject.lastAnalyzedAt options reached) v := by
    intro reached v hv
    refine (report_leaves about_files hv).bind fun _ v hv => ?_
    refine EnsuresOr.bind (M := fun _ v => FilesKept subject.id t₀ v)
      (.of_lift (time_ensures trivial fun _ _ => hv)) fun now v hv => ?_
    refine EnsuresOr.bind (M := fun _ v => FilesKept subject.id t₀ v)
      (.of_except (fun _ _ => hv) fun _ _ => trivial) fun files v hv => ?_
    refine EnsuresOr.bind (.of_lift (saveFiles_ensures (J := fun _ _ => FilesKept subject.id t₀) _
      (fun _ _ _ _ _ _ => trivial) (fun _ _ _ _ _ _ _ _ h _ answers => h.write answers)
      [] [] hv)) fun saved v hv => ?_
    refine EnsuresOr.bind (M := fun _ v =>
      t₀.Reuses FileRow.key (fileKey subject.id) (savedFiles v.trace))
      (need_ensures trivial (fun t _ n s answers => ?_) fun _ _ _ _ _ => trivial) fun _ v hv => ?_
    · rw [savedFiles_answered rfl]
      exact Table.Rewrites.reuses hv
    · exact (report_leaves about_fileNumbers hv).bind fun _ v hv => .of_pure hv
  refine (report_leaves about_files h).bind fun _ v hv =>
    (commitStage_writes.leaves about_files hv).bind fun reached v hv => (stage reached v hv).bind
    fun ⟨_, _, _⟩ v hv => (symbolStage_writes.leaves about_fileNumbers hv).bind fun _ v hv =>
    (edgeStage_writes.leaves about_fileNumbers hv).bind fun ⟨_, _, _⟩ v hv =>
    (embeddingStage_writes.leaves about_fileNumbers hv).bind fun _ v hv =>
    finalStage_writes.leaves about_fileNumbers hv

/-! ## Symbols -/

lemma savedSymbol_silent (o : Operation) (r : Except StoreError o.Result) (s : Store)
    (other : o.table? ≠ some .symbols) : Event.savedSymbol? ⟨o, r, s⟩ = none := by
  cases o with
  | writeSymbol => exact absurd rfl other
  | _ => rfl

/-- The symbols that were stored are in the table, from which none is gone yet. -/
def SymbolsKept (t₀ : Table SymbolRow) (w : World) : Prop :=
  t₀.Rewrites SymbolRow.key symbolKey (savedSymbols w.trace) w.store.symbols

lemma about_symbols {t₀ : Table SymbolRow} : About .symbols (SymbolsKept t₀) :=
  .of_log (P := fun l s => t₀.Rewrites SymbolRow.key symbolKey l s.symbols) savedSymbol_silent
    fun _ _ _ _ other same h => by rwa [same.symbols other]

lemma about_symbolNumbers {t₀ : Table SymbolRow} : About .symbols fun w =>
    t₀.Reuses SymbolRow.key symbolKey (savedSymbols w.trace) :=
  .of_log (P := fun l _ => t₀.Reuses SymbolRow.key symbolKey l) savedSymbol_silent
    fun _ _ _ _ _ _ h => h

/-- A symbol that is stored has the number of its file, its name and its first line. -/
lemma SymbolsKept.write {t₀ : Table SymbolRow} (h : SymbolsKept t₀ w) {file : Int}
    {y : CodeSymbol} {r : Except StoreError (Operation.Result (.writeSymbol a file y m))}
    (answers : w.store.Answers t (.writeSymbol a file y m) r s) :
    SymbolsKept t₀ (w.answered t (.writeSymbol a file y m) r s) := by
  have saved : savedSymbols (w.answered t (.writeSymbol a file y m) r s).trace =
      savedSymbols w.trace ++ idOf (file, y) r := by
    rw [savedSymbols, filterMap_answered]
    cases r <;> rfl
  rw [SymbolsKept, saved]
  obtain ⟨e, rfl, rfl⟩ | ⟨id, u, rfl, rfl, written⟩ := answers.writeSymbol
  · rw [idOf, List.append_nil]
    exact h
  · refine Table.Rewrites.write h written (fun r => ?_) (fun _ _ => rfl) rfl
    simp [SymbolRow.key, SymbolRow.new, and_assoc]

/-- The symbols that are stored get the numbers that they had, for they are stored before others are
removed. -/
lemma stages_symbol {subject : Subject} {t₀ : Table SymbolRow} (h : SymbolsKept t₀ w) :
    EnsuresOr (fun _ _ => True)
      (fun _ v => t₀.Reuses SymbolRow.key symbolKey (savedSymbols v.trace))
      (fun _ _ => True) (stages disk services subject options) w := by
  have stage : ∀ m saved reached v, SymbolsKept t₀ v → EnsuresOr (fun _ _ => True)
        (fun _ v => t₀.Reuses SymbolRow.key symbolKey (savedSymbols v.trace)) (fun _ _ => True)
        (symbolStage subject.id m saved reached) v := by
    intro m saved reached v hv
    refine (report_leaves about_symbols hv).bind fun _ v hv => ?_
    refine EnsuresOr.bind (.of_lift (saveSymbols_ensures (J := fun _ => SymbolsKept t₀) _
      (fun _ _ _ _ _ => trivial) (fun _ _ _ _ _ _ _ h _ answers => h.write answers)
      [] hv)) fun _ v hv => ?_
    refine EnsuresOr.bind (M := fun _ v => t₀.Reuses SymbolRow.key symbolKey (savedSymbols v.trace))
      (need_ensures trivial (fun t _ n s answers => ?_) fun _ _ _ _ _ => trivial) fun _ v hv =>
      report_leaves about_symbolNumbers hv
    rw [Recorded.savedSymbols_answered rfl]
    exact Table.Rewrites.reuses hv
  refine (report_leaves about_symbols h).bind fun _ v hv =>
    (commitStage_writes.leaves about_symbols hv).bind fun _ v hv =>
    (fileStage_writes.leaves about_symbols hv).bind fun ⟨reached, m, saved⟩ v hv =>
    (stage m saved reached v hv).bind fun _ v hv =>
    (edgeStage_writes.leaves about_symbolNumbers hv).bind fun ⟨_, _, _⟩ v hv =>
    (embeddingStage_writes.leaves about_symbolNumbers hv).bind fun _ v hv =>
    finalStage_writes.leaves about_symbolNumbers hv

/-! ## Counts -/

/-- The counts that a run gives are those of what it leaves. -/
lemma settles_counts {subject : Subject} :
    Settles (stages disk services subject options) (fun _ => True) fun stats s =>
      stats = s.calculateStats subject.id := by
  have last : Settles (finalStage subject.id) (fun _ => True) fun stats s =>
      stats = s.calculateStats subject.id := by
    refine (settles_read (by rfl)).bind fun stats => settles_time.bind fun now => ?_
    refine Settles.bind (M := fun _ s => stats = s.calculateStats subject.id)
      (settles_need fun s t _ s' h answers => ?_) fun _ => Settles.bind
      (M := fun _ s => stats = s.calculateStats subject.id)
      (settles_need fun s t _ s' h answers => ?_) fun _ => settles_pure fun _ h => h
    · obtain ⟨-, _, counted⟩ := h
      cases counted
      exact (Store.calculateStats_congr answers.sameBut).symm
    · exact h.trans (Store.calculateStats_congr answers.sameBut).symm
  exact settles_any.bind fun _ => settles_any.bind fun _ => settles_any.bind fun ⟨_, _, _⟩ =>
    settles_any.bind fun _ => settles_any.bind fun ⟨_, _, _⟩ => settles_any.bind fun _ => last

/-! ## Roots -/

/-- A subject is there and has a root. -/
def HasRoot (a : Int) (root : String) (s : Store) : Prop :=
  ∃ row, s.subjects.find? a = some row ∧ row.rootPath = root

lemma hasRoot_of_getSubject {subject : Subject} (found : s.getSubject a = .ok (some subject)) :
    HasRoot a subject.rootPath s := by
  obtain ⟨row, hrow, record⟩ := Store.getSubject_eq_some.1 found
  exact ⟨row, hrow, (Store.SubjectRow.rootPath_of_record record).symm⟩

lemma HasRoot.rootPath_eq (h : HasRoot a root s) {subject : Subject}
    (found : s.getSubject a = .ok (some subject)) : subject.rootPath = root := by
  obtain ⟨row, hrow, rfl⟩ := h
  obtain ⟨row', hrow', record⟩ := Store.getSubject_eq_some.1 found
  cases hrow.symm.trans hrow'
  exact Store.SubjectRow.rootPath_of_record record

/-- What an analysis asks leaves its subject its root. -/
lemma HasRoot.answered {parse : Outline.Script.Parser} {start : Int} {last : Option Int}
    (h : HasRoot a root w.store) (asks : Asks parse a start last w o)
    (answers : w.store.Answers t o r s) : HasRoot a root s := by
  by_cases writes : o.table? = some .subjects
  · obtain ⟨row, hrow, hroot⟩ := h
    cases o with
    | registerSubject => exact asks.elim
    | updateStatus id status progress message =>
      obtain rfl : id = a := asks
      obtain ⟨-, -, rfl⟩ | ⟨-, old, found, rfl⟩ := answers.updateStatus
      · exact ⟨row, hrow, hroot⟩
      · cases hrow.symm.trans found
        exact ⟨row.updated t status progress message, by simp [Table.find?_set, found], hroot⟩
    | saveStats id stats analyzedAt =>
      obtain ⟨rfl, -⟩ := asks
      obtain ⟨-, -, rfl⟩ | ⟨-, ⟨-, rfl⟩ | ⟨old, found, rfl⟩⟩ := answers.saveStats
      · exact ⟨row, hrow, hroot⟩
      · exact ⟨row, hrow, hroot⟩
      · cases hrow.symm.trans found
        exact ⟨row.counted stats analyzedAt, by simp [Table.find?_set, found], hroot⟩
    | _ => cases writes
  · rw [HasRoot, answers.sameBut.subjects writes]
    exact h

lemma run_keeps_root (fresh : w.trace = []) (h : HasRoot a root w.store) :
    EnsuresOr (fun v _ => HasRoot a root v.store) (fun _ v => HasRoot a root v.store)
      (fun _ v => HasRoot a root v.store) (run disk services a options) w := by
  obtain ⟨⟨last, tree⟩, known⟩ := w.store.exists_of_getSubject a fun subject =>
    (subject.lastAnalyzedAt, filesAt disk subject.rootPath ⟨options.maxDepth, options.maxFileBytes⟩)
  have asking : EnsuresOr _ _ _ (run disk services a options) w :=
    run_requests fresh fun subject found => Prod.ext_iff.1 (known subject found)
  have kept := asking.keep (J := fun v => HasRoot a root v.store) h (fun _ _ h _ => h)
    fun v o t r s h asks _ answers => h.answered (asks o rfl) answers
  exact (kept.mono (fun _ _ h => h.2) fun _ _ h => h.2).weaken fun _ _ h => h.2

/-! ## Runs -/

/-- What a run with a mark has written of a subject, when it has gone through the working tree and
the history at a root. -/
structure Outcome (a m : Int) (disk : Disk) (services : Inference.Services)
    (options : AnalysisOptions) (root : String) (stats : SubjectStats) (s : Store) (v : World) :
    Prop where
  walked : filesAt disk root ⟨options.maxDepth, options.maxFileBytes⟩ =
    .ok (v.trace.filterMap Event.triedFile?)
  parsed : v.trace.filterMap Event.triedSymbol? =
    symbolsOf services.libraries.parse (savedFiles v.trace)
  committed : Committed a s.commits (historyAt disk root options.maxCommits) v
  fileNumbers : s.files.Reuses FileRow.key (fileKey a) (savedFiles v.trace)
  symbolNumbers : s.symbols.Reuses SymbolRow.key symbolKey (savedSymbols v.trace)
  recorded : Recorded services.libraries.parse a m (savedFiles v.trace) (savedSymbols v.trace)
    v.store
  kept : Kept a m v
  swept : Did (.markUnseen a m) v.trace
  pruned : Did (.pruneSymbols a m) v.trace
  sound : v.store.Sound
  tallied : ∃ files symbols, v.store.Tallied a services options.commitWindow files symbols
  counted : stats = v.store.calculateStats a

section Start

variable {force : Bool} {subject : Subject} {w₀ : World}

lemma Admitted.filterMap_trace (h : Admitted w₀ a force subject w) {f : Event → Option β}
    (silent : ∀ r s, f ⟨.getSubject a, r, s⟩ = none) : w.trace.filterMap f = [] := by
  obtain ⟨-, -, trace, -⟩ := h
  rw [trace, List.filterMap_cons_none (silent _ _), List.filterMap_nil]

lemma Admitted.committed (h : Admitted w₀ a force subject w) (sound : w₀.store.Sound) :
    Committed subject.id w₀.store.commits [] w := by
  have saved : savedCommits w.trace = [] := h.filterMap_trace fun _ _ => rfl
  refine ⟨h.filterMap_trace fun _ _ => rfl, ?_, ?_⟩
  · rw [saved, h.1]
    exact .start sound.commitIds sound.commitKeys
  · rw [saved, h.1]
    exact .start

lemma Admitted.filesKept (h : Admitted w₀ a force subject w) (sound : w₀.store.Sound) :
    FilesKept subject.id w₀.store.files w := by
  have saved : savedFiles w.trace = [] := h.filterMap_trace fun _ _ => rfl
  rw [FilesKept, saved, h.1]
  exact .start sound.fileIds sound.fileKeys

lemma Admitted.symbolsKept (h : Admitted w₀ a force subject w) (sound : w₀.store.Sound) :
    SymbolsKept w₀.store.symbols w := by
  have saved : savedSymbols w.trace = [] := h.filterMap_trace fun _ _ => rfl
  rw [SymbolsKept, saved, h.1]
  exact .start sound.symbolIds sound.symbolKeys

end Start

/-- What a run that succeeds under a fresh mark has written. -/
lemma run_outcome {v : World} {stats : SubjectStats} (regular : Regular w) (start : w.trace = [])
    (steps : (run disk services a options).run.Steps w (.done (.ok stats)) v)
    (fresh : ∀ e ∈ v.trace, ∀ m, e.operation.mark? = some m → ¬ w.store.HasMark a m) :
    ∃ m subject, w.store.getSubject a = .ok (some subject) ∧
      Outcome a m disk services options subject.rootPath stats w.store v := by
  obtain ⟨last, dated, capped⟩ := regular.marked a
  obtain ⟨tree, htree⟩ := exists_tree disk a options w.store
  have sound := regular.sound
  have recording : EnsuresOr _ _ _ (run disk services a options) w :=
    run_recorded start sound dated capped htree
  have settling : EnsuresOr _ _ _ (run disk services a options) w := run_settles start
  have commits : EnsuresOr _ _ _ (run disk services a options) w :=
    run_ends start fun _ _ loaded => stages_commit (loaded.committed sound)
  have files : EnsuresOr _ _ _ (run disk services a options) w :=
    run_ends start fun _ _ loaded => stages_file (loaded.filesKept sound)
  have symbols : EnsuresOr _ _ _ (run disk services a options) w :=
    run_ends start fun _ _ loaded => stages_symbol (loaded.symbolsKept sound)
  have counts : EnsuresOr _ _ _ (run disk services a options) w :=
    run_ends start fun _ v _ => settles_counts.ensures v trivial
  obtain ⟨⟨⟨m, saved, ⟨walked, readable, journal, swept⟩, pruned⟩, steady⟩, recorded⟩ :=
    steps.ensures recording.ensures
  obtain ⟨subject, found, committed⟩ := steps.ensures commits.ensures
  obtain ⟨subject', found', fileNumbers⟩ := steps.ensures files.ensures
  cases found.symm.trans found'
  obtain ⟨subject', found', symbolNumbers⟩ := steps.ensures symbols.ensures
  cases found.symm.trans found'
  obtain ⟨subject', found', counted⟩ := steps.ensures counts.ensures
  cases found.symm.trans found'
  obtain rfl := Store.getSubject_id found
  obtain ⟨⟨now, later, -, rfl⟩, only⟩ := journal.toMarking
  have new : ¬ w.store.HasMark subject.id (marker now last) := by
    obtain ⟨e, he, prunes, -⟩ := pruned
    exact fresh e he _ (by rw [prunes]; rfl)
  refine ⟨_, subject, found, ?_, ?_, committed, fileNumbers, symbolNumbers, recorded _ new only,
    steady.kept _ (marker_mono later (Int.le_refl _)) only, swept, pruned, steady.sound,
    steps.ensures settling.ensures, counted⟩
  · rw [htree subject found, readable, journal.files]
  · rw [journal.saved]
    exact journal.symbols

end Analysis

end CodeAtlas
