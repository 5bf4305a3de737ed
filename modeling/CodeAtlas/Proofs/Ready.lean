import CodeAtlas.Proofs.Derived
import CodeAtlas.Proofs.Freshness
import CodeAtlas.Proofs.Listings

/-! # Subjects that are ready

Whatever calls were made before, what is stored of a subject that is ready fits together: it is what
the last run that succeeded has left, and no call that came later has changed it. -/
namespace CodeAtlas

namespace Store

/-- All that is listed of a subject, where what is derived is derived from what is listed. -/
structure UpToDate (s : Store) (subject : Subject) (services : Inference.Services) (window : Nat)
    (files : List StoredFile) (symbols : List StoredSymbol) (commits : List StoredCommit)
    (edges : List StoredEdge) (embeddings : List StoredEmbedding) : Prop where
  files_eq : s.listFiles subject.id = .ok files
  symbols_eq : s.listSymbols subject.id = .ok symbols
  commits_eq : s.listCommits subject.id window = .ok commits
  edges_eq : s.listEdges subject.id = .ok edges
  embeddings_eq : s.listEmbeddings subject.id = .ok embeddings
  homes : ∀ y ∈ symbols, ∃ f ∈ files, f.id = y.fileId ∧ f.file.path = y.filePath
  built : edges.map (·.edge) = Graph.buildEdges files symbols
  nodes : ∀ e ∈ edges, Graph.IsNode files symbols e.edge.sourceKind e.edge.sourceId ∧
    ∀ id, e.edge.targetId = some id → Graph.IsNode files symbols e.edge.targetKind id
  planned : embeddings.map (·.embedding) =
    Inference.embedAll services (Inference.planJobs files symbols commits)
  counted : subject.stats = s.calculateStats subject.id

variable {s s' : Store} {subject : Subject} {services : Inference.Services} {window : Nat}
  {files : List StoredFile} {symbols : List StoredSymbol} {commits : List StoredCommit}
  {edges : List StoredEdge} {embeddings : List StoredEmbedding} {a : Int}

lemma UpToDate.sameFor
    (h : s.UpToDate subject services window files symbols commits edges embeddings)
    (same : SameFor subject.id s s') (sound : s.Sound) (sound' : s'.Sound) :
    s'.UpToDate subject services window files symbols commits edges embeddings :=
  { h with
    files_eq := same.listFiles.trans h.files_eq
    symbols_eq := (same.listSymbols sound sound').trans h.symbols_eq
    commits_eq := (same.listCommits window).trans h.commits_eq
    edges_eq := same.listEdges.trans h.edges_eq
    embeddings_eq := same.listEmbeddings.trans h.embeddings_eq
    counted := h.counted.trans same.calculateStats.symm }

lemma SubjectRow.Holds.stats_of_record {row : SubjectRow} {stats : SubjectStats} {id : Int}
    (h : row.Holds stats) (record : row.record id = .ok subject) :
    subject.stats = ⟨columnSize stats.totalCommits, columnSize stats.totalFiles,
      columnSize stats.totalFunctions, columnSize stats.totalDependencies, stats.languages⟩ := by
  simp only [SubjectRow.record, bind_eq_ok, pure_eq_ok] at record
  obtain ⟨_, -, _, -, c, hc, f, hf, fn, hfn, d, hd, l, hl, _, -, _, -, _, -, rfl⟩ := record
  rw [h.commits] at hc
  rw [h.files] at hf
  rw [h.functions] at hfn
  rw [h.dependencies] at hd
  rw [h.languages, getAt_strings] at hl
  cases hc
  cases hf
  cases hfn
  cases hd
  cases hl
  rfl

/-! ## Beside vectors -/

lemma Held.InWord.of_sizeAt {h : Held Int} (word : h.InWord) {index n : Nat} {column : String}
    (read : h.sizeAt index column = .ok n) : Json.IsCounted n := by
  cases h with
  | stray => cases read
  | value i =>
    obtain ⟨low, high⟩ := word i rfl
    cases read
    constructor <;> omega

lemma Held.InWord.of_getAt {h : Held Int} (word : h.InWord) {index : Nat} {column : String}
    {n : Int} (read : h.getAt index column = .ok n) : Json.IsCounted n := by
  cases h with
  | stray => cases read
  | value i =>
    obtain ⟨low, high⟩ := word i rfl
    cases read
    constructor <;> omega

lemma FileRow.isCounted_lines {row : FileRow} {id : Int} {f : StoredFile}
    (word : row.lineCount.InWord) (record : row.record id = .ok f) :
    Json.IsCounted f.file.lineCount := by
  simp only [FileRow.record, bind_eq_ok, pure_eq_ok] at record
  obtain ⟨_, -, lines, read, _, -, _, -, _, -, rfl⟩ := record
  exact word.of_sizeAt read

lemma SymbolRow.isCounted_lines {row : SymbolRow} {id : Int} {path : String} {y : StoredSymbol}
    (word : row.startLine.InWord ∧ row.endLine.InWord) (record : row.record id path = .ok y) :
    Json.IsCounted y.symbol.startLine ∧ Json.IsCounted y.symbol.endLine := by
  simp only [SymbolRow.record, bind_eq_ok, pure_eq_ok] at record
  obtain ⟨_, -, first, hfirst, last, hlast, _, -, _, -, _, -, _, -, _, -, rfl⟩ := record
  exact ⟨word.1.of_sizeAt hfirst, word.2.of_sizeAt hlast⟩

lemma CommitRow.isCounted_time {row : CommitRow} {id : Int} {c : StoredCommit}
    (word : row.timestamp.InWord) (record : row.record id = .ok c) :
    Json.IsCounted c.commit.timestamp := by
  simp only [CommitRow.record, bind_eq_ok, pure_eq_ok] at record
  obtain ⟨_, -, time, read, _, -, _, -, _, -, _, -, rfl⟩ := record
  exact word.of_getAt read

lemma Sound.planned_keeps (sound : s.Sound) (services : Inference.Services)
    (files_eq : s.listFiles a = .ok files) (symbols_eq : s.listSymbols a = .ok symbols)
    (commits_eq : s.listCommits a window = .ok commits) :
    ∀ e ∈ Inference.embedAll services (Inference.planJobs files symbols commits),
      metadata.Keeps e.metadata := by
  intro e mem
  obtain ⟨job, planned, rfl⟩ := List.mem_map.1 mem
  refine metadata_keeps ?_
  simp only [Inference.planJobs, List.mem_append, List.mem_filterMap, List.mem_map] at planned
  rcases planned with (⟨f, hf, made⟩ | ⟨y, hy, made⟩) | ⟨c, hc, rfl⟩
  · obtain ⟨row, mem, -, -, record⟩ := (mem_listFiles files_eq).1 hf
    have lines := FileRow.isCounted_lines (sound.fileLines row mem) record
    obtain ⟨-, made⟩ := Option.ite_none_left_eq_some.1 made
    cases made
    simp [Json.Told, Inference.Job.embed, Json.maxDepth, Json.nat, lines]
  · obtain ⟨row, mem, -, file, -, record⟩ := (mem_listSymbols symbols_eq).1 hy
    obtain ⟨first, last⟩ := SymbolRow.isCounted_lines (sound.symbolLines row mem) record
    obtain ⟨-, made⟩ := Option.ite_none_left_eq_some.1 made
    cases made
    simp [Json.Told, Inference.Job.embed, Json.maxDepth, Json.nat, first, last]
  · obtain ⟨row, mem, -, record⟩ := exists_of_listCommits commits_eq hc
    have time := CommitRow.isCounted_time (sound.commitTimes row mem) record
    simp [Json.Told, Inference.Job.embed, Inference.commitJob, Json.maxDepth, Json.int, time]

/-! ## Counts -/

lemma columnSize_columnSize (n : Nat) : columnSize (columnSize n) = columnSize n := by
  have small : columnSize n < 0x8000000000000000 := by
    unfold columnSize columnInt
    dsimp only
    split <;> omega
  generalize columnSize n = m at small
  unfold columnSize columnInt
  dsimp only
  split <;> omega

lemma Tallied.exists_upToDate (h : s.Tallied a services window files symbols) (sound : s.Sound)
    (takes : s.TakesEmbeddings) (found : s.getSubject a = .ok (some subject))
    (homes : ∀ y ∈ symbols, ∃ f ∈ files, f.id = y.fileId ∧ f.file.path = y.filePath) :
    ∃ commits edges embeddings,
      s.UpToDate subject services window files symbols commits edges embeddings := by
  obtain rfl := getSubject_id found
  obtain ⟨commits, now, kept, commits_eq, rows, all⟩ := h.embedded
  obtain rfl := all takes
  have told := sound.planned_keeps services h.files_eq h.symbols_eq commits_eq
  obtain ⟨edges, edges_eq, built⟩ := mapM_record EdgeRow.record StoredEdge.edge id h.edges
    fun _ _ _ => ⟨_, EdgeRow.record_new, rfl⟩
  obtain ⟨embeddings, embeddings_eq, planned⟩ := mapM_record EmbeddingRow.record
    StoredEmbedding.embedding id rows fun _ e mem => ⟨_, EmbeddingRow.record_new (told e mem), rfl⟩
  rw [List.map_id] at built planned
  obtain ⟨row, hrow, holds⟩ := h.tallied
  obtain ⟨row', hrow', record⟩ := getSubject_eq_some.1 found
  cases hrow.symm.trans hrow'
  refine ⟨commits, edges, embeddings, h.files_eq, h.symbols_eq, commits_eq, edges_eq,
    embeddings_eq, homes, built, fun e he => ?_, planned, ?_⟩
  · exact Graph.buildEdges_nodes (built ▸ List.mem_map_of_mem he)
  · rw [holds.stats_of_record record]
    simp only [calculateStats, columnSize_columnSize]

end Store

namespace Analysis

variable {a m : Int} {v : World} {files : List StoredFile} {symbols : List StoredSymbol}

/-- After the sweeps, the files of all symbols are there. -/
lemma Kept.homes (kept : Kept a m v) (sound : v.store.Sound)
    (pruned : Did (.pruneSymbols a m) v.trace) (listed : v.store.Listed a files symbols) :
    ∀ y ∈ symbols, ∃ f ∈ files, f.id = y.fileId ∧ f.file.path = y.filePath := by
  intro y hy
  obtain ⟨e, he, ha, f, found, record⟩ := (Store.mem_listSymbols listed.symbols_eq).1 hy
  obtain ⟨-, -, hfile, hpath⟩ := Store.SymbolRow.keys_of_record record
  have row := sound.fileIds.find?_eq_some.1 found
  obtain ⟨home, seen⟩ := kept.file_marked sound pruned he ha found
  -- a deleted file would have an earlier mark than its symbols
  have alive : f.isDeleted = .value false := by
    obtain ⟨i, d, hi, hd, -, earlier⟩ := kept.capped.files _ row home
    cases hi.symm.trans seen
    cases d with
    | false => exact hd
    | true => exact absurd (earlier rfl) (Int.lt_irrefl _)
  obtain ⟨x, mem, hx⟩ := Store.record_of_listFiles listed.files_eq row home alive
  refine ⟨x, mem, ?_⟩
  obtain ⟨hid, -, hpath'⟩ := Store.FileRow.keys_of_record hx
  exact ⟨hid.trans hfile.symm, hpath'.trans hpath.symm⟩

end Analysis

/-! ## After any calls -/

/-- The services and the number of commits of the last run over a subject that succeeded. -/
def lastRun (a : Int) : List (Call × Ending) → Option (Inference.Services × Nat)
  | [] => none
  | (.analyze _ services b options, .returned true) :: rest =>
      if b = a then some (services, options.commitWindow) else lastRun a rest
  | _ :: rest => lastRun a rest

/-- If a subject is ready, it is up to date with the last run that succeeded. -/
def IsCurrent (a : Int) (log : List (Call × Ending)) (s : Store) : Prop :=
  ∀ subject, s.getSubject a = .ok (some subject) → subject.status = .ready →
    ∃ services window, lastRun a log = some (services, window) ∧
      ∃ files symbols commits edges embeddings,
        s.UpToDate subject services window files symbols commits edges embeddings

namespace IsCurrent

variable {a : Int} {log log' : List (Call × Ending)} {w v : World}

lemma sameFor {s s' : Store} (h : IsCurrent a log s) (same : s.SameFor a s') (sound : s.Sound)
    (sound' : s'.Sound) (last : lastRun a log' = lastRun a log) : IsCurrent a log' s' := by
  intro subject found ready
  rw [same.getSubject] at found
  obtain rfl := Store.getSubject_id found
  obtain ⟨services, window, known, files, symbols, commits, edges, embeddings, current⟩ :=
    h subject found ready
  exact ⟨services, window, last.trans known, files, symbols, commits, edges, embeddings,
    current.sameFor same sound sound'⟩

lemma same (h : IsCurrent a log w.store) (store : v.store = w.store)
    (last : lastRun a log' = lastRun a log) : IsCurrent a log' v.store := by
  rw [store, IsCurrent, last]
  exact h

lemma spared (h : IsCurrent a log w.store) (spares : Spares w v) (sound : w.store.Sound)
    (last : lastRun a log' = lastRun a log) : IsCurrent a log' v.store := by
  by_cases known : w.store.subjects.contains a = true
  · exact h.sameFor (spares.sameFor known) sound spares.sound last
  · intro subject found ready
    obtain ⟨row, hrow, record⟩ := Store.getSubject_eq_some.1 found
    obtain ⟨name, rootPath, now, rfl⟩ := spares.new a row (by simpa using known) hrow
    cases Store.SubjectRow.record_new.symm.trans record
    cases ready

lemma killed (h : IsCurrent a log w.store)
    (left : v.store = w.store ∨ ∃ p, v.store.Stands a .analyzing p)
    (last : lastRun a log' = lastRun a log) : IsCurrent a log' v.store := by
  rcases left with store | ⟨p, busy, found, analyzing, -⟩
  · exact h.same store last
  · intro subject found' ready
    cases found.symm.trans found'
    cases analyzing.symm.trans ready

lemma failed (h : IsCurrent a log w.store) {e : AnalysisError}
    (failed : Analysis.Failed w.store a e v) (last : lastRun a log' = lastRun a log) :
    IsCurrent a log' v.store := by
  obtain ⟨u, t, r, interrupted, answers, -⟩ := failed
  obtain ⟨-, -, store⟩ | ⟨-, old, found, store⟩ := answers.updateStatus
  · refine h.killed ?_ last
    rw [store]
    cases interrupted with
    | unstarted same => exact .inl same
    | climbing p climbing => exact .inr ⟨p, climbing.stands⟩
  · intro subject found' ready
    obtain ⟨row, hrow, record⟩ := Store.getSubject_eq_some.1 found'
    rw [store, Store.Table.find?_set] at hrow
    simp only [found, if_true] at hrow
    cases hrow
    cases (Store.SubjectRow.status_of_record rfl record).symm.trans ready

lemma finished {disk : Disk} {services : Inference.Services} {options : AnalysisOptions}
    (start : Analysis.Regular w) (fresh : w.trace = []) (takes : v.store.TakesEmbeddings)
    (steps : (succeeds (Analysis.run disk services a options)).Steps w (.done true) v) :
    IsCurrent a ((.analyze disk services a options, .returned true) :: log) v.store := by
  obtain ⟨last, dated, capped⟩ := start.marked a
  obtain ⟨tree, htree⟩ := exists_tree disk a options w.store
  obtain ⟨-, ⟨m, saved, ⟨tried, -, journal, -⟩, pruned⟩, steady⟩ :=
    (Analysis.run_steady fresh start.sound dated capped htree).of_returned steps
  obtain ⟨-, files, symbols, tallied⟩ := (Analysis.run_settles fresh).of_returned steps
  obtain ⟨⟨now, later, -, rfl⟩, only⟩ := journal.toMarking
  have kept := steady.kept _ (Analysis.marker_mono later (Int.le_refl _)) only
  intro subject found ready
  obtain ⟨commits, edges, embeddings, current⟩ := tallied.exists_upToDate steady.sound takes
    found
    (kept.homes steady.sound pruned tallied.toListed)
  exact ⟨services, options.commitWindow, if_pos rfl, files, symbols, commits, edges, embeddings,
    current⟩

end IsCurrent

lemma lastRun_of_ne {disk : Disk} {services : Inference.Services} {a b : Int}
    {options : AnalysisOptions} {ending : Ending} {log : List (Call × Ending)} (other : b ≠ a) :
    lastRun a ((.analyze disk services b options, ending) :: log) = lastRun a log := by
  cases ending with
  | killed => rfl
  | returned ok =>
    cases ok with
    | false => rfl
    | true => exact if_neg other

/-- How a call may end that has come to a program. -/
def Ending.Of (p : Program Bool) : Ending → Prop
  | returned ok => p = .done ok
  | killed => p.Pending

lemma IsCurrent.analyze {a : Int} {log : List (Call × Ending)} {w v : World}
    (h : IsCurrent a log w.store) (start : Analysis.Regular w) (fresh : w.trace = [])
    (takes : v.store.TakesEmbeddings) {disk : Disk} {services : Inference.Services}
    {options : AnalysisOptions} {p : Program Bool} {ending : Ending} (ends : ending.Of p)
    (steps : (succeeds (Analysis.run disk services a options)).Steps w p v) :
    IsCurrent a ((.analyze disk services a options, ending) :: log) v.store := by
  have outcome : EnsuresOr _ _ _ (Analysis.run disk services a options) w :=
    Analysis.run_ensures fresh
  cases ending with
  | killed =>
    obtain ⟨o, underway⟩ := outcome.of_killed steps ends
    exact h.killed (underway.imp_left And.left) rfl
  | returned ok =>
    obtain rfl : p = .done ok := ends
    cases ok with
    | true => exact IsCurrent.finished start fresh takes steps
    | false =>
      obtain ⟨e, ⟨store, -⟩ | ⟨-, failed⟩⟩ := outcome.of_returned steps
      · exact h.same store rfl
      · exact h.failed failed rfl

/-- No call leaves a subject ready that is not up to date. -/
lemma IsCurrent.call {a : Int} {log : List (Call × Ending)} {w v : World}
    (h : IsCurrent a log w.store) (start : Analysis.Regular w) (fresh : w.trace = [])
    (takes : v.store.TakesEmbeddings) {call : Call} {p : Program Bool} {ending : Ending}
    (ends : ending.Of p) (steps : call.program.Steps w p v) :
    IsCurrent a ((call, ending) :: log) v.store := by
  cases call with
  | resolve =>
    exact h.spared (always_of_steps steps (subjectAt_spares start.sound)) start.sound rfl
  | ask =>
    exact h.spared (always_of_steps steps (Retrieval.talks_converse.spares start.sound))
      start.sound rfl
  | analyze disk services b options =>
    by_cases other : b = a
    · subst other
      exact h.analyze start fresh takes ends steps
    · obtain ⟨regular, others⟩ := always_of_steps steps (run_regular start fresh)
      exact h.sameFor (others a (Ne.symm other)) start.sound regular.sound (lastRun_of_ne other)

/-- A subject that is ready after any calls is up to date, if no embedding was refused. -/
theorem History.upToDate {log : List (Call × Ending)} {w : World} (history : History log w)
    (takes : w.store.TakesEmbeddings) (a : Int) : IsCurrent a log w.store := by
  induction history with
  | start refusals =>
    intro subject found
    cases found
  | @returned log w v call ok before steps ih =>
    have current := ih (takes.congr steps.refusals.symm)
    exact current.call (v := v) before.regular before.fresh takes rfl steps
  | @killed log w v call p before steps left ih =>
    have current := ih (takes.congr steps.refusals.symm)
    exact current.call (v := v) before.regular before.fresh takes left steps

section Example

open Analysis

lemma listed_pairStore :
    (pairStore.getSubject 1).map (·.map (·.status)) = .ok (some .ready) ∧
    (pairStore.listFiles 1).map (·.map (·.file.path)) = .ok ["main.py", "util.py"] ∧
    (pairStore.listSymbols 1).map (·.map (·.symbol.name)) = .ok ["main", "twice"] ∧
    (pairStore.listCommits 1 50).map (·.map (·.commit.hash)) = .ok ["c2", "c1"] ∧
    (pairStore.listEdges 1).map (·.map (·.edge)) =
      .ok [⟨.file, 1, .file, some 2, "util.py", .imports, false⟩,
        ⟨.function, 1, .function, some 2, "twice", .call, false⟩] ∧
    (pairStore.listEmbeddings 1).map
        (·.map fun e => (e.embedding.entityName, e.embedding.vector)) =
      .ok [("main.py", [⟨60⟩]), ("main", [⟨47⟩]), ("twice", [⟨46⟩]), ("c2", [⟨39⟩]),
        ("c1", [⟨34⟩])] := by
  decide +kernel

/-- A run over two sources, one of which imports and calls the other one, leaves the subject up to
date. -/
theorem History.upToDate_pairTree : ∃ log w subject files symbols commits edges embeddings,
    History log w ∧ w.store.getSubject 1 = .ok (some subject) ∧ subject.status = .ready ∧
    w.store.UpToDate subject lengths 50 files symbols commits edges embeddings ∧
    files.map (·.file.path) = ["main.py", "util.py"] ∧
    symbols.map (·.symbol.name) = ["main", "twice"] ∧
    commits.map (·.commit.hash) = ["c2", "c1"] ∧
    edges.map (·.edge) = [⟨.file, 1, .file, some 2, "util.py", .imports, false⟩,
      ⟨.function, 1, .function, some 2, "twice", .call, false⟩] ∧
    embeddings.map (fun e => (e.embedding.entityName, e.embedding.vector)) =
      [("main.py", [⟨60⟩]), ("main", [⟨47⟩]), ("twice", [⟨46⟩]), ("c2", [⟨39⟩]),
        ("c1", [⟨34⟩])] := by
  obtain ⟨v, -, store, -, steps⟩ := steps_pairTree
  have analyzed : (Call.analyze pairTree lengths 1 {}).program.Steps _ (.done true) _ :=
    steps.bind (.refl _ _)
  have history := (history_newSubject pairEntries pairTree.git).returned analyzed
  rw [store] at history
  obtain ⟨-, -, -, -, unrefused⟩ := run_pairTree
  have takes : pairStore.TakesEmbeddings := by
    rw [Store.TakesEmbeddings, unrefused]
    exact List.forall_mem_nil _
  obtain ⟨ready, paths, names, hashes, built, vectors⟩ := listed_pairStore
  obtain ⟨found, asked, active⟩ := Store.map_eq_ok.1 ready
  obtain ⟨subject, rfl, status⟩ := Option.map_eq_some_iff.1 active
  obtain ⟨services, window, known, files, symbols, commits, edges, embeddings, current⟩ :=
    history.upToDate takes 1 subject asked status
  cases known
  have ⟨files_eq, symbols_eq, commits_eq, edges_eq, embeddings_eq, _, _, _, _, _⟩ := current
  rw [Store.getSubject_id asked] at files_eq symbols_eq commits_eq edges_eq embeddings_eq
  rw [files_eq] at paths
  rw [symbols_eq] at names
  rw [commits_eq] at hashes
  rw [edges_eq] at built
  rw [embeddings_eq] at vectors
  exact ⟨_, _, subject, files, symbols, commits, edges, embeddings, history, asked, status,
    current, Except.ok.inj paths, Except.ok.inj names, Except.ok.inj hashes, Except.ok.inj built,
    Except.ok.inj vectors⟩

end Example

end CodeAtlas
