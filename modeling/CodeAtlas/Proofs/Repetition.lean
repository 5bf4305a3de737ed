import CodeAtlas.Proofs.Outcome
import CodeAtlas.Proofs.Ready

/-! # Runs that are repeated

A second run over the same working tree and history writes what the first one has written, under the
same numbers. Only the marks are new, and the numbers of edges and vectors. -/
namespace CodeAtlas

open Store (Operation CommitRow FileRow SymbolRow Table)

/-! ## What is stored of what is tried -/

section Performed

variable {trace : List Event}

/-- When nothing fails, all is stored that is tried. -/
lemma saved_of_performed {saved? : Event → Option (Int × β)} {tried? : Event → Option β}
    (stored : ∀ e, e.answer.isOk = true → (saved? e).map Prod.snd = tried? e)
    (performed : ∀ e ∈ trace, e.answer.isOk = true) :
    (trace.filterMap saved?).map Prod.snd = trace.filterMap tried? := by
  rw [List.map_filterMap]
  exact List.filterMap_congr fun e he => stored e (performed e he)

lemma savedCommits_of_performed (performed : ∀ e ∈ trace, e.answer.isOk = true) :
    (savedCommits trace).map Prod.snd = trace.filterMap Event.triedCommit? := by
  refine saved_of_performed (fun ⟨o, r, s⟩ ok => ?_) performed
  cases o with
  | writeCommit =>
    cases r with
    | ok id => rfl
    | error e => cases ok
  | _ => rfl

lemma savedFiles_of_performed (performed : ∀ e ∈ trace, e.answer.isOk = true) :
    (savedFiles trace).map Prod.snd = trace.filterMap Event.triedFile? := by
  refine saved_of_performed (fun ⟨o, r, s⟩ ok => ?_) performed
  cases o with
  | writeFile =>
    cases r with
    | ok id => rfl
    | error e => cases ok
  | _ => rfl

lemma savedSymbols_of_performed (performed : ∀ e ∈ trace, e.answer.isOk = true) :
    (savedSymbols trace).map Prod.snd = trace.filterMap Event.triedSymbol? := by
  refine saved_of_performed (fun ⟨o, r, s⟩ ok => ?_) performed
  cases o with
  | writeSymbol =>
    cases r with
    | ok id => rfl
    | error e => cases ok
  | _ => rfl

end Performed

/-! ## Rows with another mark -/

namespace Store

/-- A file as it is seen again. -/
def FileRow.remarked (m : Int) (r : FileRow) : FileRow := { r with lastSeenAt := .value m }

/-- A symbol as it is seen again. -/
def SymbolRow.remarked (m : Int) (r : SymbolRow) : SymbolRow := { r with lastSeenAt := .value m }

lemma orderedBy_map {le : κ → κ → Bool} {key : ρ → κ} (f : ρ → ρ)
    (same : ∀ r, key (f r) = key r) (rows : List (Int × ρ)) :
    orderedBy le key (rows.map fun e => (e.1, f e.2)) =
      (orderedBy le key rows).map fun e => (e.1, f e.2) := by
  simp only [orderedBy, sorted_eq_insertionSort]
  refine (List.map_insertionSort _ _ _ _ fun a _ b _ => ?_).symm
  simp only [same]

variable {s s' : Store} {a m : Int}

lemma listFiles_remarked (h : s'.files.filter (IsListed a) =
      (s.files.filter (IsListed a)).map fun e => (e.1, e.2.remarked m)) :
    s'.listFiles a = s.listFiles a := by
  change (byPath (s'.files.filter (IsListed a))).mapM _ =
    (byPath (s.files.filter (IsListed a))).mapM _
  rw [h, byPath, byPath, orderedBy_map (FileRow.remarked m) fun _ => rfl, List.mapM_map]
  rfl

lemma listSymbols_remarked (h : s'.symbols.filter (·.subjectId = a) =
      (s.symbols.filter (·.subjectId = a)).map fun e => (e.1, e.2.remarked m))
    (paths : ∀ e ∈ s.symbols.filter (·.subjectId = a),
      (s'.files.find? e.2.fileId).map FileRow.path = (s.files.find? e.2.fileId).map FileRow.path) :
    s'.listSymbols a = s.listSymbols a := by
  have rows : s'.symbolRows (·.subjectId = a) = (s.symbolRows (·.subjectId = a)).map
      fun e => (e.1, e.2.1, e.2.2.remarked m) := by
    unfold symbolRows
    dsimp only
    rw [← orderedBy_map (fun e : String × SymbolRow => (e.1, e.2.remarked m)) fun _ => rfl, h,
      List.filterMap_map, List.map_filterMap]
    congr 1
    refine List.filterMap_congr fun e he => ?_
    have path := congrArg (Option.map fun p => (e.1, p, e.2.remarked m)) (paths e he)
    simpa [Function.comp_def, SymbolRow.remarked] using path
  rw [listSymbols, listSymbols, rows, List.mapM_map]
  rfl

lemma calculateStats_remarked (files : s'.files.filter (IsListed a) =
      (s.files.filter (IsListed a)).map fun e => (e.1, e.2.remarked m))
    (symbols : s'.symbols.filter (·.subjectId = a) =
      (s.symbols.filter (·.subjectId = a)).map fun e => (e.1, e.2.remarked m))
    (commits : s'.commits.rows = s.commits.rows)
    (edges : (s'.edges.filter (·.subjectId = a)).map Prod.snd =
      (s.edges.filter (·.subjectId = a)).map Prod.snd) :
    s'.calculateStats a = s.calculateStats a := by
  have dependencies := congrArg List.length edges
  rw [List.length_map, List.length_map] at dependencies
  change (⟨columnSize (s'.commits.filter (·.subjectId = a)).length,
    columnSize (s'.files.filter (IsListed a)).length, _, _,
    distinctTexts (((s'.files.filter (IsListed a)).map _).filter _)⟩ : SubjectStats) = _
  rw [files, symbols, dependencies, Table.filter, commits, List.length_map, List.length_map,
    List.map_map]
  rfl

/-! ## What is listed -/

/-- The same is listed of a subject, but for the numbers of edges and vectors. -/
structure Alike (a : Int) (s s' : Store) : Prop where
  files : ∃ files, s.listFiles a = .ok files ∧ s'.listFiles a = .ok files
  symbols : ∃ symbols, s.listSymbols a = .ok symbols ∧ s'.listSymbols a = .ok symbols
  commits : ∀ limit, s'.listCommits a limit = s.listCommits a limit
  edges : ∃ edges edges', s.listEdges a = .ok edges ∧ s'.listEdges a = .ok edges' ∧
    edges'.map (fun e => (e.subjectId, e.edge)) = edges.map fun e => (e.subjectId, e.edge)
  embeddings : ∃ embeddings embeddings', s.listEmbeddings a = .ok embeddings ∧
    s'.listEmbeddings a = .ok embeddings' ∧
    embeddings'.map (fun e => (e.subjectId, e.embedding)) =
      embeddings.map fun e => (e.subjectId, e.embedding)

variable {services : Inference.Services} {window : Nat} {files : List StoredFile}
  {symbols : List StoredSymbol}

lemma Linked.exists_edges (h : s.Linked a files symbols) : ∃ edges, s.listEdges a = .ok edges ∧
    edges.map (fun e => (e.subjectId, e.edge)) =
      (Graph.buildEdges files symbols).map fun e => (a, e) :=
  mapM_record EdgeRow.record _ _ h.edges fun _ _ _ => ⟨_, EdgeRow.record_new, rfl⟩

lemma Embedded.exists_embeddings (h : s.Embedded a services window files symbols)
    (sound : s.Sound) (takes : s.TakesEmbeddings) :
    ∃ commits, s.listCommits a window = .ok commits ∧
      ∃ embeddings, s.listEmbeddings a = .ok embeddings ∧
        embeddings.map (fun e => (e.subjectId, e.embedding)) =
          (Inference.embedAll services (Inference.planJobs files symbols commits)).map
            fun e => (a, e) := by
  obtain ⟨commits, now, kept, listed, rows, all⟩ := h.embedded
  obtain rfl := all takes
  have told := sound.planned_keeps services h.files_eq h.symbols_eq listed
  exact ⟨commits, listed, mapM_record EmbeddingRow.record _ _ rows
    fun _ e mem => ⟨_, EmbeddingRow.record_new (told e mem), rfl⟩⟩

end Store

namespace Analysis

namespace Outcome

variable {a m n : Int} {disk : Disk} {services : Inference.Services} {options : AnalysisOptions}
  {root : String} {stats stats' : SubjectStats} {s : Store} {v u : World}

/-! ## What is stored once more -/

lemma savedCommits_eq (first : Outcome a m disk services options root stats s v)
    (second : Outcome a n disk services options root stats' v.store u)
    (performed : ∀ e ∈ v.trace, e.answer.isOk = true)
    (performed' : ∀ e ∈ u.trace, e.answer.isOk = true) :
    savedCommits u.trace = savedCommits v.trace := by
  refine second.committed.rewrites.reuses.eq first.committed.rewrites.there ?_
  rw [savedCommits_of_performed performed, savedCommits_of_performed performed',
    first.committed.tried_eq, second.committed.tried_eq]

lemma savedFiles_eq (first : Outcome a m disk services options root stats s v)
    (second : Outcome a n disk services options root stats' v.store u)
    (performed : ∀ e ∈ v.trace, e.answer.isOk = true)
    (performed' : ∀ e ∈ u.trace, e.answer.isOk = true) :
    savedFiles u.trace = savedFiles v.trace := by
  refine second.fileNumbers.eq (first.recorded.files.there first.fileNumbers.once
    (fun _ _ same => congrArg (Prod.mk a) same) fun _ => rfl) ?_
  rw [savedFiles_of_performed performed, savedFiles_of_performed performed']
  exact Except.ok.inj (second.walked.symm.trans first.walked)

lemma savedSymbols_eq (first : Outcome a m disk services options root stats s v)
    (second : Outcome a n disk services options root stats' v.store u)
    (performed : ∀ e ∈ v.trace, e.answer.isOk = true)
    (performed' : ∀ e ∈ u.trace, e.answer.isOk = true) :
    savedSymbols u.trace = savedSymbols v.trace := by
  have places : ∀ x y : Int × Int × CodeSymbol, savedPlace x = savedPlace y →
      symbolKey x.2 = symbolKey y.2 := by
    intro x y same
    simp only [savedPlace, Prod.mk.injEq] at same
    simp [symbolKey, same]
  refine second.symbolNumbers.eq
    (first.recorded.symbols.there first.symbolNumbers.once places fun _ => rfl) ?_
  rw [savedSymbols_of_performed performed, savedSymbols_of_performed performed', first.parsed,
    second.parsed, savedFiles_eq first second performed performed']

/-! ## The rows of a subject -/

/-- The files that are listed are those that were stored. -/
lemma mem_files (h : Outcome a m disk services options root stats s v) (e : Int × FileRow) :
    e ∈ v.store.files.filter (Store.IsListed a) ↔
      ∃ f, (e.1, f) ∈ latest savedPath (savedFiles v.trace) ∧
        e.2 = .analyzed services.libraries.parse a m f := by
  rw [Table.mem_filter, Store.isListed_iff]
  exact h.recorded.rows_files h.kept h.swept e

/-- The symbols of a subject are those that were stored. -/
lemma mem_symbols (h : Outcome a m disk services options root stats s v) (e : Int × SymbolRow) :
    e ∈ v.store.symbols.filter (·.subjectId = a) ↔
      ∃ y, (e.1, y) ∈ latest savedPlace (savedSymbols v.trace) ∧ e.2 = .new a y.1 y.2 m := by
  rw [Table.mem_filter, decide_eq_true_eq]
  exact h.recorded.rows_symbols h.kept h.pruned e

/-- The file of a symbol is one of those that were stored. -/
lemma find_file (h : Outcome a m disk services options root stats s v) {e : Int × SymbolRow}
    (he : e ∈ v.store.symbols.filter (·.subjectId = a)) :
    ∃ f, (e.2.fileId, f) ∈ latest savedPath (savedFiles v.trace) := by
  obtain ⟨mem, ha⟩ := Table.mem_filter.1 he
  have ha : e.2.subjectId = a := by simpa using ha
  obtain ⟨f, found, -⟩ := h.sound.symbolHomes e mem
  obtain ⟨g, last, -⟩ := h.recorded.file_of_symbol h.kept h.sound h.pruned mem ha found
  exact ⟨g, last⟩

lemma find?_file (h : Outcome a m disk services options root stats s v) {id : Int} {f : SourceFile}
    (last : (id, f) ∈ latest savedPath (savedFiles v.trace)) :
    v.store.files.find? id = some (.analyzed services.libraries.parse a m f) := by
  obtain ⟨row, -⟩ := (h.recorded.files (id, .analyzed services.libraries.parse a m f)).2
    ⟨f, last, rfl⟩
  exact h.sound.fileIds.find?_eq_some.2 row

/-- The second of two runs leaves what the first has left, and gives the same counts. -/
theorem alike_of_repeated (first : Outcome a m disk services options root stats s v)
    (second : Outcome a n disk services options root stats' v.store u)
    (performed : ∀ e ∈ v.trace, e.answer.isOk = true)
    (performed' : ∀ e ∈ u.trace, e.answer.isOk = true) (takes : v.store.TakesEmbeddings)
    (takes' : u.store.TakesEmbeddings) : v.store.Alike a u.store ∧ stats' = stats := by
  have sameFiles := savedFiles_eq first second performed performed'
  have sameSymbols := savedSymbols_eq first second performed performed'
  have rows := second.mem_files
  have rows' := second.mem_symbols
  rw [sameFiles] at rows
  rw [sameSymbols] at rows'
  have files : u.store.files.filter (Store.IsListed a) = _ :=
    Table.filter_eq_map first.sound.fileIds second.sound.fileIds first.mem_files rows
      (f := FileRow.remarked n) fun _ => rfl
  have symbols : u.store.symbols.filter (·.subjectId = a) = _ :=
    Table.filter_eq_map first.sound.symbolIds second.sound.symbolIds first.mem_symbols rows'
      (f := SymbolRow.remarked n) fun _ => rfl
  have commits : u.store.commits.rows = v.store.commits.rows := by
    have overlays := second.committed.overlays
    rw [savedCommits_eq first second performed performed'] at overlays
    exact first.committed.overlays.again overlays first.sound.commitIds second.sound.commitIds
  have listFiles := Store.listFiles_remarked files
  have listSymbols := Store.listSymbols_remarked symbols fun e he => by
    obtain ⟨f, last⟩ := first.find_file he
    rw [first.find?_file last, second.find?_file (sameFiles ▸ last)]
    rfl
  have listCommits : ∀ limit, u.store.listCommits a limit = v.store.listCommits a limit := by
    intro limit
    simp only [Store.listCommits, Table.filter, commits]
  obtain ⟨walked, parsed, tallied⟩ := first.tallied
  obtain ⟨walked', parsed', tallied'⟩ := second.tallied
  have hwalked := tallied'.files_eq.symm.trans (listFiles.trans tallied.files_eq)
  have hparsed := tallied'.symbols_eq.symm.trans (listSymbols.trans tallied.symbols_eq)
  cases hwalked
  cases hparsed
  have counts : u.store.calculateStats a = v.store.calculateStats a :=
    Store.calculateStats_remarked files symbols commits (tallied'.edges.trans tallied.edges.symm)
  refine ⟨⟨⟨walked, tallied.files_eq, tallied'.files_eq⟩, ⟨parsed, tallied.symbols_eq,
    tallied'.symbols_eq⟩, listCommits, ?_, ?_⟩,
    second.counted.trans (counts.trans first.counted.symm)⟩
  · obtain ⟨edges, edges_eq, built⟩ := tallied.exists_edges
    obtain ⟨edges', edges_eq', built'⟩ := tallied'.exists_edges
    exact ⟨edges, edges', edges_eq, edges_eq', built'.trans built.symm⟩
  · obtain ⟨commits, listed, embeddings, embeddings_eq, planned⟩ :=
      tallied.exists_embeddings first.sound takes
    obtain ⟨commits', listed', embeddings', embeddings_eq', planned'⟩ :=
      tallied'.exists_embeddings second.sound takes'
    cases listed'.symm.trans ((listCommits _).trans listed)
    exact ⟨embeddings, embeddings', embeddings_eq, embeddings_eq', planned'.trans planned.symm⟩

end Outcome

/-- After any calls, two runs of the same kind follow each other, both succeed and none of their
operations fails. If the marks of both are fresh, the second one leaves all that is listed as it is,
but for the numbers of edges and vectors, and it gives the same counts. -/
theorem run_repeats {log : List (Call × Ending)} {a : Int} {w v u : World}
    (history : History log w) {disk : Disk} {services : Inference.Services}
    {options : AnalysisOptions} {stats stats' : SubjectStats}
    (first : (run disk services a options).run.Steps w (.done (.ok stats)) v)
    (second : (run disk services a options).run.Steps ⟨v.store, v.time, []⟩ (.done (.ok stats')) u)
    (performed : ∀ e ∈ v.trace ++ u.trace, e.answer.isOk = true)
    (takes : w.store.TakesEmbeddings)
    (fresh : ∀ e ∈ v.trace, ∀ m, e.operation.mark? = some m → ¬ w.store.HasMark a m)
    (fresh' : ∀ e ∈ u.trace, ∀ m, e.operation.mark? = some m → ¬ v.store.HasMark a m) :
    v.store.Alike a u.store ∧ stats' = stats := by
  have between : History ((.analyze disk services a options, .returned true) :: log)
      ⟨v.store, v.time, []⟩ := history.returned (first.bind (.refl _ _))
  have takes_v : v.store.TakesEmbeddings := takes.congr first.refusals
  have takes_u : u.store.TakesEmbeddings := takes_v.congr second.refusals
  obtain ⟨m, subject, found, outcome⟩ := run_outcome history.regular history.fresh first fresh
  obtain ⟨n, subject', found', outcome'⟩ := run_outcome between.regular rfl second fresh'
  have root : HasRoot a subject.rootPath v.store :=
    (run_keeps_root history.fresh (hasRoot_of_getSubject found)).of_steps first
  rw [root.rootPath_eq found'] at outcome'
  exact outcome.alike_of_repeated outcome' (fun e he => performed e (List.mem_append_left _ he))
    (fun e he => performed e (List.mem_append_right _ he)) takes_v takes_u

section Example

/-- Both sources are gone through once more when the clock has gone on. -/
lemma run_pairTree_again :
    ((run pairTree lengths 1 {}).run.run lengths (fun _ => 7) ⟨pairStore, 0, []⟩).1 =
      .ok ⟨2, 2, 2, 2, ["python"]⟩ ∧
    ((run pairTree lengths 1 {}).run.events lengths (fun _ => 7)
      ⟨pairStore, 0, []⟩).all (·.answer.isOk) = true ∧
    ((run pairTree lengths 1 {}).run.events lengths (fun _ => 7)
      ⟨pairStore, 0, []⟩).filterMap (·.operation.mark?) = List.replicate 6 7 ∧
    ¬ pairStore.HasMark 1 7 ∧
    (pairStore.listFiles 1).map (·.map fun f => (f.id, f.file.path)) =
      .ok [(1, "main.py"), (2, "util.py")] ∧
    (pairStore.listSymbols 1).map (·.map fun y => (y.id, y.symbol.name)) =
      .ok [(1, "main"), (2, "twice")] ∧
    (pairStore.listCommits 1 2).map (·.map fun c => (c.id, c.commit.hash)) =
      .ok [(1, "c2"), (2, "c1")] := by
  decide +kernel

/-- Two sources and two commits stay as they are when they are gone through twice. -/
theorem run_repeats_pairTree : ∃ log w v u stats', History log w ∧
    (run pairTree lengths 1 {}).run.Steps w (.done (.ok ⟨2, 2, 2, 2, ["python"]⟩)) v ∧
    (run pairTree lengths 1 {}).run.Steps ⟨v.store, v.time, []⟩ (.done (.ok stats')) u ∧
    v.store.Alike 1 u.store ∧ stats' = ⟨2, 2, 2, 2, ["python"]⟩ ∧
    (v.store.listFiles 1).map (·.map fun f => (f.id, f.file.path)) =
      .ok [(1, "main.py"), (2, "util.py")] ∧
    (v.store.listSymbols 1).map (·.map fun y => (y.id, y.symbol.name)) =
      .ok [(1, "main"), (2, "twice")] ∧
    (v.store.listCommits 1 2).map (·.map fun c => (c.id, c.commit.hash)) =
      .ok [(1, "c2"), (2, "c1")] := by
  obtain ⟨-, performed, marks, fresh, -⟩ := run_pairTree
  obtain ⟨value', performed', marks', fresh', files, symbols, commits⟩ := run_pairTree_again
  obtain ⟨v, earlier, store, trace, first⟩ := steps_pairTree
  obtain ⟨u, -, -, trace', second⟩ := steps_still (run pairTree lengths 1 {}).run lengths pairStore
    (show v.time ≤ 7 by omega)
  rw [value', ← store] at second
  rw [← trace] at performed marks
  rw [← trace'] at performed' marks'
  rw [← store] at fresh' files symbols commits
  have repeats := run_repeats (history_newSubject pairEntries pairTree.git) first second
    (fun e he => (List.mem_append.1 he).elim (List.all_eq_true.1 performed e)
      (List.all_eq_true.1 performed' e))
    (List.forall_mem_nil _)
    (fresh_of_marks (by simp [marks]) fresh) (fresh_of_marks (by simp [marks']) fresh')
  exact ⟨_, _, v, u, _, history_newSubject pairEntries pairTree.git, first, second, repeats.1,
    repeats.2, files, symbols, commits⟩

end Example

end Analysis

end CodeAtlas
