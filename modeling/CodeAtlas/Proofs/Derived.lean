import CodeAtlas.Proofs.Progress
import CodeAtlas.Proofs.Resolution

/-! # What is derived

The edges, the vectors and the counts that an analysis derives from what it lists. The listed files
and symbols are still those of the store when the analysis is done. -/
namespace CodeAtlas

/-! ## Edges -/

namespace Graph

/-- A file or a symbol that is there. -/
def IsNode (files : List StoredFile) (symbols : List StoredSymbol) : NodeKind → Int → Prop
  | .file, id => ∃ f ∈ files, f.id = id
  | .function, id => ∃ y ∈ symbols, y.id = id
  | _, _ => False

variable {files : List StoredFile} {symbols : List StoredSymbol} {e : Edge}

/-- An edge within a subject leads from one of its files or symbols to another of the same kind. -/
lemma edgeTo_nodes {kind : EdgeKind} {sourceKind : NodeKind} {sourceId : Int} {name : String}
    {target : Option Int}
    (there : ∀ id, target = some id → IsNode files symbols sourceKind id) :
    ∀ id, (edgeTo kind sourceKind sourceId name target).targetId = some id →
      IsNode files symbols (edgeTo kind sourceKind sourceId name target).targetKind id := by
  intro id h
  obtain rfl : target = some id := h
  exact there id rfl

/-- The edges of a subject begin at its files and symbols, and end there unless they lead out. -/
theorem buildEdges_nodes (h : e ∈ buildEdges files symbols) :
    IsNode files symbols e.sourceKind e.sourceId ∧
      ∀ id, e.targetId = some id → IsNode files symbols e.targetKind id := by
  rcases List.mem_append.1 h with h | h
  · obtain ⟨f, hf, h⟩ := List.mem_flatMap.1 h
    obtain ⟨specifier, -, rfl⟩ := List.mem_map.1 h
    have source : IsNode files symbols .file f.id := ⟨f, hf, rfl⟩
    refine ⟨source, edgeTo_nodes fun id hid => ?_⟩
    obtain ⟨path, hpath⟩ := resolveImport_mem hid
    obtain ⟨g, hg, same⟩ := List.mem_map.1 (mem_of_numberOf hpath)
    exact ⟨g, hg, (Prod.mk.inj same).2⟩
  · obtain ⟨y, hy, h⟩ := List.mem_flatMap.1 h
    obtain ⟨name, -, rfl⟩ := List.mem_map.1 h
    have source : IsNode files symbols .function y.id := ⟨y, hy, rfl⟩
    refine ⟨source, edgeTo_nodes fun id hid => ?_⟩
    obtain ⟨z, hz, rfl⟩ := Option.map_eq_some_iff.1 hid
    exact ⟨z, List.mem_of_find?_eq_some hz, rfl⟩

end Graph

/-! ## Stores -/

namespace Store

/-- The counts that a row has. -/
structure SubjectRow.Holds (r : SubjectRow) (stats : SubjectStats) : Prop where
  commits : r.totalCommits = .value (columnInt stats.totalCommits)
  files : r.totalFiles = .value (columnInt stats.totalFiles)
  functions : r.totalFunctions = .value (columnInt stats.totalFunctions)
  dependencies : r.totalDependencies = .value (columnInt stats.totalDependencies)
  languages : r.languages = strings.write stats.languages

/-- What is listed of a subject. -/
structure Listed (a : Int) (files : List StoredFile) (symbols : List StoredSymbol) (s : Store) :
    Prop where
  files_eq : s.listFiles a = .ok files
  symbols_eq : s.listSymbols a = .ok symbols

/-- The edges of a subject are those of what is listed. -/
structure Linked (a : Int) (files : List StoredFile) (symbols : List StoredSymbol) (s : Store) :
    Prop extends Listed a files symbols s where
  edges : (s.edges.filter (·.subjectId = a)).map Prod.snd =
    (Graph.buildEdges files symbols).map (EdgeRow.new a)

/-- The vectors of a subject are those of what is listed, but for those that were refused. -/
structure Embedded (a : Int) (services : Inference.Services) (window : Nat)
    (files : List StoredFile) (symbols : List StoredSymbol) (s : Store) : Prop
    extends Linked a files symbols s where
  embedded : ∃ commits now kept, s.listCommits a window = .ok commits ∧
    (s.embeddings.filter (·.subjectId = a)).map Prod.snd = kept.map (EmbeddingRow.new a now) ∧
    (s.TakesEmbeddings →
      kept = Inference.embedAll services (Inference.planJobs files symbols commits))

/-- The counts of a subject are those of what is stored. -/
structure Tallied (a : Int) (services : Inference.Services) (window : Nat)
    (files : List StoredFile) (symbols : List StoredSymbol) (s : Store) : Prop
    extends Embedded a services window files symbols s where
  tallied : ∃ row, s.subjects.find? a = some row ∧ row.Holds (s.calculateStats a)

variable {s s' : Store} {a now : Int} {files : List StoredFile} {symbols : List StoredSymbol}
  {services : Inference.Services} {window : Nat} {t? : Option TableName}

lemma TakesEmbeddings.congr (h : s.TakesEmbeddings) (same : s'.refusals = s.refusals) :
    s'.TakesEmbeddings := by
  unfold TakesEmbeddings
  rw [same]
  exact h

lemma Listed.congr (h : s.Listed a files symbols) (sameFiles : s'.files = s.files)
    (sameSymbols : s'.symbols = s.symbols) : s'.Listed a files symbols := by
  constructor
  · rw [← h.files_eq]
    simp only [listFiles, sameFiles]
  · rw [← h.symbols_eq]
    simp only [listSymbols, symbolRows, sameFiles, sameSymbols]

lemma Linked.congr (h : s.Linked a files symbols) (sameFiles : s'.files = s.files)
    (sameSymbols : s'.symbols = s.symbols) (sameEdges : s'.edges = s.edges) :
    s'.Linked a files symbols where
  toListed := h.toListed.congr sameFiles sameSymbols
  edges := by
    rw [sameEdges]
    exact h.edges

lemma Embedded.congr (h : s.Embedded a services window files symbols)
    (same : SameBut (some .subjects) s s') : s'.Embedded a services window files symbols where
  toLinked :=
    h.toLinked.congr (same.files (by simp)) (same.symbols (by simp)) (same.edges (by simp))
  embedded := by
    obtain ⟨commits, now, kept, listed, rows, all⟩ := h.embedded
    refine ⟨commits, now, kept, ?_, ?_, fun takes => all (takes.congr same.refusals.symm)⟩
    · rw [← listed]
      simp only [listCommits, same.commits (by simp)]
    · rw [same.embeddings (by simp)]
      exact rows

lemma calculateStats_congr (same : SameBut (some .subjects) s s') :
    s'.calculateStats a = s.calculateStats a := by
  simp only [calculateStats, same.commits (by simp), same.files (by simp), same.symbols (by simp),
    same.edges (by simp)]

lemma Listed.link (h : s.Listed a files symbols) {n : Nat}
    (answers : s.Answers now (.replaceEdges a (Graph.buildEdges files symbols)) (.ok n) s') :
    s'.Linked a files symbols := by
  have same := answers.sameBut
  refine ⟨h.congr (same.files (by simp)) (same.symbols (by simp)), ?_⟩
  obtain ⟨e, he, -⟩ | ⟨-, rfl⟩ := answers.replaceEdges
  · cases he
  · refine Table.map_filter_replaced fun r hr => ?_
    obtain ⟨e, -, rfl⟩ := List.mem_map.1 hr
    simp [EdgeRow.new]

lemma Linked.embed (h : s.Linked a files symbols) (present : s.subjects.contains a = true)
    {commits : List StoredCommit} (listed : s.listCommits a window = .ok commits) {n : Nat}
    (answers : s.Answers now (.replaceEmbeddings a
      (Inference.embedAll services (Inference.planJobs files symbols commits))) (.ok n) s') :
    s'.Embedded a services window files symbols := by
  have same := answers.sameBut
  refine ⟨h.congr (same.files (by simp)) (same.symbols (by simp)) (same.edges (by simp)), ?_⟩
  obtain ⟨e, he, -⟩ | ⟨-, kept, rfl, all⟩ := answers.replaceEmbeddings
  · cases he
  · refine ⟨commits, now, kept, listed, ?_, fun takes => all takes present⟩
    refine Table.map_filter_replaced fun r hr => ?_
    obtain ⟨e, -, rfl⟩ := List.mem_map.1 hr
    simp [EmbeddingRow.new]

lemma Embedded.tally (h : s.Embedded a services window files symbols)
    (present : s.subjects.contains a = true) {analyzedAt : Int}
    (answers : s.Answers now (.saveStats a (s.calculateStats a) analyzedAt) (.ok ()) s') :
    s'.Tallied a services window files symbols := by
  have same := answers.sameBut
  refine ⟨h.congr same, ?_⟩
  rw [calculateStats_congr same]
  obtain ⟨e, he, -⟩ | ⟨-, ⟨missing, -⟩ | ⟨old, found, rfl⟩⟩ := answers.saveStats
  · cases he
  · simp [Table.contains, missing] at present
  · exact ⟨old.counted (s.calculateStats a) analyzedAt, by simp [Table.find?_set, found],
      rfl, rfl, rfl, rfl, rfl⟩

lemma Tallied.finish (h : s.Tallied a services window files symbols) {status : SubjectStatus}
    {progress : Option Nat} {message : Option String}
    (answers : s.Answers now (.updateStatus a status progress message) (.ok ()) s') :
    s'.Tallied a services window files symbols := by
  have same := answers.sameBut
  refine ⟨h.toEmbedded.congr same, ?_⟩
  rw [calculateStats_congr same]
  obtain ⟨row, hrow, holds⟩ := h.tallied
  obtain ⟨e, he, -⟩ | ⟨-, old, found, rfl⟩ := answers.updateStatus
  · cases he
  · cases hrow.symm.trans found
    exact ⟨row.updated now status progress message, by simp [Table.find?_set, found],
      holds.1, holds.2, holds.3, holds.4, holds.5⟩

end Store

/-! ## Stages -/

namespace Analysis

open Store (SameBut)

/-- What a part of an analysis makes of the store if it ends well. -/
structure Settles (x : Task α) (K : Store → Prop) (ok : α → Store → Prop) : Prop where
  ensures : ∀ w, K w.store →
    EnsuresOr (fun _ _ => True) (fun c v => ok c v.store) (fun _ _ => True) x w

variable {K : Store → Prop} {a : Int} {files : List StoredFile} {symbols : List StoredSymbol}
  {services : Inference.Services} {options : AnalysisOptions}

lemma Settles.bind {x : Task α} {f : α → Task β} {M : α → Store → Prop} {ok : β → Store → Prop}
    (hx : Settles x K M) (hf : ∀ c, Settles (f c) (M c) ok) : Settles (x >>= f) K ok :=
  ⟨fun w h => (hx.ensures w h).bind fun c v hv => (hf c).ensures v hv⟩

lemma settles_pure {c : α} {ok : α → Store → Prop} (h : ∀ s, K s → ok c s) :
    Settles (pure c) K ok :=
  ⟨fun w hw => .of_pure (h w.store hw)⟩

lemma settles_any {x : Task α} : Settles x K fun _ _ => True := by
  refine ⟨fun w _ => ⟨(Program.ensures_trivial x.run w).mono fun r v _ => ?_⟩⟩
  cases r <;> trivial

lemma settles_need {step : AnalysisStep} {o : Store.Operation} {ok : o.Result → Store → Prop}
    (good : ∀ s t c s', K s → s.Answers t o (.ok c) s' → ok c s') : Settles (need step o) K ok :=
  ⟨fun w h => need_ensures trivial (fun t _ c s answers => good w.store t c s h answers)
    fun _ _ _ _ _ => trivial⟩

lemma settles_read {step : AnalysisStep} {o : Store.Operation} (reads : o.table? = none) :
    Settles (need step o) K fun c s => K s ∧ ∃ t, (s.perform t o).1 = .ok c := by
  refine settles_need fun s t c s' h answers => ?_
  cases answers.eq_of_reads reads
  exact ⟨h, t, congrArg Prod.fst answers.eq_perform⟩

lemma settles_time : Settles (liftM Program.time) K fun _ s => K s :=
  ⟨fun _ h => .of_lift (time_ensures trivial fun _ _ => h)⟩

/-- A report changes nothing but a subject that is there. -/
lemma settles_report {reached progress : Nat} {message : String}
    (stable : ∀ s s', SameBut (some .subjects) s s' → K s → K s') :
    Settles (report a reached progress message) K
      fun _ s => K s ∧ s.subjects.contains a = true := by
  refine Settles.bind (M := fun _ s => K s ∧ s.subjects.contains a = true)
    (settles_need fun s t c s' h answers => ?_) fun _ => settles_pure fun _ h => h
  refine ⟨stable s s' answers.sameBut h, ?_⟩
  obtain ⟨e, he, -⟩ | ⟨-, old, found, rfl⟩ := answers.updateStatus
  · cases he
  · simp [Store.Table.contains, Store.Table.find?_set, found]

lemma settles_edgeStage {reached : Nat} :
    Settles (edgeStage a reached) K fun out s => s.Linked a out.2.1 out.2.2 := by
  refine settles_any.bind fun _ => (settles_read (by rfl)).bind fun files => ?_
  refine (settles_read (by rfl)).bind fun symbols => ?_
  refine Settles.bind (M := fun _ s => s.Linked a files symbols) ?_ fun _ => ?_
  · refine settles_need fun s t n s' h answers => ?_
    obtain ⟨⟨-, _, listed⟩, _, listed'⟩ := h
    exact Store.Listed.link ⟨listed, listed'⟩ answers
  · refine (settles_report fun s s' same h => ?_).bind fun _ => settles_pure fun s h => h.1
    exact h.congr (same.files (by simp)) (same.symbols (by simp)) (same.edges (by simp))

lemma settles_embeddingStage {reached : Nat} :
    Settles (embeddingStage services a files symbols options reached)
      (fun s => s.Linked a files symbols)
      fun _ s => s.Embedded a services options.commitWindow files symbols ∧
        s.subjects.contains a = true := by
  refine (settles_report fun s s' same h => ?_).bind fun _ => ?_
  · exact h.congr (same.files (by simp)) (same.symbols (by simp)) (same.edges (by simp))
  refine (settles_read (by rfl)).bind fun commits => ?_
  refine Settles.bind (M := fun _ s => s.Embedded a services options.commitWindow files symbols)
    (settles_need fun s t n s' h answers => ?_) fun _ =>
    settles_report fun s s' same h => h.congr same
  obtain ⟨⟨linked, present⟩, _, listed⟩ := h
  exact linked.embed present listed answers

lemma settles_finalStage {window : Nat} :
    Settles (finalStage a)
      (fun s => s.Embedded a services window files symbols ∧ s.subjects.contains a = true)
      fun _ s => s.Tallied a services window files symbols := by
  refine (settles_read (by rfl)).bind fun stats => settles_time.bind fun now => ?_
  refine Settles.bind (M := fun _ s => s.Tallied a services window files symbols)
    (settles_need fun s t n s' h answers => ?_) fun _ => Settles.bind
    (M := fun _ s => s.Tallied a services window files symbols)
    (settles_need fun s t c s' h answers => h.finish answers) fun _ => settles_pure fun _ h => h
  obtain ⟨⟨embedded, present⟩, _, counted⟩ := h
  cases counted
  exact embedded.tally present answers

lemma settles_stages {disk : Disk} {subject : Subject} :
    Settles (stages disk services subject options) K fun _ s => ∃ files symbols,
      s.Tallied subject.id services options.commitWindow files symbols := by
  refine settles_any.bind fun _ => settles_any.bind fun _ => settles_any.bind fun ⟨_, m, saved⟩ =>
    settles_any.bind fun _ => settles_edgeStage.bind fun ⟨_, files, symbols⟩ =>
    settles_embeddingStage.bind fun _ => ?_
  exact ⟨fun w h => (settles_finalStage.ensures w h).mono (fun _ _ tallied => ⟨_, _, tallied⟩)
    fun _ _ _ => trivial⟩

/-- A run that succeeds has derived all that there is to derive from what it leaves. -/
theorem run_settles {disk : Disk} {w : World} (fresh : w.trace = []) :
    EnsuresOr (fun _ _ => True) (fun _ v => ∃ files symbols,
      v.store.Tallied a services options.commitWindow files symbols) (fun _ _ => True)
      (run disk services a options) w := by
  have ends : EnsuresOr _ _ _ (run disk services a options) w :=
    run_ends fresh fun _ v _ => (settles_stages (K := fun _ => True)).ensures v trivial
  refine ends.mono (fun _ v tallied => ?_) fun _ _ _ => trivial
  obtain ⟨subject, found, files, symbols, tallied⟩ := tallied
  obtain rfl := Store.getSubject_id found
  exact ⟨files, symbols, tallied⟩

end Analysis

end CodeAtlas
