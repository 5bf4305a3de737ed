import CodeAtlas.Proofs.Calls

/-! # Stages

Which tables each stage of an analysis writes. What is known of the rows of one table is not changed
by the stages that write others. -/
namespace CodeAtlas

open Store (Operation TableName)

/-- No table is written but some. -/
def Store.Operation.Writes (tables : List TableName) (o : Operation) : Prop :=
  ∀ t ∈ o.table?, t ∈ tables

/-- What operations on other tables do not change. -/
structure About (table : TableName) (K : World → Prop) : Prop where
  read : ∀ w t, K w → w.time ≤ t → K (w.read t)
  answered : ∀ w t (o : Operation) r s, K w → o.table? ≠ some table →
    w.store.Answers t o r s → K (w.answered t o r s)

/-- What is about a table, and about what events say that write it. -/
lemma About.of_log {table : TableName} {f : Event → Option β} {P : List β → Store → Prop}
    (silent : ∀ (o : Operation) r s, o.table? ≠ some table → f ⟨o, r, s⟩ = none)
    (stable : ∀ l table? s s', table? ≠ some table → Store.SameBut table? s s' → P l s → P l s') :
    About table fun w => P (w.trace.filterMap f) w.store where
  read _ _ h _ := h
  answered w t o r s h other answers := by
    rw [Analysis.filterMap_answered, silent o r s other, Option.toList_none, List.append_nil]
    exact stable _ _ _ _ other answers.sameBut h

/-- A program that writes other tables leaves what is about one as it is. -/
lemma AsksOnly.leaves {tables : List TableName} {table : TableName} {x : ExceptT ε Program α}
    {K : World → Prop} {w : World} (h : AsksOnly (Operation.Writes tables) x)
    (about : About table K) (start : K w) (other : table ∉ tables := by simp) :
    EnsuresOr (fun _ _ => True) (fun _ v => K v) (fun _ _ => True) x w := by
  have kept := h.keeps start about.read fun v o t r s holds writes _ answers =>
    about.answered v t o r s holds (fun here => other (writes table here)) answers
  exact (kept.mono (fun _ _ holds => holds) fun _ _ _ => trivial).weaken fun _ _ _ => trivial

namespace Analysis

variable {kind : Operation → Prop} {subject seenAt : Int} {tables : List TableName}
  {reached progress : Nat} {message : String}

lemma need_asks {step : AnalysisStep} {o : Operation} (h : kind o) :
    AsksOnly kind (need step o) :=
  ⟨.of_request h (fun _ => trivial) fun _ => trivial⟩

lemma report_writes (h : .subjects ∈ tables) :
    AsksOnly (Operation.Writes tables) (report subject reached progress message) :=
  (need_asks (by simpa [Operation.Writes] using h)).bind fun _ => .pure

lemma report_leaves {table : TableName} {K : World → Prop} {w : World} (about : About table K)
    (start : K w) (other : table ≠ .subjects := by simp) :
    EnsuresOr (fun _ _ => True) (fun _ v => K v) (fun _ _ => True)
      (report subject reached progress message) w := by
  have writes : AsksOnly (Operation.Writes [.subjects]) (report subject reached progress message) :=
    report_writes List.mem_cons_self
  exact writes.leaves about start (by simpa using other)

lemma saveCommits_asks (commits : List Commit) (h : ∀ c ∈ commits, kind (.writeCommit subject c)) :
    AsksOnly kind (liftM (saveCommits subject commits) : Task Nat) := by
  refine ⟨.of_lift ?_⟩
  induction commits with
  | nil => exact .done trivial
  | cons c rest ih =>
    have later := ih fun d hd => h d (List.mem_cons_of_mem _ hd)
    exact .perform (h c List.mem_cons_self) fun _ => later.bind fun _ _ _ => .done trivial

lemma saveFiles_asks (files : List (SourceFile × Outline))
    (h : ∀ f ∈ files, ∀ imports exports, kind (.writeFile subject f.1 imports exports seenAt)) :
    AsksOnly kind (liftM (saveFiles subject seenAt files) : Task (List (Int × Outline))) := by
  refine ⟨.of_lift ?_⟩
  induction files with
  | nil => exact .done trivial
  | cons f rest ih =>
    have later := ih fun d hd => h d (List.mem_cons_of_mem _ hd)
    refine .perform (h f List.mem_cons_self _ _) fun r => later.bind fun _ _ _ => ?_
    cases r <;> exact .done trivial

lemma saveSymbols_asks (symbols : List (Int × CodeSymbol))
    (h : ∀ file y, kind (.writeSymbol subject file y seenAt)) :
    AsksOnly kind (liftM (saveSymbols subject seenAt symbols) : Task Nat) := by
  refine ⟨.of_lift ?_⟩
  induction symbols with
  | nil => exact .done trivial
  | cons y rest ih => exact .perform (h _ _) fun _ => ih.bind fun _ _ _ => .done trivial

variable {disk : Disk} {root : String} {last : Option Int} {services : Inference.Services}
  {options : AnalysisOptions}

lemma commitStage_writes :
    AsksOnly (Operation.Writes [.subjects, .commits])
      (commitStage disk root subject options reached) :=
  (report_writes (by simp)).bind fun _ =>
    (saveCommits_asks _ (by simp [Operation.Writes])).bind fun _ => report_writes (by simp)

lemma fileStage_writes :
    AsksOnly (Operation.Writes [.subjects, .files])
      (fileStage disk services root subject last options reached) :=
  (report_writes (by simp)).bind fun _ => AsksOnly.time.bind fun _ => AsksOnly.except.bind fun _ =>
    (saveFiles_asks _ (by simp [Operation.Writes])).bind fun _ =>
    (need_asks (by simp [Operation.Writes])).bind fun _ =>
    (report_writes (by simp)).bind fun _ => .pure

lemma symbolStage_writes {saved : List (Int × Outline)} :
    AsksOnly (Operation.Writes [.subjects, .symbols]) (symbolStage subject seenAt saved reached) :=
  (report_writes (by simp)).bind fun _ =>
    (saveSymbols_asks _ (by simp [Operation.Writes])).bind fun _ =>
    (need_asks (by simp [Operation.Writes])).bind fun _ => report_writes (by simp)

lemma edgeStage_writes :
    AsksOnly (Operation.Writes [.subjects, .edges]) (edgeStage subject reached) :=
  (report_writes (by simp)).bind fun _ => (need_asks (by simp [Operation.Writes])).bind fun _ =>
    (need_asks (by simp [Operation.Writes])).bind fun _ =>
    (need_asks (by simp [Operation.Writes])).bind fun _ =>
    (report_writes (by simp)).bind fun _ => .pure

lemma embeddingStage_writes {files : List StoredFile} {symbols : List StoredSymbol} :
    AsksOnly (Operation.Writes [.subjects, .embeddings])
      (embeddingStage services subject files symbols options reached) :=
  (report_writes (by simp)).bind fun _ => (need_asks (by simp [Operation.Writes])).bind fun _ =>
    (need_asks (by simp [Operation.Writes])).bind fun _ => report_writes (by simp)

lemma finalStage_writes : AsksOnly (Operation.Writes [.subjects]) (finalStage subject) :=
  (need_asks (by simp [Operation.Writes])).bind fun _ => AsksOnly.time.bind fun _ =>
    (need_asks (by simp [Operation.Writes])).bind fun _ =>
    (need_asks (by simp [Operation.Writes])).bind fun _ => .pure

lemma subjectToAnalyze_writes {force : Bool} :
    AsksOnly (Operation.Writes []) (subjectToAnalyze subject force) := by
  refine (need_asks (by simp [Operation.Writes])).bind fun found => ?_
  rcases found with _ | s
  · exact .throw
  · dsimp only
    split
    · exact .throw
    · exact .pure

/-- All that an analysis does writes these tables. -/
lemma run_writes :
    AsksOnly (Operation.Writes [.subjects, .commits, .files, .symbols, .edges, .embeddings])
      (run disk services subject options) := by
  have wider : ∀ {part : List TableName} {α : Type} {x : Task α},
      part ⊆ [.subjects, .commits, .files, .symbols, .edges, .embeddings] →
      AsksOnly (Operation.Writes part) x → AsksOnly (Operation.Writes
        [.subjects, .commits, .files, .symbols, .edges, .embeddings]) x :=
    fun sub h => h.mono fun o writes t ht => sub (writes t ht)
  refine (wider (List.nil_subset _) subjectToAnalyze_writes).bind fun s =>
    AsksOnly.tryCatch ?_ fun e => ?_
  · exact (report_writes (by simp)).bind fun _ => (wider (by simp) commitStage_writes).bind fun _ =>
      (wider (by simp) fileStage_writes).bind fun _ =>
      (wider (by simp) symbolStage_writes).bind fun _ =>
      (wider (by simp) edgeStage_writes).bind fun _ =>
      (wider (by simp) embeddingStage_writes).bind fun _ => wider (by simp) finalStage_writes
  · refine AsksOnly.bind ⟨.of_lift ?_⟩ fun _ => .throw
    have writes : ∀ m, Operation.Writes [.subjects, .commits, .files, .symbols, .edges, .embeddings]
        (.updateStatus subject .error none m) := by simp [Operation.Writes]
    exact .perform (writes _) fun _ => .done trivial

end Analysis

end CodeAtlas
