import CodeAtlas.Proofs.Documents
import CodeAtlas.Proofs.Operations

/-! # What is read back

The records of rows as the store writes them. -/
namespace CodeAtlas

/-- A file as its columns give it back. -/
def SourceFile.inColumns (f : SourceFile) : SourceFile :=
  { f with size := Store.columnSize f.size, lineCount := Store.columnSize f.lineCount }

/-- A symbol as its columns give it back. -/
def CodeSymbol.inColumns (y : CodeSymbol) : CodeSymbol :=
  { y with startLine := Store.columnSize y.startLine, endLine := Store.columnSize y.endLine }

namespace Store

@[simp] theorem ok_bind {a : α} {f : α → Except ε β} : (Except.ok a >>= f) = f a := rfl

section

variable {index : Nat}

@[simp] theorem getAt_subjectStatus (a : SubjectStatus) :
    (subjectStatus.write a).getAt subjectStatus index = .ok a :=
  (subjectStatus_keeps a).getAt index

@[simp] theorem getAt_questionStatus (a : QuestionStatus) :
    (questionStatus.write a).getAt questionStatus index = .ok a :=
  (questionStatus_keeps a).getAt index

@[simp] theorem getAt_symbolKind (a : SymbolKind) :
    (symbolKind.write a).getAt symbolKind index = .ok a :=
  (symbolKind_keeps a).getAt index

@[simp] theorem getAt_nodeKind (a : NodeKind) :
    (nodeKind.write a).getAt nodeKind index = .ok a :=
  (nodeKind_keeps a).getAt index

@[simp] theorem getAt_edgeKind (a : EdgeKind) :
    (edgeKind.write a).getAt edgeKind index = .ok a :=
  (edgeKind_keeps a).getAt index

@[simp] theorem getAt_entityKind (a : EntityKind) :
    (entityKind.write a).getAt entityKind index = .ok a :=
  (entityKind_keeps a).getAt index

@[simp] theorem getAt_contentKind (a : ContentKind) :
    (contentKind.write a).getAt contentKind index = .ok a :=
  (contentKind_keeps a).getAt index

@[simp] theorem get_language (a : Language) :
    (language.write a).get language = .ok a :=
  language_keeps a

@[simp] theorem getAt_strings (a : List String) :
    (strings.write a).getAt strings index = .ok a :=
  (strings_keeps a).getAt index

@[simp] theorem getAt_parameters (a : List Parameter) :
    (parameters.write a).getAt parameters index = .ok a :=
  (parameters_keeps a).getAt index

end

@[simp] theorem Held.sizeAt_value {index : Nat} {column : String} {n : Int} :
    (Held.value n).sizeAt index column = .ok n.toNat := rfl

attribute [simp] Held.getAt_value

theorem Held.eq_of_word32At {index n m : Nat} {column : String}
    (h : (Held.value (n : Int)).word32At index column = .ok m) : m = n := by
  obtain ⟨k, hk, h⟩ := bind_eq_ok.1 h
  cases Except.ok.inj hk
  split at h
  · exact (Except.ok.inj h).symm
  · cases h

/-! ## Subjects -/

section

variable {old : SubjectRow} {id now : Int} {subject : Subject}

theorem SubjectRow.record_new {name rootPath : String} :
    (SubjectRow.new name rootPath now).record id =
      .ok ⟨id, name, rootPath, .pending, 0, none, ⟨0, 0, 0, 0, []⟩, none, false, now⟩ := by
  simp [SubjectRow.record, SubjectRow.new, pure, Except.pure]

theorem SubjectRow.record_updated (h : old.record id = .ok subject) (status : SubjectStatus)
    (progress : Option Nat) (message : Option String) :
    (old.updated now status progress message).record id =
      .ok { subject with
        status := status
        progress := (progress.map (min · 100)).getD subject.progress
        statusMessage := message <|> subject.statusMessage } := by
  simp only [SubjectRow.record, bind_eq_ok, pure_eq_ok] at h
  obtain ⟨p, hp, st, hs, c, hc, f, hf, fn, hfn, d, hd, l, hl, a, ha, del, hdel, cr, hcr, rfl⟩ := h
  cases progress <;> simp [SubjectRow.record, SubjectRow.updated, *]

theorem SubjectRow.record_counted (h : old.record id = .ok subject) (stats : SubjectStats)
    (analyzedAt : Int) :
    (old.counted stats analyzedAt).record id = .ok { subject with
      stats :=
        ⟨columnSize stats.totalCommits, columnSize stats.totalFiles,
          columnSize stats.totalFunctions, columnSize stats.totalDependencies, stats.languages⟩
      lastAnalyzedAt := some analyzedAt } := by
  simp only [SubjectRow.record, bind_eq_ok, pure_eq_ok] at h
  obtain ⟨p, hp, st, hs, c, hc, f, hf, fn, hfn, d, hd, l, hl, a, ha, del, hdel, cr, hcr, rfl⟩ := h
  simp [SubjectRow.record, SubjectRow.counted, columnSize, *]

theorem SubjectRow.status_of_record {status : SubjectStatus}
    (is : old.status = subjectStatus.write status) (h : old.record id = .ok subject) :
    subject.status = status := by
  simp only [SubjectRow.record, bind_eq_ok, pure_eq_ok] at h
  obtain ⟨p, -, st, hst, c, -, f, -, fn, -, d, -, l, -, a, -, del, -, cr, -, rfl⟩ := h
  rw [is, getAt_subjectStatus] at hst
  exact (Except.ok.inj hst).symm

/-- When a subject was last analyzed, if its row says so. -/
theorem SubjectRow.lastAnalyzedAt_of_record {last : Option Int}
    (stamp : old.lastAnalyzedAt = last.map Held.value) (h : old.record id = .ok subject) :
    subject.lastAnalyzedAt = last := by
  simp only [SubjectRow.record, bind_eq_ok, pure_eq_ok] at h
  obtain ⟨p, -, st, -, c, -, f, -, fn, -, d, -, l, -, a, ha, del, -, cr, -, rfl⟩ := h
  rw [stamp] at ha
  cases last <;> exact (Except.ok.inj ha).symm

theorem SubjectRow.rootPath_of_record (h : old.record id = .ok subject) :
    subject.rootPath = old.rootPath := by
  simp only [SubjectRow.record, bind_eq_ok, pure_eq_ok] at h
  obtain ⟨p, -, st, -, c, -, f, -, fn, -, d, -, l, -, a, -, del, -, cr, -, rfl⟩ := h
  rfl

end

/-! ## Rows that an analysis writes -/

variable {id subject now : Int}

theorem FileRow.record_new {f : SourceFile} {imports exports : List String} {seenAt : Int} :
    (FileRow.new subject f imports exports seenAt).record id =
      .ok ⟨id, subject, f.inColumns, imports, exports,
        Digest.Blake3.hashText f.content.toUTF8, false⟩ := by
  simp [FileRow.record, FileRow.new, SourceFile.inColumns, columnSize, Except.toOption, pure,
    Except.pure]

theorem SymbolRow.eq_of_record_new {file : Int} {path : String} {y : CodeSymbol} {seenAt : Int}
    {stored : StoredSymbol}
    (h : (SymbolRow.new subject file y seenAt).record id path = .ok stored) :
    stored = ⟨id, subject, file, path, y.inColumns⟩ := by
  simp only [SymbolRow.record, bind_eq_ok, pure_eq_ok] at h
  obtain ⟨k, hk, l, hl, m, hm, p, hp, x, hx, a, ha, c, hc, cs, hcs, rfl⟩ := h
  cases Held.eq_of_word32At hc
  simp only [SymbolRow.new, getAt_symbolKind, getAt_parameters, getAt_strings, Held.sizeAt_value,
    Held.getAt_value, Except.ok.injEq] at hk hl hm hp hx ha hcs
  subst hk hl hm hp hx ha hcs
  rfl

theorem EdgeRow.record_new {e : Edge} :
    (EdgeRow.new subject e).record id = .ok ⟨id, subject, e⟩ := by
  cases e with
  | mk sourceKind sourceId targetKind targetId targetName kind isExternal =>
    cases targetId <;> simp [EdgeRow.record, EdgeRow.new, pure, Except.pure]

/-- An embedding is read back but for its metadata, which are what their text is read as. -/
theorem EmbeddingRow.record_read {e : Embedding} {j : Json}
    (read : Store.metadata.decode (Store.metadata.encode e.metadata) = .ok j) :
    (EmbeddingRow.new subject now e).record id = .ok ⟨id, subject, { e with metadata := j }⟩ := by
  have column : (Store.metadata.write e.metadata).getAt Store.metadata 8 = .ok j := by
    rw [Coded.getAt, Coded.get, Codec.write, read]
  simp [EmbeddingRow.record, EmbeddingRow.new, vectorOfBytes_bytesOfVector, column, pure,
    Except.pure]

theorem EmbeddingRow.record_new {e : Embedding} (kept : Store.metadata.Keeps e.metadata) :
    (EmbeddingRow.new subject now e).record id = .ok ⟨id, subject, e⟩ := record_read kept

/-- Rows that are written are read back in their order. -/
lemma mapM_record {t : Table ρ} {p : ρ → Bool} {new : β → ρ} {xs : List β}
    (record : Int → ρ → Except StoreError γ) (value : γ → δ) (tag : β → δ)
    (rows : (t.filter p).map Prod.snd = xs.map new)
    (read : ∀ id, ∀ x ∈ xs, ∃ y, record id (new x) = .ok y ∧ value y = tag x) :
    ∃ ys, (t.filter p).mapM (fun e => record e.1 e.2) = .ok ys ∧ ys.map value = xs.map tag := by
  generalize t.filter p = es at rows
  induction es generalizing xs with
  | nil =>
    obtain rfl : xs = [] := List.map_eq_nil_iff.1 rows.symm
    exact ⟨[], rfl, rfl⟩
  | cons e rest ih =>
    cases xs with
    | nil => cases rows
    | cons x xs =>
      rw [List.map_cons, List.map_cons, List.cons.injEq] at rows
      obtain ⟨y, hy, same⟩ := read e.1 x List.mem_cons_self
      obtain ⟨ys, hys, later⟩ := ih (fun id x mem => read id x (List.mem_cons_of_mem _ mem)) rows.2
      refine ⟨y :: ys, ?_, by rw [List.map_cons, List.map_cons, same, later]⟩
      rw [List.mapM_cons, rows.1, hy, ok_bind, hys]
      rfl

end Store

end CodeAtlas
