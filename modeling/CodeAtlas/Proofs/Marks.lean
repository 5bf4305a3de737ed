import CodeAtlas.Proofs.Requests
import CodeAtlas.Proofs.Soundness

/-! # Marks

A run gives the files and symbols that it sees its mark, and sweeps what has another. No mark of a
subject is beyond the one that its next run would have. -/
namespace CodeAtlas

open Store (Operation)

namespace Store

/-- No file of a subject has a mark beyond `m`, a deleted file has an earlier one, and no symbol has
a later mark than its file. -/
structure Capped (s : Store) (a m : Int) : Prop where
  files : ∀ e ∈ s.files.rows, e.2.subjectId = a → ∃ k d, e.2.lastSeenAt = .value k ∧
    e.2.isDeleted = .value d ∧ k ≤ m ∧ (d = true → k < m)
  symbols : ∀ e ∈ s.symbols.rows, e.2.subjectId = a → ∃ k f j, e.2.lastSeenAt = .value k ∧
    s.files.find? e.2.fileId = some f ∧ f.lastSeenAt = .value j ∧ k ≤ j

variable {s s' : Store} {a m now : Int}

namespace Capped

lemma mono (h : s.Capped a m) {m' : Int} (le : m ≤ m') : s.Capped a m' where
  files e he ha := by
    obtain ⟨k, d, hk, hd, hle, hlt⟩ := h.files e he ha
    exact ⟨k, d, hk, hd, by omega, fun deleted => by have := hlt deleted; omega⟩
  symbols := h.symbols

lemma congr (h : s.Capped a m) (files : s'.files = s.files) (symbols : s'.symbols = s.symbols) :
    s'.Capped a m := by
  constructor
  · rw [files]
    exact h.files
  · rw [files, symbols]
    exact h.symbols

/-- What is the same of a subject is capped alike. -/
lemma sameFor (h : s.Capped a m) (same : SameFor a s s') (sound : s.Sound) (sound' : s'.Sound) :
    s'.Capped a m := by
  have old : ∀ e ∈ s'.symbols.rows, e.2.subjectId = a → e ∈ s.symbols.filter (·.subjectId = a) := by
    intro e he ha
    rw [← same.symbols]
    exact Table.mem_filter.2 ⟨he, by simpa using ha⟩
  constructor
  · intro e he ha
    have mem : e ∈ s.files.filter (·.subjectId = a) := by
      rw [← same.files]
      exact Table.mem_filter.2 ⟨he, by simpa using ha⟩
    exact h.files e (Table.mem_filter.1 mem).1 ha
  · intro e he ha
    obtain ⟨k, f, j, hk, found, hj, hle⟩ := h.symbols e (Table.mem_filter.1 (old e he ha)).1 ha
    exact ⟨k, f, j, hk, (same.find_file sound sound' (old e he ha)).trans found, hj, hle⟩

/-- A symbol's file is of the same subject, so it is capped too. -/
lemma file_le (h : s.Capped a m) (sound : s.Sound) {e : Int × SymbolRow} (he : e ∈ s.symbols.rows)
    (ha : e.2.subjectId = a) {f : FileRow} (found : s.files.find? e.2.fileId = some f) {j : Int}
    (hj : f.lastSeenAt = .value j) : j ≤ m := by
  obtain ⟨f', found', home⟩ := sound.symbolHomes e he
  cases found.symm.trans found'
  obtain ⟨k, -, hk, -, hle, -⟩ :=
    h.files _ (sound.fileIds.find?_eq_some.1 found) (home.trans ha)
  cases hk.symm.trans hj
  exact hle

lemma writeFile (h : s.Capped a m) (sound : s.Sound) {f : SourceFile}
    {imports exports : List String} {id : Int} {t : Table FileRow}
    (written : s.files.Written (fun r => r.subjectId = a && r.path = f.path)
      (fun _ => .new a f imports exports m) (.new a f imports exports m)
      (s.subjects.contains a) id t) :
    Capped { s with files := t } a m := by
  have mem := sound.mem_writeFile written
  have ordered := written.ordered sound.fileIds
  constructor
  · intro e he ha
    rcases (mem e).1 he with ⟨he, -⟩ | rfl
    · exact h.files e he ha
    · exact ⟨m, false, rfl, rfl, Int.le_refl m, nofun⟩
  · intro e he ha
    obtain ⟨k, old, j, hk, found, hj, hle⟩ := h.symbols e he ha
    have bound := h.file_le sound he ha found hj
    by_cases hid : e.2.fileId = id
    · exact ⟨k, _, m, hk, ordered.find?_eq_some.2 ((mem _).2 (.inr (by rw [hid]))), rfl, by omega⟩
    · exact ⟨k, old, j, hk, ordered.find?_eq_some.2
        ((mem _).2 (.inl ⟨sound.fileIds.find?_eq_some.1 found, hid⟩)), hj, hle⟩

lemma markUnseen (h : s.Capped a m) (sound : s.Sound) :
    Capped { s with files := s.sweptFiles a m } a m := by
  have ordered : (s.sweptFiles a m).Ordered := sound.fileIds.update ..
  constructor
  · intro e he ha
    obtain ⟨old, hold, heq⟩ := mem_sweptFiles.1 he
    have ha' : old.subjectId = a := by simpa [heq] using ha
    obtain ⟨k, d, hk, hd, hle, hlt⟩ := h.files _ hold ha'
    by_cases unseen : old.isUnseen a m = true
    · have hne : k ≠ m := by
        rintro rfl
        exact (FileRow.isUnseen_iff.1 unseen).2.2 hk
      exact ⟨k, true, by simpa [heq] using hk, by simp [heq, FileRow.swept, unseen], hle,
        fun _ => by omega⟩
    · refine ⟨k, d, by simpa [heq] using hk, ?_, hle, hlt⟩
      simpa [heq, FileRow.swept, unseen] using hd
  · intro e he ha
    obtain ⟨k, old, j, hk, found, hj, hle⟩ := h.symbols e he ha
    refine ⟨k, old.swept a m, j, hk, ordered.find?_eq_some.2 ?_, by simpa using hj, hle⟩
    exact mem_sweptFiles.2 ⟨old, sound.fileIds.find?_eq_some.1 found, rfl⟩

lemma writeSymbol (h : s.Capped a m) (sound : s.Sound) {file : Int} {y : CodeSymbol} {f : FileRow}
    (found : s.files.find? file = some f) (seen : f.lastSeenAt = .value m) {id : Int}
    {t : Table SymbolRow} {home : Bool}
    (written : s.symbols.Written (fun r => r.fileId = file && r.name = y.name &&
        r.startLine = .value (columnInt y.startLine))
      (fun old => { SymbolRow.new a file y m with subjectId := old.subjectId })
      (.new a file y m) home id t) :
    Capped { s with symbols := t } a m := by
  obtain ⟨row, hrow, mem⟩ := written.mem sound.symbolIds
  have hmark : row.lastSeenAt = .value m ∧ row.fileId = file := by
    rcases hrow with ⟨old, -, -, rfl⟩ | ⟨rfl, -⟩ <;> exact ⟨rfl, rfl⟩
  refine ⟨h.files, fun e he ha => ?_⟩
  rcases (mem e).1 he with ⟨he, -⟩ | rfl
  · exact h.symbols e he ha
  · exact ⟨m, f, m, hmark.1, by rw [hmark.2]; exact found, seen, Int.le_refl m⟩

lemma removeSymbols (h : s.Capped a m) (p : SymbolRow → Bool) :
    Capped { s with symbols := s.symbols.removeWhere p } a m :=
  ⟨h.files, fun e he => h.symbols e (Table.mem_removeWhere.1 he).1⟩

end Capped

end Store

namespace Analysis

/-! ## While a run goes on -/

/-- What an analysis makes of files and symbols under its mark. -/
inductive Change (parse : Outline.Script.Parser) (a m : Int) (w : World) :
    (o : Operation) → Except StoreError o.Result → Store → Prop
  | idle {o : Operation} {r : Except StoreError o.Result} {s : Store}
      (files : s.files = w.store.files) (symbols : s.symbols = w.store.symbols)
      (idle : r.isOk = false ∨ o.mark? = none) : Change parse a m w o r s
  | writeFile {f : SourceFile} {id : Int} {u : Store.Table Store.FileRow}
      (written : w.store.files.Written (fun r => r.subjectId = a && r.path = f.path)
        (fun _ => .new a f (Outline.ofFile parse f).imports (Outline.ofFile parse f).exports m)
        (.new a f (Outline.ofFile parse f).imports (Outline.ofFile parse f).exports m)
        (w.store.subjects.contains a) id u) :
      Change parse a m w
        (.writeFile a f (Outline.ofFile parse f).imports (Outline.ofFile parse f).exports m)
        (.ok id) { w.store with files := u }
  | markUnseen {n : Nat} : Change parse a m w (.markUnseen a m) (.ok n)
      { w.store with files := w.store.sweptFiles a m }
  | writeSymbol {file : Int} {f : SourceFile} {y : CodeSymbol} {id : Int}
      {u : Store.Table Store.SymbolRow} (ours : (file, f) ∈ savedFiles w.trace)
      (written : w.store.symbols.Written (fun r => r.fileId = file && r.name = y.name &&
          r.startLine = .value (Store.columnInt y.startLine))
        (fun old => { Store.SymbolRow.new a file y m with subjectId := old.subjectId })
        (.new a file y m) (w.store.subjects.contains a && w.store.files.contains file) id u) :
      Change parse a m w (.writeSymbol a file y m) (.ok id) { w.store with symbols := u }
  | pruneSymbols {n : Nat} : Change parse a m w (.pruneSymbols a m) (.ok n) { w.store with
      symbols := w.store.symbols.removeWhere fun r =>
        r.subjectId = a && !r.lastSeenAt.holds m }

/-- What holds of the rows of a subject while a run has a mark. -/
structure Kept (a m : Int) (w : World) : Prop where
  capped : w.store.Capped a m
  saved : ∀ x ∈ savedFiles w.trace, ∃ f, w.store.files.find? x.1 = some f ∧ f.subjectId = a ∧
    f.lastSeenAt = .value m
  swept : Did (.markUnseen a m) w.trace → ∀ e ∈ w.store.files.rows, e.2.subjectId = a →
    e.2.isDeleted = .value false → e.2.lastSeenAt = .value m
  pruned : Did (.pruneSymbols a m) w.trace → ∀ e ∈ w.store.symbols.rows, e.2.subjectId = a →
    e.2.lastSeenAt = .value m

variable {parse : Outline.Script.Parser} {a m t : Int} {w : World} {o : Operation}
  {r : Except StoreError o.Result} {s : Store}

lemma did_of_answered {q : Operation} (h : Did q (w.answered t o r s).trace) :
    Did q w.trace ∨ o = q ∧ r.isOk = true := by
  obtain ⟨e, he, done⟩ := h
  rcases List.mem_append.1 he with he | he
  · exact .inl ⟨e, he, done⟩
  · cases List.mem_singleton.1 he
    exact .inr done

lemma savedFiles_answered {q : Operation} {r : Except StoreError q.Result}
    (silent : Event.savedFile? ⟨q, r, s⟩ = none) :
    savedFiles (w.answered t q r s).trace = savedFiles w.trace := by
  simp [savedFiles, filterMap_answered, silent]

/-- Nothing is stored without a mark. -/
lemma unsaved (idle : r.isOk = false ∨ o.mark? = none) :
    Event.savedFile? ⟨o, r, s⟩ = none ∧ Event.savedSymbol? ⟨o, r, s⟩ = none := by
  cases o with
  | writeFile | writeSymbol =>
    cases r with
    | ok => rcases idle with idle | idle <;> cases idle
    | error => exact ⟨rfl, rfl⟩
  | _ => exact ⟨rfl, rfl⟩

/-- Nothing changes that is marked. -/
lemma Kept.idle (h : Kept a m w) (files : s.files = w.store.files)
    (symbols : s.symbols = w.store.symbols) (idle : r.isOk = false ∨ o.mark? = none) :
    Kept a m (w.answered t o r s) := by
  have undone : ∀ q : Operation, q.mark? ≠ none → Did q (w.answered t o r s).trace →
      Did q w.trace := by
    intro q marked did
    rcases did_of_answered did with did | ⟨rfl, ok⟩
    · exact did
    · rcases idle with idle | idle
      · rw [ok] at idle
        cases idle
      · exact absurd idle marked
  refine ⟨h.capped.congr files symbols, fun x hx => ?_, fun did => ?_, fun did => ?_⟩
  · rw [savedFiles_answered (unsaved idle).1] at hx
    change ∃ f, s.files.find? x.1 = some f ∧ _
    rw [files]
    exact h.saved x hx
  · change ∀ e ∈ s.files.rows, _
    rw [files]
    exact h.swept (undone _ nofun did)
  · change ∀ e ∈ s.symbols.rows, _
    rw [symbols]
    exact h.pruned (undone _ nofun did)

lemma Kept.writeFile (h : Kept a m w) (sound : w.store.Sound) {f : SourceFile}
    {imports exports : List String} {id : Int} {u : Store.Table Store.FileRow}
    (written : w.store.files.Written (fun r => r.subjectId = a && r.path = f.path)
      (fun _ => .new a f imports exports m) (.new a f imports exports m)
      (w.store.subjects.contains a) id u) :
    Kept a m (w.answered t (.writeFile a f imports exports m) (.ok id)
      { w.store with files := u }) := by
  have mem := sound.mem_writeFile written
  have ordered := written.ordered sound.fileIds
  have row : u.find? id = some (.new a f imports exports m) :=
    ordered.find?_eq_some.2 ((mem _).2 (.inr rfl))
  refine ⟨h.capped.writeFile sound written, fun x hx => ?_, fun did e he ha alive => ?_,
    fun did => ?_⟩
  · rw [savedFiles, filterMap_answered] at hx
    rcases List.mem_append.1 hx with hx | hx
    · by_cases hid : x.1 = id
      · exact ⟨_, hid ▸ row, rfl, rfl⟩
      · obtain ⟨old, found, home, seen⟩ := h.saved x hx
        exact ⟨old, ordered.find?_eq_some.2
          ((mem _).2 (.inl ⟨sound.fileIds.find?_eq_some.1 found, hid⟩)), home, seen⟩
    · cases List.mem_singleton.1 hx
      exact ⟨_, row, rfl, rfl⟩
  · rcases did_of_answered did with did | ⟨heq, -⟩
    · rcases (mem e).1 he with ⟨he, -⟩ | rfl
      · exact h.swept did e he ha alive
      · rfl
    · cases heq
  · rcases did_of_answered did with did | ⟨heq, -⟩
    · exact h.pruned did
    · cases heq

lemma Kept.markUnseen (h : Kept a m w) (sound : w.store.Sound) {n : Nat} :
    Kept a m (w.answered t (.markUnseen a m) (.ok n)
      { w.store with files := w.store.sweptFiles a m }) := by
  have ordered : (w.store.sweptFiles a m).Ordered := sound.fileIds.update ..
  refine ⟨h.capped.markUnseen sound, fun x hx => ?_, fun _ e he ha alive => ?_, fun did => ?_⟩
  · rw [savedFiles_answered rfl] at hx
    obtain ⟨old, found, home, seen⟩ := h.saved x hx
    refine ⟨old.swept a m, ordered.find?_eq_some.2 ?_, by simpa using home, by simpa using seen⟩
    exact Store.mem_sweptFiles.2 ⟨old, sound.fileIds.find?_eq_some.1 found, rfl⟩
  · obtain ⟨old, hold, heq⟩ := Store.mem_sweptFiles.1 he
    have ha' : old.subjectId = a := by simpa [heq] using ha
    by_cases unseen : old.isUnseen a m = true
    · simp [heq, Store.FileRow.swept, unseen] at alive
    · have alive' : old.isDeleted = .value false := by
        simpa [heq, Store.FileRow.swept, unseen] using alive
      rw [heq, Store.FileRow.swept_lastSeenAt]
      by_contra missed
      exact unseen (Store.FileRow.isUnseen_iff.2 ⟨ha', alive', missed⟩)
  · rcases did_of_answered did with did | ⟨heq, -⟩
    · exact h.pruned did
    · cases heq

lemma Kept.writeSymbol (h : Kept a m w) (sound : w.store.Sound) {file : Int} {y : CodeSymbol}
    {f : SourceFile} (ours : (file, f) ∈ savedFiles w.trace) {id : Int}
    {u : Store.Table Store.SymbolRow} {home : Bool}
    (written : w.store.symbols.Written (fun r => r.fileId = file && r.name = y.name &&
        r.startLine = .value (Store.columnInt y.startLine))
      (fun old => { Store.SymbolRow.new a file y m with subjectId := old.subjectId })
      (.new a file y m) home id u) :
    Kept a m (w.answered t (.writeSymbol a file y m) (.ok id)
      { w.store with symbols := u }) := by
  obtain ⟨row, found, -, seen⟩ := h.saved _ ours
  refine ⟨h.capped.writeSymbol sound found seen written, fun x hx => ?_, fun did => ?_,
    fun did e he ha => ?_⟩
  · rw [savedFiles_answered rfl] at hx
    exact h.saved x hx
  · rcases did_of_answered did with did | ⟨heq, -⟩
    · exact h.swept did
    · cases heq
  · rcases did_of_answered did with did | ⟨heq, -⟩
    · obtain ⟨new, hnew, mem⟩ := written.mem sound.symbolIds
      rcases (mem e).1 he with ⟨he, -⟩ | rfl
      · exact h.pruned did e he ha
      · rcases hnew with ⟨old, -, -, rfl⟩ | ⟨rfl, -⟩ <;> rfl
    · cases heq

lemma Kept.pruneSymbols (h : Kept a m w) {n : Nat} :
    Kept a m (w.answered t (.pruneSymbols a m) (.ok n) { w.store with
      symbols := w.store.symbols.removeWhere fun r =>
        r.subjectId = a && !r.lastSeenAt.holds m }) := by
  refine ⟨h.capped.removeSymbols _, fun x hx => ?_, fun did => ?_, fun _ e he ha => ?_⟩
  · rw [savedFiles_answered rfl] at hx
    exact h.saved x hx
  · rcases did_of_answered did with did | ⟨heq, -⟩
    · exact h.swept did
    · cases heq
  · have left := (Store.Table.mem_removeWhere.1 he).2
    simpa [ha, Store.Held.holds] using left

/-- After the sweep, the file of a symbol has the mark too. -/
lemma Kept.file_marked (h : Kept a m w) (sound : w.store.Sound)
    (pruned : Did (.pruneSymbols a m) w.trace) {e : Int × Store.SymbolRow}
    (he : e ∈ w.store.symbols.rows) (ha : e.2.subjectId = a) {f : Store.FileRow}
    (found : w.store.files.find? e.2.fileId = some f) :
    f.subjectId = a ∧ f.lastSeenAt = .value m := by
  obtain ⟨f', found', home⟩ := sound.symbolHomes e he
  cases found.symm.trans found'
  obtain ⟨k, f', j, hk, found', hj, le⟩ := h.capped.symbols e he ha
  cases found.symm.trans found'
  cases hk.symm.trans (h.pruned pruned e he ha)
  have most := h.capped.file_le sound he ha found hj
  obtain rfl := Int.le_antisymm most le
  exact ⟨home.trans ha, hj⟩

section Asks

variable {start : Int} {last : Option Int}

lemma asks_known (asks : Asks parse a start last w o) (name rootPath : String) :
    o ≠ .registerSubject name rootPath := by
  rintro rfl
  exact asks

lemma asks_subject (asks : Asks parse a start last w o) {b : Int} (hb : b ≠ a) :
    o.subject? ≠ some b := by
  intro h
  cases o with
  | updateStatus | replaceEdges | replaceEmbeddings =>
    exact hb ((Option.some.inj h).symm.trans asks)
  | writeCommit | saveStats | writeFile | markUnseen | pruneSymbols | writeSymbol =>
    exact hb ((Option.some.inj h).symm.trans asks.1)
  | _ => cases h

/-- Under its mark, an analysis changes files and symbols in these ways only. -/
lemma Asks.change (asks : Asks parse a start last w o) (mark : ∀ m', o.mark? = some m' → m' = m)
    (answers : w.store.Answers t o r s) : Change parse a m w o r s := by
  cases r with
  | error e =>
    obtain rfl := answers.eq_of_error (asks_known asks)
    exact .idle rfl rfl (.inl rfl)
  | ok x =>
    cases o with
    | writeFile subject f imports exports m' =>
      obtain ⟨rfl, -, rfl, rfl⟩ := asks
      obtain rfl := mark _ rfl
      obtain ⟨e, he, -⟩ | ⟨id, u, hid, rfl, written⟩ := answers.writeFile
      · cases he
      · cases hid
        exact .writeFile written
    | markUnseen subject m' =>
      obtain ⟨rfl, -⟩ := asks
      obtain rfl := mark _ rfl
      obtain ⟨e, he, -⟩ | ⟨-, rfl⟩ := answers.markUnseen
      · cases he
      · exact .markUnseen
    | writeSymbol subject file y m' =>
      obtain ⟨rfl, -, f, ours⟩ := asks
      obtain rfl := mark _ rfl
      obtain ⟨e, he, -⟩ | ⟨id, u, hid, rfl, written⟩ := answers.writeSymbol
      · cases he
      · cases hid
        exact .writeSymbol ours written
    | pruneSymbols subject m' =>
      obtain ⟨rfl, -⟩ := asks
      obtain rfl := mark _ rfl
      obtain ⟨e, he, -⟩ | ⟨-, rfl⟩ := answers.pruneSymbols
      · cases he
      · exact .pruneSymbols
    | _ =>
      have same := answers.sameBut
      exact .idle (same.files (by simp)) (same.symbols (by simp)) (.inr rfl)

end Asks

/-- What changes under a mark keeps what holds of the rows. -/
lemma Kept.answered (h : Kept a m w) (sound : w.store.Sound) (change : Change parse a m w o r s) :
    Kept a m (w.answered t o r s) := by
  cases change with
  | idle files symbols idle => exact h.idle files symbols idle
  | writeFile written => exact h.writeFile sound written
  | markUnseen => exact h.markUnseen sound
  | writeSymbol ours written => exact h.writeSymbol sound ours written
  | pruneSymbols => exact h.pruneSymbols

/-! ## From the start of a run -/

/-- The marks that operations of a run had are all the same. -/
def MarkedBy (m : Int) (trace : List Event) : Prop :=
  ∀ e ∈ trace, ∀ m', e.operation.mark? = some m' → m' = m

/-- When a subject was last analyzed, which is not in the future. -/
structure Dated (b : Int) (last : Option Int) (w : World) : Prop where
  stamp : ∀ row, w.store.subjects.find? b = some row →
    row.lastAnalyzedAt = last.map Store.Held.value
  past : last.getD 0 ≤ w.time

section Dated

variable {b start : Int} {last : Option Int}

lemma Dated.congr (h : Dated b last w) {v : World} (same : v.store.subjects = w.store.subjects)
    (later : w.time ≤ v.time) : Dated b last v :=
  ⟨by rw [same]; exact h.stamp, Int.le_trans h.past later⟩

/-- A subject is dated anew when its counts are saved. -/
lemma Dated.answered (h : Dated a last w) (later : w.time ≤ t) (asks : Asks parse a start last' w o)
    (answers : w.store.Answers t o r s) :
    Dated a last (w.answered t o r s) ∨ Dated a (some w.time) (w.answered t o r s) := by
  by_cases writes : o.table? = some .subjects
  · cases o with
    | registerSubject => exact asks.elim
    | updateStatus id status progress message =>
      obtain rfl : id = a := asks
      obtain ⟨-, -, rfl⟩ | ⟨-, old, found, rfl⟩ := answers.updateStatus
      · exact .inl (h.congr rfl later)
      · refine .inl ⟨fun row hrow => ?_, Int.le_trans h.past later⟩
        simp only [World.answered, Store.Table.find?_set, found] at hrow
        cases hrow
        exact h.stamp old found
    | saveStats id stats analyzedAt =>
      obtain ⟨rfl, rfl⟩ := asks
      obtain ⟨-, -, rfl⟩ | ⟨-, ⟨-, rfl⟩ | ⟨old, found, rfl⟩⟩ := answers.saveStats
      · exact .inl (h.congr rfl later)
      · exact .inl (h.congr rfl later)
      · refine .inr ⟨fun row hrow => ?_, later⟩
        simp only [World.answered, Store.Table.find?_set, found] at hrow
        cases hrow
        rfl
    | _ => cases writes
  · exact .inl (h.congr (answers.sameBut.subjects writes) later)

end Dated

/-- What holds while a run goes on that started in a world. -/
structure Steady (a : Int) (last : Option Int) (w₀ w : World) : Prop where
  sound : w.store.Sound
  later : w₀.time ≤ w.time
  others : ∀ b, b ≠ a → w₀.store.SameFor b w.store
  reading : ∃ now, w₀.time ≤ now ∧ now ≤ w.time ∧ MarkedBy (marker now last) w.trace
  kept : ∀ m, marker w₀.time last ≤ m → MarkedBy m w.trace → Kept a m w
  dated : ∃ last', Dated a last' w ∧ last.getD 0 ≤ last'.getD 0

section Steady

variable {last : Option Int} {w₀ : World}

lemma marker_mono {now now' : Int} {last last' : Option Int} (later : now ≤ now')
    (dated : last.getD 0 ≤ last'.getD 0) : marker now last ≤ marker now' last' := by
  unfold marker
  omega

lemma MarkedBy.of_answered (h : MarkedBy m (w.answered t o r s).trace) :
    MarkedBy m w.trace ∧ ∀ m', o.mark? = some m' → m' = m :=
  ⟨fun e he => h e (List.mem_append_left _ he),
    h ⟨o, r, s⟩ (List.mem_append_right _ List.mem_cons_self)⟩

lemma Steady.start (sound : w₀.store.Sound) (fresh : w₀.trace = [])
    (capped : w₀.store.Capped a (marker w₀.time last)) (dated : Dated a last w₀) :
    Steady a last w₀ w₀ where
  sound := sound
  later := Int.le_refl _
  others b _ := .refl b _
  reading := ⟨w₀.time, Int.le_refl _, Int.le_refl _, by simp [fresh, MarkedBy]⟩
  kept m le _ := by
    refine ⟨capped.mono le, ?_, ?_, ?_⟩ <;> simp [fresh, savedFiles, Did]
  dated := ⟨last, dated, Int.le_refl _⟩

lemma Steady.read (h : Steady a last w₀ w) (later : w.time ≤ t) : Steady a last w₀ (w.read t) where
  sound := h.sound
  later := Int.le_trans h.later later
  others := h.others
  reading := by
    obtain ⟨now, from_start, before, marked⟩ := h.reading
    exact ⟨now, from_start, Int.le_trans before later, marked⟩
  kept m le marked := by
    obtain ⟨capped, saved, swept, pruned⟩ := h.kept m le marked
    exact ⟨capped, saved, swept, pruned⟩
  dated := by
    obtain ⟨last', dated, le⟩ := h.dated
    exact ⟨last', dated.congr rfl later, le⟩

/-- A commit has a time of 64 bits. A symbol is written to a file that was stored before, and so to
one of the subject. -/
lemma Steady.fits (h : Steady a last w₀ w) (asks : Asks parse a w₀.time last w o) :
    o.Fits w.store := by
  cases o with
  | registerSubject => exact asks.elim
  | writeCommit subject c => exact asks.2
  | writeSymbol subject file y m =>
    obtain ⟨rfl, ⟨⟨now, later, -, rfl⟩, only⟩, f, ours⟩ := asks
    obtain ⟨row, found, home, -⟩ :=
      (h.kept _ (marker_mono later (Int.le_refl _)) only).saved _ ours
    exact ⟨row, found, home⟩
  | _ => trivial

/-- The mark of an operation comes from a reading of the clock. -/
lemma reading_answered
    (h : ∃ now, w₀.time ≤ now ∧ now ≤ w.time ∧ MarkedBy (marker now last) w.trace)
    (asks : Asks parse a w₀.time last w o) (later : w.time ≤ t) :
    ∃ now, w₀.time ≤ now ∧ now ≤ t ∧ MarkedBy (marker now last) (w.answered t o r s).trace := by
  have snoc : ∀ m, MarkedBy m w.trace → (∀ m', o.mark? = some m' → m' = m) →
      MarkedBy m (w.answered t o r s).trace := by
    intro m old new e he
    rcases List.mem_append.1 he with he | he
    · exact old e he
    · cases List.mem_singleton.1 he
      exact new
  have asked : o.mark? = none ∨ ∃ m, o.mark? = some m ∧ Marking w₀.time last m w := by
    cases o with
    | writeFile | writeSymbol => exact .inr ⟨_, rfl, asks.2.1⟩
    | markUnseen | pruneSymbols => exact .inr ⟨_, rfl, asks.2⟩
    | _ => exact .inl rfl
  rcases asked with unmarked | ⟨m, hm, ⟨now, from_start, before, rfl⟩, only⟩
  · obtain ⟨now, from_start, before, marked⟩ := h
    refine ⟨now, from_start, Int.le_trans before later, snoc _ marked fun m' hm' => ?_⟩
    cases unmarked.symm.trans hm'
  · refine ⟨now, from_start, Int.le_trans before later, snoc _ only fun m' hm' => ?_⟩
    exact (Option.some.inj (hm.symm.trans hm')).symm

lemma Steady.answered (h : Steady a last w₀ w) (asks : Asks parse a w₀.time last w o)
    (later : w.time ≤ t) (answers : w.store.Answers t o r s) (past : last.getD 0 ≤ w₀.time) :
    Steady a last w₀ (w.answered t o r s) where
  sound := h.sound.answers (h.fits asks) answers
  later := Int.le_trans h.later later
  others b hb := (h.others b hb).trans
    (answers.sameFor h.sound (h.fits asks) (asks_known asks) (asks_subject asks hb))
  reading := reading_answered h.reading asks later
  kept m le marked := by
    obtain ⟨old, new⟩ := marked.of_answered
    exact (h.kept m le old).answered h.sound (asks.change new answers)
  dated := by
    obtain ⟨last', dated, le⟩ := h.dated
    rcases dated.answered later asks answers with dated | dated
    · exact ⟨last', dated, le⟩
    · exact ⟨_, dated, Int.le_trans past h.later⟩

/-- However far a run has got, it has asked what it may, and what it found holds still. -/
theorem run_steady {disk : Disk} {services : Inference.Services} {options : AnalysisOptions}
    {tree : Except AnalysisError (List SourceFile)} (fresh : w₀.trace = [])
    (sound : w₀.store.Sound) (dated : Dated a last w₀)
    (capped : w₀.store.Capped a (marker w₀.time last))
    (htree : ∀ subject, w₀.store.getSubject a = .ok (some subject) →
      filesAt disk subject.rootPath ⟨options.maxDepth, options.maxFileBytes⟩ = tree) :
    EnsuresOr (fun w o => Orderly services.libraries.parse a w₀.time last w o ∧ Steady a last w₀ w)
      (fun _ v => Complete services.libraries.parse a w₀.time last tree v ∧ Steady a last w₀ v)
      (fun e v => (Rejected w₀.store a options.force v ∨ Blamed v ∨ tree = .error e) ∧
        Steady a last w₀ v)
      (run disk services a options) w₀ := by
  refine (run_requests fresh fun subject found => ⟨?_, htree subject found⟩).keep
    (.start sound fresh capped dated) (fun v t h later => h.read later)
    fun v o t r s h asks later answers => h.answered (asks o rfl) later answers dated.past
  obtain ⟨row, hrow, record⟩ := Store.getSubject_eq_some.1 found
  exact Store.SubjectRow.lastAnalyzedAt_of_record (dated.stamp row hrow) record

end Steady

/-! ## Between runs -/

/-- No row of a subject has a mark beyond the one that the next run would have. -/
def Marked (b : Int) (w : World) : Prop :=
  ∃ last, Dated b last w ∧ w.store.Capped b (marker w.time last)

lemma Marked.sameFor {b : Int} {v : World} (h : Marked b w) (sound : w.store.Sound)
    (sound' : v.store.Sound) (same : w.store.SameFor b v.store) (later : w.time ≤ v.time) :
    Marked b v := by
  obtain ⟨last, dated, capped⟩ := h
  refine ⟨last, ⟨fun row hrow => dated.stamp row (same.subject ▸ hrow), ?_⟩, ?_⟩
  · exact Int.le_trans dated.past later
  · exact (capped.sameFor same sound sound').mono (marker_mono later (Int.le_refl _))

/-- A sound store in which all subjects are marked. -/
structure Regular (w : World) : Prop where
  sound : w.store.Sound
  marked : ∀ b, Marked b w
  started : 0 ≤ w.time

lemma Regular.restart (h : Regular w) : Regular ⟨w.store, w.time, []⟩ := by
  refine ⟨h.sound, fun b => ?_, h.started⟩
  obtain ⟨last, dated, capped⟩ := h.marked b
  exact ⟨last, ⟨dated.stamp, dated.past⟩, capped⟩

/-- However far a run has got, another one may follow. -/
theorem Steady.regular {last : Option Int} {w₀ : World} (h : Steady a last w₀ w)
    (start : Regular w₀) : Regular w := by
  refine ⟨h.sound, fun b => ?_, Int.le_trans start.started h.later⟩
  by_cases hb : b = a
  · subst hb
    obtain ⟨last', dated, le⟩ := h.dated
    obtain ⟨now, from_start, before, marked⟩ := h.reading
    have kept := h.kept _ (marker_mono from_start (Int.le_refl _)) marked
    exact ⟨last', dated, kept.capped.mono (marker_mono before le)⟩
  · exact (start.marked b).sameFor start.sound h.sound (h.others b hb) h.later

end Analysis

end CodeAtlas
