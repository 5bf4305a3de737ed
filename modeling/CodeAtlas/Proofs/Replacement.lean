import CodeAtlas.Proofs.Derived
import CodeAtlas.Proofs.Freshness
import CodeAtlas.Proofs.Listings

/-! # What a run leaves

If the mark of a run is fresh, the files and the symbols of its subject are afterwards those that
the run has stored, the last of each key. -/
namespace CodeAtlas

open Store (Operation FileRow SymbolRow Table)

/-! ## The last of each key -/

section

variable {κ : Type} [DecidableEq κ] {key : α → κ} {l : List α} {x z : α}

/-- Of the elements with the same key, the last. -/
def latest (key : α → κ) : List α → List α
  | [] => []
  | x :: l => if ∃ y ∈ l, key y = key x then latest key l else x :: latest key l

lemma latest_subset (h : x ∈ latest key l) : x ∈ l := by
  induction l with
  | nil => exact h
  | cons y l ih =>
    unfold latest at h
    split at h
    · exact List.mem_cons_of_mem _ (ih h)
    · rcases List.mem_cons.1 h with rfl | h
      · exact List.mem_cons_self
      · exact List.mem_cons_of_mem _ (ih h)

lemma pairwise_latest : (latest key l).Pairwise fun x y => key x ≠ key y := by
  induction l with
  | nil => exact .nil
  | cons x l ih =>
    unfold latest
    split
    · exact ih
    next alone =>
      refine List.pairwise_cons.2 ⟨fun y hy same => alone ⟨y, latest_subset hy, same.symm⟩, ih⟩

lemma latest_concat : latest key (l ++ [z]) = (latest key l).filter (key · ≠ key z) ++ [z] := by
  induction l with
  | nil => simp [latest]
  | cons x l ih =>
    have later : (∃ y ∈ l ++ [z], key y = key x) ↔ (∃ y ∈ l, key y = key x) ∨ key x = key z := by
      simp [or_and_right, exists_or, eq_comm]
    rw [List.cons_append, latest, latest, ih]
    by_cases again : ∃ y ∈ l, key y = key x
    · rw [if_pos (later.2 (.inl again)), if_pos again]
    · rw [if_neg again]
      by_cases same : key x = key z
      · rw [if_pos (later.2 (.inr same)), List.filter_cons_of_neg (by simpa using same)]
      · rw [if_neg fun h => (later.1 h).elim again same,
          List.filter_cons_of_pos (by simpa using same), List.cons_append]

lemma mem_latest_concat :
    x ∈ latest key (l ++ [z]) ↔ (x ∈ latest key l ∧ key x ≠ key z) ∨ x = z := by
  simp [latest_concat]

/-- All elements stay just if no two of them have the same key. -/
lemma latest_eq_self_iff : latest key l = l ↔ (l.map key).Nodup := by
  constructor
  · intro same
    rw [← same]
    exact List.pairwise_map.2 pairwise_latest
  · intro distinct
    induction l with
    | nil => rfl
    | cons x l ih =>
      rw [List.map_cons, List.nodup_cons] at distinct
      have alone : ¬ ∃ y ∈ l, key y = key x := fun again => distinct.1 (List.mem_map.2 again)
      rw [latest, if_neg alone, ih distinct.2]

example : latest Prod.fst [(1, 'a'), (2, 'b'), (1, 'c')] = [(2, 'b'), (1, 'c')] := by decide

end

/-! ## While a run goes on -/

section

variable {κ : Type} [DecidableEq κ] {t u : Table ρ} {marked : ρ → Prop} {new : β → ρ}
  {place : Int × β → κ} {saved : List (Int × β)}

/-- The marked rows of a table are those that were saved, the last of each key. -/
def Store.Table.Records (t : Table ρ) (marked : ρ → Prop) (new : β → ρ) (place : Int × β → κ)
    (saved : List (Int × β)) : Prop :=
  ∀ e, (e ∈ t.rows ∧ marked e.2) ↔ ∃ x, (e.1, x) ∈ latest place saved ∧ e.2 = new x

lemma Store.Table.Records.write (h : t.Records marked new place saved) {id : Int} {x : β}
    (mem : ∀ e, e ∈ u.rows ↔ (e ∈ t.rows ∧ e.1 ≠ id) ∨ e = (id, new x)) (hx : marked (new x))
    (keys : ∀ e ∈ t.rows, ∀ y, e.2 = new y → (place (e.1, y) = place (id, x) ↔ e.1 = id)) :
    u.Records marked new place (saved ++ [(id, x)]) := by
  intro e
  constructor
  · rintro ⟨he, hm⟩
    rcases (mem e).1 he with ⟨he, hne⟩ | rfl
    · obtain ⟨y, old, row⟩ := (h e).1 ⟨he, hm⟩
      have other : place (e.1, y) ≠ place (id, x) := fun same => hne ((keys e he y row).1 same)
      exact ⟨y, mem_latest_concat.2 (.inl ⟨old, other⟩), row⟩
    · exact ⟨x, mem_latest_concat.2 (.inr rfl), rfl⟩
  · rintro ⟨y, last, row⟩
    rcases mem_latest_concat.1 last with ⟨old, other⟩ | heq
    · obtain ⟨he, hm⟩ := (h e).2 ⟨y, old, row⟩
      have hne : e.1 ≠ id := fun hid => other ((keys e he y row).2 hid)
      exact ⟨(mem e).2 (.inl ⟨he, hne⟩), hm⟩
    · obtain ⟨hid, rfl⟩ := Prod.ext_iff.1 heq
      exact ⟨(mem e).2 (.inr (Prod.ext hid row)), row ▸ hx⟩

end

/-- The row that an analysis writes of a file. -/
def Store.FileRow.analyzed (parse : Outline.Script.Parser) (a m : Int) (f : SourceFile) : FileRow :=
  .new a f (Outline.ofFile parse f).imports (Outline.ofFile parse f).exports m

/-- The path of a file that was stored. -/
def savedPath (x : Int × SourceFile) : String := x.2.path

/-- The file, the name and the first line of a symbol that was stored. -/
def savedPlace (y : Int × Int × CodeSymbol) : Int × String × Int :=
  (y.2.1, y.2.2.name, Store.columnInt y.2.2.startLine)

namespace Analysis

/-- The rows with a mark are those that were stored, the last of each key. -/
structure Recorded (parse : Outline.Script.Parser) (a m : Int) (saved : List (Int × SourceFile))
    (parsed : List (Int × Int × CodeSymbol)) (s : Store) : Prop where
  files : s.files.Records (fun r => r.subjectId = a ∧ r.lastSeenAt = .value m) (.analyzed parse a m)
    savedPath saved
  symbols : s.symbols.Records (fun r => r.subjectId = a ∧ r.lastSeenAt = .value m)
    (fun x => .new a x.1 x.2 m) savedPlace parsed

namespace Recorded

variable {parse : Outline.Script.Parser} {a m t : Int} {w : World} {o : Operation}
  {r : Except StoreError o.Result} {s s' : Store}
  {saved : List (Int × SourceFile)} {parsed : List (Int × Int × CodeSymbol)}

lemma start (fresh : ¬ s.HasMark a m) : Recorded parse a m [] [] s where
  files e := by
    simp only [latest, List.not_mem_nil, false_and, exists_false, iff_false]
    exact fun ⟨he, hm⟩ => fresh (.inl ⟨e, he, hm⟩)
  symbols e := by
    simp only [latest, List.not_mem_nil, false_and, exists_false, iff_false]
    exact fun ⟨he, hm⟩ => fresh (.inr ⟨e, he, hm⟩)

lemma congr (h : Recorded parse a m saved parsed s) (files : s'.files = s.files)
    (symbols : s'.symbols = s.symbols) : Recorded parse a m saved parsed s' := by
  constructor
  · rw [files]
    exact h.files
  · rw [symbols]
    exact h.symbols

lemma writeFile (h : Recorded parse a m saved parsed s) (sound : s.Sound) {f : SourceFile}
    {id : Int} {u : Table FileRow}
    (written : s.files.Written (fun r => r.subjectId = a && r.path = f.path)
      (fun _ => .analyzed parse a m f) (.analyzed parse a m f) (s.subjects.contains a) id u) :
    Recorded parse a m (saved ++ [(id, f)]) parsed { s with files := u } := by
  refine ⟨h.files.write (sound.mem_writeFile written) ⟨rfl, rfl⟩ fun e he g row => ?_, h.symbols⟩
  rw [← sound.key_writeFile written he, row]
  exact (and_iff_right rfl).symm

lemma writeSymbol (h : Recorded parse a m saved parsed s) (sound : s.Sound) {file : Int}
    {y : CodeSymbol} {id : Int} {u : Table SymbolRow} {home : Bool}
    (fits : (Operation.writeSymbol a file y m).Fits s)
    (written : s.symbols.Written (fun r => r.fileId = file && r.name = y.name &&
        r.startLine = .value (Store.columnInt y.startLine))
      (fun old => { SymbolRow.new a file y m with subjectId := old.subjectId })
      (.new a file y m) home id u) :
    Recorded parse a m saved (parsed ++ [(id, file, y)]) { s with symbols := u } := by
  have keys : ∀ {e}, e ∈ s.symbols.rows → ((e.2.fileId = file ∧ e.2.name = y.name ∧
      e.2.startLine = .value (Store.columnInt y.startLine)) ↔ e.1 = id) := by
    intro e he
    have keys := written.key_iff sound.symbolIds sound.symbolKeys
      (by simp [SymbolRow.new, and_assoc]) he
    simpa [and_assoc] using keys
  obtain ⟨row, hrow, mem⟩ := written.mem sound.symbolIds
  -- a symbol that is written over is one of the same file, and so of the same subject
  have mine : row = .new a file y m := by
    rcases hrow with ⟨old, hold, hkey, rfl⟩ | ⟨rfl, -⟩
    · obtain ⟨f, found, home⟩ := fits
      obtain ⟨f', found', home'⟩ := sound.symbolHomes _ hold
      rw [((keys hold).2 rfl).1, found] at found'
      cases found'
      rw [← home', home]
      rfl
    · rfl
  subst mine
  refine ⟨h.files, h.symbols.write mem ⟨rfl, rfl⟩ fun e he z row => ?_⟩
  rw [← keys he, row]
  simp [savedPlace, SymbolRow.new]

lemma markUnseen (h : Recorded parse a m saved parsed s) :
    Recorded parse a m saved parsed { s with files := s.sweptFiles a m } := by
  have seen : ∀ r : FileRow, r.lastSeenAt = .value m → r.swept a m = r := by
    intro r hr
    simp [FileRow.swept, Store.FileRow.isUnseen_iff, hr]
  refine ⟨fun e => Iff.trans ?_ (h.files e), h.symbols⟩
  rw [Store.mem_sweptFiles]
  constructor
  · rintro ⟨⟨old, hold, heq⟩, ha, hm⟩
    have hm' : old.lastSeenAt = .value m := by simpa [heq] using hm
    rw [seen old hm'] at heq
    subst heq
    exact ⟨hold, ha, hm⟩
  · rintro ⟨he, ha, hm⟩
    exact ⟨⟨e.2, he, (seen _ hm).symm⟩, ha, hm⟩

lemma pruneSymbols (h : Recorded parse a m saved parsed s) :
    Recorded parse a m saved parsed { s with
      symbols := s.symbols.removeWhere fun r => r.subjectId = a && !r.lastSeenAt.holds m } := by
  refine ⟨h.files, fun e => Iff.trans ?_ (h.symbols e)⟩
  rw [Store.Table.mem_removeWhere]
  constructor
  · rintro ⟨⟨he, -⟩, ha, hm⟩
    exact ⟨he, ha, hm⟩
  · rintro ⟨he, ha, hm⟩
    exact ⟨⟨he, by simp [hm, Store.Held.holds]⟩, ha, hm⟩

lemma savedSymbols_answered {q : Operation} {r : Except StoreError q.Result}
    (silent : Event.savedSymbol? ⟨q, r, s⟩ = none) :
    savedSymbols (w.answered t q r s).trace = savedSymbols w.trace := by
  simp [savedSymbols, filterMap_answered, silent]

lemma answered (h : Recorded parse a m (savedFiles w.trace) (savedSymbols w.trace) w.store)
    (sound : w.store.Sound) (fits : o.Fits w.store) (change : Change parse a m w o r s) :
    Recorded parse a m (savedFiles (w.answered t o r s).trace)
      (savedSymbols (w.answered t o r s).trace) s := by
  cases change with
  | idle files symbols idle =>
    rw [savedFiles_answered (unsaved idle).1, savedSymbols_answered (unsaved idle).2]
    exact h.congr files symbols
  | writeFile written =>
    rw [savedSymbols_answered rfl, savedFiles, filterMap_answered]
    exact h.writeFile sound written
  | markUnseen =>
    rw [savedSymbols_answered rfl, savedFiles_answered rfl]
    exact h.markUnseen
  | writeSymbol ours written =>
    rw [savedFiles_answered rfl, savedSymbols, filterMap_answered]
    exact h.writeSymbol sound fits written
  | pruneSymbols =>
    rw [savedSymbols_answered rfl, savedFiles_answered rfl]
    exact h.pruneSymbols

end Recorded

section

variable {a start : Int} {last : Option Int} {w v : World} {disk : Disk}
  {services : Inference.Services} {options : AnalysisOptions}
  {tree : Except AnalysisError (List SourceFile)}

/-- However far a run has got, the rows with its mark are those that it has stored, if the mark is
fresh. -/
lemma run_recorded (fresh : w.trace = []) (sound : w.store.Sound) (dated : Dated a last w)
    (capped : w.store.Capped a (marker w.time last))
    (htree : ∀ subject, w.store.getSubject a = .ok (some subject) →
      filesAt disk subject.rootPath ⟨options.maxDepth, options.maxFileBytes⟩ = tree) :
    EnsuresOr (fun v o => (Orderly services.libraries.parse a w.time last v o ∧ Steady a last w v) ∧
        ∀ m, ¬ w.store.HasMark a m → MarkedBy m v.trace →
          Recorded services.libraries.parse a m (savedFiles v.trace) (savedSymbols v.trace) v.store)
      (fun _ v => (Complete services.libraries.parse a w.time last tree v ∧ Steady a last w v) ∧
        ∀ m, ¬ w.store.HasMark a m → MarkedBy m v.trace →
          Recorded services.libraries.parse a m (savedFiles v.trace) (savedSymbols v.trace) v.store)
      (fun e v => ((Rejected w.store a options.force v ∨ Blamed v ∨ tree = .error e) ∧
        Steady a last w v) ∧ ∀ m, ¬ w.store.HasMark a m → MarkedBy m v.trace →
          Recorded services.libraries.parse a m (savedFiles v.trace) (savedSymbols v.trace) v.store)
      (run disk services a options) w := by
  refine (run_steady fresh sound dated capped htree).keep (fun m new _ => ?_)
    (fun v t h _ => h) fun v o t r s h asked later answers m new marked => ?_
  · rw [fresh]
    exact .start new
  · obtain ⟨asks, steady⟩ := asked
    obtain ⟨before, mark⟩ := marked.of_answered
    exact (h m new before).answered steady.sound (steady.fits (asks o rfl))
      ((asks o rfl).change mark answers)

end

/-! ## When a run is over -/

/-- A file as it is listed after an analysis. -/
def storedFile (parse : Outline.Script.Parser) (a : Int) (x : Int × SourceFile) : StoredFile where
  id := x.1
  subjectId := a
  file := x.2.inColumns
  imports := (Outline.ofFile parse x.2).imports
  exports := (Outline.ofFile parse x.2).exports
  contentHash := Digest.Blake3.hashText x.2.content.toUTF8
  isDeleted := false

/-- What is listed of a subject is what was stored, the last of each key. -/
structure Replaced (parse : Outline.Script.Parser) (a : Int) (saved : List (Int × SourceFile))
    (parsed : List (Int × Int × CodeSymbol)) (files : List StoredFile)
    (symbols : List StoredSymbol) : Prop where
  sorted : files.Pairwise fun x y => x.file.path < y.file.path
  files_perm : files.Perm ((latest savedPath saved).map (storedFile parse a))
  symbols_perm : (symbols.map fun y => (y.id, y.subjectId, y.fileId, y.symbol)).Perm
    ((latest savedPlace parsed).map fun y => (y.1, a, y.2.1, y.2.2.inColumns))
  paths : ∀ y ∈ symbols, ∃ f, (y.fileId, f) ∈ latest savedPath saved ∧ y.filePath = f.path

section

variable {parse : Outline.Script.Parser} {a m : Int} {v : World} {saved : List (Int × SourceFile)}
  {parsed : List (Int × Int × CodeSymbol)} {files : List StoredFile} {symbols : List StoredSymbol}

lemma record_analyzed {id : Int} {f : SourceFile} :
    (FileRow.analyzed parse a m f).record id = .ok (storedFile parse a (id, f)) :=
  Store.FileRow.record_new

/-- After the sweep, the files of a subject are those that were stored. -/
lemma Recorded.rows_files (h : Recorded parse a m saved parsed v.store) (kept : Kept a m v)
    (swept : Did (.markUnseen a m) v.trace) (e : Int × FileRow) :
    (e ∈ v.store.files.rows ∧ e.2.subjectId = a ∧ e.2.isDeleted = .value false) ↔
      ∃ f, (e.1, f) ∈ latest savedPath saved ∧ e.2 = .analyzed parse a m f := by
  rw [← h.files e]
  constructor
  · rintro ⟨he, ha, alive⟩
    exact ⟨he, ha, kept.swept swept e he ha alive⟩
  · intro marked
    obtain ⟨f, -, row⟩ := (h.files e).1 marked
    exact ⟨marked.1, marked.2.1, by rw [row]; rfl⟩

lemma Recorded.rows_symbols (h : Recorded parse a m saved parsed v.store) (kept : Kept a m v)
    (pruned : Did (.pruneSymbols a m) v.trace) (e : Int × SymbolRow) :
    (e ∈ v.store.symbols.rows ∧ e.2.subjectId = a) ↔
      ∃ y, (e.1, y) ∈ latest savedPlace parsed ∧ e.2 = .new a y.1 y.2 m := by
  rw [← h.symbols e]
  constructor
  · rintro ⟨he, ha⟩
    exact ⟨he, ha, kept.pruned pruned e he ha⟩
  · rintro ⟨he, ha, -⟩
    exact ⟨he, ha⟩

lemma Recorded.file_of_symbol (h : Recorded parse a m saved parsed v.store) (kept : Kept a m v)
    (sound : v.store.Sound) (pruned : Did (.pruneSymbols a m) v.trace) {e : Int × SymbolRow}
    (he : e ∈ v.store.symbols.rows) (ha : e.2.subjectId = a) {f : FileRow}
    (found : v.store.files.find? e.2.fileId = some f) :
    ∃ g, (e.2.fileId, g) ∈ latest savedPath saved ∧ f = .analyzed parse a m g := by
  obtain ⟨home, seen⟩ := kept.file_marked sound pruned he ha found
  exact (h.files (e.2.fileId, f)).1 ⟨sound.fileIds.find?_eq_some.1 found, home, seen⟩

lemma Recorded.mem_files (h : Recorded parse a m saved parsed v.store) (kept : Kept a m v)
    (swept : Did (.markUnseen a m) v.trace) (listed : v.store.listFiles a = .ok files)
    (x : StoredFile) : x ∈ files ↔ x ∈ (latest savedPath saved).map (storedFile parse a) := by
  rw [Store.mem_listFiles listed, List.mem_map]
  constructor
  · rintro ⟨e, he, ha, alive, record⟩
    obtain ⟨f, last, row⟩ := (h.rows_files kept swept e).1 ⟨he, ha, alive⟩
    rw [row, record_analyzed] at record
    exact ⟨_, last, Except.ok.inj record⟩
  · rintro ⟨⟨id, f⟩, last, rfl⟩
    obtain ⟨he, ha, alive⟩ := (h.rows_files kept swept (id, .analyzed parse a m f)).2 ⟨f, last, rfl⟩
    exact ⟨_, he, ha, alive, record_analyzed⟩

lemma Recorded.perm_files (h : Recorded parse a m saved parsed v.store) (kept : Kept a m v)
    (sound : v.store.Sound) (swept : Did (.markUnseen a m) v.trace)
    (listed : v.store.listFiles a = .ok files) :
    files.Perm ((latest savedPath saved).map (storedFile parse a)) := by
  have once : files.Nodup := by
    refine (Store.pairwise_listFiles sound listed).imp fun {x y} before same => ?_
    rw [same] at before
    exact Std.lt_irrefl before
  have once' : ((latest savedPath saved).map (storedFile parse a)).Nodup := by
    refine List.pairwise_map.2 (pairwise_latest.imp fun {x y} ne same => ne ?_)
    exact congrArg (·.file.path) same
  exact (List.perm_ext_iff_of_nodup once once').2 (h.mem_files kept swept listed)

lemma Recorded.mem_symbols (h : Recorded parse a m saved parsed v.store) (kept : Kept a m v)
    (sound : v.store.Sound) (pruned : Did (.pruneSymbols a m) v.trace)
    (listed : v.store.listSymbols a = .ok symbols) (z : Int × Int × Int × CodeSymbol) :
    z ∈ symbols.map (fun y => (y.id, y.subjectId, y.fileId, y.symbol)) ↔
      z ∈ (latest savedPlace parsed).map fun y => (y.1, a, y.2.1, y.2.2.inColumns) := by
  rw [List.mem_map, List.mem_map]
  constructor
  · rintro ⟨y, hy, rfl⟩
    obtain ⟨e, he, ha, f, -, record⟩ := (Store.mem_listSymbols listed).1 hy
    obtain ⟨⟨file, z⟩, last, row⟩ := (h.rows_symbols kept pruned e).1 ⟨he, ha⟩
    rw [row] at record
    obtain rfl := Store.SymbolRow.eq_of_record_new record
    exact ⟨_, last, rfl⟩
  · rintro ⟨⟨id, file, z⟩, last, rfl⟩
    obtain ⟨he, ha⟩ := (h.rows_symbols kept pruned (id, .new a file z m)).2 ⟨(file, z), last, rfl⟩
    obtain ⟨f, found, -⟩ := sound.symbolHomes _ he
    obtain ⟨y, hy, record⟩ := Store.record_of_listSymbols listed he ha found
    obtain rfl := Store.SymbolRow.eq_of_record_new record
    exact ⟨_, hy, rfl⟩

lemma Recorded.nodup_symbols (h : Recorded parse a m saved parsed v.store) (sound : v.store.Sound) :
    ((latest savedPlace parsed).map (·.1)).Nodup := by
  refine List.pairwise_map.2 (pairwise_latest.imp_of_mem fun {x y} hx hy ne same => ne ?_)
  obtain ⟨hrow, -⟩ := (h.symbols (x.1, .new a x.2.1 x.2.2 m)).2 ⟨x.2, hx, rfl⟩
  obtain ⟨hrow', -⟩ := (h.symbols (x.1, .new a y.2.1 y.2.2 m)).2 ⟨y.2, same ▸ hy, rfl⟩
  have row := sound.symbolIds.eq_of_id hrow hrow'
  have start := Store.Held.value.inj (congrArg SymbolRow.startLine row)
  simp only [savedPlace, Prod.mk.injEq]
  exact ⟨congrArg SymbolRow.fileId row, congrArg SymbolRow.name row, start⟩

lemma Recorded.perm_symbols (h : Recorded parse a m saved parsed v.store) (kept : Kept a m v)
    (sound : v.store.Sound) (pruned : Did (.pruneSymbols a m) v.trace)
    (listed : v.store.listSymbols a = .ok symbols) :
    (symbols.map fun y => (y.id, y.subjectId, y.fileId, y.symbol)).Perm
      ((latest savedPlace parsed).map fun y => (y.1, a, y.2.1, y.2.2.inColumns)) := by
  have once : (symbols.map fun y => (y.id, y.subjectId, y.fileId, y.symbol)).Nodup := by
    refine List.Nodup.of_map Prod.fst ?_
    rw [List.map_map]
    exact Store.nodup_listSymbols sound listed
  have once' : ((latest savedPlace parsed).map
      fun y => (y.1, a, y.2.1, y.2.2.inColumns)).Nodup := by
    refine List.Nodup.of_map Prod.fst ?_
    rw [List.map_map]
    exact h.nodup_symbols sound
  exact (List.perm_ext_iff_of_nodup once once').2 (h.mem_symbols kept sound pruned listed)

/-- A symbol that was seen is in a file that was seen. -/
lemma Recorded.paths (h : Recorded parse a m saved parsed v.store) (kept : Kept a m v)
    (sound : v.store.Sound) (pruned : Did (.pruneSymbols a m) v.trace)
    (listed : v.store.listSymbols a = .ok symbols) :
    ∀ y ∈ symbols, ∃ f, (y.fileId, f) ∈ latest savedPath saved ∧ y.filePath = f.path := by
  intro y hy
  obtain ⟨e, he, ha, f, found, record⟩ := (Store.mem_listSymbols listed).1 hy
  obtain ⟨-, -, hfile, hpath⟩ := Store.SymbolRow.keys_of_record record
  obtain ⟨g, last, rfl⟩ := h.file_of_symbol kept sound pruned he ha found
  exact ⟨g, hfile ▸ last, hpath⟩

end

/-- If nothing is in its way and no operation fails that it needs, a run fails by its working tree
only. -/
lemma unreadable_of_failed {s : Store} {a : Int} {v : World} {subject : Subject} {force : Bool}
    {tree : Except AnalysisError (List SourceFile)} {e : AnalysisError}
    (found : s.getSubject a = .ok (some subject))
    (free : subject.status.isBusy = true → force = true)
    (items : ∀ e ∈ v.trace, e.answer.isOk = false → e.operation.isItem = true)
    (failed : Rejected s a force v ∨ Blamed v ∨ tree = .error e) : tree = .error e := by
  obtain ⟨-, r, trace, known⟩ | ⟨e, he, failed, vital⟩ | unreadable := failed
  · exfalso
    cases r with
    | error e =>
      have item := items ⟨.getSubject a, .error e, s⟩ (trace ▸ List.mem_cons_self) rfl
      cases item
    | ok found' =>
      obtain ⟨found', rejected⟩ := known _ rfl
      cases found.symm.trans found'
      obtain ⟨busy, unforced⟩ := rejected subject rfl
      cases unforced.symm.trans (free busy)
  · cases vital.symm.trans (items e he failed)
  · exact unreadable

/-- After any calls, a run whose mark is fresh succeeds if none of its operations fails but those
that it goes on without. It tries all files of the working tree and all symbols of the files that it
has stored, and what is listed afterwards is what it has stored, the last of each key. -/
theorem run_replaces {log : List (Call × Ending)} {a : Int} {w v : World} (history : History log w)
    {subject : Subject} (found : w.store.getSubject a = .ok (some subject)) {disk : Disk}
    {services : Inference.Services} {options : AnalysisOptions}
    (free : subject.status.isBusy = true → options.force = true) {walked : List SourceFile}
    (readable : filesAt disk subject.rootPath ⟨options.maxDepth, options.maxFileBytes⟩ = .ok walked)
    {result : Except AnalysisError SubjectStats}
    (steps : (run disk services a options).run.Steps w (.done result) v)
    (items : ∀ e ∈ v.trace, e.answer.isOk = false → e.operation.isItem = true)
    (fresh : ∀ e ∈ v.trace, ∀ m, e.operation.mark? = some m → ¬ w.store.HasMark a m) :
    (∃ stats, result = .ok stats) ∧ v.trace.filterMap Event.triedFile? = walked ∧
      v.trace.filterMap Event.triedSymbol? =
        symbolsOf services.libraries.parse (savedFiles v.trace) ∧
      ∃ files symbols, v.store.listFiles a = .ok files ∧ v.store.listSymbols a = .ok symbols ∧
        Replaced services.libraries.parse a (savedFiles v.trace) (savedSymbols v.trace) files
          symbols := by
  have regular := history.regular
  obtain ⟨last, dated, capped⟩ := regular.marked a
  have htree : ∀ subject', w.store.getSubject a = .ok (some subject') →
      filesAt disk subject'.rootPath ⟨options.maxDepth, options.maxFileBytes⟩ = .ok walked := by
    intro subject' found'
    cases found.symm.trans found'
    exact readable
  have outcome : EnsuresOr _ _ _ (run disk services a options) w :=
    run_recorded history.fresh regular.sound dated capped htree
  have settled : EnsuresOr _ _ _ (run disk services a options) w := run_settles history.fresh
  cases result with
  | error e =>
    obtain ⟨⟨failed, -⟩, -⟩ := steps.ensures outcome.ensures
    cases unreadable_of_failed found free items failed
  | ok stats =>
    obtain ⟨⟨⟨m, saved, ⟨tried, htried, journal, swept⟩, pruned⟩, steady⟩, recorded⟩ :=
      steps.ensures outcome.ensures
    obtain ⟨files, symbols, tallied⟩ := steps.ensures settled.ensures
    cases htried
    obtain ⟨⟨now, later, -, rfl⟩, only⟩ := journal.toMarking
    have kept := steady.kept _ (marker_mono later (Int.le_refl _)) only
    have new : ¬ w.store.HasMark a (marker now last) := by
      obtain ⟨e, he, prunes, -⟩ := pruned
      exact fresh e he _ (by rw [prunes]; rfl)
    have record := recorded _ new only
    refine ⟨⟨stats, rfl⟩, journal.files, ?_, files, symbols, tallied.files_eq, tallied.symbols_eq,
      ?_, ?_, ?_, ?_⟩
    · rw [journal.saved]
      exact journal.symbols
    · exact Store.pairwise_listFiles steady.sound tallied.files_eq
    · exact record.perm_files kept steady.sound swept tallied.files_eq
    · exact record.perm_symbols kept steady.sound pruned tallied.symbols_eq
    · exact record.paths kept steady.sound pruned tallied.symbols_eq

section Example

/-- A file and a symbol that are refused. -/
def mixedRefusals : List Store.Refusal :=
  [⟨.files, .insert, "path", .text "bad.py"⟩, ⟨.symbols, .insert, "name", .text "lost"⟩]

/-- Two files get one path, and with it one symbol. -/
def mixedTree : Disk := ⟨.directory [
  (Text.toBytes "bad.py", .file "x".toUTF8),
  (Text.toBytes "d", .directory [
    (Text.toBytes "e.py", .file "def twice(x):\n    return x\n".toUTF8)]),
  (Text.toBytes "d\\e.py", .file "def twice(x):\n    return x + x\n\nimport os\n".toUTF8),
  (Text.toBytes "main.py",
    .file "from d import e\n\ndef main(n):\n    twice(n)\n\ndef lost(n):\n    return n\n".toUTF8)],
  [], fun _ => none⟩

/-- What was there before: one file that stays and one that goes. -/
def earlierTree : Disk := ⟨.directory [
  (Text.toBytes "a", .file "x".toUTF8),
  (Text.toBytes "d", .directory [(Text.toBytes "e.py", .file "x".toUTF8)])], [], fun _ => none⟩

/-- The store once the working tree was named. -/
def namedStore : Store :=
  ((Call.resolve earlierTree "/" (some "tree")).program.run (.offline 2) (fun _ => 0)
    ⟨{ Store.empty with refusals := mixedRefusals }, 0, []⟩).2.store

/-- What an earlier run has left. -/
def earlierStore : Store :=
  ((run earlierTree (.offline 2) 1 {}).run.run (.offline 2) (fun _ => 5)
    ⟨namedStore, 0, []⟩).2.store

/-- The store afterwards. -/
def mixedStore : Store :=
  ((run mixedTree (.offline 2) 1 {}).run.run (.offline 2) (fun _ => 7)
    ⟨earlierStore, 0, []⟩).2.store

def mixedEvents : List Event :=
  (run mixedTree (.offline 2) 1 {}).run.events (.offline 2) (fun _ => 7) ⟨earlierStore, 0, []⟩

lemma history_earlierStore : ∃ log t, t ≤ 5 ∧ History log ⟨earlierStore, t, []⟩ := by
  have named : History [(.resolve earlierTree "/" (some "tree"), .returned true)]
      ⟨namedStore, 0, []⟩ := history_of_first mixedRefusals (by decide +kernel) rfl
  obtain ⟨v, most, store, -, steps⟩ := steps_still (run earlierTree (.offline 2) 1 {}).run
    (.offline 2) namedStore (show (0 : Int) ≤ 5 by decide)
  have analyzed : (Call.analyze earlierTree (.offline 2) 1 {}).program.Steps _ (.done _) _ :=
    steps.bind (.refl _ _)
  have history := named.returned analyzed
  rw [store, ← earlierStore] at history
  exact ⟨_, v.time, most, history⟩

set_option synthInstance.maxSize 512 in
lemma run_mixedTree :
    ((run mixedTree (.offline 2) 1 {}).run.run (.offline 2) (fun _ => 7)
      ⟨earlierStore, 0, []⟩).1 = .ok ⟨0, 2, 2, 3, ["python"]⟩ ∧
    (earlierStore.getSubject 1).map (·.map fun a => (a.status, a.rootPath)) =
      .ok (some (.ready, "/")) ∧
    (filesAt mixedTree "/" ⟨10, 1024 * 1024⟩).map (·.map (·.path)) =
      .ok ["bad.py", "d/e.py", "d/e.py", "main.py"] ∧
    (earlierStore.listFiles 1).map (·.map (·.file.path)) = .ok ["a", "d/e.py"] ∧
    (mixedEvents.filterMap Event.triedSymbol?).map (·.2.name) =
      ["twice", "twice", "main", "lost"] ∧
    (∀ e ∈ mixedEvents, e.answer.isOk = false → e.operation.isItem = true) ∧
    mixedEvents.filterMap (·.operation.mark?) = List.replicate 10 7 ∧
    ¬ earlierStore.HasMark 1 7 ∧
    (savedFiles mixedEvents).map (fun f => (f.1, f.2.path)) =
      [(2, "d/e.py"), (2, "d/e.py"), (5, "main.py")] ∧
    (savedSymbols mixedEvents).map (fun y => (y.1, y.2.2.name)) =
      [(1, "twice"), (1, "twice"), (3, "main")] ∧
    (mixedStore.listFiles 1).map (·.map fun f => (f.id, f.file.path, f.imports, f.exports)) =
      .ok [(2, "d/e.py", ["os"], ["twice"]), (5, "main.py", ["d"], ["main", "lost"])] ∧
    (mixedStore.listSymbols 1).map (·.map fun y =>
        (y.id, y.symbol.parameters.map (·.name), y.symbol.calls, y.symbol.code)) =
      .ok [(1, ["x"], [], "def twice(x):\n    return x + x"),
        (3, ["n"], ["twice"], "def main(n):\n    twice(n)")] := by
  decide +kernel

/-- A run in which a file and a symbol are refused, and two files are written over each other,
replaces what an earlier run has left. -/
theorem run_replaces_mixedTree : ∃ log w v stats files symbols, History log w ∧
    (run mixedTree (.offline 2) 1 {}).run.Steps w (.done (.ok stats)) v ∧
    (w.store.listFiles 1).map (·.map (·.file.path)) = .ok ["a", "d/e.py"] ∧
    (v.trace.filterMap Event.triedFile?).map (·.path) =
      ["bad.py", "d/e.py", "d/e.py", "main.py"] ∧
    (savedFiles v.trace).map (fun f => (f.1, f.2.path)) =
      [(2, "d/e.py"), (2, "d/e.py"), (5, "main.py")] ∧
    (v.trace.filterMap Event.triedSymbol?).map (·.2.name) = ["twice", "twice", "main", "lost"] ∧
    (savedSymbols v.trace).map (fun y => (y.1, y.2.2.name)) =
      [(1, "twice"), (1, "twice"), (3, "main")] ∧
    v.store.listFiles 1 = .ok files ∧ v.store.listSymbols 1 = .ok symbols ∧
    Replaced Libraries.absent.parse 1 (savedFiles v.trace) (savedSymbols v.trace) files symbols ∧
    files.map (fun f => (f.id, f.file.path, f.imports, f.exports)) =
      [(2, "d/e.py", ["os"], ["twice"]), (5, "main.py", ["d"], ["main", "lost"])] ∧
    symbols.map (fun y =>
        (y.id, y.symbol.parameters.map (·.name), y.symbol.calls, y.symbol.code)) =
      [(1, ["x"], [], "def twice(x):\n    return x + x"),
        (3, ["n"], ["twice"], "def main(n):\n    twice(n)")] := by
  obtain ⟨value, known, readable, before, tried, items, marks, fresh, saved, parsed, listed,
    listed'⟩ := run_mixedTree
  obtain ⟨log, t, earlier, history⟩ := history_earlierStore
  obtain ⟨v, -, store, trace, steps⟩ := steps_still (run mixedTree (.offline 2) 1 {}).run
    (.offline 2) earlierStore (show t ≤ 7 by omega)
  rw [value] at steps
  rw [← mixedStore] at store
  rw [← mixedEvents] at trace
  rw [← store] at listed listed'
  rw [← trace] at tried items marks saved parsed
  obtain ⟨found, asked, some_eq⟩ := Store.map_eq_ok.1 known
  obtain ⟨subject, rfl, same⟩ := Option.map_eq_some_iff.1 some_eq
  obtain ⟨status, root⟩ := Prod.mk.inj same
  obtain ⟨walked, walks, paths⟩ := Store.map_eq_ok.1 readable
  have free : subject.status.isBusy = true → ({} : AnalysisOptions).force = true := by
    rw [status]
    nofun
  have one : ∀ k ∈ v.trace.filterMap (·.operation.mark?), k = 7 := by
    simp [marks]
  obtain ⟨-, walked_eq, -, files, symbols, files_eq, symbols_eq, replaced⟩ :=
    run_replaces history asked free (root ▸ walks) steps items (fresh_of_marks one fresh)
  rw [files_eq] at listed
  rw [symbols_eq] at listed'
  rw [← walked_eq] at paths
  exact ⟨log, _, v, _, files, symbols, history, steps, before, paths, saved, tried, parsed,
    files_eq, symbols_eq, replaced, Except.ok.inj listed, Except.ok.inj listed'⟩

end Example

end Analysis

end CodeAtlas
