import CodeAtlas.Proofs.Readback
import CodeAtlas.Proofs.Soundness
import Mathlib.Data.List.Sort

/-! # What is listed

The files and the symbols that the store lists, by the rows that it has. -/
namespace CodeAtlas.Store

variable {s : Store} {a : Int}

/-! ## Orders -/

section

variable {le : α → α → Bool} {a : α} {l : List α} {R : α → α → Prop}

lemma insertSorted_eq_orderedInsert (a : α) (l : List α) :
    insertSorted le a l = l.orderedInsert (le · · = true) a := by
  induction l with
  | nil => rfl
  | cons b rest ih => rw [insertSorted, ih, List.orderedInsert_cons]

lemma sorted_eq_insertionSort (l : List α) : sorted le l = l.insertionSort (le · · = true) := by
  induction l with
  | nil => rfl
  | cons a rest ih => rw [sorted, insertSorted_eq_orderedInsert, ih, List.insertionSort_cons]

lemma sorted_perm (l : List α) : (sorted le l).Perm l := by
  rw [sorted_eq_insertionSort]
  exact List.perm_insertionSort _ l

lemma pairwise_insertSorted (trans : ∀ a b c, le a b = true → le b c = true → le a c = true)
    (total : ∀ a b, (le a b || le b a) = true) (before : ∀ x ∈ l, R a x)
    (h : l.Pairwise fun x y => le x y = true ∧ (le y x = true → R x y)) :
    (insertSorted le a l).Pairwise fun x y => le x y = true ∧ (le y x = true → R x y) := by
  induction l with
  | nil => exact List.pairwise_singleton _ _
  | cons b rest ih =>
    obtain ⟨first, others⟩ := List.pairwise_cons.1 h
    rw [insertSorted]
    split_ifs with good
    · refine List.pairwise_cons.2 ⟨fun x hx => ⟨?_, fun _ => before x hx⟩, h⟩
      rcases List.mem_cons.1 hx with rfl | hx
      · exact good
      · exact trans a b x good (first x hx).1
    · have later := ih (fun x hx => before x (List.mem_cons_of_mem _ hx)) others
      refine List.pairwise_cons.2 ⟨fun x hx => ?_, later⟩
      rw [insertSorted_eq_orderedInsert, List.mem_orderedInsert] at hx
      rcases hx with rfl | hx
      · refine ⟨?_, fun better => absurd better good⟩
        simpa [good] using total x b
      · exact first x hx

/-- What holds of elements that follow each other, still holds of those that are as good as each
other when the elements were put in order. -/
lemma pairwise_sorted (trans : ∀ a b c, le a b = true → le b c = true → le a c = true)
    (total : ∀ a b, (le a b || le b a) = true) (h : l.Pairwise R) :
    (sorted le l).Pairwise fun x y => le x y = true ∧ (le y x = true → R x y) := by
  induction l with
  | nil => exact .nil
  | cons a rest ih =>
    obtain ⟨first, others⟩ := List.pairwise_cons.1 h
    exact pairwise_insertSorted trans total
      (fun x hx => first x ((sorted_perm rest).mem_iff.1 hx)) (ih others)

end

lemma textLe_iff {x y : String} : textLe x y = true ↔ x ≤ y := by
  rw [textLe, Bool.not_eq_true', decide_eq_false_iff_not]
  exact Std.not_lt

lemma pairwise_orderedBy_textLe {key : ρ → String} (rows : List (Int × ρ)) :
    (orderedBy textLe key rows).Pairwise fun e e' => key e.2 ≤ key e'.2 := by
  have any : rows.Pairwise fun _ _ => True := List.pairwise_of_forall fun _ _ => trivial
  refine (pairwise_sorted (fun x y z => ?_) (fun x y => ?_) any).imp fun h => textLe_iff.1 h.1
  · rw [textLe_iff, textLe_iff, textLe_iff]
    exact Std.le_trans
  · rw [Bool.or_eq_true, textLe_iff, textLe_iff]
    exact Std.le_total

lemma orderedBy_perm {le : κ → κ → Bool} {key : ρ → κ} (rows : List (Int × ρ)) :
    (orderedBy le key rows).Perm rows :=
  sorted_perm rows

lemma mem_of_mem_limited {limit : Nat} {rows : List α} {a : α} (h : a ∈ limited limit rows) :
    a ∈ rows := by
  unfold limited at h
  split at h
  · exact List.mem_of_mem_take h
  · exact h

/-! ## Commits -/

lemma exists_of_listCommits {limit : Nat} {commits : List StoredCommit}
    (h : s.listCommits a limit = .ok commits) {x : StoredCommit} (mem : x ∈ commits) :
    ∃ e ∈ s.commits.rows, e.2.subjectId = a ∧ e.2.record e.1 = .ok x := by
  obtain ⟨e, listed, record⟩ := (mem_of_mapM_eq_ok h).1 mem
  obtain ⟨row, home⟩ :=
    Table.mem_filter.1 ((orderedBy_perm _).mem_iff.1 (mem_of_mem_limited listed))
  exact ⟨e, row, of_decide_eq_true home, record⟩

/-! ## Files -/

lemma FileRow.keys_of_record {id : Int} {r : FileRow} {x : StoredFile} (h : r.record id = .ok x) :
    x.id = id ∧ x.subjectId = r.subjectId ∧ x.file.path = r.path := by
  simp only [FileRow.record, bind_eq_ok, pure_eq_ok] at h
  obtain ⟨_, -, _, -, _, -, _, -, _, -, rfl⟩ := h
  exact ⟨rfl, rfl, rfl⟩

/-- A file that is listed. -/
def IsListed (a : Int) (r : FileRow) : Bool := r.subjectId = a && r.isDeleted.holds false

lemma isListed_iff {r : FileRow} :
    IsListed a r = true ↔ r.subjectId = a ∧ r.isDeleted = .value false := by
  simp [IsListed, Held.holds]

lemma mem_byPath {e : Int × FileRow} : e ∈ byPath (s.files.filter (IsListed a)) ↔
    e ∈ s.files.rows ∧ e.2.subjectId = a ∧ e.2.isDeleted = .value false := by
  rw [byPath, (orderedBy_perm _).mem_iff, Table.mem_filter, isListed_iff]

lemma record_of_listFiles {files : List StoredFile} (h : s.listFiles a = .ok files)
    {e : Int × FileRow} (he : e ∈ s.files.rows) (ha : e.2.subjectId = a)
    (alive : e.2.isDeleted = .value false) : ∃ x ∈ files, e.2.record e.1 = .ok x :=
  exists_of_mapM_eq_ok h (mem_byPath.2 ⟨he, ha, alive⟩)

theorem mem_listFiles {files : List StoredFile} (h : s.listFiles a = .ok files) {x : StoredFile} :
    x ∈ files ↔ ∃ e ∈ s.files.rows, e.2.subjectId = a ∧ e.2.isDeleted = .value false ∧
      e.2.record e.1 = .ok x := by
  rw [mem_of_mapM_eq_ok h]
  refine exists_congr fun e => (and_congr_left' mem_byPath).trans ?_
  rw [and_assoc, and_assoc]

/-- Files are listed by their paths, which are not the same. -/
theorem pairwise_listFiles (sound : s.Sound) {files : List StoredFile}
    (h : s.listFiles a = .ok files) : files.Pairwise fun x y => x.file.path < y.file.path := by
  have paths : files.map (·.file.path) =
      (byPath (s.files.filter (IsListed a))).map (·.2.path) :=
    map_of_mapM_eq_ok h fun e x hx => (FileRow.keys_of_record hx).2.2
  have distinct : (s.files.filter (IsListed a)).Pairwise fun e e' => e.2.path ≠ e'.2.path := by
    refine (sound.fileIds.increasing.filter _).imp_of_mem fun {e e'} he he' before same => ?_
    obtain ⟨hrow, listed⟩ := Table.mem_filter.1 he
    obtain ⟨hrow', listed'⟩ := Table.mem_filter.1 he'
    have home := (isListed_iff.1 listed).1.trans (isListed_iff.1 listed').1.symm
    cases sound.fileKeys e hrow e' hrow' (Prod.ext home same)
    exact Int.lt_irrefl _ before
  have perm : (byPath (s.files.filter (IsListed a))).Perm (s.files.filter (IsListed a)) :=
    orderedBy_perm _
  have sorted : (byPath (s.files.filter (IsListed a))).Pairwise fun e e' =>
      e.2.path < e'.2.path :=
    (pairwise_orderedBy_textLe _).imp₂ (fun e e' le ne => Std.lt_of_le_of_ne le ne)
      (perm.symm.pairwise distinct fun h => Ne.symm h)
  refine List.pairwise_map.1 ?_
  rw [paths]
  exact List.pairwise_map.2 sorted

/-! ## Symbols -/

lemma SymbolRow.keys_of_record {id : Int} {r : SymbolRow} {path : String} {y : StoredSymbol}
    (h : r.record id path = .ok y) :
    y.id = id ∧ y.subjectId = r.subjectId ∧ y.fileId = r.fileId ∧ y.filePath = path := by
  simp only [SymbolRow.record, bind_eq_ok, pure_eq_ok] at h
  obtain ⟨_, -, _, -, _, -, _, -, _, -, _, -, _, -, _, -, rfl⟩ := h
  exact ⟨rfl, rfl, rfl, rfl⟩

/-- The rows of symbols with the paths of their files, in any order. -/
def placed (s : Store) (a : Int) : List (Int × String × SymbolRow) :=
  (s.symbols.filter (·.subjectId = a)).filterMap fun e =>
    (s.files.find? e.2.fileId).map fun f => (e.1, f.path, e.2)

lemma symbolRows_perm : (s.symbolRows (·.subjectId = a)).Perm (s.placed a) := by
  unfold symbolRows placed
  exact orderedBy_perm _

lemma mem_placed {e : Int × String × SymbolRow} :
    e ∈ s.placed a ↔ (e.1, e.2.2) ∈ s.symbols.rows ∧ e.2.2.subjectId = a ∧
      ∃ f, s.files.find? e.2.2.fileId = some f ∧ e.2.1 = f.path := by
  simp only [placed, List.mem_filterMap, Table.mem_filter, Option.map_eq_some_iff,
    decide_eq_true_eq]
  constructor
  · rintro ⟨x, ⟨mem, ha⟩, f, found, rfl⟩
    exact ⟨mem, ha, f, found, rfl⟩
  · rintro ⟨mem, ha, f, found, path⟩
    exact ⟨_, ⟨mem, ha⟩, f, found, by rw [← path]⟩

theorem mem_listSymbols {symbols : List StoredSymbol} (h : s.listSymbols a = .ok symbols)
    {y : StoredSymbol} :
    y ∈ symbols ↔ ∃ e ∈ s.symbols.rows, e.2.subjectId = a ∧
      ∃ f, s.files.find? e.2.fileId = some f ∧ e.2.record e.1 f.path = .ok y := by
  rw [mem_of_mapM_eq_ok h]
  constructor
  · rintro ⟨e, he, hy⟩
    obtain ⟨mem, ha, f, found, path⟩ := mem_placed.1 (symbolRows_perm.mem_iff.1 he)
    exact ⟨_, mem, ha, f, found, path ▸ hy⟩
  · rintro ⟨e, mem, ha, f, found, hy⟩
    have placed : (e.1, f.path, e.2) ∈ s.placed a := mem_placed.2 ⟨mem, ha, f, found, rfl⟩
    exact ⟨(e.1, f.path, e.2), symbolRows_perm.mem_iff.2 placed, hy⟩

lemma record_of_listSymbols {symbols : List StoredSymbol} (h : s.listSymbols a = .ok symbols)
    {e : Int × SymbolRow} (he : e ∈ s.symbols.rows) (ha : e.2.subjectId = a) {f : FileRow}
    (found : s.files.find? e.2.fileId = some f) : ∃ y ∈ symbols, e.2.record e.1 f.path = .ok y := by
  have placed : (e.1, f.path, e.2) ∈ s.placed a := mem_placed.2 ⟨he, ha, f, found, rfl⟩
  obtain ⟨y, listed, read⟩ := exists_of_mapM_eq_ok h (symbolRows_perm.mem_iff.2 placed)
  exact ⟨y, listed, read⟩

/-- No symbol is listed twice. -/
theorem nodup_listSymbols (sound : s.Sound) {symbols : List StoredSymbol}
    (h : s.listSymbols a = .ok symbols) : (symbols.map (·.id)).Nodup := by
  have ids : symbols.map (·.id) = (s.symbolRows (·.subjectId = a)).map (·.1) :=
    map_of_mapM_eq_ok h fun e y hy => (SymbolRow.keys_of_record hy).1
  have increasing : (s.placed a).Pairwise fun e e' => e.1 < e'.1 := by
    refine List.pairwise_filterMap.2 ((sound.symbolIds.increasing.filter _).imp ?_)
    intro e e' before x hx x' hx'
    obtain ⟨f, -, rfl⟩ := Option.map_eq_some_iff.1 hx
    obtain ⟨f', -, rfl⟩ := Option.map_eq_some_iff.1 hx'
    exact before
  rw [ids, (symbolRows_perm.map _).nodup_iff]
  exact List.pairwise_map.2 (increasing.imp fun before => Int.ne_of_lt before)

end CodeAtlas.Store
