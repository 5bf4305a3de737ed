import CodeAtlas.Outline.Generic
import CodeAtlas.Proofs.Attained
import CodeAtlas.Proofs.Keywords
import CodeAtlas.Retrieval.Search

/-! # What a search finds

A search of the store finds those of the files, or symbols, that are listed which satisfy its
condition. A word of the question that stands in a path or a name is found with the keywords of the
question if one of them is in the word itself; that is so for every long word, no stop word, of
which each letter has the small letter that ASCII gives it. -/
namespace CodeAtlas

namespace Store

variable {s : Store} {a : Int} {words : List String}

/-! ## Mentions -/

lemma mentions_iff {text : List Char} : mentions words (String.ofList text) = true ↔
    ∃ w ∈ words, Text.asciiLowercase w.toList <:+: Text.asciiLowercase text := by
  simp only [mentions, List.any_eq_true, Text.occursIn_iff, String.toList_ofList]
  rfl

lemma mentions_mono {part : List Char} {text : String}
    (h : mentions words (String.ofList part) = true) (occurs : part <:+: text.toList) :
    mentions words text = true := by
  rw [← String.ofList_toList (s := text)]
  obtain ⟨w, mem, within⟩ := mentions_iff.1 h
  exact mentions_iff.2 ⟨w, mem, within.trans (occurs.map Char.toLower)⟩

/-- Only the empty word is in the empty text, and it is in every other. -/
lemma mentions_of_mentions_nothing (h : mentions words (String.ofList []) = true) (text : String) :
    mentions words text = true :=
  mentions_mono h (List.nil_infix)

lemma mentions_of_subset {fewer : List String} (sub : fewer ⊆ words) {text : String}
    (h : mentions fewer text = true) : mentions words text = true := by
  obtain ⟨w, mem, within⟩ := List.any_eq_true.1 h
  exact List.any_eq_true.2 ⟨w, sub mem, within⟩

/-! ## Searches and listings -/

lemma limited_of_length_le {rows : List α} {limit : Nat} (room : rows.length ≤ limit) :
    limited limit rows = rows := by
  unfold limited
  split
  · exact List.take_of_length_le room
  · rfl

/-- Rows that are read one by one: of those that are listed, those that satisfy a condition. -/
lemma exists_found {f : α → Except ε β} {listed searched : List α} {xs : List β} {limit : Nat}
    {p : α → Bool} {q : β → Bool} (h : listed.mapM f = .ok xs)
    (perm : searched.Perm (listed.filter p)) (agree : ∀ e x, f e = .ok x → q x = p e)
    (room : xs.length ≤ limit) :
    ∃ found, (limited limit searched).mapM f = .ok found ∧
      ∀ x, x ∈ found ↔ x ∈ xs ∧ q x = true := by
  have length : searched.length ≤ limit :=
    calc searched.length = (listed.filter p).length := perm.length_eq
      _ ≤ listed.length := List.length_filter_le ..
      _ = xs.length := (mapM_eq_ok.1 h).length_eq
      _ ≤ limit := room
  rw [limited_of_length_le length]
  have mem (e : α) : e ∈ searched ↔ e ∈ listed ∧ p e = true := perm.mem_iff.trans List.mem_filter
  obtain ⟨found, eq⟩ := exists_mapM (f := f) fun e (there : e ∈ searched) =>
    let ⟨x, _, hx⟩ := exists_of_mapM_eq_ok h ((mem e).1 there).1
    ⟨x, hx⟩
  refine ⟨found, eq, fun x => ?_⟩
  rw [mem_of_mapM_eq_ok eq, mem_of_mapM_eq_ok h]
  constructor
  · rintro ⟨e, there, hx⟩
    obtain ⟨before, holds⟩ := (mem e).1 there
    exact ⟨⟨e, before, hx⟩, (agree e x hx).trans holds⟩
  · rintro ⟨⟨e, before, hx⟩, holds⟩
    exact ⟨e, (mem e).2 ⟨before, (agree e x hx).symm.trans holds⟩, hx⟩

lemma eq_nil_of_found {r : Except ε (List β)} {xs : List β} {q : β → Bool}
    (h : ∃ found, r = .ok found ∧ ∀ x, x ∈ found ↔ x ∈ xs ∧ q x = true)
    (none : ∀ x ∈ xs, q x = false) : r = .ok [] := by
  obtain ⟨found, eq, mem⟩ := h
  have empty : found = [] := by
    refine List.eq_nil_iff_forall_not_mem.2 fun x there => ?_
    obtain ⟨before, holds⟩ := (mem x).1 there
    rw [none x before] at holds
    cases holds
  rw [eq, empty]

lemma FileRow.texts_of_record {id : Int} {r : FileRow} {x : StoredFile} (h : r.record id = .ok x) :
    x.file.path = r.path ∧ x.file.content = r.content := by
  simp only [FileRow.record, bind_eq_ok, pure_eq_ok] at h
  obtain ⟨_, -, _, -, _, -, _, -, _, -, rfl⟩ := h
  exact ⟨rfl, rfl⟩

lemma SymbolRow.texts_of_record {id : Int} {r : SymbolRow} {path : String} {y : StoredSymbol}
    (h : r.record id path = .ok y) : y.symbol.name = r.name ∧ y.symbol.code = r.code := by
  simp only [SymbolRow.record, bind_eq_ok, pure_eq_ok] at h
  obtain ⟨_, -, _, -, _, -, _, -, _, -, _, -, _, -, _, -, rfl⟩ := h
  exact ⟨rfl, rfl⟩

theorem mem_searchFiles {files : List StoredFile} (h : s.listFiles a = .ok files) {limit : Nat}
    (room : files.length ≤ limit) (names codes : List String) :
    ∃ found, s.searchFiles a names codes limit = .ok found ∧ ∀ x, x ∈ found ↔
      x ∈ files ∧ (mentions names x.file.path || mentions codes x.file.content) = true := by
  refine exists_found h (p := fun e => mentions names e.2.path || mentions codes e.2.content) ?_
    (fun e x hx => ?_) room
  · rw [Table.filter_and]
    exact (orderedBy_perm _).trans ((orderedBy_perm _).symm.filter _)
  · obtain ⟨path, content⟩ := FileRow.texts_of_record hx
    rw [path, content]

lemma symbolRows_and_perm (p q : SymbolRow → Bool) :
    (s.symbolRows fun r => p r && q r).Perm ((s.symbolRows p).filter fun e => q e.2.2) := by
  unfold symbolRows
  rw [Table.filter_and]
  refine .trans (orderedBy_perm _) (.trans ?_ ((orderedBy_perm _).symm.filter _))
  rw [List.filterMap_filter, List.filter_filterMap]
  refine List.Perm.of_eq (List.filterMap_congr fun e _ => ?_)
  cases s.files.find? e.2.fileId <;> simp [Option.filter]

theorem mem_searchSymbols {symbols : List StoredSymbol} (h : s.listSymbols a = .ok symbols)
    {limit : Nat} (room : symbols.length ≤ limit) (names codes : List String) :
    ∃ found, s.searchSymbols a names codes limit = .ok found ∧ ∀ y, y ∈ found ↔
      y ∈ symbols ∧ (mentions names y.symbol.name || mentions codes y.symbol.code) = true := by
  have perm := symbolRows_and_perm (s := s) (fun r => decide (r.subjectId = a))
    fun r => mentions names r.name || mentions codes r.code
  refine exists_found h perm (fun e y hy => ?_) room
  obtain ⟨name, code⟩ := SymbolRow.texts_of_record hy
  rw [name, code]

end Store

namespace Retrieval

open Store

variable {words : List String} {text : List Char}

/-- Files with a text in their path satisfy the condition of a search with some words, and so the
search finds them when its limit leaves room for all files. -/
structure FindsFiles (words : List String) (text : List Char) : Prop where
  condition : ∀ r : FileRow, text <:+: r.path.toList →
    (mentions words r.path || mentions (words.take contentWordCount) r.content) = true
  search : ∀ (s : Store) (a : Int) (files : List StoredFile) (limit : Nat),
    s.listFiles a = .ok files → files.length ≤ limit →
      ∃ found, s.searchFiles a words (words.take contentWordCount) limit = .ok found ∧
        ∀ x ∈ files, text <:+: x.file.path.toList → x ∈ found

/-- Symbols with a text in their name satisfy the condition of a search with some words, and so the
search finds them when its limit leaves room for all symbols. -/
structure FindsSymbols (words : List String) (text : List Char) : Prop where
  condition : ∀ r : SymbolRow, text <:+: r.name.toList →
    (mentions words r.name || mentions (words.take contentWordCount) r.code) = true
  search : ∀ (s : Store) (a : Int) (symbols : List StoredSymbol) (limit : Nat),
    s.listSymbols a = .ok symbols → symbols.length ≤ limit →
      ∃ found, s.searchSymbols a words (words.take contentWordCount) limit = .ok found ∧
        ∀ y ∈ symbols, text <:+: y.symbol.name.toList → y ∈ found

/-- A condition that also looks at contents says no more of a row that has none. -/
lemma mentions_of_condition
    (h : (mentions words (String.ofList text) ||
      mentions (words.take contentWordCount) "") = true) :
    mentions words (String.ofList text) = true := by
  rcases Bool.or_eq_true_iff.1 h with h | h
  · exact h
  · exact mentions_of_mentions_nothing (mentions_of_subset (List.take_subset ..) h) _

/-- The words have to be in the text itself: it may be all there is of a path. -/
lemma findsFiles_iff : FindsFiles words text ↔ mentions words (String.ofList text) = true := by
  constructor
  · intro h
    refine mentions_of_condition ?_
    exact h.condition { (default : FileRow) with path := String.ofList text, content := "" }
      (by simp)
  · intro h
    have condition (r : FileRow) (occurs : text <:+: r.path.toList) :
        (mentions words r.path || mentions (words.take contentWordCount) r.content) = true := by
      rw [mentions_mono h occurs, Bool.true_or]
    refine ⟨condition, fun s a files limit listed room => ?_⟩
    obtain ⟨found, eq, mem⟩ := mem_searchFiles listed room words (words.take contentWordCount)
    refine ⟨found, eq, fun x there occurs => (mem x).2 ⟨there, ?_⟩⟩
    rw [mentions_mono h occurs, Bool.true_or]

lemma findsSymbols_iff : FindsSymbols words text ↔ mentions words (String.ofList text) = true := by
  constructor
  · intro h
    refine mentions_of_condition ?_
    exact h.condition { (default : SymbolRow) with name := String.ofList text, code := "" }
      (by simp)
  · intro h
    have condition (r : SymbolRow) (occurs : text <:+: r.name.toList) :
        (mentions words r.name || mentions (words.take contentWordCount) r.code) = true := by
      rw [mentions_mono h occurs, Bool.true_or]
    refine ⟨condition, fun s a symbols limit listed room => ?_⟩
    obtain ⟨found, eq, mem⟩ := mem_searchSymbols listed room words (words.take contentWordCount)
    refine ⟨found, eq, fun y there occurs => (mem y).2 ⟨there, ?_⟩⟩
    rw [mentions_mono h occurs, Bool.true_or]

/-- A long word of a question, no stop word, is found wherever it stands in a path or as a name just
if one of the keywords is in the word itself. It is if each of its letters has the small letter that
ASCII gives it. -/
theorem finds_run_iff {question : String} {word : List Char} (run : IsRun question.toList word)
    (long : 2 < word.length) (telling : String.ofList (Text.lowercase word) ∉ stopWords) :
    (FindsFiles (keywords question) word ↔
      mentions (keywords question) (String.ofList word) = true) ∧
    (FindsSymbols (keywords question) word ↔
      mentions (keywords question) (String.ofList word) = true) ∧
    ((∀ c ∈ word, Text.HasAsciiCase c) →
      mentions (keywords question) (String.ofList word) = true) := by
  refine ⟨findsFiles_iff, findsSymbols_iff, fun plain => ?_⟩
  refine mentions_iff.2 ⟨_, run.mem_keywords plain long telling, ?_⟩
  rw [String.toList_ofList, Text.asciiLowercase_idem]

theorem finds_run_iff_login :
    let question := "Where is Login handled?"
    let word := "Login".toList
    IsRun question.toList word ∧ 2 < word.length ∧ String.ofList (Text.lowercase word) ∉ stopWords ∧
      FindsFiles (keywords question) word ∧ FindsSymbols (keywords question) word := by
  have run : IsRun "Where is Login handled?".toList "Login".toList := by
    refine ⟨List.all_eq_true.1 (by decide +kernel), "Where is ".toList, " handled?".toList,
      by decide +kernel, ?_, ?_⟩ <;>
    · rintro _ ⟨⟩
      decide
  have long : 2 < "Login".toList.length := by decide +kernel
  have telling : String.ofList (Text.lowercase "Login".toList) ∉ stopWords := by decide +kernel
  have plain : "Login".toList.all (Text.HasAsciiCase ·) = true := by decide +kernel
  obtain ⟨files, symbols, mentioned⟩ := finds_run_iff run long telling
  have mentioned := mentioned fun c mem => of_decide_eq_true (List.all_eq_true.1 plain c mem)
  exact ⟨run, long, telling, files.2 mentioned, symbols.2 mentioned⟩

/-! ## Capitals beyond ASCII -/

def umlautFile : SourceFile := ⟨"ÜBER.md", "ÜBER.md", "md", .markdown, "", 0, 1⟩
def umlautSymbol : CodeSymbol := Outline.Generic.lineSymbol "ÜBER" 1 []

/-- A file and a symbol with a capital beyond ASCII in their names. -/
def umlauts : Store :=
  { Store.empty with
    files := Table.empty.add (FileRow.new 1 umlautFile [] [] 0)
    symbols := Table.empty.add (SymbolRow.new 1 1 umlautSymbol 0) }

lemma listFiles_umlauts :
    ∃ x, umlauts.listFiles 1 = .ok [x] ∧ x.file.path = "ÜBER.md" ∧ x.file.content = "" := by
  have rows : byPath (umlauts.files.filter (IsListed 1)) =
      [(1, FileRow.new 1 umlautFile [] [] 0)] :=
    rfl
  refine ⟨⟨1, 1, umlautFile.inColumns, [], [], Digest.Blake3.hashText "".toUTF8, false⟩,
    ?_, rfl, rfl⟩
  unfold listFiles
  unfold IsListed at rows
  rw [rows]
  rfl

lemma listSymbols_umlauts :
    ∃ y, umlauts.listSymbols 1 = .ok [y] ∧ y.symbol.name = "ÜBER" ∧ y.symbol.code = "" := by
  have rows : umlauts.symbolRows (·.subjectId = 1) =
      [(1, "ÜBER.md", SymbolRow.new 1 1 umlautSymbol 0)] :=
    rfl
  refine ⟨⟨1, 1, 1, "ÜBER.md", umlautSymbol.inColumns⟩, ?_, rfl, rfl⟩
  rw [listSymbols, rows]
  rfl

/-- A question is a word in capitals beyond ASCII. The word is made small, and then it is not found
in the path and the name that have it letter for letter. -/
theorem capitals_missed :
    let question := "ÜBER"
    let word := "ÜBER".toList
    IsRun question.toList word ∧ 2 < word.length ∧ String.ofList (Text.lowercase word) ∉ stopWords ∧
      (∃ x, umlauts.listFiles 1 = .ok [x] ∧ word <:+: x.file.path.toList) ∧
      (∃ y, umlauts.listSymbols 1 = .ok [y] ∧ word <:+: y.symbol.name.toList) ∧
      umlauts.searchFiles 1 (keywords question) ((keywords question).take contentWordCount)
        fileLimit = .ok [] ∧
      umlauts.searchSymbols 1 (keywords question) ((keywords question).take contentWordCount)
        symbolLimit = .ok [] := by
  have run : IsRun "ÜBER".toList "ÜBER".toList :=
    ⟨List.all_eq_true.1 (by decide +kernel), [], [], by decide +kernel, nofun, nofun⟩
  have small : keywords "ÜBER" = ["über"] := by decide +kernel
  obtain ⟨x, listed, path, content⟩ := listFiles_umlauts
  obtain ⟨y, listed', name, code⟩ := listSymbols_umlauts
  refine ⟨run, by decide +kernel, by decide +kernel, ⟨x, listed, ?_⟩, ⟨y, listed', ?_⟩, ?_, ?_⟩
  · rw [path]
    decide +kernel
  · rw [name]
  · have room : [x].length ≤ fileLimit := by simp [fileLimit]
    refine eq_nil_of_found (mem_searchFiles listed room _ _) fun z one => ?_
    rw [List.mem_singleton.1 one, path, content, small]
    decide +kernel
  · have room : [y].length ≤ symbolLimit := by simp [symbolLimit]
    refine eq_nil_of_found (mem_searchSymbols listed' room _ _) fun z one => ?_
    rw [List.mem_singleton.1 one, name, code, small]
    decide +kernel

end Retrieval

end CodeAtlas
