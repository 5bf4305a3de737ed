import CodeAtlas.Proofs.Pieces
import CodeAtlas.Retrieval.Merge
import Mathlib.Data.List.Basic
import Mathlib.Data.List.Infix

/-! # Excerpts of what was found by words

An excerpt of a file that was found by words is left out if its path is in the label of an excerpt
in front of it, and one of a symbol if an excerpt in front of it has its label or is of a function
of its name. So a file gives way to another one whose path has its own path in it, and a symbol to
one of its name in another file. That is all that is ever left out while there is room. -/
namespace CodeAtlas.Retrieval

/-! ## Lists that take in what they do not cover -/

section Uncovered

variable {α β : Type} {covers : α → β → Bool} {make : α → β} {items : List α} {made : List β}
  {a : α} {b : β}

/-- Add what is made of an item unless something there covers the item. -/
def addUncovered (covers : α → β → Bool) (make : α → β) (made : List β) (a : α) : List β :=
  if made.any (covers a) then made else made ++ [make a]

lemma prefix_addUncovered : made <+: addUncovered covers make made a := by
  unfold addUncovered
  split_ifs
  · exact List.prefix_rfl
  · exact List.prefix_append ..

lemma find?_addUncovered (self : covers a (make a) = true) :
    ∃ b, (addUncovered covers make made a).find? (covers a) = some b := by
  unfold addUncovered
  split_ifs with covered
  · exact Option.isSome_iff_exists.1 (List.find?_isSome.2 (List.any_eq_true.1 covered))
  · have : made.find? (covers a) = none := by simpa using covered
    exact ⟨make a, by simp [List.find?_append, this, self]⟩

/-- What was not there is made of the item, and the first to cover it. -/
lemma of_mem_addUncovered (self : covers a (make a) = true)
    (mem : b ∈ addUncovered covers make made a) :
    b ∈ made ∨ b = make a ∧ (addUncovered covers make made a).find? (covers a) = some b := by
  unfold addUncovered at mem ⊢
  split_ifs at mem ⊢ with covered
  · exact .inl mem
  · have : made.find? (covers a) = none := by simpa using covered
    rcases List.mem_append.1 mem with there | new
    · exact .inl there
    · rw [List.mem_singleton.1 new]
      exact .inr ⟨rfl, by simp [List.find?_append, this, self]⟩

lemma find?_of_prefix {few many : List β} {p : β → Bool} (h : few <+: many)
    (found : few.find? p = some b) : many.find? p = some b := by
  obtain ⟨rest, rfl⟩ := h
  rw [List.find?_append, found, Option.some_or]

lemma prefix_foldl_addUncovered : made <+: items.foldl (addUncovered covers make) made := by
  induction items generalizing made with
  | nil => exact List.prefix_rfl
  | cons a items ih => exact prefix_addUncovered.trans ih

lemma find?_foldl_addUncovered (self : ∀ a, covers a (make a) = true) (mem : a ∈ items) :
    ∃ b, (items.foldl (addUncovered covers make) made).find? (covers a) = some b := by
  induction items generalizing made with
  | nil => cases mem
  | cons first items ih =>
    rw [List.foldl_cons]
    rcases List.mem_cons.1 mem with rfl | mem
    · obtain ⟨b, found⟩ : ∃ b, (addUncovered covers make made a).find? (covers a) = some b :=
        find?_addUncovered (self a)
      exact ⟨b, find?_of_prefix prefix_foldl_addUncovered found⟩
    · exact ih mem

/-- What is there in the end was there at first, or is made of an item and the first to cover it. -/
lemma of_mem_foldl_addUncovered (self : ∀ a, covers a (make a) = true)
    (mem : b ∈ items.foldl (addUncovered covers make) made) : b ∈ made ∨
      ∃ a ∈ items, b = make a ∧
        (items.foldl (addUncovered covers make) made).find? (covers a) = some b := by
  induction items using List.reverseRecOn with
  | nil => exact .inl mem
  | append_singleton items last ih =>
    rw [List.foldl_append, List.foldl_cons, List.foldl_nil] at mem ⊢
    rcases of_mem_addUncovered (self last) mem with there | ⟨same, found⟩
    · obtain old | ⟨a, among, same, found⟩ := ih there
      · exact .inl old
      · exact .inr
          ⟨a, List.mem_append_left _ among, same, find?_of_prefix prefix_addUncovered found⟩
    · exact .inr ⟨last, by simp, same, found⟩

end Uncovered

/-! ## Excerpts by what they are of -/

/-- Whether a text is in the label of an excerpt. -/
def Chunk.isLabelled (text : String) (c : Chunk) : Bool :=
  Text.occursIn text.toList c.source.toList

/-- An excerpt of the file at a path. -/
def Chunk.IsOfFile (path : String) (c : Chunk) : Prop := c.kind = .file ∧ c.name = path

/-- The label of a function that was found by words. -/
def functionLabel (name path : String) : String := "function: " ++ name ++ " (" ++ path ++ ")"

/-- Whether an excerpt has the label of a function, or is of a function of its name. -/
def Chunk.isLike (name path : String) (c : Chunk) : Bool :=
  c.source == functionLabel name path || (c.kind == .function && c.name == name)

/-- An excerpt of a function in a file: its label has both, or it is that of a hit by similarity
whose metadata have the file. -/
def Chunk.IsOfFunction (hits : List VectorHit) (name path : String) (c : Chunk) : Prop :=
  c.kind = .function ∧ c.name = name ∧
    (c.source = functionLabel name path ∨ ∃ hit ∈ hits, c = .ofHit hit ∧
      metadataText? hit.stored.embedding.metadata "file_path" = some path)

variable {context : Context} {f : StoredFile} {y : StoredSymbol} {c : Chunk}

lemma addFile_eq :
    addFile = addUncovered (fun f => Chunk.isLabelled f.file.path) Chunk.ofFile := rfl

lemma addSymbol_eq :
    addSymbol = addUncovered (fun y => Chunk.isLike y.symbol.name y.filePath) Chunk.ofSymbol := rfl

lemma isLabelled_ofFile (f : StoredFile) : (Chunk.ofFile f).isLabelled f.file.path = true := by
  rw [Chunk.isLabelled, Text.occursIn_iff, Chunk.ofFile, String.toList_append]
  exact (List.suffix_append ..).isInfix

lemma isLike_ofSymbol (y : StoredSymbol) :
    (Chunk.ofSymbol y).isLike y.symbol.name y.filePath = true := by
  simp [Chunk.isLike, Chunk.ofSymbol]

lemma functionLabel_inj {name path path' : String} :
    functionLabel name path = functionLabel name path' ↔ path = path' := by
  simp [functionLabel, String.append_assoc]

lemma mergeChunks_of_short (short : (mergeChunks context).length < maxChunks) :
    mergeChunks context = context.symbols.foldl addSymbol
      (context.files.foldl addFile (context.vectorHits.map Chunk.ofHit)) := by
  rw [mergeChunks, List.length_take] at short
  exact List.take_of_length_le (by omega)

/-- What is an excerpt of neither a file nor a symbol that was found by words is of a hit. -/
lemma of_mem_mergeChunks (short : (mergeChunks context).length < maxChunks)
    (mem : c ∈ mergeChunks context) :
    (∃ hit ∈ context.vectorHits, Chunk.ofHit hit = c) ∨
    (∃ g ∈ context.files, c = .ofFile g ∧
      (mergeChunks context).find? (Chunk.isLabelled g.file.path) = some c) ∨
    ∃ z ∈ context.symbols, c = .ofSymbol z ∧
      (mergeChunks context).find? (Chunk.isLike z.symbol.name z.filePath) = some c := by
  rw [mergeChunks_of_short short, addSymbol_eq] at mem ⊢
  rcases of_mem_foldl_addUncovered isLike_ofSymbol mem with there | symbol
  · rw [addFile_eq] at there ⊢
    rcases of_mem_foldl_addUncovered isLabelled_ofFile there with hit | ⟨g, found, same, first⟩
    · exact .inl (List.mem_map.1 hit)
    · exact .inr (.inl ⟨g, found, same, find?_of_prefix prefix_foldl_addUncovered first⟩)
  · exact .inr (.inr symbol)

lemma ofHit_mem_mergeChunks (short : (mergeChunks context).length < maxChunks) {hit : VectorHit}
    (mem : hit ∈ context.vectorHits) : .ofHit hit ∈ mergeChunks context := by
  rw [mergeChunks_of_short short, addSymbol_eq, addFile_eq]
  exact (prefix_foldl_addUncovered.trans prefix_foldl_addUncovered).subset (List.mem_map_of_mem mem)

/-- The first excerpt with the path of a file in its label is of a hit or of a file that was found,
for the file is looked at before the symbols are. -/
lemma find?_isLabelled (found : f ∈ context.files)
    (short : (mergeChunks context).length < maxChunks) :
    ∃ first ∈ context.vectorHits.map .ofHit ++ context.files.map .ofFile,
      (mergeChunks context).find? (Chunk.isLabelled f.file.path) = some first := by
  rw [mergeChunks_of_short short, addSymbol_eq, addFile_eq]
  obtain ⟨first, there⟩ : ∃ first, (context.files.foldl
      (addUncovered (fun f => Chunk.isLabelled f.file.path) Chunk.ofFile)
      (context.vectorHits.map .ofHit)).find? (Chunk.isLabelled f.file.path) = some first :=
    find?_foldl_addUncovered isLabelled_ofFile found
  refine ⟨first, ?_, find?_of_prefix prefix_foldl_addUncovered there⟩
  rcases of_mem_foldl_addUncovered isLabelled_ofFile (List.mem_of_find?_eq_some there) with
    hit | ⟨g, among, rfl, -⟩
  · exact List.mem_append_left _ hit
  · exact List.mem_append_right _ (List.mem_map_of_mem among)

/-- While there is room, an excerpt of a hit or of a file that was found has the path of a file in
its label. The file has an excerpt of its own just if the first such is its own, or a hit is. -/
theorem mergeChunks_file_iff (found : f ∈ context.files)
    (short : (mergeChunks context).length < maxChunks) :
    ∃ first ∈ context.vectorHits.map .ofHit ++ context.files.map .ofFile,
      (mergeChunks context).find? (Chunk.isLabelled f.file.path) = some first ∧
      ((∃ c ∈ mergeChunks context, c.IsOfFile f.file.path) ↔
        first.IsOfFile f.file.path ∨
          ∃ hit ∈ context.vectorHits, (Chunk.ofHit hit).IsOfFile f.file.path) := by
  obtain ⟨first, among, first_eq⟩ := find?_isLabelled found short
  refine ⟨first, among, first_eq, ?_, ?_⟩
  · rintro ⟨c, mem, own⟩
    obtain ⟨hit, near, rfl⟩ | ⟨g, -, rfl, same⟩ | ⟨y, -, rfl, -⟩ := of_mem_mergeChunks short mem
    · exact .inr ⟨hit, near, own⟩
    · -- Another file of that path is as good, and gives way to the same labels.
      have path : g.file.path = f.file.path := own.2
      rw [path, first_eq] at same
      exact .inl (Option.some.inj same ▸ own)
    · cases own.1
  · rintro (own | ⟨hit, near, own⟩)
    · exact ⟨first, List.mem_of_find?_eq_some first_eq, own⟩
    · exact ⟨_, ofHit_mem_mergeChunks short near, own⟩

/-- A file with nothing but a path. -/
def fileAt (path : String) : StoredFile :=
  { (default : StoredFile) with file := { (default : SourceFile) with path := path } }

/-- A hit by similarity with nothing but what it is of. -/
def hitOf (kind : EntityKind) (name : String) (metadata : Json) : VectorHit where
  stored := ⟨1, 1, {
    entityKind := kind
    entityName := name
    metadata := metadata
    entityId := ""
    content := ""
    contentKind := .code
    vector := [] }⟩
  score := .zero

/-- A commit has the path of a file for its name, and the file is a hit itself. -/
def pathTwice : Context where
  vectorHits := [hitOf .commit "src/app.js" .null, hitOf .file "src/app.js" .null]
  files := [fileAt "src/app.js", fileAt "lib/util.js"]

theorem mergeChunks_file_iff_pathTwice :
    fileAt "src/app.js" ∈ pathTwice.files ∧ fileAt "lib/util.js" ∈ pathTwice.files ∧
    (mergeChunks pathTwice).length < maxChunks ∧
    (∃ c ∈ mergeChunks pathTwice, c.IsOfFile "src/app.js") ∧
    ∃ c ∈ mergeChunks pathTwice, c.IsOfFile "lib/util.js" := by
  have short : (mergeChunks pathTwice).length < maxChunks := by decide +kernel
  have app : fileAt "src/app.js" ∈ pathTwice.files := List.mem_cons_self
  have util : fileAt "lib/util.js" ∈ pathTwice.files := by simp [pathTwice]
  refine ⟨app, util, short, ?_, ?_⟩
  · obtain ⟨_, -, -, iff⟩ := mergeChunks_file_iff app short
    exact iff.2 (.inr ⟨hitOf .file "src/app.js" .null, by simp [pathTwice], rfl, rfl⟩)
  · obtain ⟨first, -, found, iff⟩ := mergeChunks_file_iff util short
    have own : (mergeChunks pathTwice).find? (Chunk.isLabelled "lib/util.js") =
        some (.ofFile (fileAt "lib/util.js")) := by decide +kernel
    cases own.symm.trans found
    exact iff.2 (.inl ⟨rfl, rfl⟩)

/-- A file has its path within the path of a file in front of it. -/
def pathWithin : Context where
  files := [fileAt "src/app.js", fileAt "app.js"]

theorem pathWithin_missed :
    fileAt "app.js" ∈ pathWithin.files ∧ (mergeChunks pathWithin).length < maxChunks ∧
    mergeChunks pathWithin = [.ofFile (fileAt "src/app.js")] ∧
    ¬ ∃ c ∈ mergeChunks pathWithin, c.IsOfFile "app.js" := by
  have one : mergeChunks pathWithin = [.ofFile (fileAt "src/app.js")] := by decide +kernel
  refine ⟨by simp [pathWithin], by decide +kernel, one, ?_⟩
  rw [one]
  rintro ⟨c, mem, -, name⟩
  rw [List.mem_singleton.1 mem] at name
  exact absurd name (by decide)

/-! ## Symbols -/

lemma isLike_ofFile (name path : String) : (Chunk.ofFile f).isLike name path = false := by
  have label : Chunk.source (.ofFile f) ≠ functionLabel name path := fun same => by
    have := congrArg (fun s : String => s.toList.take 2) same
    simp [functionLabel, Chunk.ofFile] at this
  rw [Chunk.isLike, beq_false_of_ne label]
  rfl

/-- The first excerpt that has the label of a symbol or is of a function of its name is of a hit or
of a symbol that was found, for that of a file is neither. -/
lemma find?_isLike (found : y ∈ context.symbols)
    (short : (mergeChunks context).length < maxChunks) :
    ∃ first ∈ context.vectorHits.map .ofHit ++ context.symbols.map .ofSymbol,
      (mergeChunks context).find? (Chunk.isLike y.symbol.name y.filePath) = some first := by
  obtain ⟨first, first_eq⟩ : ∃ first,
      (mergeChunks context).find? (Chunk.isLike y.symbol.name y.filePath) = some first := by
    rw [mergeChunks_of_short short, addSymbol_eq]
    exact find?_foldl_addUncovered isLike_ofSymbol found
  have like := List.find?_some first_eq
  have mem := List.mem_of_find?_eq_some first_eq
  refine ⟨first, ?_, first_eq⟩
  obtain ⟨hit, near, rfl⟩ | ⟨g, -, rfl, -⟩ | ⟨z, among, rfl, -⟩ := of_mem_mergeChunks short mem
  · exact List.mem_append_left _ (List.mem_map_of_mem near)
  · rw [isLike_ofFile] at like
    cases like
  · exact List.mem_append_right _ (List.mem_map_of_mem among)

lemma filePath_of_label {name path : String} (same : y.symbol.name = name)
    (label : (Chunk.ofSymbol y).source = functionLabel name path) : y.filePath = path := by
  have own : (Chunk.ofSymbol y).source = functionLabel y.symbol.name y.filePath := rfl
  rw [own, same] at label
  exact functionLabel_inj.1 label

/-- While there is room, an excerpt of a hit or of a symbol that was found has the label of a symbol
or is of a function of its name. The symbol has an excerpt, by its name and its file, just if the
first such is one, or a hit is. -/
theorem mergeChunks_symbol_iff (found : y ∈ context.symbols)
    (short : (mergeChunks context).length < maxChunks) :
    let own := Chunk.IsOfFunction context.vectorHits y.symbol.name y.filePath
    ∃ first ∈ context.vectorHits.map .ofHit ++ context.symbols.map .ofSymbol,
      (mergeChunks context).find? (Chunk.isLike y.symbol.name y.filePath) = some first ∧
      ((∃ c ∈ mergeChunks context, own c) ↔
        own first ∨ ∃ hit ∈ context.vectorHits, own (.ofHit hit)) := by
  intro own
  obtain ⟨first, among, first_eq⟩ := find?_isLike found short
  refine ⟨first, among, first_eq, ?_, ?_⟩
  · rintro ⟨c, mem, holds⟩
    obtain ⟨hit, near, rfl⟩ | ⟨g, -, rfl, -⟩ | ⟨z, -, rfl, same⟩ := of_mem_mergeChunks short mem
    · exact .inr ⟨hit, near, holds⟩
    · cases holds.1
    · obtain ⟨-, name, label | ⟨hit, near, eq, -⟩⟩ := id holds
      · -- A symbol of that name and label is in the same file, and so gives way to the same.
        have name : z.symbol.name = y.symbol.name := name
        have path : z.filePath = y.filePath := filePath_of_label name label
        rw [name, path, first_eq] at same
        exact .inl (Option.some.inj same ▸ holds)
      · exact .inr ⟨hit, near, eq ▸ holds⟩
  · rintro (holds | ⟨hit, near, holds⟩)
    · exact ⟨first, List.mem_of_find?_eq_some first_eq, holds⟩
    · exact ⟨_, ofHit_mem_mergeChunks short near, holds⟩

/-- A symbol with nothing but a name and a file. -/
def symbolIn (name path : String) : StoredSymbol :=
  { (default : StoredSymbol) with
    filePath := path
    symbol := { (default : CodeSymbol) with name := name } }

/-- A function is a hit by similarity, and was also found by words beside another one. -/
def hitTwice : Context where
  vectorHits := [hitOf .function "login" (.object [("file_path", .string "a.js")])]
  symbols := [symbolIn "login" "a.js", symbolIn "logout" "a.js"]

theorem mergeChunks_symbol_iff_hitTwice :
    symbolIn "login" "a.js" ∈ hitTwice.symbols ∧ symbolIn "logout" "a.js" ∈ hitTwice.symbols ∧
    (mergeChunks hitTwice).length < maxChunks ∧
    (∃ c ∈ mergeChunks hitTwice, c.IsOfFunction hitTwice.vectorHits "login" "a.js") ∧
    ∃ c ∈ mergeChunks hitTwice, c.IsOfFunction hitTwice.vectorHits "logout" "a.js" := by
  have short : (mergeChunks hitTwice).length < maxChunks := by decide +kernel
  have login : symbolIn "login" "a.js" ∈ hitTwice.symbols := List.mem_cons_self
  have logout : symbolIn "logout" "a.js" ∈ hitTwice.symbols := by simp [hitTwice]
  refine ⟨login, logout, short, ?_, ?_⟩
  · obtain ⟨_, -, -, iff⟩ := mergeChunks_symbol_iff login short
    exact iff.2 (.inr ⟨_, List.mem_cons_self, rfl, rfl, .inr ⟨_, List.mem_cons_self, rfl, rfl⟩⟩)
  · obtain ⟨first, -, found, iff⟩ := mergeChunks_symbol_iff logout short
    have own : (mergeChunks hitTwice).find? (Chunk.isLike "logout" "a.js") =
        some (.ofSymbol (symbolIn "logout" "a.js")) := by decide +kernel
    cases own.symm.trans found
    exact iff.2 (.inl ⟨rfl, rfl, .inl rfl⟩)

/-- Two functions in two files have one name. -/
def namesakes : Context where
  symbols := [symbolIn "login" "a.js", symbolIn "login" "b.js"]

theorem namesake_missed :
    symbolIn "login" "b.js" ∈ namesakes.symbols ∧ (mergeChunks namesakes).length < maxChunks ∧
    mergeChunks namesakes = [.ofSymbol (symbolIn "login" "a.js")] ∧
    ¬ ∃ c ∈ mergeChunks namesakes, c.IsOfFunction namesakes.vectorHits "login" "b.js" := by
  have one : mergeChunks namesakes = [.ofSymbol (symbolIn "login" "a.js")] := by decide +kernel
  refine ⟨by simp [namesakes], by decide +kernel, one, ?_⟩
  rw [one]
  rintro ⟨c, mem, -, -, label | ⟨hit, near, -⟩⟩
  · rw [List.mem_singleton.1 mem] at label
    exact absurd (functionLabel_inj.1 label) (by decide)
  · cases near

end CodeAtlas.Retrieval
