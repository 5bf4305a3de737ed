import CodeAtlas.Proofs.ImportGrammar
import CodeAtlas.Proofs.Juxtaposition

/-! # Import statements on one line

What is recorded for an import statement that stands on a line of its own. The statement is cut at
commas and at the words between its parts as if it were made of single spaces and nothing else, and
a comment behind it is cut with it. -/
namespace CodeAtlas.Outline.Indented

variable {w : List Char} (item : Item)

/-! ## Names that are recorded -/

/-- The names of what is read are those of what is imported, in order and each once. -/
def AreSameNames (read imported : List (List Char)) : Prop :=
  ((read.map String.ofList).filter (· ≠ "")).eraseDups = (imported.map String.ofList).eraseDups

section Names

variable {read imported extras : List (List Char)} {name : List Char}

lemma ofList_ne_empty : String.ofList name ≠ "" ↔ name ≠ [] := by
  rw [ne_eq, ne_eq, ← String.toList_inj, String.toList_ofList]
  rfl

lemma mem_of_areSameNames (same : AreSameNames read imported) (mem : name ∈ read)
    (some : name ≠ []) : name ∈ imported := by
  have there : String.ofList name ∈ ((read.map String.ofList).filter (· ≠ "")).eraseDups :=
    List.mem_eraseDups.2 (List.mem_filter.2
      ⟨List.mem_map_of_mem mem, by simpa using ofList_ne_empty.2 some⟩)
  rw [same, List.mem_eraseDups, List.mem_map] at there
  obtain ⟨other, mem, equal⟩ := there
  exact String.ofList_injective equal ▸ mem

lemma areSameNames_append (nonempty : ∀ m ∈ imported, m ≠ [])
    (known : ∀ e ∈ extras, e = [] ∨ e ∈ imported) : AreSameNames (imported ++ extras) imported := by
  have whole : (imported.map String.ofList).filter (· ≠ "") = imported.map String.ofList := by
    rw [List.filter_eq_self]
    intro name mem
    obtain ⟨m, there, rfl⟩ := List.mem_map.1 mem
    simpa using ofList_ne_empty.2 (nonempty m there)
  have nothing : ((extras.map String.ofList).filter (· ≠ "")).removeAll
      (imported.map String.ofList) = [] := by
    rw [List.removeAll, List.filter_eq_nil_iff]
    intro name mem
    obtain ⟨mem, some⟩ := List.mem_filter.1 mem
    obtain ⟨e, there, rfl⟩ := List.mem_map.1 mem
    rcases known e there with rfl | known
    · simp at some
    · simpa using ⟨e, known, rfl⟩
  rw [AreSameNames, List.map_append, List.filter_append, whole, List.eraseDups_append, nothing]
  exact List.append_nil _

lemma areSameNames_self (nonempty : ∀ m ∈ imported, m ≠ []) : AreSameNames imported imported := by
  have nothing : ∀ e ∈ ([] : List (List Char)), e = [] ∨ e ∈ imported := by simp
  simpa using areSameNames_append nonempty nothing

lemma not_areSameNames (nonempty : ∀ m ∈ imported, m ≠ []) (some : imported ≠ [])
    (nothing : ∀ m ∈ read, m = []) : ¬ AreSameNames read imported := by
  obtain ⟨m, rest, rfl⟩ := List.exists_cons_of_ne_nil some
  have gone : (read.map String.ofList).filter (· ≠ "") = [] := by
    rw [List.filter_eq_nil_iff]
    intro name mem
    obtain ⟨e, there, rfl⟩ := List.mem_map.1 mem
    simp [nothing e there]
  intro same
  rw [AreSameNames, gone, List.map_cons, List.eraseDups_cons] at same
  cases same

end Names

/-! ## Statements -/

lemma importedModules_import (rest : List Char) :
    importedModules ("import ".toList ++ rest) = (Text.cut ',' rest).map moduleOf := by
  have found : Text.afterStart? "import ".toList ("import ".toList ++ rest) = some rest :=
    Text.afterStart?_eq_some.2 rfl
  rw [importedModules, found]
  rfl

/-- The second keyword, as it is looked for. -/
def importWord : List Char := [' ', 'i', 'm', 'p', 'o', 'r', 't']

/-- What is read of the text behind `from `. -/
def sourceOf (text : List Char) : List (List Char) :=
  match Text.splitFirst? importWord text with
  | some (module, _) => [Text.trim module]
  | none => []

lemma importedModules_from (rest : List Char) :
    importedModules ("from ".toList ++ rest) = sourceOf rest := by
  have other : Text.afterStart? "import ".toList ("from ".toList ++ rest) = none := rfl
  have found : Text.afterStart? "from ".toList ("from ".toList ++ rest) = some rest :=
    Text.afterStart?_eq_some.2 rfl
  rw [importedModules, other, found]
  rfl

/-- A statement whose first word has no space behind it is not recognized. -/
lemma importedModules_eq_nil {word rest : List Char}
    (isWord : word ∈ ["import".toList, "from".toList])
    (tight : rest.head? ≠ some ' ') : importedModules (word ++ rest) = [] := by
  have none {other : List Char} (mem : other ∈ ["import".toList, "from".toList]) :
      Text.afterStart? (other ++ [' ']) (word ++ rest) = none := by
    rw [← Option.not_isSome_iff_eq_none, Text.isSome_afterStart?]
    rintro ⟨more, text⟩
    simp only [List.mem_cons, List.not_mem_nil, or_false] at isWord mem
    rcases isWord with rfl | rfl <;> rcases mem with rfl | rfl
    · rw [List.append_assoc] at text
      exact tight (by rw [← List.append_cancel_left text]; rfl)
    · simp at text
    · simp at text
    · rw [List.append_assoc] at text
      exact tight (by rw [← List.append_cancel_left text]; rfl)
  have import? : Text.afterStart? "import ".toList (word ++ rest) = Option.none :=
    none List.mem_cons_self
  have from? : Text.afterStart? "from ".toList (word ++ rest) = Option.none :=
    none (List.mem_cons_of_mem _ List.mem_cons_self)
  rw [importedModules, import?, from?]

/-! ## Imports of modules -/

lemma Item.comma_not_mem : ',' ∉ item.text := by
  have solid {cs : List Char} (h : ∀ c ∈ cs, IsSolid c) : ',' ∉ cs := fun mem => (h ',' mem).2.1 rfl
  have blank {cs : List Char} (h : AreBlank cs) : ',' ∉ cs := fun mem =>
    absurd (h ',' mem) (by decide)
  unfold Item.text
  simp only [List.mem_append, not_or]
  refine ⟨blank item.isBefore, solid item.isModule.isSolid, ?_, blank item.isBehind⟩
  cases item.rename? with
  | none => exact List.not_mem_nil
  | some r =>
    simp only [Option.elim_some, Rename.text, List.mem_append, not_or]
    exact ⟨blank r.isBefore.1, by decide, blank r.isBehind.1, solid r.isName.isSolid⟩

/-- The pieces are the items, and what follows the last one is cut with it. -/
lemma cut_items {init : List Item} {last : Item} {piece : List Char} {more : List (List Char)}
    (pieces : Text.cut ',' w = piece :: more) :
    Text.cut ',' (Text.join [','] ((init ++ [last]).map Item.text) ++ w) =
      init.map Item.text ++ (last.text ++ piece) :: more := by
  induction init with
  | nil => exact Text.cut_append_of_not_mem last.comma_not_mem pieces
  | cons item init ih =>
    have some : (init ++ [last]).map Item.text ≠ [] := by simp
    rw [List.cons_append, List.map_cons, join_cons some, List.append_assoc, List.append_assoc,
      List.singleton_append, Text.cut_append_cons, Text.cut_of_not_mem item.comma_not_mem, ih]
    rfl

/-- What is read from an item that is written with spaces. -/
lemma Item.moduleOf_of_spaced (spaced : ∀ r ∈ item.rename?, r.IsSpaced) :
    moduleOf item.text = item.module := by
  cases renamed : item.rename? with
  | none => exact item.moduleOf_text renamed
  | some r =>
    rw [← List.append_nil item.text]
    exact item.moduleOf_spaced renamed (spaced r renamed) []

section Items

variable {init : List Item} {last : Item}

/-- The modules of the items. -/
def modulesOf (init : List Item) (last : Item) : List (List Char) :=
  (init ++ [last]).map Item.module

/-- What is read of the items, with something behind the last one. -/
def readOf (init : List Item) (last : Item) (w : List Char) : List (List Char) :=
  (Text.cut ',' (Text.join [','] ((init ++ [last]).map Item.text) ++ w)).map moduleOf

lemma isDotted_of_mem {name : List Char} (mem : name ∈ modulesOf init last) : IsDotted name := by
  obtain ⟨item, -, rfl⟩ := List.mem_map.1 mem
  exact item.isModule

lemma ne_nil_of_mem_modulesOf : ∀ m ∈ modulesOf init last, m ≠ [] :=
  fun _ mem => (isDotted_of_mem mem).ne_nil

/-- What is read with a blank or a comment inside is no module. -/
lemma isSolid_of_areSameNames (same : AreSameNames (readOf init last w) (modulesOf init last))
    {name : List Char} (mem : name ∈ readOf init last w) : ∀ c ∈ name, IsSolid c :=
  fun c inside => (isDotted_of_mem
    (mem_of_areSameNames same mem (List.ne_nil_of_mem inside))).isSolid c inside

lemma readOf_eq {piece : List Char} {more : List (List Char)}
    (pieces : Text.cut ',' w = piece :: more) :
    readOf init last w = init.map (fun item => moduleOf item.text) ++
      moduleOf (last.text ++ piece) :: more.map moduleOf := by
  rw [readOf, cut_items pieces, List.map_append, List.map_map, List.map_cons]
  rfl

/-- Where the modules are read, every renaming is written with spaces. -/
lemma isSpaced_of_areSameNames (same : AreSameNames (readOf init last w) (modulesOf init last)) :
    ∀ item ∈ init ++ [last], ∀ r ∈ item.rename?, r.IsSpaced := by
  obtain ⟨piece, more, pieces⟩ := List.exists_cons_of_ne_nil (Text.cut_ne_nil ',' w)
  intro item mem r renamed
  by_contra tight
  have read : ∃ w', moduleOf (item.text ++ w') ∈ readOf init last w := by
    rw [readOf_eq pieces]
    rcases List.mem_append.1 mem with mem | mem
    · refine ⟨[], List.mem_append_left _ ?_⟩
      rw [List.append_nil]
      exact List.mem_map_of_mem mem
    · obtain rfl := List.mem_singleton.1 mem
      exact ⟨piece, by simp⟩
  obtain ⟨w', read⟩ := read
  obtain ⟨c, inside, blank⟩ := item.blank_mem_moduleOf renamed tight w'
  rw [(isSolid_of_areSameNames same read c inside).1] at blank
  cases blank

variable (spaced : ∀ item ∈ init ++ [last], ∀ r ∈ item.rename?, r.IsSpaced)
include spaced

lemma map_moduleOf_text : init.map (fun item => moduleOf item.text) = init.map Item.module :=
  List.map_congr_left fun item mem =>
    item.moduleOf_of_spaced (spaced item (List.mem_append_left _ mem))

lemma areSameNames_items : AreSameNames (readOf init last []) (modulesOf init last) := by
  have read : readOf init last [] = modulesOf init last := by
    rw [readOf_eq rfl, map_moduleOf_text spaced, List.append_nil,
      last.moduleOf_of_spaced (spaced last (by simp)), modulesOf, List.map_append]
    rfl
  rw [read]
  exact areSameNames_self ne_nil_of_mem_modulesOf

/-- With a comment the modules are read just where the last item is renamed and nothing else is read
from the comment. -/
lemma areSameNames_comment_iff (comment : List Char) :
    AreSameNames (readOf init last ('#' :: comment)) (modulesOf init last) ↔
      last.rename?.isSome = true ∧ ∀ piece ∈ (Text.cut ',' comment).tail,
        moduleOf piece = [] ∨ moduleOf piece ∈ modulesOf init last := by
  obtain ⟨piece, more, cut, joined⟩ := Text.cut_cons_of_ne (by decide : '#' ≠ ',') comment
  have read : readOf init last ('#' :: comment) = _ := readOf_eq joined
  rw [cut, List.tail_cons]
  cases renamed : last.rename? with
  | none =>
    refine iff_of_false (fun same => ?_) fun h => by cases h.1
    have inside := last.mem_moduleOf_comment renamed piece
    have there : moduleOf (last.text ++ '#' :: piece) ∈ readOf init last ('#' :: comment) := by
      rw [read]
      simp
    exact (isSolid_of_areSameNames same there _ inside).2.2 rfl
  | some r =>
    have whole : readOf init last ('#' :: comment) = modulesOf init last ++ more.map moduleOf := by
      rw [read, map_moduleOf_text spaced,
        last.moduleOf_spaced renamed (spaced last (by simp) r renamed), List.append_cons,
        modulesOf, List.map_append]
      rfl
    rw [whole, Option.isSome_some, and_iff_right rfl]
    constructor
    · intro same part mem
      by_cases nothing : moduleOf part = []
      · exact .inl nothing
      · have there : moduleOf part ∈ more.map moduleOf := List.mem_map_of_mem mem
        exact .inr (mem_of_areSameNames same (List.mem_append_right _ there) nothing)
    · intro known
      refine areSameNames_append ne_nil_of_mem_modulesOf fun e mem => ?_
      obtain ⟨part, there, rfl⟩ := List.mem_map.1 mem
      exact known part there

end Items

/-- An item without the first of the blanks before it. -/
def Item.tail (item : Item) : Item :=
  { item with
    before := item.before.tail
    isBefore := fun c mem => item.isBefore c (List.mem_of_mem_tail mem) }

lemma join_text_eq {first : Item} {b : Char} {rest : List Char} (before : first.before = b :: rest)
    (others : List Item) : Text.join [','] ((first :: others).map Item.text) =
      b :: Text.join [','] ((first.tail :: others).map Item.text) := by
  have text : first.text = b :: first.tail.text := by
    simp only [Item.text, Item.tail, before, List.tail_cons, List.cons_append]
  cases others with
  | nil => exact text
  | cons next others =>
    have some : (next :: others).map Item.text ≠ [] := List.cons_ne_nil _ _
    change Text.join [','] (first.text :: (next :: others).map Item.text) =
      b :: Text.join [','] (first.tail.text :: (next :: others).map Item.text)
    rw [join_cons some, join_cons some, text]
    rfl

/-- How an import of modules is read as it is written: with a space before the first module, with
spaces around each `as`, and where a comment stands behind, with the last module renamed and nothing
else to read in the comment. -/
def IsPlainImport (first : Item) (others : List Item) (comment? : Option (List Char)) : Prop :=
  first.before.head? = some ' ' ∧
    (∀ item ∈ first :: others, ∀ r ∈ item.rename?, r.IsSpaced) ∧
    ∀ comment ∈ comment?, (others.getLastD first).rename?.isSome = true ∧
      ∀ piece ∈ (Text.cut ',' comment).tail,
        moduleOf piece = [] ∨ moduleOf piece ∈ (first :: others).map Item.module

lemma areSameNames_modules_iff (first : Item) (others : List Item) (isSpaced : first.before ≠ [])
    (comment? : Option (List Char)) :
    AreSameNames
        (importedModules ((Statement.modules first others isSpaced).text ++
          comment?.elim [] ('#' :: ·)))
        ((first :: others).map Item.module) ↔
      IsPlainImport first others comment? := by
  obtain ⟨b, rest, before⟩ := List.exists_cons_of_ne_nil isSpaced
  obtain ⟨init, last, items⟩ :=
    (List.eq_nil_or_concat (first.tail :: others)).resolve_left (List.cons_ne_nil _ _)
  rw [List.concat_eq_append] at items
  have imported : (first :: others).map Item.module = modulesOf init last := by
    rw [modulesOf, ← items]
    rfl
  have renamings : (∀ item ∈ first :: others, ∀ r ∈ item.rename?, r.IsSpaced) ↔
      ∀ item ∈ init ++ [last], ∀ r ∈ item.rename?, r.IsSpaced := by
    rw [← items, List.forall_mem_cons, List.forall_mem_cons]
    rfl
  have isLast : (others.getLastD first).rename? = last.rename? := by
    have ending := congrArg List.getLast? items
    cases others with
    | nil =>
      obtain rfl : first.tail = last := by simpa using ending
      rfl
    | cons next others =>
      have ending : (next :: others).getLast? = some last := by simpa using ending
      rw [List.getLastD_eq_getLast?, ending, Option.getD_some]
  have text : (Statement.modules first others isSpaced).text = "import".toList ++ b ::
      Text.join [','] ((init ++ [last]).map Item.text) := by
    rw [← items, ← join_text_eq before]
    rfl
  rw [text, IsPlainImport, before, imported, renamings, isLast]
  by_cases space : b = ' '
  · subst space
    have read : importedModules ("import".toList ++ ' ' ::
        Text.join [','] ((init ++ [last]).map Item.text) ++ comment?.elim [] ('#' :: ·)) =
          readOf init last (comment?.elim [] ('#' :: ·)) := importedModules_import _
    rw [read, List.head?_cons, and_iff_right rfl]
    constructor
    · intro same
      have spaced := isSpaced_of_areSameNames same
      refine ⟨spaced, ?_⟩
      rintro comment rfl
      exact (areSameNames_comment_iff spaced comment).1 same
    · rintro ⟨spaced, known⟩
      cases comment? with
      | none => exact areSameNames_items spaced
      | some comment => exact (areSameNames_comment_iff spaced comment).2 (known comment rfl)
  · have nothing (rest : List Char) : importedModules ("import".toList ++ b :: rest) = [] :=
      importedModules_eq_nil (by simp) fun head => space (Option.some.inj head)
    rw [List.append_assoc, List.cons_append, nothing]
    refine iff_of_false (not_areSameNames ne_nil_of_mem_modulesOf ?_ fun _ mem => by cases mem) ?_
    · simp [modulesOf]
    · exact fun plain => space (Option.some.inj plain.1)

/-! ## Imports of names -/

/-- The keyword does not reach over a blank. -/
lemma prefix_of_prefix_append {module : List Char} (next : ∀ c ∈ w.head?, Text.isBlank c = true)
    (h : "import".toList <+: module ++ w) : "import".toList <+: module := by
  rcases List.prefix_or_prefix_of_prefix h (List.prefix_append module w) with
    inside | ⟨rest, word⟩
  · exact inside
  · cases rest with
    | nil => exact ⟨[], by rw [List.append_nil, ← word, List.append_nil]⟩
    | cons c rest =>
      obtain ⟨more, text⟩ := h
      rw [← word, List.append_assoc, List.append_cancel_left_eq] at text
      have blank := next c (by rw [← text]; rfl)
      have solid : "import".toList.all (!Text.isBlank ·) = true := by decide
      have : (!Text.isBlank c) = true :=
        List.all_eq_true.1 solid c
          (by rw [← word]; exact List.mem_append_right _ List.mem_cons_self)
      rw [blank] at this
      cases this

/-- How an import of names is read as it is written: with a space behind `from` and one before
`import`, and with no other place where a space and `import` stand together first. -/
def IsPlainFrom (before module behind : List Char) : Prop :=
  before.head? = some ' ' ∧ behind.getLast? = some ' ' ∧
    ¬ (before.tail.getLast? = some ' ' ∧ "import".toList <+: module)

section From

variable {gap module behind : List Char} (isGap : AreBlank gap) (isModule : IsRelative module)
  (isBehind : AreBlank behind) (rest : List Char)
include isGap isModule isBehind

omit isModule isBehind in
/-- A module whose name begins with the keyword is passed over where a space stands before it. -/
lemma sourceOf_early {text : List Char} (last : gap.getLast? = some ' ')
    (start : "import".toList <+: text) : sourceOf (gap ++ text) = [[]] := by
  obtain ⟨front, rfl⟩ := List.getLast?_eq_some_iff.1 last
  obtain ⟨more, rfl⟩ := start
  have blank : AreBlank front := fun c mem => isGap c (List.mem_append_left _ mem)
  have skips : Text.Skips importWord front (importWord ++ more) := by
    refine Text.Skips.of_blanks blank (by decide) ?_
    rintro - start
    obtain ⟨impossible, -⟩ := List.cons_prefix_cons.1 start
    cases impossible
  have text : front ++ [' '] ++ ("import".toList ++ more) = front ++ (importWord ++ more) := by
    rw [List.append_assoc]
    rfl
  have none : ∀ c ∈ ([] : List Char), Text.isBlank c = false ∧ Text.isBlank c = true := by simp
  have nothing := Text.trim_word blank (fun c mem => (none c mem).1) fun c mem => (none c mem).2
  rw [sourceOf, text, Text.splitFirst?_append skips, Text.splitFirst?_self]
  dsimp only [Option.map_some]
  exact congrArg ([·]) nothing

/-- The words and blanks of the statement up to the second keyword, apart from the last blank. -/
lemma skips_source {v : List Char}
    (early : gap.getLast? = some ' ' → ¬ "import".toList <+: module ++ (behind ++ v))
    (late : behind.getLast? = some ' ' → ¬ "import".toList <+: v) :
    Text.Skips importWord (gap ++ (module ++ behind)) v := by
  refine Text.Skips.append (Text.Skips.of_blanks isGap (by decide) ?_)
    (Text.Skips.append (Text.Skips.of_not_mem fun mem => ?_)
      (Text.Skips.of_blanks isBehind (by decide) late))
  · rw [List.append_assoc]
    exact early
  · have := (isModule.isSolid _ mem).1
    revert this
    decide

lemma sourceOf_spaced (last : behind.getLast? = some ' ')
    (early : gap.getLast? = some ' ' → ¬ "import".toList <+: module) :
    sourceOf (gap ++ (module ++ (behind ++ ("import".toList ++ rest)))) = [module] := by
  obtain ⟨front, rfl⟩ := List.getLast?_eq_some_iff.1 last
  have blank : AreBlank front := fun c mem => isBehind c (List.mem_append_left _ mem)
  have text : gap ++ (module ++ (front ++ [' '] ++ ("import".toList ++ rest))) =
      gap ++ (module ++ front) ++ (importWord ++ rest) := by
    simp only [List.append_assoc]
    rfl
  have next : ∀ c ∈ (front ++ (importWord ++ rest)).head?, Text.isBlank c = true := by
    cases front with
    | nil =>
      rintro c ⟨⟩
      decide
    | cons b front =>
      rintro c ⟨⟩
      exact blank b List.mem_cons_self
  have skips : Text.Skips importWord (gap ++ (module ++ front)) (importWord ++ rest) := by
    refine skips_source isGap isModule blank (fun last start => early last ?_) ?_
    · exact prefix_of_prefix_append next start
    · rintro - start
      obtain ⟨impossible, -⟩ := List.cons_prefix_cons.1 start
      cases impossible
  rw [sourceOf, text, Text.splitFirst?_append skips, Text.splitFirst?_self]
  dsimp only [Option.map_some]
  rw [List.append_nil, Text.trim_word isGap (fun c mem => (isModule.isSolid c mem).1) blank]

/-- Without a space before the second keyword, what is read reaches into it. -/
lemma sourceOf_tight (tight : behind.getLast? ≠ some ' ')
    (early : gap.getLast? = some ' ' →
      ¬ "import".toList <+: module ++ (behind ++ ("import".toList ++ rest)))
    {name : List Char}
    (mem : name ∈ sourceOf (gap ++ (module ++ (behind ++ ("import".toList ++ rest))))) :
    name ≠ [] ∧ name ≠ module := by
  -- The first letter of the keyword cannot begin what is looked for, so the cut is behind it.
  let tail := "mport".toList ++ rest
  have text : gap ++ (module ++ (behind ++ ("import".toList ++ rest))) =
      gap ++ (module ++ behind) ++ ['i'] ++ tail := by
    simp only [List.append_assoc]
    rfl
  have letter : Text.Skips importWord ['i'] tail := Text.Skips.of_not_mem (by decide)
  have words : Text.Skips importWord (gap ++ (module ++ behind)) (['i'] ++ tail) :=
    skips_source isGap isModule isBehind early fun last => absurd last tight
  have skips : Text.Skips importWord (gap ++ (module ++ behind) ++ ['i']) tail :=
    words.append letter
  rw [sourceOf, text, Text.splitFirst?_append skips] at mem
  cases found : Text.splitFirst? importWord tail with
  | none =>
    rw [found] at mem
    cases mem
  | some parts =>
    rw [found] at mem
    obtain rfl := List.mem_singleton.1 mem
    have solid : module.filter (!Text.isBlank ·) = module :=
      List.filter_eq_self.2 fun c mem => by simp [(isModule.isSolid c mem).1]
    let reached := gap ++ (module ++ behind) ++ ['i'] ++ parts.1
    have long : module.length < ((Text.trim reached).filter (!Text.isBlank ·)).length := by
      rw [Text.filter_trim]
      simp only [reached, List.filter_append, solid, List.length_append]
      have : (['i'].filter (!Text.isBlank ·)).length = 1 := by decide
      omega
    refine ⟨fun (nothing : Text.trim reached = []) => ?_,
      fun (same : Text.trim reached = module) => ?_⟩
    · rw [nothing] at long
      exact absurd long (Nat.not_lt_zero _)
    · rw [same, solid] at long
      exact absurd long (Nat.lt_irrefl _)

end From

lemma areSameNames_names_iff {before module behind : List Char} (rest : List Char)
    (isModule : IsRelative module)
    (isBefore : AreBlank before ∧ (before ≠ [] ∨ module.head? = some '.'))
    (isBehind : AreBlank behind ∧ (behind ≠ [] ∨ module.getLast? = some '.')) :
    AreSameNames (importedModules ("from".toList ++
        (before ++ (module ++ (behind ++ ("import".toList ++ rest)))))) [module] ↔
      IsPlainFrom before module behind := by
  have nonempty : ∀ m ∈ [module], m ≠ [] := fun m mem => List.mem_singleton.1 mem ▸ isModule.ne_nil
  have unread {read : List (List Char)} (nothing : ∀ m ∈ read, m = []) :
      ¬ AreSameNames read [module] := not_areSameNames nonempty (List.cons_ne_nil _ _) nothing
  by_cases space : before.head? = some ' '
  · obtain ⟨gap, rfl⟩ := List.head?_eq_some_iff.1 space
    have isGap : AreBlank gap := fun c mem => isBefore.1 c (List.mem_cons_of_mem _ mem)
    have source (text : List Char) :
        importedModules ("from".toList ++ (' ' :: gap ++ text)) = sourceOf (gap ++ text) :=
      importedModules_from _
    rw [source, IsPlainFrom, List.tail_cons, and_iff_right space]
    by_cases early : gap.getLast? = some ' ' ∧
        "import".toList <+: module ++ (behind ++ ("import".toList ++ rest))
    · rw [sourceOf_early isGap early.1 early.2]
      refine iff_of_false (unread fun m mem => List.mem_singleton.1 mem) fun plain => ?_
      obtain ⟨front, ending⟩ := List.getLast?_eq_some_iff.1 plain.1
      have next : ∀ c ∈ (behind ++ ("import".toList ++ rest)).head?, Text.isBlank c = true := by
        have some : behind ≠ [] := by simp [ending]
        obtain ⟨b, blanks, rfl⟩ := List.exists_cons_of_ne_nil some
        rintro c ⟨⟩
        exact isBehind.1 b List.mem_cons_self
      exact plain.2 ⟨early.1, prefix_of_prefix_append next early.2⟩
    · rw [not_and] at early
      by_cases last : behind.getLast? = some ' '
      · have start : gap.getLast? = some ' ' → ¬ "import".toList <+: module :=
          fun before start => early before (start.trans (List.prefix_append _ _))
        rw [sourceOf_spaced isGap isModule isBehind.1 rest last start]
        exact iff_of_true (areSameNames_self nonempty) ⟨last, fun h => start h.1 h.2⟩
      · refine iff_of_false ?_ fun plain => last plain.1
        have read := @sourceOf_tight gap module behind isGap isModule isBehind.1 rest last early
        by_cases nothing : sourceOf (gap ++ (module ++ (behind ++ ("import".toList ++ rest)))) = []
        · exact unread fun m mem => by rw [nothing] at mem; cases mem
        · obtain ⟨name, mem⟩ := List.exists_mem_of_ne_nil _ nothing
          intro same
          exact (read mem).2 (List.mem_singleton.1 (mem_of_areSameNames same mem (read mem).1))
  · have tight :
        (before ++ (module ++ (behind ++ ("import".toList ++ rest)))).head? ≠ some ' ' := by
      cases before with
      | cons b before => exact space
      | nil =>
        have dot := isBefore.2.resolve_left (absurd rfl)
        rw [List.nil_append, List.head?_append, dot, Option.some_or]
        decide
    rw [importedModules_eq_nil (by simp) tight]
    exact iff_of_false (unread fun m mem => by cases mem) fun plain => space plain.1

/-! ## The imports of a source -/

/-- The names that a line adds to the imports. -/
def namesOn (line : List Char) : List String :=
  (importedModules (Text.trimStart line)).map String.ofList

section Sources

variable {scan : Scan} {all : List (List Char)}

lemma imports_close (slot : Option Open) : (scan.close all slot).imports = scan.imports := by
  cases slot <;> rfl

lemma imports_closeFunction : (scan.closeFunction all).imports = scan.imports := imports_close _

lemma imports_settle : (scan.settle all).imports = scan.imports :=
  (imports_close _).trans (imports_close _)

lemma imports_clear (indent : Nat) : (scan.clear all indent).imports = scan.imports := by
  unfold Scan.clear
  split_ifs
  · exact imports_settle
  · exact imports_closeFunction

lemma imports_plain (indent : Nat) : (scan.plain all indent).imports = scan.imports := by
  unfold Scan.plain
  split
  · exact imports_settle
  · split
    · split_ifs
      · exact imports_closeFunction
      · rfl
    · rfl

lemma imports_content (number : Nat) (line : List Char) :
    (scan.content all number line).imports = scan.imports := by
  unfold Scan.content
  split
  · rw [beginFunction_eq]
    exact imports_clear _
  · rw [beginClass_eq]
    exact imports_settle
  · exact imports_plain _

lemma imports_line (number : Nat) (line : List Char) :
    (scan.line all number line).imports = addNames scan.imports (namesOn line) := by
  rw [line_eq]
  split_ifs with blank
  · rw [← isEmpty_trimStart, List.isEmpty_iff] at blank
    rw [namesOn, blank]
    rfl
  · exact imports_content number line

lemma imports_lines (number : Nat) (rest : List (List Char)) :
    (Scan.lines all number rest scan).imports = addNames scan.imports (rest.flatMap namesOn) := by
  induction rest generalizing number scan with
  | nil => rfl
  | cons line rest ih =>
    rw [Scan.lines, ih, imports_line, List.flatMap_cons, addNames_append]

lemma imports_outline (source : List Char) :
    (outline source).imports = addNames [] ((Text.lines source).flatMap namesOn) :=
  imports_settle.trans (imports_lines 1 (Text.lines source))

/-- What a source imports is what its parts import, each name where it comes first. -/
lemma imports_append (front back : List Char) :
    (outline (front ++ '\n' :: back)).imports =
      addNames (outline front).imports (outline back).imports := by
  rw [imports_outline, imports_outline, imports_outline, Text.lines, Text.cut_append_cons,
    List.flatMap_append, addNames_append, addNames_addNames]
  rfl

end Sources

namespace ImportLine

variable (line : ImportLine)

/-- How a statement is read as it is written. -/
def IsPlain : Prop :=
  match line.statement with
  | .modules first others _ => IsPlainImport first others line.comment?
  | .names before module behind _ _ _ _ => IsPlainFrom before module behind

lemma trimStart_text :
    Text.trimStart line.text = line.statement.text ++ line.comment?.elim [] ('#' :: ·) := by
  rw [text, Text.trimStart_append line.isIndent]
  rcases line.statement with ⟨first, others, isSpaced⟩ | ⟨before, module, behind, rest, _, _, _⟩
  · exact List.dropWhile_cons_of_neg (by decide)
  · exact List.dropWhile_cons_of_neg (by decide)

lemma areSameNames_iff :
    AreSameNames (importedModules (Text.trimStart line.text)) line.statement.imported ↔
      line.IsPlain := by
  rw [trimStart_text, IsPlain]
  rcases line.statement with ⟨first, others, isSpaced⟩ |
    ⟨before, module, behind, rest, isModule, isBefore, isBehind⟩
  · exact areSameNames_modules_iff first others isSpaced line.comment?
  · have text : (Statement.names before module behind rest isModule isBefore isBehind).text =
        "from".toList ++ (before ++ (module ++ (behind ++ ("import".toList ++ rest)))) := rfl
    rw [text]
    simp only [List.append_assoc]
    exact areSameNames_names_iff _ isModule isBefore isBehind

/-- For a statement on a line of its own the modules it imports are recorded, in order and each
once, just where it is written plainly. In a source each name is added where it comes first. -/
theorem imports_eq_iff (whole : '\n' ∉ line.text) :
    ((outline line.text).imports = (line.statement.imported.map String.ofList).eraseDups ↔
      line.IsPlain) ∧
      ∀ front back, (outline (front ++ '\n' :: (line.text ++ '\n' :: back))).imports =
        addNames (addNames (outline front).imports (outline line.text).imports)
          (outline back).imports := by
  constructor
  · rw [← areSameNames_iff, imports_outline, Text.lines, Text.cut_of_not_mem whole,
      List.flatMap_singleton, addNames_nil]
    rfl
  · intro front back
    rw [imports_append, imports_append, addNames_addNames]

/-- Of two modules the last one is renamed, and named again in the comment. -/
def renamed : ImportLine where
  indent := [' ', ' ']
  statement := .modules
    { before := [' ']
      module := "os".toList
      rename? := none
      behind := []
      isBefore := by decide
      isModule := ⟨["os".toList], by decide, by decide, rfl⟩
      isBehind := by decide }
    [{ before := [' ']
       module := "os.path".toList
       rename? := some ⟨[' ', ' '], [' '], "as_path".toList, by decide, by decide, by decide⟩
       behind := [' ']
       isBefore := by decide
       isModule := ⟨["os".toList, "path".toList], by decide, by decide, rfl⟩
       isBehind := by decide }]
    (by decide)
  comment? := some " paths, os".toList
  isIndent := by decide

theorem renamed_imports :
    renamed.text = "  import os, os.path  as as_path # paths, os".toList ∧ '\n' ∉ renamed.text ∧
      renamed.IsPlain ∧ (outline renamed.text).imports = ["os", "os.path"] := by
  have isText : renamed.text = "  import os, os.path  as as_path # paths, os".toList := rfl
  have whole : '\n' ∉ renamed.text := by decide +kernel
  have isPlain : renamed.IsPlain := by
    refine ⟨rfl, ?_, ?_⟩ <;> decide +kernel
  exact ⟨isText, whole, isPlain, (imports_eq_iff renamed whole).1.2 isPlain⟩

/-- One module, with a comment behind. -/
def commented : ImportLine where
  indent := []
  statement := .modules
    { before := [' ']
      module := "os".toList
      rename? := none
      behind := [' ', ' ']
      isBefore := by decide
      isModule := ⟨["os".toList], by decide, by decide, rfl⟩
      isBehind := by decide }
    []
    (by decide)
  comment? := some " standard, library".toList
  isIndent := by decide

/-- The comment is recorded with the module, and what stands behind the comma in it as another. -/
theorem commented_imports :
    commented.text = "import os  # standard, library".toList ∧
      commented.statement.imported = ["os".toList] ∧
      (outline commented.text).imports = ["os  # standard", "library"] := by
  decide +kernel

end ImportLine

end CodeAtlas.Outline.Indented
