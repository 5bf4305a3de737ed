import CodeAtlas.Proofs.Places
import Mathlib

/-! # What a walk finds

A walk over a directory finds the text files below it that are taken in, each once, and in the order
of their places. A place is the names on the way down; two places are in the order of the names
where they part, and this is the order of a depth-first visit. -/
namespace CodeAtlas

namespace FileTree

variable {t c : FileTree} {place : List FileName} {name : FileName}
  {entries : List (FileName × FileTree)}

lemma at?_cons (rest : List FileName) : (directory entries).at? (name :: rest) =
    (entries.lookup name).bind fun c => c.at? rest := rfl

lemma at?_file {content : ByteArray} (h : (file content).at? place = some c) :
    place = [] ∧ c = file content := by
  cases place with
  | nil => exact ⟨rfl, (Option.some.inj h).symm⟩
  | cons name place => simp [at?, child?] at h

lemma at?_link {target : List UInt8} (h : (link target).at? place = some c) :
    place = [] ∧ c = link target := by
  cases place with
  | nil => exact ⟨rfl, (Option.some.inj h).symm⟩
  | cons name place => simp [at?, child?] at h

lemma mem_of_lookup (h : entries.lookup name = some c) : (name, c) ∈ entries := by
  obtain ⟨before, after, rfl, -⟩ := List.lookup_eq_some_iff.1 h
  simp

lemma lookup_eq_some_iff_mem (h : (entries.map Prod.fst).Nodup) :
    entries.lookup name = some c ↔ (name, c) ∈ entries := by
  refine ⟨mem_of_lookup, fun mem => ?_⟩
  induction entries with
  | nil => cases mem
  | cons e entries ih =>
    rw [List.map_cons, List.nodup_cons] at h
    rcases List.mem_cons.1 mem with rfl | mem
    · exact List.lookup_cons_self
    · have other : name ≠ e.1 := fun same => h.1 (List.mem_map.2 ⟨_, mem, same⟩)
      rw [List.lookup_cons, beq_false_of_ne other]
      exact ih h.2 mem

/-- The entries of each directory of a tree have a property. -/
def Throughout (P : List (FileName × FileTree) → Prop) (t : FileTree) : Prop :=
  ∀ place entries, t.at? place = some (directory entries) → P entries

section

variable {P : List (FileName × FileTree) → Prop}

lemma throughout_file (content : ByteArray) : (file content).Throughout P := by
  intro place entries h
  cases (at?_file h).2

lemma throughout_link (target : List UInt8) : (link target).Throughout P := by
  intro place entries h
  cases (at?_link h).2

lemma throughout_directory (here : P entries) (below : ∀ e ∈ entries, e.2.Throughout P) :
    (directory entries).Throughout P := by
  intro place inner h
  cases place with
  | nil =>
    cases h
    exact here
  | cons name place =>
    rw [at?_cons, Option.bind_eq_some_iff] at h
    obtain ⟨c, found, h⟩ := h
    exact below _ (mem_of_lookup found) place inner h

lemma Throughout.here (h : (directory entries).Throughout P) : P entries := h [] entries rfl

lemma Throughout.child (h : (directory entries).Throughout P)
    (found : entries.lookup name = some c) : c.Throughout P := by
  intro place inner there
  refine h (name :: place) inner ?_
  rw [at?_cons, found]
  exact there

end

/-- No directory of a tree has two entries of one name. -/
def IsDistinct (t : FileTree) : Prop := t.Throughout fun entries => (entries.map Prod.fst).Nodup

namespace IsDistinct

lemma names (h : (directory entries).IsDistinct) : (entries.map Prod.fst).Nodup :=
  Throughout.here h

lemma below (h : (directory entries).IsDistinct) {e : FileName × FileTree} (he : e ∈ entries) :
    e.2.IsDistinct :=
  Throughout.child h ((lookup_eq_some_iff_mem h.names).2 he)

/-- What is below a directory is below one of its entries. -/
lemma at?_eq_some_iff (h : (directory entries).IsDistinct) {rest : List FileName} :
    (directory entries).at? (name :: rest) = some t ↔
      ∃ c, (name, c) ∈ entries ∧ c.at? rest = some t := by
  rw [at?_cons, Option.bind_eq_some_iff]
  simp only [lookup_eq_some_iff_mem h.names]

end IsDistinct

/-- Names are in the order of their bytes. -/
lemma nameBefore_iff {a b : FileName} : nameBefore a b = true ↔ a < b := by
  induction a generalizing b with
  | nil => cases b <;> simp [nameBefore]
  | cons x a ih =>
    cases b with
    | nil => simp [nameBefore]
    | cons y b => simp [nameBefore, ih, List.cons_lt_cons_iff]

end FileTree

namespace Files

open FileTree

/-! ## What is taken in -/

/-- A name that is passed over: it is on the list, or it has an ignored end. -/
def IsPassedOver (name : String) : Prop :=
  name ∈ ignoredNames ∨ ∃ e ∈ ignoredEnds, ∃ front, name = front ++ e

lemma isIgnored_iff {name : String} : isIgnored name = true ↔ IsPassedOver name := by
  have ends : ∀ e : String, e.toList <:+ name.toList ↔ ∃ front, name = front ++ e := by
    intro e
    constructor
    · rintro ⟨front, h⟩
      refine ⟨String.ofList front, String.toList_inj.1 ?_⟩
      rw [String.toList_append, String.toList_ofList, h]
    · rintro ⟨front, rfl⟩
      exact ⟨front.toList, (String.toList_append ..).symm⟩
  simp [isIgnored, IsPassedOver, ends]

/-- The part of a name behind its last dot, if there is something before that dot. -/
def HasExtension (name : String) (extension : List Char) : Prop :=
  ∃ stem, stem ≠ [] ∧ name.toList = stem ++ '.' :: extension ∧ '.' ∉ extension

/-- A name with the extension of a file that holds no text, in whatever letter case. -/
def IsBinaryName (name : String) : Prop :=
  ∃ extension, HasExtension name extension ∧
    String.ofList (extension.map Char.toLower) ∈ binaryExtensions

lemma cut_of_dotless {stem extension : List Char} (h : '.' ∉ extension) :
    Text.cut '.' (stem ++ '.' :: extension) = Text.cut '.' stem ++ [extension] := by
  rw [Text.cut_append_cons, Text.cut_of_not_mem h]

lemma HasExtension.unique {name : String} {e e' : List Char} (h : HasExtension name e)
    (h' : HasExtension name e') : e = e' := by
  obtain ⟨stem, -, eq, dotless⟩ := h
  obtain ⟨stem', -, eq', dotless'⟩ := h'
  have last : (Text.cut '.' name.toList).getLast? = some e := by simp [eq, cut_of_dotless dotless]
  have last' : (Text.cut '.' name.toList).getLast? = some e' := by
    simp [eq', cut_of_dotless dotless']
  exact Option.some.inj (last.symm.trans last')

/-- What stands before the last dot decides: nothing makes no extension. -/
lemma nameExtension_eq {name : String} {stem extension : List Char} (h : '.' ∉ extension)
    (eq : name.toList = stem ++ '.' :: extension) :
    nameExtension name = if stem = [] then "" else String.ofList (extension.map Char.toLower) := by
  rw [nameExtension, eq, cut_of_dotless h, List.reverse_append, List.reverse_singleton,
    List.singleton_append]
  cases pieces : (Text.cut '.' stem).reverse with
  | nil => exact absurd (List.reverse_eq_nil_iff.1 pieces) (Text.cut_ne_nil '.' stem)
  | cons second before =>
    have joined := Text.join_cut '.' stem
    rw [List.reverse_eq_cons_iff.1 pieces] at joined
    by_cases none : stem = []
    · subst none
      cases pieces
      rfl
    · rw [if_neg none]
      refine if_neg fun alone => none ?_
      rw [Bool.and_eq_true, List.isEmpty_iff, List.isEmpty_iff] at alone
      rw [← joined, alone.1, alone.2]
      rfl

/-- A name without a dot, or with one at its beginning and no other, has no extension. -/
lemma nameExtension_cases (name : String) :
    (∃ extension, HasExtension name extension ∧
      nameExtension name = String.ofList (extension.map Char.toLower)) ∨
    (∀ extension, ¬ HasExtension name extension) ∧ nameExtension name = "" := by
  by_cases dot : '.' ∈ name.toList
  · obtain ⟨back, front, eq, dotless⟩ :=
      List.eq_append_cons_of_mem (List.mem_reverse.2 dot)
    have split : name.toList = front.reverse ++ '.' :: back.reverse := by
      rw [← List.reverse_reverse name.toList, eq]
      simp
    rw [← List.mem_reverse] at dotless
    rw [nameExtension_eq dotless split]
    by_cases none : front.reverse = []
    · rw [if_pos none]
      refine .inr ⟨?_, rfl⟩
      rintro e ⟨stem, some, eq', dotless'⟩
      rw [none] at split
      have pieces := congrArg (Text.cut '.') (split.symm.trans eq')
      rw [cut_of_dotless dotless', cut_of_dotless dotless] at pieces
      have same := List.append_inj_left' pieces rfl
      exact some (Text.cut_inj.1 same).symm
    · rw [if_neg none]
      exact .inl ⟨_, ⟨_, none, split, dotless⟩, rfl⟩
  · refine .inr ⟨?_, ?_⟩
    · rintro e ⟨stem, -, eq, -⟩
      exact dot (by simp [eq])
    · rw [nameExtension, Text.cut_of_not_mem dot]
      rfl

lemma contains_nameExtension_iff {name : String} :
    binaryExtensions.contains (nameExtension name) = true ↔ IsBinaryName name := by
  rw [List.contains_iff_mem]
  rcases nameExtension_cases name with ⟨e, has, eq⟩ | ⟨none, eq⟩
  · rw [eq]
    refine ⟨fun binary => ⟨e, has, binary⟩, ?_⟩
    rintro ⟨e', has', binary⟩
    rwa [has.unique has']
  · rw [eq]
    refine iff_of_false (by decide) ?_
    rintro ⟨e, has, -⟩
    exact none e has

/-- A text file at a place of a tree that a walk takes in: no deeper than so many names, under no
name that is passed over, not of a binary extension, and not too large. -/
structure IsSource (limits : WalkLimits) (depth : Nat) (root : FileTree) (place : List FileName)
    (text : String) : Prop where
  there : root.at? place = some (.file text.toUTF8)
  shallow : place.length ≤ depth
  allowed : ∀ name ∈ place, ¬ IsPassedOver (Text.ofBytes name)
  textual : ∀ name ∈ place.getLast?, ¬ IsBinaryName (Text.ofBytes name)
  small : text.toUTF8.size ≤ limits.maxFileBytes

/-- What a walk tests decides. -/
lemma IsSource.of_tests {limits : WalkLimits} {depth : Nat} {root : FileTree}
    {place : List FileName} {name : FileName} {text : String}
    (there : root.at? place = some (.file text.toUTF8)) (shallow : place.length ≤ depth)
    (kept : ∀ n ∈ place, isIgnored (Text.ofBytes n) = false) (last : place.getLast? = some name)
    (textual : binaryExtensions.contains (nameExtension (Text.ofBytes name)) = false)
    (small : text.toUTF8.size ≤ limits.maxFileBytes) : IsSource limits depth root place text := by
  refine ⟨there, shallow, fun n hn barred => ?_, fun n hn binary => ?_, small⟩
  · rw [← isIgnored_iff, kept n hn] at barred
    cases barred
  · cases last.symm.trans hn
    rw [← contains_nameExtension_iff, textual] at binary
    cases binary

/-! ## Languages -/

/-- The extensions of the files of a language. -/
def languageExtensions : Language → List String
  | .javaScript => ["js", "jsx", "mjs", "cjs"]
  | .typeScript => ["ts", "tsx", "mts", "cts"]
  | .python => ["py", "pyi"]
  | .java => ["java"]
  | .go => ["go"]
  | .ruby => ["rb"]
  | .php => ["php"]
  | .c => ["c", "h"]
  | .cpp => ["cpp", "cc", "cxx", "hpp", "hh"]
  | .cSharp => ["cs"]
  | .rust => ["rs"]
  | .swift => ["swift"]
  | .kotlin => ["kt", "kts"]
  | .scala => ["scala"]
  | .vue => ["vue"]
  | .html => ["html", "htm"]
  | .css => ["css"]
  | .scss => ["scss", "sass"]
  | .json => ["json"]
  | .yaml => ["yml", "yaml"]
  | .xml => ["xml"]
  | .markdown => ["md", "markdown"]
  | .sql => ["sql"]
  | .shell => ["sh", "bash", "zsh"]
  | .unknown => []

/-- The language that has an extension, if there is one. -/
def languageWith (extension : String) : Language :=
  (Language.all.find? (extension ∈ languageExtensions ·)).getD .unknown

lemma find?_pairs (extensions : List String) (l : Language) (extension : String) :
    (extensions.map (·, l)).find? (·.1 = extension) =
      if extension ∈ extensions then some (extension, l) else none := by
  induction extensions with
  | nil => rfl
  | cons e extensions ih =>
    rw [List.map_cons, List.find?_cons, ih]
    by_cases same : e = extension
    · simp [same]
    · simp [same, Ne.symm same]

/-- A table of the extensions of languages is looked through language by language. -/
lemma find?_extensions (languages : List Language) (extension : String) :
    ((languages.flatMap fun l => (languageExtensions l).map (·, l)).find?
      (·.1 = extension)).map (·.2) = languages.find? (extension ∈ languageExtensions ·) := by
  induction languages with
  | nil => rfl
  | cons l languages ih =>
    rw [List.flatMap_cons, List.find?_append, List.find?_cons, find?_pairs]
    by_cases has : extension ∈ languageExtensions l
    · rw [if_pos has, decide_eq_true has]
      rfl
    · rw [if_neg has, decide_eq_false has]
      exact ih

lemma toLower_eq_dot {c : Char} (h : c.toLower = '.') : c = '.' := by
  by_cases capital : c.isUpper
  · have letter : c.toLower.isLower = true := by
      rw [Char.isLower_toLower_eq_isAlpha, Char.isAlpha, capital, Bool.true_or]
    rw [h] at letter
    cases letter
  · rw [← h, Char.toLower_eq_of_not_isUpper capital]

lemma map_toLower_map_toLower (cs : List Char) :
    (cs.map Char.toLower).map Char.toLower = cs.map Char.toLower := by
  rw [List.map_map]
  exact List.map_congr_left fun c _ => Char.toLower_eq_of_not_isUpper (by simp)

/-- The language of an extension in lower case is the one that has it. -/
lemma ofExtension_eq (extension : List Char) (dotless : '.' ∉ extension) :
    Language.ofExtension (String.ofList (extension.map Char.toLower)) =
      languageWith (String.ofList (extension.map Char.toLower)) := by
  have key : ((extension.map Char.toLower).dropWhile (· = '.')).map Char.toLower =
      extension.map Char.toLower := by
    rw [List.dropWhile_eq_self_iff.2 fun some => ?_, map_toLower_map_toLower]
    intro dot
    rw [List.getElem_map, decide_eq_true_eq] at dot
    exact dotless (toLower_eq_dot dot ▸ List.getElem_mem _)
  rw [languageWith, ← find?_extensions, Language.ofExtension, String.toList_ofList, key]
  rfl

lemma ofExtension_nameExtension (name : String) :
    Language.ofExtension (nameExtension name) = languageWith (nameExtension name) := by
  rcases nameExtension_cases name with ⟨e, ⟨-, -, -, dotless⟩, eq⟩ | ⟨-, eq⟩
  · rw [eq, ofExtension_eq e dotless]
  · rw [eq]
    exact ofExtension_eq [] List.not_mem_nil

/-- The record of a text file. Its path is made of the names, with slashes for backslashes. -/
def sourceAt (place : List FileName) (text : String) : SourceFile :=
  let name := Text.ofBytes (place.getLast?.getD [])
  { path := Text.slashed ("/".intercalate (place.map Text.ofBytes))
    filename := name
    extension := nameExtension name
    language := languageWith (nameExtension name)
    content := text
    size := text.toUTF8.size
    lineCount := text.toList.count '\n' + 1 }

/-! ## What one entry holds -/

section

variable {limits : WalkLimits} {depth : Nat} {above text : String} {c : FileTree}
  {place : List FileName} {name : FileName} {entries : List (FileName × FileTree)}

/-- The record of a text file whose place is below a path, which is empty or ends in a slash. -/
def sourceBelow (above : String) (place : List FileName) (text : String) : SourceFile :=
  { sourceAt place text with
    path := Text.slashed (above ++ "/".intercalate (place.map Text.ofBytes)) }

lemma sourceBelow_empty (place : List FileName) (text : String) :
    sourceBelow "" place text = sourceAt place text := by
  simp [sourceBelow, sourceAt]

/-- Files are records of the text files at the places that are wanted, in the order of these. -/
def Finds (above : String) (wanted : List FileName → String → Prop) (files : List SourceFile) :
    Prop :=
  ∃ found : List (List FileName × String), found.Pairwise (fun a b => a.1 < b.1) ∧
    (∀ place text, (place, text) ∈ found ↔ wanted place text) ∧
    files = found.map fun f => sourceBelow above f.1 f.2

lemma fromUTF8?_eq_some_iff {content : ByteArray} :
    String.fromUTF8? content = some text ↔ content = text.toUTF8 := by
  unfold String.fromUTF8?
  constructor
  · intro h
    split at h
    · cases h
      rfl
    · cases h
  · rintro rfl
    rw [String.toUTF8_eq_toByteArray, dif_pos text.isValidUTF8]
    rfl

lemma toUTF8_inj {text' : String} : text.toUTF8 = text'.toUTF8 ↔ text = text' := by
  rw [String.toUTF8_eq_toByteArray, String.toUTF8_eq_toByteArray, String.toByteArray_inj]

/-- What is wanted of an entry of a directory. -/
def IsWanted (limits : WalkLimits) (depth : Nat) (e : FileName × FileTree)
    (rest : List FileName) (text : String) : Prop :=
  ¬ IsPassedOver (Text.ofBytes e.1) ∧ (rest = [] → ¬ IsBinaryName (Text.ofBytes e.1)) ∧
    IsSource limits depth e.2 rest text

lemma isWanted_file_iff {content : ByteArray} {rest : List FileName} :
    IsWanted limits depth (name, .file content) rest text ↔ rest = [] ∧
      ¬ IsPassedOver (Text.ofBytes name) ∧ ¬ IsBinaryName (Text.ofBytes name) ∧
      content.size ≤ limits.maxFileBytes ∧ content = text.toUTF8 := by
  constructor
  · rintro ⟨kept, textual, source⟩
    obtain ⟨rfl, same⟩ := at?_file source.there
    cases same
    exact ⟨rfl, kept, textual rfl, source.small, rfl⟩
  · rintro ⟨rfl, kept, textual, small, rfl⟩
    exact ⟨kept, fun _ => textual, rfl, Nat.zero_le _, by simp, by simp, small⟩

lemma isSource_directory_iff (distinct : (directory entries).IsDistinct) :
    IsSource limits (depth + 1) (directory entries) place text ↔
      ∃ e ∈ entries, ∃ rest, place = e.1 :: rest ∧ IsWanted limits depth e rest text := by
  constructor
  · rintro ⟨there, shallow, allowed, textual, small⟩
    cases place with
    | nil => cases there
    | cons name rest =>
      obtain ⟨c, mem, there⟩ := distinct.at?_eq_some_iff.1 there
      refine ⟨(name, c), mem, rest, rfl, allowed name List.mem_cons_self, ?_, there,
        Nat.le_of_succ_le_succ shallow, fun n hn => allowed n (List.mem_cons_of_mem _ hn), ?_,
        small⟩
      · rintro rfl
        exact textual name rfl
      · intro n hn
        refine textual n ?_
        rw [List.getLast?_cons, hn]
        rfl
  · rintro ⟨⟨name, c⟩, mem, rest, rfl, allowed, textual, source⟩
    refine ⟨distinct.at?_eq_some_iff.2 ⟨c, mem, source.there⟩, Nat.succ_le_succ source.shallow,
      ?_, ?_, source.small⟩
    · intro n hn
      rcases List.mem_cons.1 hn with rfl | hn
      · exact allowed
      · exact source.allowed n hn
    · intro n hn
      rw [List.getLast?_cons] at hn
      cases last : rest.getLast? with
      | none =>
        rw [last] at hn
        cases hn
        exact textual (List.getLast?_eq_none_iff.1 last)
      | some m =>
        rw [last] at hn
        cases hn
        exact source.textual m last

lemma sourceBelow_singleton (above : String) (name : FileName) (text : String) :
    sourceBelow above [name] text =
      ⟨Text.slashed (above ++ Text.ofBytes name), Text.ofBytes name,
        nameExtension (Text.ofBytes name), languageWith (nameExtension (Text.ofBytes name)), text,
        text.toUTF8.size, Text.lineCount text⟩ := by
  simp only [Text.lineCount_eq, sourceBelow, sourceAt, List.map_singleton,
    String.intercalate_singleton, List.getLast?_singleton, Option.getD_some]

/-- A file gives its record if it is taken in. -/
lemma sourceFile?_eq_some_iff {content : ByteArray} {file : SourceFile} :
    sourceFile? limits (above ++ Text.ofBytes name) (Text.ofBytes name) content = some file ↔
      ¬ IsBinaryName (Text.ofBytes name) ∧ content.size ≤ limits.maxFileBytes ∧
        ∃ text, content = text.toUTF8 ∧ sourceBelow above [name] text = file := by
  have out : (binaryExtensions.contains (nameExtension (Text.ofBytes name)) ||
      decide (limits.maxFileBytes < content.size)) = true ↔
        IsBinaryName (Text.ofBytes name) ∨ limits.maxFileBytes < content.size := by
    rw [Bool.or_eq_true, contains_nameExtension_iff, decide_eq_true_eq]
  unfold sourceFile?
  dsimp only
  by_cases h : IsBinaryName (Text.ofBytes name) ∨ limits.maxFileBytes < content.size
  · rw [if_pos (out.2 h)]
    refine iff_of_false nofun ?_
    rintro ⟨textual, small, -⟩
    exact h.elim textual (Nat.not_lt.2 small)
  · rw [if_neg (h ∘ out.1)]
    rw [not_or, Nat.not_lt] at h
    simp only [Option.map_eq_some_iff, fromUTF8?_eq_some_iff, h, not_false_eq_true, true_and]
    refine exists_congr fun text => and_congr_right fun same => ?_
    rw [sourceBelow_singleton, same, ofExtension_nameExtension]

/-! ## In order -/

/-- The record of a file is the same from each directory above it. -/
lemma sourceBelow_cons {rest : List FileName} (h : rest ≠ []) :
    sourceBelow above (name :: rest) text =
      sourceBelow (above ++ Text.ofBytes name ++ "/") rest text := by
  have last : (name :: rest).getLast? = rest.getLast? := by
    rw [List.getLast?_eq_some_getLast h, List.getLast?_eq_some_getLast (List.cons_ne_nil _ _),
      List.getLast_cons h]
  have path : "/".intercalate ((name :: rest).map Text.ofBytes) =
      Text.ofBytes name ++ "/" ++ "/".intercalate (rest.map Text.ofBytes) := by
    rw [List.map_cons, String.intercalate_cons_of_ne_nil (by simpa using h)]
  simp only [sourceBelow, sourceAt, last, path, String.append_assoc]

namespace Finds

variable {wanted wanted' : List FileName → String → Prop} {files : List SourceFile}

lemma congr (h : Finds above wanted files) (same : ∀ place text, wanted place text ↔
    wanted' place text) : Finds above wanted' files := by
  obtain ⟨found, sorted, mem, rfl⟩ := h
  exact ⟨found, sorted, fun place text => (mem place text).trans (same place text), rfl⟩

lemma none (h : ∀ place text, ¬ wanted place text) : Finds above wanted [] :=
  ⟨[], .nil, fun place text => iff_of_false List.not_mem_nil (h place text), rfl⟩

/-- What is found below a directory is found with its name in front. -/
lemma under (h : Finds (above ++ Text.ofBytes name ++ "/") wanted files)
    (proper : ∀ text, ¬ wanted [] text) :
    Finds above (fun place text => ∃ rest, place = name :: rest ∧ wanted rest text) files := by
  obtain ⟨found, sorted, mem, rfl⟩ := h
  refine ⟨found.map fun f => (name :: f.1, f.2), ?_, ?_, ?_⟩
  · exact List.pairwise_map.2 (sorted.imp fun before =>
      List.cons_lt_cons_iff.2 (.inr ⟨rfl, before⟩))
  · intro place text
    simp only [List.mem_map, Prod.mk.injEq, Prod.exists, ← mem]
    constructor
    · rintro ⟨rest, text, there, rfl, rfl⟩
      exact ⟨rest, rfl, there⟩
    · rintro ⟨rest, rfl, there⟩
      exact ⟨rest, text, there, rfl, rfl⟩
  · rw [List.map_map]
    refine List.map_congr_left fun f hf => ?_
    have deeper : f.1 ≠ [] := by
      intro here
      refine proper f.2 ((mem _ _).1 ?_)
      rwa [← here]
    exact (sourceBelow_cons deeper).symm

/-- What is found in one entry after the other is found in order. -/
lemma flatMap {wanted : FileName × FileTree → List FileName → String → Prop}
    {walkOne : FileName × FileTree → List SourceFile}
    (sorted : entries.Pairwise fun d e => d.1 < e.1)
    (each : ∀ e ∈ entries, Finds above
      (fun place text => ∃ rest, place = e.1 :: rest ∧ wanted e rest text) (walkOne e)) :
    Finds above (fun place text => ∃ e ∈ entries, ∃ rest, place = e.1 :: rest ∧ wanted e rest text)
      (entries.flatMap walkOne) := by
  induction entries with
  | nil => exact none fun place text => by simp
  | cons e entries ih =>
    rw [List.pairwise_cons] at sorted
    obtain ⟨found, sortedHere, mem, eq⟩ := each e List.mem_cons_self
    obtain ⟨later, sortedLater, memLater, eqLater⟩ :=
      ih sorted.2 fun d hd => each d (List.mem_cons_of_mem _ hd)
    refine ⟨found ++ later, List.pairwise_append.2 ⟨sortedHere, sortedLater, ?_⟩, ?_, ?_⟩
    · rintro ⟨p, text⟩ hp ⟨q, text'⟩ hq
      obtain ⟨rest, rfl, -⟩ := (mem _ _).1 hp
      obtain ⟨d, hd, rest', rfl, -⟩ := (memLater _ _).1 hq
      exact List.cons_lt_cons_iff.2 (.inl (sorted.1 d hd))
    · intro place text
      simp only [List.mem_append, mem, memLater, List.mem_cons, exists_eq_or_imp]
    · rw [List.flatMap_cons, eq, eqLater, List.map_append]

end Finds

lemma insertByName_perm (e : FileName × FileTree) (l : List (FileName × FileTree)) :
    (insertByName e l).Perm (e :: l) := by
  induction l with
  | nil => rfl
  | cons d l ih =>
    unfold insertByName
    split_ifs
    · exact (ih.cons d).trans (.swap e d l)
    · rfl

lemma byName_perm (entries : List (FileName × FileTree)) : (byName entries).Perm entries := by
  induction entries with
  | nil => rfl
  | cons e entries ih => exact (insertByName_perm e _).trans (ih.cons e)

lemma pairwise_insertByName {e : FileName × FileTree} {l : List (FileName × FileTree)}
    (sorted : l.Pairwise fun d d' => d.1 < d'.1) (new : ∀ d ∈ l, d.1 ≠ e.1) :
    (insertByName e l).Pairwise fun d d' => d.1 < d'.1 := by
  induction l with
  | nil => exact List.pairwise_singleton _ _
  | cons d l ih =>
    obtain ⟨least, sorted'⟩ := List.pairwise_cons.1 sorted
    have unlike : d.1 ≠ e.1 := new d List.mem_cons_self
    unfold insertByName
    split_ifs with before <;> rw [nameBefore_iff] at before
    · refine List.pairwise_cons.2 ⟨fun d' hd' => ?_, ih sorted' fun d' hd' =>
        new d' (List.mem_cons_of_mem _ hd')⟩
      rcases List.mem_cons.1 ((insertByName_perm e l).mem_iff.1 hd') with rfl | hd'
      · exact before
      · exact least d' hd'
    · have after : e.1 < d.1 := Std.lt_of_le_of_ne (Std.not_lt.1 before) unlike.symm
      refine List.pairwise_cons.2 ⟨fun d' hd' => ?_, sorted⟩
      rcases List.mem_cons.1 hd' with rfl | hd'
      · exact after
      · exact List.lt_trans after (least d' hd')

/-- Entries of different names are put in the one order of these. -/
lemma pairwise_byName (h : (entries.map Prod.fst).Nodup) :
    (byName entries).Pairwise fun d e => d.1 < e.1 := by
  induction entries with
  | nil => exact .nil
  | cons e entries ih =>
    rw [List.map_cons, List.nodup_cons] at h
    refine pairwise_insertByName (ih h.2) fun d hd same => h.1 ?_
    rw [← same]
    exact List.mem_map_of_mem ((byName_perm entries).mem_iff.1 hd)

/-- The text files of one entry of a directory. -/
def walkEntry (limits : WalkLimits) (depth : Nat) (above : String) (e : FileName × FileTree) :
    List SourceFile :=
  let name := Text.ofBytes e.1
  if isIgnored name then []
  else
    match e.2 with
    | .file content => (sourceFile? limits (above ++ name) name content).toList
    | .link _ => []
    | .directory inner => walkEntries limits depth (above ++ name ++ "/") inner

lemma walkEntries_succ (limits : WalkLimits) (depth : Nat) (above : String)
    (entries : List (FileName × FileTree)) : walkEntries limits (depth + 1) above entries =
      (byName entries).flatMap (walkEntry limits depth above) := rfl

lemma walkEntry_finds {e : FileName × FileTree} (distinct : e.2.IsDistinct)
    (ih : ∀ above entries, (directory entries).IsDistinct →
      Finds above (IsSource limits depth (directory entries))
        (walkEntries limits depth above entries)) :
    Finds above (fun place text => ∃ rest, place = e.1 :: rest ∧ IsWanted limits depth e rest text)
      (walkEntry limits depth above e) := by
  obtain ⟨name, c⟩ := e
  unfold walkEntry
  dsimp only at distinct ⊢
  split_ifs with passed <;> rw [isIgnored_iff] at passed
  · refine .none fun place text => ?_
    rintro ⟨rest, -, kept, -⟩
    exact kept passed
  cases c with
  | file content =>
    change Finds _ _ (sourceFile? limits _ _ content).toList
    cases taken : sourceFile? limits (above ++ Text.ofBytes name) (Text.ofBytes name) content with
    | none =>
      refine .none fun place text => ?_
      rintro ⟨rest, -, wanted⟩
      obtain ⟨rfl, -, textual, small, same⟩ := isWanted_file_iff.1 wanted
      cases taken.symm.trans (sourceFile?_eq_some_iff.2 ⟨textual, small, text, same, rfl⟩)
    | some file =>
      obtain ⟨textual, small, text, rfl, rfl⟩ := sourceFile?_eq_some_iff.1 taken
      have one : Finds above (fun place text' => place = [name] ∧ text' = text)
          [sourceBelow above [name] text] :=
        ⟨[([name], text)], List.pairwise_singleton _ _, by simp, rfl⟩
      refine one.congr fun place text' => ?_
      simp only [isWanted_file_iff, passed, textual, small, toUTF8_inj, not_false_eq_true, true_and]
      constructor
      · rintro ⟨rfl, rfl⟩
        exact ⟨[], rfl, rfl, rfl⟩
      · rintro ⟨rest, rfl, rfl, same⟩
        exact ⟨rfl, same.symm⟩
  | link target =>
    refine .none fun place text => ?_
    rintro ⟨rest, -, -, -, source⟩
    cases (at?_link source.there).2
  | directory inner =>
    refine ((ih _ inner distinct).under fun text source => ?_).congr fun place text => ?_
    · cases source.there
    · refine exists_congr fun rest => and_congr_right fun _ => ?_
      refine ⟨fun source => ⟨passed, ?_, source⟩, fun wanted => wanted.2.2⟩
      rintro rfl
      cases source.there

/-- A walk finds what is to be taken in below a directory. -/
lemma walkEntries_finds (distinct : (directory entries).IsDistinct) :
    Finds above (IsSource limits depth (directory entries))
      (walkEntries limits depth above entries) := by
  induction depth generalizing above entries with
  | zero =>
    refine .none fun place text source => ?_
    have here := List.length_eq_zero_iff.1 (Nat.le_zero.1 source.shallow)
    have there := source.there
    rw [here] at there
    cases there
  | succ depth ih =>
    rw [walkEntries_succ]
    have sorted := pairwise_byName distinct.names
    have mem : ∀ e, e ∈ byName entries ↔ e ∈ entries := fun e => (byName_perm entries).mem_iff
    refine (Finds.flatMap sorted fun e he => walkEntry_finds (distinct.below ((mem e).1 he))
      fun _ _ h => ih h).congr fun place text => ?_
    rw [isSource_directory_iff distinct]
    simp only [mem]

/-- What is found from the top, where no path stands in front. -/
lemma walkEntries_eq_map (limits : WalkLimits) (distinct : (directory entries).IsDistinct) :
    ∃ found : List (List FileName × String), found.Pairwise (fun a b => a.1 < b.1) ∧
      (∀ place text, (place, text) ∈ found ↔
        IsSource limits limits.maxDepth (directory entries) place text) ∧
      walkEntries limits limits.maxDepth "" entries = found.map fun f => sourceAt f.1 f.2 := by
  obtain ⟨found, sorted, mem, eq⟩ : Finds "" (IsSource limits limits.maxDepth _) _ :=
    walkEntries_finds distinct
  simp only [sourceBelow_empty] at eq
  exact ⟨found, sorted, mem, eq⟩

end

/-! ## Walks -/

/-- A walk over a directory gives one record for each text file below it that is taken in, and
nothing else, in the order of a depth-first visit that takes the entries of each directory by their
names, however these are listed. -/
theorem walk_finds (limits : WalkLimits) {entries : List (FileName × FileTree)}
    (distinct : (directory entries).IsDistinct) :
    ∃ found : List (List FileName × String), found.Pairwise (fun a b => a.1 < b.1) ∧
      (∀ place text, (place, text) ∈ found ↔
        IsSource limits limits.maxDepth (directory entries) place text) ∧
      walk limits (directory entries) = .ok (found.map fun f => sourceAt f.1 f.2) := by
  obtain ⟨found, sorted, mem, eq⟩ := walkEntries_eq_map limits distinct
  refine ⟨found, sorted, mem, ?_⟩
  rw [walk, eq]

section Example

/-- The entries of a directory, not in order: a directory of sources with a link to one of them, a
directory that is passed over, and a file. -/
def mixedEntries : List (FileName × FileTree) := [
  (Text.toBytes "src", .directory [
    (Text.toBytes "b.js", .file "x".toUTF8),
    (Text.toBytes "a.js", .link (Text.toBytes "b.js"))]),
  (Text.toBytes "vendor", .directory [(Text.toBytes "c.js", .file "y".toUTF8)]),
  (Text.toBytes "README", .file "z".toUTF8)]

lemma isDistinct_mixed : (directory mixedEntries).IsDistinct := by
  have outer : (mixedEntries.map Prod.fst).Nodup := by decide +kernel
  have inner : ([Text.toBytes "b.js", Text.toBytes "a.js"] : List FileName).Nodup := by
    decide +kernel
  refine throughout_directory outer ?_
  simp only [mixedEntries, List.forall_mem_cons]
  refine ⟨throughout_directory inner ?_, throughout_directory (by simp) ?_, throughout_file _,
    by simp⟩
  · simp [throughout_file, throughout_link]
  · simp [throughout_file]

/-- Among the files that a walk takes in there are one in a language and one in none. -/
theorem walk_finds_mixed : (directory mixedEntries).IsDistinct ∧
    ∃ found : List (List FileName × String), found.Pairwise (fun a b => a.1 < b.1) ∧
      ([Text.toBytes "src", Text.toBytes "b.js"], "x") ∈ found ∧
      ([Text.toBytes "README"], "z") ∈ found ∧
      ([Text.toBytes "vendor", Text.toBytes "c.js"], "y") ∉ found ∧
      walk {} (directory mixedEntries) = .ok (found.map fun f => sourceAt f.1 f.2) ∧
      sourceAt [Text.toBytes "src", Text.toBytes "b.js"] "x" =
        ⟨"src/b.js", "b.js", "js", .javaScript, "x", 1, 1⟩ ∧
      sourceAt [Text.toBytes "README"] "z" = ⟨"README", "README", "", .unknown, "z", 1, 1⟩ := by
  obtain ⟨found, sorted, mem, eq⟩ := walk_finds {} isDistinct_mixed
  have vendor : IsPassedOver (Text.ofBytes (Text.toBytes "vendor")) := by
    rw [← isIgnored_iff, Text.ofBytes_toBytes]
    decide +kernel
  have there : (directory mixedEntries).at? [Text.toBytes "src", Text.toBytes "b.js"] =
      some (.file "x".toUTF8) :=
    isDistinct_mixed.at?_eq_some_iff.2 ⟨_, List.mem_cons_self,
      (isDistinct_mixed.below List.mem_cons_self).at?_eq_some_iff.2 ⟨_, List.mem_cons_self, rfl⟩⟩
  have there' : (directory mixedEntries).at? [Text.toBytes "README"] = some (.file "z".toUTF8) :=
    isDistinct_mixed.at?_eq_some_iff.2 ⟨_, by simp [mixedEntries], rfl⟩
  refine ⟨isDistinct_mixed, found, sorted, ?_, ?_, ?_, eq, by decide +kernel, by decide +kernel⟩
  · exact (mem _ _).2 (.of_tests there (by decide) (by decide +kernel) rfl (by decide +kernel)
      (by decide +kernel))
  · exact (mem _ _).2 (.of_tests there' (by decide) (by decide +kernel) rfl (by decide +kernel)
      (by decide +kernel))
  · intro wrong
    exact ((mem _ _).1 wrong).allowed _ List.mem_cons_self vendor

end Example

end Files

end CodeAtlas
