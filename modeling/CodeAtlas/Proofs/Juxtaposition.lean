import CodeAtlas.Proofs.Nesting
import CodeAtlas.Proofs.Pieces

/-! # Sources put together

A line at column zero closes whatever is open. So what is found in a source that begins with such a
line does not depend on what stands in front of it: the numbers of the lines are shifted, and a name
that was imported or exported before is not added again. -/
namespace CodeAtlas

/-- The symbol as it stands when so many lines are put in front of its source. -/
def CodeSymbol.shift (k : Nat) (s : CodeSymbol) : CodeSymbol :=
  { s with startLine := s.startLine + k, endLine := s.endLine + k }

namespace Outline

variable {names new : List String} {name : String}

/-! ## Names -/

/-- Names that were added one by one. -/
structure AreNames (names : List String) : Prop where
  nodup : names.Nodup
  nonempty : "" ∉ names

lemma AreNames.nil : AreNames [] := ⟨List.nodup_nil, List.not_mem_nil⟩

lemma addName_of_mem (h : name ∈ names) : addName names name = names := by
  unfold addName
  rw [if_pos]
  simp [h]

lemma addName_empty : addName names "" = names := rfl

lemma addName_of_not_mem (some : name ≠ "") (h : name ∉ names) :
    addName names name = names ++ [name] := by
  unfold addName
  rw [if_neg]
  simp [some, h]

lemma mem_addName {other : String} :
    other ∈ addName names name ↔ other ∈ names ∨ other = name ∧ name ≠ "" := by
  by_cases some : name = ""
  · simp [some, addName_empty]
  · by_cases there : name ∈ names
    · rw [addName_of_mem there]
      exact ⟨.inl, fun either => either.elim id fun added => added.1 ▸ there⟩
    · simp [addName_of_not_mem some there, some]

lemma AreNames.add (h : AreNames names) (name : String) : AreNames (addName names name) where
  nodup := nodup_addName h.nodup name
  nonempty := by
    rw [mem_addName, not_or]
    exact ⟨h.nonempty, fun added => added.2 added.1.symm⟩

lemma addNames_cons : addNames names (name :: new) = addNames (addName names name) new := rfl

lemma addNames_concat : addNames names (new ++ [name]) = addName (addNames names new) name := by
  rw [addNames, List.foldl_append]
  rfl

lemma addNames_append (names new more : List String) :
    addNames names (new ++ more) = addNames (addNames names new) more := List.foldl_append

lemma AreNames.addAll (h : AreNames names) (new : List String) : AreNames (addNames names new) := by
  induction new generalizing names with
  | nil => exact h
  | cons name new ih => exact ih (h.add name)

lemma mem_addNames {other : String} :
    other ∈ addNames names new ↔ other ∈ names ∨ other ∈ new ∧ other ≠ "" := by
  induction new generalizing names with
  | nil => simp [addNames]
  | cons name new ih =>
    rw [addNames_cons, ih, mem_addName, List.mem_cons]
    grind

/-- Adding what a name was added to adds the name last. -/
lemma addNames_addName :
    addNames names (addName new name) = addName (addNames names new) name := by
  by_cases some : name = ""
  · rw [some, addName_empty, addName_empty]
  · by_cases there : name ∈ new
    · rw [addName_of_mem there, addName_of_mem (mem_addNames.2 (.inr ⟨there, some⟩))]
    · rw [addName_of_not_mem some there, addNames_concat]

lemma addNames_addNames {more : List String} :
    addNames names (addNames new more) = addNames (addNames names new) more := by
  induction more generalizing new with
  | nil => rfl
  | cons name more ih => rw [addNames_cons, addNames_cons, ih, addNames_addName]

/-- What is added is what is not there already. -/
lemma addNames_eq_append (h : AreNames new) :
    addNames names new = names ++ new.filter (· ∉ names) := by
  induction new generalizing names with
  | nil => exact (List.append_nil names).symm
  | cons name new ih =>
    obtain ⟨fresh, nodup⟩ := List.nodup_cons.1 h.nodup
    obtain ⟨some, nonempty⟩ := not_or.1 (mt List.mem_cons.2 h.nonempty)
    rw [addNames_cons, ih ⟨nodup, nonempty⟩]
    by_cases there : name ∈ names
    · rw [addName_of_mem there, List.filter_cons_of_neg (by simpa using there)]
    · rw [addName_of_not_mem (Ne.symm some) there, List.filter_cons_of_pos (by simpa using there),
        List.append_assoc, List.singleton_append]
      congr 2
      apply List.filter_congr
      intro other mem
      have : other ≠ name := fun same => fresh (same ▸ mem)
      simp [this]

/-- What is added is what is not there already and not empty, each name once. -/
lemma addNames_eq_eraseDups :
    addNames names new = names ++ ((new.filter (· ≠ "")).filter (· ∉ names)).eraseDups := by
  induction new generalizing names with
  | nil => exact (List.append_nil names).symm
  | cons name new ih =>
    rw [addNames_cons, ih]
    by_cases some : name = ""
    · rw [some, addName_empty, List.filter_cons_of_neg (by simp)]
    · rw [List.filter_cons_of_pos (by simpa using some)]
      by_cases there : name ∈ names
      · rw [addName_of_mem there, List.filter_cons_of_neg (by simpa using there)]
      · rw [addName_of_not_mem some there, List.filter_cons_of_pos (by simpa using there),
          List.eraseDups_cons, List.append_assoc, List.singleton_append]
        congr 3
        simp only [List.filter_filter]
        apply List.filter_congr
        intro other mem
        by_cases same : other = name <;> simp [same]

/-- Names that are added to none. -/
lemma addNames_nil : addNames [] new = (new.filter (· ≠ "")).eraseDups := by
  simp [addNames_eq_eraseDups]

/-- An outline joined by that of a source that comes after so many lines. -/
def followedBy (first : Outline) (k : Nat) (second : Outline) : Outline where
  symbols := first.symbols ++ second.symbols.map (CodeSymbol.shift k)
  imports := addNames first.imports second.imports
  exports := addNames first.exports second.exports

namespace Indented

variable {lines all : List (List Char)} {scan : Scan} {s : CodeSymbol} {k number : Nat}
  (found : Outline)

/-! ## Lines in front -/

def Open.shift (count : Nat) (o : Open) : Open := { o with index := o.index + count }

/-- A scan as it stands when so many lines are in front, in which an outline was found. -/
def Scan.after (found : Outline) (k : Nat) (scan : Scan) : Scan where
  symbols := found.symbols ++ scan.symbols.map (CodeSymbol.shift k)
  imports := addNames found.imports scan.imports
  exports := addNames found.exports scan.exports
  function? := scan.function?.map (Open.shift found.symbols.length)
  class? := scan.class?.map (Open.shift found.symbols.length)
  lastLine := scan.lastLine + k

lemma modify_append {α : Type} (f : α → α) (as bs : List α) (i : Nat) :
    (as ++ bs).modify (i + as.length) f = as ++ bs.modify i f := by
  induction as with
  | nil => rfl
  | cons a as ih => rw [List.cons_append, List.length_cons, ← Nat.add_assoc,
      List.modify_succ_cons, ih, List.cons_append]

lemma modify_map {α : Type} {f g h : α → α} {as : List α} (same : ∀ a ∈ as, g (f a) = f (h a))
    (i : Nat) : (as.map f).modify i g = (as.modify i h).map f := by
  apply List.ext_getElem?
  intro j
  simp only [List.getElem?_modify, List.getElem?_map, Option.map_eq_map, Option.map_map]
  cases there : as[j]? with
  | none => rfl
  | some a =>
    have := same a (List.mem_of_getElem? there)
    simp only [Option.map_some, Function.comp]
    split_ifs <;> simp [this]

/-- A definition is closed with the same lines wherever these stand. -/
lemma finish_shift (inside : lines <+: all.drop k) {last : Nat} (first : 1 ≤ s.startLine)
    (bound : max last s.startLine ≤ lines.length) :
    finish all (last + k) (s.shift k) = (finish lines last s).shift k := by
  obtain ⟨rest, cut⟩ := inside
  have ending : max (last + k) (s.startLine + k) = max last s.startLine + k :=
    Nat.add_max_add_right ..
  have body : (all.drop (s.startLine + k - 1)).take
      (max last s.startLine + k - (s.startLine + k - 1)) =
      (lines.drop (s.startLine - 1)).take (max last s.startLine - (s.startLine - 1)) := by
    have front : s.startLine + k - 1 = k + (s.startLine - 1) := by omega
    have size : max last s.startLine + k - (k + (s.startLine - 1)) =
        max last s.startLine - (s.startLine - 1) := by omega
    rw [front, size, ← List.drop_drop, ← cut, ← List.drop_take, ← List.drop_take,
      List.take_append_of_le_length bound]
  unfold finish CodeSymbol.shift
  dsimp only
  rw [ending, body]

/-! ## A step with lines in front -/

section After

variable (inside : lines <+: all.drop k) (within : scan.Within lines.length)
include inside within

lemma close_after (slot : Option Open) :
    (scan.after found k).close all (slot.map (Open.shift found.symbols.length)) =
      (scan.close lines slot).after found k := by
  cases slot with
  | none => rfl
  | some o =>
    have same : ∀ s ∈ scan.symbols, finish all (scan.lastLine + k) (s.shift k) =
        (finish lines scan.lastLine s).shift k := by
      intro s mem
      obtain ⟨first, bound⟩ := within.body mem
      exact finish_shift inside first bound
    simp only [Scan.close, Option.map_some, Scan.after, Open.shift]
    rw [modify_append, modify_map same]

lemma closeFunction_after :
    (scan.after found k).closeFunction all = (scan.closeFunction lines).after found k := by
  have closed := close_after found inside within scan.function?
  exact congrArg (fun scan => { scan with function? := none }) closed

lemma closeClass_after :
    (scan.after found k).closeClass all = (scan.closeClass lines).after found k := by
  have closed := close_after found inside within scan.class?
  exact congrArg (fun scan => { scan with class? := none }) closed

lemma settle_after : (scan.after found k).settle all = (scan.settle lines).after found k := by
  rw [Scan.settle, closeFunction_after found inside within,
    closeClass_after found inside within.closeFunction]
  rfl

lemma clear_after (indent : Nat) :
    (scan.clear lines indent).after found k = (scan.after found k).clear all indent := by
  unfold Scan.clear
  rw [settle_after found inside within, closeFunction_after found inside within]
  split_ifs <;> rfl

omit inside within in
lemma withSymbol_after (s : CodeSymbol) (indent : Nat) :
    (scan.after found k).withSymbol (s.shift k) indent =
      (scan.withSymbol s indent).after found k := by
  have symbols : found.symbols ++ scan.symbols.map (CodeSymbol.shift k) ++ [s.shift k] =
      found.symbols ++ (scan.symbols ++ [s]).map (CodeSymbol.shift k) := by
    rw [List.map_append, List.append_assoc, List.map_singleton]
  unfold Scan.withSymbol Scan.after CodeSymbol.shift at *
  dsimp only at *
  split_ifs
  · rw [symbols, addNames_addName]
  · rw [symbols]

omit inside within in
lemma surrounds_after (indent : Nat) :
    (scan.after found k).surrounds indent = scan.surrounds indent := by
  cases slot : scan.class? <;> simp [Scan.surrounds, Scan.after, slot, Open.shift]

omit inside within in
lemma length_after : (scan.after found k).symbols.length =
    scan.symbols.length + found.symbols.length := by
  rw [Scan.after, List.length_append, List.length_map, Nat.add_comm]

lemma beginFunction_after (number indent : Nat) (header : Pattern.Spot) :
    (scan.after found k).beginFunction all (number + k) indent header =
      (scan.beginFunction lines number indent header).after found k := by
  have shifted (inClass : Bool) : functionSymbol inClass (number + k) header =
      (functionSymbol inClass number header).shift k := rfl
  rw [beginFunction_eq, beginFunction_eq, ← clear_after found inside within]
  dsimp only
  rw [surrounds_after, shifted, withSymbol_after, length_after]
  rfl

lemma beginClass_after (number indent : Nat) (header : Pattern.Spot) :
    (scan.after found k).beginClass all (number + k) indent header =
      (scan.beginClass lines number indent header).after found k := by
  have shifted : classSymbol (number + k) header = (classSymbol number header).shift k := rfl
  rw [beginClass_eq, beginClass_eq, settle_after found inside within]
  dsimp only
  rw [shifted, withSymbol_after, length_after]
  rfl

lemma plain_after (indent : Nat) :
    (scan.after found k).plain all indent = (scan.plain lines indent).after found k := by
  unfold Scan.plain
  rw [← Scan.settle, settle_after found inside within]
  have function : (scan.after found k).function? =
      scan.function?.map (Open.shift found.symbols.length) := rfl
  have around : (scan.after found k).class? =
      scan.class?.map (Open.shift found.symbols.length) := rfl
  split_ifs
  · rfl
  · rw [function, around, closeFunction_after found inside within]
    cases scan.function? with
    | none => rfl
    | some f =>
      cases scan.class? with
      | none => rfl
      | some c =>
        simp only [Option.map_some, Open.shift]
        split_ifs <;> rfl

lemma content_after (number : Nat) (line : List Char) :
    (scan.after found k).content all (number + k) line =
      (scan.content lines number line).after found k := by
  unfold Scan.content
  split
  · exact beginFunction_after found inside within number _ _
  · exact beginClass_after found inside within number _ _
  · exact plain_after found inside within _

/-- One line further. -/
lemma line_after (number : Nat) (line : List Char) :
    (scan.after found k).line all (number + k) line =
      (scan.line lines number line).after found k := by
  let imported := (scan.withImports line).imports
  have imports : (scan.after found k).withImports line =
      (scan.withImports line).after found k := by
    unfold Scan.withImports Scan.after
    dsimp only
    rw [addNames_addNames]
  have content := content_after found inside (within.withImports imported) number line
  rw [line_eq, line_eq, imports]
  split_ifs
  · rfl
  · exact congrArg (fun scan => { scan with lastLine := number + k }) content

end After

lemma lines_after (inside : lines <+: all.drop k) {rest : List (List Char)} {n : Nat}
    (within : scan.Within n) (bound : n + rest.length ≤ lines.length) :
    Scan.lines all (n + 1 + k) rest (scan.after found k) =
      (Scan.lines lines (n + 1) rest scan).after found k := by
  induction rest generalizing n scan with
  | nil => rfl
  | cons line rest ih =>
    rw [List.length_cons] at bound
    rw [Scan.lines, line_after found inside (within.mono (by omega)), Nat.add_right_comm,
      ih (within.line line) (by omega)]
    rfl

/-! ## The end of what stands in front -/

/-- What has been found if the source ends here. -/
def Scan.outcome (scan : Scan) (lines : List (List Char)) : Outline :=
  ⟨(scan.settle lines).symbols, (scan.settle lines).imports, (scan.settle lines).exports⟩

/-- Everything is closed, and some line is taken for the last one that was not blank. -/
def Scan.closed (scan : Scan) (lines : List (List Char)) (last : Nat) : Scan :=
  { scan.settle lines with lastLine := last }

lemma closed_eq (scan : Scan) (lines : List (List Char)) (last : Nat) :
    scan.closed lines last = ⟨(scan.settle lines).symbols, (scan.settle lines).imports,
      (scan.settle lines).exports, none, none, last⟩ := by
  have function : (scan.settle lines).function? = none := function?_settle
  change (⟨(scan.settle lines).symbols, (scan.settle lines).imports,
    (scan.settle lines).exports, (scan.settle lines).function?, none, last⟩ : Scan) = _
  rw [function]

lemma settle_closed (scan : Scan) (last : Nat) :
    (scan.closed all last).settle all = scan.closed all last := by
  rw [closed_eq]
  rfl

lemma closed_withImports (scan : Scan) (line : List Char) (last : Nat) :
    (scan.withImports line).closed all last = (scan.closed all last).withImports line := by
  obtain ⟨symbols, imports, exports, function?, class?, lastLine⟩ := scan
  cases function? <;> cases class? <;> rfl

/-- A line at column zero closes everything first. -/
lemma content_closed {line : List Char} (top : indentOf line = 0) (number last : Nat) :
    { (scan.closed all last).content all number line with lastLine := number } =
      { scan.content all number line with lastLine := number } := by
  have clear (scan : Scan) : scan.clear all 0 = scan.settle all := rfl
  have plain (scan : Scan) : scan.plain all 0 = scan.settle all := rfl
  unfold Scan.content
  rw [top]
  split
  · rw [beginFunction_eq, beginFunction_eq, clear, clear, settle_closed]
    rfl
  · rw [beginClass_eq, beginClass_eq, settle_closed]
    rfl
  · rw [plain, plain, settle_closed]
    rfl

lemma line_closed {line : List Char} (some : isBlankLine line = false) (top : indentOf line = 0)
    (number last : Nat) :
    (scan.closed all last).line all number line = scan.line all number line := by
  rw [line_eq, line_eq, some, ← closed_withImports]
  exact content_closed top number last

/-- It makes no difference what was open when the first line that is not blank stands at column
zero. -/
lemma lines_closed {rest : List (List Char)} (last : Nat)
    (top : ∀ line ∈ rest.find? (!isBlankLine ·), indentOf line = 0) :
    (Scan.lines all number rest (scan.closed all last)).outcome all =
      (Scan.lines all number rest scan).outcome all := by
  induction rest generalizing number with
  | nil =>
    rw [Scan.lines, Scan.outcome, settle_closed]
    rfl
  | cons line rest ih =>
    rw [Scan.lines, Scan.lines]
    cases blank : isBlankLine line with
    | true =>
      rw [List.find?_cons_of_neg (by simp [blank])] at top
      have skip (scan : Scan) : scan.line all number line = scan := by
        rw [line_eq, if_pos blank]
      rw [skip, skip]
      exact ih top
    | false =>
      rw [List.find?_cons_of_pos (by simp [blank])] at top
      rw [line_closed blank (top line rfl)]

/-! ## Two sources -/

lemma lines_append (all front back : List (List Char)) (number : Nat) :
    Scan.lines all number (front ++ back) scan =
      Scan.lines all (number + front.length) back (Scan.lines all number front scan) := by
  induction front generalizing number scan with
  | nil => rfl
  | cons line front ih =>
    rw [List.cons_append, Scan.lines, ih, List.length_cons, Nat.add_right_comm, Nat.add_assoc]
    rfl

/-- The first line that is not blank, if there is one, has no blanks in front. -/
def BeginsAtColumnZero (source : List Char) : Prop :=
  ∀ line ∈ (Text.lines source).find? (!isBlankLine ·), ∀ c ∈ line.head?, Text.isBlank c = false

lemma indentOf_eq_zero {line : List Char} (h : ∀ c ∈ line.head?, Text.isBlank c = false) :
    indentOf line = 0 := by
  cases line with
  | nil => rfl
  | cons c line =>
    rw [indentOf, List.takeWhile_cons_of_neg (by simp [h c rfl])]
    rfl

/-- A reading from the start, as it stands with no lines in front. -/
lemma read_after_nil {lines all : List (List Char)} (h : lines <+: all) :
    Scan.lines all 1 lines .start = (Scan.lines lines 1 lines .start).after .empty 0 :=
  lines_after .empty (k := 0) h Scan.Within.start (Nat.le_of_eq (Nat.zero_add _))

/-- Lines that follow a source change nothing in what is read before them. -/
lemma read_of_prefix {lines all : List (List Char)} (h : lines <+: all) :
    Scan.lines all 1 lines .start = Scan.lines lines 1 lines .start :=
  (read_after_nil h).trans (read_after_nil List.prefix_rfl).symm

/-- What is found in lines behind others joins what was found in front. -/
lemma outcome_after (inside : lines <+: all.drop k) (within : scan.Within lines.length) :
    (scan.after found k).outcome all = found.followedBy k (scan.outcome lines) := by
  unfold Scan.outcome
  rw [settle_after found inside within]
  rfl

lemma outline_eq_followedBy (source : List Char) :
    outline source = Outline.empty.followedBy 0 (outline source) := by
  let lines := Text.lines source
  have read : Scan.lines lines 1 lines .start = _ := read_after_nil List.prefix_rfl
  have within := Scan.Within.read lines lines
  calc
    outline source = (Scan.lines lines 1 lines .start).outcome lines := rfl
    _ = ((Scan.lines lines 1 lines .start).after .empty 0).outcome lines := by rw [← read]
    _ = Outline.empty.followedBy 0 (outline source) := outcome_after .empty List.prefix_rfl within

lemma areNames_outline (source : List Char) :
    AreNames (outline source).imports ∧ AreNames (outline source).exports := by
  rw [outline_eq_followedBy source]
  exact ⟨AreNames.nil.addAll _, AreNames.nil.addAll _⟩

lemma settle_of_prefix (h : lines <+: all) :
    (Scan.lines lines 1 lines .start).settle all =
      (Scan.lines lines 1 lines .start).settle lines := by
  have within := Scan.Within.read lines lines
  have alone := settle_after .empty (k := 0) List.prefix_rfl within
  have behind := settle_after .empty (k := 0) h within
  rw [← read_after_nil List.prefix_rfl] at alone behind
  exact behind.trans alone.symm

/-- Where everything is closed, a source begins in front of which something was found. -/
lemma closed_eq_after (scan : Scan) (lines : List (List Char)) (last : Nat) :
    scan.closed lines last = Scan.start.after (scan.outcome lines) last := by
  rw [closed_eq]
  unfold Scan.after Scan.outcome Scan.start
  simp [addNames]

/-- In a source that goes on at column zero, what is found behind is found as in a source of its
own, only with other line numbers, and no name is given again. -/
theorem outline_append (front back : List Char) (top : BeginsAtColumnZero back) :
    outline (front ++ '\n' :: back) =
      let first := outline front
      let second := outline back
      { symbols := first.symbols ++ second.symbols.map (·.shift (Text.lines front).length)
        imports := first.imports ++ second.imports.filter (· ∉ first.imports)
        exports := first.exports ++ second.exports.filter (· ∉ first.exports) } := by
  let lines := Text.lines front
  let more := Text.lines back
  let all := lines ++ more
  have cut : Text.lines (front ++ '\n' :: back) = all := Text.cut_append_cons
  have top : ∀ line ∈ more.find? (!isBlankLine ·), indentOf line = 0 :=
    fun line first => indentOf_eq_zero (top line first)
  have behind : more <+: all.drop lines.length := by rw [List.drop_left]
  have number : 1 + lines.length = 0 + 1 + lines.length := by rw [Nat.zero_add]
  have joined : outline (front ++ '\n' :: back) =
      (outline front).followedBy lines.length (outline back) := by
    calc
      outline (front ++ '\n' :: back) = (Scan.lines all 1 all .start).outcome all := by
        rw [← cut]
        rfl
      _ = (Scan.lines all (1 + lines.length) more (Scan.lines all 1 lines .start)).outcome all := by
        rw [← lines_append]
      _ = (Scan.lines all (1 + lines.length) more
            (Scan.start.after (outline front) lines.length)).outcome all := by
        have first : lines <+: all := List.prefix_append lines more
        rw [← lines_closed lines.length top, Scan.closed, read_of_prefix first,
          settle_of_prefix first, ← Scan.closed, closed_eq_after]
        rfl
      _ = ((Scan.lines more 1 more .start).after (outline front) lines.length).outcome all := by
        have bound : 0 + more.length ≤ more.length := Nat.le_of_eq (Nat.zero_add _)
        rw [number, lines_after (outline front) behind Scan.Within.start bound]
      _ = (outline front).followedBy lines.length (outline back) :=
        outcome_after (outline front) behind (Scan.Within.read more more)
  have names := areNames_outline back
  rw [joined, Outline.followedBy, addNames_eq_append names.1, addNames_eq_append names.2]

/-- A class that is open at the end of the first source is closed there, and not by the second. -/
theorem outline_append_classes :
    let front := "import os\nclass A:\n  def f(self):\n    g()".toList
    let back := "\n# next\nimport os, re\n  def h(self): pass".toList
    BeginsAtColumnZero back ∧
      outline (front ++ '\n' :: back) =
        { symbols := (outline front).symbols ++ (outline back).symbols.map (·.shift 4)
          imports := ["os"] ++ ["re"]
          exports := ["A"] ++ [] } ∧
      (outline (front ++ '\n' :: back)).symbols.map (fun s => (s.name, s.startLine, s.endLine)) =
        [("A", 2, 4), ("f", 3, 4), ("h", 8, 8)] := by
  intro front back
  have first : (Text.lines back).find? (!isBlankLine ·) = some "# next".toList := by
    decide +kernel
  have top : BeginsAtColumnZero back := by
    intro line there c head
    rw [first] at there
    cases there
    cases head
    rfl
  exact ⟨top, (outline_append front back top).trans (by decide +kernel), by decide +kernel⟩

end Indented

end Outline

end CodeAtlas
