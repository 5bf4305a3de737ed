import CodeAtlas.Proofs.Spans
import Mathlib.Data.List.TakeWhile
import Mathlib.Order.Interval.Set.Basic

/-! # How symbols are nested

An outline by indentation holds at most one function and one class open. Each is closed before
another of its sort is found, and a class is never closed around an open function. So functions do
not overlap, classes do not overlap, and a method ends before the class in which it began. -/
namespace CodeAtlas

namespace CodeSymbol

/-- The lines on which a symbol stands. -/
def span (s : CodeSymbol) : Set Nat := Set.Icc s.startLine s.endLine

def isClass (s : CodeSymbol) : Bool := s.kind = .classDef

def isMember (s : CodeSymbol) : Bool := s.kind = .method ∨ s.kind = .constructor

/-- The code of a symbol is the excerpt of its lines, the first and the last one included. -/
def IsClosed (lines : List (List Char)) (s : CodeSymbol) : Prop :=
  s.code = Outline.excerpt (Text.join ['\n'] ((lines.take s.endLine).drop (s.startLine - 1)))

lemma isClass_ne_of_isMember {s : CodeSymbol} (h : s.isMember = true) : s.isClass ≠ true := by
  unfold isMember isClass at *
  grind

lemma span_inter_eq_empty {s t : CodeSymbol} (h : s.endLine < t.startLine) :
    s.span ∩ t.span = ∅ := by
  rw [Set.eq_empty_iff_forall_notMem]
  rintro line ⟨first, second⟩
  have := first.2
  have := second.1
  omega

end CodeSymbol

namespace Outline.Indented

open CodeSymbol

variable {all : List (List Char)} {scan : Scan} {symbols : List CodeSymbol} {s t : CodeSymbol}
  {function? class? slot : Option Open} {isClass : Bool} {last number i j : Nat}

/-! ## What a line does -/

/-- Close the function and then the class. -/
def Scan.settle (scan : Scan) (lines : List (List Char)) : Scan :=
  (scan.closeFunction lines).closeClass lines

/-- What a function at some depth closes before it begins. -/
def Scan.clear (scan : Scan) (lines : List (List Char)) (indent : Nat) : Scan :=
  if indent = 0 then scan.settle lines else scan.closeFunction lines

/-- Whether a definition at some depth stands in the open class. -/
def Scan.surrounds (scan : Scan) (indent : Nat) : Bool :=
  match scan.class? with
  | some c => c.indent < indent
  | none => false

/-- A definition is added, and exported if it stands at column zero and has a public name. -/
def Scan.withSymbol (scan : Scan) (s : CodeSymbol) (indent : Nat) : Scan :=
  { scan with
    symbols := scan.symbols ++ [s]
    exports := if indent = 0 ∧ isPublic s.name then addName scan.exports s.name else scan.exports }

def functionSymbol (inClass : Bool) (number : Nat) (header : Pattern.Spot) : CodeSymbol :=
  let name := String.ofList (groupText header 3)
  let isAsync := (header.group? 2).isSome
  let returned := Text.trim (groupText header 5)
  { name := name
    kind := functionKind inClass name isAsync
    startLine := number
    endLine := number
    parameters := parameters (groupText header 4) inClass
    returnType := if returned.isEmpty then unknownType else String.ofList returned
    isExported := isPublic name
    isAsync := isAsync
    complexity := 1
    calls := []
    code := "" }

def classSymbol (number : Nat) (header : Pattern.Spot) : CodeSymbol :=
  let name := String.ofList (groupText header 2)
  { name := name
    kind := .classDef
    startLine := number
    endLine := number
    parameters := []
    returnType := unknownType
    isExported := isPublic name
    isAsync := false
    complexity := 1
    calls := []
    code := "" }

lemma push_export (scan : Scan) (s : CodeSymbol) (indent : Nat) :
    (scan.export s.name indent).push s = scan.withSymbol s indent := by
  unfold Scan.export Scan.withSymbol Scan.push
  split_ifs <;> rfl

lemma length_withSymbol (scan : Scan) (s : CodeSymbol) (indent : Nat) :
    (scan.withSymbol s indent).symbols.length - 1 = scan.symbols.length := by
  rw [Scan.withSymbol, List.length_append, List.length_singleton, Nat.add_sub_cancel]

lemma beginFunction_eq (scan : Scan) (lines : List (List Char)) (number indent : Nat)
    (header : Pattern.Spot) :
    scan.beginFunction lines number indent header =
      let before := scan.clear lines indent
      { before.withSymbol (functionSymbol (before.surrounds indent) number header) indent with
        function? := some ⟨before.symbols.length, indent⟩ } := by
  let before := scan.clear lines indent
  let s := functionSymbol (before.surrounds indent) number header
  let next := (before.export s.name indent).push s
  have pushed : next = before.withSymbol s indent := push_export before s indent
  change ({ next with function? := some ⟨next.symbols.length - 1, indent⟩ } : Scan) = _
  rw [pushed, length_withSymbol]

lemma beginClass_eq (scan : Scan) (lines : List (List Char)) (number indent : Nat)
    (header : Pattern.Spot) :
    scan.beginClass lines number indent header =
      let before := scan.settle lines
      { before.withSymbol (classSymbol number header) indent with
        class? := some ⟨before.symbols.length, indent⟩ } := by
  let before := scan.settle lines
  let s := classSymbol number header
  let next := (before.export s.name indent).push s
  have pushed : next = before.withSymbol s indent := push_export before s indent
  change ({ next with class? := some ⟨next.symbols.length - 1, indent⟩ } : Scan) = _
  rw [pushed, length_withSymbol]

/-- What a line does that is not blank, its imports apart. -/
def Scan.content (scan : Scan) (lines : List (List Char)) (number : Nat) (line : List Char) :
    Scan :=
  match functionHeader.matchStart? line, classHeader.matchStart? line with
  | some header, _ => scan.beginFunction lines number (indentOf line) header
  | none, some header => scan.beginClass lines number (indentOf line) header
  | none, none => scan.plain lines (indentOf line)

def Scan.withImports (scan : Scan) (line : List Char) : Scan :=
  { scan with
    imports := addNames scan.imports
      ((importedModules (Text.trimStart line)).map String.ofList) }

def isBlankLine (line : List Char) : Bool := line.all Text.isBlank

lemma isEmpty_trimStart (line : List Char) : (Text.trimStart line).isEmpty = isBlankLine line := by
  rw [Bool.eq_iff_iff, List.isEmpty_iff, Text.trimStart, List.dropWhile_eq_nil_iff, isBlankLine,
    List.all_eq_true]

lemma line_eq (scan : Scan) (lines : List (List Char)) (number : Nat) (line : List Char) :
    scan.line lines number line =
      if isBlankLine line then scan
      else { (scan.withImports line).content lines number line with lastLine := number } := by
  rw [← isEmpty_trimStart]
  rfl

/-- Closing a definition changes nothing but the definitions. -/
lemma close_eq (scan : Scan) (lines : List (List Char)) (slot : Option Open) :
    scan.close lines slot = { scan with symbols := (scan.close lines slot).symbols } := by
  cases slot <;> rfl

@[simp] lemma lastLine_closeFunction : (scan.closeFunction all).lastLine = scan.lastLine := by
  rw [Scan.closeFunction, close_eq]

@[simp] lemma class?_closeFunction : (scan.closeFunction all).class? = scan.class? := by
  rw [Scan.closeFunction, close_eq]

lemma function?_settle : (scan.settle all).function? = none := by
  rw [Scan.settle, Scan.closeClass, close_eq]
  rfl

/-- A method stands in a class. -/
lemma functionKind_spec (inClass : Bool) (name : String) (isAsync : Bool) :
    functionKind inClass name isAsync ≠ .classDef ∧
      (functionKind inClass name isAsync = .method ∨
        functionKind inClass name isAsync = .constructor → inClass = true) := by
  unfold functionKind
  split_ifs <;> simp_all

/-! ## Headers -/

/-- Whether a line is the header of a class, or of a function, if it is the header of either. -/
def header? (line : List Char) : Option Bool :=
  if isBlankLine line then none
  else
    match functionHeader.matchStart? line, classHeader.matchStart? line with
    | some _, _ => some false
    | none, some _ => some true
    | none, none => none

/-- The numbers of the lines that are headers, with whether they are headers of classes. -/
def headers : (number : Nat) → List (List Char) → List (Nat × Bool)
  | _, [] => []
  | number, line :: rest =>
      ((header? line).map fun isClass => (number, isClass)).toList ++ headers (number + 1) rest

/-- The headers of definitions. -/
def headersOf (symbols : List CodeSymbol) : List (Nat × Bool) :=
  symbols.map fun s => (s.startLine, s.isClass)

lemma headersOf_close (slot : Option Open) :
    headersOf (scan.close all slot).symbols = headersOf scan.symbols := by
  cases slot with
  | none => rfl
  | some o =>
    apply List.ext_getElem?
    intro i
    simp only [headersOf, Scan.close, List.getElem?_map, List.getElem?_modify, Option.map_eq_map,
      Option.map_map]
    congr 1
    funext s
    simp only [Function.comp]
    split_ifs <;> rfl

lemma headersOf_closeFunction :
    headersOf (scan.closeFunction all).symbols = headersOf scan.symbols :=
  headersOf_close scan.function?

lemma headersOf_settle : headersOf (scan.settle all).symbols = headersOf scan.symbols :=
  (headersOf_close (scan.closeFunction all).class?).trans headersOf_closeFunction

lemma headersOf_clear (indent : Nat) :
    headersOf (scan.clear all indent).symbols = headersOf scan.symbols := by
  unfold Scan.clear
  split_ifs
  · exact headersOf_settle
  · exact headersOf_closeFunction

lemma headersOf_withSymbol (s : CodeSymbol) (indent : Nat) :
    headersOf (scan.withSymbol s indent).symbols =
      headersOf scan.symbols ++ [(s.startLine, s.isClass)] := by
  rw [Scan.withSymbol, headersOf, List.map_append]
  rfl

lemma isClass_functionSymbol (inClass : Bool) (number : Nat) (header : Pattern.Spot) :
    (functionSymbol inClass number header).isClass = false :=
  decide_eq_false (functionKind_spec inClass _ _).1

lemma headersOf_plain (indent : Nat) :
    headersOf (scan.plain all indent).symbols = headersOf scan.symbols := by
  unfold Scan.plain
  split_ifs
  · exact headersOf_settle
  · split
    · split_ifs
      · exact headersOf_closeFunction
      · rfl
    · rfl

/-- A line adds a definition if it is a header, and changes the header of none. -/
lemma headersOf_line (number : Nat) (line : List Char) :
    headersOf (scan.line all number line).symbols = headersOf scan.symbols ++
      ((header? line).map fun isClass => (number, isClass)).toList := by
  rw [line_eq, header?]
  split_ifs
  · exact (List.append_nil _).symm
  · unfold Scan.content
    cases function : functionHeader.matchStart? line with
    | some header =>
      dsimp only
      rw [beginFunction_eq]
      dsimp only
      rw [headersOf_withSymbol, headersOf_clear, isClass_functionSymbol]
      rfl
    | none =>
      cases around : classHeader.matchStart? line with
      | some header =>
        dsimp only
        rw [beginClass_eq]
        dsimp only
        rw [headersOf_withSymbol, headersOf_settle]
        rfl
      | none =>
        dsimp only
        rw [headersOf_plain]
        exact (List.append_nil _).symm

lemma headersOf_lines (number : Nat) (rest : List (List Char)) :
    headersOf (Scan.lines all number rest scan).symbols =
      headersOf scan.symbols ++ headers number rest := by
  induction rest generalizing number scan with
  | nil => exact (List.append_nil _).symm
  | cons line rest ih => rw [Scan.lines, ih, headersOf_line, headers, List.append_assoc]

/-- Definitions in the lines of a source: where they begin, which of them overlap and in which one
another stands, and what is kept of their code. -/
structure AreNested (lines : List (List Char)) (symbols : List CodeSymbol) : Prop where
  headers : headersOf symbols = headers 1 lines
  begins : symbols.Pairwise (·.startLine < ·.startLine)
  functions : (symbols.filter (·.kind ≠ .classDef)).Pairwise fun s t => s.span ∩ t.span = ∅
  classes : (symbols.filter (·.kind = .classDef)).Pairwise fun s t => s.span ∩ t.span = ∅
  methods : ∀ s ∈ symbols, s.kind = .method ∨ s.kind = .constructor →
    ∃! c, c ∈ symbols ∧ c.kind = .classDef ∧ s.span ⊆ c.span
  fits : ∀ s ∈ symbols, s.Fits lines.length
  closed : ∀ s ∈ symbols, s.IsClosed lines

/-! ## Order -/

/-- Each definition begins after those before it, and after the end of those of its sort, a class or
none; the ends are not beyond a last line. -/
structure IsOrdered (last : Nat) (symbols : List CodeSymbol) : Prop where
  begins : ∀ (i j : Nat) (s t : CodeSymbol), i < j → symbols[i]? = some s → symbols[j]? = some t →
    s.startLine < t.startLine
  apart : ∀ (i j : Nat) (s t : CodeSymbol), i < j → symbols[i]? = some s → symbols[j]? = some t →
    s.isClass = t.isClass → s.endLine < t.startLine
  ends : ∀ (i : Nat) (s : CodeSymbol), symbols[i]? = some s →
    s.startLine ≤ s.endLine ∧ s.endLine ≤ last

/-- The definition that is open in a slot is the `i`-th one. -/
def StandsAt (slot : Option Open) (i : Nat) : Prop := slot.map Open.index = some i

instance : Decidable (StandsAt slot i) := inferInstanceAs (Decidable (_ = _))

@[simp] lemma not_standsAt_none : ¬ StandsAt none i := nofun

/-- The `i`-th definition is the last of its sort. -/
structure IsLatest (symbols : List CodeSymbol) (isClass : Bool) (i : Nat) : Prop where
  there : ∃ s, symbols[i]? = some s ∧ s.isClass = isClass
  last : ∀ j t, i < j → symbols[j]? = some t → t.isClass ≠ isClass

lemma IsLatest.isClass_eq (h : IsLatest symbols isClass i) (there : symbols[i]? = some s) :
    s.isClass = isClass := by
  obtain ⟨t, same, sort⟩ := h.there
  cases there.symm.trans same
  exact sort

/-- Definitions up to a last line, of which those in the slots are open. All others are closed, and
a method that is closed ends before its class if that is closed as well. -/
structure Nests (all : List (List Char)) (last : Nat) (symbols : List CodeSymbol)
    (function? class? : Option Open) : Prop extends IsOrdered last symbols where
  function : ∀ i, StandsAt function? i → IsLatest symbols false i
  around : ∀ i, StandsAt class? i → IsLatest symbols true i
  closed : ∀ i s, symbols[i]? = some s → ¬ StandsAt function? i → ¬ StandsAt class? i →
    s.IsClosed all
  /-- A method has a class in front, which is still open or ends no earlier than the method. -/
  members : ∀ i s, symbols[i]? = some s → s.isMember = true →
    ∃ j c, j < i ∧ symbols[j]? = some c ∧ c.isClass = true ∧
      (StandsAt class? j ∨ ¬ StandsAt function? i ∧ s.endLine ≤ c.endLine)

/-- What was found so far, up to a last line, is nested. -/
abbrev Scan.IsNested (all : List (List Char)) (last : Nat) (scan : Scan) : Prop :=
  Nests all last scan.symbols scan.function? scan.class?

/-! ## Closing -/

/-- What closing a slot makes of the `i`-th definition. -/
def patch (all : List (List Char)) (last : Nat) (slot : Option Open) (i : Nat) (s : CodeSymbol) :
    CodeSymbol :=
  if StandsAt slot i then finish all last s else s

lemma patch_of_standsAt (h : StandsAt slot i) : patch all last slot i s = finish all last s :=
  if_pos h

lemma patch_of_not_standsAt (h : ¬ StandsAt slot i) : patch all last slot i s = s := if_neg h

@[simp] lemma patch_startLine : (patch all last slot i s).startLine = s.startLine := by
  unfold patch
  split_ifs <;> rfl

@[simp] lemma patch_isClass : (patch all last slot i s).isClass = s.isClass := by
  unfold patch
  split_ifs <;> rfl

@[simp] lemma patch_isMember : (patch all last slot i s).isMember = s.isMember := by
  unfold patch
  split_ifs <;> rfl

lemma getElem?_close (slot : Option Open) (i : Nat) :
    (scan.close all slot).symbols[i]? =
      scan.symbols[i]?.map (patch all scan.lastLine slot i) := by
  cases slot with
  | none =>
    have same : patch all scan.lastLine none i = id := funext fun _ => rfl
    rw [same, Option.map_id_fun, Scan.close, id]
  | some o =>
    have same : patch all scan.lastLine (some o) i =
        fun s => if o.index = i then finish all scan.lastLine s else s := by
      funext s
      simp only [patch, StandsAt, Option.map_some, Option.some.injEq]
    rw [same, Scan.close, List.getElem?_modify, Option.map_eq_map]

lemma of_getElem?_close (there : (scan.close all slot).symbols[i]? = some t) :
    ∃ s, scan.symbols[i]? = some s ∧ patch all scan.lastLine slot i s = t := by
  rw [getElem?_close] at there
  exact Option.map_eq_some_iff.1 there

lemma isClosed_finish (all : List (List Char)) (last : Nat) (s : CodeSymbol) :
    (finish all last s).IsClosed all := by
  unfold CodeSymbol.IsClosed finish
  rw [List.drop_take]

/-- A definition begins on a line that was read, so it is closed on the last one. -/
lemma IsOrdered.endLine_finish (h : IsOrdered last symbols) (there : symbols[i]? = some s) :
    (finish all last s).endLine = last :=
  Nat.max_eq_left (Nat.le_trans (h.ends i s there).1 (h.ends i s there).2)

lemma IsOrdered.endLine_patch (h : IsOrdered last symbols) (there : symbols[i]? = some s) :
    s.endLine ≤ (patch all last slot i s).endLine ∧ (patch all last slot i s).endLine ≤ last := by
  have bounds := h.ends i s there
  unfold patch
  split_ifs
  · rw [h.endLine_finish there]
    exact ⟨bounds.2, Nat.le_refl last⟩
  · exact ⟨Nat.le_refl _, bounds.2⟩

/-- The definition that is closed is the last of its sort, so nothing begins before its new end. -/
lemma IsOrdered.close (h : IsOrdered scan.lastLine scan.symbols)
    (latest : ∀ i, StandsAt slot i → IsLatest scan.symbols isClass i) :
    IsOrdered scan.lastLine (scan.close all slot).symbols where
  begins i j s t before first second := by
    obtain ⟨s, one, rfl⟩ := of_getElem?_close first
    obtain ⟨t, two, rfl⟩ := of_getElem?_close second
    rw [patch_startLine, patch_startLine]
    exact h.begins i j s t before one two
  apart i j s t before first second same := by
    obtain ⟨s, one, rfl⟩ := of_getElem?_close first
    obtain ⟨t, two, rfl⟩ := of_getElem?_close second
    rw [patch_isClass, patch_isClass] at same
    rw [patch_startLine]
    by_cases here : StandsAt slot i
    · have sort := (latest i here).isClass_eq one
      exact absurd (same.symm.trans sort) ((latest i here).last j t before two)
    · rw [patch_of_not_standsAt here]
      exact h.apart i j s t before one two same
  ends i s there := by
    obtain ⟨s, old, rfl⟩ := of_getElem?_close there
    have later : s.endLine ≤ (patch all scan.lastLine slot i s).endLine ∧
        (patch all scan.lastLine slot i s).endLine ≤ scan.lastLine := h.endLine_patch old
    rw [patch_startLine]
    exact ⟨Nat.le_trans (h.ends i s old).1 later.1, later.2⟩

lemma IsLatest.close (h : IsLatest scan.symbols isClass i) (slot : Option Open) :
    IsLatest (scan.close all slot).symbols isClass i := by
  obtain ⟨s, there, sort⟩ := h.there
  refine ⟨⟨patch all scan.lastLine slot i s, ?_, ?_⟩, fun j t after found => ?_⟩
  · rw [getElem?_close, there, Option.map_some]
  · rw [patch_isClass, sort]
  · obtain ⟨t, old, rfl⟩ := of_getElem?_close found
    rw [patch_isClass]
    exact h.last j t after old

/-- What was open in no other slot is closed now. -/
lemma isClosed_patch (h : ¬ StandsAt slot i → s.IsClosed all) :
    (patch all last slot i s).IsClosed all := by
  by_cases here : StandsAt slot i
  · rw [patch_of_standsAt here]
    exact isClosed_finish all last s
  · rw [patch_of_not_standsAt here]
    exact h here

namespace Nests

lemma start : Nests all 0 [] none none where
  begins _ _ _ _ _ there := by simp at there
  apart _ _ _ _ _ there := by simp at there
  ends _ _ there := by simp at there
  function _ here := absurd here not_standsAt_none
  around _ here := absurd here not_standsAt_none
  closed _ _ there := by simp at there
  members _ _ there := by simp at there

lemma mono {next : Nat} (h : Nests all last symbols function? class?) (le : last ≤ next) :
    Nests all next symbols function? class? :=
  { h with ends := fun i s there => ⟨(h.ends i s there).1, Nat.le_trans (h.ends i s there).2 le⟩ }

/-- A method that is closed ends no later than the other lines of its class. -/
lemma closeFunction (h : scan.IsNested all scan.lastLine) :
    Nests all scan.lastLine (scan.closeFunction all).symbols none scan.class? where
  toIsOrdered := h.toIsOrdered.close h.function
  function _ here := absurd here not_standsAt_none
  around i here := (h.around i here).close scan.function?
  closed i t there _ outside := by
    obtain ⟨s, old, rfl⟩ := of_getElem?_close there
    exact isClosed_patch fun shut => h.closed i s old shut outside
  members i t there member := by
    obtain ⟨s, old, rfl⟩ := of_getElem?_close there
    rw [patch_isMember] at member
    obtain ⟨j, c, before, outer, sort, inside⟩ := h.members i s old member
    refine ⟨j, patch all scan.lastLine scan.function? j c, before, ?_, ?_, ?_⟩
    · exact (getElem?_close scan.function? j).trans (congrArg _ outer)
    · rw [patch_isClass, sort]
    · refine inside.imp_right fun ⟨shut, le⟩ => ⟨not_standsAt_none, ?_⟩
      rw [patch_of_not_standsAt shut]
      exact Nat.le_trans le (h.toIsOrdered.endLine_patch outer).1

/-- While no function is open, all methods in the open class are closed. -/
lemma closeClass (h : Nests all scan.lastLine scan.symbols none scan.class?) :
    Nests all scan.lastLine (scan.closeClass all).symbols none none where
  toIsOrdered := h.toIsOrdered.close h.around
  function _ here := absurd here not_standsAt_none
  around _ here := absurd here not_standsAt_none
  closed i t there _ _ := by
    obtain ⟨s, old, rfl⟩ := of_getElem?_close there
    exact isClosed_patch fun shut => h.closed i s old not_standsAt_none shut
  members i t there member := by
    obtain ⟨s, old, rfl⟩ := of_getElem?_close there
    rw [patch_isMember] at member
    obtain ⟨j, c, before, outer, sort, inside⟩ := h.members i s old member
    refine ⟨j, patch all scan.lastLine scan.class? j c, before, ?_, ?_, ?_⟩
    · exact (getElem?_close scan.class? j).trans (congrArg _ outer)
    · rw [patch_isClass, sort]
    · rcases inside with here | ⟨-, le⟩
      · rw [patch_of_standsAt here, h.endLine_finish outer]
        exact .inr ⟨not_standsAt_none, (h.endLine_patch old).2⟩
      · have inner : ¬ StandsAt scan.class? i := fun here =>
          isClass_ne_of_isMember member ((h.around i here).isClass_eq old)
        rw [patch_of_not_standsAt inner]
        exact .inr ⟨not_standsAt_none, Nat.le_trans le (h.endLine_patch outer).1⟩

end Nests

/-! ## Beginning -/

lemma of_getElem?_concat {α : Type} {l : List α} {a b : α} (h : (l ++ [a])[i]? = some b) :
    l[i]? = some b ∨ i = l.length ∧ b = a := by
  rcases Nat.lt_or_ge i l.length with old | new
  · rw [List.getElem?_append_left old] at h
    exact .inl h
  · rw [List.getElem?_append_right new, List.getElem?_singleton] at h
    split_ifs at h
    cases h
    exact .inr ⟨by omega, rfl⟩

/-- Of two members the first one was there before. -/
lemma of_getElem?_concat_pair {α : Type} {l : List α} {a b c : α} (before : i < j)
    (first : (l ++ [a])[i]? = some b) (second : (l ++ [a])[j]? = some c) :
    l[i]? = some b ∧ (l[j]? = some c ∨ c = a) := by
  have bound := (List.getElem?_eq_some_iff.1 second).1
  rw [List.length_append, List.length_singleton] at bound
  rw [List.getElem?_append_left (by omega)] at first
  exact ⟨first, (of_getElem?_concat second).imp_right And.right⟩

lemma getElem?_concat {α : Type} {l : List α} {a : α} {i : Nat} (b : α) (h : l[i]? = some a) :
    (l ++ [b])[i]? = some a := by
  rw [List.getElem?_append_left (List.getElem?_eq_some_iff.1 h).1, h]

/-- A symbol that begins, and for now ends, on a line further on. -/
lemma IsOrdered.push (h : IsOrdered last symbols) (begins : s.startLine = number)
    (ends : s.endLine = number) (later : last < number) : IsOrdered number (symbols ++ [s]) where
  begins i j t u before first second := by
    obtain ⟨old, there | rfl⟩ := of_getElem?_concat_pair before first second
    · exact h.begins i j t u before old there
    · have := h.ends i t old
      omega
  apart i j t u before first second same := by
    obtain ⟨old, there | rfl⟩ := of_getElem?_concat_pair before first second
    · exact h.apart i j t u before old there same
    · have := h.ends i t old
      omega
  ends i t there := by
    rcases of_getElem?_concat there with there | ⟨-, rfl⟩
    · have := h.ends i t there
      omega
    · omega

/-- What is found is the last of its sort. -/
lemma isLatest_push (sort : s.isClass = isClass) :
    IsLatest (symbols ++ [s]) isClass symbols.length where
  there := ⟨s, List.getElem?_concat_length, sort⟩
  last j t after there := by
    have bound := (List.getElem?_eq_some_iff.1 there).1
    rw [List.length_append, List.length_singleton] at bound
    omega

lemma IsLatest.push (h : IsLatest symbols isClass i) (other : s.isClass ≠ isClass) :
    IsLatest (symbols ++ [s]) isClass i where
  there := by
    obtain ⟨t, there, sort⟩ := h.there
    exact ⟨t, getElem?_concat s there, sort⟩
  last j t after there := by
    rcases of_getElem?_concat there with old | ⟨-, rfl⟩
    · exact h.last j t after old
    · exact other

namespace Nests

/-- A function begins while none is open; a method begins in the open class. -/
lemma pushFunction (h : Nests all last symbols none class?) (begins : s.startLine = number)
    (ends : s.endLine = number) (later : last < number) (sort : s.isClass = false)
    (inside : s.isMember = true → ∃ i, StandsAt class? i) (indent : Nat) :
    Nests all number (symbols ++ [s]) (some ⟨symbols.length, indent⟩) class? where
  toIsOrdered := h.toIsOrdered.push begins ends later
  function i here := by
    cases Option.some.inj here
    exact isLatest_push sort
  around i here := (h.around i here).push (by simp [sort])
  closed i t there shut outside := by
    rcases of_getElem?_concat there with old | ⟨rfl, -⟩
    · exact h.closed i t old not_standsAt_none outside
    · exact absurd rfl shut
  members i t there member := by
    rcases of_getElem?_concat there with old | ⟨rfl, rfl⟩
    · obtain ⟨j, c, before, outer, isClass, around⟩ := h.members i t old member
      have bound := (List.getElem?_eq_some_iff.1 old).1
      refine ⟨j, c, before, getElem?_concat s outer, isClass, around.imp_right fun closed => ?_⟩
      refine ⟨fun here => ?_, closed.2⟩
      cases Option.some.inj here
      exact absurd bound (Nat.lt_irrefl _)
    · obtain ⟨j, here⟩ := inside member
      obtain ⟨c, outer, isClass⟩ := (h.around j here).there
      have bound := (List.getElem?_eq_some_iff.1 outer).1
      exact ⟨j, c, bound, getElem?_concat t outer, isClass, .inl here⟩

/-- A class begins while nothing is open. -/
lemma pushClass (h : Nests all last symbols none none) (begins : s.startLine = number)
    (ends : s.endLine = number) (later : last < number) (sort : s.isClass = true) (indent : Nat) :
    Nests all number (symbols ++ [s]) none (some ⟨symbols.length, indent⟩) where
  toIsOrdered := h.toIsOrdered.push begins ends later
  function _ here := absurd here not_standsAt_none
  around i here := by
    cases Option.some.inj here
    exact isLatest_push sort
  closed i t there _ outside := by
    rcases of_getElem?_concat there with old | ⟨rfl, -⟩
    · exact h.closed i t old not_standsAt_none not_standsAt_none
    · exact absurd rfl outside
  members i t there member := by
    rcases of_getElem?_concat there with old | ⟨-, rfl⟩
    · obtain ⟨j, c, before, outer, isClass, around⟩ := h.members i t old member
      refine ⟨j, c, before, getElem?_concat s outer, isClass, .inr ⟨not_standsAt_none, ?_⟩⟩
      exact (around.resolve_left not_standsAt_none).2
    · exact absurd sort (isClass_ne_of_isMember member)

/-! ## Reading -/

lemma settle (h : scan.IsNested all scan.lastLine) :
    Nests all scan.lastLine (scan.settle all).symbols none none := by
  have shut : (scan.closeFunction all).IsNested all (scan.closeFunction all).lastLine := by
    rw [lastLine_closeFunction, Scan.IsNested, class?_closeFunction]
    exact h.closeFunction
  have done := shut.closeClass
  rw [lastLine_closeFunction] at done
  exact done

lemma clear (h : scan.IsNested all scan.lastLine) (indent : Nat) :
    Nests all scan.lastLine (scan.clear all indent).symbols none
      (scan.clear all indent).class? := by
  unfold Scan.clear
  split_ifs
  · exact h.settle
  · rw [class?_closeFunction]
    exact h.closeFunction

lemma standsAt_of_isMember {indent : Nat} {header : Pattern.Spot}
    (h : (functionSymbol (scan.surrounds indent) number header).isMember = true) :
    ∃ i, StandsAt scan.class? i := by
  have inside : scan.surrounds indent = true :=
    (functionKind_spec _ _ _).2 (of_decide_eq_true h)
  cases slot : scan.class? with
  | some c => exact ⟨c.index, rfl⟩
  | none =>
    rw [Scan.surrounds, slot] at inside
    cases inside

/-- A function closes the one before it, and at column zero also the class. -/
lemma beginFunction (h : scan.IsNested all scan.lastLine) (later : scan.lastLine < number)
    (indent : Nat) (header : Pattern.Spot) :
    (scan.beginFunction all number indent header).IsNested all number := by
  rw [beginFunction_eq]
  have before := h.clear indent
  exact before.pushFunction (s := functionSymbol _ number header) rfl rfl later
    (isClass_functionSymbol _ number header) standsAt_of_isMember indent

/-- A class closes whatever is open. -/
lemma beginClass (h : scan.IsNested all scan.lastLine) (later : scan.lastLine < number)
    (indent : Nat) (header : Pattern.Spot) :
    (scan.beginClass all number indent header).IsNested all number := by
  rw [beginClass_eq, Scan.IsNested]
  dsimp only [Scan.withSymbol]
  rw [function?_settle]
  have before := h.settle
  exact before.pushClass (s := classSymbol number header) rfl rfl later rfl indent

lemma plain (h : scan.IsNested all scan.lastLine) (indent : Nat) :
    (scan.plain all indent).IsNested all scan.lastLine := by
  unfold Scan.plain
  split_ifs
  · rw [← Scan.settle, Scan.IsNested, function?_settle]
    exact h.settle
  · split
    · split_ifs
      · rw [Scan.IsNested, class?_closeFunction]
        exact h.closeFunction
      · exact h
    · exact h

lemma content (h : scan.IsNested all scan.lastLine) (later : scan.lastLine < number)
    (line : List Char) : (scan.content all number line).IsNested all number := by
  unfold Scan.content
  split
  · exact h.beginFunction later _ _
  · exact h.beginClass later _ _
  · exact (h.plain _).mono later.le

/-- One line further. -/
lemma line (h : scan.IsNested all scan.lastLine) (later : scan.lastLine < number)
    (line : List Char) :
    (scan.line all number line).IsNested all (scan.line all number line).lastLine ∧
      (scan.line all number line).lastLine < number + 1 := by
  rw [line_eq]
  split_ifs
  · exact ⟨h, Nat.lt_succ_of_lt later⟩
  · have imported : (scan.withImports line).IsNested all (scan.withImports line).lastLine := h
    exact ⟨imported.content later line, Nat.lt_succ_self number⟩

lemma lines (h : scan.IsNested all scan.lastLine) (later : scan.lastLine < number)
    (rest : List (List Char)) :
    (Scan.lines all number rest scan).IsNested all (Scan.lines all number rest scan).lastLine := by
  induction rest generalizing number scan with
  | nil => exact h
  | cons line rest ih =>
    obtain ⟨next, later⟩ := h.line later line
    exact ih next later

end Nests

/-! ## All sources -/

/-- Nothing is open at the end. -/
lemma outline_nested (source : List Char) :
    ∃ last, Nests (Text.lines source) last (outline source).symbols none none := by
  have start : Scan.start.IsNested (Text.lines source) Scan.start.lastLine := Nests.start
  exact ⟨_, (start.lines Nat.one_pos (Text.lines source)).settle⟩

namespace Nests

lemma pairwise_startLine (h : Nests all last symbols none none) :
    symbols.Pairwise (·.startLine < ·.startLine) := by
  rw [List.pairwise_iff_getElem]
  intro i j first second before
  exact h.begins i j _ _ before (List.getElem?_eq_getElem first) (List.getElem?_eq_getElem second)

lemma pairwise_inter_eq_empty (h : Nests all last symbols none none) (isClass : Bool) :
    (symbols.filter (·.isClass = isClass)).Pairwise fun s t => s.span ∩ t.span = ∅ := by
  rw [List.pairwise_filter, List.pairwise_iff_getElem]
  intro i j first second before sort same
  apply span_inter_eq_empty
  apply h.apart i j _ _ before (List.getElem?_eq_getElem first) (List.getElem?_eq_getElem second)
  exact (of_decide_eq_true sort).trans (of_decide_eq_true same).symm

/-- A method stands in the class in which it began, and in no other one. -/
lemma existsUnique_class (h : Nests all last symbols none none) (mem : s ∈ symbols)
    (member : s.isMember = true) :
    ∃! c, c ∈ symbols ∧ c.isClass = true ∧ s.span ⊆ c.span := by
  obtain ⟨i, there⟩ := List.mem_iff_getElem?.1 mem
  obtain ⟨j, c, before, outer, isClass, inside⟩ := h.members i s there member
  have le := (inside.resolve_left not_standsAt_none).2
  have subset : s.span ⊆ c.span :=
    Set.Icc_subset_Icc (h.begins j i c s before outer there).le le
  refine ⟨c, ⟨List.mem_of_getElem? outer, isClass, subset⟩, ?_⟩
  rintro d ⟨other, sort, around⟩
  obtain ⟨k, other⟩ := List.mem_iff_getElem?.1 other
  -- the first line of the method is on both classes
  have line : s.startLine ∈ s.span := ⟨Nat.le_refl _, (h.ends i s there).1⟩
  have first := around line
  have second := subset line
  rcases Nat.lt_trichotomy j k with lt | rfl | lt
  · have apart := h.apart j k c d lt outer other (isClass.trans sort.symm)
    exact absurd (span_inter_eq_empty apart) (Set.Nonempty.ne_empty ⟨_, second, first⟩)
  · exact Option.some.inj (other.symm.trans outer)
  · have apart := h.apart k j d c lt other outer (sort.trans isClass.symm)
    exact absurd (span_inter_eq_empty apart) (Set.Nonempty.ne_empty ⟨_, first, second⟩)

end Nests

/-- In every source the headers are those of the definitions, which begin one after the other;
neither functions nor classes overlap, a method stands in exactly one class, and each definition is
closed. -/
theorem outline_nests (source : List Char) :
    AreNested (Text.lines source) (outline source).symbols := by
  obtain ⟨last, nests⟩ := outline_nested source
  have found : headersOf (outline source).symbols = headers 1 (Text.lines source) :=
    headersOf_settle.trans (headersOf_lines 1 (Text.lines source))
  refine ⟨found, nests.pairwise_startLine, ?_, ?_, fun s mem member => ?_, outline_fits source,
    fun s mem => ?_⟩
  · simpa [CodeSymbol.isClass] using nests.pairwise_inter_eq_empty false
  · simpa [CodeSymbol.isClass] using nests.pairwise_inter_eq_empty true
  · simpa [CodeSymbol.isClass] using nests.existsUnique_class mem (decide_eq_true member)
  · obtain ⟨i, there⟩ := List.mem_iff_getElem?.1 mem
    exact nests.closed i s there not_standsAt_none not_standsAt_none

/-- A class reaches around its methods and ends with the last of them. -/
example : (outline "class A:\n  def f(self):\n    g()\ndef h(): pass".toList).symbols.map
    (fun s => (s.kind, s.startLine, s.endLine)) =
      [(.classDef, 1, 3), (.method, 2, 3), (.function, 4, 4)] := by decide +kernel

end Outline.Indented

end CodeAtlas
