import CodeAtlas.Outline.Strategy
import Mathlib.Tactic.Lemma
import Mathlib.Tactic.SplitIfs

/-! # Where symbols stand

Whichever way a source is read, its symbols stand on its lines, and what they keep of the code is
short. The ways agree on what a line is: an outline by line patterns and one by indentation count
the pieces between newlines, an outline of a syntax tree the newlines before a place. -/
namespace CodeAtlas

/-- A symbol stands on the lines of a source with so many of them, and its excerpt is short. -/
structure CodeSymbol.Fits (lineCount : Nat) (s : CodeSymbol) : Prop where
  first : 1 ≤ s.startLine
  forward : s.startLine ≤ s.endLine
  last : s.endLine ≤ lineCount
  short : s.code.toList.length ≤ 500

lemma CodeSymbol.Fits.mono {m n : Nat} {s : CodeSymbol} (h : s.Fits m) (le : m ≤ n) : s.Fits n :=
  { h with last := Nat.le_trans h.last le }

namespace Outline

variable {n : Nat} {s : CodeSymbol} {source : List Char}

/-! ## Syntax trees -/

lemma Script.lineOf_le (source : List Char) (place : Nat) :
    lineOf source place ≤ (Text.lines source).length := by
  rw [lineOf, Text.lines, Text.length_cut]
  exact Nat.add_le_add_right ((List.take_sublist place source).count_le '\n') 1

/-- A node begins before it ends, so its first line is not after its last one. -/
lemma Script.symbolOf_fits (exports : List String) (c : Candidate) :
    (symbolOf source exports c).Fits (Text.lines source).length where
  first := Nat.le_add_left 1 _
  forward := lineOf_mono source c.node.span.start_le_stop
  last := lineOf_le source c.node.span.stop
  short := length_excerpt_le _

lemma Script.outlineOf_fits (tree : Node) :
    ∀ s ∈ (outlineOf source tree).symbols, s.Fits (Text.lines source).length := by
  intro s mem
  obtain ⟨c, -, rfl⟩ := List.mem_map.1 mem
  exact symbolOf_fits _ c

/-! ## Line patterns -/

lemma Generic.lineSymbol_fits (name : String) (line : List Char) :
    (lineSymbol name (n + 1) line).Fits (n + 1) :=
  ⟨Nat.le_add_left 1 n, Nat.le_refl _, Nat.le_refl _, length_excerpt_le _⟩

lemma Generic.ofLines_fits (rest : List (List Char)) {found : Outline}
    (h : ∀ s ∈ found.symbols, s.Fits n) :
    ∀ s ∈ (ofLines (n + 1) rest found).symbols, s.Fits (n + rest.length) := by
  induction rest generalizing n found with
  | nil => exact h
  | cons line rest ih =>
    rw [List.length_cons, Nat.add_comm rest.length, ← Nat.add_assoc]
    refine ih fun s mem => ?_
    dsimp only at mem
    split at mem
    · rcases List.mem_append.1 mem with old | new
      · exact (h s old).mono (Nat.le_succ n)
      · cases List.mem_singleton.1 new
        exact lineSymbol_fits _ line
    · exact (h s mem).mono (Nat.le_succ n)

lemma Generic.outline_fits (source : List Char) :
    ∀ s ∈ (outline source).symbols, s.Fits (Text.lines source).length := by
  have nothing : ∀ s ∈ empty.symbols, s.Fits 0 := fun _ mem => nomatch mem
  rw [← Nat.zero_add (Text.lines source).length]
  exact ofLines_fits (Text.lines source) nothing

/-! ## Indentation -/

namespace Indented

variable {all : List (List Char)} {scan : Scan}

/-- So many lines have been passed: the definitions that were found, and the last line that was not
blank, are among them. -/
structure Scan.Within (n : Nat) (scan : Scan) : Prop where
  lastLine : scan.lastLine ≤ n
  symbols : ∀ s ∈ scan.symbols, s.Fits n

/-- The end of a definition is patched in when it is closed; it is not before its beginning. -/
lemma fits_finish {lastLine : Nat} (h : s.Fits n) (le : lastLine ≤ n) :
    (finish all lastLine s).Fits n where
  first := h.first
  forward := Nat.le_max_right _ _
  last := Nat.max_le.2 ⟨le, Nat.le_trans h.forward h.last⟩
  short := length_excerpt_le _

/-- A definition begins on the line that is read, and has no code yet. -/
lemma fits_header (first : s.startLine = n + 1) (last : s.endLine = n + 1) (bare : s.code = "") :
    s.Fits (n + 1) where
  first := first ▸ Nat.le_add_left 1 n
  forward := Nat.le_of_eq (first.trans last.symm)
  last := Nat.le_of_eq last
  short := by rw [bare]; exact Nat.zero_le _

lemma mem_modify {α : Type} {f : α → α} {i : Nat} {l : List α} {a : α} (h : a ∈ l.modify i f) :
    a ∈ l ∨ ∃ b ∈ l, a = f b := by
  obtain ⟨j, there⟩ := List.mem_iff_getElem?.1 h
  simp only [List.getElem?_modify, Option.map_eq_map, Option.map_eq_some_iff] at there
  obtain ⟨b, old, rfl⟩ := there
  have mem := List.mem_of_getElem? old
  split_ifs
  · exact .inr ⟨b, mem, rfl⟩
  · exact .inl mem

namespace Scan.Within

lemma start : Scan.start.Within 0 := ⟨Nat.le_refl 0, fun _ mem => nomatch mem⟩

lemma mono {m : Nat} (h : scan.Within m) (le : m ≤ n) : scan.Within n :=
  ⟨Nat.le_trans h.lastLine le, fun s mem => (h.symbols s mem).mono le⟩

/-- The lines that a definition would be closed with have all been passed, and are not none. -/
lemma body (h : scan.Within n) (mem : s ∈ scan.symbols) :
    1 ≤ s.startLine ∧ max scan.lastLine s.startLine ≤ n :=
  have fits := h.symbols s mem
  ⟨fits.first, Nat.max_le.2 ⟨h.lastLine, Nat.le_trans fits.forward fits.last⟩⟩

lemma close (h : scan.Within n) (slot : Option Open) : (scan.close all slot).Within n := by
  cases slot with
  | none => exact h
  | some o =>
    refine ⟨h.lastLine, fun s mem => ?_⟩
    rcases mem_modify mem with old | ⟨t, old, rfl⟩
    · exact h.symbols s old
    · exact fits_finish (h.symbols t old) h.lastLine

lemma closeFunction (h : scan.Within n) : (scan.closeFunction all).Within n :=
  ⟨(h.close scan.function?).lastLine, (h.close scan.function?).symbols⟩

lemma closeClass (h : scan.Within n) : (scan.closeClass all).Within n :=
  ⟨(h.close scan.class?).lastLine, (h.close scan.class?).symbols⟩

lemma exported (h : scan.Within n) (name : String) (indent : Nat) :
    (scan.export name indent).Within n := by
  unfold Scan.export
  split_ifs
  · exact ⟨h.lastLine, h.symbols⟩
  · exact h

lemma push (h : scan.Within n) (new : s.Fits n) : (scan.push s).Within n := by
  refine ⟨h.lastLine, fun t mem => ?_⟩
  rcases List.mem_append.1 mem with old | mem
  · exact h.symbols t old
  · cases List.mem_singleton.1 mem
    exact new

lemma beginFunction (h : scan.Within (n + 1)) (indent : Nat) (header : Pattern.Spot) :
    (scan.beginFunction all (n + 1) indent header).Within (n + 1) := by
  have closed : (if indent = 0 then (scan.closeFunction all).closeClass all
      else scan.closeFunction all).Within (n + 1) := by
    split_ifs
    · exact h.closeFunction.closeClass
    · exact h.closeFunction
  unfold Scan.beginFunction
  dsimp only
  generalize (if indent = 0 then _ else _ : Scan) = scan at closed ⊢
  have before := closed.exported (String.ofList (groupText header 3)) indent
  refine ⟨before.lastLine, (before.push ?_).symbols⟩
  exact fits_header rfl rfl rfl

lemma beginClass (h : scan.Within (n + 1)) (indent : Nat) (header : Pattern.Spot) :
    (scan.beginClass all (n + 1) indent header).Within (n + 1) := by
  have closed : ((scan.closeFunction all).closeClass all).Within (n + 1) :=
    h.closeFunction.closeClass
  have before := closed.exported (String.ofList (groupText header 2)) indent
  refine ⟨before.lastLine, (before.push ?_).symbols⟩
  exact fits_header rfl rfl rfl

lemma plain (h : scan.Within n) (indent : Nat) : (scan.plain all indent).Within n := by
  unfold Scan.plain
  split_ifs
  · exact h.closeFunction.closeClass
  · split
    · split_ifs
      · exact h.closeFunction
      · exact h
    · exact h

lemma withImports (h : scan.Within n) (imports : List String) :
    Scan.Within n { scan with imports := imports } :=
  ⟨h.lastLine, h.symbols⟩

/-- One line further. -/
lemma line (h : scan.Within n) (code : List Char) :
    (scan.line all (n + 1) code).Within (n + 1) := by
  have next := h.mono (Nat.le_succ n)
  unfold Scan.line
  dsimp only
  split_ifs
  · exact next
  · refine ⟨Nat.le_refl _, ?_⟩
    split
    · exact ((next.withImports _).beginFunction _ _).symbols
    · exact ((next.withImports _).beginClass _ _).symbols
    · exact ((next.withImports _).plain _).symbols

lemma lines (h : scan.Within n) (rest : List (List Char)) :
    (Scan.lines all (n + 1) rest scan).Within (n + rest.length) := by
  induction rest generalizing n scan with
  | nil => exact h
  | cons code rest ih =>
    rw [List.length_cons, Nat.add_comm rest.length, ← Nat.add_assoc]
    exact ih (h.line code)

/-- What holds from the start on, whatever lines are read. -/
lemma read (all lines : List (List Char)) :
    (Scan.lines all 1 lines .start).Within lines.length := by
  rw [← Nat.zero_add lines.length]
  exact start.lines lines

end Scan.Within

lemma outline_fits (source : List Char) :
    ∀ s ∈ (outline source).symbols, s.Fits (Text.lines source).length :=
  (Scan.Within.read _ _).closeFunction.closeClass.symbols

/-- Wherever the reading of a source stands, each definition that was found can be closed there with
lines of the source, and with one line at least. -/
lemma body_bounds (source : List Char) (count : Nat) :
    let scan := Scan.lines (Text.lines source) 1 ((Text.lines source).take count) .start
    ∀ s ∈ scan.symbols,
      1 ≤ s.startLine ∧ max scan.lastLine s.startLine ≤ (Text.lines source).length := by
  intro scan s mem
  exact ((Scan.Within.read _ _).mono (List.length_take_le' ..)).body mem

end Indented

/-! ## All sources -/

/-- The symbols of a source stand on its lines and have short excerpts, in every language, however a
script is parsed, and for any syntax tree over the source. While a source is read by indentation, a
definition that is closed takes lines of the source for its body, at least one. -/
theorem ofSource_fits (parse : Script.Parser) (language : Language) (path source : String) :
    (∀ s ∈ (ofSource parse language path source).symbols, s.Fits (Text.lineCount source)) ∧
    (∀ tree, ∀ s ∈ (Script.outlineOf source.toList tree).symbols,
      s.Fits (Text.lineCount source)) ∧
    ∀ count,
      let scan := Indented.Scan.lines (Text.lines source.toList) 1
        ((Text.lines source.toList).take count) .start
      ∀ s ∈ scan.symbols,
        1 ≤ s.startLine ∧ max scan.lastLine s.startLine ≤ Text.lineCount source := by
  refine ⟨?_, fun tree => Script.outlineOf_fits tree, Indented.body_bounds source.toList⟩
  unfold ofSource
  split
  · split
    · exact Script.outlineOf_fits _
    · simp [Outline.empty]
  · exact Indented.outline_fits _
  · exact Generic.outline_fits _

end Outline

end CodeAtlas
