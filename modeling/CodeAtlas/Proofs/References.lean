import CodeAtlas.Graph.Edges
import CodeAtlas.Proofs.Resolution
import Mathlib.Data.List.Forall2
import Mathlib.Data.List.Nodup

/-! # Edges and what they stand for

Each import of a file and each call of a symbol is drawn as one edge, in the order of the lists. In
which order the files are listed is of no account for where an edge leads. -/
namespace CodeAtlas.Graph

/-- A name by which a file or a symbol refers to something: an import or a call. -/
inductive Reference where
  | imported (file : StoredFile) (specifier : String)
  | called (symbol : StoredSymbol) (name : String)

namespace Reference

def kind : Reference → EdgeKind
  | imported _ _ => .imports
  | called _ _ => .call

def sourceKind : Reference → NodeKind
  | imported _ _ => .file
  | called _ _ => .function

def sourceId : Reference → Int
  | imported f _ => f.id
  | called y _ => y.id

def name : Reference → String
  | imported _ specifier => specifier
  | called _ name => name

lemma sourceKind_ne (r : Reference) : r.sourceKind ≠ .external := by
  cases r <;> simp [sourceKind]

end Reference

/-- All references, those of the files before those of the symbols. -/
def references (files : List StoredFile) (symbols : List StoredSymbol) : List Reference :=
  (files.flatMap fun f => f.imports.map (.imported f)) ++
    symbols.flatMap fun y => y.symbol.calls.map (.called y)

/-- The file that is listed at a path. -/
def fileAt (files : List StoredFile) (path : String) : Option Int :=
  (files.find? (·.file.path = path)).map (·.id)

/-- A symbol has a name that no symbol before it has. -/
def IsFirstNamed (symbols : List StoredSymbol) (name : String) (y : StoredSymbol) : Prop :=
  ∃ before after, symbols = before ++ y :: after ∧ y.symbol.name = name ∧
    ∀ z ∈ before, z.symbol.name ≠ name

/-- Where a reference leads: an import to one of the files, as its specifier is resolved among them;
a call to the first symbol of its name, and out only if there is none. -/
def Reference.LeadsTo (files : List StoredFile) (symbols : List StoredSymbol) :
    Reference → Option Int → Prop
  | imported f specifier, target =>
      target = resolveImport (fileAt files) f.file.path specifier ∧
        ∀ id, target = some id → ∃! g, g ∈ files ∧ g.id = id
  | called _ name, target =>
      (∀ y ∈ symbols, target = some y.id ↔ IsFirstNamed symbols name y) ∧
        (target = none ↔ ∀ y ∈ symbols, y.symbol.name ≠ name)

/-- An edge is drawn for a reference. -/
structure Reference.IsDrawn (files : List StoredFile) (symbols : List StoredSymbol)
    (r : Reference) (e : Edge) : Prop where
  kind : e.kind = r.kind
  sourceKind : e.sourceKind = r.sourceKind
  sourceId : e.sourceId = r.sourceId
  name : e.targetName = r.name
  target : r.LeadsTo files symbols e.targetId
  inside : e.targetId ≠ none → e.targetKind = r.sourceKind
  outside : e.targetId = none ↔ e.targetKind = .external
  flagged : e.isExternal = true ↔ e.targetId = none

variable {files files' : List StoredFile} {symbols : List StoredSymbol}

/-! ## Look-ups -/

/-- Where paths are distinct, a path has the number of the one file that is there. -/
lemma numberOf_eq_some_iff (paths : (files.map (·.file.path)).Nodup) {path : String} {id : Int} :
    numberOf (files.map fun g => (g.file.path, g.id)) path = some id ↔
      ∃ g ∈ files, g.file.path = path ∧ g.id = id := by
  constructor
  · intro found
    obtain ⟨g, mem, same⟩ := List.mem_map.1 (mem_of_numberOf found)
    cases same
    exact ⟨g, mem, rfl, rfl⟩
  · rintro ⟨g, mem, rfl, rfl⟩
    have there : (g.file.path, g.id) ∈ files.map fun g => (g.file.path, g.id) :=
      List.mem_map.2 ⟨g, mem, rfl⟩
    cases found : numberOf (files.map fun g => (g.file.path, g.id)) g.file.path with
    | none =>
      have absent := List.find?_eq_none.1 (Option.map_eq_none_iff.1 found)
      simpa using absent _ (List.mem_reverse.2 there)
    | some id =>
      obtain ⟨g', mem', same⟩ := List.mem_map.1 (mem_of_numberOf found)
      obtain ⟨path, rfl⟩ := Prod.mk.inj same
      rw [List.inj_on_of_nodup_map paths mem' mem path]

lemma fileAt_eq_some_iff (paths : (files.map (·.file.path)).Nodup) {path : String} {id : Int} :
    fileAt files path = some id ↔ ∃ g ∈ files, g.file.path = path ∧ g.id = id := by
  rw [fileAt, Option.map_eq_some_iff]
  constructor
  · rintro ⟨g, found, rfl⟩
    exact ⟨g, List.mem_of_find?_eq_some found, by simpa using List.find?_some found, rfl⟩
  · rintro ⟨g, mem, rfl, rfl⟩
    cases found : files.find? (·.file.path = g.file.path) with
    | none => simpa using List.find?_eq_none.1 found g mem
    | some g' =>
      have path : g'.file.path = g.file.path := by simpa using List.find?_some found
      rw [List.inj_on_of_nodup_map paths (List.mem_of_find?_eq_some found) mem path]
      exact ⟨g, rfl, rfl⟩

lemma numberOf_eq_fileAt (paths : (files.map (·.file.path)).Nodup) :
    numberOf (files.map fun g => (g.file.path, g.id)) = fileAt files := by
  funext path
  ext id
  rw [numberOf_eq_some_iff paths, fileAt_eq_some_iff paths]

lemma fileAt_perm (paths : (files.map (·.file.path)).Nodup) (perm : files'.Perm files) :
    fileAt files' = fileAt files := by
  have paths' : (files'.map (·.file.path)).Nodup := (perm.map _).nodup_iff.2 paths
  funext path
  ext id
  rw [fileAt_eq_some_iff paths', fileAt_eq_some_iff paths]
  exact exists_congr fun g => and_congr_left' perm.mem_iff

lemma symbolNamed_eq_some_iff {name : String} {id : Int} :
    symbolNamed symbols name = some id ↔ ∃ y, IsFirstNamed symbols name y ∧ y.id = id := by
  simp only [symbolNamed, Option.map_eq_some_iff, List.find?_eq_some_iff_append, IsFirstNamed]
  refine exists_congr fun y => and_congr_left' ?_
  simp only [decide_eq_true_eq, Bool.not_eq_true', decide_eq_false_iff_not]
  constructor
  · rintro ⟨named, before, after, whole, others⟩
    exact ⟨before, after, whole, named, others⟩
  · rintro ⟨before, after, whole, named, others⟩
    exact ⟨named, before, after, whole, others⟩

lemma symbolNamed_eq_none_iff {name : String} :
    symbolNamed symbols name = none ↔ ∀ y ∈ symbols, y.symbol.name ≠ name := by
  simp [symbolNamed]

/-! ## Edges -/

/-- The edge for a reference. -/
def edgeOf (files : List StoredFile) (symbols : List StoredSymbol) : Reference → Edge
  | .imported f specifier => edgeTo .imports .file f.id specifier <|
      resolveImport (numberOf (files.map fun g => (g.file.path, g.id))) f.file.path specifier
  | .called y name => edgeTo .call .function y.id name (symbolNamed symbols name)

lemma buildEdges_eq :
    buildEdges files symbols = (references files symbols).map (edgeOf files symbols) := by
  rw [references, List.map_append, List.map_flatMap, List.map_flatMap]
  simp only [List.map_map]
  rfl

/-- An edge is drawn for a reference if it is an edge to where the reference leads. -/
lemma Reference.LeadsTo.isDrawn {r : Reference} {target : Option Int}
    (leads : r.LeadsTo files symbols target) :
    r.IsDrawn files symbols (edgeTo r.kind r.sourceKind r.sourceId r.name target) where
  kind := rfl
  sourceKind := rfl
  sourceId := rfl
  name := rfl
  target := leads
  inside := fun some => if_pos (Option.isSome_iff_ne_none.2 some)
  outside := by
    cases target with
    | none => exact iff_of_true rfl rfl
    | some id => exact iff_of_false (Option.some_ne_none id) r.sourceKind_ne
  flagged := Option.isNone_iff_eq_none

lemma edgeOf_isDrawn (paths : (files.map (·.file.path)).Nodup)
    (fileIds : (files.map (·.id)).Nodup) (symbolIds : (symbols.map (·.id)).Nodup)
    (r : Reference) : r.IsDrawn files symbols (edgeOf files symbols r) := by
  cases r with
  | imported f specifier =>
    refine Reference.LeadsTo.isDrawn (r := .imported f specifier) ⟨?_, fun id found => ?_⟩
    · rw [numberOf_eq_fileAt paths]
    · obtain ⟨path, there⟩ := resolveImport_mem found
      obtain ⟨g, mem, -, rfl⟩ := (numberOf_eq_some_iff paths).1 there
      exact ⟨g, ⟨mem, rfl⟩, fun g' h => List.inj_on_of_nodup_map fileIds h.1 mem h.2⟩
  | called y name =>
    refine Reference.LeadsTo.isDrawn (r := .called y name)
      ⟨fun z mem => ?_, symbolNamed_eq_none_iff⟩
    rw [symbolNamed_eq_some_iff]
    constructor
    · rintro ⟨first, isFirst, same⟩
      have mem' : first ∈ symbols := by
        obtain ⟨before, after, rfl, -⟩ := isFirst
        exact List.mem_append_right _ List.mem_cons_self
      rwa [List.inj_on_of_nodup_map symbolIds mem' mem same] at isFirst
    · exact fun isFirst => ⟨z, isFirst, rfl⟩

lemma edgeOf_perm (paths : (files.map (·.file.path)).Nodup) (perm : files'.Perm files) :
    edgeOf files' symbols = edgeOf files symbols := by
  have paths' : (files'.map (·.file.path)).Nodup := (perm.map _).nodup_iff.2 paths
  funext r
  cases r with
  | imported f specifier =>
    rw [edgeOf, edgeOf, numberOf_eq_fileAt paths', numberOf_eq_fileAt paths,
      fileAt_perm paths perm]
  | called y name => rfl

lemma references_perm (perm : files'.Perm files) :
    (references files' symbols).Perm (references files symbols) :=
  (perm.flatMap_right _).append_right _

/-- One edge is drawn for each reference, in their order, and listing the files in another order
leaves each reference its edge. -/
theorem buildEdges_drawn (paths : (files.map (·.file.path)).Nodup)
    (fileIds : (files.map (·.id)).Nodup) (symbolIds : (symbols.map (·.id)).Nodup) :
    List.Forall₂ (Reference.IsDrawn files symbols) (references files symbols)
      (buildEdges files symbols) ∧
    ∀ files', files'.Perm files →
      ((references files' symbols).zip (buildEdges files' symbols)).Perm
        ((references files symbols).zip (buildEdges files symbols)) := by
  constructor
  · rw [buildEdges_eq, List.forall₂_map_right_iff, List.forall₂_same]
    exact fun r _ => edgeOf_isDrawn paths fileIds symbolIds r
  · intro files' perm
    rw [buildEdges_eq, buildEdges_eq, edgeOf_perm paths perm, ← List.map_prod_left_eq_zip,
      ← List.map_prod_left_eq_zip]
    exact (references_perm perm).map _

/-! ## Two files -/

def importing (id : Int) (path : String) (imports : List String) : StoredFile :=
  { (default : StoredFile) with
    id := id
    file := { (default : SourceFile) with path := path }
    imports := imports }

def calling (id : Int) (name : String) (calls : List String) : StoredSymbol :=
  { (default : StoredSymbol) with
    id := id
    symbol := { (default : CodeSymbol) with name := name, calls := calls } }

def twoFiles : List StoredFile :=
  [importing 1 "src/app.js" ["./utils", "react"], importing 2 "src/utils.js" ["./app.js"]]

/-- Two symbols have one name. -/
def threeSymbols : List StoredSymbol :=
  [calling 10 "main" ["helper", "log"], calling 11 "helper" [], calling 12 "helper" ["main"]]

theorem buildEdges_drawn_twoFiles :
    (twoFiles.map (·.file.path)).Nodup ∧ (twoFiles.map (·.id)).Nodup ∧
    (threeSymbols.map (·.id)).Nodup ∧
    (buildEdges twoFiles threeSymbols).map (·.targetId) =
      [some 2, none, some 1, some 11, none, some 10] ∧
    List.Forall₂ (Reference.IsDrawn twoFiles threeSymbols) (references twoFiles threeSymbols)
      (buildEdges twoFiles threeSymbols) ∧
    ((references twoFiles.reverse threeSymbols).zip (buildEdges twoFiles.reverse threeSymbols)).Perm
      ((references twoFiles threeSymbols).zip (buildEdges twoFiles threeSymbols)) := by
  have paths : (twoFiles.map (·.file.path)).Nodup := by decide
  have fileIds : (twoFiles.map (·.id)).Nodup := by decide
  have symbolIds : (threeSymbols.map (·.id)).Nodup := by decide
  obtain ⟨drawn, same⟩ := buildEdges_drawn paths fileIds symbolIds
  exact ⟨paths, fileIds, symbolIds, by decide +kernel, drawn, same _ twoFiles.reverse_perm⟩

end CodeAtlas.Graph
