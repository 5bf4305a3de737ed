import CodeAtlas.Graph.Imports
import CodeAtlas.Proofs.Pieces

/-! # Where relative imports lead

A relative import leads to a place, segment by segment from the directory of the importing file, and
there to the first of the files that the place may stand for. The place of an import and what it
stands for are said here once more without regard to how they are looked up. The look-up agrees but
for one case: the index files of the root are looked for under names that begin with a slash. -/
namespace CodeAtlas.Graph

open Text (slashed trimmed)

/-! ## Places -/

/-- One segment further from a place, which is given from the root of the tree down. -/
def stepInto (place : List (List Char)) (segment : List Char) : Option (List (List Char)) :=
  if segment = [] ∨ segment = ['.'] then some place
  else if segment = ['.', '.'] then if place = [] then none else some place.dropLast
  else some (place ++ [segment])

/-- The place that a specifier leads to from the directory of a file, if it stays in the tree. -/
def placeOf? (importer specifier : String) : Option (List (List Char)) :=
  (Text.cut '/' (slashed (trimmed specifier)).toList).foldlM stepInto (directorySegments importer)

def placePath (place : List (List Char)) : String := String.ofList (Text.join ['/'] place)

/-- What may be left out at the end of the name of a file. -/
def fileEndings : List String := ["", ".js", ".ts", ".jsx", ".tsx"]

def indexNames : List String := ["index.js", "index.ts"]

/-- The files that a place may stand for, in the order of preference: the file there, and then an
index file in the directory there. -/
def candidates (place : List (List Char)) : List String :=
  fileEndings.map (placePath place ++ ·) ++
    indexNames.map fun name => placePath (place ++ [name.toList])

/-- The file that a relative specifier means. -/
def meant? (find? : String → Option Int) (importer specifier : String) : Option Int :=
  (placeOf? importer specifier).bind fun place => (candidates place).findSome? find?

/-- A specifier means an index file of the root. -/
structure MeansRootIndex (find? : String → Option Int) (importer specifier : String) : Prop where
  root : placeOf? importer specifier = some []
  unnamed : fileEndings.findSome? find? = none
  index : indexNames.findSome? find? ≠ none

variable {find? : String → Option Int} {importer specifier : String} {place : List (List Char)}

lemma walkSegments_eq (inner segments : List (List Char)) :
    walkSegments inner segments = (segments.foldlM stepInto inner.reverse).map List.reverse := by
  fun_induction walkSegments inner segments with
  | case1 inner => simp
  | case2 inner segment rest stays ih => rw [List.foldlM_cons, stepInto, if_pos stays, ih]; rfl
  | case3 rest moves =>
    rw [List.foldlM_cons, stepInto, if_neg moves, if_pos rfl, List.reverse_nil, if_pos rfl]
    rfl
  | case4 rest last outer moves ih =>
    rw [List.foldlM_cons, stepInto, if_neg moves, if_pos rfl, if_neg (by simp), ih]
    simp
  | case5 inner segment rest moves into ih =>
    rw [List.foldlM_cons, stepInto, if_neg moves, if_neg into, ih]
    simp

lemma relativePath?_eq :
    relativePath? importer (slashed (trimmed specifier)) =
      (placeOf? importer specifier).map placePath := by
  rw [relativePath?, walkSegments_eq, List.reverse_reverse, Option.map_map, placeOf?]
  congr 1
  funext place
  rw [Function.comp_apply, List.reverse_reverse, placePath]

/-! ## Files at a place -/

lemma lookupWithSuffix_eq (path : String) : lookupWithSuffix find? path =
    (importSuffixes.map (path ++ ·)).findSome? find? := by
  rw [List.findSome?_map]
  rfl

lemma placePath_concat (below : place ≠ []) (name : String) :
    placePath (place ++ [name.toList]) = placePath place ++ "/" ++ name := by
  apply String.toList_inj.1
  simp [placePath, Text.join_concat, below]

lemma lookup_below (below : place ≠ []) :
    lookupWithSuffix find? (placePath place) = (candidates place).findSome? find? := by
  rw [lookupWithSuffix_eq]
  congr 1
  simp [importSuffixes, candidates, fileEndings, indexNames, placePath_concat below,
    String.append_assoc]

lemma candidates_root : candidates [] = fileEndings ++ indexNames := by
  decide

/-- At the root, index files are not found. -/
lemma lookup_root (tree : ∀ path id, find? path = some id → path.toList.head? ≠ some '/') :
    lookupWithSuffix find? (placePath []) = fileEndings.findSome? find? := by
  have index : ["/index.js", "/index.ts"].findSome? find? = none := by
    refine List.findSome?_eq_none_iff.2 fun path mem =>
      Option.eq_none_iff_forall_ne_some.2 fun id found => tree path id found ?_
    rcases List.mem_pair.1 mem with rfl | rfl <;> rfl
  have names : importSuffixes.map (placePath [] ++ ·) =
      fileEndings ++ ["/index.js", "/index.ts"] := by decide
  rw [lookupWithSuffix_eq, names, List.findSome?_append, index, Option.or_none]

lemma mem_of_numberOf {paths : List (String × Int)} {path : String} {id : Int}
    (h : numberOf paths path = some id) : (path, id) ∈ paths := by
  obtain ⟨entry, found, rfl⟩ := Option.map_eq_some_iff.1 h
  have same : entry.1 = path := by simpa using List.find?_some found
  rw [← same]
  exact List.mem_reverse.1 (List.mem_of_find?_eq_some found)

lemma resolveImport_mem {id : Int}
    (h : resolveImport find? importer specifier = some id) : ∃ path, find? path = some id := by
  have looked : ∀ {path}, lookupWithSuffix find? path = some id → ∃ path, find? path = some id := by
    intro path h
    obtain ⟨suffix, -, h⟩ := List.exists_of_findSome?_eq_some h
    exact ⟨_, h⟩
  unfold resolveImport at h
  dsimp only at h
  split at h
  · cases h
  · obtain ⟨path, -, h⟩ := Option.bind_eq_some_iff.1 h
    exact looked h
  · exact looked h

lemma resolveImport_eq (relative : (slashed (trimmed specifier)).toList.head? = some '.') :
    resolveImport find? importer specifier =
      (placeOf? importer specifier).bind fun place => lookupWithSuffix find? (placePath place) := by
  obtain ⟨rest, chars⟩ := List.head?_eq_some_iff.1 relative
  have joined : resolveImport find? importer specifier =
      (relativePath? importer (slashed (trimmed specifier))).bind (lookupWithSuffix find?) := by
    rw [resolveImport, chars]
    rfl
  rw [joined, relativePath?_eq, Option.bind_map]
  rfl

/-- In a tree, whose paths begin with no slash, a relative import leads to the file that it means,
unless it means an index file of the root, and then it leads nowhere. -/
theorem resolveImport_relative_iff
    (tree : ∀ path id, find? path = some id → path.toList.head? ≠ some '/')
    (relative : (slashed (trimmed specifier)).toList.head? = some '.') :
    (resolveImport find? importer specifier = meant? find? importer specifier ↔
      ¬ MeansRootIndex find? importer specifier) ∧
    (MeansRootIndex find? importer specifier → resolveImport find? importer specifier = none) := by
  rw [resolveImport_eq relative, meant?]
  cases place : placeOf? importer specifier with
  | none =>
    have nowhere : ¬ MeansRootIndex find? importer specifier := fun h => by
      have := h.root
      simp [place] at this
    exact ⟨iff_of_true rfl nowhere, fun h => absurd h nowhere⟩
  | some there =>
    rw [Option.bind_some, Option.bind_some]
    by_cases root : there = []
    · subst root
      rw [lookup_root tree, candidates_root, List.findSome?_append]
      cases named : fileEndings.findSome? find? with
      | some id =>
        have other : ¬ MeansRootIndex find? importer specifier := fun h => by
          have := h.unnamed
          simp [named] at this
        exact ⟨iff_of_true rfl other, fun h => absurd h other⟩
      | none =>
        rw [Option.none_or]
        refine ⟨⟨fun same h => h.index same.symm, fun other => ?_⟩, fun _ => rfl⟩
        by_contra missing
        exact other ⟨place, named, fun h => missing h.symm⟩
    · have below : ¬ MeansRootIndex find? importer specifier := fun h => by
        have := place.symm.trans h.root
        exact root (Option.some.inj this)
      exact ⟨iff_of_true (lookup_below root) below, fun h => absurd h below⟩

/-- A tree with a file and a directory of the same name. -/
def twoLibraries : String → Option Int :=
  numberOf [("src/app.js", 1), ("lib/index.ts", 2), ("lib.tsx", 3)]

/-- The way goes up and down through backslashes and empty segments; the file comes before the index
file of the directory. -/
theorem resolveImport_relative_iff_twoLibraries :
    (∀ path id, twoLibraries path = some id → path.toList.head? ≠ some '/') ∧
    (slashed (trimmed " ..\\lib//./x/.. ")).toList.head? = some '.' ∧
    ¬ MeansRootIndex twoLibraries "src/app.js" " ..\\lib//./x/.. " ∧
    meant? twoLibraries "src/app.js" " ..\\lib//./x/.. " = some 3 ∧
    resolveImport twoLibraries "src/app.js" " ..\\lib//./x/.. " = some 3 := by
  have tree : ∀ path id, twoLibraries path = some id → path.toList.head? ≠ some '/' := by
    intro path id found
    have mem := mem_of_numberOf found
    simp only [List.mem_cons, List.not_mem_nil, or_false, Prod.mk.injEq] at mem
    rcases mem with ⟨rfl, -⟩ | ⟨rfl, -⟩ | ⟨rfl, -⟩ <;> decide
  have relative : (slashed (trimmed " ..\\lib//./x/.. ")).toList.head? = some '.' := by
    decide +kernel
  have place : placeOf? "src/app.js" " ..\\lib//./x/.. " = some ["lib".toList] := by decide +kernel
  have below : ¬ MeansRootIndex twoLibraries "src/app.js" " ..\\lib//./x/.. " := fun h =>
    absurd (place.symm.trans h.root) (by decide)
  have meant : meant? twoLibraries "src/app.js" " ..\\lib//./x/.. " = some 3 := by decide +kernel
  exact ⟨tree, relative, below, meant,
    ((resolveImport_relative_iff tree relative).1.2 below).trans meant⟩

/-- A file below the root imports the root, which has an index file. -/
theorem rootIndex_missed :
    (slashed (trimmed "..")).toList.head? = some '.' ∧
    placeOf? "src/app.js" ".." = some [] ∧
    meant? (numberOf [("index.js", 1), ("src/app.js", 2)]) "src/app.js" ".." = some 1 ∧
    resolveImport (numberOf [("index.js", 1), ("src/app.js", 2)]) "src/app.js" ".." = none := by
  refine ⟨?_, ?_, ?_, ?_⟩ <;> decide +kernel

end CodeAtlas.Graph
