import CodeAtlas.Text.Blank
import CodeAtlas.Text.Lines

/-! # Where imports lead

A specifier that begins with a dot is a path relative to the directory of the importing file; any
other is a path from the root of the tree. Extensions and index files may be left out. -/
namespace CodeAtlas.Graph

/-- What may be added to a path, in the order in which it is tried. -/
def importSuffixes : List String := ["", ".js", ".ts", ".jsx", ".tsx", "/index.js", "/index.ts"]

def lookupWithSuffix (find? : String → Option Int) (path : String) : Option Int :=
  importSuffixes.findSome? fun suffix => find? (path ++ suffix)

def directorySegments (path : String) : List (List Char) :=
  ((Text.cut '/' path.toList).dropLast).filter (!·.isEmpty)

/-- Walk along segments from a directory, which is given from its innermost segment outwards.
There is no way above the root. -/
def walkSegments : (inner : List (List Char)) → List (List Char) → Option (List (List Char))
  | inner, [] => some inner
  | inner, segment :: rest =>
      if segment = [] ∨ segment = ['.'] then walkSegments inner rest
      else if segment = ['.', '.'] then
        match inner with
        | [] => none
        | _ :: outer => walkSegments outer rest
      else walkSegments (segment :: inner) rest

/-- The path that a relative specifier names, seen from a file. -/
def relativePath? (importer specifier : String) : Option String :=
  (walkSegments (directorySegments importer).reverse (Text.cut '/' specifier.toList)).map
    fun inner => String.ofList (Text.join ['/'] inner.reverse)

def resolveImport (find? : String → Option Int) (importer specifier : String) : Option Int :=
  let specifier := Text.slashed (Text.trimmed specifier)
  match specifier.toList with
  | [] => none
  | '.' :: _ => (relativePath? importer specifier).bind (lookupWithSuffix find?)
  | _ => lookupWithSuffix find? specifier

/-- The number of a path in a list; of several entries for a path the last one counts. -/
def numberOf (paths : List (String × Int)) (path : String) : Option Int :=
  (paths.reverse.find? (·.1 = path)).map (·.2)

end CodeAtlas.Graph
