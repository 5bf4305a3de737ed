import CodeAtlas.Graph.Imports
import CodeAtlas.Store.Records

/-! # The dependency graph

One edge for each import of a file and one for each call of a symbol. A call leads to the first
symbol of its name. -/
namespace CodeAtlas.Graph

def symbolNamed (symbols : List StoredSymbol) (name : String) : Option Int :=
  (symbols.find? (·.symbol.name = name)).map (·.id)

/-- An edge to a node of a kind, or out of the subject if the target is unknown. -/
def edgeTo (kind : EdgeKind) (sourceKind : NodeKind) (sourceId : Int) (name : String)
    (target : Option Int) : Edge where
  sourceKind := sourceKind
  sourceId := sourceId
  targetKind := if target.isSome then sourceKind else .external
  targetId := target
  targetName := name
  kind := kind
  isExternal := target.isNone

def importEdges (files : List StoredFile) (f : StoredFile) : List Edge :=
  f.imports.map fun specifier =>
    edgeTo .imports .file f.id specifier <|
      resolveImport (numberOf (files.map fun g => (g.file.path, g.id))) f.file.path specifier

def callEdges (symbols : List StoredSymbol) (s : StoredSymbol) : List Edge :=
  s.symbol.calls.map fun name => edgeTo .call .function s.id name (symbolNamed symbols name)

def buildEdges (files : List StoredFile) (symbols : List StoredSymbol) : List Edge :=
  files.flatMap (importEdges files) ++ symbols.flatMap (callEdges symbols)

end CodeAtlas.Graph
