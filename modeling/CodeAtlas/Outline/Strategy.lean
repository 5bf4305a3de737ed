import CodeAtlas.Outline.Generic
import CodeAtlas.Outline.Indented
import CodeAtlas.Outline.Script.Extract

/-! # Which reader a language has -/
namespace CodeAtlas.Outline

/-- How sources of a language are read: by their syntax, by indentation, or by line patterns. -/
inductive Strategy where
  | syntactic
  | indented
  | generic
  deriving DecidableEq, Repr

def Strategy.ofLanguage : Language → Strategy
  | .javaScript | .typeScript => .syntactic
  | .python => .indented
  | _ => .generic

/-- The part of a file name after its last dot; a dot that begins the name counts for nothing. -/
def fileExtension (path : List Char) : List Char :=
  let segments := (Text.cut '/' path).filter fun s => !s.isEmpty && s != ['.']
  match segments.getLast? with
  | none => []
  | some name =>
      if name = ['.', '.'] then []
      else
        match (Text.cut '.' name).reverse with
        | last :: second :: before => if second.isEmpty && before.isEmpty then [] else last
        | _ => []

/-- In files of these extensions angle brackets before an operand are casts; elsewhere they are
markup. -/
def hasCasts (path : String) : Bool :=
  let extension := (fileExtension (Text.slashed path).toList).map Char.toLower
  ["ts".toList, "mts".toList, "cts".toList].contains extension

/-- The outline of a source in a language, at a path. A script without a syntax tree has none. -/
def ofSource (parse : Script.Parser) (language : Language) (path source : String) : Outline :=
  match Strategy.ofLanguage language with
  | .syntactic =>
      match parse (hasCasts path) source.toList with
      | some tree => Script.outlineOf source.toList tree
      | none => .empty
  | .indented => Indented.outline source.toList
  | .generic => Generic.outline source.toList

def ofFile (parse : Script.Parser) (file : SourceFile) : Outline :=
  ofSource parse file.language file.path file.content

end CodeAtlas.Outline
