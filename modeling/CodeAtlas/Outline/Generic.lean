import CodeAtlas.Outline.Basic
import CodeAtlas.Pattern

/-! # Outlines by line patterns

Languages without a reader of their own are searched line by line: the first pattern of a list
that matches a line gives the name of a function or of an import. A symbol is one line long. -/
namespace CodeAtlas.Outline.Generic

open Pattern

/-- The words of a list, each followed by white space, any number of times. -/
def modifiers (words : List String) : Pattern := star (anyOf words ++ gap)

def fnFunction : Pattern :=
  blanks ++ option (text "pub" ++ option (char '(' ++ star (noneOf ")") ++ char ')') ++ gap) ++
    option (text "const" ++ gap) ++ option (text "async" ++ gap) ++ option (text "unsafe" ++ gap) ++
    option (text "extern" ++ gap ++ char '"' ++ star (noneOf "\"") ++ char '"' ++ gap) ++
    text "fn" ++ gap ++ group 1 name

def funcFunction : Pattern :=
  blanks ++
    modifiers ["public", "private", "fileprivate", "internal", "open", "static", "override"] ++
    text "func" ++ gap ++ option (char '(' ++ star (noneOf ")") ++ char ')' ++ blanks) ++
    group 1 name

def funFunction : Pattern :=
  blanks ++
    modifiers ["public", "private", "internal", "protected", "override", "suspend", "inline",
      "open"] ++
    text "fun" ++ gap ++ option (char '<' ++ star (noneOf ">") ++ char '>' ++ blanks) ++
    option (plus (one fun c => Text.isWordChar c || "<>, ?".toList.contains c) ++ char '.') ++
    group 1 name

def defFunction : Pattern :=
  blanks ++ text "def" ++ gap ++ option (text "self.") ++ group 1 (name ++ option (oneOf "?!"))

def functionFunction : Pattern :=
  blanks ++ modifiers ["public", "private", "protected", "static", "export", "async"] ++
    text "function" ++ blanks ++ option (char '&') ++ blanks ++
    group 1 (one (fun c => isNameStart c || c == '$') ++
      star (one fun c => Text.isWordChar c || c == '$'))

def modifiedMethod : Pattern :=
  blanks ++
    plus (anyOf ["public", "private", "protected", "internal", "static", "final", "abstract",
      "override", "virtual", "async", "synchronized", "sealed"] ++ gap) ++
    plus (one fun c => Text.isWordChar c || "<>[],.?".toList.contains c) ++ gap ++
    group 1 name ++ blanks ++ char '('

def typedFunction : Pattern :=
  blanks ++ modifiers ["static", "inline", "extern", "virtual", "const", "unsigned", "signed"] ++
    one isNameStart ++ star (one fun c => Text.isWordChar c || ":<>".toList.contains c) ++
    plus (one fun c => Text.isBlank c || c == '*' || c == '&') ++
    group 1 (one isNameStart ++ star (one fun c => Text.isWordChar c || c == ':')) ++ blanks ++
    char '(' ++ star (noneOf ";") ++ lineEnd

/-- How a line can begin a function, tried in order. -/
def functionPatterns : List Pattern :=
  [fnFunction, funcFunction, funFunction, defFunction, functionFunction, modifiedMethod,
    typedFunction]

def quote : Pattern := oneOf "\"'"
def quoted : Pattern := quote ++ group 1 (plus (noneOf "\"'")) ++ quote

/-- How a line can name an import: whether the pattern must begin the line, and the pattern. -/
def importPatterns : List (Bool × Pattern) :=
  [(true, blanks ++ text "import" ++ gap ++ quoted),
   (true, blanks ++ text "import" ++ gap ++ lazyStar (noneOf "\n") ++ gap ++ text "from" ++ gap ++
      quoted),
   (true, blanks ++ char '#' ++ blanks ++ text "include" ++ blanks ++ oneOf "<\"" ++
      group 1 (plus (noneOf ">\"")) ++ oneOf ">\""),
   (true, blanks ++ text "using" ++ gap ++ option (text "static" ++ gap) ++
      group 1 (plus (one fun c => Text.isWordChar c || c == '.')) ++ blanks ++ char ';'),
   (true, blanks ++ text "import" ++ gap ++ option (text "static" ++ gap) ++
      group 1 (plus (one fun c => Text.isWordChar c || c == '.') ++ option (text ".*")) ++ blanks ++
      option (char ';') ++ blanks ++ lineEnd),
   (true, blanks ++ text "use" ++ gap ++
      group 1 (plus (one fun c => Text.isWordChar c || c == ':' || c == '\\'))),
   (false, wordEdge ++ text "require" ++ option (anyOf ["_once", "_relative"]) ++ blanks ++
      option (char '(') ++ blanks ++ quoted)]

def controlKeywords : List String :=
  ["if", "for", "while", "switch", "return", "else", "catch", "sizeof", "new", "delete", "case"]

def functionName? (line : List Char) : Option String :=
  match functionPatterns.findSome? fun p => (p.matchStart? line).bind (·.group? 1) with
  | some name =>
      if controlKeywords.contains (String.ofList name) then none else some (String.ofList name)
  | none => none

def importName? (line : List Char) : Option String :=
  (importPatterns.findSome? fun (atStart, p) =>
    (if atStart then p.matchStart? line else p.search? line).bind (·.group? 1)).map String.ofList

def lineSymbol (name : String) (number : Nat) (line : List Char) : CodeSymbol where
  name := name
  kind := .function
  startLine := number
  endLine := number
  parameters := []
  returnType := unknownType
  isExported := false
  isAsync := false
  complexity := 1
  calls := []
  code := excerpt (Text.trim line)

def ofLines : (number : Nat) → List (List Char) → Outline → Outline
  | _, [], found => found
  | number, line :: rest, found =>
      let symbols :=
        match functionName? line with
        | some name => found.symbols ++ [lineSymbol name number line]
        | none => found.symbols
      let imports :=
        match importName? line with
        | some name => addName found.imports name
        | none => found.imports
      ofLines (number + 1) rest ⟨symbols, imports, found.exports⟩

def outline (source : List Char) : Outline := ofLines 1 (Text.lines source) .empty

end CodeAtlas.Outline.Generic
