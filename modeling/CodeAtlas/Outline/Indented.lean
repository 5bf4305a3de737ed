import CodeAtlas.Outline.Basic
import CodeAtlas.Pattern

/-! # Outlines by indentation

Definitions are found by their headers, and their ends by the indentation of the lines that
follow. A function stays open until another definition begins, a line stands at column zero, or,
inside a class, a line returns to the depth of the class body. Blank lines never close anything. -/
namespace CodeAtlas.Outline.Indented

open Pattern

/-- A class header: its blanks and its name. -/
def classHeader : Pattern := group 1 blanks ++ text "class" ++ gap ++ group 2 name

/-- A function header: blanks, the mark of a coroutine, the name, the parameters up to the first
closing bracket, and the return type. -/
def functionHeader : Pattern :=
  group 1 blanks ++ option (group 2 (text "async" ++ gap)) ++ text "def" ++ gap ++ group 3 name ++
    blanks ++ char '(' ++ group 4 (star (noneOf ")")) ++ option (char ')') ++
    option (blanks ++ text "->" ++ blanks ++ group 5 (plus (noneOf ":")))

def callSite : Pattern := group 1 name ++ blanks ++ char '('

def notCalls : List String :=
  ["if", "elif", "while", "for", "return", "and", "or", "not", "in", "is", "def", "class",
    "lambda", "with", "assert", "yield", "await", "except", "print"]

/-- The names called on a line, one after the other. -/
def callNames : (fuel : Nat) → Option Char → List Char → List String
  | 0, _, _ => []
  | fuel + 1, before, code =>
      match callSite.searchFrom? before code 0 with
      | none => []
      | some (spot, _) =>
          match spot.group? 1 with
          | none => []
          | some name => String.ofList name :: callNames fuel spot.before spot.rest

/-- The code of a line, without its comment. -/
def beforeComment (line : List Char) : List Char := line.takeWhile (· != '#')

/-- The names called in some lines, each once. -/
def callsIn (body : List (List Char)) : List String :=
  body.foldl (fun calls line =>
    let code := beforeComment line
    addNames calls ((callNames (code.length + 1) none code).filter (!notCalls.contains ·))) []

/-- Blanks in front of a line, counted in bytes. -/
def indentOf (line : List Char) : Nat :=
  (line.takeWhile Text.isBlank).foldl (fun size c => size + c.utf8Size) 0

/-- The modules that an import statement names; `statement` has no blanks in front. -/
def importedModules (statement : List Char) : List (List Char) :=
  match Text.afterStart? "import ".toList statement with
  | some rest =>
      (Text.cut ',' rest).map fun part =>
        match Text.splitFirst? " as ".toList part with
        | some (module, _) => Text.trim module
        | none => Text.trim part
  | none =>
      match Text.afterStart? "from ".toList statement with
      | some rest =>
          match Text.splitFirst? " import".toList rest with
          | some (module, _) => [Text.trim module]
          | none => []
      | none => []

/-- What stands before and after the first occurrence of a character. -/
def splitAt? (sep : Char) (cs : List Char) : Option (List Char × List Char) :=
  Text.splitFirst? [sep] cs

/-- One parameter: a name, maybe a type after a colon, maybe a default after an equals sign. -/
def parameter (part : List Char) : Parameter :=
  let (head, default?) :=
    match splitAt? '=' part with
    | some (head, value) => (Text.trim head, some (String.ofList (Text.trim value)))
    | none => (part, none)
  let (name, type) :=
    match splitAt? ':' head with
    | some (name, type) => (Text.trim name, Text.trim type)
    | none => (head, "any".toList)
  ⟨String.ofList name, String.ofList type, default?⟩

/-- The parameters between the brackets. The receiver of a method is left out. -/
def parameters (inside : List Char) (inClass : Bool) : List Parameter :=
  let parts := ((Text.cut ',' inside).map Text.trim).filter fun part =>
    !part.isEmpty && part != ['*'] && part != ['/']
  match parts.map parameter with
  | [] => []
  | first :: rest =>
      if inClass && (first.name == "self" || first.name == "cls") then rest else first :: rest

/-- A definition that has not been closed: its place among the symbols and its indentation. -/
structure Open where
  index : Nat
  indent : Nat
  deriving DecidableEq, Repr

/-- What has been found so far, what is open, and the last line that was not blank. -/
structure Scan where
  symbols : List CodeSymbol
  imports : List String
  exports : List String
  function? : Option Open
  class? : Option Open
  lastLine : Nat

def Scan.start : Scan := ⟨[], [], [], none, none, 0⟩

/-- Give a symbol its end, its code and its calls. -/
def finish (lines : List (List Char)) (lastLine : Nat) (s : CodeSymbol) : CodeSymbol :=
  let endLine := max lastLine s.startLine
  let body := (lines.drop (s.startLine - 1)).take (endLine - (s.startLine - 1))
  { s with
    endLine := endLine
    code := excerpt (Text.join ['\n'] body)
    calls := if s.kind = .classDef then s.calls else callsIn body.tail }

/-- Close a definition at the last line that was not blank. -/
def Scan.close (scan : Scan) (lines : List (List Char)) : Option Open → Scan
  | none => scan
  | some o => { scan with symbols := scan.symbols.modify o.index (finish lines scan.lastLine) }

def Scan.closeFunction (scan : Scan) (lines : List (List Char)) : Scan :=
  { scan.close lines scan.function? with function? := none }

def Scan.closeClass (scan : Scan) (lines : List (List Char)) : Scan :=
  { scan.close lines scan.class? with class? := none }

def isPublic (name : String) : Bool := name.toList.head? != some '_'

def Scan.export (scan : Scan) (name : String) (indent : Nat) : Scan :=
  if indent = 0 ∧ isPublic name then { scan with exports := addName scan.exports name } else scan

/-- What a function is, by the class around it, its name and its coroutine mark. -/
def functionKind (inClass : Bool) (name : String) (isAsync : Bool) : SymbolKind :=
  if inClass then if name = "__init__" then .constructor else .method
  else if isAsync then .async
  else .function

/-- A definition begins on a line; it ends there until it is closed. -/
def Scan.push (scan : Scan) (s : CodeSymbol) : Scan := { scan with symbols := scan.symbols ++ [s] }

def groupText (spot : Spot) (n : Nat) : List Char := (spot.group? n).getD []

def Scan.beginFunction (scan : Scan) (lines : List (List Char)) (number indent : Nat)
    (header : Spot) : Scan :=
  let scan := scan.closeFunction lines
  let scan := if indent = 0 then scan.closeClass lines else scan
  let name := String.ofList (groupText header 3)
  let isAsync := (header.group? 2).isSome
  let returned := Text.trim (groupText header 5)
  let inClass := match scan.class? with
    | some c => c.indent < indent
    | none => false
  let scan := scan.export name indent
  let scan := scan.push {
    name := name
    kind := functionKind inClass name isAsync
    startLine := number
    endLine := number
    parameters := parameters (groupText header 4) inClass
    returnType := if returned.isEmpty then unknownType else String.ofList returned
    isExported := isPublic name
    isAsync := isAsync
    complexity := 1
    calls := []
    code := "" }
  { scan with function? := some ⟨scan.symbols.length - 1, indent⟩ }

def Scan.beginClass (scan : Scan) (lines : List (List Char)) (number indent : Nat)
    (header : Spot) : Scan :=
  let scan := (scan.closeFunction lines).closeClass lines
  let name := String.ofList (groupText header 2)
  let scan := scan.export name indent
  let scan := scan.push {
    name := name
    kind := .classDef
    startLine := number
    endLine := number
    parameters := []
    returnType := unknownType
    isExported := isPublic name
    isAsync := false
    complexity := 1
    calls := []
    code := "" }
  { scan with class? := some ⟨scan.symbols.length - 1, indent⟩ }

def Scan.plain (scan : Scan) (lines : List (List Char)) (indent : Nat) : Scan :=
  if indent = 0 then (scan.closeFunction lines).closeClass lines
  else
    match scan.function?, scan.class? with
    | some f, some c =>
        if indent ≤ f.indent ∧ c.indent < indent then scan.closeFunction lines else scan
    | _, _ => scan

def Scan.line (scan : Scan) (lines : List (List Char)) (number : Nat) (line : List Char) : Scan :=
  let code := Text.trimStart line
  if code.isEmpty then scan
  else
    let indent := indentOf line
    let scan :=
      { scan with imports := addNames scan.imports ((importedModules code).map String.ofList) }
    let scan :=
      match functionHeader.matchStart? line, classHeader.matchStart? line with
      | some header, _ => scan.beginFunction lines number indent header
      | none, some header => scan.beginClass lines number indent header
      | none, none => scan.plain lines indent
    { scan with lastLine := number }

def Scan.lines (all : List (List Char)) : (number : Nat) → List (List Char) → Scan → Scan
  | _, [], scan => scan
  | number, line :: rest, scan => Scan.lines all (number + 1) rest (scan.line all number line)

def outline (source : List Char) : Outline :=
  let lines := Text.lines source
  let scan := Scan.lines lines 1 lines .start
  let scan := (scan.closeFunction lines).closeClass lines
  ⟨scan.symbols, scan.imports, scan.exports⟩

end CodeAtlas.Outline.Indented
