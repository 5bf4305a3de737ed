import CodeAtlas.Outline.Script.Expression

/-! # Declarations and statements -/
namespace CodeAtlas.Outline.Script.Grammar

def declarator (g : Grammar) (place : Place) : Reader Node := node .variableDeclarator do
  let t ← g.read .target
  let _ ← maybe (markNotBefore "!" "=")
  let type ← maybe g.typeClause
  let v ← maybe (g.initializer place)
  return [t.inRole .name] ++ (type.map (·.inRole .type)).toList ++ (v.map (·.inRole .value)).toList

def bindingWord : Reader Kind := do
  let w ← wordAhead
  if w == "var" then do keyword w; return .variableDeclaration
  else
    guardThat (w == "let" || w == "const")
    keyword w
    guardThat ((← wordAhead) != "enum")
    return .lexicalDeclaration

/-- Bindings after `var`, `let` or `const`. -/
def bindings (g : Grammar) (place : Place) : Reader Node := do
  let start ← offset
  let kind ← bindingWord
  let first ← g.declarator place
  let rest ← many do mark ","; g.declarator place
  nodeFrom kind start (first :: rest)

/-- A named function, or its signature only. With `asValue`, it stands where a value may stand. -/
def functionDeclaration (g : Grammar) (asValue : Bool) : Reader Node := do
  let start ← offset
  let (async, generator) ← functionWords
  let name ← identifier
  let sig ← g.signature
  let head := async ++ [name.inRole .name] ++ sig
  match ← maybe (g.functionBody asValue) with
  | some body =>
      nodeFrom (if generator then .generatorDeclaration else .functionDeclaration) start
        (head ++ [body])
  | none =>
      lineClose
      nodeFrom .functionSignature start head

/-- A named class, with its decorators. With `asValue`, it stands where a value may stand. -/
def classDeclaration (g : Grammar) (asValue : Bool) : Reader Node := do
  let start ← offset
  let decorators ← many g.decorator
  let isAbstract ← accepts (keyword "abstract")
  keyword "class"
  let parts ← g.classTail
  guardThat (parts.any (·.role = some .name))
  if !isAbstract then reachSemicolon asValue
  nodeFrom (if isAbstract then .abstractClassDeclaration else .classDeclaration) start
    (decorators ++ parts)

def typeAlias (g : Grammar) : Reader Node := node .typeAlias do
  keyword "type"
  guardThat !(← newLineAhead)
  let name ← anyName .identifier
  let generics ← maybe g.typeParameters
  mark "="
  let t ← g.read .type
  lineClose
  return [name.inRole .name] ++ generics.toList ++ [t.inRole .value]

def interfaceDeclaration (g : Grammar) : Reader Node := node .interfaceDeclaration do
  keyword "interface"
  let name ← anyName .identifier
  let generics ← maybe g.typeParameters
  let bases ← maybe do keyword "extends"; commaList (g.read .type)
  let body ← g.objectType
  return [name.inRole .name] ++ generics.toList ++ bases.getD [] ++ [body]

def enumDeclaration (g : Grammar) : Reader Node := node .enumDeclaration do
  let _ ← maybe (keyword "const")
  keyword "enum"
  let name ← anyName .identifier
  mark "\x7b"
  let members ← commaList do
    let key ← g.propertyKey
    let v ← maybe (g.initializer {})
    return key :: v.toList
  mark "\x7d"
  return [name.inRole .name] ++ members.flatten

/-- A module or a namespace, maybe without a body. -/
def moduleDeclaration (g : Grammar) : Reader Node := node .moduleDeclaration do
  let w ← wordAhead
  guardThat (w == "namespace" || w == "module")
  keyword w
  guardThat !(← newLineAhead)
  let name ← stringLiteral <|> node .identifier do
    let _ ← anyName .identifier
    let _ ← many do mark "."; anyName .identifier
    return []
  let body ← maybe (g.functionBody false)
  guardThat (body.isSome || name.kind = .string)
  lineClose
  return [name.inRole .name] ++ body.toList

def importAlias (g : Grammar) : Reader Node := node .importAlias do
  keyword "import"
  let _ ← maybe (do keyword "type"; guardThat ((← wordAhead) != "" && !(← sees "=")))
  let _ ← identifier
  mark "="
  let parts ← (do
      keyword "require"
      mark "("
      let s ← stringLiteral
      mark ")"
      return [s]) <|> (do let _ ← g.namedType; return [])
  lineClose
  return parts

/-- What a declaration statement or an export declares. -/
def plainDeclaration (g : Grammar) (asValue : Bool) : Reader Node := do
  let w ← wordAhead
  if w == "function" ∨ w == "async" then g.functionDeclaration asValue
  else if w == "class" ∨ w == "abstract" ∨ (← sees "@") then g.classDeclaration asValue
  else if w == "var" ∨ w == "let" ∨ w == "const" then
    (do
      let d ← g.bindings {}
      -- The semicolon belongs to the declaration.
      let start := d.span.start
      lineClose
      nodeFrom d.kind start d.children) <|> g.enumDeclaration
  else if w == "type" then g.typeAlias
  else if w == "interface" then g.interfaceDeclaration
  else if w == "enum" then g.enumDeclaration
  else if w == "namespace" ∨ w == "module" then g.moduleDeclaration
  else if w == "import" then g.importAlias
  else reject

def ambientDeclaration (g : Grammar) : Reader Node := node .ambientDeclaration do
  keyword "declare"
  guardThat !(← newLineAhead)
  if (← wordAhead) == "global" then
    keyword "global"
    return [← g.functionBody false]
  else
    (do return [← g.plainDeclaration false]) <|> do
      keyword "module"
      mark "."
      let name ← anyName .propertyName
      let t ← g.typeClause
      lineClose
      return [name, t]

def declaration (g : Grammar) (asValue : Bool) : Reader Node := do
  if (← wordAhead) == "declare" then g.ambientDeclaration else g.plainDeclaration asValue

/-! ## Imports and exports -/

/-- A name in a clause of names; strings may stand for names. -/
def clauseName : Reader Node := stringLiteral <|> anyName .identifier

/-- One name of a clause, maybe renamed. -/
def clauseItem : Reader Node := node .exportSpecifier do
  let _ ← maybe do
    keyword "type"
    let w ← wordAhead
    guardThat ((w != "" && w != "as") || (← sees "'") || (← sees "\""))
  let name ← clauseName
  let renamed ← maybe do keyword "as"; clauseName
  return [name.inRole .name] ++ (renamed.map (·.inRole .alias)).toList

def nameClause : Reader Node := node .exportClause do
  mark "\x7b"
  let items ← commaList clauseItem
  mark "\x7d"
  return items

def fromClause (g : Grammar) : Reader Node := do
  keyword "from"
  let s ← stringLiteral
  let _ ← maybe do
    let w ← wordAhead
    guardThat (w == "with" || w == "assert")
    keyword w
    g.object
  return s.inRole .source

def importClause : Reader Unit := do
  let all : Reader Unit := do mark "*"; keyword "as"; let _ ← anyName .identifier
  let named : Reader Unit := do let _ ← nameClause
  let default : Reader Unit := do
    let _ ← identifier
    let _ ← maybe do mark ","; all <|> named
  all <|> named <|> default

def importStatement (g : Grammar) : Reader Node := node .importStatement do
  keyword "import"
  let source ←
    (do
      let s ← stringLiteral
      let _ ← maybe do keyword "with"; g.object
      return s.inRole .source) <|>
    (do importClause; g.fromClause) <|>
    (do
      let w ← wordAhead
      guardThat (w == "type" || w == "typeof")
      keyword w
      importClause
      g.fromClause)
  lineClose
  return [source]

def exportStatement (g : Grammar) (decorators : List Node) (start : Nat) : Reader Node := do
  keyword "export"
  let parts ←
    (do
      let m ← keptWord .defaultMark "default"
      let d ← (do
          let d ← (g.functionDeclaration true <|> g.classDeclaration true <|>
            g.interfaceDeclaration)
          return d.inRole .declaration) <|> do
        let v ← g.read (.expression {})
        return v.inRole .value
      lineClose
      return [m, d]) <|>
    (do
      let _ ← maybe (keyword "type")
      let clause ← nameClause
      let source ← maybe g.fromClause
      lineClose
      return clause :: source.toList) <|>
    (do
      let _ ← maybe (keyword "type")
      mark "*"
      let _ ← maybe do keyword "as"; clauseName
      let source ← g.fromClause
      lineClose
      return [source]) <|>
    (do
      let d ← g.declaration false
      return [if d.kind = .importAlias then d else d.inRole .declaration]) <|>
    (do
      mark "="
      let e ← g.read (.expression {})
      lineClose
      return [e]) <|>
    (do
      keyword "as"
      keyword "namespace"
      let n ← anyName .identifier
      lineClose
      return [n])
  nodeFrom .exportStatement start (decorators ++ parts)

/-! ## Statements -/

def block (g : Grammar) : Reader Node := node .statementBlock do
  mark "\x7b"
  let ss ← many (g.read .statement)
  mark "\x7d"
  return ss

/-- An expression in brackets that a statement begins with. -/
def condition (g : Grammar) : Reader Node := do
  mark "("
  let e ← g.read (.expression {})
  mark ")"
  return e

def memberHead (g : Grammar) : Reader (List Node) := do
  let left ←
    (do
      let _ ← bindingWord
      let t ← g.read .target
      let type ← maybe g.typeClause
      let v ← maybe (g.initializer { loopHead := true })
      return [t] ++ type.toList ++ v.toList) <|>
    (do return [toTarget (← g.read (.operand { loopHead := true }))])
  let w ← wordAhead
  guardThat (w == "of" || w == "in")
  keyword w
  let right ← g.read (.expression {})
  return left ++ [right]

def countingHead (g : Grammar) : Reader (List Node) := do
  let first ← maybe (g.bindings { loopHead := true } <|> g.read (.expression { loopHead := true }))
  mark ";"
  let test ← maybe (g.read (.expression {}))
  mark ";"
  let step ← maybe (g.read (.expression {}))
  return first.toList ++ test.toList ++ step.toList

def forStatement (g : Grammar) : Reader Node := node .statement do
  keyword "for"
  let _ ← maybe (keyword "await")
  mark "("
  let head ← g.memberHead <|> g.countingHead
  mark ")"
  return head ++ [← g.read .statement]

def switchCase (g : Grammar) : Reader Node := node .statement do
  let test ←
    (do keyword "case"; return [← g.read (.expression {})]) <|>
    (do keyword "default"; return [])
  mark ":"
  let body ← many (g.read .statement)
  return test ++ body

def tryStatement (g : Grammar) : Reader Node := node .statement do
  keyword "try"
  let body ← g.functionBody false
  let handler ← maybe do
    keyword "catch"
    let bound ← maybe do
      mark "("
      let t ← g.read .target
      let type ← maybe g.typeClause
      mark ")"
      return t :: type.toList
    return bound.getD [] ++ [← g.functionBody false]
  let last ← maybe do keyword "finally"; g.functionBody false
  return [body] ++ handler.getD [] ++ last.toList

def wordStatement (g : Grammar) (w : String) : Reader Node := node .statement do
  match w with
  | "if" =>
      keyword w
      let test ← g.condition
      let yes ← g.read .statement
      let no ← maybe do keyword "else"; g.read .statement
      return [test, yes] ++ no.toList
  | "while" | "with" =>
      keyword w
      return [← g.condition, ← g.read .statement]
  | "do" =>
      keyword w
      let body ← g.read .statement
      keyword "while"
      let test ← g.condition
      lineClose
      return [body, test]
  | "switch" =>
      keyword w
      let subject ← g.condition
      mark "\x7b"
      let cases ← many g.switchCase
      mark "\x7d"
      return subject :: cases
  | "return" | "throw" =>
      keyword w
      let v ←
        if ← newLineAhead then pure none else maybe (g.read (.expression {}))
      lineClose
      return v.toList
  | "break" | "continue" =>
      keyword w
      let label ← if ← newLineAhead then pure none else maybe identifier
      lineClose
      return label.toList
  | "debugger" =>
      keyword w
      lineClose
      return []
  | _ => reject

def expressionStatement (g : Grammar) : Reader Node := node .statement do
  let e ← g.read (.expression {})
  lineClose
  return [e]

def labeledStatement (g : Grammar) : Reader Node := node .statement do
  let _ ← identifier
  mark ":"
  return [← g.read .statement]

def statementWords : List String :=
  ["if", "while", "with", "do", "switch", "return", "throw", "break", "continue", "debugger"]

def statement (g : Grammar) : Reader Node := do
  match ← ahead with
  | [] => reject
  | c :: _ =>
      if c = '\x7b' then g.read .block
      else if c = ';' then leaf .statement (mark ";")
      else if c = '\x7d' then reject
      else if c = '@' then
        (do
          let start ← offset
          let decorators ← many g.decorator
          g.exportStatement decorators start) <|> g.classDeclaration true <|> g.expressionStatement
      else
        let w ← wordAhead
        if statementWords.contains w then g.wordStatement w
        else if w == "for" then g.forStatement
        else if w == "try" then g.tryStatement
        else if w == "import" then
          g.importStatement <|> node .importStatement (do return [← g.importAlias]) <|>
            g.expressionStatement
        else if w == "export" then do
          let start ← offset
          g.exportStatement [] start
        else if w == "case" ∨ w == "default" then reject
        else g.declaration true <|> g.labeledStatement <|> g.expressionStatement

end CodeAtlas.Outline.Script.Grammar
