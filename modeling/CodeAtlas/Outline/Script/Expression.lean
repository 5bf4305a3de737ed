import CodeAtlas.Outline.Script.Grammar

/-! # Expressions -/
namespace CodeAtlas.Outline.Script.Grammar

def updatingOperators : List String :=
  [">>>=", "**=", "<<=", ">>=", "&&=", "||=", "??=", "*=", "/=", "%=", "+=", "-=", "&=", "|=", "^="]

/-- Operators between two operands, none a beginning of a later one. -/
def infixOperators : List String :=
  ["===", "!==", "==", "!=", "**", ">>>", "<<", ">>", "<=", ">=", "&&", "||", "??", "*", "/", "%",
    "+", "-", "<", ">", "&", "|", "^"]

def firstMark (marks : List String) : Reader String := do
  let cs ← ahead
  match marks.find? fun m => (Text.afterStart? m.toList cs).isSome with
  | some m => return m
  | none => reject

def infixOperator (place : Place) : Reader Unit := do
  let w ← wordAhead
  if w == "instanceof" then keyword w
  else if w == "in" then do guardThat !place.loopHead; keyword w
  else
    guardThat !(← wouldRead (firstMark updatingOperators))
    let m ← firstMark infixOperators
    eat m.length

/-- A conversion of the value before it: `as` or `satisfies` and a type. -/
def conversion (g : Grammar) : Reader Node := do
  let w ← wordAhead
  guardThat ((w == "as" || w == "satisfies") && !(← newLineAhead))
  keyword w
  if w == "as" ∧ (← wordAhead) == "const" then leaf .typeNode (keyword "const")
  else g.read .type

/-- A list, object or name on the left of an assignment, as the target that it stands for. -/
def toTarget : Node → Node
  | .mk k r s cs =>
      match k with
      | .object => .mk .objectPattern r s (toTargets cs)
      | .array => .mk .arrayPattern r s (toTargets cs)
      | .pair => .mk .pairPattern r s (toTargets cs)
      | .spread => .mk .restPattern r s (toTargets cs)
      | .assignmentExpression => .mk .assignmentPattern r s (toTargets cs)
      | _ => .mk k r s cs
where
  toTargets : List Node → List Node
    | [] => []
    | c :: cs => toTarget c :: toTargets cs

/-! ## Functions -/

/-- The body of a function. With `asValue`, the function may be a value. -/
def functionBody (g : Grammar) (asValue : Bool) : Reader Node := do
  guardThat (← sees "\x7b")
  let body ← g.read .block
  reachSemicolon asValue
  return body

/-- The parameters of an arrow function up to its arrow: one name, or a list in brackets. -/
def arrowHead (g : Grammar) (place : Place) : Reader (List Node) := do
  let head ← match ← maybe (do let n ← identifier; guardThat (← sees "=>"); return n) with
    | some n => pure [n.inRole .parameter]
    | none => do
        let generics ← maybe g.typeParameters
        let params ← g.parameters
        let result ← if place.beforeColon then pure none else maybe g.typeClause
        pure (generics.toList ++ [params.inRole .parameters] ++
          (result.map (·.inRole .returnType)).toList)
  guardThat !(← newLineAhead)
  mark "=>"
  return head

def arrowFunction (g : Grammar) (place : Place) : Reader Node := node .arrowFunction do
  let async ← maybe do
    let m ← keptWord .asyncMark "async"
    guardThat (!(← newLineAhead) && !(← sees "=>"))
    return m
  let head ← g.arrowHead place
  let body ←
    if ← sees "\x7b" then g.functionBody true else g.read (.assignment place)
  return async.toList ++ head ++ [body]

/-- The words that begin a function: maybe `async`, `function`, maybe a star. -/
def functionWords : Reader (List Node × Bool) := do
  let async ← maybe do
    let m ← keptWord .asyncMark "async"
    guardThat !(← newLineAhead)
    return m
  keyword "function"
  let generator ← accepts (mark "*")
  return (async.toList, generator)

def functionExpression (g : Grammar) : Reader Node := do
  let start ← offset
  let (async, generator) ← functionWords
  let name ← maybe identifier
  let sig ← g.signature
  let body ← g.functionBody true
  nodeFrom (if generator then .generatorFunction else .functionExpression) start
    (async ++ (name.map (·.inRole .name)).toList ++ sig ++ [body])

/-! ## Classes -/

def memberModifiers : List String :=
  ["public", "private", "protected", "static", "override", "readonly", "abstract", "declare",
    "accessor"]

/-- One modifier of a member: a word after which a member is named. -/
def memberModifier : Reader (List Node) := do
  let w ← wordAhead
  if memberModifiers.contains w then
    let _ ← modifierBefore [w]
    return []
  else if w == "get" ∨ w == "set" then
    let _ ← modifierBefore [w]
    return []
  else if w == "async" then
    let m ← keptWord .asyncMark "async"
    guardThat !(← newLineAhead)
    guardThat ((← wordAhead) != "" || (← sees "[") || (← sees "\"") || (← sees "'") ||
      (← sees "#") || (← sees "*") || (← ahead).head?.any Number.isDigit)
    return [m]
  else
    markNotBefore "*" "="
    return []

def lineClose : Reader Unit := do let _ ← maybe (mark ";")

def staticBlock (g : Grammar) : Reader Node := node .statement do
  keyword "static"
  return [← g.functionBody false]

/-- An index signature, maybe with modifiers. -/
def indexSignature (g : Grammar) : Reader Node := node .indexSignature do
  let _ ← many memberModifier
  let binder ← g.indexBinder
  let _ ← maybe (mark "?")
  let type ← maybe g.typeClause
  lineClose
  return binder ++ type.toList

/-- A method, a field or a method signature. -/
def namedMember (g : Grammar) (decorators : List Node) (start : Nat) : Reader (List Node) := do
  let here ← offset
  let marks ← many memberModifier
  let key ← g.propertyKey
  let _ ← maybe (mark "?")
  let _ ← maybe (markNotBefore "!" "=")
  let head := marks.flatten ++ [key.inRole .name]
  match ← maybe g.signature with
  | some sig =>
      match ← maybe (g.functionBody false) with
      | some body =>
          let m ← nodeFrom .methodDefinition here (head ++ sig ++ [body])
          lineClose
          return decorators ++ [m]
      | none =>
          let m ← nodeFrom .methodSignature here (head ++ sig)
          lineClose
          return decorators ++ [m]
  | none =>
      let type ← maybe g.typeClause
      let v ← maybe (g.initializer {})
      let m ← nodeFrom .fieldDefinition start
        (decorators ++ head ++ (type.map (·.inRole .type)).toList ++ (v.map (·.inRole .value)).toList)
      lineClose
      return [m]

def classBody (g : Grammar) : Reader Node := node .classBody do
  mark "\x7b"
  let members ← many do
    guardThat !(← sees "\x7d")
    if ← accepts (mark ";") then return []
    match ← maybe g.staticBlock with
    | some b => return [b]
    | none =>
        let start ← offset
        let decorators ← many g.decorator
        match ← maybe g.indexSignature with
        | some m => return decorators ++ [m]
        | none => g.namedMember decorators start
  mark "\x7d"
  return members.flatten

def heritage (g : Grammar) : Reader Node := node .classHeritage do
  if ← accepts (keyword "extends") then
    commaList do
      let start ← offset
      let base ← g.read (.operand {})
      match ← maybe g.typeArguments with
      | some args => nodeFrom .instantiation start [base, args]
      | none => return base
  else
    keyword "implements"
    commaList (g.read .type)

/-- A class after its keyword: maybe a name, type parameters, heritage and body. -/
def classTail (g : Grammar) : Reader (List Node) := do
  let name ← maybe do
    guardThat (!(["extends", "implements"].contains (← wordAhead)))
    identifier
  let generics ← maybe g.typeParameters
  let bases ← many g.heritage
  let body ← g.classBody
  return (name.map (·.inRole .name)).toList ++ generics.toList ++ bases ++ [body]

def classExpression (g : Grammar) : Reader Node := node .classExpression do
  let decorators ← many g.decorator
  keyword "class"
  return decorators ++ (← g.classTail)

/-! ## Lists and objects -/

def spread (g : Grammar) : Reader Node := node .spread do
  mark "..."
  return [← g.value]

/-- Arguments of a call. A comment before the first is their first child. -/
def arguments (g : Grammar) : Reader Node := node .arguments do
  mark "("
  let comments ← commentsHere
  let items ← commaList (g.spread <|> g.value)
  mark ")"
  return comments ++ items

/-- A list; elements may be absent. -/
def array (g : Grammar) : Reader Node := node .array do
  mark "["
  let items ← many do
    if ← accepts (mark ",") then return []
    let e ← (g.spread <|> g.value)
    let _ ← maybe (mark ",")
    return [e]
  mark "]"
  return items.flatten

def methodMarks : Reader (List Node) := do
  let parts ← many do
    let w ← wordAhead
    guardThat (w == "async" || w == "get" || w == "set" || w == "" )
    memberModifier
  return parts.flatten

def objectMethod (g : Grammar) : Reader Node := node .methodDefinition do
  let marks ← methodMarks
  let key ← g.propertyKey
  let _ ← maybe (mark "?")
  let sig ← g.signature
  let body ← g.functionBody false
  return marks ++ [key.inRole .name] ++ sig ++ [body]

/-- A property of an object: spread, pair, method or shorthand. -/
def property (g : Grammar) : Reader Node := do
  if ← sees "..." then g.spread
  else
    match ← maybe g.objectMethod with
    | some m => return m
    | none =>
        let start ← offset
        let key ← g.propertyKey
        if ← accepts (mark ":") then
          let v ← g.value
          nodeFrom .pair start [key.inRole .key, v.inRole .value]
        else
          guardThat (key.kind = .propertyName)
          let name := key.ofKind .shorthandProperty
          match ← maybe (g.initializer {}) with
          | some v => nodeFrom .assignmentPattern start [name.inRole .left, v.inRole .right]
          | none => return name

def object (g : Grammar) : Reader Node := node .object do
  mark "\x7b"
  let ps ← commaList g.property
  mark "\x7d"
  return ps

/-- Template text with expressions in its substitutions. -/
def template (g : Grammar) : Reader Node := templateWith (g.read (.expression {}))

/-! ## Operands -/

/-- A call of `import`, or one of its properties. -/
def importOperand (g : Grammar) : Reader Node := do
  (node .metaProperty do
      keyword "import"
      mark "."
      return [← anyName .propertyName]) <|>
    importCall g.arguments

def parenthesized (g : Grammar) : Reader Node := node .parenthesized do
  mark "("
  let e ← g.read (.expression {})
  let type ← maybe g.typeClause
  mark ")"
  return e :: type.toList

def primary (g : Grammar) : Reader Node := do
  match ← ahead with
  | [] => reject
  | c :: _ =>
      if c = '(' then g.parenthesized
      else if c = '[' then g.array
      else if c = '\x7b' then g.object
      else if c = '"' ∨ c = '\'' then stringLiteral
      else if c.toNat = 0x60 then g.template
      else if c = '/' then regexLiteral
      else if c = '<' then do guardThat !g.casts; g.read .markup
      else if c = '@' then g.classExpression
      else if c = '#' then g.propertyKey
      else if Number.isDigit c ∨ c = '.' then numberLiteral
      else
        let w ← wordAhead
        if w == "this" then leaf .this (keyword w)
        else if w == "super" then leaf .super (keyword w)
        else if ["null", "true", "false"].contains w then leaf .literal (keyword w)
        else if w == "function" then g.functionExpression
        else if w == "class" then g.classExpression
        else if w == "import" then g.importOperand
        else if w == "async" then g.functionExpression <|> identifier
        else identifier

/-- Whether an expression with type arguments may end here. -/
def instantiationEnd : Reader Bool := do
  match ← ahead with
  | [] => return true
  | c :: _ => return ")],;:.?\x7d".toList.contains c || (← newLineAhead)

/-- What a dot or a bracket after a value adds to it. With `calls`, also what a call adds. -/
def suffix (g : Grammar) (start : Nat) (calls : Bool) (n : Node) : Reader Node := do
  let call (args : Reader (List Node)) : Reader Node := do
    guardThat calls
    nodeFrom .callExpression start (n.inRole .function :: (← args))
  let plainArguments : Reader (List Node) := do return [(← g.arguments).inRole .arguments]
  let templateArguments : Reader (List Node) := do return [(← g.template).inRole .arguments]
  let typedArguments : Reader (List Node) := do
    let types ← g.typeArguments
    let args ← (g.arguments <|> g.template)
    return [types, args.inRole .arguments]
  let subscript : Reader Node := do
    mark "["
    let e ← g.read (.expression {})
    mark "]"
    nodeFrom .subscriptExpression start [n.inRole .object, e]
  let member : Reader Node := do
    let name ←
      if ← sees "#" then g.propertyKey else anyName .propertyName
    nodeFrom .memberExpression start [n.inRole .object, name.inRole .property]
  match ← ahead with
  | '?' :: '.' :: d :: _ =>
      guardThat !(Number.isDigit d)
      mark "?."
      if ← sees "(" then call plainArguments
      else if ← sees "[" then subscript
      else if ← sees "<" then call typedArguments
      else member
  | '.' :: '.' :: _ => reject
  | '.' :: _ => mark "."; member
  | '[' :: _ => subscript
  | '(' :: _ => call plainArguments
  | '!' :: '=' :: _ => reject
  | '!' :: _ =>
      guardThat !(← newLineAhead)
      mark "!"
      nodeFrom .nonNull start [n]
  | '<' :: _ =>
      (call typedArguments) <|> do
        let types ← g.typeArguments
        guardThat (← instantiationEnd)
        nodeFrom .instantiation start [n, types]
  | c :: _ =>
      guardThat (c.toNat = 0x60)
      call templateArguments
  | [] => reject

def suffixes (g : Grammar) (start : Nat) (calls : Bool) : (fuel : Nat) → Node → Reader Node
  | 0, n => return n
  | fuel + 1, n => do
      match ← maybe (g.suffix start calls n) with
      | some m => suffixes g start calls fuel m
      | none => return n

def allSuffixes (g : Grammar) (start : Nat) (calls : Bool) (n : Node) : Reader Node := fun c =>
  g.suffixes start calls (c.rest.length + 1) n c

/-- An object made by a constructor. The first arguments belong to it. -/
def newExpression (g : Grammar) : Reader Node := node .newExpression do
  keyword "new"
  if ← sees "." then
    mark "."
    return [← anyName .propertyName]
  else
    let start ← offset
    let callee ←
      if (← wordAhead) == "new" then g.read (.operand {})
      else g.allSuffixes start false (← g.primary)
    let types ← maybe g.typeArguments
    let args ← maybe g.arguments
    return callee :: types.toList ++ (args.map (·.inRole .arguments)).toList

/-- A value and its suffixes, and maybe a step up or down. -/
def postfixOperand (g : Grammar) : Reader Node := do
  let start ← offset
  let base ← if (← wordAhead) == "new" then g.newExpression else g.primary
  let n ← g.allSuffixes start true base
  if !(← newLineAhead) && ((← sees "++") || (← sees "--")) then
    eat 2
    nodeFrom .update start [n]
  else return n

def prefixWords : List String := ["typeof", "void", "delete", "await"]

def prefixedOperand (g : Grammar) (place : Place) : Reader Node := do
  let w ← wordAhead
  if prefixWords.contains w then
    (node .unary do
        keyword w
        return [← g.read (.operand place)]) <|> g.postfixOperand
  else
    match ← ahead with
    | '+' :: '+' :: _ => node .update do mark "++"; return [← g.read (.operand place)]
    | '-' :: '-' :: _ => node .update do mark "--"; return [← g.read (.operand place)]
    | c :: _ =>
        if "+-!~".toList.contains c then
          node .unary do
            eat 1
            return [← g.read (.operand place)]
        else if c = '<' ∧ g.casts then
          node .typeAssertion do
            let types ← g.typeArguments
            return [types, ← g.read (.operand place)]
        else g.postfixOperand
    | [] => reject

/-- An arrow function with a block can be called at once, like any value. -/
def arrowOperand (g : Grammar) (place : Place) : Reader Node := do
  let start ← offset
  let f ← g.arrowFunction place
  match f.children.getLast? with
  | some body =>
      if body.kind = .statementBlock then g.allSuffixes start true f else return f
  | none => return f

/-- An operand of an operator. Markup is preferred to a generic arrow function unless a comma or a
bound follows the name of its first type parameter. -/
def operand (g : Grammar) (place : Place) : Reader Node := do
  match ← ahead with
  | '<' :: _ =>
      if g.casts then g.arrowOperand place <|> g.prefixedOperand place
      else
        let generic ← wouldRead do
          mark "<"
          let _ ← maybe (keyword "const")
          let _ ← identifier
          guardThat ((← sees ",") || (← wordAhead) == "extends")
        if generic then g.arrowOperand place <|> g.prefixedOperand place
        else g.prefixedOperand place <|> g.arrowOperand place
  | '(' :: _ => g.arrowOperand place <|> g.prefixedOperand place
  | _ =>
      let w ← wordAhead
      if w != "" && !reservedWords.contains w then
        g.arrowOperand place <|> g.prefixedOperand place
      else g.prefixedOperand place

/-! ## Operators -/

/-- Operands with operators and conversions between them. -/
def binary (g : Grammar) (place : Place) : Reader Node := do
  let start ← offset
  let first ← g.read (.operand place)
  let rest ← many (g.conversion <|> do infixOperator place; g.read (.operand place))
  if rest.isEmpty then return first else nodeFrom .binary start (first :: rest)

/-- A choice between two values. What stands before the colon is read first with types after
brackets, and without them if no colon is left for the choice. -/
def conditional (g : Grammar) (place : Place) : Reader Node := do
  let start ← offset
  let test ← g.binary place
  let choice ← maybe do
    guardThat !(← wouldRead (firstMark ["??", "?."]))
    mark "?"
    let yes (inner : Place) : Reader Node := do
      let e ← g.read (.assignment inner)
      mark ":"
      return e
    let e ← (yes {} <|> yes { beforeColon := true })
    return (e, ← g.read (.assignment place))
  match choice with
  | some (yes, no) => nodeFrom .conditional start [test, yes, no]
  | none => return test

def yieldExpression (g : Grammar) (place : Place) : Reader Node := node .yieldExpression do
  keyword "yield"
  if ← newLineAhead then return []
  match ← ahead with
  | [] => return []
  | c :: _ =>
      if ")],;:\x7d".toList.contains c then return []
      let _ ← maybe (mark "*")
      return [← g.read (.assignment place)]

def assignment (g : Grammar) (place : Place) : Reader Node := do
  if (← wordAhead) == "yield" then g.yieldExpression place
  else
    let start ← offset
    let left ← g.conditional place
    match ← maybe (g.initializer place) with
    | some v =>
        nodeFrom .assignmentExpression start [(toTarget left).inRole .left, v.inRole .right]
    | none =>
        let updated ← maybe do
          let m ← firstMark updatingOperators
          eat m.length
          g.read (.assignment place)
        match updated with
        | some v => nodeFrom .augmentedAssignment start [left.inRole .left, v.inRole .right]
        | none => return left

/-- An expression, maybe with commas. -/
def expression (g : Grammar) (place : Place) : Reader Node := do
  let start ← offset
  let first ← g.read (.assignment place)
  let rest ← many do mark ","; g.read (.assignment place)
  if rest.isEmpty then return first else nodeFrom .sequence start (first :: rest)

/-! ## Markup -/

/-- A name of an element or an attribute, with dashes, dots and colons. -/
def markupName : Reader Unit := do
  let rec length : (fuel : Nat) → List Char → Nat
    | 0, _ => 0
    | fuel + 1, cs =>
        let n := nameLength cs
        if n = 0 then 0
        else
          match cs.drop n with
          | c :: rest =>
              if c = '-' then
                let m := (rest.takeWhile fun d => Number.isDigit d || d == '-').length
                n + 1 + m + length fuel (rest.drop m)
              else if c = ':' ∨ c = '.' then n + 1 + length fuel rest
              else n
          | [] => n
  let cs ← ahead
  let n := length cs.length cs
  guardThat (n != 0)
  eat n

/-- An expression in braces, maybe empty or spread. -/
def markupBraces (g : Grammar) (close : Nat → Reader Unit) : Reader Node :=
  node .markupExpression do
    mark "\x7b"
    let e ← maybe (g.spread <|> g.read (.expression {}))
    guardThat (← sees "\x7d")
    close 1
    return e.toList

/-- The length of quoted text up to its closing quote, without escapes. -/
def quotedLength (quote : Char) (cs : List Char) : Nat := (cs.takeWhile (· != quote)).length

def markupAttribute (g : Grammar) : Reader (List Node) := do
  if ← sees "\x7b" then return [← g.markupBraces eat]
  else
    markupName
    if ← accepts (mark "=") then
      match ← ahead with
      | '\x7b' :: _ => return [← g.markupBraces eat]
      | '<' :: _ => return [← g.read .markup]
      | c :: cs =>
          guardThat (c == '"' || c == '\'')
          return [← leaf .string (eat (quotedLength c cs + 2))]
      | [] => reject
    else return []

def markupChild (g : Grammar) (element : (Nat → Reader Unit) → Reader Node) :
    Reader (List Node) := do
  match ← ahead with
  | '<' :: '/' :: _ => reject
  | '<' :: _ =>
      -- Blanks may stand between the bracket and the slash of the closing tag.
      guardThat !(← wouldRead do mark "<"; mark "/")
      return [← element eatRaw]
  | '\x7b' :: _ => return [← g.markupBraces eatRaw]
  | cs =>
      let n := (cs.takeWhile fun c => c != '<' && c != '\x7b').length
      guardThat (n != 0)
      eatRaw n
      return []

/-- An element; `close n` takes its last `n` characters. -/
def markupElement (g : Grammar) (read : (Nat → Reader Unit) → Reader Node)
    (close : Nat → Reader Unit) : Reader Node := node .markup do
  mark "<"
  let _ ← maybe markupName
  let types ← maybe g.typeArguments
  let attributes ← many g.markupAttribute
  if ← sees "/" then
    mark "/"
    guardThat (← sees ">")
    close 1
    return types.toList ++ attributes.flatten
  else
    guardThat (← sees ">")
    eatRaw 1
    let children ← many (g.markupChild read)
    mark "<"
    mark "/"
    let _ ← maybe markupName
    guardThat (← sees ">")
    close 1
    return types.toList ++ attributes.flatten ++ children.flatten

/-- Elements inside elements, at most `fuel` deep. -/
def markupWithin (g : Grammar) : (fuel : Nat) → (Nat → Reader Unit) → Reader Node
  | 0, _ => reject
  | fuel + 1, close => g.markupElement (markupWithin g fuel) close

def markup (g : Grammar) : Reader Node := fun c => g.markupWithin (c.rest.length + 1) eat c

end CodeAtlas.Outline.Script.Grammar
