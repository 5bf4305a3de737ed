import CodeAtlas.Outline.Script.Scan

/-! # The grammar as rules over smaller rules

Productions that contain one another go through `Grammar.read`, so each production is a plain
definition and the knot is tied once, in `Script.Parser`. -/
namespace CodeAtlas.Outline.Script

/-- Where an expression stands: in the head of a loop, where `in` is no operator, or between the
marks of a conditional, where a colon ends it. -/
structure Place where
  loopHead : Bool := false
  beforeColon : Bool := false
  deriving DecidableEq, Repr

/-- The productions that others refer to. -/
inductive Rule where
  | statement
  | block
  | expression (place : Place)
  | assignment (place : Place)
  | operand (place : Place)
  | type
  | target
  | markup
  deriving DecidableEq, Repr

/-- Whether angle brackets before an operand are casts or markup, and how to read a rule. -/
structure Grammar where
  casts : Bool
  read : Rule → Reader Node

namespace Grammar

/-- An expression without commas, anywhere. -/
def value (g : Grammar) : Reader Node := g.read (.assignment {})

/-- Items with commas between them and maybe one behind the last. -/
def commaListWithin (r : Reader α) : (fuel : Nat) → Reader (List α)
  | 0 => pure []
  | fuel + 1 => do
      match ← maybe r with
      | none => return []
      | some a =>
          if ← accepts (mark ",") then return a :: (← commaListWithin r fuel)
          else return [a]

def commaList (r : Reader α) : Reader (List α) := fun c =>
  commaListWithin r (c.rest.length + 1) c

/-- A word in square brackets, or a name, string or number: what a property is called. -/
def propertyKey (g : Grammar) : Reader Node := do
  match ← ahead with
  | '[' :: _ =>
      node .computedName do
        mark "["
        let e ← g.value
        mark "]"
        return [e]
  | '"' :: _ => stringLiteral
  | '\'' :: _ => stringLiteral
  | '#' :: cs => leaf .privateName (eat (1 + nameLength cs))
  | _ =>
      match ← maybe numberLiteral with
      | some n => return n
      | none => anyName .propertyName

/-! ## Types -/

def typeParameters (g : Grammar) : Reader Node := node .typeNode do
  mark "<"
  let parts ← commaList do
    let _ ← anyName .identifier
    let _ ← many do
      guardThat ((← wordAhead) != "extends")
      anyName .identifier
    let bound ← maybe do keyword "extends"; g.read .type
    let default ← maybe do mark "="; g.read .type
    return bound.toList ++ default.toList
  mark ">"
  return parts.flatten

def typeArguments (g : Grammar) : Reader Node := node .typeNode do
  mark "<"
  let parts ← commaList (g.read .type)
  mark ">"
  return parts

def typeClause (g : Grammar) : Reader Node := node .typeClause do
  mark ":"
  return [← g.read .type]

def initializer (g : Grammar) (place : Place) : Reader Node := do
  markNotBefore "=" "=>"
  g.read (.assignment place)

/-- A decorator: a name, its members, and maybe a call. -/
def decorator (g : Grammar) : Reader Node := node .decorator do
  mark "@"
  return [← g.read (.operand {})]

def parameterModifiers : List String := ["public", "private", "protected", "override", "readonly"]

/-- A modifier, if something is named after it. -/
def modifierBefore (words : List String) : Reader String := do
  let w ← wordAhead
  guardThat (words.contains w)
  eat w.length
  match ← ahead with
  | c :: _ => guardThat ((← wordAhead) != "" || c == '[' || c == '\x7b' || c == '"' || c == '\'' ||
      c == '#' || c == '*' || Number.isDigit c)
  | [] => reject
  return w

def parameter (g : Grammar) : Reader Node := do
  let start ← offset
  let decorators ← many g.decorator
  let _ ← many (modifierBefore parameterModifiers)
  let pattern ←
    if ← sees "..." then
      node .restPattern do
        mark "..."
        return [← g.read .target]
    else if (← wordAhead) == "this" then leaf .this (keyword "this")
    else g.read .target
  let isOptional ← accepts (mark "?")
  let type ← maybe g.typeClause
  let default ← maybe (g.initializer {})
  nodeFrom (if isOptional then .optionalParameter else .requiredParameter) start
    (decorators ++ [pattern.inRole .pattern] ++ (type.map (·.inRole .type)).toList ++
      (default.map (·.inRole .value)).toList)

def parameters (g : Grammar) : Reader Node := node .formalParameters do
  mark "("
  let ps ← commaList g.parameter
  mark ")"
  return ps

/-- Type parameters, parameters and the type of the result. -/
def signature (g : Grammar) : Reader (List Node) := do
  let generics ← maybe g.typeParameters
  let params ← g.parameters
  let result ← maybe g.typeClause
  return generics.toList ++ [params.inRole .parameters] ++ (result.map (·.inRole .returnType)).toList

/-- The members of an object type end at a semicolon, a comma or a line end. -/
def memberEnd : Reader Unit := do
  let _ ← maybe (mark ";")
  let _ ← maybe (mark ",")

/-- A name bound over a set of keys, or an index, in square brackets. -/
def indexBinder (g : Grammar) : Reader (List Node) := do
  mark "["
  let _ ← identifier
  let parts ←
    if ← accepts (keyword "in") then do
      let keys ← g.read .type
      let renamed ← maybe do keyword "as"; g.read .type
      pure ([keys] ++ renamed.toList)
    else do
      mark ":"
      pure [← g.read .type]
  mark "]"
  return parts

def typeMember (g : Grammar) : Reader (List Node) := do
  let _ ← maybe do
    let _ ← maybe (mark "+")
    let _ ← maybe (mark "-")
    modifierBefore ["readonly"]
  let _ ← maybe (modifierBefore ["get", "set", "readonly"])
  let name ← match ← maybe g.indexBinder with
    | some parts => pure parts
    | none =>
        match ← ahead with
        | '(' :: _ => pure []
        | '<' :: _ => pure []
        | _ => pure [← g.propertyKey]
  let _ ← maybe (mark "-")
  let _ ← maybe (mark "+")
  let _ ← maybe (mark "?")
  let rest ← match ← maybe g.signature with
    | some parts => pure parts
    | none => pure (← maybe g.typeClause).toList
  memberEnd
  return name ++ rest

/-- An object type, an interface body. -/
def objectType (g : Grammar) : Reader Node := node .typeNode do
  mark "\x7b"
  let _ ← maybe (mark "|")
  let members ← many do
    guardThat !(← sees "\x7d")
    g.typeMember
  let _ ← maybe (mark "|")
  mark "\x7d"
  return members.flatten

/-- A function type: its signature, an arrow and its result. -/
def functionType (g : Grammar) : Reader Node := node .typeNode do
  let _ ← maybe (do keyword "abstract"; guardThat ((← wordAhead) == "new"))
  let _ ← maybe (keyword "new")
  let generics ← maybe g.typeParameters
  let params ← g.parameters
  mark "=>"
  let result ← g.read .type
  return generics.toList ++ [params, result]

def templateWith (inner : Reader Node) : Reader Node := node .templateString do
  match ← ahead with
  | c :: _ => guardThat (c.toNat == 0x60)
  | [] => reject
  eatRaw 1
  let parts ← many do
    let n := templateTextLength (← ahead)
    eatRaw n
    let start ← offset
    guardThat (← sees "$\x7b")
    eat 2
    let e ← inner
    guardThat (← sees "\x7d")
    eatRaw 1
    nodeFrom .templateSubstitution start [e]
  let n := templateTextLength (← ahead)
  eatRaw n
  match ← ahead with
  | c :: _ => guardThat (c.toNat == 0x60)
  | [] => reject
  eat 1
  return parts

/-- A call of the loader: the word `import` and its arguments. -/
def importCall (args : Reader Node) : Reader Node := node .callExpression do
  let callee ← keptWord .importCallee "import"
  let args ← args
  return [callee.inRole .function, args.inRole .arguments]

/-- String arguments in brackets, as types hold them. -/
def typeImportArguments (g : Grammar) : Reader Node := node .arguments do
  mark "("
  let items ← commaList g.value
  mark ")"
  return items

def namedType (g : Grammar) : Reader (List Node) := do
  let _ ← anyName .identifier
  let _ ← many do
    guardThat !(← sees "...")
    mark "."
    anyName .identifier
  let args ← maybe do
    guardThat !(← newLineAhead)
    g.typeArguments
  return args.toList

def tupleElement (g : Grammar) : Reader Node := do
  let _ ← maybe (mark "...")
  let _ ← maybe do
    let _ ← anyName .identifier
    let _ ← maybe (mark "?")
    mark ":"
  let t ← g.read .type
  let _ ← maybe (mark "?")
  return t

def primaryType (g : Grammar) : Reader Node := do
  let cs ← ahead
  match cs with
  | '(' :: _ =>
      node .typeNode do
        mark "("
        let t ← g.read .type
        mark ")"
        return [t]
  | '[' :: _ =>
      node .typeNode do
        mark "["
        let ts ← commaList g.tupleElement
        mark "]"
        return ts
  | '\x7b' :: _ => g.objectType
  | '"' :: _ => stringLiteral
  | '\'' :: _ => stringLiteral
  | '-' :: _ => node .typeNode do mark "-"; return [← numberLiteral]
  | '*' :: _ => leaf .typeNode (mark "*")
  | '?' :: _ => node .typeNode do mark "?"; return [← g.read .type]
  | c :: _ =>
      if c.toNat = 0x60 then templateWith (g.read .type)
      else if Number.isDigit c then numberLiteral
      else
        let w ← wordAhead
        if w == "typeof" then
          node .typeNode do
            keyword "typeof"
            if (← wordAhead) == "import" then
              let call ← importCall g.typeImportArguments
              let _ ← many do mark "."; anyName .identifier
              let args ← maybe g.typeArguments
              return [call] ++ args.toList
            else g.namedType
        else if w == "import" then
          node .typeNode do
            keyword "import"
            let _ ← g.typeImportArguments
            let _ ← many do mark "."; anyName .identifier
            let args ← maybe g.typeArguments
            return args.toList
        else if w == "unique" then
          node .typeNode do
            keyword "unique"
            let _ ← maybe (keyword "symbol")
            return []
        else if ["void", "null", "this", "true", "false", "const"].contains w then
          leaf .typeNode (keyword w)
        else
          guardThat (w != "" && !reservedWords.contains w)
          node .typeNode g.namedType
  | [] => reject

def postfixType (g : Grammar) : Reader Node := do
  let w ← wordAhead
  if ["keyof", "readonly", "infer"].contains w then
    let prefixed ← maybe <| node .typeNode do
      keyword w
      if w == "infer" then
        let _ ← anyName .identifier
        let bound ← maybe do
          keyword "extends"
          let t ← g.read .type
          guardThat !(← sees "?")
          return t
        return bound.toList
      else return [← g.read .type]
    match prefixed with
    | some t => return t
    | none => g.primaryType
  else
    let start ← offset
    let t ← g.primaryType
    let suffixes ← many do
      guardThat !(← newLineAhead)
      mark "["
      let inner ← maybe (g.read .type)
      mark "]"
      return inner.toList
    if suffixes.isEmpty then return t else nodeFrom .typeNode start (t :: suffixes.flatten)

def type (g : Grammar) : Reader Node := do
  let start ← offset
  let predicate ← maybe do
    let w ← wordAhead
    let asserting ← accepts do
      keyword "asserts"
      guardThat ((← wordAhead) != "" && (← wordAhead) != "is" && !(← newLineAhead))
    let _ ← anyName .identifier
    guardThat !(← newLineAhead)
    if (← wordAhead) == "is" then
      keyword "is"
      let t ← g.read .type
      nodeFrom .typeNode start [t]
    else
      guardThat (asserting && w == "asserts")
      nodeFrom .typeNode start []
  match predicate with
  | some t => return t
  | none =>
      match ← maybe g.functionType with
      | some t => return t
      | none =>
          let _ ← maybe (mark "|")
          let _ ← maybe (mark "&")
          let first ← g.postfixType
          let rest ← many do
            let _ ← (markNotBefore "|" "|=" <|> markNotBefore "&" "&=")
            match ← maybe g.functionType with
            | some t => return t
            | none => g.postfixType
          let checked ← maybe do
            keyword "extends"
            let bound ← g.read .type
            mark "?"
            let yes ← g.read .type
            mark ":"
            let no ← g.read .type
            return [bound, yes, no]
          match rest, checked with
          | [], none => return first
          | _, _ => nodeFrom .typeNode start (first :: rest ++ checked.getD [])

/-! ## Targets of bindings -/

def targetWithDefault (g : Grammar) : Reader Node := do
  let start ← offset
  let t ← g.read .target
  match ← maybe (g.initializer {}) with
  | some v => nodeFrom .assignmentPattern start [t.inRole .left, v.inRole .right]
  | none => return t

def targetProperty (g : Grammar) : Reader Node := do
  if ← sees "..." then
    node .restPattern do
      mark "..."
      return [← g.read .target]
  else
    let start ← offset
    let key ← g.propertyKey
    if ← accepts (mark ":") then
      let t ← g.targetWithDefault
      nodeFrom .pairPattern start [key.inRole .key, t.inRole .value]
    else
      let name := key.ofKind .shorthandProperty
      match ← maybe (g.initializer {}) with
      | some v => nodeFrom .assignmentPattern start [name.inRole .left, v.inRole .right]
      | none => return name

/-- One element of a target in brackets; an element may be absent. -/
def targetElement (g : Grammar) : Reader Node := do
  if ← sees "..." then
    node .restPattern do
      mark "..."
      return [← g.read .target]
  else g.targetWithDefault

def target (g : Grammar) : Reader Node := do
  match ← ahead with
  | '\x7b' :: _ =>
      node .objectPattern do
        mark "\x7b"
        let ps ← commaList g.targetProperty
        mark "\x7d"
        return ps
  | '[' :: _ =>
      node .arrayPattern do
        mark "["
        let es ← many do
          if ← accepts (mark ",") then return []
          let e ← g.targetElement
          let _ ← maybe (mark ",")
          return [e]
        mark "]"
        return es.flatten
  | _ => identifier

end Grammar

end CodeAtlas.Outline.Script
