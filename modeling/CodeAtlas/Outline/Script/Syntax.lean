/-! # Syntax trees of scripts

A node covers a stretch of the source and has a kind, a role in its parent, and children in source
order. `Node.preorder` lists a tree in document order. -/
namespace CodeAtlas.Outline.Script

/-- The kinds of nodes. The last two are keywords, which are in the tree but are not named. -/
inductive Kind where
  | program
  | statement
  | statementBlock
  | importStatement
  | importAlias
  | exportStatement
  | exportClause
  | exportSpecifier
  | functionDeclaration
  | generatorDeclaration
  | functionSignature
  | functionExpression
  | generatorFunction
  | arrowFunction
  | classDeclaration
  | abstractClassDeclaration
  | classExpression
  | classBody
  | classHeritage
  | methodDefinition
  | methodSignature
  | fieldDefinition
  | indexSignature
  | decorator
  | lexicalDeclaration
  | variableDeclaration
  | variableDeclarator
  | typeAlias
  | interfaceDeclaration
  | enumDeclaration
  | moduleDeclaration
  | ambientDeclaration
  | formalParameters
  | requiredParameter
  | optionalParameter
  | typeClause
  | typeNode
  | object
  | objectPattern
  | pair
  | pairPattern
  | shorthandProperty
  | spread
  | restPattern
  | array
  | arrayPattern
  | assignmentExpression
  | augmentedAssignment
  | assignmentPattern
  | sequence
  | conditional
  | binary
  | unary
  | update
  | yieldExpression
  | typeAssertion
  | callExpression
  | newExpression
  | memberExpression
  | subscriptExpression
  | nonNull
  | instantiation
  | parenthesized
  | arguments
  | identifier
  | propertyName
  | privateName
  | computedName
  | string
  | templateString
  | templateSubstitution
  | regex
  | number
  | literal
  | this
  | super
  | importCallee
  | metaProperty
  | markup
  | markupExpression
  | comment
  | asyncMark
  | defaultMark
  deriving DecidableEq, Repr, Inhabited

/-- Whether nodes of a kind are named; keywords are not. -/
def Kind.isNamed : Kind → Bool
  | asyncMark | defaultMark => false
  | _ => true

/-- What a node is to its parent. -/
inductive Role where
  | source
  | function
  | arguments
  | name
  | value
  | key
  | left
  | right
  | object
  | property
  | parameters
  | parameter
  | returnType
  | declaration
  | alias
  | pattern
  | type
  deriving DecidableEq, Repr

/-- A stretch of the source, in characters. -/
structure Span where
  start : Nat
  length : Nat
  deriving DecidableEq, Repr, Inhabited

def Span.stop (s : Span) : Nat := s.start + s.length

theorem Span.start_le_stop (s : Span) : s.start ≤ s.stop := Nat.le_add_right ..

def Span.text (s : Span) (source : List Char) : List Char := (source.drop s.start).take s.length

inductive Node where
  | mk (kind : Kind) (role : Option Role) (span : Span) (children : List Node)
  deriving Repr, Inhabited

namespace Node

def kind : Node → Kind
  | mk k _ _ _ => k

def role : Node → Option Role
  | mk _ r _ _ => r

def span : Node → Span
  | mk _ _ s _ => s

def children : Node → List Node
  | mk _ _ _ cs => cs

def inRole (r : Role) : Node → Node
  | mk k _ s cs => mk k (some r) s cs

def ofKind (k : Kind) : Node → Node
  | mk _ r s cs => mk k r s cs

def named (n : Node) : List Node := n.children.filter (·.kind.isNamed)

def child? (n : Node) (r : Role) : Option Node := n.children.find? (·.role = some r)

def text (n : Node) (source : List Char) : List Char := n.span.text source

def size : Node → Nat
  | mk _ _ _ cs => 1 + sizes cs
where
  sizes : List Node → Nat
    | [] => 0
    | c :: cs => size c + sizes cs

/-- The named nodes of a tree in document order: a node before its children, a child before the
next one. -/
def preorder : Node → List Node
  | mk k r s cs => mk k r s cs :: preorders cs
where
  preorders : List Node → List Node
    | [] => []
    | c :: cs => if c.kind.isNamed then preorder c ++ preorders cs else preorders cs

end Node

/-- What reads a source as a syntax tree, if it can. In some sources angle brackets before an
operand are casts; elsewhere they are markup. -/
abbrev Parser := (hasCasts : Bool) → (source : List Char) → Option Node

end CodeAtlas.Outline.Script
