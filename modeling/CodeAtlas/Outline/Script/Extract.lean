import CodeAtlas.Outline.Basic
import CodeAtlas.Outline.Script.Syntax
import CodeAtlas.Text.Blank

/-! # Outlines of syntax trees

A tree is walked with a stack, in document order. Imports, exports and calls are names in the
order of their first appearance; a symbol stands for a function, a class or a method, named by
itself or by what holds it. -/
namespace CodeAtlas.Outline.Script

/-- A node on the way through a tree: the kind of its parent, and whether an export statement is
above it. -/
structure Visit where
  node : Node
  parent : Option Kind
  exported : Bool

/-- The visits of the named children of a visited node. -/
def Visit.below (v : Visit) : List Visit :=
  v.node.named.map fun child =>
    ⟨child, some v.node.kind, v.exported || v.node.kind == .exportStatement⟩

def stackSize : List Visit → Nat
  | [] => 0
  | v :: vs => v.node.size + stackSize vs

theorem stackSize_append (vs ws : List Visit) :
    stackSize (vs ++ ws) = stackSize vs + stackSize ws := by
  induction vs with
  | nil => simp [stackSize]
  | cons v vs ih => simp [stackSize, ih]; omega

theorem stackSize_named_le (cs : List Node) (p : Option Kind) (e : Bool) :
    stackSize ((cs.filter (·.kind.isNamed)).map fun child => ⟨child, p, e⟩) ≤
      Node.size.sizes cs := by
  induction cs with
  | nil => simp [stackSize]
  | cons c cs ih =>
    simp only [List.filter_cons, Node.size.sizes]
    split
    · simp only [List.map_cons, stackSize]; exact Nat.add_le_add_left ih _
    · omega

theorem stackSize_below_lt (v : Visit) : stackSize v.below < v.node.size := by
  obtain ⟨⟨k, r, s, cs⟩, p, e⟩ := v
  have h := stackSize_named_le cs (some k) (e || k == .exportStatement)
  exact Nat.lt_of_le_of_lt h (by simp only [Node.size]; omega)

/-- Walk with a stack: visit the top, then what is below it, then the rest. -/
def walk (visit : σ → Visit → σ) (stack : List Visit) (state : σ) : σ :=
  match stack with
  | [] => state
  | v :: rest => walk visit (v.below ++ rest) (visit state v)
termination_by stackSize stack
decreasing_by
  rw [stackSize_append, stackSize]
  have := stackSize_below_lt v
  omega

/-! ## Texts of nodes -/

/-- The text of a node without blanks at its ends, if any is left. -/
def trimmedText? (source : List Char) (n : Node) : Option String :=
  let t := Text.trim (n.text source)
  if t.isEmpty then none else some (String.ofList t)

def childText? (source : List Char) (n : Node) (r : Role) : Option String :=
  (n.child? r).bind (trimmedText? source)

def isQuote (c : Char) : Bool := c == '"' || c == '\'' || c.toNat == 0x60

def stringText (source : List Char) (n : Node) : String :=
  String.ofList (Text.trimMatches isQuote (Text.trim (n.text source)))

def typeClauseText (source : List Char) (n : Node) : String :=
  String.ofList (Text.trim ((n.text source).dropWhile (· == ':')))

/-! ## Imports and exports -/

def importSource? (source : List Char) (n : Node) : Option String :=
  if n.kind = .importStatement then (n.child? .source).map (stringText source) else none

/-- The module that a call of a loader names by a string. -/
def loadedSource? (source : List Char) (n : Node) : Option String :=
  if n.kind ≠ .callExpression then none
  else
    match n.child? .function with
    | none => none
    | some callee =>
        if callee.kind = .importCallee ∨
            (callee.kind = .identifier ∧ callee.text source = "require".toList) then
          match (n.child? .arguments).bind (·.named.head?) with
          | some first => if first.kind = .string then some (stringText source first) else none
          | none => none
        else none

def exportedNames (source : List Char) (n : Node) : List String :=
  if n.children.any (·.kind == .defaultMark) then ["default"]
  else
    let declared :=
      match n.child? .declaration with
      | none => []
      | some d =>
          if d.kind = .lexicalDeclaration ∨ d.kind = .variableDeclaration then
            (d.named.filter (·.kind == .variableDeclarator)).filterMap (childText? source · .name)
          else (childText? source d .name).toList
    let listed := (n.children.filter (·.kind == .exportClause)).flatMap fun clause =>
      (clause.named.filter (·.kind == .exportSpecifier)).filterMap fun item =>
        match childText? source item .alias with
        | some name => some name
        | none => childText? source item .name
    declared ++ listed

/-- The name that an assignment to the export object exports. -/
def assignedExport? (source : List Char) (n : Node) : Option String :=
  match n.child? .left with
  | none => none
  | some left =>
      if left.kind ≠ .memberExpression then none
      else
        match left.child? .object, childText? source left .property with
        | some object, some property =>
            let object := object.text source
            if object = "module".toList ∧ property = "exports" then some "default"
            else if object = "exports".toList ∨ object = "module.exports".toList then some property
            else none
        | _, _ => none

/-! ## Symbols -/

/-- A symbol to be: the node that spans it, the node that holds parameters and calls, its name
and kind, and whether it stands in an export statement. -/
structure Candidate where
  node : Node
  function : Node
  name : String
  kind : SymbolKind
  exported : Bool

def isFunctionValue (n : Node) : Bool :=
  n.kind matches .arrowFunction | .functionExpression | .generatorFunction

def hasAsyncMark (n : Node) : Bool := n.children.any (·.kind == .asyncMark)

def functionKind (f : Node) : SymbolKind :=
  if f.kind = .generatorFunction ∨ f.kind = .generatorDeclaration then .generator
  else if hasAsyncMark f then .async
  else if f.kind = .arrowFunction then .arrow
  else .function

/-- Kinds of nodes that give a name to the function that is their value. -/
def namesItsValue (k : Kind) : Bool :=
  k matches .variableDeclarator | .pair | .assignmentExpression

def functionChild? (n : Node) (r : Role) : Option Node :=
  (n.child? r).bind fun v => if isFunctionValue v then some v else none

def candidate? (source : List Char) (v : Visit) : Option Candidate :=
  let n := v.node
  let named (kind : String → SymbolKind) : Option Candidate :=
    (childText? source n .name).map fun name => ⟨n, n, name, kind name, v.exported⟩
  match n.kind with
  | .functionDeclaration | .generatorDeclaration => named fun _ => functionKind n
  | .functionExpression | .generatorFunction =>
      if v.parent.any namesItsValue then none else named fun _ => functionKind n
  | .classDeclaration | .abstractClassDeclaration => named fun _ => .classDef
  | .methodDefinition =>
      named fun name => if name = "constructor" then .constructor else .method
  | .variableDeclarator =>
      match n.child? .name, functionChild? n .value with
      | some name, some f =>
          if name.kind = .identifier then
            some ⟨n, f, String.ofList (name.text source), functionKind f, v.exported⟩
          else none
      | _, _ => none
  | .pair =>
      match n.child? .key, functionChild? n .value with
      | some key, some f =>
          let name := stringText source key
          if name.isEmpty then none else some ⟨n, f, name, .method, v.exported⟩
      | _, _ => none
  | .assignmentExpression =>
      match n.child? .left, functionChild? n .right with
      | some left, some f =>
          let name? :=
            if left.kind = .identifier then some (String.ofList (left.text source))
            else if left.kind = .memberExpression then childText? source left .property
            else none
          match name? with
          | some name =>
              if name = "exports" then none else some ⟨n, f, name, functionKind f, v.exported⟩
          | none => none
      | _, _ => none
  | _ => none

/-- One parameter; a comment is none. -/
def parameter? (source : List Char) (n : Node) : Option Parameter :=
  match n.kind with
  | .requiredParameter | .optionalParameter =>
      (childText? source n .pattern).map fun name =>
        let type :=
          match (n.child? .type).map (typeClauseText source) with
          | some t => if t.isEmpty then "any" else t
          | none => "any"
        ⟨name, type, childText? source n .value⟩
  | .assignmentPattern =>
      (childText? source n .left).map fun name => ⟨name, "any", childText? source n .right⟩
  | .comment => none
  | _ => some (.untyped (String.ofList (n.text source)))

def parametersOf (source : List Char) (f : Node) : List Parameter :=
  match f.child? .parameter with
  | some single => [.untyped (String.ofList (single.text source))]
  | none =>
      match f.child? .parameters with
      | some list => list.named.filterMap (parameter? source)
      | none => []

def returnTypeOf (source : List Char) (f : Node) : String :=
  match (f.child? .returnType).map (typeClauseText source) with
  | some t => if t.isEmpty then unknownType else t
  | none => unknownType

def calledName? (source : List Char) (n : Node) : Option String :=
  if n.kind ≠ .callExpression then none
  else
    match n.child? .function with
    | none => none
    | some callee =>
        if callee.kind = .identifier then some (String.ofList (callee.text source))
        else if callee.kind = .memberExpression then childText? source callee .property
        else none

/-- The names called in a function, each once. -/
def callsOf (source : List Char) (f : Node) : List String :=
  walk (fun calls v => addNames calls (calledName? source v.node).toList) [⟨f, none, false⟩] []

/-- The line of a place, counted from one. -/
def lineOf (source : List Char) (place : Nat) : Nat := (source.take place).count '\n' + 1

theorem lineOf_mono (source : List Char) {a b : Nat} (h : a ≤ b) :
    lineOf source a ≤ lineOf source b := by
  have hs : (source.take a).Sublist (source.take b) := by
    have : source.take a = (source.take b).take a := by simp [List.take_take, h]
    rw [this]; exact List.take_sublist ..
  exact Nat.add_le_add_right (hs.count_le '\n') 1

def symbolOf (source : List Char) (exports : List String) (c : Candidate) : CodeSymbol where
  name := c.name
  kind := c.kind
  startLine := lineOf source c.node.span.start
  endLine := lineOf source c.node.span.stop
  parameters := parametersOf source c.function
  returnType := returnTypeOf source c.function
  isExported := exports.contains c.name || c.exported
  isAsync := hasAsyncMark c.function
  complexity := 1
  calls := callsOf source c.function
  code := excerpt (c.node.text source)

/-- What has been found on the way through a tree. -/
structure Found where
  candidates : List Candidate
  imports : List String
  exports : List String

def Found.visit (source : List Char) (found : Found) (v : Visit) : Found where
  candidates := found.candidates ++ (candidate? source v).toList
  imports :=
    addNames found.imports
      ((importSource? source v.node).toList ++ (loadedSource? source v.node).toList)
  exports :=
    addNames found.exports <|
      match v.node.kind with
      | .exportStatement => exportedNames source v.node
      | .assignmentExpression => (assignedExport? source v.node).toList
      | _ => []

def outlineOf (source : List Char) (tree : Node) : Outline :=
  let found := walk (Found.visit source) [⟨tree, none, false⟩] ⟨[], [], []⟩
  ⟨found.candidates.map (symbolOf source found.exports), found.imports, found.exports⟩

end CodeAtlas.Outline.Script
