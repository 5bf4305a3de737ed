import CodeAtlas.Outline.Script.Parser
import CodeAtlas.Proofs.DocumentOrder
import CodeAtlas.Proofs.Juxtaposition

/-! # What is found in a tree

Imports, exports, symbols and calls are found by loops that walk a tree in document order. So they
are what a recursion over the tree finds, and a function has the calls of the functions inside
it. -/
namespace CodeAtlas.Outline.Script

/-! ## Candidates -/

/-- The role in which a node holds a function that it gives its name to. -/
def valueRole? : Kind → Option Role
  | .variableDeclarator | .pair => some .value
  | .assignmentExpression => some .right
  | _ => none

/-- Kinds of nodes that may have a name of their own and are functions or classes. -/
def ownsName (k : Kind) : Bool :=
  k matches .functionDeclaration | .generatorDeclaration | .functionExpression
    | .generatorFunction | .classDeclaration | .abstractClassDeclaration | .methodDefinition

/-- The name that a node gives to the function it holds. -/
def givenName? (source : List Char) (n : Node) : Option String :=
  match n.kind with
  | .variableDeclarator => (n.child? .name).bind fun name =>
      if name.kind = .identifier then some (String.ofList (name.text source)) else none
  | .pair => (n.child? .key).bind fun key =>
      let name := stringText source key
      if name.isEmpty then none else some name
  | .assignmentExpression => (n.child? .left).bind fun left =>
      let name? :=
        if left.kind = .identifier then some (String.ofList (left.text source))
        else if left.kind = .memberExpression then childText? source left .property
        else none
      name?.filter (· ≠ "exports")
  | _ => none

/-- The function that a visit finds: the value of a node that gives it a name, or the node itself by
its own name, unless it is the value of such a node. -/
def functionOf? (source : List Char) (v : Visit) : Option Node :=
  match valueRole? v.node.kind with
  | some role => if (givenName? source v.node).isSome then functionChild? v.node role else none
  | none =>
      if ownsName v.node.kind = true ∧ (childText? source v.node .name).isSome = true ∧
        ¬ (isFunctionValue v.node = true ∧ v.parent.any namesItsValue = true) then some v.node
      else none

lemma functionChild?_eq_some {n f : Node} {r : Role} :
    functionChild? n r = some f ↔ n.child? r = some f ∧ isFunctionValue f = true := by
  rw [functionChild?, Option.bind_eq_some_iff]
  constructor
  · rintro ⟨g, there, isValue⟩
    split_ifs at isValue with h
    cases isValue
    exact ⟨there, h⟩
  · rintro ⟨there, h⟩
    exact ⟨f, there, if_pos h⟩

section Candidates

variable {source : List Char} {v : Visit} {c : Candidate}

lemma candidate?_node (found : candidate? source v = some c) : c.node = v.node := by
  unfold candidate? at found
  dsimp only at found
  split at found
  all_goals grind [Option.map_eq_some_iff]

lemma map_function_candidate? (source : List Char) (v : Visit) :
    (candidate? source v).map Candidate.function = functionOf? source v := by
  obtain ⟨n, parent, exported⟩ := v
  unfold candidate? functionOf? givenName?
  dsimp only
  -- One case for each way to a name; the other kinds find nothing on either side.
  cases kind : n.kind
  case functionDeclaration | generatorDeclaration | classDeclaration | abstractClassDeclaration |
      methodDefinition =>
    have value : isFunctionValue n = false := by rw [isFunctionValue, kind]
    cases childText? source n .name <;> simp [valueRole?, ownsName, value]
  case functionExpression | generatorFunction =>
    have value : isFunctionValue n = true := by rw [isFunctionValue, kind]
    cases childText? source n .name <;> cases parent.any namesItsValue <;>
      simp [valueRole?, ownsName, value]
  case variableDeclarator =>
    simp only [valueRole?]
    cases n.child? .name <;> cases functionChild? n .value <;> simp
  case pair =>
    simp only [valueRole?]
    cases n.child? .key <;> cases functionChild? n .value <;> grind
  case assignmentExpression =>
    simp only [valueRole?]
    cases n.child? .left <;> cases functionChild? n .right <;> grind
  all_goals rfl

lemma isNamed_of_ownsName {k : Kind} (h : ownsName k = true) : k.isNamed = true := by
  cases k <;> first | rfl | cases h

lemma isNamed_of_isFunctionValue {f : Node} (h : isFunctionValue f = true) :
    f.kind.isNamed = true := by
  unfold isFunctionValue at h
  split at h
  · next kind => rw [kind]; rfl
  · next kind => rw [kind]; rfl
  · next kind => rw [kind]; rfl
  · cases h

lemma functionOf?_spec {f : Node} (found : functionOf? source v = some f) :
    f.kind.isNamed = true ∧ (f = v.node ∨ f ∈ v.node.children) := by
  unfold functionOf? at found
  split at found
  · split_ifs at found
    obtain ⟨there, isValue⟩ := functionChild?_eq_some.1 found
    exact ⟨isNamed_of_isFunctionValue isValue, .inr (List.mem_of_find?_eq_some there)⟩
  · split_ifs at found with own
    cases found
    exact ⟨isNamed_of_ownsName own.1, .inl rfl⟩

end Candidates

/-! ## What is found -/

/-- The visit that a walk through a tree begins with. -/
def Node.root (tree : Node) : Visit := ⟨tree, none, false⟩

def candidatesOf (source : List Char) (tree : Node) : List Candidate :=
  tree.root.visits.filterMap (candidate? source)

def importsAt (source : List Char) (n : Node) : List String :=
  (importSource? source n).toList ++ (loadedSource? source n).toList

def exportsAt (source : List Char) (n : Node) : List String :=
  match n.kind with
  | .exportStatement => exportedNames source n
  | .assignmentExpression => (assignedExport? source n).toList
  | _ => []

def callsAt (source : List Char) (n : Node) : List String := (calledName? source n).toList

/-- The names that the nodes of a tree have, in document order, each name once. -/
def namesIn (names : Node → List String) (tree : Node) : List String :=
  ((tree.preorder.flatMap names).filter (· ≠ "")).eraseDups

lemma visit_eq (source : List Char) (found : Found) (v : Visit) :
    found.visit source v =
      { candidates := found.candidates ++ (candidate? source v).toList
        imports := addNames found.imports (importsAt source v.node)
        exports := addNames found.exports (exportsAt source v.node) } := rfl

lemma foldl_visit (source : List Char) (visits : List Visit) (found : Found) :
    visits.foldl (Found.visit source) found =
      { candidates := found.candidates ++ visits.filterMap (candidate? source)
        imports := addNames found.imports ((visits.map Visit.node).flatMap (importsAt source))
        exports :=
          addNames found.exports ((visits.map Visit.node).flatMap (exportsAt source)) } := by
  induction visits generalizing found with
  | nil => simp [addNames]
  | cons v visits ih =>
    rw [List.foldl_cons, ih, visit_eq, List.map_cons, List.flatMap_cons, List.flatMap_cons,
      addNames_append, addNames_append, List.filterMap_cons, List.append_assoc]
    cases candidate? source v <;> rfl

lemma walk_root {σ : Type} (visit : σ → Visit → σ) (tree : Node) (state : σ) :
    walk visit [tree.root] state = tree.root.visits.foldl visit state := by
  rw [walk_eq_foldl, pending_singleton]

lemma outlineOf_eq (source : List Char) (tree : Node) :
    outlineOf source tree =
      let exports := namesIn (exportsAt source) tree
      { symbols := (candidatesOf source tree).map (symbolOf source exports)
        imports := namesIn (importsAt source) tree
        exports := exports } := by
  have found : walk (Found.visit source) [tree.root] ⟨[], [], []⟩ =
      { candidates := candidatesOf source tree
        imports := namesIn (importsAt source) tree
        exports := namesIn (exportsAt source) tree } := by
    rw [walk_root, foldl_visit, Visit.map_node_visits, addNames_nil, addNames_nil]
    rfl
  -- The symbols are made last, for they ask for the exports of the whole tree.
  have outline : outlineOf source tree =
      let found := walk (Found.visit source) [tree.root] ⟨[], [], []⟩
      ⟨found.candidates.map (symbolOf source found.exports), found.imports, found.exports⟩ := rfl
  rw [outline, found]

lemma callsOf_eq (source : List Char) (f : Node) :
    callsOf source f = namesIn (callsAt source) f := by
  have fold (visits : List Visit) (calls : List String) :
      visits.foldl (fun calls v => addNames calls (callsAt source v.node)) calls =
        addNames calls ((visits.map Visit.node).flatMap (callsAt source)) := by
    induction visits generalizing calls with
    | nil => rfl
    | cons v visits ih =>
      rw [List.foldl_cons, ih, List.map_cons, List.flatMap_cons, addNames_append]
  have walked := walk_root (fun calls v => addNames calls (callsAt source v.node)) f []
  rw [fold, Visit.map_node_visits, addNames_nil] at walked
  exact walked

/-! ## Functions inside functions -/

lemma Node.preorder_subset {n m : Node} (mem : m ∈ n.preorder) : m.preorder ⊆ n.preorder := by
  induction n using Node.induction with
  | h n ih =>
    rw [preorder_eq, List.mem_cons, List.mem_flatMap] at mem
    rcases mem with rfl | ⟨c, child, below⟩
    · exact List.Subset.refl _
    · have inside := ih c (mem_named.1 child).1 below
      exact List.Subset.trans inside (preorder_subset_of_named child)

lemma namesIn_subset {names : Node → List String} {n m : Node} (mem : m ∈ n.preorder) :
    namesIn names m ⊆ namesIn names n := by
  intro name there
  simp only [namesIn, List.mem_eraseDups, List.mem_filter, List.mem_flatMap] at there ⊢
  obtain ⟨⟨d, below, given⟩, some⟩ := there
  exact ⟨⟨d, Node.preorder_subset mem below, given⟩, some⟩

/-- A named node is seen at its place. -/
lemma exists_sight {n m : Node} {place : List Nat} (isTree : n.IsSyntaxTree)
    (there : n.at? place = some m) (named : m.kind.isNamed = true) :
    ∃ s ∈ n.root.sights, s.place = place ∧ s.visit.node = m := by
  have listed : place ∈ n.root.places := (Visit.mem_places isTree there).2 named
  obtain ⟨s, mem, rfl⟩ := List.mem_map.1 listed
  exact ⟨s, mem, rfl, Option.some.inj ((Visit.at?_place mem).symm.trans there)⟩

lemma Node.IsSyntaxTree.mem_preorder {n m : Node} {place : List Nat} (isTree : n.IsSyntaxTree)
    (there : n.at? place = some m) (named : m.kind.isNamed = true) : m ∈ n.preorder := by
  obtain ⟨s, mem, -, rfl⟩ := exists_sight isTree there named
  have visited : s.visit.node ∈ n.root.visits.map Visit.node :=
    List.mem_map_of_mem (List.mem_map_of_mem mem)
  rwa [Visit.map_node_visits] at visited

section Trees

variable {source : List Char} {tree : Node} {c d : Candidate}

/-- The function of a candidate is a node of the tree. -/
lemma exists_place (mem : c ∈ candidatesOf source tree) :
    c.function.kind.isNamed = true ∧ ∃ place, tree.at? place = some c.function := by
  obtain ⟨v, visited, found⟩ := List.mem_filterMap.1 mem
  obtain ⟨s, seen, rfl⟩ := List.mem_map.1 visited
  have function : functionOf? source s.visit = some c.function := by
    rw [← map_function_candidate?, found]
    rfl
  have there : tree.at? s.place = some s.visit.node := Visit.at?_place seen
  obtain ⟨named, same | child⟩ := functionOf?_spec function
  · exact ⟨named, s.place, same ▸ there⟩
  · obtain ⟨i, child⟩ := List.mem_iff_getElem?.1 child
    refine ⟨named, s.place ++ [i], ?_⟩
    rw [Node.at?_append there, Node.at?_cons child]
    rfl

lemma isSyntaxTree_function (isTree : tree.IsSyntaxTree) (mem : c ∈ candidatesOf source tree) :
    c.function.IsSyntaxTree := by
  obtain ⟨named, place, there⟩ := exists_place mem
  exact ⟨named, isTree.leaves.at there⟩

/-- Symbols come in the order in which their nodes begin. -/
lemma pairwise_startLine (laidOut : tree.All Node.IsLaidOut) (exports : List String) :
    ((candidatesOf source tree).map (symbolOf source exports)).Pairwise
      fun s t => s.startLine ≤ t.startLine := by
  have starts : tree.root.visits.Pairwise fun v w => v.node.span.start ≤ w.node.span.start := by
    have nodes : tree.root.node.preorder.Pairwise fun a b => a.span.start ≤ b.span.start :=
      laidOut.pairwise_start
    rw [← Visit.map_node_visits, List.pairwise_map] at nodes
    exact nodes
  rw [List.pairwise_map, candidatesOf, List.pairwise_filterMap]
  refine starts.imp fun {v w} before c found d found' => lineOf_mono source ?_
  rw [candidate?_node found, candidate?_node found']
  exact before

end Trees

/-- The loops visit every named node once and in document order, so what is found is what recursion
finds, first appearances only, and a function has the calls of those inside it. -/
theorem outlineOf_preorder (source : List Char) (tree : Node) (isTree : tree.IsSyntaxTree)
    (laidOut : tree.All Node.IsLaidOut) :
    let outline := outlineOf source tree
    let candidates := candidatesOf source tree
    let symbol := symbolOf source outline.exports
    VisitsInOrder tree.root ∧ (∀ c ∈ candidates, VisitsInOrder c.function.root) ∧
      outline.imports = namesIn (importsAt source) tree ∧
      outline.exports = namesIn (exportsAt source) tree ∧
      outline.symbols = candidates.map symbol ∧
      (∀ c ∈ candidates, (symbol c).calls = namesIn (callsAt source) c.function) ∧
      outline.symbols.Pairwise (fun s t => s.startLine ≤ t.startLine) ∧
      ∀ c ∈ candidates, ∀ d ∈ candidates, ∀ place, c.function.at? place = some d.function →
        (symbol d).calls ⊆ (symbol c).calls := by
  intro outline candidates symbol
  have eq : outline = _ := outlineOf_eq source tree
  have symbols : outline.symbols = candidates.map symbol := by
    unfold symbol
    rw [eq]
  have calls (c : Candidate) : (symbol c).calls = namesIn (callsAt source) c.function :=
    callsOf_eq source c.function
  refine ⟨visitsInOrder isTree, fun c mem => visitsInOrder (isSyntaxTree_function isTree mem),
    congrArg Outline.imports eq, congrArg Outline.exports eq, symbols, fun c _ => calls c, ?_, ?_⟩
  · rw [symbols]
    exact pairwise_startLine laidOut _
  · intro c mem d mem' place there
    have below := (isSyntaxTree_function isTree mem).mem_preorder there (exists_place mem').1
    rw [calls, calls]
    exact namesIn_subset below

/-- A function inside another one, whose calls are calls of both. -/
theorem outlineOf_nested :
    let source := ("import \x7b h \x7d from \"./h\";\nexport function f(x) \x7b\n" ++
      "  const g = (y) => h(k(y));\n  return h(g(x));\n\x7d").toList
    let tree := parse false source
    tree.IsSyntaxTree ∧ tree.All Node.IsLaidOut ∧ VisitsInOrder tree.root ∧
      (outlineOf source tree).symbols.map (fun s => (s.name, s.startLine, s.calls)) =
        [("f", 2, ["h", "k", "g"]), ("g", 3, ["h", "k"])] ∧
      (outlineOf source tree).imports = ["./h"] ∧ (outlineOf source tree).exports = ["f"] := by
  intro source tree
  have facts : (tree.kind.isNamed = true ∧
        tree.All fun n => n.kind.isNamed = false → n.children = []) ∧
      tree.All Node.IsLaidOut ∧
      (outlineOf source tree).symbols.map (fun s => (s.name, s.startLine, s.calls)) =
        [("f", 2, ["h", "k", "g"]), ("g", 3, ["h", "k"])] ∧
      (outlineOf source tree).imports = ["./h"] ∧ (outlineOf source tree).exports = ["f"] := by
    decide +kernel
  obtain ⟨⟨named, leaves⟩, laidOut, symbols⟩ := facts
  have isTree : tree.IsSyntaxTree := ⟨named, leaves⟩
  exact ⟨isTree, laidOut, (outlineOf_preorder source tree isTree laidOut).1, symbols⟩

end CodeAtlas.Outline.Script
