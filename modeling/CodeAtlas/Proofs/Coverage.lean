import CodeAtlas.Proofs.Traversal

/-! # Functions with names

Which nodes of a tree become the functions of symbols: those with a name of their own, and those
that are given one by the declarator, pair or assignment that holds them. A function expression in
such a place is left to what holds it, even where that gives no name. -/
namespace CodeAtlas.Outline.Script

/-- The number of the first child in a role. -/
def Node.indexOf? (n : Node) (r : Role) : Option Nat := n.children.findIdx? (·.role = some r)

/-- A node holds what stands at a place in the role for values. -/
def Holds (tree holder : Node) (place : List Nat) : Prop :=
  ∃ front i role, place = front ++ [i] ∧ tree.at? front = some holder ∧
    valueRole? holder.kind = some role ∧ holder.indexOf? role = some i

/-- What holds a node gives it a name. -/
def IsGivenName (source : List Char) (tree : Node) (place : List Nat) : Prop :=
  ∃ holder, Holds tree holder place ∧ (givenName? source holder).isSome = true

/-- A function or class with a name: its own, or for a function value one that is given to it. -/
def IsNamedFunction (source : List Char) (tree : Node) (place : List Nat) : Prop :=
  ∃ n, tree.at? place = some n ∧
    (ownsName n.kind = true ∧ (childText? source n .name).isSome = true ∨
      isFunctionValue n = true ∧ IsGivenName source tree place)

/-- A function value in a declarator, pair or assignment that gives it no name. -/
def IsForgone (source : List Char) (tree : Node) (place : List Nat) : Prop :=
  ∃ n front i parent, tree.at? place = some n ∧ isFunctionValue n = true ∧
    place = front ++ [i] ∧ tree.at? front = some parent ∧ namesItsValue parent.kind = true ∧
    ¬ IsGivenName source tree place

/-- Where the function stands that a visit finds. -/
def Sight.functionPlace (s : Sight) : List Nat :=
  match valueRole? s.visit.node.kind with
  | some role => s.place ++ (s.visit.node.indexOf? role).toList
  | none => s.place

/-- Where the functions of the symbols stand, in the order of the symbols. -/
def functionPlaces (source : List Char) (tree : Node) : List (List Nat) :=
  (tree.root.sights.filter fun s => (candidate? source s.visit).isSome).map Sight.functionPlace

variable {source : List Char} {tree holder n f : Node} {s t : Sight} {v : Visit}
  {place front : List Nat} {i : Nat}

lemma child?_eq_some {r : Role} :
    n.child? r = some f ↔ ∃ i, n.indexOf? r = some i ∧ n.children[i]? = some f := by
  rw [Node.child?, List.find?_eq_bind_findIdx?_getElem?, Option.bind_eq_some_iff]
  rfl

lemma namesItsValue_eq (k : Kind) : namesItsValue k = (valueRole? k).isSome := by
  cases k <;> rfl

lemma isNamed_of_valueRole? {k : Kind} {r : Role} (h : valueRole? k = some r) :
    k.isNamed = true := by
  cases k <;> first | rfl | cases h

lemma Holds.names (h : Holds tree holder place) :
    ∃ front i p, place = front ++ [i] ∧ tree.at? front = some p ∧ namesItsValue p.kind = true := by
  obtain ⟨front, i, role, last, there, holds, -⟩ := h
  exact ⟨front, i, holder, last, there, by rw [namesItsValue_eq, holds]; rfl⟩

lemma valueRole?_of_ownsName {k : Kind} (h : ownsName k = true) : valueRole? k = none := by
  cases k <;> first | rfl | cases h

lemma parent_of_mem_sights (mem : s ∈ v.sights) :
    s.place = [] ∧ s.visit.parent = v.parent ∨
      ∃ front i p, s.place = front ++ [i] ∧ v.node.at? front = some p ∧
        s.visit.parent = some p.kind := by
  induction v using Visit.induction generalizing s with
  | h v ih =>
    rcases Visit.mem_sights.1 mem with rfl | ⟨c, i, there, -, t, below, rfl⟩
    · exact .inl ⟨rfl, rfl⟩
    · right
      rcases ih c (List.mem_of_getElem? there) below with ⟨top, parent⟩ |
        ⟨front, j, p, last, inside, parent⟩
      · refine ⟨[], i, v.node, ?_, rfl, parent⟩
        rw [Sight.under, top]
        rfl
      · refine ⟨i :: front, j, p, ?_, ?_, parent⟩
        · rw [Sight.under, last]
          rfl
        · rw [Node.at?_cons there]
          exact inside

/-- What is found on a visit: what the node holds, or the node itself. -/
lemma functionOf?_eq_some :
    functionOf? source v = some f ↔
      (∃ role i, valueRole? v.node.kind = some role ∧ v.node.indexOf? role = some i ∧
        v.node.children[i]? = some f ∧ isFunctionValue f = true ∧
        (givenName? source v.node).isSome = true) ∨
      (f = v.node ∧ ownsName v.node.kind = true ∧ (childText? source v.node .name).isSome = true ∧
        ¬ (isFunctionValue v.node = true ∧ v.parent.any namesItsValue = true)) := by
  unfold functionOf?
  cases role : valueRole? v.node.kind with
  | none =>
    dsimp only
    rw [Option.ite_none_right_eq_some]
    constructor
    · rintro ⟨own, same⟩
      exact .inr ⟨(Option.some.inj same).symm, own⟩
    · rintro (⟨r, i, impossible, -⟩ | ⟨rfl, own⟩)
      · cases impossible
      · exact ⟨own, rfl⟩
  | some r =>
    dsimp only
    rw [Option.ite_none_right_eq_some, functionChild?_eq_some, child?_eq_some]
    constructor
    · rintro ⟨given, ⟨i, number, there⟩, isValue⟩
      exact .inl ⟨r, i, rfl, number, there, isValue, given⟩
    · rintro (⟨r', i, same, number, there, isValue, given⟩ | ⟨-, own, -⟩)
      · cases same
        exact ⟨given, ⟨i, number, there⟩, isValue⟩
      · rw [valueRole?_of_ownsName own] at role
        cases role

section Sights

variable (mem : s ∈ tree.root.sights)
include mem

lemma at?_sight : tree.at? s.place = some s.visit.node := Visit.at?_place mem

lemma any_parent_iff : s.visit.parent.any namesItsValue = true ↔
    ∃ front i p, s.place = front ++ [i] ∧ tree.at? front = some p ∧
      namesItsValue p.kind = true := by
  rcases parent_of_mem_sights mem with ⟨top, none⟩ | ⟨front, i, p, last, there, parent⟩
  · rw [none, top]
    refine iff_of_false Bool.false_ne_true ?_
    rintro ⟨front, i, p, last, -⟩
    cases front <;> cases last
  · rw [parent, last]
    constructor
    · exact fun names => ⟨front, i, p, rfl, there, names⟩
    · rintro ⟨front', i', p', same, there', names⟩
      obtain ⟨rfl, -⟩ := List.append_inj' same rfl
      obtain rfl : p = p' := Option.some.inj (there.symm.trans there')
      exact names

/-- What is found at a sight: what it holds and gives a name, or itself. -/
lemma found_cases (found : functionOf? source s.visit = some f) :
    (∃ i, s.functionPlace = s.place ++ [i] ∧ Holds tree s.visit.node s.functionPlace ∧
        tree.at? s.functionPlace = some f ∧ isFunctionValue f = true ∧
        (givenName? source s.visit.node).isSome = true) ∨
      (s.functionPlace = s.place ∧ f = s.visit.node ∧ ownsName f.kind = true ∧
        (childText? source f .name).isSome = true ∧
        ¬ (isFunctionValue f = true ∧ s.visit.parent.any namesItsValue = true)) := by
  rcases functionOf?_eq_some.1 found with
    ⟨role, i, holds, number, there, isValue, given⟩ | ⟨rfl, own, name, free⟩
  · have below : s.functionPlace = s.place ++ [i] := by
      rw [Sight.functionPlace, holds]
      dsimp only
      rw [number]
      rfl
    have holds : Holds tree s.visit.node s.functionPlace :=
      ⟨s.place, i, role, below, at?_sight mem, holds, number⟩
    refine .inl ⟨i, below, holds, ?_, isValue, given⟩
    rw [below, Node.at?_append (at?_sight mem)]
    exact Node.at?_cons there
  · refine .inr ⟨?_, rfl, own, name, free⟩
    rw [Sight.functionPlace, valueRole?_of_ownsName own]

lemma at?_functionPlace (found : functionOf? source s.visit = some f) :
    tree.at? s.functionPlace = some f := by
  rcases found_cases mem found with ⟨i, -, -, there, -⟩ | ⟨here, rfl, -⟩
  · exact there
  · rw [here]
    exact at?_sight mem

end Sights

lemma place_eq_of_functionPlace_eq (mem : s ∈ tree.root.sights) (mem' : t ∈ tree.root.sights)
    (found : functionOf? source s.visit = some f) (found' : functionOf? source t.visit = some n)
    (same : s.functionPlace = t.functionPlace) : s.place = t.place := by
  obtain rfl : f = n := by
    have there := at?_functionPlace mem found
    rw [same, at?_functionPlace mem' found'] at there
    exact (Option.some.inj there).symm
  -- A function value below the one visit is not found by the other.
  rcases found_cases mem found with
      ⟨i, below, holds, -, isValue, -⟩ | ⟨here, -, -, -, free⟩ <;>
    rcases found_cases mem' found' with
      ⟨i', below', holds', -, isValue', -⟩ | ⟨here', -, -, -, free'⟩
  · rw [below, below'] at same
    exact (List.append_inj' same rfl).1
  · rw [same, here'] at holds
    exact absurd ⟨isValue, (any_parent_iff mem').2 holds.names⟩ free'
  · rw [← same, here] at holds'
    exact absurd ⟨isValue', (any_parent_iff mem).2 holds'.names⟩ free
  · rw [← here, same, here']

lemma isSome_candidate? (source : List Char) (v : Visit) :
    (candidate? source v).isSome = (functionOf? source v).isSome := by
  rw [← map_function_candidate?, Option.isSome_map]

lemma mem_functionPlaces : place ∈ functionPlaces source tree ↔
    ∃ s ∈ tree.root.sights, ∃ f, functionOf? source s.visit = some f ∧ s.functionPlace = place := by
  simp only [functionPlaces, List.mem_map, List.mem_filter, isSome_candidate?,
    Option.isSome_iff_exists, exists_and_right, and_assoc]

lemma nodup_functionPlaces (source : List Char) (tree : Node) :
    (functionPlaces source tree).Nodup := by
  have places := tree.root.pairwise_place.filter fun s => (candidate? source s.visit).isSome
  rw [functionPlaces, List.Nodup, List.pairwise_map]
  refine places.imp_of_mem fun {s t} mem mem' before same => ?_
  obtain ⟨mem, found⟩ := List.mem_filter.1 mem
  obtain ⟨mem', found'⟩ := List.mem_filter.1 mem'
  rw [isSome_candidate?] at found found'
  obtain ⟨f, found⟩ := Option.isSome_iff_exists.1 found
  obtain ⟨n, found'⟩ := Option.isSome_iff_exists.1 found'
  have here := place_eq_of_functionPlace_eq mem mem' found found' same
  exact absurd before (here ▸ List.lt_irrefl _)

lemma map_at?_functionPlaces (source : List Char) (tree : Node) :
    (functionPlaces source tree).map tree.at? =
      (candidatesOf source tree).map fun c => some c.function := by
  have found (sights : List Sight) (inside : sights ⊆ tree.root.sights) :
      ((sights.filter fun s => (candidate? source s.visit).isSome).map Sight.functionPlace).map
          tree.at? =
        ((sights.map Sight.visit).filterMap (candidate? source)).map fun c => some c.function := by
    induction sights with
    | nil => rfl
    | cons s sights ih =>
      obtain ⟨mem, inside⟩ := List.cons_subset.1 inside
      have function := map_function_candidate? source s.visit
      rw [List.filter_cons, List.map_cons, List.filterMap_cons]
      cases candidate : candidate? source s.visit with
      | none => exact ih inside
      | some c =>
        rw [candidate] at function
        have here := at?_functionPlace mem function.symm
        simp only [Option.isSome_some, if_true, List.map_cons]
        rw [here, ih inside]
  exact found _ (List.Subset.refl _)

lemma mem_functionPlaces_iff (isTree : tree.IsSyntaxTree) :
    place ∈ functionPlaces source tree ↔
      IsNamedFunction source tree place ∧ ¬ IsForgone source tree place := by
  rw [mem_functionPlaces]
  constructor
  · rintro ⟨s, mem, f, found, rfl⟩
    have there := at?_functionPlace mem found
    rcases found_cases mem found with ⟨i, -, holds, -, isValue, given⟩ | ⟨here, -, own, name, free⟩
    · have named : IsGivenName source tree s.functionPlace := ⟨s.visit.node, holds, given⟩
      refine ⟨⟨f, there, .inr ⟨isValue, named⟩⟩, ?_⟩
      rintro ⟨-, -, -, -, -, -, -, -, -, unnamed⟩
      exact unnamed named
    · refine ⟨⟨f, there, .inl ⟨own, name⟩⟩, ?_⟩
      rintro ⟨n, front, i, p, there', isValue, last, above, names, -⟩
      obtain rfl : f = n := Option.some.inj (there.symm.trans there')
      rw [here] at last
      exact free ⟨isValue, (any_parent_iff mem).2 ⟨front, i, p, last, above, names⟩⟩
  · rintro ⟨⟨n, there, named⟩, kept⟩
    -- A given name goes before the own one: then the holder's visit finds the function.
    by_cases given : isFunctionValue n = true ∧ IsGivenName source tree place
    · obtain ⟨isValue, holder, ⟨front, i, role, rfl, above, holds, number⟩, given⟩ := given
      obtain ⟨s, mem, rfl, rfl⟩ := exists_sight isTree above (isNamed_of_valueRole? holds)
      have child : s.visit.node.children[i]? = some n := by
        rw [Node.at?_append above] at there
        obtain ⟨c, child, there⟩ := Node.at?_cons_eq_some.1 there
        exact Option.some.inj there ▸ child
      have found : functionOf? source s.visit = some n :=
        functionOf?_eq_some.2 (.inl ⟨role, i, holds, number, child, isValue, given⟩)
      refine ⟨s, mem, n, found, ?_⟩
      rw [Sight.functionPlace, holds]
      dsimp only
      rw [number]
      rfl
    · obtain ⟨own, name⟩ := named.resolve_right given
      obtain ⟨s, mem, rfl, rfl⟩ := exists_sight isTree there (isNamed_of_ownsName own)
      have free : ¬ (isFunctionValue s.visit.node = true ∧
          s.visit.parent.any namesItsValue = true) := by
        rintro ⟨isValue, names⟩
        obtain ⟨front, i, p, last, above, names⟩ := (any_parent_iff mem).1 names
        exact kept ⟨_, front, i, p, there, isValue, last, above, names,
          fun named => given ⟨isValue, named⟩⟩
      refine ⟨s, mem, _, functionOf?_eq_some.2 (.inr ⟨rfl, own, name, free⟩), ?_⟩
      rw [Sight.functionPlace, valueRole?_of_ownsName own]

/-- Each symbol has the function at one place, and these places are different. They are the places
of the named functions, apart from those in a declarator, pair or assignment that gives no name. -/
theorem functionPlaces_complete (source : List Char) (tree : Node) (isTree : tree.IsSyntaxTree) :
    let outline := outlineOf source tree
    let candidates := candidatesOf source tree
    let places := functionPlaces source tree
    outline.symbols = candidates.map (symbolOf source outline.exports) ∧
      places.map tree.at? = candidates.map (fun c => some c.function) ∧ places.Nodup ∧
      ∀ place, place ∈ places ↔
        IsNamedFunction source tree place ∧ ¬ IsForgone source tree place := by
  refine ⟨?_, map_at?_functionPlaces source tree, nodup_functionPlaces source tree,
    fun place => mem_functionPlaces_iff isTree⟩
  rw [outlineOf_eq]

/-- A value with a name of its own that is given another, one in brackets, a class and a method. -/
theorem functionPlaces_held :
    let source := "const f = function g() {};\nt[k] = (function h() {});\nclass A { m() {} }".toList
    let tree := parse false source
    tree.IsSyntaxTree ∧ functionPlaces source tree = [[0, 0, 1], [1, 0, 1, 0], [2], [2, 1, 0]] ∧
      IsNamedFunction source tree [1, 0, 1, 0] ∧ ¬ IsForgone source tree [1, 0, 1, 0] := by
  intro source tree
  have facts : (tree.kind.isNamed = true ∧
        tree.All fun n => n.kind.isNamed = false → n.children = []) ∧
      functionPlaces source tree = [[0, 0, 1], [1, 0, 1, 0], [2], [2, 1, 0]] := by
    decide +kernel
  obtain ⟨⟨named, leaves⟩, places⟩ := facts
  have isTree : tree.IsSyntaxTree := ⟨named, leaves⟩
  obtain ⟨-, -, -, complete⟩ := functionPlaces_complete source tree isTree
  have listed : [1, 0, 1, 0] ∈ functionPlaces source tree := by
    rw [places]
    decide
  exact ⟨isTree, places, (complete _).1 listed⟩

/-- Without brackets the value is left to the assignment, which gives no name, and so it is lost. -/
theorem functionPlaces_lost :
    let source := "module.exports = function handler(req) { return run(req); };".toList
    let tree := parse false source
    IsNamedFunction source tree [0, 0, 1] ∧ (outlineOf source tree).symbols = [] := by
  intro source tree
  have facts : (tree.at? [0, 0, 1]).any (fun n => ownsName n.kind &&
        (childText? source n .name).isSome) = true ∧
      (outlineOf source tree).symbols = [] := by
    decide +kernel
  obtain ⟨named, lost⟩ := facts
  cases there : tree.at? [0, 0, 1] with
  | none =>
    rw [there] at named
    cases named
  | some n =>
    rw [there] at named
    exact ⟨⟨n, there, .inl (Bool.and_eq_true_iff.1 named)⟩, lost⟩

end CodeAtlas.Outline.Script
