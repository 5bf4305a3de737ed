import CodeAtlas.Outline.Script.Extract
import Mathlib.Data.List.Infix
import Mathlib.Logic.Function.Iterate
import Mathlib.Tactic.Lemma
import Mathlib.Tactic.SplitIfs

/-! # Trees in document order

A node of a tree has a place, and the lexicographic order of places is the order of a document. The
loop that walks a tree with a stack comes to the named nodes in this order, to each of them once. -/
namespace CodeAtlas.Outline.Script

/-! ## Places in a tree -/

namespace Node

/-- The node at a place, which is the way there: the numbers of the children to go to. -/
def at? : Node → List Nat → Option Node
  | n, [] => some n
  | n, i :: place => n.children[i]?.bind (·.at? place)

/-- Every node of a tree, keywords included, has a property. -/
def All (P : Node → Prop) (tree : Node) : Prop := ∀ place n, tree.at? place = some n → P n

/-- A syntax tree: keywords are leaves of it. -/
structure IsSyntaxTree (tree : Node) : Prop where
  named : tree.kind.isNamed = true
  leaves : tree.All fun n => n.kind.isNamed = false → n.children = []

/-- Children lie inside their parent and in the order of the source. -/
structure IsLaidOut (n : Node) : Prop where
  inside : ∀ c ∈ n.children, n.span.start ≤ c.span.start ∧ c.span.stop ≤ n.span.stop
  ordered : n.children.Pairwise fun a b => a.span.stop ≤ b.span.start

variable {P : Node → Prop} {n m c : Node} {place rest : List Nat} {i : Nat}

lemma size_lt_of_mem (h : c ∈ n.children) : c.size < n.size := by
  obtain ⟨k, r, s, cs⟩ := n
  have le : c.size ≤ size.sizes cs := by
    change c ∈ cs at h
    induction cs with
    | nil => cases h
    | cons d cs ih =>
      rw [size.sizes]
      rcases List.mem_cons.1 h with rfl | h
      · exact Nat.le_add_right _ _
      · exact (ih h).trans (Nat.le_add_left _ _)
  rw [size]
  omega

@[elab_as_elim]
lemma induction {P : Node → Prop} (n : Node)
    (h : ∀ n : Node, (∀ c ∈ n.children, P c) → P n) : P n :=
  h n fun c mem =>
    have := size_lt_of_mem mem
    induction c h
termination_by n.size

lemma at?_cons (there : n.children[i]? = some c) : n.at? (i :: place) = c.at? place := by
  rw [at?, there, Option.bind_some]

lemma at?_cons_eq_some :
    n.at? (i :: place) = some c ↔ ∃ d, n.children[i]? = some d ∧ d.at? place = some c := by
  rw [at?, Option.bind_eq_some_iff]

lemma at?_append (there : n.at? place = some c) : n.at? (place ++ rest) = c.at? rest := by
  induction place generalizing n with
  | nil =>
    cases there
    rfl
  | cons i place ih =>
    obtain ⟨d, child, there⟩ := at?_cons_eq_some.1 there
    rw [List.cons_append, at?_cons child, ih there]

lemma All.here (h : n.All P) : P n := h [] n rfl

lemma All.at (h : n.All P) (there : n.at? place = some c) : c.All P := fun rest m below =>
  h (place ++ rest) m (by rw [at?_append there, below])

lemma All.child (h : n.All P) (mem : c ∈ n.children) : c.All P := by
  obtain ⟨i, there⟩ := List.mem_iff_getElem?.1 mem
  have below : n.at? [i] = some c := at?_cons there
  exact h.at below

/-- Whether every node of a tree has a property. -/
def all (p : Node → Bool) : Node → Bool
  | mk k r s cs => p (mk k r s cs) && alls cs
where
  alls : List Node → Bool
    | [] => true
    | c :: cs => all p c && alls cs

lemma all_eq (p : Node → Bool) (n : Node) : n.all p = (p n && n.children.all (·.all p)) := by
  obtain ⟨k, r, s, cs⟩ := n
  have below : all.alls p cs = cs.all (·.all p) := by
    induction cs with
    | nil => rfl
    | cons c cs ih => rw [all.alls, ih, List.all_cons]
  rw [all, below]
  rfl

lemma all_iff {p : Node → Bool} : n.all p = true ↔ n.All fun m => p m = true := by
  induction n using induction with
  | h n ih =>
    rw [all_eq, Bool.and_eq_true, List.all_eq_true]
    constructor
    · rintro ⟨here, below⟩ (_ | ⟨i, place⟩) m there
      · exact Option.some.inj there ▸ here
      · obtain ⟨c, child, there⟩ := at?_cons_eq_some.1 there
        have mem := List.mem_of_getElem? child
        exact (ih c mem).1 (below c mem) place m there
    · exact fun h => ⟨h.here, fun c mem => (ih c mem).2 (h.child mem)⟩

instance (P : Node → Prop) [DecidablePred P] (n : Node) : Decidable (n.All P) :=
  decidable_of_iff (n.all (fun m => decide (P m)) = true) (by simp [all_iff])

instance (n : Node) : Decidable n.IsLaidOut :=
  decidable_of_iff
    ((∀ c ∈ n.children, n.span.start ≤ c.span.start ∧ c.span.stop ≤ n.span.stop) ∧
      n.children.Pairwise fun a b => a.span.stop ≤ b.span.start)
    ⟨fun h => ⟨h.1, h.2⟩, fun h => ⟨h.inside, h.ordered⟩⟩

lemma preorder_eq (n : Node) : n.preorder = n :: n.named.flatMap preorder := by
  obtain ⟨k, r, s, cs⟩ := n
  have below : preorder.preorders cs = (cs.filter (·.kind.isNamed)).flatMap preorder := by
    induction cs with
    | nil => rfl
    | cons c cs ih =>
      rw [preorder.preorders, ih]
      split_ifs with named
      · rw [List.filter_cons, if_pos named, List.flatMap_cons]
      · rw [List.filter_cons, if_neg named]
  rw [preorder, below]
  rfl

lemma mem_named : c ∈ n.named ↔ c ∈ n.children ∧ c.kind.isNamed = true := List.mem_filter

lemma preorder_subset_of_named (mem : c ∈ n.named) : c.preorder ⊆ n.preorder := by
  intro m below
  rw [preorder_eq]
  exact List.mem_cons_of_mem _ (List.mem_flatMap.2 ⟨c, mem, below⟩)

/-- The nodes of a tree stand inside it. -/
lemma All.within (laidOut : n.All IsLaidOut) (mem : m ∈ n.preorder) :
    n.span.start ≤ m.span.start ∧ m.span.stop ≤ n.span.stop := by
  induction n using induction generalizing m with
  | h n ih =>
    rw [preorder_eq, List.mem_cons, List.mem_flatMap] at mem
    rcases mem with rfl | ⟨c, child, below⟩
    · exact ⟨le_rfl, le_rfl⟩
    · have child := (mem_named.1 child).1
      obtain ⟨start, stop⟩ := ih c child (laidOut.child child) below
      obtain ⟨start', stop'⟩ := laidOut.here.inside c child
      exact ⟨start'.trans start, stop.trans stop'⟩

/-- In document order nodes never begin before earlier ones. -/
lemma All.pairwise_start (laidOut : n.All IsLaidOut) :
    n.preorder.Pairwise fun a b => a.span.start ≤ b.span.start := by
  induction n using induction with
  | h n ih =>
    rw [preorder_eq, List.pairwise_cons, List.pairwise_flatMap]
    refine ⟨fun m mem => ?_, fun c mem => ?_, ?_⟩
    · have there : m ∈ n.preorder := by
        rw [preorder_eq]
        exact List.mem_cons_of_mem _ mem
      exact (laidOut.within there).1
    · have child := (mem_named.1 mem).1
      exact ih c child (laidOut.child child)
    · refine (laidOut.here.ordered.filter _).imp_of_mem ?_
      intro a b mem mem' before m below m' below'
      have inside := laidOut.child (mem_named.1 mem).1 |>.within below
      have inside' := laidOut.child (mem_named.1 mem').1 |>.within below'
      exact m.span.start_le_stop.trans (inside.2.trans (before.trans inside'.1))

end Node

/-! ## Visits in document order -/

/-- The visit of a child. -/
def Visit.child (v : Visit) (c : Node) : Visit :=
  ⟨c, some v.node.kind, v.exported || v.node.kind == .exportStatement⟩

/-- A visit, and the place where its node stands. -/
structure Sight where
  place : List Nat
  visit : Visit

def Sight.under (i : Nat) (s : Sight) : Sight := { s with place := i :: s.place }

/-- The named nodes of a tree in document order, by recursion. -/
def sightsOf (parent : Option Kind) (exported : Bool) : Node → List Sight
  | .mk k r s cs =>
      ⟨[], ⟨.mk k r s cs, parent, exported⟩⟩ ::
        below (some k) (exported || k == .exportStatement) 0 cs
where
  below (parent : Option Kind) (exported : Bool) (i : Nat) : List Node → List Sight
    | [] => []
    | c :: cs =>
        if c.kind.isNamed then
          (sightsOf parent exported c).map (.under i) ++ below parent exported (i + 1) cs
        else below parent exported (i + 1) cs

namespace Visit

/-- What a loop is to come to from a visit on. -/
def sights (v : Visit) : List Sight := sightsOf v.parent v.exported v.node

def visits (v : Visit) : List Visit := v.sights.map Sight.visit

def places (v : Visit) : List (List Nat) := v.sights.map Sight.place

variable {v : Visit} {s t : Sight}

@[elab_as_elim]
lemma induction {P : Visit → Prop} (v : Visit)
    (h : ∀ v : Visit, (∀ c ∈ v.node.children, P (v.child c)) → P v) : P v := by
  obtain ⟨n, parent, exported⟩ := v
  induction n using Node.induction generalizing parent exported with
  | h n ih => exact h _ fun c mem => ih c mem _ _

lemma sights_eq (v : Visit) : v.sights = ⟨[], v⟩ ::
    (v.node.children.zipIdx.filter (·.1.kind.isNamed)).flatMap fun c =>
      (v.child c.1).sights.map (.under c.2) := by
  obtain ⟨⟨k, r, span, cs⟩, p, e⟩ := v
  have below (p : Option Kind) (e : Bool) (i : Nat) : sightsOf.below p e i cs =
      ((cs.zipIdx i).filter (·.1.kind.isNamed)).flatMap fun c =>
        (sightsOf p e c.1).map (.under c.2) := by
    induction cs generalizing i with
    | nil => rfl
    | cons c cs ih =>
      rw [sightsOf.below, ih, List.zipIdx_cons]
      split_ifs with named
      · rw [List.filter_cons, if_pos named, List.flatMap_cons]
      · rw [List.filter_cons, if_neg named]
  exact congrArg (List.cons _) (below _ _ 0)

lemma mem_sights : s ∈ v.sights ↔ s = ⟨[], v⟩ ∨ ∃ c i, v.node.children[i]? = some c ∧
    c.kind.isNamed = true ∧ ∃ t ∈ (v.child c).sights, t.under i = s := by
  rw [sights_eq]
  simp only [List.mem_cons, List.mem_flatMap, List.mem_filter, List.mem_map, Prod.exists,
    List.mem_zipIdx_iff_getElem?, and_assoc]

lemma visits_eq (v : Visit) : v.visits = v :: v.below.flatMap visits := by
  let numbered := v.node.children.zipIdx.filter (·.1.kind.isNamed)
  have nodes : numbered.map Prod.fst = v.node.named := by
    have filtered : numbered.map Prod.fst =
        (v.node.children.zipIdx.map Prod.fst).filter (·.kind.isNamed) := by
      rw [List.filter_map]
      rfl
    rw [filtered, List.zipIdx_map_fst]
    rfl
  calc
    v.visits = v :: numbered.flatMap fun c => (v.child c.1).visits := by
      rw [visits, sights_eq, List.map_cons, List.map_flatMap]
      simp only [List.map_map]
      rfl
    _ = v :: (numbered.map Prod.fst).flatMap fun c => (v.child c).visits := by
      rw [List.flatMap_map]
    _ = v :: (v.node.named.map v.child).flatMap visits := by
      rw [nodes, List.flatMap_map]

lemma map_node_visits (v : Visit) : v.visits.map Visit.node = v.node.preorder := by
  induction v using induction with
  | h v ih =>
    have below :
        v.below.map (fun w => w.visits.map Visit.node) = v.node.named.map Node.preorder := by
      change (v.node.named.map v.child).map _ = _
      rw [List.map_map]
      exact List.map_congr_left fun c mem => ih c (Node.mem_named.1 mem).1
    rw [visits_eq, Node.preorder_eq, List.map_cons, List.map_flatMap, List.flatMap_def, below,
      List.flatMap_def]

/-- The node of a visit stands at its place. -/
lemma at?_place (mem : s ∈ v.sights) : v.node.at? s.place = some s.visit.node := by
  induction v using induction generalizing s with
  | h v ih =>
    rcases mem_sights.1 mem with rfl | ⟨c, i, there, -, t, below, rfl⟩
    · rfl
    · rw [Sight.under, Node.at?_cons there]
      exact ih c (List.mem_of_getElem? there) below

/-- Places come in their lexicographic order. -/
lemma pairwise_place (v : Visit) : v.sights.Pairwise fun s t => s.place < t.place := by
  induction v using induction with
  | h v ih =>
    rw [sights_eq, List.pairwise_cons, List.pairwise_flatMap]
    refine ⟨fun s mem => ?_, fun c mem => ?_, ?_⟩
    · obtain ⟨c, -, mem⟩ := List.mem_flatMap.1 mem
      obtain ⟨t, -, rfl⟩ := List.mem_map.1 mem
      exact List.nil_lt_cons _ _
    · have child : c.1 ∈ v.node.children :=
        List.fst_mem_of_mem_zipIdx (List.mem_of_mem_filter mem)
      rw [List.pairwise_map]
      exact (ih c.1 child).imp fun before => List.cons_lt_cons_self.2 before
    · have numbers : v.node.children.zipIdx.Pairwise fun c d => c.2 < d.2 := by
        rw [← List.pairwise_map, List.zipIdx_map_snd]
        exact List.pairwise_lt_range'
      refine (numbers.filter _).imp fun before s mem t mem' => ?_
      obtain ⟨s, -, rfl⟩ := List.mem_map.1 mem
      obtain ⟨t, -, rfl⟩ := List.mem_map.1 mem'
      exact List.cons_lt_cons_iff.2 (.inl before)

lemma nil_mem_places (v : Visit) : [] ∈ v.places := by
  rw [places, sights_eq]
  exact List.mem_cons_self

lemma cons_mem_places {i : Nat} {place : List Nat} : i :: place ∈ v.places ↔
    ∃ c, v.node.children[i]? = some c ∧ c.kind.isNamed = true ∧ place ∈ (v.child c).places := by
  constructor
  · intro mem
    obtain ⟨s, mem, same⟩ := List.mem_map.1 mem
    rcases mem_sights.1 mem with rfl | ⟨c, j, there, named, t, below, rfl⟩
    · cases same
    · cases same
      exact ⟨c, there, named, List.mem_map_of_mem below⟩
  · rintro ⟨c, there, named, mem⟩
    obtain ⟨t, below, rfl⟩ := List.mem_map.1 mem
    exact List.mem_map.2 ⟨t.under i, mem_sights.2 (.inr ⟨c, i, there, named, t, below, rfl⟩), rfl⟩

/-- A loop comes to the places where named nodes stand, and to these only. -/
lemma mem_places (isTree : v.node.IsSyntaxTree) {place : List Nat} {n : Node}
    (there : v.node.at? place = some n) : place ∈ v.places ↔ n.kind.isNamed = true := by
  induction place generalizing v with
  | nil =>
    cases there
    exact iff_of_true v.nil_mem_places isTree.named
  | cons i place ih =>
    obtain ⟨c, child, there⟩ := Node.at?_cons_eq_some.1 there
    have leaves := isTree.leaves.child (List.mem_of_getElem? child)
    by_cases isNamed : c.kind.isNamed = true
    · have step : i :: place ∈ v.places ↔ place ∈ (v.child c).places := by
        rw [cons_mem_places]
        constructor
        · rintro ⟨d, there, -, mem⟩
          obtain rfl : c = d := Option.some.inj (child.symm.trans there)
          exact mem
        · exact fun mem => ⟨c, child, isNamed, mem⟩
      rw [step]
      exact ih ⟨isNamed, leaves⟩ there
    · -- A keyword has no children, so it is the node itself.
      have leaf : c.children = [] := leaves.here (by simpa using isNamed)
      obtain rfl : c = n := by
        cases place with
        | nil => exact Option.some.inj there
        | cons j place =>
          rw [Node.at?, leaf] at there
          cases there
      refine iff_of_false (fun mem => ?_) isNamed
      obtain ⟨d, there, named, -⟩ := cons_mem_places.1 mem
      obtain rfl : c = d := Option.some.inj (child.symm.trans there)
      exact isNamed named

end Visit

/-! ## The loop -/

section Loop

variable {σ : Type} (visit : σ → Visit → σ)

/-- One turn of the loop: the visit on top of the stack is made, and those below it come there. -/
def turn : List Visit × σ → List Visit × σ
  | ([], state) => ([], state)
  | (v :: rest, state) => (v.below ++ rest, visit state v)

lemma walk_nil (state : σ) : walk visit [] state = state := by
  rw [walk]

lemma walk_cons (v : Visit) (rest : List Visit) (state : σ) :
    walk visit (v :: rest) state = walk visit (v.below ++ rest) (visit state v) := by
  rw [walk]

/-- What the loop is still to visit, with a stack. -/
def pending (stack : List Visit) : List Visit := stack.flatMap Visit.visits

lemma pending_singleton (v : Visit) : pending [v] = v.visits := List.flatMap_singleton _ _

lemma pending_cons (v : Visit) (rest : List Visit) :
    pending (v :: rest) = v :: pending (v.below ++ rest) := by
  rw [pending, List.flatMap_cons, Visit.visits_eq, List.cons_append, pending, List.flatMap_append]

lemma head?_pending (stack : List Visit) : (pending stack).head? = stack.head? := by
  cases stack with
  | nil => rfl
  | cons v rest =>
    rw [pending_cons]
    rfl

lemma pending_turn (stack : List Visit) (state : σ) :
    pending (turn visit (stack, state)).1 = (pending stack).tail := by
  cases stack with
  | nil => rfl
  | cons v rest =>
    rw [pending_cons]
    rfl

lemma pending_turns (stack : List Visit) (state : σ) (i : Nat) :
    pending ((turn visit)^[i] (stack, state)).1 = (pending stack).drop i := by
  induction i with
  | zero => rfl
  | succ i ih => rw [Function.iterate_succ_apply', pending_turn, ih, List.tail_drop]

lemma walk_turns (stack : List Visit) (state : σ) (i : Nat) :
    walk visit ((turn visit)^[i] (stack, state)).1 ((turn visit)^[i] (stack, state)).2 =
      walk visit stack state := by
  induction i generalizing stack state with
  | zero => rfl
  | succ i ih =>
    rw [Function.iterate_succ_apply]
    cases stack with
    | nil => exact ih [] state
    | cons v rest =>
      rw [walk_cons]
      exact ih _ _

lemma walk_eq_foldl (stack : List Visit) (state : σ) :
    walk visit stack state = (pending stack).foldl visit state := by
  induction stack, state using walk.induct visit with
  | case1 state => exact walk_nil visit state
  | case2 v rest state ih => rw [walk_cons, ih, pending_cons, List.foldl_cons]

end Loop

/-- A loop that begins with a visit comes to every named node of its tree, to each of them once and
in document order, and then it ends. -/
structure VisitsInOrder (root : Visit) : Prop where
  /-- After some turns the node at the next place is on top of the stack, and no node is when there
  is no other place. -/
  turns (σ : Type) (visit : σ → Visit → σ) (state : σ) (i : Nat) :
    ((turn visit)^[i] ([root], state)).1.head?.map Visit.node = root.places[i]?.bind root.node.at?
  ends (σ : Type) (visit : σ → Visit → σ) (state : σ) :
    (turn visit)^[root.places.length] ([root], state) = ([], walk visit [root] state)
  named (place : List Nat) (n : Node) (there : root.node.at? place = some n) :
    place ∈ root.places ↔ n.kind.isNamed = true
  ordered : root.places.Pairwise (· < ·)

lemma visitsInOrder {root : Visit} (isTree : root.node.IsSyntaxTree) : VisitsInOrder root where
  turns σ visit state i := by
    have top : ((turn visit)^[i] ([root], state)).1.head? = root.visits[i]? := by
      rw [← head?_pending, pending_turns, List.head?_drop, pending_singleton]
    rw [top, Visit.visits, Visit.places, List.getElem?_map, List.getElem?_map]
    cases there : root.sights[i]? with
    | none => rfl
    | some s => exact (Visit.at?_place (List.mem_of_getElem? there)).symm
  ends σ visit state := by
    let done := (turn visit)^[root.places.length] ([root], state)
    have long : root.visits.length = root.places.length := by
      rw [Visit.visits, Visit.places, List.length_map, List.length_map]
    have empty : done.1 = [] := by
      rw [← List.head?_eq_none_iff, ← head?_pending, pending_turns, pending_singleton, ← long,
        List.drop_length]
      rfl
    have result := walk_turns visit [root] state root.places.length
    change walk visit done.1 done.2 = _ at result
    rw [empty, walk_nil] at result
    exact Prod.ext empty result
  named place n there := Visit.mem_places isTree there
  ordered := List.pairwise_map.2 root.pairwise_place

end CodeAtlas.Outline.Script
