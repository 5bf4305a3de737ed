import CodeAtlas.Retrieval.Merge
import Mathlib

/-! # Connections

Which nodes a list of edges touches, how often it does, and which of them are listed. The edges are
counted into a map that may list its entries in any order; the order of a ranking has no ties, so
that neither this order nor the one of the edges is of any account. -/
namespace CodeAtlas

lemma NodeKind.rank_injective : Function.Injective NodeKind.rank := by
  intro a b
  cases a <;> cases b <;> decide

namespace Retrieval

/-! ## What a ranking of nodes is -/

/-- The edge begins at a node. -/
def startsAt (key : NodeKey) (e : StoredEdge) : Bool :=
  decide ((e.edge.sourceKind, e.edge.sourceId) = key)

/-- The edge ends at a node of the subject. -/
def endsInside (e : StoredEdge) : Bool :=
  decide (e.edge.targetKind ≠ .external) && e.edge.targetId.isSome

/-- The edge ends at a node, which is one of the subject. -/
def endsAt (key : NodeKey) (e : StoredEdge) : Bool :=
  endsInside e && decide (e.edge.targetKind = key.1 ∧ e.edge.targetId = some key.2)

/-- How many edges begin at a node, and how many end there. -/
def connections (edges : List StoredEdge) (key : NodeKey) : Nat :=
  edges.countP (startsAt key) + edges.countP (endsAt key)

/-- An edge begins at a node or ends there. -/
def IsTouched (edges : List StoredEdge) (key : NodeKey) : Prop :=
  ∃ e ∈ edges, startsAt key e = true ∨ endsAt key e = true

/-- More connections come first, then the kinds in their order, then smaller numbers. -/
def Outranks (a b : NodeKey × Nat) : Prop :=
  b.2 < a.2 ∨ a.2 = b.2 ∧ (a.1.1.rank < b.1.1.rank ∨ a.1.1 = b.1.1 ∧ a.1.2 < b.1.2)

/-- All nodes that are touched, each once with its connections, in their order. -/
structure RanksNodes (edges : List StoredEdge) (ranking : List (NodeKey × Nat)) : Prop where
  ordered : ranking.Pairwise Outranks
  mem_iff : ∀ key n, (key, n) ∈ ranking ↔ IsTouched edges key ∧ n = connections edges key

/-! ## Counting -/

/-- One more for a node. -/
def bump (counts : NodeKey → Option Nat) (key : NodeKey) : NodeKey → Option Nat :=
  Function.update counts key (some ((counts key).getD 0 + 1))

/-- The map that the nodes of edges are counted into, one edge after the other. -/
def counted (edges : List StoredEdge) : NodeKey → Option Nat :=
  edges.foldl (fun counts e => (edgeNodes e.edge).foldl bump counts) fun _ => none

/-- The entries of a map, each once, in whatever order. -/
structure Lists (counts : NodeKey → Option Nat) (entries : List (NodeKey × Nat)) : Prop where
  once : (entries.map Prod.fst).Nodup
  mem_iff : ∀ key n, (key, n) ∈ entries ↔ counts key = some n

/-- The node of an entry. -/
def nodeOf (context : Context) (entry : NodeKey × Nat) : GraphNode :=
  ⟨entry.1.2, entry.1.1, nodeName context entry.1, entry.2⟩

/-- The nodes that are listed if a map lists its entries in some order. -/
def nodesOf (context : Context) (entries : List (NodeKey × Nat)) : List GraphNode :=
  ((entries.map (nodeOf context)).mergeSort GraphNode.before).take graphNodeLimit

/-- The kind, the number and the connections of a node. -/
def entryOf (node : GraphNode) : NodeKey × Nat := ((node.kind, node.id), node.connections)

variable {edges : List StoredEdge} {key : NodeKey} {context : Context}
  {entries ranking : List (NodeKey × Nat)} {a b c : NodeKey × Nat} {n : Nat}

/-- The nodes that edges touch, as often as they do. -/
def touches (edges : List StoredEdge) : List NodeKey := edges.flatMap fun e => edgeNodes e.edge

lemma edgeNodes_eq (e : StoredEdge) : edgeNodes e.edge =
    (e.edge.sourceKind, e.edge.sourceId) ::
      if endsInside e then (e.edge.targetId.map (e.edge.targetKind, ·)).toList else [] := by
  unfold edgeNodes endsInside
  cases e.edge.targetId <;> by_cases external : e.edge.targetKind = .external <;> simp [external]

lemma count_edgeNodes (e : StoredEdge) : (edgeNodes e.edge).count key =
    (if startsAt key e then 1 else 0) + if endsAt key e then 1 else 0 := by
  obtain ⟨kind, number⟩ := key
  rw [edgeNodes_eq, List.count_cons, endsAt, startsAt]
  cases endsInside e <;> cases e.edge.targetId <;> simp [List.count_cons, add_comm]

lemma count_touches : (touches edges).count key = connections edges key := by
  induction edges with
  | nil => rfl
  | cons e edges ih =>
    simp only [touches, connections, List.flatMap_cons, List.count_append, List.countP_cons] at ih ⊢
    rw [ih, count_edgeNodes]
    omega

lemma length_edgeNodes (e : StoredEdge) :
    (edgeNodes e.edge).length = 1 + if endsInside e then 1 else 0 := by
  rw [edgeNodes_eq, endsInside]
  cases e.edge.targetId <;> by_cases external : e.edge.targetKind = .external <;> simp [external]

lemma length_touches : (touches edges).length = edges.length + edges.countP endsInside := by
  induction edges with
  | nil => rfl
  | cons e edges ih =>
    simp only [touches, List.flatMap_cons, List.length_append, List.length_cons,
      List.countP_cons] at ih ⊢
    rw [ih, length_edgeNodes]
    omega

lemma isTouched_iff : IsTouched edges key ↔ 0 < connections edges key := by
  simp only [IsTouched, connections, Nat.add_pos_iff_pos_or_pos, List.countP_pos_iff]
  grind

lemma foldl_bump (keys : List NodeKey) (counts : NodeKey → Option Nat) :
    keys.foldl bump counts key =
      if keys.count key = 0 then counts key else some ((counts key).getD 0 + keys.count key) := by
  induction keys generalizing counts with
  | nil => rfl
  | cons first keys ih =>
    rw [List.foldl_cons, ih]
    by_cases same : first = key
    · subst same
      by_cases last : keys.count first = 0 <;> simp [bump, last]
      omega
    · simp [bump, same, Function.update_of_ne (Ne.symm same)]

lemma counted_eq : counted edges key =
    if connections edges key = 0 then none else some (connections edges key) := by
  have flat : counted edges = (touches edges).foldl bump fun _ => none := by
    rw [counted, touches, List.foldl_flatMap]
  rw [flat, foldl_bump, count_touches]
  simp

/-- Whatever lists the map, an entry is a node that is touched with its connections. -/
lemma Lists.mem (h : Lists (counted edges) entries) :
    (key, n) ∈ entries ↔ IsTouched edges key ∧ n = connections edges key := by
  rw [h.mem_iff, counted_eq, isTouched_iff]
  split_ifs with none
  · simp [none]
  · simp [Nat.pos_of_ne_zero none, eq_comm]

/-! ## The order of a ranking -/

lemma outranks_trans (first : Outranks a b) (second : Outranks b c) : Outranks a c := by
  unfold Outranks at *
  grind

lemma outranks_asymm (h : Outranks a b) : ¬ Outranks b a := by
  unfold Outranks at *
  grind

/-- No two entries are tied. -/
lemma outranks_total (other : a ≠ b) : Outranks a b ∨ Outranks b a := by
  obtain ⟨⟨kind, id⟩, n⟩ := a
  obtain ⟨⟨kind', id'⟩, n'⟩ := b
  have kinds : kind.rank = kind'.rank → kind = kind' := fun same => NodeKind.rank_injective same
  simp only [Outranks, ne_eq, Prod.mk.injEq] at other ⊢
  grind

instance : DecidableRel Outranks := fun a b =>
  inferInstanceAs (Decidable (b.2 < a.2 ∨
    a.2 = b.2 ∧ (a.1.1.rank < b.1.1.rank ∨ a.1.1 = b.1.1 ∧ a.1.2 < b.1.2)))

/-- What a node is called is of no account for its place. -/
lemma before_iff {x y : GraphNode} :
    GraphNode.before x y = true ↔ entryOf x = entryOf y ∨ Outranks (entryOf x) (entryOf y) := by
  have kinds : x.kind.rank = y.kind.rank → x.kind = y.kind :=
    fun same => NodeKind.rank_injective same
  simp only [GraphNode.before, entryOf, Outranks, Prod.mk.injEq]
  split_ifs with n kind <;> grind

/-- Entries in the order of a ranking. -/
def inOrder (entries : List (NodeKey × Nat)) : List (NodeKey × Nat) :=
  entries.mergeSort fun a b => decide (a = b ∨ Outranks a b)

lemma pairwise_inOrder (once : (entries.map Prod.fst).Nodup) :
    (inOrder entries).Pairwise Outranks := by
  have sorted : (inOrder entries).Pairwise fun a b => a = b ∨ Outranks a b := by
    refine (List.pairwise_mergeSort (fun a b c first second => ?_) (fun a b => ?_) entries).imp
      of_decide_eq_true
    · rw [decide_eq_true_eq] at *
      rcases first with rfl | first
      · exact second
      · rcases second with rfl | second
        · exact .inr first
        · exact .inr (outranks_trans first second)
    · rw [Bool.or_eq_true, decide_eq_true_eq, decide_eq_true_eq]
      rcases eq_or_ne a b with rfl | other
      · exact .inl (.inl rfl)
      · exact (outranks_total other).imp .inr .inr
  have distinct : (inOrder entries).Nodup :=
    (List.mergeSort_perm _ _).nodup_iff.2 once.of_map
  exact sorted.imp₂ (fun a b reaches other => reaches.resolve_left other) distinct

lemma nodesOf_eq : nodesOf context entries = ((inOrder entries).take 10).map (nodeOf context) := by
  have same : (inOrder entries).map (nodeOf context) =
      (entries.map (nodeOf context)).mergeSort GraphNode.before := by
    refine List.map_mergeSort fun a _ b _ => ?_
    rw [Bool.eq_iff_iff, decide_eq_true_eq, before_iff]
    rfl
  rw [nodesOf, ← same, ← List.map_take]
  rfl

/-! ## The nodes that are listed -/

lemma Lists.ranks (h : Lists (counted edges) entries) : RanksNodes edges (inOrder entries) where
  ordered := pairwise_inOrder h.once
  mem_iff _ _ := (List.mergeSort_perm _ _).mem_iff.trans h.mem

/-- There is one ranking of the nodes that some edges touch. -/
lemma RanksNodes.unique {other : List StoredEdge} {ranking' : List (NodeKey × Nat)}
    (h : RanksNodes edges ranking) (h' : RanksNodes other ranking') (perm : other.Perm edges) :
    ranking' = ranking := by
  have same : ∀ key, connections other key = connections edges key := fun key => by
    rw [connections, connections, perm.countP_eq, perm.countP_eq]
  have distinct : ∀ {l : List (NodeKey × Nat)}, l.Pairwise Outranks → l.Nodup := by
    intro l ordered
    refine ordered.imp fun {a b} first => ?_
    rintro rfl
    exact outranks_asymm first first
  refine List.Perm.eq_of_pairwise (fun a b _ _ first second => absurd second (outranks_asymm first))
    h'.ordered h.ordered ?_
  rw [List.perm_ext_iff_of_nodup (distinct h'.ordered) (distinct h.ordered)]
  rintro ⟨key, n⟩
  rw [h.mem_iff, h'.mem_iff, isTouched_iff, isTouched_iff, same]

lemma nodup_eraseDups (keys : List NodeKey) : keys.eraseDups.Nodup := by
  induction length : keys.length using Nat.strongRecOn generalizing keys with
  | ind k ih =>
    cases keys with
    | nil => exact List.nodup_nil
    | cons key keys =>
      have shorter : (keys.filter fun other => !other == key).length < k := by
        have := List.length_filter_le (fun other => !other == key) keys
        rw [List.length_cons] at length
        omega
      rw [List.eraseDups_cons, List.nodup_cons]
      exact ⟨by simp, ih _ shorter _ rfl⟩

/-- The entries in the order in which edges touch nodes first. -/
def firstEntries (edges : List StoredEdge) : List (NodeKey × Nat) :=
  (touches edges).eraseDups.map fun key => (key, (touches edges).count key)

lemma lists_firstEntries : Lists (counted edges) (firstEntries edges) where
  once := by
    simp only [firstEntries, List.map_map, Function.comp_def, List.map_id']
    exact nodup_eraseDups _
  mem_iff key n := by
    rw [counted_eq, ← count_touches]
    simp only [firstEntries, List.mem_map, List.mem_eraseDups, Prod.mk.injEq]
    split_ifs with none
    · have := List.count_eq_zero.1 none
      grind
    · have := List.count_pos_iff.1 (Nat.pos_of_ne_zero none)
      grind

lemma graphNodes_eq : graphNodes context = nodesOf context (firstEntries context.edges) := by
  rw [nodesOf, firstEntries, List.map_map]
  rfl

lemma sum_firstEntries : ((firstEntries edges).map Prod.snd).sum =
    edges.length + edges.countP endsInside := by
  have perm : (touches edges).eraseDups.Perm (touches edges).dedup := by
    rw [List.perm_ext_iff_of_nodup (nodup_eraseDups _) (List.nodup_dedup _)]
    simp
  calc ((firstEntries edges).map Prod.snd).sum
    _ = ((touches edges).eraseDups.map fun key => (touches edges).count key).sum := by
      rw [firstEntries, List.map_map]
      rfl
    _ = ((touches edges).dedup.map fun key => (touches edges).count key).sum := (perm.map _).sum_eq
    _ = edges.length + edges.countP endsInside := by
      rw [← length_touches]
      convert List.sum_map_count_dedup_eq_length (touches edges)
      rfl

/-- The nodes that are listed are the first ten of the ranking, in whatever order the map lists its
entries and in whatever order the edges are. If there are no more than ten, each edge is counted at
its source, and once more if it ends in the subject. -/
theorem graphNodes_ranks (context : Context) :
    (∃ ranking, RanksNodes context.edges ranking ∧
      (graphNodes context).map entryOf = ranking.take 10 ∧
      (ranking.length ≤ 10 → ((graphNodes context).map (·.connections)).sum =
        context.edges.length + context.edges.countP endsInside)) ∧
    (∀ entries, Lists (counted context.edges) entries →
      nodesOf context entries = graphNodes context) ∧
    ∀ other, other.edges.Perm context.edges →
      (graphNodes other).map entryOf = (graphNodes context).map entryOf := by
  have listed : ∀ c : Context,
      (graphNodes c).map entryOf = (inOrder (firstEntries c.edges)).take 10 := by
    intro c
    rw [graphNodes_eq, nodesOf_eq, List.map_map]
    exact List.map_id _
  have first : Lists (counted context.edges) (firstEntries context.edges) := lists_firstEntries
  have ranks := first.ranks
  refine ⟨⟨_, ranks, listed context, fun few => ?_⟩, fun entries lists => ?_, fun other perm => ?_⟩
  · have all := listed context
    rw [List.take_of_length_le few] at all
    have perm : (inOrder (firstEntries context.edges)).Perm (firstEntries context.edges) :=
      List.mergeSort_perm _ _
    rw [← sum_firstEntries, ← (perm.map Prod.snd).sum_eq, ← all, List.map_map]
    rfl
  · rw [graphNodes_eq, nodesOf_eq, nodesOf_eq, ranks.unique lists.ranks (.refl _)]
  · rw [listed, listed, ranks.unique lists_firstEntries.ranks perm]

end Retrieval

end CodeAtlas
