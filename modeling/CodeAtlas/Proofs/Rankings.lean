import CodeAtlas.Retrieval.Ranking
import Mathlib.Data.Fin.Basic
import Mathlib.Data.List.FinRange
import Mathlib.Data.List.Sort
import Mathlib.Order.Basic
import Mathlib.Tactic.Basic

/-! # Rankings

A ranking of hits lists the most similar ones first, and equals in the order in which they are
stored. Hits that are placed one after the other are ranked just if none follows a less similar one
across a hit whose similarity is no number: that one lets nothing past. Of many hits without an
order only this is said, that none is found twice. -/
namespace CodeAtlas

namespace Number.Binary32

variable {a b c : Binary32}

lemma lt_iff : a.lt b = true ↔ a.isNaN = false ∧ b.isNaN = false ∧ a.steps < b.steps := by
  simp [lt, and_assoc]

lemma lt_asymm (h : a.lt b = true) : b.lt a = false := by
  have := (lt_iff.1 h).2.2
  rw [← Bool.not_eq_true, lt_iff]
  omega

lemma not_lt_of_isNaN (h : a.isNaN = true) : a.lt b = false ∧ b.lt a = false := by
  simp [lt, h]

lemma not_lt_trans (number : b.isNaN = false) (first : a.lt b = false) (second : b.lt c = false) :
    a.lt c = false := by
  refine Bool.eq_false_iff.2 fun less => ?_
  obtain ⟨left, right, steps⟩ := lt_iff.1 less
  have down : b.steps ≤ a.steps := by
    by_contra up
    exact Bool.eq_false_iff.1 first (lt_iff.2 ⟨left, number, by omega⟩)
  have down' : c.steps ≤ b.steps := by
    by_contra up
    exact Bool.eq_false_iff.1 second (lt_iff.2 ⟨number, right, by omega⟩)
  omega

/-- Two numbers are equal; zeros are, whatever their signs. -/
def Same (a b : Binary32) : Prop := a.le b = true ∧ b.le a = true

lemma not_lt_of_same (h : Same a b) : a.lt b = false := by
  have : b.steps ≤ a.steps := by
    have := h.2
    simp only [le, Bool.and_eq_true, decide_eq_true_eq] at this
    exact this.2
  rw [← Bool.not_eq_true, lt_iff]
  omega

end Number.Binary32

namespace Retrieval

open Number (Binary32)

/-! ## What a ranking is -/

/-- The similarity of the hit that is stored at a place. -/
def scoreAt (all : List VectorHit) (p : Fin all.length) : Binary32 := (all.get p).score

/-- Whether the hit at a place may be listed before the one at another: it is not less similar, and
if both are equal it is stored first. -/
structure MayPrecede (all : List VectorHit) (p q : Fin all.length) : Prop where
  best : (scoreAt all p).lt (scoreAt all q) = false
  stored : Binary32.Same (scoreAt all p) (scoreAt all q) → p < q

/-- Places of the most similar hits, as many as there are but no more than `top`. -/
structure Ranks (all : List VectorHit) (top : Nat) (places : List (Fin all.length)) : Prop where
  distinct : places.Nodup
  length : places.length = min top all.length
  later : places.Pairwise (MayPrecede all)
  dropped : ∀ p ∈ places, ∀ q ∉ places, MayPrecede all p q

/-- Some hits are the most similar of all, each from a place of its own. -/
def IsRanking (all : List VectorHit) (top : Nat) (kept : List VectorHit) : Prop :=
  ∃ places, Ranks all top places ∧ places.map all.get = kept

/-- No hit is stored behind a less similar one with a hit between them whose similarity is no
number. -/
def Unbarred (all : List VectorHit) : Prop :=
  ∀ p m q : Fin all.length, p < m → m < q → (scoreAt all m).isNaN = true →
    (scoreAt all p).lt (scoreAt all q) = false

/-! ## Insertion without an order -/

section Insertion

variable {α : Type} {r S D : α → α → Prop} [DecidableRel r] {a : α} {l : List α}

/-- What holds between a new member and those that it passes or stops at, holds throughout. -/
lemma pairwise_orderedInsert (placed : l.Pairwise S) (passes : ∀ x ∈ l, ¬ r a x → S x a)
    (stops : ∀ x ∈ l, r a x → S a x ∧ ∀ y ∈ l, S x y → S a y) :
    (l.orderedInsert r a).Pairwise S := by
  induction l with
  | nil => simp
  | cons x l ih =>
    obtain ⟨first, rest⟩ := List.pairwise_cons.1 placed
    rw [List.orderedInsert_cons]
    split_ifs with stop
    · obtain ⟨next, later⟩ := stops x List.mem_cons_self stop
      refine List.pairwise_cons.2 ⟨fun y mem => ?_, placed⟩
      rcases List.mem_cons.1 mem with rfl | mem
      · exact next
      · exact later y (List.mem_cons_of_mem x mem) (first y mem)
    · refine List.pairwise_cons.2 ⟨fun y mem => ?_, ih rest ?_ ?_⟩
      · rcases (List.mem_orderedInsert r).1 mem with rfl | mem
        · exact passes x List.mem_cons_self stop
        · exact first y mem
      · exact fun y mem => passes y (List.mem_cons_of_mem x mem)
      · intro y mem stop
        obtain ⟨next, later⟩ := stops y (List.mem_cons_of_mem x mem) stop
        exact ⟨next, fun z mem => later z (List.mem_cons_of_mem x mem)⟩

lemma pairwise_insertionSort (members : l.Pairwise D) (passes : ∀ a x, D a x → ¬ r a x → S x a)
    (stops : ∀ a x, D a x → r a x → S a x ∧ ∀ y, D a y → S x y → S a y) :
    (l.insertionSort r).Pairwise S := by
  induction l with
  | nil => simp
  | cons a l ih =>
    obtain ⟨first, rest⟩ := List.pairwise_cons.1 members
    have before (x : α) (mem : x ∈ l.insertionSort r) : D a x :=
      first x ((List.mem_insertionSort r).1 mem)
    rw [List.insertionSort_cons]
    refine pairwise_orderedInsert (ih rest) (fun x mem => passes a x (before x mem)) ?_
    intro x mem stop
    obtain ⟨next, later⟩ := stops a x (before x mem) stop
    exact ⟨next, fun y mem => later y (before y mem)⟩

end Insertion

/-! ## Hits by their places -/

variable {all : List VectorHit}

/-- A hit stops behind another one: that is not less similar. -/
def StopsAt (hit last : VectorHit) : Prop := last.score.lt hit.score = false

instance : DecidableRel StopsAt := fun _ _ => inferInstanceAs (Decidable (_ = false))

lemma placeLast_eq (hit : VectorHit) (hits : List VectorHit) :
    placeLast hit hits = hits.orderedInsert StopsAt hit := by
  induction hits with
  | nil => rfl
  | cons last before ih =>
    rw [placeLast, List.orderedInsert_cons, ih]
    cases h : last.score.lt hit.score <;> simp [StopsAt, h]

/-- The places of hits in the order in which the hits are placed, from the last to the first. -/
def placedBackward (all : List VectorHit) : List (Fin all.length) :=
  (List.finRange all.length).reverse.insertionSort fun p q => StopsAt (all.get p) (all.get q)

lemma ranked_eq : ranked all = (placedBackward all).reverse.map all.get := by
  have inserted : all.foldl (fun placed hit => placeLast hit placed) [] =
      all.reverse.insertionSort StopsAt := by
    rw [List.insertionSort, List.foldr_reverse]
    simp only [placeLast_eq]
  rw [ranked, inserted, List.map_reverse, placedBackward,
    List.map_insertionSort _ StopsAt all.get _ fun _ _ _ _ => Iff.rfl, List.map_reverse,
    List.map_get_finRange]

lemma placedBackward_perm : (placedBackward all).Perm (List.finRange all.length) :=
  (List.perm_insertionSort _ _).trans (List.reverse_perm _)

lemma finRange_backward (n : Nat) : (List.finRange n).reverse.Pairwise (· > ·) := by
  rw [List.pairwise_reverse]
  exact List.pairwise_lt_finRange n

/-- A hit is listed behind another one that was stored first, or that is more similar. -/
def Behind (all : List VectorHit) (p q : Fin all.length) : Prop :=
  q < p ∨ (scoreAt all p).lt (scoreAt all q) = true

lemma placedBackward_behind : (placedBackward all).Pairwise (Behind all) := by
  refine pairwise_insertionSort (finRange_backward _) (fun p q _ moves => ?_) fun p q after _ => ?_
  · exact .inr (Bool.not_eq_false _ ▸ moves)
  · exact ⟨.inl after, fun r after' _ => .inl after'⟩

lemma placedBackward_sorted (unbarred : Unbarred all) :
    (placedBackward all).Pairwise fun p q =>
      Behind all p q ∧ (scoreAt all q).lt (scoreAt all p) = false := by
  refine pairwise_insertionSort (finRange_backward _) (fun p q _ moves => ?_)
    fun p q after stop => ⟨⟨.inl after, stop⟩, fun r before behind => ⟨.inl before, ?_⟩⟩
  · have less : (scoreAt all q).lt (scoreAt all p) = true := Bool.not_eq_false _ ▸ moves
    exact ⟨.inr less, Binary32.lt_asymm less⟩
  · -- The hit stops at `q`, which has those in front of it no more similar, or bars them from it.
    cases number : (scoreAt all q).isNaN with
    | false => exact Binary32.not_lt_trans number behind.2 stop
    | true =>
      have stored : r < q := behind.1.resolve_right fun less => by
        rw [(Binary32.not_lt_of_isNaN number).1] at less
        cases less
      exact unbarred r q p stored after number

/-! ## When hits are ranked -/

lemma mem_placedBackward (p : Fin all.length) : p ∈ placedBackward all :=
  placedBackward_perm.mem_iff.2 (List.mem_finRange p)

lemma ranks_placed (unbarred : Unbarred all) (top : Nat) :
    Ranks all top ((placedBackward all).reverse.take top) := by
  have nodup : (placedBackward all).reverse.Nodup :=
    List.nodup_reverse.2 (placedBackward_perm.nodup_iff.2 (List.nodup_finRange _))
  have precede : (placedBackward all).reverse.Pairwise (MayPrecede all) := by
    refine List.pairwise_reverse.2 ((placedBackward_sorted unbarred).imp fun behind => ?_)
    refine ⟨behind.2, fun same => behind.1.resolve_right fun less => ?_⟩
    rw [Binary32.not_lt_of_same ⟨same.2, same.1⟩] at less
    cases less
  refine ⟨nodup.sublist (List.take_sublist ..), ?_, precede.sublist (List.take_sublist ..), ?_⟩
  · rw [List.length_take, List.length_reverse, placedBackward_perm.length_eq, List.length_finRange]
  · intro p kept q dropped
    have there : q ∈ (placedBackward all).reverse := List.mem_reverse.2 (mem_placedBackward q)
    rw [← List.take_append_drop top (placedBackward all).reverse] at there precede
    have rest := (List.mem_append.1 there).resolve_left dropped
    exact (List.pairwise_append.1 precede).2.2 p kept q rest

/-- Hits that are ranked are not barred: those at the two sides of one that is no number keep the
order in which they are stored. -/
lemma unbarred_of_isRanking (h : IsRanking all all.length (ranked all)) : Unbarred all := by
  obtain ⟨places, ranks, same⟩ := h
  have best : (ranked all).Pairwise fun a b => a.score.lt b.score = false := by
    rw [← same, List.pairwise_map]
    exact ranks.later.imp fun precede => precede.best
  rw [ranked_eq, List.pairwise_map, List.pairwise_reverse] at best
  have behind : (placedBackward all).Pairwise (Behind all) := placedBackward_behind
  intro p m q before after number
  obtain ⟨later, earlier, split⟩ := List.append_of_mem (mem_placedBackward m)
  have apart (r : Fin all.length) (ne : r ≠ m) : r ∈ later ∨ r ∈ earlier := by
    have := mem_placedBackward r
    rw [split] at this
    simpa [ne] using this
  rw [split, List.pairwise_append, List.pairwise_cons] at best behind
  have not_behind (r : Fin all.length) : ¬ (scoreAt all r).lt (scoreAt all m) = true ∧
      ¬ (scoreAt all m).lt (scoreAt all r) = true := by
    have := Binary32.not_lt_of_isNaN (b := scoreAt all r) number
    simp [this]
  have first : p ∈ earlier := (apart p before.ne).resolve_left fun mem => by
    rcases behind.2.2 p mem m List.mem_cons_self with stored | less
    · omega
    · exact (not_behind p).1 less
  have last : q ∈ later := (apart q after.ne').resolve_right fun mem => by
    rcases behind.2.1.1 q mem with stored | less
    · omega
    · exact (not_behind q).2 less
  exact best.2.2 q last p (List.mem_cons_of_mem m first)

/-! ## Embeddings that are found -/

variable {libraries : Libraries} {query : List Binary32} {stored : List StoredEmbedding}

lemma rankEmbeddings_ranked (libraries : Libraries) (sorts : stored.length ≤ placedLimit ∨
    areOrdered (hitsOf query stored) = true) (top : Nat) :
    rankEmbeddings libraries query stored top = some ((ranked (hitsOf query stored)).take top) := by
  have sorted : sortHits libraries (hitsOf query stored) = some (ranked (hitsOf query stored)) := by
    simpa [sortHits, hitsOf] using fun long disordered => absurd sorts (by simp [*, hitsOf])
  rw [rankEmbeddings, sorted, Option.map_some]

lemma unbarred_of_areOrdered (ordered : areOrdered all = true) : Unbarred all := by
  intro p m q _ _ number
  simp only [areOrdered, Bool.or_eq_true, List.all_eq_true, Bool.not_eq_true'] at ordered
  rcases ordered with numbers | level
  · rw [scoreAt, numbers _ (List.get_mem ..)] at number
    cases number
  · exact level _ (List.get_mem ..) _ (List.get_mem ..)

lemma isRanking_ranked (unbarred : Unbarred all) (top : Nat) :
    IsRanking all top ((ranked all).take top) :=
  ⟨_, ranks_placed unbarred top, by rw [ranked_eq, List.map_take]⟩

/-- Some hits are each from a place of its own, as many as there are but no more than `top`. -/
def IsChoice (all : List VectorHit) (top : Nat) (kept : List VectorHit) : Prop :=
  ∃ places : List (Fin all.length), places.Nodup ∧ places.length = min top all.length ∧
    places.map all.get = kept

lemma IsChoice.take {kept : List VectorHit} (h : IsChoice all all.length kept) (top : Nat) :
    IsChoice all top (kept.take top) := by
  obtain ⟨places, nodup, length, rfl⟩ := h
  refine ⟨places.take top, nodup.sublist (List.take_sublist ..), ?_, List.map_take⟩
  rw [List.length_take, length, Nat.min_self]

lemma isChoice_ranked : IsChoice all all.length (ranked all) := by
  refine ⟨_, ?_, ?_, ranked_eq.symm⟩
  · exact List.nodup_reverse.2 (placedBackward_perm.nodup_iff.2 (List.nodup_finRange _))
  · rw [List.length_reverse, placedBackward_perm.length_eq, List.length_finRange, Nat.min_self]

lemma pmap_get {places : List Nat} (inside : ∀ p ∈ places, p < all.length) :
    places.pmap (fun p h => all.get ⟨p, h⟩) inside = places.filterMap (all[·]?) := by
  induction places with
  | nil => rfl
  | cons p places ih =>
    have low : p < all.length := inside p List.mem_cons_self
    have there : all[p]? = some all[p] := List.getElem?_eq_getElem low
    rw [List.pmap, List.filterMap_cons, there, ih]
    rfl

lemma isChoice_arranged {places : List Nat} (perm : places.Perm (List.range all.length)) :
    IsChoice all all.length (places.filterMap (all[·]?)) := by
  have inside : ∀ p ∈ places, p < all.length := fun p hp => List.mem_range.1 (perm.mem_iff.1 hp)
  refine ⟨places.pmap Fin.mk inside, ?_, ?_, ?_⟩
  · exact (perm.nodup_iff.2 List.nodup_range).pmap fun _ _ _ _ same => Fin.mk.inj same
  · rw [List.length_pmap, perm.length_eq, List.length_range, Nat.min_self]
  · rw [List.map_pmap]
    exact pmap_get inside

/-- However many hits a library arranges, and however it does, each is found once. -/
lemma isChoice_sortHits {kept : List VectorHit} (sorted : sortHits libraries all = some kept) :
    IsChoice all all.length kept := by
  unfold sortHits at sorted
  split_ifs at sorted with sorts
  · cases sorted
    exact isChoice_ranked
  · obtain ⟨places, arranged, rfl⟩ := Option.map_eq_some_iff.1 sorted
    have perm := libraries.arrange_perm arranged
    rw [List.length_map] at perm
    exact isChoice_arranged perm

/-- Up to twenty embeddings are ranked for every `top`, just if none is stored behind a less similar
one with one between them whose similarity is no number. More are ranked if all can be ordered.
However many there are, those that are found are embeddings of their own with their similarities. -/
theorem rankEmbeddings_ranks_iff (libraries : Libraries) (query : List Binary32)
    (stored : List StoredEmbedding) :
    (stored.length ≤ placedLimit →
      ((∀ top, ∃ kept, rankEmbeddings libraries query stored top = some kept ∧
        IsRanking (hitsOf query stored) top kept) ↔ Unbarred (hitsOf query stored))) ∧
    (areOrdered (hitsOf query stored) = true → ∀ top, ∃ kept,
      rankEmbeddings libraries query stored top = some kept ∧
        IsRanking (hitsOf query stored) top kept) ∧
    ∀ top kept, rankEmbeddings libraries query stored top = some kept →
      IsChoice (hitsOf query stored) top kept := by
  refine ⟨fun few => ⟨fun ranks => ?_, fun unbarred top => ?_⟩, fun ordered top => ?_, ?_⟩
  · obtain ⟨kept, found, ranking⟩ := ranks (hitsOf query stored).length
    have length : (ranked (hitsOf query stored)).length = (hitsOf query stored).length := by
      rw [ranked_eq, List.length_map, List.length_reverse, placedBackward_perm.length_eq,
        List.length_finRange]
    rw [rankEmbeddings_ranked libraries (.inl few), List.take_of_length_le length.le] at found
    cases found
    exact unbarred_of_isRanking ranking
  · exact ⟨_, rankEmbeddings_ranked libraries (.inl few) top, isRanking_ranked unbarred top⟩
  · exact ⟨_, rankEmbeddings_ranked libraries (.inr ordered) top,
      isRanking_ranked (unbarred_of_areOrdered ordered) top⟩
  · intro top kept found
    obtain ⟨sorted, whole, rfl⟩ := Option.map_eq_some_iff.1 found
    exact (isChoice_sortHits whole).take top

/-! ## A hit that bars another one -/

/-- An embedding with nothing but a vector. -/
def embedded (vector : List Binary32) : StoredEmbedding :=
  ⟨1, 1, {
    entityKind := .file
    entityId := ""
    entityName := ""
    content := ""
    contentKind := .code
    vector := vector
    metadata := .null }⟩

/-- A vector of another length, one whose squared length is too large for a number, and one that is
most similar to every number above zero. -/
def overflowing : List StoredEmbedding :=
  [embedded [.one, .one], embedded [⟨0x71800000⟩], embedded [.one]]

/-- What the vectors are compared with. -/
def steep : List Binary32 := [⟨0x53800000⟩]

/-- In the other order no hit is barred, and the most similar one is found. Of thirty that are alike
the first is. -/
theorem rankEmbeddings_ranks_steep :
    (∃ kept, rankEmbeddings .absent steep overflowing.reverse 1 = some kept ∧
      IsRanking (hitsOf steep overflowing.reverse) 1 kept) ∧
    ∃ kept, rankEmbeddings .absent steep (List.replicate 30 (embedded [.one])) 1 = some kept ∧
      IsRanking (hitsOf steep (List.replicate 30 (embedded [.one]))) 1 kept := by
  have free : Unbarred (hitsOf steep overflowing.reverse) := by
    unfold Unbarred
    decide +kernel
  obtain ⟨few, -, -⟩ := rankEmbeddings_ranks_iff .absent steep overflowing.reverse
  obtain ⟨-, many, -⟩ :=
    rankEmbeddings_ranks_iff .absent steep (List.replicate 30 (embedded [.one]))
  exact ⟨(few (by decide)).2 free 1, many (by decide +kernel) 1⟩

/-- All vectors are of numbers. The last one is the most similar to the query, and the first one is
found instead, which is not similar to it at all. -/
theorem overflowing_misranked :
    (∀ x ∈ steep, x.isFinite = true) ∧
    (∀ s ∈ overflowing, ∀ x ∈ s.embedding.vector, x.isFinite = true) ∧
    (hitsOf steep overflowing).map (·.score.isNaN) = [false, true, false] ∧
    (∃ hit ∈ hitsOf steep overflowing, hit.score = .one) ∧
    ∃ kept, rankEmbeddings .absent steep overflowing 1 = some kept ∧ kept.map (·.score) = [.zero] ∧
      ¬ IsRanking (hitsOf steep overflowing) 1 kept := by
  let last : Fin (hitsOf steep overflowing).length := ⟨2, by decide⟩
  have best : scoreAt (hitsOf steep overflowing) last = .one := by decide +kernel
  have found : rankEmbeddings .absent steep overflowing 1 =
      some ((ranked (hitsOf steep overflowing)).take 1) :=
    rankEmbeddings_ranked _ (.inl (by decide)) 1
  have score : ((ranked (hitsOf steep overflowing)).take 1).map (·.score) = [.zero] := by
    decide +kernel
  refine ⟨by decide +kernel, by decide +kernel, by decide +kernel,
    ⟨_, List.get_mem _ last, best⟩, _, found, score, ?_⟩
  rintro ⟨places, ranks, same⟩
  have scores : places.map (scoreAt (hitsOf steep overflowing)) = [.zero] := by
    rw [← score, ← same, List.map_map]
    rfl
  obtain ⟨p, rfl⟩ := List.length_eq_one_iff.1 ((List.length_map _).symm.trans (congrArg _ scores))
  have worst : scoreAt (hitsOf steep overflowing) p = .zero := List.singleton_inj.1 scores
  have other : last ∉ [p] := fun mem => by
    rw [← List.mem_singleton.1 mem, best] at worst
    exact absurd worst (by decide)
  have := (ranks.dropped p (List.mem_singleton_self p) last other).best
  rw [worst, best] at this
  exact absurd this (by decide)

end Retrieval

end CodeAtlas
