import CodeAtlas.Proofs.Attained
import CodeAtlas.Proofs.Documents
import CodeAtlas.Proofs.Replacement

/-! # Commits as they were written last

The commits of a subject are listed as a log of what was written says: each hash once, under the
number of its first commit and with all that its last one has. The latest come first, and of those
at one time the hash that was written first. -/
namespace CodeAtlas

/-! ## Logs -/

/-- What a store becomes by operations one after the other, with a log of them. -/
inductive Store.Undergoes (s : Store) : List Event → Store → Prop
  | start : Undergoes s [] s
  | answered {log : List Event} {s' s'' : Store} {now : Int} {o : Store.Operation}
      {r : Except StoreError o.Result} (before : Undergoes s log s')
      (answers : s'.Answers now o r s'') : Undergoes s (log ++ [⟨o, r, s''⟩]) s''

def Event.writtenCommit? : Event → Option StoredCommit
  | ⟨.writeCommit subject c, .ok id, _⟩ => some ⟨id, subject, c⟩
  | _ => none

def writtenCommits (log : List Event) : List StoredCommit := log.filterMap Event.writtenCommit?

namespace StoredCommit

def key (x : StoredCommit) : Int × String := (x.subjectId, x.commit.hash)

/-- Numbers that have the width of their kind. -/
def InRange (x : StoredCommit) : Prop :=
  x.id < 0x8000000000000000 ∧ x.commit.totalAdditions < 0x100000000 ∧
    x.commit.totalDeletions < 0x100000000 ∧ x.commit.filesChangedCount < 0x100000000 ∧
    ∀ f ∈ x.commit.filesChanged, f.additions < 0x100000000 ∧ f.deletions < 0x100000000

instance : DecidablePred InRange := fun x =>
  inferInstanceAs (Decidable (x.id < 0x8000000000000000 ∧ x.commit.totalAdditions < 0x100000000 ∧
    x.commit.totalDeletions < 0x100000000 ∧ x.commit.filesChangedCount < 0x100000000 ∧
    ∀ f ∈ x.commit.filesChanged, f.additions < 0x100000000 ∧ f.deletions < 0x100000000))

def row (x : StoredCommit) : Store.CommitRow := .new x.subjectId x.commit

end StoredCommit

namespace Store

open StoredCommit (row)

/-! ## The table of a log -/

/-- The place of the first commit with a key among those that were written. -/
def firstPlace (written : List StoredCommit) (key : Int × String) : Nat :=
  (written.map StoredCommit.key).idxOf key

variable {written records : List StoredCommit} {x y : StoredCommit} {t t' : Table CommitRow}

lemma firstPlace_lt (new : ∀ y ∈ written, y.key ≠ x.key) (hy : y ∈ written) :
    firstPlace (written ++ [x]) y.key < firstPlace (written ++ [x]) x.key := by
  have known : y.key ∈ written.map StoredCommit.key := List.mem_map_of_mem hy
  have fresh : x.key ∉ written.map StoredCommit.key := by
    intro there
    obtain ⟨z, hz, same⟩ := List.mem_map.1 there
    exact new z hz same
  unfold firstPlace
  rw [List.map_append, List.idxOf_append_of_mem known, List.idxOf_append_of_notMem fresh]
  exact (List.idxOf_lt_length_iff.2 known).trans_le (Nat.le_add_right _ _)

/-- Records in which a commit has taken the place of the one that has its key. -/
def replaced (records : List StoredCommit) (x : StoredCommit) : List StoredCommit :=
  records.map fun y => if y.key = x.key then x else y

lemma mem_replaced (hy : y ∈ replaced records x) :
    y = x ∨ y ∈ records ∧ y.key ≠ x.key := by
  obtain ⟨z, hz, rfl⟩ := List.mem_map.1 hy
  split_ifs with same
  · exact .inl rfl
  · exact .inr ⟨hz, same⟩

lemma keys_replaced (records : List StoredCommit) (x : StoredCommit) :
    (replaced records x).map StoredCommit.key = records.map StoredCommit.key := by
  rw [replaced, List.map_map]
  refine List.map_congr_left fun y _ => ?_
  rw [Function.comp_apply]
  split_ifs with same
  · exact same.symm
  · rfl

/-- The rows of a table are the commits that were written last, in the order of the first. -/
structure Mirrors (written records : List StoredCommit) (t : Table CommitRow) : Prop where
  rows : t.rows = records.map fun x => (x.id, x.row)
  ordered : t.Ordered
  last : ∀ x ∈ records, x ∈ latest StoredCommit.key written
  all : ∀ y ∈ written, ∃ x ∈ records, x.key = y.key
  number : ∀ x ∈ records, ∀ y ∈ written, y.key = x.key → y.id = x.id
  first : (records.map StoredCommit.key).Pairwise fun p q =>
    firstPlace written p < firstPlace written q
  positive : 0 ≤ t.lastId ∧ ∀ x ∈ records, 0 < x.id

namespace Mirrors

variable {a id : Int} {c : Commit}

lemma empty : Mirrors [] [] .empty where
  rows := rfl
  ordered := Table.ordered_empty
  last _ h := nomatch h
  all _ h := nomatch h
  number _ h := nomatch h
  first := .nil
  positive := ⟨Int.le_refl 0, fun _ h => nomatch h⟩

lemma mem_written (h : Mirrors written records t) (hx : x ∈ records) : x ∈ written :=
  latest_subset (h.last x hx)

lemma eq_of_key (h : Mirrors written records t) (hx : x ∈ records)
    (hy : y ∈ records) (same : x.key = y.key) : x = y := by
  have once : (records.map StoredCommit.key).Nodup := h.first.imp fun before eq =>
    Nat.ne_of_lt before (congrArg _ eq)
  exact List.inj_on_of_nodup_map once hx hy same

lemma eq_of_id (h : Mirrors written records t) (hx : x ∈ records)
    (hy : y ∈ records) (same : x.id = y.id) : x = y := by
  have first : (x.id, x.row) ∈ t.rows := h.rows ▸ List.mem_map_of_mem hx
  have second : (x.id, y.row) ∈ t.rows := h.rows ▸ same ▸ List.mem_map_of_mem hy
  have rows : x.row = y.row := h.ordered.eq_of_id first second
  exact h.eq_of_key hx hy (congrArg (fun r => (r.subjectId, r.hash)) rows)

lemma first_append (h : Mirrors written records t) (x : StoredCommit) :
    (records.map StoredCommit.key).Pairwise fun p q =>
      firstPlace (written ++ [x]) p < firstPlace (written ++ [x]) q := by
  refine h.first.imp_of_mem fun {p q} hp hq before => ?_
  have known : ∀ k ∈ records.map StoredCommit.key, k ∈ written.map StoredCommit.key := by
    intro k hk
    obtain ⟨y, hy, rfl⟩ := List.mem_map.1 hk
    exact List.mem_map_of_mem (h.mem_written hy)
  unfold firstPlace at before ⊢
  rwa [List.map_append, List.idxOf_append_of_mem (known p hp),
    List.idxOf_append_of_mem (known q hq)]

lemma rows_replaced (h : Mirrors written records t) {z : StoredCommit} (hz : z ∈ records)
    (same : z.key = x.key) (number : z.id = x.id) :
    (t.set x.id x.row).rows = (replaced records x).map fun y => (y.id, y.row) := by
  rw [Table.set, h.rows, replaced, List.map_map, List.map_map]
  refine List.map_congr_left fun y hy => ?_
  simp only [Function.comp_apply]
  by_cases key : y.key = x.key
  · rw [if_pos key, h.eq_of_key hy hz (key.trans same.symm), if_pos number]
  · have other : y.id ≠ x.id := fun id =>
      key (h.eq_of_id hy hz (id.trans number.symm) ▸ same)
    rw [if_neg key, if_neg other]

lemma replace (h : Mirrors written records t) {z : StoredCommit} (hz : z ∈ records)
    (same : z.key = x.key) (number : z.id = x.id) :
    Mirrors (written ++ [x]) (replaced records x) (t.set x.id x.row).skipId where
  rows := h.rows_replaced hz same number
  ordered := (h.ordered.set ..).skipId
  last y hy := by
    rcases mem_replaced hy with rfl | ⟨hy, other⟩
    · exact mem_latest_concat.2 (.inr rfl)
    · exact mem_latest_concat.2 (.inl ⟨h.last y hy, other⟩)
  all y hy := by
    have known : ∃ w ∈ records, w.key = y.key := by
      rcases List.mem_append.1 hy with hy | hy
      · exact h.all y hy
      · cases List.mem_singleton.1 hy
        exact ⟨z, hz, same⟩
    obtain ⟨w, hw, key⟩ := known
    have there : w.key ∈ (replaced records x).map StoredCommit.key :=
      keys_replaced records x ▸ List.mem_map_of_mem hw
    obtain ⟨w', hw', key'⟩ := List.mem_map.1 there
    exact ⟨w', hw', key'.trans key⟩
  number w hw y hy key := by
    rcases mem_replaced hw with rfl | ⟨hw, other⟩ <;> rcases List.mem_append.1 hy with hy | hy
    · exact (h.number z hz y hy (key.trans same.symm)).trans number
    · rw [List.mem_singleton.1 hy]
    · exact h.number w hw y hy key
    · cases List.mem_singleton.1 hy
      exact absurd key.symm other
  first := keys_replaced records x ▸ h.first_append x
  positive := by
    refine ⟨Int.le_trans h.positive.1 (Int.le_add_of_nonneg_right (by decide)), fun y hy => ?_⟩
    rcases mem_replaced hy with rfl | ⟨hy, -⟩
    · exact number ▸ h.positive.2 z hz
    · exact h.positive.2 y hy

lemma append (h : Mirrors written records t) (free : ∀ y ∈ records, y.key ≠ x.key)
    (next : x.id = t.nextId) : Mirrors (written ++ [x]) (records ++ [x]) (t.add x.row) := by
  have new : ∀ y ∈ written, y.key ≠ x.key := by
    intro y hy same
    obtain ⟨z, hz, key⟩ := h.all y hy
    exact free z hz (key.trans same)
  have positive : 0 < t.nextId := Int.lt_add_one_of_le h.positive.1
  refine ⟨?_, h.ordered.add _, ?_, ?_, ?_, ?_, positive.le, ?_⟩
  · rw [Table.add, h.rows, List.map_append, ← next]
    rfl
  · intro y hy
    rcases List.mem_append.1 hy with hy | hy
    · exact mem_latest_concat.2 (.inl ⟨h.last y hy, free y hy⟩)
    · exact mem_latest_concat.2 (.inr (List.mem_singleton.1 hy))
  · intro y hy
    rcases List.mem_append.1 hy with hy | hy
    · obtain ⟨z, hz, key⟩ := h.all y hy
      exact ⟨z, List.mem_append_left _ hz, key⟩
    · exact ⟨y, List.mem_append_right _ hy, rfl⟩
  · intro z hz y hy key
    rcases List.mem_append.1 hz with hz | hz <;> rcases List.mem_append.1 hy with hy | hy
    · exact h.number z hz y hy key
    · cases List.mem_singleton.1 hy
      exact absurd key.symm (free z hz)
    · cases List.mem_singleton.1 hz
      exact absurd key (new y hy)
    · rw [List.mem_singleton.1 hz, List.mem_singleton.1 hy]
  · rw [List.map_append, List.pairwise_append]
    refine ⟨h.first_append x, List.pairwise_singleton _ _, fun p hp q hq => ?_⟩
    cases List.mem_singleton.1 hq
    obtain ⟨y, hy, rfl⟩ := List.mem_map.1 hp
    exact firstPlace_lt new (h.mem_written hy)
  · intro y hy
    rcases List.mem_append.1 hy with hy | hy
    · exact h.positive.2 y hy
    · rw [List.mem_singleton.1 hy, next]
      exact positive

lemma write (h : Mirrors written records t) {home : Bool}
    (h' : t.Written (fun r => r.subjectId = a && r.hash = c.hash) (fun _ => .new a c) (.new a c)
      home id t') : ∃ records', Mirrors (written ++ [⟨id, a, c⟩]) records' t' := by
  have hit : ∀ x : StoredCommit,
      (x.row.subjectId = a && x.row.hash = c.hash) = true ↔ x.key = (a, c.hash) := by
    intro x
    rw [Bool.and_eq_true, decide_eq_true_eq, decide_eq_true_eq]
    exact Prod.mk_inj.symm
  cases h' with
  | replaced old found =>
    obtain ⟨mem, key⟩ := Table.mem_of_findWhere found
    rw [h.rows] at mem
    obtain ⟨z, hz, eq⟩ := List.mem_map.1 mem
    cases eq
    have written := h.replace (x := ⟨z.id, a, c⟩) hz ((hit z).1 key) rfl
    exact ⟨_, written⟩
  | added missing present next =>
    have alone : ∀ y ∈ records, y.key ≠ (a, c.hash) := by
      intro y hy same
      have there : (y.id, y.row) ∈ t.rows := h.rows ▸ List.mem_map_of_mem hy
      have free := Table.findWhere_eq_none.1 missing _ there
      rw [(hit y).2 same] at free
      cases free
    have written := h.append (x := ⟨id, a, c⟩) alone next
    exact ⟨_, written⟩

end Mirrors

/-- The table of commits has what was written, whatever else was done with the store. -/
lemma Undergoes.mirrors {s₀ s : Store} {log : List Event} (run : s₀.Undergoes log s)
    (fresh : s₀.commits = .empty) : ∃ records, Mirrors (writtenCommits log) records s.commits := by
  induction run with
  | start => exact ⟨[], fresh ▸ Mirrors.empty⟩
  | @answered log s' s'' now o r before answers ih =>
    obtain ⟨records, mirrors⟩ := ih
    have last : writtenCommits (log ++ [⟨o, r, s''⟩]) =
        writtenCommits log ++ (Event.writtenCommit? ⟨o, r, s''⟩).toList := by
      rw [writtenCommits, List.filterMap_append]
      cases found : Event.writtenCommit? ⟨o, r, s''⟩ <;> simp [found, writtenCommits]
    rw [last]
    by_cases writes : o.table? = some .commits
    · cases o with
      | writeCommit a c =>
        obtain ⟨e, rfl, rfl⟩ | ⟨id, t, rfl, rfl, written⟩ := answers.writeCommit
        · exact ⟨records, by simpa [Event.writtenCommit?] using mirrors⟩
        · exact mirrors.write written
      | _ => cases writes
    · have silent : Event.writtenCommit? ⟨o, r, s''⟩ = none := by
        cases o with
        | writeCommit => exact absurd rfl writes
        | _ => rfl
      rw [silent, answers.sameBut.commits writes, Option.toList_none, List.append_nil]
      exact ⟨records, mirrors⟩

/-! ## Listings -/

def isLater (x y : StoredCommit) : Bool := decide (y.commit.timestamp ≤ x.commit.timestamp)

/-- All commits of a subject as they are listed. -/
def listing (records : List StoredCommit) (a : Int) : List StoredCommit :=
  sorted isLater (records.filter (·.subjectId = a))

variable {s : Store} {a : Int}

lemma mem_listing : x ∈ listing records a ↔ x ∈ records ∧ x.subjectId = a := by
  rw [listing, (sorted_perm _).mem_iff, List.mem_filter, decide_eq_true_eq]

lemma record_row (fits : x.InRange) : x.row.record x.id = .ok x := by
  obtain ⟨-, additions, deletions, count, files⟩ := fits
  have texts := (changes_keeps files).getAt 8
  simp [CommitRow.record, CommitRow.new, StoredCommit.row, pure, Except.pure, *]

lemma listCommits_eq (rows : s.commits.rows = records.map fun x => (x.id, x.row))
    (fits : ∀ x ∈ records, x.InRange) (few : records.length < 0x8000000000000000) (a : Int)
    (n : Nat) :
    s.listCommits a n = .ok ((listing records a).take n) := by
  have listed : newestFirst (s.commits.filter (·.subjectId = a)) =
      (listing records a).map fun x => (x.id, x.row) := by
    have own : (fun e : Int × CommitRow => decide (e.2.subjectId = a)) ∘
        (fun x : StoredCommit => (x.id, x.row)) = fun x => decide (x.subjectId = a) := rfl
    rw [Table.filter, rows, List.filter_map, own, listing, newestFirst, orderedBy,
      sorted_eq_insertionSort, sorted_eq_insertionSort]
    refine (List.map_insertionSort _ _ _ _ fun x _ y _ => ?_).symm
    exact .rfl
  have size : (listing records a).length < 0x8000000000000000 := by
    rw [listing, (sorted_perm _).length_eq]
    exact (List.length_filter_le _ _).trans_lt few
  have part : limited n (newestFirst (s.commits.filter (·.subjectId = a))) =
      ((listing records a).take n).map fun x => (x.id, x.row) := by
    rw [listed, limited, List.map_take]
    split_ifs with small
    · rfl
    · rw [List.take_of_length_le]
      rw [List.length_map]
      omega
  have read : ∀ xs : List StoredCommit, (∀ x ∈ xs, x ∈ records) →
      (xs.map fun x => (x.id, x.row)).mapM (fun e => e.2.record e.1) = .ok xs := by
    intro xs known
    induction xs with
    | nil => rfl
    | cons x xs ih =>
      obtain ⟨here, there⟩ := List.forall_mem_cons.1 known
      rw [List.map_cons, List.mapM_cons, record_row (fits x here), ok_bind, ih there]
      rfl
  rw [listCommits, part]
  exact read _ fun x hx => (mem_listing.1 (List.mem_of_mem_take hx)).1

namespace Mirrors

lemma length_lt (h : Mirrors written records t) (fits : ∀ x ∈ written, x.InRange) :
    records.length < 0x8000000000000000 := by
  have growing : (records.map fun x => (x.id, x.row)).Pairwise fun e e' => e.1 < e'.1 :=
    h.rows ▸ h.ordered.increasing
  have once : (records.map fun x => x.id).Nodup :=
    List.pairwise_map.2 ((List.pairwise_map.1 growing).imp fun before => before.ne)
  have within : (records.map fun x => x.id).toFinset ⊆ Finset.Ioo 0 0x8000000000000000 := by
    intro id there
    obtain ⟨x, hx, rfl⟩ := List.mem_map.1 (List.mem_toFinset.1 there)
    exact Finset.mem_Ioo.2 ⟨h.positive.2 x hx, (fits x (h.mem_written hx)).1⟩
  have few := Finset.card_le_card within
  rw [List.toFinset_card_of_nodup once, List.length_map, Int.card_Ioo] at few
  omega

end Mirrors

/-- A list of the commits of a subject as they were written last: each hash once and under its first
number, the latest first, and those of one time as their hashes were written first. -/
structure IsListing (written : List StoredCommit) (a : Int) (full : List StoredCommit) : Prop where
  own : ∀ x ∈ full, x.subjectId = a
  all : ∀ y ∈ written, y.subjectId = a → ∃ x ∈ full, x.commit.hash = y.commit.hash
  once : (full.map fun x => x.commit.hash).Nodup
  last : ∀ x ∈ full, x ∈ latest StoredCommit.key written
  number : ∀ x ∈ full, ∀ y ∈ written, y.key = x.key → y.id = x.id
  ordered : full.Pairwise fun x y => y.commit.timestamp < x.commit.timestamp ∨
    y.commit.timestamp = x.commit.timestamp ∧
      firstPlace written x.key < firstPlace written y.key

lemma Mirrors.isListing (h : Mirrors written records t) (a : Int) :
    IsListing written a (listing records a) where
  own x hx := (mem_listing.1 hx).2
  all y hy ha := by
    obtain ⟨x, hx, same⟩ := h.all y hy
    obtain ⟨subject, hash⟩ := Prod.mk_inj.1 same
    exact ⟨x, mem_listing.2 ⟨hx, subject.trans ha⟩, hash⟩
  once := by
    have keys : (records.filter (·.subjectId = a)).Pairwise fun x y => x.key ≠ y.key :=
      ((List.pairwise_map.1 h.first).imp fun before same =>
        before.ne (congrArg (firstPlace written) same)).filter _
    have hashes : ((records.filter (·.subjectId = a)).map fun x => x.commit.hash).Nodup := by
      refine List.pairwise_map.2 (keys.imp_of_mem fun {x y} hx hy apart same => apart ?_)
      have home : x.subjectId = a ∧ y.subjectId = a := by
        simpa using And.intro (List.mem_filter.1 hx).2 (List.mem_filter.1 hy).2
      exact Prod.ext (home.1.trans home.2.symm) same
    exact (((sorted_perm _).map _).nodup_iff).2 hashes
  last x hx := h.last x (mem_listing.1 hx).1
  number x hx := h.number x (mem_listing.1 hx).1
  ordered := by
    have first : (records.filter (·.subjectId = a)).Pairwise fun x y =>
        firstPlace written x.key < firstPlace written y.key :=
      (List.pairwise_map.1 h.first).filter _
    refine (pairwise_sorted ?_ ?_ first).imp fun {x y} later => ?_
    · intro x y z
      simp only [isLater, decide_eq_true_eq]
      omega
    · intro x y
      simp only [isLater, Bool.or_eq_true, decide_eq_true_eq]
      omega
    · simp only [isLater, decide_eq_true_eq] at later
      rcases Int.lt_or_eq_of_le later.1 with before | same
      · exact .inl before
      · exact .inr ⟨same, later.2 same.ge⟩

lemma exists_writeCommit (known : s.subjects.contains a = true) (unrefused : s.refusals = [])
    (now : Int) (c : Commit) : ∃ id s', s.perform now (.writeCommit a c) = (.ok id, s') := by
  have written : ∃ id s', s.writeCommit a c = .ok (id, s') := by
    simp only [writeCommit, allow_eq_ok unrefused, ok_bind]
    split
    · exact ⟨_, _, rfl⟩
    · rw [belongs, known, if_pos rfl]
      exact ⟨_, _, rfl⟩
  obtain ⟨id, s', eq⟩ := written
  exact ⟨id, s', by simp only [perform, eq, changed]⟩

/-- Whatever is done with a store that has no commits at first, the commits of a subject are listed
as they were written last, and any listing is the beginning of the listings of more. Each commit of
a subject that is there is written if no rows are refused. -/
theorem listCommits_written {s₀ s : Store} {log : List Event} (fresh : s₀.commits = .empty)
    (run : s₀.Undergoes log s) (fits : ∀ x ∈ writtenCommits log, x.InRange) (a : Int) :
    (∃ full, IsListing (writtenCommits log) a full ∧
      ∀ n, s.listCommits a n = .ok (full.take n)) ∧
    (∀ m n xs ys, m ≤ n → s.listCommits a m = .ok xs → s.listCommits a n = .ok ys → xs <+: ys) ∧
    (s.subjects.contains a = true → s.refusals = [] →
      ∀ now c, ∃ id s', s.perform now (.writeCommit a c) = (.ok id, s')) := by
  obtain ⟨records, mirrors⟩ := run.mirrors fresh
  have few := mirrors.length_lt fits
  have inRange : ∀ x ∈ records, x.InRange := fun x hx => fits x (mirrors.mem_written hx)
  have listed := listCommits_eq mirrors.rows inRange few a
  refine ⟨⟨listing records a, mirrors.isListing a, listed⟩,
    fun m n xs ys le first second => ?_, exists_writeCommit⟩
  cases (listed m).symm.trans first
  cases (listed n).symm.trans second
  exact List.take_prefix_take_left le

def performed (now : Int) (run : List Event × Store) (o : Operation) : List Event × Store :=
  (run.1 ++ [⟨o, (run.2.perform now o).1, (run.2.perform now o).2⟩], (run.2.perform now o).2)

lemma undergoes_performed {s : Store} {now : Int} {run : List Event × Store}
    (h : s.Undergoes run.1 run.2) (operations : List Operation) :
    s.Undergoes (operations.foldl (performed now) run).1
      (operations.foldl (performed now) run).2 := by
  induction operations generalizing run with
  | nil => exact h
  | cons o rest ih => exact ih (h.answered .performed)

/-- A commit of two parents that changed a file. -/
def mergeCommit (hash message : String) (timestamp : Int) : Commit :=
  ⟨hash, hash, "Ada", "ada@example.org", timestamp, message,
    [⟨"a \"b\".rs", 3, 1, .modified⟩], 3, 1, 1, ["p", "q"]⟩

/-- Two commits of one time are written, and then the first of them once more. -/
def rewriting : List Event × Store :=
  [.registerSubject "demo" "/demo", .writeCommit 1 (mergeCommit "b" "one" 7),
    .writeCommit 1 (mergeCommit "a" "two" 7), .writeCommit 1 (mergeCommit "b" "three" 7)].foldl
    (performed 0) ([], empty)

theorem listCommits_rewriting :
    (writtenCommits rewriting.1).map (fun x => (x.id, x.commit.message)) =
      [(1, "one"), (2, "two"), (1, "three")] ∧
    ∃ full, IsListing (writtenCommits rewriting.1) 1 full ∧
      ∀ n, rewriting.2.listCommits 1 n = .ok (full.take n) :=
  ⟨by decide +kernel,
    (listCommits_written rfl (undergoes_performed .start _) (by decide +kernel) 1).1⟩

end Store

end CodeAtlas
