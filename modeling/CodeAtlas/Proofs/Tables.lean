import CodeAtlas.Store.Table
import Mathlib.Data.List.Nodup

/-! # Rows of tables

Which rows a table has after a change, and which of its rows a change leaves alone. -/
namespace CodeAtlas.Store.Table

variable {t : Table ρ}

/-! ## Numbers -/

/-- The numbers of the rows grow, and none is beyond the last that was given. -/
structure Ordered (t : Table ρ) : Prop where
  increasing : t.rows.Pairwise fun a b => a.1 < b.1
  bounded : ∀ e ∈ t.rows, e.1 ≤ t.lastId

theorem ordered_empty : (empty : Table ρ).Ordered := ⟨.nil, by simp [empty]⟩

theorem Ordered.eq_of_id (h : t.Ordered) {id : Int} {r r' : ρ} (hr : (id, r) ∈ t.rows)
    (hr' : (id, r') ∈ t.rows) : r = r' := by
  have once : (t.rows.map Prod.fst).Nodup :=
    List.pairwise_map.2 (h.increasing.imp Int.ne_of_lt)
  have same := List.inj_on_of_nodup_map once hr hr' rfl
  exact congrArg Prod.snd same

/-- The row of a number is the one row that has it. -/
theorem Ordered.find?_eq_some (h : t.Ordered) {id : Int} {r : ρ} :
    t.find? id = some r ↔ (id, r) ∈ t.rows := by
  rw [find?, List.lookup_eq_some_iff]
  constructor
  · rintro ⟨before, after, split, -⟩
    simp [split]
  · intro mem
    obtain ⟨before, after, split⟩ := List.append_of_mem mem
    refine ⟨before, after, split, fun e he => ?_⟩
    have hlt : e.1 < id := by
      have := h.increasing
      rw [split, List.pairwise_append] at this
      exact this.2.2 e he (id, r) (by simp)
    simpa using Int.ne_of_gt hlt

theorem Ordered.contains_iff (h : t.Ordered) {id : Int} :
    t.contains id = true ↔ ∃ r, (id, r) ∈ t.rows := by
  simp [contains, Option.isSome_iff_exists, h.find?_eq_some]

lemma mem_of_find? {id : Int} {r : ρ} (h : t.find? id = some r) : (id, r) ∈ t.rows := by
  obtain ⟨before, after, split, -⟩ := List.lookup_eq_some_iff.1 h
  simp [split]

/-! ## Adding a row -/

theorem mem_add {row : ρ} {e : Int × ρ} :
    e ∈ (t.add row).rows ↔ e ∈ t.rows ∨ e = (t.nextId, row) := by
  simp [add]

theorem Ordered.not_mem_nextId (h : t.Ordered) (r : ρ) : (t.nextId, r) ∉ t.rows := by
  intro mem
  have := h.bounded _ mem
  simp only [nextId] at this
  omega

/-- A number that is in use is not the next one. -/
theorem Ordered.ne_nextId (h : t.Ordered) {id : Int} (there : t.contains id = true) :
    id ≠ t.nextId := by
  rintro rfl
  obtain ⟨row, hrow⟩ := h.contains_iff.1 there
  exact h.not_mem_nextId row hrow

theorem Ordered.add (h : t.Ordered) (row : ρ) : (t.add row).Ordered where
  increasing := by
    refine List.pairwise_append.2 ⟨h.increasing, by simp, fun e he n hn => ?_⟩
    have := h.bounded e he
    simp only [List.mem_singleton] at hn
    subst hn
    simp only [nextId]
    omega
  bounded e he := by
    rcases mem_add.1 he with he | rfl
    · have := h.bounded e he
      simp only [Table.add, nextId]
      omega
    · exact Int.le_refl _

theorem Ordered.contains_add (h : t.Ordered) {id : Int} {row : ρ}
    (there : t.contains id = true) : (t.add row).contains id = true := by
  obtain ⟨old, hold⟩ := h.contains_iff.1 there
  exact (h.add row).contains_iff.2 ⟨old, mem_add.2 (.inl hold)⟩

theorem Ordered.find?_add (h : t.Ordered) (row : ρ) : (t.add row).find? t.nextId = some row :=
  (h.add row).find?_eq_some.2 (mem_add.2 (.inr rfl))

/-- A row that was just added is overwritten, and no other row. -/
theorem Ordered.set_add (h : t.Ordered) (row row' : ρ) :
    (t.add row).set t.nextId row' = t.add row' := by
  have old : ∀ e ∈ t.rows, (if e.1 = t.nextId then (t.nextId, row') else e) = e := by
    intro e he
    refine if_neg fun same => h.not_mem_nextId e.2 ?_
    rwa [← same]
  simp only [Table.set, Table.add, List.map_append, List.map_cons, List.map_nil, if_true]
  rw [List.map_congr_left old, List.map_id']

theorem filter_add {p : ρ → Bool} {row : ρ} (hp : p row = false) :
    (t.add row).filter p = t.filter p := by
  simp [filter, add, hp]

theorem filter_add_of_pos {p : ρ → Bool} {row : ρ} (hp : p row = true) :
    (t.add row).filter p = t.filter p ++ [(t.nextId, row)] := by
  simp [filter, add, hp]

/-- Add rows one after the other. -/
def addAll (t : Table ρ) (rows : List ρ) : Table ρ := rows.foldl Table.add t

theorem filter_addAll {p : ρ → Bool} {rows : List ρ} (hp : ∀ r ∈ rows, p r = false) :
    (t.addAll rows).filter p = t.filter p := by
  induction rows generalizing t with
  | nil => rfl
  | cons row rest ih =>
    rw [addAll, List.foldl_cons]
    exact (ih fun r hr => hp r (List.mem_cons_of_mem _ hr)).trans
      (filter_add (hp row List.mem_cons_self))

theorem map_filter_addAll {p : ρ → Bool} {rows : List ρ} (hp : ∀ r ∈ rows, p r = true) :
    ((t.addAll rows).filter p).map Prod.snd = (t.filter p).map Prod.snd ++ rows := by
  induction rows generalizing t with
  | nil => simp [addAll]
  | cons row rest ih =>
    rw [addAll, List.foldl_cons]
    refine (ih fun r hr => hp r (List.mem_cons_of_mem _ hr)).trans ?_
    simp [filter_add_of_pos (hp row List.mem_cons_self)]

/-! ## Replacing a row -/

theorem mem_set {id : Int} {row : ρ} {e : Int × ρ} :
    e ∈ (t.set id row).rows ↔
      (e ∈ t.rows ∧ e.1 ≠ id) ∨ (e = (id, row) ∧ ∃ old, (id, old) ∈ t.rows) := by
  simp only [set, List.mem_map]
  constructor
  · rintro ⟨d, hd, rfl⟩
    split
    next heq => exact .inr ⟨rfl, d.2, heq ▸ hd⟩
    next hne => exact .inl ⟨hd, hne⟩
  · rintro (⟨he, hne⟩ | ⟨rfl, old, hold⟩)
    · exact ⟨e, he, if_neg hne⟩
    · exact ⟨(id, old), hold, if_pos rfl⟩

theorem find?_set {id id' : Int} {row : ρ} :
    (t.set id row).find? id' = if id' = id then (t.find? id).map fun _ => row else t.find? id' := by
  obtain ⟨rows, lastId⟩ := t
  simp only [find?, set]
  induction rows with
  | nil => simp
  | cons e rest ih =>
    obtain ⟨k, r⟩ := e
    simp only [List.map_cons]
    by_cases hk : k = id
    · by_cases hid : id' = id
      · simp [hk, hid]
      · have hne : (id' == id) = false := by simpa using hid
        simpa [hk, List.lookup_cons, hne, hid] using ih
    · by_cases hid' : id' = k
      · simp [hk, hid']
      · have hne : (id' == k) = false := by simpa using hid'
        have hne' : (id == k) = false := by simpa using Ne.symm hk
        simpa [hk, List.lookup_cons, hne, hne'] using ih

theorem contains_set {id id' : Int} {row : ρ} :
    (t.set id row).contains id' = t.contains id' := by
  rw [contains, contains, find?_set]
  split
  next same => simp [same]
  next => rfl

theorem Ordered.set (h : t.Ordered) (id : Int) (row : ρ) : (t.set id row).Ordered where
  increasing := by
    refine List.pairwise_map.2 (h.increasing.imp fun {a b} hab => ?_)
    split <;> split <;> grind
  bounded e he := by
    rcases mem_set.1 he with ⟨he, -⟩ | ⟨rfl, old, hold⟩
    · exact h.bounded e he
    · exact h.bounded (id, old) hold

theorem filter_set {p : ρ → Bool} {id : Int} {row : ρ} (hp : p row = false)
    (hold : ∀ old, (id, old) ∈ t.rows → p old = false) : (t.set id row).filter p = t.filter p := by
  obtain ⟨rows, lastId⟩ := t
  simp only [filter, set] at hold ⊢
  induction rows with
  | nil => rfl
  | cons e rest ih =>
    have rest_eq := ih fun old h => hold old (List.mem_cons_of_mem _ h)
    by_cases hid : e.1 = id
    · have := hold e.2 (hid ▸ List.mem_cons_self)
      simp [hid, hp, this, rest_eq]
    · simp [hid, List.filter_cons, rest_eq]

/-! ## Giving up a number -/

theorem rows_skipId : t.skipId.rows = t.rows := rfl

theorem filter_skipId {p : ρ → Bool} : t.skipId.filter p = t.filter p := rfl

theorem Ordered.skipId (h : t.Ordered) : t.skipId.Ordered where
  increasing := h.increasing
  bounded e he := by
    have := h.bounded e he
    simp only [Table.skipId, nextId]
    omega

/-! ## Changing and removing rows -/

theorem mem_update {p : ρ → Bool} {f : ρ → ρ} {e : Int × ρ} :
    e ∈ (t.update p f).rows ↔
      (e ∈ t.rows ∧ p e.2 = false) ∨ ∃ old, (e.1, old) ∈ t.rows ∧ p old = true ∧ e.2 = f old := by
  simp only [update, List.mem_map]
  constructor
  · rintro ⟨d, hd, rfl⟩
    split
    next hp => exact .inr ⟨d.2, hd, hp, rfl⟩
    next hp => exact .inl ⟨hd, by simpa using hp⟩
  · rintro (⟨he, hp⟩ | ⟨old, hold, hp, hf⟩)
    · exact ⟨e, he, by simp [hp]⟩
    · exact ⟨(e.1, old), hold, by simp [hp, ← hf]⟩

theorem Ordered.update (h : t.Ordered) (p : ρ → Bool) (f : ρ → ρ) : (t.update p f).Ordered where
  increasing := by
    refine List.pairwise_map.2 (h.increasing.imp fun {a b} hab => ?_)
    split <;> split <;> exact hab
  bounded e he := by
    rcases mem_update.1 he with ⟨he, -⟩ | ⟨old, hold, -, -⟩
    · exact h.bounded e he
    · exact h.bounded (e.1, old) hold

theorem filter_update {p q : ρ → Bool} {f : ρ → ρ} (hp : ∀ r, q r = true → p r = false)
    (hf : ∀ r, q r = true → p (f r) = false) : (t.update q f).filter p = t.filter p := by
  obtain ⟨rows, lastId⟩ := t
  simp only [filter, update]
  induction rows with
  | nil => rfl
  | cons e rest ih =>
    by_cases hq : q e.2 = true
    · simp [hq, hp _ hq, hf _ hq, ih]
    · simp [hq, List.filter_cons, ih]

theorem mem_removeWhere {p : ρ → Bool} {e : Int × ρ} :
    e ∈ (t.removeWhere p).rows ↔ e ∈ t.rows ∧ p e.2 = false := by
  simp [removeWhere]

theorem Ordered.removeWhere (h : t.Ordered) (p : ρ → Bool) : (t.removeWhere p).Ordered where
  increasing := h.increasing.filter _
  bounded e he := h.bounded e (mem_removeWhere.1 he).1

theorem filter_removeWhere {p q : ρ → Bool} (hp : ∀ r, q r = true → p r = false) :
    (t.removeWhere q).filter p = t.filter p := by
  simp only [filter, removeWhere, List.filter_filter]
  refine List.filter_congr fun e _ => ?_
  cases hq : q e.2 with
  | true => simp [hp _ hq]
  | false => simp

theorem filter_removeWhere_self {p : ρ → Bool} : (t.removeWhere p).filter p = [] := by
  simp [filter, removeWhere, List.filter_filter]

/-- Rows of a kind that are put in place of all others of it are all that there are. -/
theorem map_filter_replaced {p : ρ → Bool} {rows : List ρ} (hp : ∀ r ∈ rows, p r = true) :
    (((t.removeWhere p).addAll rows).filter p).map Prod.snd = rows := by
  rw [map_filter_addAll hp, filter_removeWhere_self]
  rfl

/-! ## Looking rows up -/

theorem mem_of_findWhere {p : ρ → Bool} {e : Int × ρ} (h : t.findWhere p = some e) :
    e ∈ t.rows ∧ p e.2 = true :=
  ⟨List.mem_of_find?_eq_some h, by simpa using List.find?_some h⟩

theorem findWhere_eq_none {p : ρ → Bool} :
    t.findWhere p = none ↔ ∀ e ∈ t.rows, p e.2 = false := by
  simp [findWhere]

theorem mem_filter {p : ρ → Bool} {e : Int × ρ} :
    e ∈ t.filter p ↔ e ∈ t.rows ∧ p e.2 = true := by
  simp [filter]

theorem filter_and {p q : ρ → Bool} :
    (t.filter fun r => p r && q r) = (t.filter p).filter fun e => q e.2 := by
  simp only [filter, List.filter_filter]
  exact List.filter_congr fun e _ => Bool.and_comm ..

/-- Two tables with the same rows of a kind find the same rows of that kind by their numbers. -/
theorem Ordered.find?_eq_of_filter_eq {t' : Table ρ} (h : t.Ordered) (h' : t'.Ordered)
    {p : ρ → Bool} (same : t'.filter p = t.filter p) {id : Int} {r : ρ}
    (found : t.find? id = some r) (hp : p r = true) : t'.find? id = some r := by
  have mem : (id, r) ∈ t'.filter p := by
    rw [same]
    exact mem_filter.2 ⟨h.find?_eq_some.1 found, hp⟩
  exact h'.find?_eq_some.2 (mem_filter.1 mem).1

end CodeAtlas.Store.Table
