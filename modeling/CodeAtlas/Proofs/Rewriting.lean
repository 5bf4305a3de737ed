import CodeAtlas.Proofs.Replacement

/-! # Writing the same again

What is written under a key that is there takes the number of the row that has it. So a list of rows
that is written once more gets the numbers that it had, and leaves what was written at first. -/
namespace CodeAtlas

/-! ## Lists -/

lemma exists_latest {κ : Type} [DecidableEq κ] {key : α → κ} {l : List α} {x : α} (h : x ∈ l) :
    ∃ y ∈ latest key l, key y = key x := by
  induction l generalizing x with
  | nil => cases h
  | cons z l ih =>
    unfold latest
    split
    next again =>
      rcases List.mem_cons.1 h with rfl | h
      · obtain ⟨y, hy, same⟩ := again
        exact same ▸ ih hy
      · exact ih h
    next =>
      rcases List.mem_cons.1 h with rfl | h
      · exact ⟨x, List.mem_cons_self, rfl⟩
      · obtain ⟨y, hy, same⟩ := ih h
        exact ⟨y, List.mem_cons_of_mem _ hy, same⟩

/-- Values in the same order with the same numbers. -/
lemma eq_of_map_snd {l l' : List (Int × α)} (values : l.map Prod.snd = l'.map Prod.snd)
    (numbers : ∀ x ∈ l, ∀ y ∈ l', x.2 = y.2 → x.1 = y.1) : l = l' := by
  induction l generalizing l' with
  | nil => exact (List.map_eq_nil_iff.1 values.symm).symm
  | cons x l ih =>
    cases l' with
    | nil => cases values
    | cons y l' =>
      rw [List.map_cons, List.map_cons, List.cons.injEq] at values
      have head := numbers x List.mem_cons_self y List.mem_cons_self values.1
      have rest := ih values.2 fun a ha b hb =>
        numbers a (List.mem_cons_of_mem _ ha) b (List.mem_cons_of_mem _ hb)
      rw [rest, show x = y from Prod.ext head values.1]

lemma eq_of_increasing {l l' : List (Int × α)} (h : l.Pairwise fun a b => a.1 < b.1)
    (h' : l'.Pairwise fun a b => a.1 < b.1) (same : ∀ e, e ∈ l ↔ e ∈ l') : l = l' := by
  have once : ∀ {m : List (Int × α)}, (m.Pairwise fun a b => a.1 < b.1) → m.Nodup := fun hm =>
    hm.imp fun before heq => Int.ne_of_lt before (congrArg Prod.fst heq)
  refine ((List.perm_ext_iff_of_nodup (once h) (once h')).2 same).eq_of_pairwise ?_ h h'
  intro a b _ _ before after
  exact absurd before (Int.not_lt.2 (Int.le_of_lt after))

/-! ## Keys of rows -/

namespace Store.Table

variable {κ : Type} {t t₀ u : Table ρ} {k : ρ → κ} {id : Int} {q : κ}

/-- The row of a number has a key. -/
def HasKey (t : Table ρ) (k : ρ → κ) (id : Int) (q : κ) : Prop := ∃ r, (id, r) ∈ t.rows ∧ k r = q

lemma Unique.eq_of_hasKey (h : t.Unique k) (has : t.HasKey k id q) {id' : Int}
    (has' : t.HasKey k id' q) : id = id' := by
  obtain ⟨r, mem, hq⟩ := has
  obtain ⟨r', mem', hq'⟩ := has'
  exact congrArg Prod.fst (h _ mem _ mem' (hq.trans hq'.symm))

section Written

variable {hit : ρ → Bool} {merge : ρ → ρ} {new : ρ} {home : Bool}

lemma Written.hasKey (h : t.Written hit merge new home id u) (ordered : t.Ordered)
    (hmerge : ∀ r, hit r = true → k (merge r) = k new) : u.HasKey k id (k new) := by
  obtain ⟨row, hrow, mem⟩ := h.mem ordered
  refine ⟨row, (mem _).2 (.inr rfl), ?_⟩
  rcases hrow with ⟨old, -, found, rfl⟩ | ⟨rfl, -⟩
  · exact hmerge old found
  · rfl

lemma Written.keep_key (h : t.Written hit merge new home id u) (ordered : t.Ordered)
    (hkey : ∀ r, hit r = true ↔ k r = k new)
    (hmerge : ∀ r, hit r = true → k (merge r) = k new) {id' : Int} (has : t.HasKey k id' q) :
    u.HasKey k id' q := by
  obtain ⟨r, mem, rfl⟩ := has
  obtain ⟨row, hrow, mem'⟩ := h.mem ordered
  by_cases hid : id' = id
  · subst hid
    rcases hrow with ⟨old, hold, found, rfl⟩ | ⟨-, -, next, -⟩
    · obtain rfl := ordered.eq_of_id mem hold
      exact (hkey r).1 found ▸ h.hasKey ordered hmerge
    · exact absurd (next ▸ mem) (ordered.not_mem_nextId r)
  · exact ⟨r, (mem' _).2 (.inl ⟨mem, hid⟩), rfl⟩

end Written

/-! ## Numbers of what is written -/

/-- What rows of a table have become of which some were saved. -/
structure Rewrites (t₀ : Table ρ) (k : ρ → κ) (key : β → κ) (saved : List (Int × β))
    (t : Table ρ) : Prop where
  ordered : t.Ordered
  unique : t.Unique k
  kept : ∀ id q, t₀.HasKey k id q → t.HasKey k id q
  there : ∀ x ∈ saved, t.HasKey k x.1 (key x.2)

/-- What was saved has the numbers that its keys had before, and one number for each key. -/
structure Reuses (t₀ : Table ρ) (k : ρ → κ) (key : β → κ) (saved : List (Int × β)) : Prop where
  before : ∀ x ∈ saved, ∀ id, t₀.HasKey k id (key x.2) → x.1 = id
  once : ∀ x ∈ saved, ∀ y ∈ saved, key x.2 = key y.2 → x.1 = y.1

variable {key : β → κ} {saved saved' : List (Int × β)}

lemma Rewrites.start (ordered : t.Ordered) (unique : t.Unique k) : t.Rewrites k key [] t :=
  ⟨ordered, unique, fun _ _ h => h, by simp⟩

lemma Rewrites.write {hit : ρ → Bool} {merge : ρ → ρ} {new : ρ} {home : Bool} {x : β}
    (h : t₀.Rewrites k key saved t) (written : t.Written hit merge new home id u)
    (hkey : ∀ r, hit r = true ↔ k r = k new) (hmerge : ∀ r, hit r = true → k (merge r) = k new)
    (hx : k new = key x) : t₀.Rewrites k key (saved ++ [(id, x)]) u where
  ordered := written.ordered h.ordered
  unique := written.unique h.ordered h.unique hkey hmerge
  kept id q has := written.keep_key h.ordered hkey hmerge (h.kept id q has)
  there y hy := by
    rcases List.mem_append.1 hy with hy | hy
    · exact written.keep_key h.ordered hkey hmerge (h.there y hy)
    · cases List.mem_singleton.1 hy
      exact hx ▸ written.hasKey h.ordered hmerge

lemma Rewrites.reuses (h : t₀.Rewrites k key saved t) : t₀.Reuses k key saved where
  before x hx id has := h.unique.eq_of_hasKey (h.there x hx) (h.kept id _ has)
  once x hx y hy same := h.unique.eq_of_hasKey (h.there x hx) (same ▸ h.there y hy)

lemma Reuses.eq (h : t.Reuses k key saved') (there : ∀ x ∈ saved, t.HasKey k x.1 (key x.2))
    (values : saved'.map Prod.snd = saved.map Prod.snd) : saved' = saved := by
  refine eq_of_map_snd values fun x hx y hy same => ?_
  exact h.before x hx y.1 (same ▸ there y hy)

/-! ## Rows that are written -/

section

variable {ι : Type} [DecidableEq ι] {new : β → ρ} {place : Int × β → ι}

/-- The rows that were saved are the last of each key, and the others are what they were. -/
def Overlays (t₀ : Table ρ) (new : β → ρ) (place : Int × β → ι) (saved : List (Int × β))
    (t : Table ρ) : Prop :=
  ∀ e, e ∈ t.rows ↔ (∃ x, (e.1, x) ∈ latest place saved ∧ e.2 = new x) ∨
    e ∈ t₀.rows ∧ ∀ x ∈ saved, x.1 ≠ e.1

lemma Overlays.start : t.Overlays new place [] t := by simp [Overlays, latest]

lemma Overlays.write (h : t₀.Overlays new place saved t) {x : β}
    (mem : ∀ e, e ∈ u.rows ↔ (e ∈ t.rows ∧ e.1 ≠ id) ∨ e = (id, new x))
    (keys : ∀ e ∈ t.rows, ∀ y, e.2 = new y → (place (e.1, y) = place (id, x) ↔ e.1 = id)) :
    t₀.Overlays new place (saved ++ [(id, x)]) u := by
  intro e
  constructor
  · intro he
    rcases (mem e).1 he with ⟨he, hne⟩ | rfl
    · rcases (h e).1 he with ⟨y, last, row⟩ | ⟨old, unsaved⟩
      · have other : place (e.1, y) ≠ place (id, x) := fun same => hne ((keys e he y row).1 same)
        exact .inl ⟨y, mem_latest_concat.2 (.inl ⟨last, other⟩), row⟩
      · refine .inr ⟨old, fun y hy => ?_⟩
        rcases List.mem_append.1 hy with hy | hy
        · exact unsaved y hy
        · cases List.mem_singleton.1 hy
          exact Ne.symm hne
    · exact .inl ⟨x, mem_latest_concat.2 (.inr rfl), rfl⟩
  · rintro (⟨y, last, row⟩ | ⟨old, unsaved⟩)
    · rcases mem_latest_concat.1 last with ⟨last, other⟩ | heq
      · have he := (h e).2 (.inl ⟨y, last, row⟩)
        exact (mem e).2 (.inl ⟨he, fun hid => other ((keys e he y row).2 hid)⟩)
      · obtain ⟨hid, rfl⟩ := Prod.ext_iff.1 heq
        exact (mem e).2 (.inr (Prod.ext hid row))
    · have he := (h e).2 (.inr ⟨old, fun y hy => unsaved y (List.mem_append_left _ hy)⟩)
      have hne := unsaved (id, x) (List.mem_append_right _ List.mem_cons_self)
      exact (mem e).2 (.inl ⟨he, Ne.symm hne⟩)

/-- What is written once more under the same numbers changes no row. -/
lemma Overlays.again (h : t₀.Overlays new place saved t) (h' : t.Overlays new place saved u)
    (ordered : t.Ordered) (ordered' : u.Ordered) : u.rows = t.rows := by
  refine eq_of_increasing ordered'.increasing ordered.increasing fun e => ?_
  constructor
  · intro he
    rcases (h' e).1 he with last | ⟨old, -⟩
    · exact (h e).2 (.inl last)
    · exact old
  · intro he
    rcases (h e).1 he with last | ⟨-, unsaved⟩
    · exact (h' e).2 (.inl last)
    · exact (h' e).2 (.inr ⟨he, unsaved⟩)

/-- What was saved is in the table under its keys, if a key has one number. -/
lemma Records.there {marked : ρ → Prop} (h : t.Records marked new place saved)
    (once : ∀ x ∈ saved, ∀ y ∈ saved, key x.2 = key y.2 → x.1 = y.1)
    (same : ∀ x y, place x = place y → key x.2 = key y.2) (hkey : ∀ x, k (new x) = key x) :
    ∀ x ∈ saved, t.HasKey k x.1 (key x.2) := by
  intro x hx
  obtain ⟨y, last, hplace⟩ : ∃ y ∈ latest place saved, place y = place x := exists_latest hx
  have keys := same x y hplace.symm
  have number := once x hx y (latest_subset last) keys
  obtain ⟨row, -⟩ := (h (y.1, new y.2)).2 ⟨y.2, last, rfl⟩
  exact ⟨new y.2, number ▸ row, (hkey y.2).trans keys.symm⟩

/-- Two tables whose rows of a kind were saved under the same numbers have the same rows of that
kind, one as the other but for what a row is made of. -/
lemma filter_eq_map {p : ρ → Bool} {new' : β → ρ} {f : ρ → ρ} (ordered : t.Ordered)
    (ordered' : u.Ordered) (rows : ∀ e, e ∈ t.filter p ↔
      ∃ x, (e.1, x) ∈ latest place saved ∧ e.2 = new x)
    (rows' : ∀ e, e ∈ u.filter p ↔ ∃ x, (e.1, x) ∈ latest place saved ∧ e.2 = new' x)
    (same : ∀ x, f (new x) = new' x) :
    u.filter p = (t.filter p).map fun e => (e.1, f e.2) := by
  refine eq_of_increasing (ordered'.increasing.filter _)
    (List.pairwise_map.2 (ordered.increasing.filter _)) fun e => ?_
  rw [rows' e, List.mem_map]
  constructor
  · rintro ⟨x, last, row⟩
    exact ⟨(e.1, new x), (rows _).2 ⟨x, last, rfl⟩, Prod.ext rfl ((same x).trans row.symm)⟩
  · rintro ⟨d, hd, rfl⟩
    obtain ⟨x, last, row⟩ := (rows d).1 hd
    exact ⟨x, last, (congrArg f row).trans (same x)⟩

end

end Store.Table

end CodeAtlas
