import CodeAtlas.Proofs.Scalars

/-! # Documents that are read again

What is written of a list, a record and a document is read as the same value. So the columns that
hold documents give back what was put into them, as far as the reader goes. -/
namespace CodeAtlas

namespace Json

open Number

variable {α β σ : Type} {a : α} {c : Cursor} {ch : Char} {cs rest : List Char}

/-! ## Lists -/

/-- A text that begins like an item of a list. -/
def BeginsItem (cs : List Char) : Prop :=
  ∃ ch rest, cs = ch :: rest ∧ Cursor.isSpace ch = false ∧ ch ≠ ']'

/-- What follows an item of a list: the other items and the end. -/
def moreItems : List Json → List Char
  | [] => [']']
  | j :: rest => ',' :: itemChars (j :: rest)

lemma itemChars_cons (j : Json) (js : List Json) :
    itemChars (j :: js) = chars j ++ moreItems js := by
  cases js <;> simp [itemChars, moreItems]

lemma ends_moreItems (js : List Json) (rest : List Char) : Ends (moreItems js ++ rest) := by
  cases js <;> rintro _ ⟨⟩ <;> simp

variable {item : Reader α} {write : α → Json}

lemma leaves_nextItem_end {first : Bool} (h : c.rest = ']' :: rest) :
    Leaves (nextItem first c) false (']' :: rest) := by
  obtain ⟨same, here, -⟩ := Cursor.ahead h (by decide)
  unfold nextItem
  simp only [same, here]
  exact .ok h

lemma leaves_nextItem_first (begins : BeginsItem cs) (h : c.rest = cs ++ rest) :
    Leaves (nextItem true c) true (cs ++ rest) := by
  obtain ⟨ch, more, rfl, space, close⟩ := begins
  obtain ⟨same, here, -⟩ := Cursor.ahead h space
  unfold nextItem
  simp only [same, here, if_true]
  exact .ok h

lemma leaves_nextItem_comma (begins : BeginsItem cs) (h : c.rest = ',' :: (cs ++ rest)) :
    Leaves (nextItem false c) true (cs ++ rest) := by
  obtain ⟨ch, more, rfl, space, close⟩ := begins
  obtain ⟨same, here, left⟩ := Cursor.ahead h (by decide)
  obtain ⟨next, there, -⟩ := Cursor.ahead left space
  unfold nextItem
  simp only [same, here, next, there, Bool.false_eq_true, if_false]
  exact .ok left

lemma leaves_closeArray (h : c.rest = ']' :: rest) : Leaves (closeArray c) () rest := by
  obtain ⟨same, here, left⟩ := Cursor.ahead h (by decide)
  unfold closeArray
  simp only [same, here]
  exact .ok left

/-- An item is read, and then the others. -/
lemma leaves_readItems_step {first : Bool} {fuel : Nat} {as : List α}
    (reads : ReadsBack item (chars (write a)) a)
    (next : Leaves (nextItem first c) true (chars (write a) ++ (moreItems (as.map write) ++ rest)))
    (later : ∀ c, c.rest = moreItems (as.map write) ++ rest →
      Leaves (readItems item fuel false c) as (']' :: rest)) :
    Leaves (readItems item (fuel + 1) first c) (a :: as) (']' :: rest) := by
  rw [readItems]
  refine next.bind fun c left => ?_
  refine (reads c _ left (ends_moreItems _ _)).bind fun c left => ?_
  exact (later c left).bind fun c left => .ok left

lemma leaves_readItems {as : List α} (reads : ∀ a ∈ as, ReadsBack item (chars (write a)) a)
    (begins : ∀ a ∈ as, BeginsItem (chars (write a))) {fuel : Nat} (enough : as.length < fuel)
    (h : c.rest = moreItems (as.map write) ++ rest) :
    Leaves (readItems item fuel false c) as (']' :: rest) := by
  induction as generalizing c fuel with
  | nil =>
    obtain ⟨fuel, rfl⟩ := Nat.exists_eq_add_of_lt enough
    rw [readItems]
    exact (leaves_nextItem_end h).bind fun c left => .ok left
  | cons a as ih =>
    obtain ⟨readsHere, readsThere⟩ := List.forall_mem_cons.1 reads
    obtain ⟨beginsHere, beginsThere⟩ := List.forall_mem_cons.1 begins
    cases fuel with
    | zero => cases enough
    | succ fuel =>
      rw [List.map_cons, moreItems, itemChars_cons, List.cons_append, List.append_assoc] at h
      exact leaves_readItems_step readsHere (leaves_nextItem_comma beginsHere h) fun c left =>
        ih readsThere beginsThere (Nat.lt_of_succ_lt_succ enough) left

lemma length_lt_moreItems (js : List Json) : js.length < (moreItems js).length := by
  induction js with
  | nil => exact Nat.one_pos
  | cons j js ih =>
    rw [moreItems, itemChars_cons, List.length_cons, List.length_cons, List.length_append]
    omega

/-- All items of a list are read, its end is left. -/
lemma leaves_allItems {as : List α} (reads : ∀ a ∈ as, ReadsBack item (chars (write a)) a)
    (begins : ∀ a ∈ as, BeginsItem (chars (write a)))
    (h : c.rest = itemChars (as.map write) ++ rest) :
    Leaves (readItems item (c.rest.length + 1) true c) as (']' :: rest) := by
  cases as with
  | nil =>
    rw [readItems]
    exact (leaves_nextItem_end h).bind fun c left => .ok left
  | cons a as =>
    obtain ⟨readsHere, readsThere⟩ := List.forall_mem_cons.1 reads
    obtain ⟨beginsHere, beginsThere⟩ := List.forall_mem_cons.1 begins
    have enough : as.length < c.rest.length := by
      have := length_lt_moreItems (as.map write)
      rw [List.length_map] at this
      rw [h, List.map_cons, itemChars_cons, List.length_append, List.length_append]
      omega
    rw [List.map_cons, itemChars_cons, List.append_assoc] at h
    exact leaves_readItems_step readsHere (leaves_nextItem_first beginsHere h) fun c left =>
      leaves_readItems readsThere beginsThere enough left

lemma readsBack_readList {as : List α} (reads : ∀ a ∈ as, ReadsBack item (chars (write a)) a)
    (begins : ∀ a ∈ as, BeginsItem (chars (write a))) :
    ReadsBack (readList item) (chars (.array (as.map write))) as := by
  intro c rest h _
  rw [chars, List.cons_append] at h
  obtain ⟨same, here, inside⟩ := Cursor.ahead h (by decide)
  unfold readList
  simp only [same, here]
  exact (leaves_allItems reads begins inside).bind fun c left =>
    (leaves_closeArray left).bind fun c left => .ok left

/-! ## Records -/

/-- What follows a field of a record: the other fields and the end. -/
def moreFields : List (String × Json) → List Char
  | [] => ['}']
  | f :: rest => ',' :: fieldChars (f :: rest)

lemma fieldChars_cons (key : String) (j : Json) (fields : List (String × Json)) :
    fieldChars ((key, j) :: fields) =
      quoteChars key.toList ++ ':' :: (chars j ++ moreFields fields) := by
  cases fields <;> simp [fieldChars, moreFields]

lemma ends_moreFields (fields : List (String × Json)) (rest : List Char) :
    Ends (moreFields fields ++ rest) := by
  cases fields <;> rintro _ ⟨⟩ <;> simp

lemma length_lt_moreFields (fields : List (String × Json)) :
    fields.length < (moreFields fields).length := by
  induction fields with
  | nil => exact Nat.one_pos
  | cons f fields ih =>
    rw [moreFields, fieldChars_cons, List.length_cons, List.length_cons, List.length_append,
      List.length_cons, List.length_append]
    omega

lemma leaves_nextField_end {first : Bool} (h : c.rest = '}' :: rest) :
    Leaves (nextField first c) false ('}' :: rest) := by
  obtain ⟨same, here, -⟩ := Cursor.ahead h (by decide)
  unfold nextField
  simp only [same, here]
  exact .ok h

lemma leaves_nextField_first (h : c.rest = '"' :: rest) :
    Leaves (nextField true c) true ('"' :: rest) := by
  obtain ⟨same, here, -⟩ := Cursor.ahead h (by decide)
  unfold nextField
  simp only [same, here, if_true]
  exact .ok h

lemma leaves_nextField_comma (h : c.rest = ',' :: '"' :: rest) :
    Leaves (nextField false c) true ('"' :: rest) := by
  obtain ⟨same, here, left⟩ := Cursor.ahead h (by decide)
  obtain ⟨next, there, -⟩ := Cursor.ahead left (by decide)
  unfold nextField
  simp only [same, here, next, there, Bool.false_eq_true, if_false]
  exact .ok left

lemma leaves_readColon (h : c.rest = ':' :: rest) : Leaves (readColon c) () rest := by
  obtain ⟨same, here, left⟩ := Cursor.ahead h (by decide)
  unfold readColon
  simp only [same, here]
  exact .ok left

lemma leaves_closeObject (h : c.rest = '}' :: rest) : Leaves (closeObject c) () rest := by
  obtain ⟨same, here, left⟩ := Cursor.ahead h (by decide)
  unfold closeObject
  simp only [same, here]
  exact .ok left

/-- Fields of a record, and what is read of the record before and behind them. -/
inductive Takes (r : RecordShape σ α) : σ → List (String × Json) → σ → Prop
  | nil (st : σ) : Takes r st [] st
  | cons {st st' st'' : σ} {key : String} {j : Json} {fields : List (String × Json)}
      {field : Reader σ} (known : r.fields.contains key = true) (taken : r.take key st = some field)
      (reads : ReadsBack field (chars j) st') (later : Takes r st' fields st'') :
      Takes r st ((key, j) :: fields) st''

variable {r : RecordShape σ α} {st st' st'' : σ} {key : String} {j : Json}
  {fields : List (String × Json)} {fuel : Nat}

/-- A field is read, and then the others. -/
lemma leaves_readFields_step {first : Bool} {field : Reader σ}
    (known : r.fields.contains key = true) (taken : r.take key st = some field)
    (reads : ReadsBack field (chars j) st')
    (next : Leaves (nextField first c) true
      ('"' :: (key.toList.flatMap escapeChar ++
        '"' :: ':' :: (chars j ++ (moreFields fields ++ rest)))))
    (later : ∀ c, c.rest = moreFields fields ++ rest →
      Leaves (r.readFields fuel false st' c) st'' ('}' :: rest)) :
    Leaves (r.readFields (fuel + 1) first st c) st'' ('}' :: rest) := by
  rw [RecordShape.readFields]
  refine next.bind fun c left => ?_
  refine (leaves_readStringBody (Cursor.rest_next left)).bind fun c left => ?_
  simp only [known, taken, if_true]
  refine (leaves_readColon left).bind fun c left => ?_
  exact (reads c _ left (ends_moreFields _ _)).bind fun c left => later c left

lemma fieldChars_append (key : String) (j : Json) (fields : List (String × Json))
    (rest : List Char) : fieldChars ((key, j) :: fields) ++ rest =
      '"' :: (key.toList.flatMap escapeChar ++
        '"' :: ':' :: (chars j ++ (moreFields fields ++ rest))) := by
  simp [fieldChars_cons, quoteChars]

/-- The fields of a record are read, its end is left. -/
lemma Takes.leaves (h : Takes r st fields st') (enough : fields.length < fuel)
    (text : c.rest = moreFields fields ++ rest) :
    Leaves (r.readFields fuel false st c) st' ('}' :: rest) := by
  induction h generalizing c fuel with
  | nil st =>
    obtain ⟨fuel, rfl⟩ := Nat.exists_eq_add_of_lt enough
    rw [RecordShape.readFields]
    exact (leaves_nextField_end text).bind fun c left => .ok left
  | cons known taken reads later ih =>
    cases fuel with
    | zero => cases enough
    | succ fuel =>
      rw [moreFields, List.cons_append, fieldChars_append] at text
      exact leaves_readFields_step known taken reads (leaves_nextField_comma text) fun c left =>
        ih (Nat.lt_of_succ_lt_succ enough) left

/-- A record is read of an object that has all its fields. -/
lemma Takes.readsBack (h : Takes r r.start fields st) (some : fields ≠ [])
    (finish : r.finish st = .ok a) : ReadsBack r.read (chars (.object fields)) a := by
  intro c rest text _
  rw [chars, List.cons_append] at text
  obtain ⟨same, here, inside⟩ := Cursor.ahead text (by decide)
  unfold RecordShape.read
  simp only [same, here]
  have read : Leaves (r.readFields (c.next.rest.length + 1) true r.start c.next) st
      ('}' :: rest) := by
    cases h with
    | nil => exact absurd rfl some
    | @cons _ _ _ key j fields _ known taken reads later =>
      have enough : fields.length < c.next.rest.length := by
        have := length_lt_moreFields fields
        rw [inside, fieldChars_cons, List.length_append, List.length_append, List.length_cons,
          List.length_append]
        omega
      rw [fieldChars_append] at inside
      exact leaves_readFields_step known taken reads (leaves_nextField_first inside)
        fun c left => later.leaves enough left
  refine read.bind fun c left => ?_
  simp only [finish]
  exact (leaves_closeObject left).bind fun c left => .ok left

/-! ## Any document -/

/-- A document that is read as itself, nested at most this deep. The reader knows integers of 64
bits, and of a name that an object has twice it keeps one. -/
def Told : (depth : Nat) → Json → Prop
  | _, .null | _, .bool _ | _, .string _ => True
  | _, .number (.int n) => IsCounted n
  | _, .number (.double x) => IsTold plainNumber (.number (.double x)) (.double x)
  | _, .number (.single _) => False
  | depth + 1, .array items => ∀ j ∈ items, Told depth j
  | depth + 1, .object fields => (fields.map (·.1)).Nodup ∧ ∀ f ∈ fields, Told depth f.2
  | 0, .array _ | 0, .object _ => False

/-- An object with names of its own for all fields has no field replaced. -/
lemma setField_eq_append {fields : List (String × Json)} (fresh : key ∉ fields.map (·.1))
    (j : Json) :
    setField fields key j = fields ++ [(key, j)] := by
  have none : fields.any (·.1 = key) = false := by
    simp only [List.any_eq_false, decide_eq_true_eq]
    exact fun f mem same => fresh (List.mem_map.2 ⟨f, mem, same⟩)
  rw [setField, none, if_neg Bool.false_ne_true]

section Fields

variable {item : Reader Json} {before : List (String × Json)}

lemma leaves_readFields_cons {first : Bool} (fresh : key ∉ before.map (·.1))
    (reads : ReadsBack item (chars j) j)
    (next : Leaves (nextField first c) true
      ('"' :: (key.toList.flatMap escapeChar ++
        '"' :: ':' :: (chars j ++ (moreFields fields ++ rest)))))
    (later : ∀ c, c.rest = moreFields fields ++ rest →
      Leaves (readFields item fuel false (before ++ [(key, j)]) c)
        (before ++ (key, j) :: fields) ('}' :: rest)) :
    Leaves (readFields item (fuel + 1) first before c) (before ++ (key, j) :: fields)
      ('}' :: rest) := by
  rw [readFields]
  refine next.bind fun c left => ?_
  refine (leaves_readStringBody (Cursor.rest_next left)).bind fun c left => ?_
  refine (leaves_readColon left).bind fun c left => ?_
  refine (reads c _ left (ends_moreFields _ _)).bind fun c left => ?_
  dsimp only
  rw [setField_eq_append fresh]
  exact later c left

lemma leaves_readFields (apart : ((before ++ fields).map (·.1)).Nodup)
    (reads : ∀ f ∈ fields, ReadsBack item (chars f.2) f.2) (enough : fields.length < fuel)
    (h : c.rest = moreFields fields ++ rest) :
    Leaves (readFields item fuel false before c) (before ++ fields) ('}' :: rest) := by
  induction fields generalizing before c fuel with
  | nil =>
    obtain ⟨fuel, rfl⟩ := Nat.exists_eq_add_of_lt enough
    rw [readFields, List.append_nil]
    exact (leaves_nextField_end h).bind fun c left => .ok left
  | cons f fields ih =>
    obtain ⟨key, j⟩ := f
    obtain ⟨readsHere, readsThere⟩ := List.forall_mem_cons.1 reads
    have fresh : key ∉ before.map (·.1) := by
      rw [List.map_append, List.map_cons] at apart
      exact (List.nodup_middle.1 apart).notMem ∘ List.mem_append_left _
    rw [List.append_cons] at apart
    cases fuel with
    | zero => cases enough
    | succ fuel =>
      rw [moreFields, List.cons_append, fieldChars_append] at h
      refine leaves_readFields_cons fresh readsHere (leaves_nextField_comma h) fun c left => ?_
      have read := ih apart readsThere (Nat.lt_of_succ_lt_succ enough) left
      rwa [List.append_assoc] at read

lemma leaves_allFields (apart : (fields.map (·.1)).Nodup)
    (reads : ∀ f ∈ fields, ReadsBack item (chars f.2) f.2)
    (h : c.rest = fieldChars fields ++ rest) :
    Leaves (readFields item (c.rest.length + 1) true [] c) fields ('}' :: rest) := by
  cases fields with
  | nil =>
    rw [readFields]
    exact (leaves_nextField_end h).bind fun c left => .ok left
  | cons f fields =>
    obtain ⟨key, j⟩ := f
    obtain ⟨readsHere, readsThere⟩ := List.forall_mem_cons.1 reads
    have enough : fields.length < c.rest.length := by
      have := length_lt_moreFields fields
      rw [h, fieldChars_cons, List.length_append, List.length_append, List.length_cons,
        List.length_append]
      omega
    rw [fieldChars_append] at h
    exact leaves_readFields_cons List.not_mem_nil readsHere (leaves_nextField_first h) fun c left =>
      leaves_readFields apart readsThere enough left

end Fields

/-! ### How a document begins -/

lemma beginsItem_digit {d : Char} (h : isDigit d = true) (cs : List Char) :
    BeginsItem (d :: cs) := by
  refine ⟨d, cs, rfl, ?_, ?_⟩
  · rw [← Bool.not_eq_true]
    intro space
    simp only [Cursor.isSpace, Bool.or_eq_true, beq_iff_eq] at space
    rcases space with ((rfl | rfl) | rfl) | rfl <;> cases h
  · rintro rfl
    cases h

lemma beginsItem_digits (n : Nat) (cs : List Char) : BeginsItem (digits n ++ cs) := by
  obtain ⟨d, ds, v, eq, digit, -⟩ := digits_cases n
  rw [eq]
  exact beginsItem_digit (by rw [isDigit, digit]; rfl) _

lemma beginsItem_positional (d : Decimal) (cs : List Char) :
    BeginsItem (d.positional.toList ++ cs) := by
  unfold Decimal.positional
  split_ifs with whole
  · rw [String.toList_ofList, List.append_assoc]
    exact beginsItem_digits _ _
  · dsimp only
    rw [String.toList_ofList, List.append_assoc]
    generalize (-d.exponent).toNat = places
    -- At least one digit stands before the point.
    obtain ⟨ch, ds, eq, digit⟩ : ∃ ch ds,
        List.replicate (places + 1 - (digits d.coefficient).length) '0' ++ digits d.coefficient =
          ch :: ds ∧ isDigit ch = true := by
      cases places + 1 - (digits d.coefficient).length with
      | zero =>
        obtain ⟨ch, ds, v, eq, digit, -⟩ := digits_cases d.coefficient
        exact ⟨ch, ds, eq, by rw [isDigit, digit]; rfl⟩
      | succ k => exact ⟨'0', _, rfl, by decide⟩
    have long : places + 1 ≤ (ch :: ds).length := by
      rw [← eq, List.length_append, List.length_replicate]
      omega
    obtain ⟨k, front⟩ : ∃ k, (ch :: ds).length - places = k + 1 :=
      ⟨(ch :: ds).length - places - 1, by omega⟩
    rw [eq, front, List.take_succ_cons]
    exact beginsItem_digit digit _

lemma beginsItem_scientific (d : Decimal) : BeginsItem d.scientific.toList := by
  unfold Decimal.scientific
  dsimp only
  split_ifs
  · rw [String.toList_append]
    exact beginsItem_positional d _
  · rw [← List.append_nil d.positional.toList]
    exact beginsItem_positional d _
  · obtain ⟨c, ds, v, eq, digit, -⟩ := digits_cases d.coefficient
    have plain : isDigit c = true := by rw [isDigit, digit]; rfl
    rw [eq, String.toList_append, String.toList_append, String.toList_ofList]
    cases ds <;> exact beginsItem_digit plain _

lemma beginsItem_dataText {x : Binary64} {text : String} (h : x.dataText = some text) :
    BeginsItem text.toList := by
  unfold Binary64.dataText Binary64.isFinite at h
  split at h
  next negative m e eq =>
    cases h
    rw [eq, signedText, String.toList_append]
    cases negative with
    | true => exact ⟨'-', _, rfl, by decide, by decide⟩
    | false =>
      rw [if_neg Bool.false_ne_true]
      split_ifs
      · exact beginsItem_digit (d := '0') (by decide) _
      · exact beginsItem_scientific _
  next => cases h

lemma beginsItem_chars {depth : Nat} {j : Json} (told : Told depth j) : BeginsItem (chars j) := by
  have plain : ∀ {ch : Char} (cs : List Char), Cursor.isSpace ch = false ∧ ch ≠ ']' →
      BeginsItem (ch :: cs) := fun cs h => ⟨_, cs, rfl, h.1, h.2⟩
  cases j with
  | null => exact plain _ (by decide)
  | bool b => cases b <;> exact plain _ (by decide)
  | string s => exact plain _ (by decide)
  | array items => exact plain _ (by decide)
  | object fields => exact plain _ (by decide)
  | number n =>
    cases n with
    | int i =>
      rw [chars, numberChars, intChars]
      split_ifs
      · exact plain _ (by decide)
      · rw [← List.append_nil (digits _)]
        exact beginsItem_digits _ _
    | double x =>
      rw [chars, numberChars]
      cases text : x.dataText with
      | none => exact plain _ (by decide)
      | some text => exact beginsItem_dataText ‹_›
    | single x => cases depth <;> cases told

/-- A document that is not nested too deep is read as itself. -/
theorem Told.readsBack {depth : Nat} {j : Json} (told : Told depth j) :
    ReadsBack (readValueWithin depth) (chars j) j := by
  induction depth using Nat.strongRecOn generalizing j with
  | ind depth ih =>
    cases j with
    | null =>
      intro c rest h _
      obtain ⟨same, first, left⟩ := Cursor.ahead (show c.rest = 'n' :: _ from h) (by decide)
      unfold readValueWithin
      simp only [same, first]
      exact (leaves_readWord left).bind fun c left => .ok left
    | bool b =>
      intro c rest h _
      cases b with
      | true =>
        obtain ⟨same, first, left⟩ := Cursor.ahead (show c.rest = 't' :: _ from h) (by decide)
        unfold readValueWithin
        simp only [same, first]
        exact (leaves_readWord left).bind fun c left => .ok left
      | false =>
        obtain ⟨same, first, left⟩ := Cursor.ahead (show c.rest = 'f' :: _ from h) (by decide)
        unfold readValueWithin
        simp only [same, first]
        exact (leaves_readWord left).bind fun c left => .ok left
    | string s =>
      intro c rest h _
      rw [chars] at h
      obtain ⟨same, quote, behind⟩ := peek?_quoted h
      unfold readValueWithin
      simp only [same, quote]
      exact (leaves_readStringBody behind).bind fun c left => .ok left
    | number n =>
      cases n with
      | int i => exact (readsBack_int (by cases depth <;> exact told)).number depth
      | double x => exact (IsTold.readsBack (by cases depth <;> exact told)).number depth
      | single x => cases depth <;> cases told
    | array items =>
      cases depth with
      | zero => cases told
      | succ depth =>
        intro c rest h _
        rw [chars, List.cons_append, ← List.map_id items] at h
        obtain ⟨same, first, inside⟩ := Cursor.ahead h (by decide)
        unfold readValueWithin
        simp only [same, first]
        have items := leaves_allItems (fun j mem => ih depth (Nat.lt_succ_self _) (told j mem))
          (fun j mem => beginsItem_chars (told j mem)) inside
        exact items.bind fun c left => (leaves_closeArray left).bind fun c left => .ok left
    | object fields =>
      cases depth with
      | zero => cases told
      | succ depth =>
        intro c rest h _
        rw [chars, List.cons_append] at h
        obtain ⟨same, first, inside⟩ := Cursor.ahead h (by decide)
        unfold readValueWithin
        simp only [same, first]
        have fields := leaves_allFields told.1
          (fun f mem => ih depth (Nat.lt_succ_self _) (told.2 f mem)) inside
        exact fields.bind fun c left => (leaves_closeObject left).bind fun c left => .ok left

end Json

namespace Store

open Json Number

/-! ## Columns of documents -/

/-- A field is put into a draft that lacks it. -/
lemma takes_field {σ α β : Type} {r : RecordShape σ α} {key : String} {draft st : σ}
    (has : σ → Bool) (put : β → σ → σ) {read : Reader β} {b : β} {j : Json}
    {fields : List (String × Json)} (known : r.fields.contains key = true)
    (shape : r.take key draft = takeField has read put draft) (missing : has draft = false)
    (reads : ReadsBack read (chars j) b) (later : Takes r (put b draft) fields st) :
    Takes r draft ((key, j) :: fields) st := by
  rw [takeField, missing, if_neg Bool.false_ne_true] at shape
  exact .cons known shape (fun c rest text behind =>
    (reads c rest text behind).bind fun c left => .ok left) later

lemma beginsItem_object (fields : List (String × Json)) : BeginsItem (chars (.object fields)) :=
  ⟨'{', _, rfl, by decide, by decide⟩

lemma readsBack_fileChange {x : FileChange} (additions : x.additions < 0x100000000)
    (deletions : x.deletions < 0x100000000) : ReadsBack changeShape.read (chars x.toJson) x := by
  have kind : ReadsBack (readWordOf ChangeKind.all ChangeKind.name) (chars (.string x.kind.name))
      x.kind := by
    refine readsBack_readWordOf ?_ ?_
    · cases x.kind <;> decide
    · cases x.kind <;> decide
  have takes : Takes changeShape changeShape.start
      [("filename", .string x.filename), ("additions", .nat x.additions),
        ("deletions", .nat x.deletions), ("kind", .string x.kind.name)]
      ⟨some x.filename, some x.additions, some x.deletions, some x.kind⟩ := by
    refine takes_field (·.filename.isSome) (fun v d => { d with filename := some v }) rfl rfl rfl
      (readsBack_readString _) ?_
    refine takes_field (·.additions.isSome) (fun v d => { d with additions := some v }) rfl rfl rfl
      (readsBack_readU32 additions) ?_
    refine takes_field (·.deletions.isSome) (fun v d => { d with deletions := some v }) rfl rfl rfl
      (readsBack_readU32 deletions) ?_
    refine takes_field (·.kind.isSome) (fun v d => { d with kind := some v }) rfl rfl rfl
      kind ?_
    exact .nil _
  exact takes.readsBack (List.cons_ne_nil _ _) rfl

lemma readsBack_parameter (x : Parameter) : ReadsBack parameterShape.read (chars x.toJson) x := by
  have takes : Takes parameterShape parameterShape.start
      [("name", .string x.name), ("type_name", .string x.typeName),
        ("default_value", .optional .string x.defaultValue)]
      ⟨some x.name, some x.typeName, some x.defaultValue⟩ := by
    refine takes_field (·.name.isSome) (fun v d => { d with name := some v }) rfl rfl rfl
      (readsBack_readString _) ?_
    refine takes_field (·.typeName.isSome) (fun v d => { d with typeName := some v }) rfl rfl rfl
      (readsBack_readString _) ?_
    refine takes_field (·.defaultValue.isSome) (fun v d => { d with defaultValue := some v })
      rfl rfl rfl
      (readsBack_readOptionalString _) ?_
    exact .nil _
  exact takes.readsBack (List.cons_ne_nil _ _) rfl

/-! ### Excerpts and sources -/

/-- A score is read as itself from its text. None is that is not finite. -/
def ScoreTold (x : Binary32) : Prop := IsTold readBinary32 (.single x) x

instance (x : Binary32) : Decidable (ScoreTold x) :=
  inferInstanceAs (Decidable (IsTold readBinary32 (.single x) x))

lemma ScoreTold.readsBack {x : Binary32} (h : ScoreTold x) :
    ReadsBack readBinary32 (chars (.single x)) x := IsTold.readsBack h

lemma readsBack_chunk {x : ContextChunk} (score : ScoreTold x.score) :
    ReadsBack chunkShape.read (chars x.toJson) x := by
  have takes : Takes chunkShape chunkShape.start
      [("content", .string x.content), ("source", .string x.source), ("score", .single x.score)]
      ⟨some x.content, some x.source, some x.score⟩ := by
    refine takes_field (·.content.isSome) (fun v d => { d with content := some v }) rfl rfl rfl
      (readsBack_readString _) ?_
    refine takes_field (·.source.isSome) (fun v d => { d with source := some v }) rfl rfl rfl
      (readsBack_readString _) ?_
    refine takes_field (·.score.isSome) (fun v d => { d with score := some v }) rfl rfl rfl
      score.readsBack ?_
    exact .nil _
  exact takes.readsBack (List.cons_ne_nil _ _) rfl

lemma readsBack_fileSource {x : FileSource} (relevance : ScoreTold x.relevance) :
    ReadsBack fileShape.read (chars x.toJson) x := by
  have takes : Takes fileShape fileShape.start
      [("path", .string x.path), ("relevance", .single x.relevance)]
      ⟨some x.path, some x.relevance⟩ := by
    refine takes_field (·.path.isSome) (fun v d => { d with path := some v }) rfl rfl rfl
      (readsBack_readString _) ?_
    refine takes_field (·.relevance.isSome) (fun v d => { d with relevance := some v }) rfl rfl rfl
      relevance.readsBack ?_
    exact .nil _
  exact takes.readsBack (List.cons_ne_nil _ _) rfl

lemma readsBack_functionSource {x : FunctionSource} (startLine : x.startLine < 0x10000000000000000)
    (endLine : x.endLine < 0x10000000000000000) (relevance : ScoreTold x.relevance) :
    ReadsBack functionShape.read (chars x.toJson) x := by
  have takes : Takes functionShape functionShape.start
      [("name", .string x.name), ("file_path", .string x.filePath),
        ("start_line", .nat x.startLine), ("end_line", .nat x.endLine),
        ("relevance", .single x.relevance)]
      ⟨some x.name, some x.filePath, some x.startLine, some x.endLine, some x.relevance⟩ := by
    refine takes_field (·.name.isSome) (fun v d => { d with name := some v }) rfl rfl rfl
      (readsBack_readString _) ?_
    refine takes_field (·.filePath.isSome) (fun v d => { d with filePath := some v }) rfl rfl rfl
      (readsBack_readString _) ?_
    refine takes_field (·.startLine.isSome) (fun v d => { d with startLine := some v }) rfl rfl rfl
      (readsBack_readUsize startLine) ?_
    refine takes_field (·.endLine.isSome) (fun v d => { d with endLine := some v }) rfl rfl rfl
      (readsBack_readUsize endLine) ?_
    refine takes_field (·.relevance.isSome) (fun v d => { d with relevance := some v }) rfl rfl rfl
      relevance.readsBack ?_
    exact .nil _
  exact takes.readsBack (List.cons_ne_nil _ _) rfl

lemma readsBack_commitSource {x : CommitSource} (relevance : ScoreTold x.relevance) :
    ReadsBack commitShape.read (chars x.toJson) x := by
  have takes : Takes commitShape commitShape.start
      [("hash", .string x.hash), ("message", .string x.message),
        ("relevance", .single x.relevance)]
      ⟨some x.hash, some x.message, some x.relevance⟩ := by
    refine takes_field (·.hash.isSome) (fun v d => { d with hash := some v }) rfl rfl rfl
      (readsBack_readString _) ?_
    refine takes_field (·.message.isSome) (fun v d => { d with message := some v }) rfl rfl rfl
      (readsBack_readString _) ?_
    refine takes_field (·.relevance.isSome) (fun v d => { d with relevance := some v }) rfl rfl rfl
      relevance.readsBack ?_
    exact .nil _
  exact takes.readsBack (List.cons_ne_nil _ _) rfl

/-- The numbers of a node have room in 64 bits. -/
def NodeFits (x : GraphNode) : Prop :=
  -0x8000000000000000 ≤ x.id ∧ x.id < 0x8000000000000000 ∧ x.connections < 0x10000000000000000

lemma readsBack_graphNode {x : GraphNode} (fits : NodeFits x) :
    ReadsBack nodeShape.read (chars x.toJson) x := by
  obtain ⟨low, high, connections⟩ := fits
  have kind : ReadsBack (readWordOf NodeKind.all NodeKind.name) (chars (.string x.kind.name))
      x.kind := by
    refine readsBack_readWordOf ?_ ?_
    · cases x.kind <;> decide
    · cases x.kind <;> decide
  have takes : Takes nodeShape nodeShape.start
      [("id", .int x.id), ("kind", .string x.kind.name), ("name", .string x.name),
        ("connections", .nat x.connections)]
      ⟨some x.id, some x.kind, some x.name, some x.connections⟩ := by
    refine takes_field (·.id.isSome) (fun v d => { d with id := some v }) rfl rfl rfl
      (readsBack_readI64 low high) ?_
    refine takes_field (·.kind.isSome) (fun v d => { d with kind := some v }) rfl rfl rfl
      kind ?_
    refine takes_field (·.name.isSome) (fun v d => { d with name := some v }) rfl rfl rfl
      (readsBack_readString _) ?_
    refine takes_field (·.connections.isSome) (fun v d => { d with connections := some v })
      rfl rfl rfl
      (readsBack_readUsize connections) ?_
    exact .nil _
  exact takes.readsBack (List.cons_ne_nil _ _) rfl

/-- The numbers of sources have room in 64 bits. -/
structure SourcesFit (x : AnswerSources) : Prop where
  lines : ∀ f ∈ x.functions, f.startLine < 0x10000000000000000 ∧ f.endLine < 0x10000000000000000
  nodes : ∀ n ∈ x.graphNodes, NodeFits n

def sourceScores (x : AnswerSources) : List Binary32 :=
  x.files.map (·.relevance) ++ x.functions.map (·.relevance) ++ x.commits.map (·.relevance)

lemma forall_sourceScores {x : AnswerSources} {p : Binary32 → Prop} :
    (∀ score ∈ sourceScores x, p score) ↔ (∀ f ∈ x.files, p f.relevance) ∧
      (∀ f ∈ x.functions, p f.relevance) ∧ ∀ c ∈ x.commits, p c.relevance := by
  simp only [sourceScores, List.forall_mem_append, List.forall_mem_map, and_assoc]

lemma readsBack_sources {x : AnswerSources} (fits : SourcesFit x)
    (told : ∀ score ∈ sourceScores x, ScoreTold score) :
    ReadsBack sourcesShape.read (chars x.toJson) x := by
  obtain ⟨filesTold, functionsTold, commitsTold⟩ := forall_sourceScores.1 told
  have files := readsBack_readList (fun f mem => readsBack_fileSource (filesTold f mem))
    fun _ _ => beginsItem_object _
  have functions := readsBack_readList (fun f mem => readsBack_functionSource
    (fits.lines f mem).1 (fits.lines f mem).2 (functionsTold f mem)) fun _ _ => beginsItem_object _
  have commits := readsBack_readList (fun c mem => readsBack_commitSource (commitsTold c mem))
    fun _ _ => beginsItem_object _
  have nodes := readsBack_readList (fun n mem => readsBack_graphNode (fits.nodes n mem))
    fun _ _ => beginsItem_object _
  have takes : Takes sourcesShape sourcesShape.start
      [("files", .array (x.files.map FileSource.toJson)),
        ("functions", .array (x.functions.map FunctionSource.toJson)),
        ("commits", .array (x.commits.map CommitSource.toJson)),
        ("graph_nodes", .array (x.graphNodes.map GraphNode.toJson))]
      ⟨some x.files, some x.functions, some x.commits, some x.graphNodes⟩ := by
    refine takes_field (·.files.isSome) (fun v d => { d with files := some v }) rfl rfl rfl
      files ?_
    refine takes_field (·.functions.isSome) (fun v d => { d with functions := some v }) rfl rfl rfl
      functions ?_
    refine takes_field (·.commits.isSome) (fun v d => { d with commits := some v }) rfl rfl rfl
      commits ?_
    refine takes_field (·.graphNodes.isSome) (fun v d => { d with graphNodes := some v })
      rfl rfl rfl
      nodes ?_
    exact .nil _
  exact takes.readsBack (List.cons_ne_nil _ _) rfl

/-! ### The columns -/

lemma documentCodec_keeps {α : Type} {toJson : α → Json} {read : Reader α} {a : α}
    (reads : ReadsBack read (chars (toJson a)) a) : (documentCodec toJson read).Keeps a := by
  have text : (Cursor.start (toJson a).render.toList).rest = chars (toJson a) ++ [] := by
    rw [List.append_nil]
    exact String.toList_ofList
  obtain ⟨c, eq, left⟩ := reads _ _ text fun ch first => nomatch first
  have same : c.skipSpace = c := Cursor.skipSpace_eq_self (by rw [left]; rintro _ ⟨⟩)
  have ended : c.peek? = none := by rw [Cursor.peek?, left]; rfl
  have whole : readAll read (toJson a).render = .ok a := by
    unfold readAll
    rw [eq]
    simp only [bind, Except.bind, same, ended]
  simp only [Codec.Keeps, documentCodec, whole]

theorem strings_keeps (xs : List String) : strings.Keeps xs :=
  documentCodec_keeps <| readsBack_readList (fun x _ => readsBack_readString x)
    fun _ _ => ⟨'"', _, rfl, by decide, by decide⟩

theorem changes_keeps {xs : List FileChange}
    (fits : ∀ x ∈ xs, x.additions < 0x100000000 ∧ x.deletions < 0x100000000) : changes.Keeps xs :=
  documentCodec_keeps <| readsBack_readList
    (fun x mem => readsBack_fileChange (fits x mem).1 (fits x mem).2) fun _ _ => beginsItem_object _

theorem parameters_keeps (xs : List Parameter) : parameters.Keeps xs :=
  documentCodec_keeps <| readsBack_readList (fun x _ => readsBack_parameter x)
    fun _ _ => beginsItem_object _

theorem sources_keeps {x : AnswerSources} (fits : SourcesFit x)
    (told : ∀ score ∈ sourceScores x, ScoreTold score) : sources.Keeps x :=
  documentCodec_keeps (readsBack_sources fits told)

theorem context_keeps {xs : List ContextChunk} (told : ∀ x ∈ xs, ScoreTold x.score) :
    context.Keeps xs :=
  documentCodec_keeps <| readsBack_readList (fun x mem => readsBack_chunk (told x mem))
    fun _ _ => beginsItem_object _

theorem metadata_keeps {j : Json} (told : Told maxDepth j) : metadata.Keeps j :=
  documentCodec_keeps told.readsBack

/-! ### Words -/

theorem subjectStatus_keeps (a : SubjectStatus) : subjectStatus.Keeps a :=
  wordCodec_keeps (fun a => by cases a <;> rfl) a

theorem questionStatus_keeps (a : QuestionStatus) : questionStatus.Keeps a :=
  wordCodec_keeps (fun a => by cases a <;> rfl) a

theorem symbolKind_keeps (a : SymbolKind) : symbolKind.Keeps a :=
  wordCodec_keeps (fun a => by cases a <;> rfl) a

theorem nodeKind_keeps (a : NodeKind) : nodeKind.Keeps a :=
  wordCodec_keeps (fun a => by cases a <;> rfl) a

theorem edgeKind_keeps (a : EdgeKind) : edgeKind.Keeps a :=
  wordCodec_keeps (fun a => by cases a <;> rfl) a

theorem entityKind_keeps (a : EntityKind) : entityKind.Keeps a :=
  wordCodec_keeps (fun a => by cases a <;> rfl) a

theorem contentKind_keeps (a : ContentKind) : contentKind.Keeps a :=
  wordCodec_keeps (fun a => by cases a <;> rfl) a

theorem language_keeps (a : Language) : language.Keeps a :=
  wordCodec_keeps (fun a => by cases a <;> rfl) a

end Store

end CodeAtlas
