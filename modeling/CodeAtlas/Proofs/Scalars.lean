import CodeAtlas.Store.Coded
import Mathlib

/-! # Strings and numbers that are read again

What is written of a string or a number is read as the same value, whatever stands behind it that
ends an item. A number with a point or an exponent need not be read as itself; where its text alone
is, its text is everywhere. -/
namespace CodeAtlas

namespace Json

open Number

variable {α β σ : Type} {a : α} {b : β} {c : Cursor} {ch : Char} {cs rest rest' : List Char}

/-! ## Cursors -/

/-- A value was read, and some text is left. -/
def Leaves (r : Except ReadError (α × Cursor)) (a : α) (rest : List Char) : Prop :=
  ∃ c, r = .ok (a, c) ∧ c.rest = rest

lemma Leaves.ok (h : c.rest = rest) : Leaves (.ok (a, c)) a rest := ⟨c, rfl, h⟩

lemma Leaves.bind {r : Except ReadError (α × Cursor)}
    {f : α × Cursor → Except ReadError (β × Cursor)} (h : Leaves r a rest)
    (next : ∀ c, c.rest = rest → Leaves (f (a, c)) b rest') : Leaves (r >>= f) b rest' := by
  obtain ⟨c, rfl, left⟩ := h
  exact next c left

instance [DecidableEq α] (r : Except ReadError (α × Cursor)) (a : α) (rest : List Char) :
    Decidable (Leaves r a rest) :=
  match r with
  | .error _ => .isFalse fun ⟨_, eq, _⟩ => nomatch eq
  | .ok (b, c) => decidable_of_iff (b = a ∧ c.rest = rest)
      ⟨fun ⟨eq, left⟩ => ⟨c, by rw [eq], left⟩, fun ⟨_, eq, left⟩ => by cases eq; exact ⟨rfl, left⟩⟩

lemma Cursor.rest_next (h : c.rest = ch :: rest) : c.next.rest = rest := by
  unfold next
  rw [h]
  split
  next eq => cases eq
  next eq =>
    cases eq
    rfl
  next eq =>
    cases eq
    rfl

lemma Cursor.skip_eq_self (cs : List Char) (h : ∀ ch ∈ c.rest.head?, isSpace ch = false) :
    skip cs c = c := by
  cases cs with
  | nil => rfl
  | cons _ cs =>
    rw [skip]
    cases text : c.rest with
    | nil => rfl
    | cons ch rest =>
      have := h ch (by rw [text]; rfl)
      simp [this]

lemma Cursor.skipSpace_eq_self (h : ∀ ch ∈ c.rest.head?, isSpace ch = false) :
    c.skipSpace = c := skip_eq_self _ h

/-- At a character that is no blank. -/
lemma Cursor.ahead (h : c.rest = ch :: rest) (plain : isSpace ch = false) :
    c.skipSpace = c ∧ c.peek? = some ch ∧ c.next.rest = rest := by
  refine ⟨skipSpace_eq_self ?_, by rw [peek?, h]; rfl, rest_next h⟩
  rw [h]
  rintro _ ⟨⟩
  exact plain

/-- What may stand behind a value: nothing, or what ends an item or a field. -/
def Ends (rest : List Char) : Prop := ∀ ch ∈ rest.head?, ch = ',' ∨ ch = ']' ∨ ch = '}'

/-- A value is read of a text, and all that is behind the text is left. -/
def ReadsBack (read : Reader α) (cs : List Char) (a : α) : Prop :=
  ∀ c rest, c.rest = cs ++ rest → Ends rest → Leaves (read c) a rest

/-! ## Words -/

lemma leaves_readWord (h : c.rest = cs ++ rest) : Leaves (readWord cs c) () rest := by
  induction cs generalizing c with
  | nil => exact .ok h
  | cons ch cs ih =>
    rw [readWord, h]
    dsimp only [List.cons_append]
    rw [if_pos rfl]
    exact ih (Cursor.rest_next h)

/-! ## Strings -/

/-- Characters with letters of their own behind a backslash. -/
def escapes : List (Char × Char) :=
  [('"', '"'), ('\\', '\\'), ('n', '\n'), ('r', '\r'), ('t', '\t'), ('b', Char.ofNat 8),
    ('f', Char.ofNat 12)]

lemma leaves_readEscape {letter : Char} (known : (letter, ch) ∈ escapes)
    (h : c.rest = letter :: rest) : Leaves (readEscape c) ch rest := by
  simp only [escapes, List.mem_cons, Prod.mk.injEq, List.not_mem_nil, or_false] at known
  rcases known with ⟨rfl, rfl⟩ | ⟨rfl, rfl⟩ | ⟨rfl, rfl⟩ | ⟨rfl, rfl⟩ | ⟨rfl, rfl⟩ | ⟨rfl, rfl⟩ |
    ⟨rfl, rfl⟩ <;> rw [readEscape, h] <;> exact .ok (Cursor.rest_next h)

lemma leaves_readHex4 {n : Nat} (small : n < 32)
    (h : c.rest = '0' :: '0' :: Digest.hexDigit (n / 16) :: Digest.hexDigit (n % 16) :: rest) :
    Leaves (readHex4 c) n rest := by
  have zero : Digest.hexValue? '0' = some 0 := by decide
  have high := Digest.hexValue?_hexDigit (n := n / 16) (by omega)
  have low := Digest.hexValue?_hexDigit (n := n % 16) (by omega)
  have number : ((0 * 16 + 0) * 16 + n / 16) * 16 + n % 16 = n := by omega
  rw [readHex4, h]
  simp only [zero, high, low, number]
  exact .ok (Cursor.rest_next (Cursor.rest_next (Cursor.rest_next (Cursor.rest_next h))))

lemma leaves_readControl (small : ch.toNat < 32)
    (h : c.rest = 'u' :: '0' :: '0' :: Digest.hexDigit (ch.toNat / 16) ::
      Digest.hexDigit (ch.toNat % 16) :: rest) : Leaves (readEscape c) ch rest := by
  obtain ⟨c', eq, left⟩ := leaves_readHex4 small (Cursor.rest_next h)
  rw [readEscape, h]
  change Leaves (readUnicodeEscape c.next) ch rest
  rw [readUnicodeEscape, eq]
  dsimp only
  rw [if_neg (by omega), if_neg (by omega), Char.ofNat_toNat]
  exact .ok left

/-- A character is written as it is, or behind a backslash, from where it is read. -/
lemma escapeChar_cases (ch : Char) :
    (escapeChar ch = [ch] ∧ ch ≠ '"' ∧ ch ≠ '\\' ∧ ¬ ch.toNat < 32) ∨
      ∃ escape, escapeChar ch = '\\' :: escape ∧
        ∀ c rest, c.rest = escape ++ rest → Leaves (readEscape c) ch rest := by
  have number : ∀ n, ch.toNat = n → ch = Char.ofNat n := by
    rintro _ rfl
    exact (Char.ofNat_toNat ch).symm
  by_cases known : ∃ letter, (letter, ch) ∈ escapes
  · obtain ⟨letter, known⟩ := known
    refine .inr ⟨[letter], ?_, fun c rest => leaves_readEscape known⟩
    simp only [escapes, List.mem_cons, Prod.mk.injEq, List.not_mem_nil, or_false] at known
    rcases known with ⟨rfl, rfl⟩ | ⟨rfl, rfl⟩ | ⟨rfl, rfl⟩ | ⟨rfl, rfl⟩ | ⟨rfl, rfl⟩ | ⟨rfl, rfl⟩ |
      ⟨rfl, rfl⟩ <;> rfl
  · simp only [escapes, List.mem_cons, Prod.mk.injEq, List.not_mem_nil, or_false, exists_or,
      exists_eq_left, not_or] at known
    obtain ⟨quote, backslash, newline, return_, tab, back, feed⟩ := known
    unfold escapeChar
    rw [if_neg quote, if_neg backslash, if_neg newline, if_neg return_, if_neg tab,
      if_neg fun eq => back (number 8 eq), if_neg fun eq => feed (number 12 eq)]
    split_ifs with control
    · exact .inr ⟨_, rfl, fun c rest => leaves_readControl control⟩
    · exact .inl ⟨rfl, quote, backslash, control⟩

lemma leaves_readChars {fuel : Nat} (enough : cs.length < fuel)
    (h : c.rest = cs.flatMap escapeChar ++ '"' :: rest) : Leaves (readChars fuel c) cs rest := by
  induction cs generalizing c fuel with
  | nil =>
    obtain ⟨fuel, rfl⟩ := Nat.exists_eq_add_of_lt enough
    have here : c.rest = '"' :: rest := h
    rw [readChars, here]
    exact .ok (Cursor.rest_next here)
  | cons ch cs ih =>
    cases fuel with
    | zero => cases enough
    | succ fuel =>
      have fewer : cs.length < fuel := Nat.lt_of_succ_lt_succ enough
      rw [List.flatMap_cons, List.append_assoc] at h
      rcases escapeChar_cases ch with ⟨plain, quote, backslash, control⟩ | ⟨escape, escaped, read⟩
      · rw [plain] at h
        obtain ⟨c', eq, left⟩ := ih fewer (Cursor.rest_next h)
        rw [readChars, h]
        split
        next text => cases text
        next text => exact absurd (List.cons.inj text).1 quote
        next text => exact absurd (List.cons.inj text).1 backslash
        next text =>
          obtain rfl := (List.cons.inj text).1
          rw [if_neg control, eq]
          exact .ok left
      · rw [escaped] at h
        obtain ⟨c', eq, left⟩ := read c.next _ (Cursor.rest_next h)
        obtain ⟨c'', eq', left'⟩ := ih fewer left
        simp only [readChars, h, eq, eq']
        exact .ok left'

lemma length_le_escaped (cs : List Char) : cs.length ≤ (cs.flatMap escapeChar).length := by
  induction cs with
  | nil => exact Nat.le_refl 0
  | cons ch cs ih =>
    have some : 0 < (escapeChar ch).length := by
      rcases escapeChar_cases ch with ⟨eq, -⟩ | ⟨escape, eq, -⟩ <;> rw [eq] <;>
        exact Nat.succ_pos _
    rw [List.flatMap_cons, List.length_append, List.length_cons]
    omega

lemma leaves_readStringBody {s : String}
    (h : c.rest = s.toList.flatMap escapeChar ++ '"' :: rest) :
    Leaves (readStringBody c) s rest := by
  have enough : s.toList.length < c.rest.length + 1 := by
    have := length_le_escaped s.toList
    rw [h, List.length_append]
    omega
  obtain ⟨c', eq, left⟩ := leaves_readChars enough h
  rw [readStringBody, eq]
  dsimp only
  rw [String.ofList_toList]
  exact .ok left

lemma peek?_quoted {s : String} (h : c.rest = quoteChars s.toList ++ rest) :
    c.skipSpace = c ∧ c.peek? = some '"' ∧
      c.next.rest = s.toList.flatMap escapeChar ++ '"' :: rest := by
  rw [quoteChars, List.cons_append, List.append_assoc] at h
  exact Cursor.ahead h (by decide)

lemma readsBack_readString (s : String) : ReadsBack readString (chars (.string s)) s := by
  intro c rest h _
  rw [chars] at h
  obtain ⟨same, quote, behind⟩ := peek?_quoted h
  unfold readString
  simp only [same, quote]
  exact leaves_readStringBody behind

lemma readsBack_readOptionalString (o : Option String) :
    ReadsBack readOptionalString (chars (.optional .string o)) o := by
  intro c rest h behind
  cases o with
  | none =>
    obtain ⟨same, first, left⟩ := Cursor.ahead (show c.rest = 'n' :: _ from h) (by decide)
    unfold readOptionalString
    simp only [same, first]
    exact (leaves_readWord left).bind fun c left => .ok left
  | some s =>
    have text : c.rest = chars (.string s) ++ rest := h
    obtain ⟨same, quote, -⟩ := peek?_quoted text
    unfold readOptionalString
    simp only [same, quote]
    exact (readsBack_readString s c rest text behind).bind fun c left => .ok left

lemma readsBack_readWordOf {members : List α} {name : α → String} (mem : a ∈ members)
    (apart : ∀ m ∈ members, name m = name a → m = a) :
    ReadsBack (readWordOf members name) (chars (.string (name a))) a := by
  intro c rest h _
  rw [chars] at h
  obtain ⟨same, quote, behind⟩ := peek?_quoted h
  have found : members.find? (name · = name a) = some a := by
    cases found : members.find? (name · = name a) with
    | none => exact absurd (List.find?_eq_none.1 found a mem) (by simp)
    | some m =>
      have same : name m = name a := by simpa using List.find?_some found
      rw [apart m (List.mem_of_find?_eq_some found) same]
  unfold readWordOf
  simp only [same, quote]
  refine (leaves_readStringBody behind).bind fun c left => ?_
  simp only [found]
  exact .ok left

/-! ## Numbers -/

/-- A number with another digit behind it. -/
def addDigit (n : Nat) (ch : Char) : Nat := 10 * n + (digitValue? ch).getD 0

lemma le_foldl_addDigit (n : Nat) (ds : List Char) : n ≤ ds.foldl addDigit n := by
  induction ds generalizing n with
  | nil => exact Nat.le_refl n
  | cons d ds ih => exact (by unfold addDigit; omega : n ≤ addDigit n d).trans (ih _)

lemma takeDigits_eq {ds : List Char} {fuel n k : Nat} (whole : ∀ d ∈ ds, isDigit d = true)
    (h : c.rest = ds ++ rest) (stop : ∀ ch ∈ rest.head?, digitValue? ch = none)
    (enough : ds.length ≤ fuel) (small : ds.foldl addDigit n ≤ maxSignificand) :
    ∃ c', takeDigits fuel n k c = (ds.foldl addDigit n, k + ds.length, false, c') ∧
      c'.rest = rest := by
  induction ds generalizing c fuel n k with
  | nil =>
    have none : c.peek?.bind digitValue? = none := by
      rw [Cursor.peek?, h, List.nil_append]
      cases rest with
      | nil => rfl
      | cons ch rest => exact stop ch rfl
    refine ⟨c, ?_, h⟩
    cases fuel with
    | zero => rfl
    | succ fuel => rw [takeDigits, none]; rfl
  | cons d ds ih =>
    obtain ⟨here, there⟩ := List.forall_mem_cons.1 whole
    obtain ⟨v, digit⟩ := Option.isSome_iff_exists.1 here
    cases fuel with
    | zero => cases enough
    | succ fuel =>
      have some : c.peek?.bind digitValue? = some v := by
        rw [Cursor.peek?, h]
        exact digit
      have step : addDigit n d = 10 * n + v := by rw [addDigit, digit]; rfl
      rw [List.foldl_cons, step] at small ⊢
      have fits : ¬ maxSignificand < 10 * n + v :=
        Nat.not_lt.2 ((le_foldl_addDigit _ ds).trans small)
      obtain ⟨c', eq, left⟩ := ih there (Cursor.rest_next h) (Nat.le_of_succ_le_succ enough) small
        (k := k + 1)
      refine ⟨c', ?_, left⟩
      rw [takeDigits, some]
      dsimp only
      rw [if_neg fits, eq, List.length_cons, Nat.add_right_comm, Nat.add_assoc]

/-- Only zero begins with a zero. -/
lemma digits_cases (n : Nat) : ∃ d ds v, digits n = d :: ds ∧ digitValue? d = some v ∧
    (v = 0 → n = 0 ∧ ds = []) := by
  induction n using Nat.strongRecOn with
  | ind n ih =>
    rw [digits]
    split_ifs with small
    · exact ⟨_, _, n, rfl, digitValue?_digitChar small, fun zero => ⟨zero, rfl⟩⟩
    · obtain ⟨d, ds, v, eq, digit, zero⟩ := ih (n / 10) (by omega)
      refine ⟨d, ds ++ [digitChar (n % 10)], v, by rw [eq]; rfl, digit, fun none => ?_⟩
      have := (zero none).1
      omega

/-- A whole number, as far as its digits are counted and its sign leaves it whole. -/
def IsCounted (n : Int) : Prop := -0x8000000000000000 ≤ n ∧ n < 0x10000000000000000

lemma leaves_readNumber (negative : Bool) {n : Nat} (small : n ≤ maxSignificand)
    (whole : negative = true → n ≠ 0 ∧ n ≤ 0x8000000000000000) (h : c.rest = digits n ++ rest)
    (behind : Ends rest) :
    Leaves (readNumber negative c) (.int (if negative then -n else n)) rest := by
  obtain ⟨d, ds, v, eq, digit, zero⟩ := digits_cases n
  rw [eq, List.cons_append] at h
  have stop : ∀ ch ∈ rest.head?, digitValue? ch = none ∧ ch ≠ '.' ∧ ch ≠ 'e' ∧ ch ≠ 'E' := by
    intro ch first
    rcases behind ch first with rfl | rfl | rfl <;> decide
  have number : ds.foldl addDigit v = n := by
    have := value_digits n
    rwa [eq, value, List.foldl_cons, digit, Option.getD_some, Nat.mul_zero, Nat.zero_add] at this
  have ofDigits : ∀ d ∈ ds, isDigit d = true := fun d mem =>
    isDigit_of_mem_digits n d (eq ▸ List.mem_cons_of_mem _ mem)
  have single : ¬ (v = 0 ∧ (c.next.peek?.bind digitValue?).isSome = true) := by
    rintro ⟨none, more⟩
    rw [Cursor.peek?, Cursor.rest_next h, (zero none).2, List.nil_append] at more
    cases first : rest.head? with
    | none => rw [first] at more; cases more
    | some ch =>
      rw [first, Option.bind_some, (stop ch first).1] at more
      cases more
  have enough : ds.length ≤ if v = 0 then 0 else c.next.rest.length := by
    split_ifs with none
    · rw [(zero none).2, List.length_nil]
    · rw [Cursor.rest_next h, List.length_append]
      omega
  obtain ⟨c', taken, left⟩ := takeDigits_eq ofDigits (Cursor.rest_next h)
    (fun ch first => (stop ch first).1) enough (number.symm ▸ small) (k := 0)
  have plain : (c'.peek? == some '.') = false ∧ isExponentMark c' = false := by
    rw [isExponentMark, Cursor.peek?, left]
    cases first : rest.head? with
    | none => exact ⟨rfl, rfl⟩
    | some ch =>
      obtain ⟨-, point, small, capital⟩ := stop ch first
      simp [point, small, capital]
  unfold readNumber
  simp only [h, digit, if_neg single, taken, number]
  simp only [Bool.false_eq_true, if_false, plain]
  cases negative with
  | false => exact .ok left
  | true =>
    obtain ⟨some, low⟩ := whole rfl
    rw [if_neg (by decide), if_neg (by omega)]
    exact .ok left

/-- A number is written with a digit in front. -/
lemma peek?_digits {n : Nat} (h : c.rest = digits n ++ rest) :
    c.skipSpace = c ∧ ∃ d, c.peek? = some d ∧ d ≠ '-' ∧ isDigit d = true := by
  obtain ⟨d, ds, v, eq, digit, -⟩ := digits_cases n
  rw [eq, List.cons_append] at h
  have plain : isDigit d = true := by rw [isDigit, digit]; rfl
  have other : ∀ ch, isDigit ch = false → d ≠ ch := by
    rintro _ foreign rfl
    rw [plain] at foreign
    cases foreign
  have space : Cursor.isSpace d = false := by
    simp [Cursor.isSpace, other ' ' (by decide), other '\n' (by decide), other '\t' (by decide),
      other '\r' (by decide)]
  obtain ⟨same, here, -⟩ := Cursor.ahead h space
  exact ⟨same, d, here, other _ (by decide), plain⟩

variable {expected name : String} {use : JsonNumber → Option (Except Fault α)} {n : JsonNumber}

lemma Cursor.failAhead_ne_ok {fault : Fault} : c.failAhead fault ≠ .ok a := by
  unfold failAhead fail
  split <;> exact fun ok => nomatch ok

lemma bind_ne_ok {r : Except ReadError β} {f : β → Except ReadError α} (h : ∀ b, f b ≠ .ok a) :
    (r >>= f) ≠ .ok a := by
  cases r with
  | error e => exact fun ok => nomatch ok
  | ok b => exact h b

lemma refuse_ne_ok (r : α × Cursor) : refuse expected c ≠ .ok r := by
  have fail : ∀ {c : Cursor} {fault : Fault}, c.fail fault ≠ .ok r := fun ok => nomatch ok
  unfold refuse
  split
  case h_6 | h_7 => exact fail
  case h_8 =>
    split_ifs
    · exact bind_ne_ok fun _ => fail
    · exact Cursor.failAhead_ne_ok
  case h_9 => exact Cursor.failAhead_ne_ok
  all_goals exact bind_ne_ok fun _ => fail

/-- A number is taken as it is. -/
def plainNumber : Reader JsonNumber := readNumberAs "number" fun n => some (.ok n)

lemma finishNumber_eq_ok {r : Except ReadError (JsonNumber × Cursor)} {d : Cursor} :
    (do
      let r ← r
      match use r.1 with
      | some (.ok a) => .ok (a, r.2)
      | some (.error fault) => r.2.fail fault
      | none => r.2.fail (wrongType (JsonNumber.shown r.1) expected)) = .ok (a, d) ↔
      ∃ n, use n = some (.ok a) ∧ r = .ok (n, d) := by
  rcases r with e | ⟨n, d'⟩
  · simp [bind, Except.bind]
  · simp only [bind, Except.bind, Except.ok.injEq, Prod.mk.injEq]
    cases used : use n with
    | none => simp [Cursor.fail, used]
    | some r => cases r <;> simp [Cursor.fail, used]

/-- Where a number is read, its sign and its first digit decide how. -/
lemma readNumberAs_cases {d : Cursor} : readNumberAs expected use c = .ok (a, d) ↔
    ∃ n, use n = some (.ok a) ∧ ((c.skipSpace.peek? = some '-' ∧
      readNumber true c.skipSpace.next = .ok (n, d)) ∨
      ∃ ch, c.skipSpace.peek? = some ch ∧ isDigit ch = true ∧
        readNumber false c.skipSpace = .ok (n, d)) := by
  unfold readNumberAs
  dsimp only
  split
  next none => simp [none, Cursor.failAhead_ne_ok]
  next sign =>
    have minus : isDigit '-' = false := by decide
    exact finishNumber_eq_ok.trans (by simp [sign, minus])
  next ch unsigned here =>
    have noSign : ch ≠ '-' := unsigned
    split_ifs with digit
    · exact finishNumber_eq_ok.trans (by simp [here, noSign, digit])
    · simp [refuse_ne_ok, here, noSign, digit]

/-- What is read of a number does not hang on what it is read for. -/
lemma readNumberAs_iff {d : Cursor} : readNumberAs expected use c = .ok (a, d) ↔
    ∃ n, use n = some (.ok a) ∧ plainNumber c = .ok (n, d) := by
  simp [plainNumber, readNumberAs_cases]

lemma readValueWithin_eq {d : Cursor} (number : plainNumber c = .ok (n, d)) (depth : Nat) :
    readValueWithin depth c = .ok (.number n, d) := by
  obtain ⟨n, rfl, ⟨first, read⟩ | ⟨ch, first, digit, read⟩⟩ := by
    simpa only [plainNumber, readNumberAs_cases, Option.some.injEq, Except.ok.injEq] using number
  · unfold readValueWithin
    simp only [first, read]
    rfl
  · unfold readValueWithin
    simp only [first]
    split <;> rename_i here
    all_goals cases here
    all_goals first
      | cases digit
      | simp only [digit, if_true, read]
        rfl

lemma ReadsBack.numberAs (h : ReadsBack plainNumber cs n) (used : use n = some (.ok a)) :
    ReadsBack (readNumberAs expected use) cs a := by
  intro c rest text behind
  obtain ⟨d, read, left⟩ := h c rest text behind
  exact ⟨d, readNumberAs_iff.2 ⟨n, used, read⟩, left⟩

lemma ReadsBack.number (h : ReadsBack plainNumber cs n) (depth : Nat) :
    ReadsBack (readValueWithin depth) cs (.number n) := by
  intro c rest text behind
  obtain ⟨d, read, left⟩ := h c rest text behind
  exact ⟨d, readValueWithin_eq read depth, left⟩

/-! ### Whole numbers -/

lemma readsBack_int {i : Int} (counted : IsCounted i) :
    ReadsBack plainNumber (chars (.int i)) (.int i) := by
  obtain ⟨low, high⟩ := counted
  intro c rest h behind
  rw [Json.int, chars, numberChars, intChars] at h
  have small : i.natAbs ≤ maxSignificand := by unfold maxSignificand; omega
  split_ifs at h with negative
  · obtain ⟨same, first, left⟩ := Cursor.ahead h (by decide)
    obtain ⟨d, read, left⟩ := leaves_readNumber true small
      (fun _ => ⟨by omega, by omega⟩) left behind
    have number : (if true = true then -(i.natAbs : Int) else i.natAbs) = i := by
      rw [if_pos rfl]
      omega
    rw [number] at read
    exact ⟨d, readNumberAs_cases.2 ⟨_, rfl, .inl ⟨by rw [same, first], by rw [same, read]⟩⟩, left⟩
  · obtain ⟨same, ch, first, -, digit⟩ := peek?_digits h
    obtain ⟨d, read, left⟩ := leaves_readNumber false small nofun h behind
    have number : (if false = true then -(i.natAbs : Int) else i.natAbs) = i := by
      rw [if_neg Bool.false_ne_true]
      omega
    rw [number] at read
    exact ⟨d, readNumberAs_cases.2
        ⟨_, rfl, .inr ⟨ch, by rw [same, first], digit, by rw [same, read]⟩⟩,
      left⟩

lemma readsBack_readIntWithin {low high i : Int} (counted : IsCounted i)
    (fits : low ≤ i ∧ i ≤ high) : ReadsBack (readIntWithin name low high) (chars (.int i)) i :=
  (readsBack_int counted).numberAs (by simp [fits])

lemma readsBack_readU32 {n : Nat} (small : n < 0x100000000) :
    ReadsBack readU32 (chars (.nat n)) n := by
  intro c rest h behind
  have counted : IsCounted n := ⟨by omega, by omega⟩
  have fits : (0 : Int) ≤ n ∧ (n : Int) ≤ 0xFFFFFFFF := ⟨by omega, by omega⟩
  exact (readsBack_readIntWithin counted fits c rest h behind).bind fun c left => .ok left

lemma readsBack_readUsize {n : Nat} (small : n < 0x10000000000000000) :
    ReadsBack readUsize (chars (.nat n)) n := by
  intro c rest h behind
  have counted : IsCounted n := ⟨by omega, by omega⟩
  have fits : (0 : Int) ≤ n ∧ (n : Int) ≤ 0xFFFFFFFFFFFFFFFF := ⟨by omega, by omega⟩
  exact (readsBack_readIntWithin counted fits c rest h behind).bind fun c left => .ok left

lemma readsBack_readI64 {i : Int} (low : -0x8000000000000000 ≤ i) (high : i < 0x8000000000000000) :
    ReadsBack readI64 (chars (.int i)) i :=
  readsBack_readIntWithin ⟨low, by omega⟩ ⟨low, by omega⟩

/-! ### Numbers with a point or an exponent

Such a number ends where its text ends. So what is read of the text alone is read of it before the
end of an item or a field too. -/

/-- The second cursor has more text behind that of the first. -/
def Longer (rest : List Char) (c c' : Cursor) : Prop := c'.rest = c.rest ++ rest

section Longer

variable {c' d : Cursor}

/-- What does not tell the end of an item from the end of the text sees the same. -/
lemma Longer.peek (h : Longer rest c c') (behind : Ends rest) (see : Option Char → β)
    (blind : ∀ ch, ch = ',' ∨ ch = ']' ∨ ch = '}' → see (some ch) = see none) :
    see c'.peek? = see c.peek? := by
  rw [Cursor.peek?, Cursor.peek?, h]
  cases c.rest with
  | cons ch cs => rfl
  | nil =>
    cases rest with
    | nil => rfl
    | cons ch rest => exact blind ch (behind ch rfl)

lemma Longer.digit (h : Longer rest c c') (behind : Ends rest) :
    c'.peek?.bind digitValue? = c.peek?.bind digitValue? :=
  h.peek behind (·.bind digitValue?) (by rintro _ (rfl | rfl | rfl) <;> decide)

lemma Longer.isChar (h : Longer rest c c') (behind : Ends rest)
    (other : ch ≠ ',' ∧ ch ≠ ']' ∧ ch ≠ '}') : (c'.peek? == some ch) = (c.peek? == some ch) := by
  obtain ⟨comma, bracket, brace⟩ := other
  refine h.peek behind (· == some ch) ?_
  rintro _ (rfl | rfl | rfl)
  · simp [comma.symm]
  · simp [bracket.symm]
  · simp [brace.symm]

lemma Longer.exponentMark (h : Longer rest c c') (behind : Ends rest) :
    isExponentMark c' = isExponentMark c := by
  rw [isExponentMark, isExponentMark, h.isChar behind (by decide), h.isChar behind (by decide)]

lemma Longer.next (h : Longer rest c c') (text : c.rest = ch :: cs) :
    Longer rest c.next c'.next := by
  have longer : c'.rest = ch :: (cs ++ rest) := by rw [h, text]; rfl
  rw [Longer, Cursor.rest_next text, Cursor.rest_next longer]

lemma Longer.digit_end (h : Longer rest c c') (behind : Ends rest) (ended : c.rest = []) :
    c.peek?.bind digitValue? = none ∧ c'.peek?.bind digitValue? = none := by
  have none : c.peek?.bind digitValue? = none := by
    rw [Cursor.peek?, ended]
    rfl
  exact ⟨none, by rw [h.digit behind, none]⟩

lemma Longer.peek_some (h : Longer rest c c') (first : c.peek? = some ch) :
    c'.peek? = some ch := by
  obtain ⟨cs, text⟩ := List.head?_eq_some_iff.1 first
  rw [Cursor.peek?, h, text]
  rfl

lemma Longer.pass (h : Longer rest c c') (seen : (c.peek? == some ch) = true) :
    Longer rest c.next c'.next := by
  obtain ⟨cs, text⟩ := List.head?_eq_some_iff.1 (eq_of_beq seen)
  exact h.next text

lemma Longer.skip (h : Longer rest c c') (behind : Ends rest) {blanks blanks' : List Char}
    (enough : c.rest.length ≤ blanks.length) (enough' : c.rest.length ≤ blanks'.length) :
    Longer rest (Cursor.skip blanks c) (Cursor.skip blanks' c') := by
  induction text : c.rest generalizing c c' blanks blanks' with
  | nil =>
    have first : ∀ ch ∈ c'.rest.head?, Cursor.isSpace ch = false := by
      rw [h, text, List.nil_append]
      intro ch here
      rcases behind ch here with rfl | rfl | rfl <;> decide
    rw [Cursor.skip_eq_self blanks (by rw [text]; nofun), Cursor.skip_eq_self blanks' first]
    exact h
  | cons ch cs ih =>
    rw [text] at enough enough'
    obtain ⟨_, blanks, rfl⟩ := List.exists_cons_of_length_pos (Nat.zero_lt_of_lt enough)
    obtain ⟨_, blanks', rfl⟩ := List.exists_cons_of_length_pos (Nat.zero_lt_of_lt enough')
    have longer : c'.rest = ch :: (cs ++ rest) := by rw [h, text]; rfl
    rw [Cursor.skip, Cursor.skip, text, longer]
    dsimp only
    split_ifs
    · have left := Cursor.rest_next text
      exact ih (h.next text) (left ▸ Nat.le_of_succ_le_succ enough)
        (left ▸ Nat.le_of_succ_le_succ enough') left
    · exact h

lemma takeDigits_stop (ended : c.peek?.bind digitValue? = none) (fuel n k : Nat) :
    takeDigits fuel n k c = (n, k, false, c) := by
  cases fuel with
  | zero => rfl
  | succ fuel => rw [takeDigits, ended]

lemma dropDigits_stop (ended : c.peek?.bind digitValue? = none) (fuel k : Nat) :
    dropDigits fuel k c = (k, c) := by
  cases fuel with
  | zero => rfl
  | succ fuel => rw [dropDigits, ended]

lemma takeDigits_longer (h : Longer rest c c') (behind : Ends rest) {fuel fuel' : Nat} (n k : Nat)
    (enough : c.rest.length ≤ fuel) (enough' : c.rest.length ≤ fuel') :
    ∃ m l isOver d d', takeDigits fuel n k c = (m, l, isOver, d) ∧
      takeDigits fuel' n k c' = (m, l, isOver, d') ∧ Longer rest d d' := by
  induction text : c.rest generalizing c c' fuel fuel' n k with
  | nil =>
    obtain ⟨ended, ended'⟩ := h.digit_end behind text
    exact ⟨n, k, false, c, c', takeDigits_stop ended .., takeDigits_stop ended' .., h⟩
  | cons ch cs ih =>
    rw [text] at enough enough'
    obtain ⟨fuel, rfl⟩ := Nat.exists_eq_add_of_lt (Nat.zero_lt_of_lt enough)
    obtain ⟨fuel', rfl⟩ := Nat.exists_eq_add_of_lt (Nat.zero_lt_of_lt enough')
    rw [takeDigits, takeDigits, h.digit behind]
    have left := Cursor.rest_next text
    cases c.peek?.bind digitValue? with
    | none => exact ⟨n, k, false, c, c', rfl, rfl, h⟩
    | some v =>
      dsimp only
      split_ifs
      · exact ⟨n, k, true, c, c', rfl, rfl, h⟩
      · refine ih (h.next text) _ _ ?_ ?_ left <;> rw [left] <;> grind

lemma dropDigits_longer (h : Longer rest c c') (behind : Ends rest) {fuel fuel' : Nat} (k : Nat)
    (enough : c.rest.length ≤ fuel) (enough' : c.rest.length ≤ fuel') :
    ∃ l d d', dropDigits fuel k c = (l, d) ∧ dropDigits fuel' k c' = (l, d') ∧
      Longer rest d d' := by
  induction text : c.rest generalizing c c' fuel fuel' k with
  | nil =>
    obtain ⟨ended, ended'⟩ := h.digit_end behind text
    exact ⟨k, c, c', dropDigits_stop ended .., dropDigits_stop ended' .., h⟩
  | cons ch cs ih =>
    rw [text] at enough enough'
    obtain ⟨fuel, rfl⟩ := Nat.exists_eq_add_of_lt (Nat.zero_lt_of_lt enough)
    obtain ⟨fuel', rfl⟩ := Nat.exists_eq_add_of_lt (Nat.zero_lt_of_lt enough')
    rw [dropDigits, dropDigits, h.digit behind]
    have left := Cursor.rest_next text
    cases c.peek?.bind digitValue? with
    | none => exact ⟨k, c, c', rfl, rfl, h⟩
    | some v => refine ih (h.next text) _ ?_ ?_ left <;> rw [left] <;> grind

end Longer

/-- What is read of a text is read of it with more behind it. -/
def Carries (read : Reader α) : Prop := ∀ {c c' d : Cursor} {a : α} {rest : List Char},
  Longer rest c c' → Ends rest → read c = .ok (a, d) →
    ∃ d', read c' = .ok (a, d') ∧ Longer rest d d'

lemma carries_scaleDouble (negative : Bool) (significand : Nat) (exponent : Int) :
    Carries (scaleDouble negative significand exponent) := by
  intro c c' d n rest h behind read
  unfold scaleDouble at read ⊢
  dsimp only at read ⊢
  split_ifs at read ⊢ <;> cases read <;> exact ⟨c', rfl, h⟩

/-- The sign of an exponent is passed over. -/
lemma Longer.sign {c c' : Cursor} (h : Longer rest c c') (behind : Ends rest) :
    Longer rest (if c.peek? == some '-' || c.peek? == some '+' then c.next else c)
      (if c'.peek? == some '-' || c'.peek? == some '+' then c'.next else c') := by
  rw [h.isChar behind (by decide), h.isChar behind (by decide)]
  split_ifs with signed
  · rcases Bool.or_eq_true_iff.1 signed with seen | seen <;> exact h.pass seen
  · exact h

lemma carries_readExponent (negative : Bool) (significand : Nat) (exponent : Int) :
    Carries (readExponent negative significand exponent) := by
  intro c c' d n rest h behind read
  cases text : c.rest with
  | nil =>
    have stuck : c.next = c := by unfold Cursor.next; rw [text]
    unfold readExponent at read
    simp [stuck, text, Cursor.peek?, Cursor.fail] at read
  | cons ch cs =>
    have signed := (h.next text).sign behind
    have down : (c'.next.peek? == some '-') = (c.next.peek? == some '-') :=
      (h.next text).isChar behind (by decide)
    unfold readExponent at read ⊢
    dsimp only at read ⊢
    rw [down] at signed ⊢
    revert read signed
    generalize (if c.next.peek? == some '-' || c.next.peek? == some '+' then c.next.next
      else c.next) = e
    generalize (if c.next.peek? == some '-' || c'.next.peek? == some '+' then c'.next.next
      else c'.next) = e'
    intro read signed
    cases left : e.rest with
    | nil => simp [left, Cursor.fail] at read
    | cons ch' cs' =>
      have left' : e'.rest = ch' :: (cs' ++ rest) := by rw [signed, left]; rfl
      have shorter : e.rest.length ≤ e'.rest.length := by
        rw [signed, List.length_append]
        omega
      obtain ⟨_, after, after', dropped, dropped', further⟩ :=
        dropDigits_longer signed behind 0 (Nat.le_refl _) shorter
      have digits : e'.rest.take (e'.rest.length - after'.rest.length) =
          e.rest.take (e.rest.length - after.rest.length) := by
        rw [signed, further, List.length_append, List.length_append, Nat.add_sub_add_right,
          List.take_append_of_le_length (Nat.sub_le ..)]
      rw [left] at dropped digits
      rw [left'] at dropped' digits
      simp only [left, dropped] at read
      simp only [left', dropped', digits]
      cases digit : digitValue? ch' with
      | none => simp [digit, Cursor.fail] at read
      | some v =>
        simp only [digit] at read ⊢
        split_ifs at read ⊢
        · cases read
        all_goals exact carries_scaleDouble _ _ _ further behind read

lemma carries_readFraction (negative : Bool) (significand : Nat) (exponent : Int) :
    Carries (readFraction negative significand exponent) := by
  intro c c' d n rest h behind read
  cases text : c.rest with
  | nil =>
    have stuck : c.next = c := by unfold Cursor.next; rw [text]
    unfold readFraction at read
    simp [stuck, text, Cursor.peek?, Cursor.failAhead_ne_ok] at read
  | cons ch cs =>
    have next := h.next text
    unfold readFraction at read ⊢
    dsimp only at read ⊢
    rw [next.digit behind]
    cases digit : c.next.peek?.bind digitValue? with
    | none =>
      rw [digit] at read
      dsimp only at read
      split_ifs at read <;> exact absurd read Cursor.failAhead_ne_ok
    | some v =>
      have shorter : c.next.rest.length ≤ c'.next.rest.length := by
        rw [next, List.length_append]
        omega
      obtain ⟨m, l, isOver, e, e', taken, taken', longer⟩ :=
        takeDigits_longer next behind significand 0 (Nat.le_refl _) shorter
      have shorter' : e.rest.length ≤ e'.rest.length := by
        rw [longer, List.length_append]
        omega
      obtain ⟨_, after, after', dropped, dropped', further⟩ :=
        dropDigits_longer longer behind 0 (Nat.le_refl _) shorter'
      simp only [digit, taken, dropped] at read
      simp only [taken', dropped', further.exponentMark behind]
      split_ifs at read ⊢
      · exact carries_readExponent _ _ _ further behind read
      · exact carries_scaleDouble _ _ _ further behind read

lemma carries_readNumber (negative : Bool) : Carries (readNumber negative) := by
  intro c c' d n rest h behind read
  cases text : c.rest with
  | nil =>
    unfold readNumber at read
    simp [text, Cursor.fail] at read
  | cons ch cs =>
    have text' : c'.rest = ch :: (cs ++ rest) := by rw [h, text]; rfl
    have next := h.next text
    have shorter : c.next.rest.length ≤ c'.next.rest.length := by
      rw [next, List.length_append]
      omega
    unfold readNumber at read ⊢
    rw [text] at read
    rw [text']
    dsimp only at read ⊢
    cases digit : digitValue? ch with
    | none =>
      rw [digit] at read
      cases read
    | some first =>
      rw [digit] at read
      dsimp only at read ⊢
      rw [next.digit behind]
      by_cases leading : first = 0 ∧ (c.next.peek?.bind digitValue?).isSome = true
      · rw [if_pos leading] at read
        exact absurd read Cursor.failAhead_ne_ok
      rw [if_neg leading] at read ⊢
      obtain ⟨m, l, isOver, e, e', taken, taken', longer⟩ : ∃ m l isOver e e',
          takeDigits (if first = 0 then 0 else c.next.rest.length) first 0 c.next =
            (m, l, isOver, e) ∧
          takeDigits (if first = 0 then 0 else c'.next.rest.length) first 0 c'.next =
            (m, l, isOver, e') ∧ Longer rest e e' := by
        by_cases zero : first = 0
        · rw [if_pos zero, if_pos zero]
          exact ⟨_, _, _, _, _, rfl, rfl, next⟩
        · rw [if_neg zero, if_neg zero]
          exact takeDigits_longer next behind first 0 (Nat.le_refl _) shorter
      rw [taken] at read
      rw [taken']
      dsimp only at read ⊢
      obtain ⟨extra, f, f', dropped, dropped', further⟩ : ∃ extra f f',
          (if isOver = true then dropDigits e.rest.length 0 e else (0, e)) = (extra, f) ∧
          (if isOver = true then dropDigits e'.rest.length 0 e' else (0, e')) = (extra, f') ∧
          Longer rest f f' := by
        cases isOver with
        | false => exact ⟨0, e, e', rfl, rfl, longer⟩
        | true =>
          exact dropDigits_longer longer behind 0 (Nat.le_refl _)
            (by rw [longer, List.length_append]; omega)
      rw [dropped] at read
      rw [dropped']
      dsimp only at read ⊢
      rw [further.isChar behind (by decide), further.exponentMark behind]
      by_cases point : (f.peek? == some '.') = true
      · rw [if_pos point] at read ⊢
        exact carries_readFraction _ _ _ further behind read
      rw [if_neg point] at read ⊢
      by_cases mark : isExponentMark f = true
      · rw [if_pos mark] at read ⊢
        exact carries_readExponent _ _ _ further behind read
      rw [if_neg mark] at read ⊢
      by_cases long : isOver = true
      · rw [if_pos long] at read ⊢
        exact carries_scaleDouble _ _ _ further behind read
      rw [if_neg long] at read ⊢
      cases negative with
      | false =>
        cases read
        exact ⟨f', rfl, further⟩
      | true =>
        rw [if_neg (by decide)] at read ⊢
        by_cases zero : m = 0 ∨ 0x8000000000000000 < m
        · rw [if_pos zero] at read ⊢
          cases read
          exact ⟨f', rfl, further⟩
        · rw [if_neg zero] at read ⊢
          cases read
          exact ⟨f', rfl, further⟩

lemma carries_plainNumber : Carries plainNumber := by
  intro c c' d n rest h behind read
  have skipped : Longer rest c.skipSpace c'.skipSpace :=
    h.skip behind (Nat.le_refl _) (by rw [h, List.length_append]; omega)
  obtain ⟨_, used, ⟨first, number⟩ | ⟨ch, first, digit, number⟩⟩ := readNumberAs_cases.1 read
  · obtain ⟨d', number', further⟩ :=
      carries_readNumber true (skipped.pass (beq_iff_eq.2 first)) behind number
    exact ⟨d', readNumberAs_cases.2 ⟨_, used, .inl ⟨skipped.peek_some first, number'⟩⟩, further⟩
  · obtain ⟨d', number', further⟩ := carries_readNumber false skipped behind number
    exact ⟨d', readNumberAs_cases.2
      ⟨_, used, .inr ⟨ch, skipped.peek_some first, digit, number'⟩⟩, further⟩

/-- The text of a document is read as a value, all of it. -/
def IsTold (read : Reader α) (j : Json) (a : α) : Prop := Leaves (read (.start (chars j))) a []

instance [DecidableEq α] (read : Reader α) (j : Json) (a : α) : Decidable (IsTold read j a) :=
  inferInstanceAs (Decidable (Leaves _ _ _))

lemma IsTold.readsBack {j : Json} (h : IsTold (readNumberAs expected use) j a) :
    ReadsBack (readNumberAs expected use) (chars j) a := by
  obtain ⟨d, read, ended⟩ := h
  obtain ⟨n, used, number⟩ := readNumberAs_iff.1 read
  refine ReadsBack.numberAs (fun c rest text behind => ?_) used
  have longer : Longer rest (.start (chars j)) c := text
  obtain ⟨d', read', further⟩ := carries_plainNumber longer behind number
  exact ⟨d', read', by rw [further, ended, List.nil_append]⟩

end Json

end CodeAtlas
