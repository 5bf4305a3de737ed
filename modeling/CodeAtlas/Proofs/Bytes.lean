import CodeAtlas.Text.Lines
import CodeAtlas.Text.Utf8
import Mathlib.Data.List.Basic

/-! # Text and its bytes

The bytes of a text are read as that text, and slashes are put for backslashes in a text as in its
bytes. -/
namespace CodeAtlas.Text

variable {n value used count low high : Nat} {b : UInt8} {bs rest : List UInt8} {c : Char}

/-! ## Reading what was written -/

lemma following?_one (h : n < 0x80) : following? n = some (0, 0, 0) := if_pos h

lemma following?_two (above : 0xC2 ≤ n) (below : n < 0xE0) :
    following? n = some (1, 0x80, 0xBF) := by
  rw [following?, if_neg (by omega), if_neg (by omega), if_pos below]

lemma following?_three (above : 0xE0 ≤ n) (below : n < 0xF0) : following? n =
    some (2, if n = 0xE0 then 0xA0 else 0x80, if n = 0xED then 0x9F else 0xBF) := by
  rw [following?, if_neg (by omega), if_neg (by omega), if_neg (by omega)]
  split_ifs <;> first | rfl | omega

lemma following?_four (above : 0xF0 ≤ n) (below : n ≤ 0xF4) : following? n =
    some (3, if n = 0xF0 then 0x90 else 0x80, if n = 0xF4 then 0x8F else 0xBF) := by
  rw [following?, if_neg (by omega), if_neg (by omega), if_neg (by omega), if_neg (by omega),
    if_neg (by omega), if_neg (by omega)]
  split_ifs <;> first | rfl | omega

lemma leadingValue_two : leadingValue n 1 = n % 32 := rfl

lemma leadingValue_three : leadingValue n 2 = n % 16 := rfl

lemma leadingValue_four : leadingValue n 3 = n % 8 := rfl

lemma readFollowing_cons (above : low ≤ b.toNat) (below : b.toNat ≤ high) :
    readFollowing (count + 1) low high value used (b :: rest) =
      readFollowing count 0x80 0xBF (value * 64 + b.toNat % 64) (used + 1) rest :=
  if_pos ⟨above, below⟩

lemma decodeAfter_append (bs rest : List UInt8) :
    decodeAfter bs.length (bs ++ rest) = decodeAfter 0 rest := by
  induction bs with
  | nil => rfl
  | cons b bs ih => exact ih

lemma decodeAfter_first (bs : List UInt8) (h : firstChar b (bs ++ rest) = (c, bs.length)) :
    decodeAfter 0 (b :: bs ++ rest) = c :: decodeAfter 0 rest := by
  rw [List.cons_append, decodeAfter, h, decodeAfter_append]

/-- The bytes of a character are read as that character. -/
lemma decodeAfter_encode (c : Char) (rest : List UInt8) :
    decodeAfter 0 (String.utf8EncodeChar c ++ rest) = c :: decodeAfter 0 rest := by
  have valid : c.val.toNat < 0xD800 ∨ 0xDFFF < c.val.toNat ∧ c.val.toNat < 0x110000 := c.valid
  have char : Char.ofNat c.val.toNat = c := Char.ofNat_toNat c
  have toNat : ∀ {n}, n < 256 → (UInt8.ofNat n).toNat = n := fun h => UInt8.toNat_ofNat_of_lt' h
  unfold String.utf8EncodeChar
  dsimp only
  generalize c.val.toNat = v at valid char ⊢
  -- one case for each number of bytes
  split_ifs with one two three
  · refine decodeAfter_first [] ?_
    rw [firstChar, toNat (by omega), following?_one (by omega)]
    exact congrArg (·, 0) char
  · refine decodeAfter_first [_] ?_
    rw [firstChar, toNat (by omega), following?_two (by omega) (by omega)]
    refine (readFollowing_cons (by rw [toNat (by omega)]; omega)
      (by rw [toNat (by omega)]; omega)).trans ?_
    rw [toNat (by omega), leadingValue_two]
    exact congrArg (·, 1) ((congrArg Char.ofNat (by omega)).trans char)
  · refine decodeAfter_first [_, _] ?_
    rw [firstChar, toNat (by omega), following?_three (by omega) (by omega)]
    refine (readFollowing_cons (by rw [toNat (by omega)]; split_ifs <;> omega)
      (by rw [toNat (by omega)]; split_ifs <;> omega)).trans ?_
    refine (readFollowing_cons (by rw [toNat (by omega)]; omega)
      (by rw [toNat (by omega)]; omega)).trans ?_
    rw [toNat (by omega), toNat (by omega), leadingValue_three]
    exact congrArg (·, 2) ((congrArg Char.ofNat (by omega)).trans char)
  · refine decodeAfter_first [_, _, _] ?_
    rw [firstChar, toNat (by omega), following?_four (by omega) (by omega)]
    refine (readFollowing_cons (by rw [toNat (by omega)]; split_ifs <;> omega)
      (by rw [toNat (by omega)]; split_ifs <;> omega)).trans ?_
    refine (readFollowing_cons (by rw [toNat (by omega)]; omega)
      (by rw [toNat (by omega)]; omega)).trans ?_
    refine (readFollowing_cons (by rw [toNat (by omega)]; omega)
      (by rw [toNat (by omega)]; omega)).trans ?_
    rw [toNat (by omega), toNat (by omega), toNat (by omega), leadingValue_four]
    exact congrArg (·, 3) ((congrArg Char.ofNat (by omega)).trans char)

lemma toList_loop (bytes : ByteArray) (i : Nat) (before : List UInt8) :
    ByteArray.toList.loop bytes i before = before.reverse ++ bytes.data.toList.drop i := by
  induction i, before using ByteArray.toList.loop.induct bytes with
  | case1 i before inside ih =>
    have there : i < bytes.data.toList.length := by simpa using inside
    have head : bytes.get! i = bytes.data.toList[i] := by
      change bytes.data[i]! = _
      rw [getElem!_pos bytes.data i there, Array.getElem_toList]
    rw [ByteArray.toList.loop, if_pos inside, ih, List.drop_eq_getElem_cons there, head]
    simp
  | case2 i before outside =>
    have past : bytes.data.toList.length ≤ i := by simpa using Nat.le_of_not_lt outside
    rw [ByteArray.toList.loop, if_neg outside, List.drop_of_length_le past, List.append_nil]

/-- The bytes of a text are those of its characters. -/
lemma toBytes_ofList (cs : List Char) :
    toBytes (String.ofList cs) = cs.flatMap String.utf8EncodeChar := by
  rw [toBytes, String.toUTF8_eq_toByteArray, String.toByteArray_ofList, ByteArray.toList,
    toList_loop, List.utf8Encode, List.toList_data_toByteArray]
  rfl

lemma toBytes_eq (text : String) : toBytes text = text.toList.flatMap String.utf8EncodeChar := by
  rw [← toBytes_ofList, String.ofList_toList]

lemma decodeBytes_encode (cs : List Char) :
    decodeBytes (cs.flatMap String.utf8EncodeChar) = cs := by
  induction cs with
  | nil => rfl
  | cons c cs ih =>
    rw [List.flatMap_cons, decodeBytes, decodeAfter_encode]
    exact congrArg (c :: ·) ih

/-- The bytes of a text are read as that text. -/
theorem ofBytes_toBytes (text : String) : ofBytes (toBytes text) = text := by
  rw [ofBytes, toBytes_eq, decodeBytes_encode, String.ofList_toList]

lemma toBytes_inj {text text' : String} : toBytes text = toBytes text' ↔ text = text' :=
  ⟨fun h => by rw [← ofBytes_toBytes text, h, ofBytes_toBytes], fun h => h ▸ rfl⟩

/-- A byte of an ASCII character is in no other one. -/
lemma toNat_of_mem_encode (mem : b ∈ String.utf8EncodeChar c) (ascii : b.toNat < 0x80) :
    c.val.toNat = b.toNat := by
  have toNat : ∀ {n}, n < 256 → (UInt8.ofNat n).toNat = n := fun h => UInt8.toNat_ofNat_of_lt' h
  unfold String.utf8EncodeChar at mem
  dsimp only at mem
  generalize c.val.toNat = v at mem ⊢
  split_ifs at mem with one two three
  · cases List.mem_singleton.1 mem
    exact (toNat (by omega)).symm
  all_goals
    simp only [List.mem_cons, List.not_mem_nil, or_false] at mem
    rcases mem with rfl | rfl | rfl | rfl <;> rw [toNat (by omega)] at ascii <;> omega

end CodeAtlas.Text
