import CodeAtlas.Proofs.Bytes
import CodeAtlas.Proofs.Sections

/-! # Slices of a reply

A reply is searched in its bytes, in which only ASCII capitals are made small, and each section is a
slice of its bytes. The slices that are taken are in order, end on characters, and are apart from
each other and from the headers. So each of them is a text, and the sections are those that are
found when the reply is taken as characters. -/
namespace CodeAtlas

namespace Text

variable {needle cs : List Char} {c n : Char} {b : UInt8} {i j k : Nat}

/-! ## Places in bytes -/

/-- The bytes of characters. -/
abbrev encode (cs : List Char) : List UInt8 := cs.flatMap String.utf8EncodeChar

lemma encode_cons (c : Char) (cs : List Char) :
    encode (c :: cs) = String.utf8EncodeChar c ++ encode cs := List.flatMap_cons

lemma encode_append (u v : List Char) : encode (u ++ v) = encode u ++ encode v :=
  List.flatMap_append

/-- How many bytes stand in front of the character with a number. -/
def byteOffset (cs : List Char) (i : Nat) : Nat := (encode (cs.take i)).length

lemma byteOffset_of_le (all : cs.length ≤ i) : byteOffset cs i = (encode cs).length := by
  rw [byteOffset, List.take_of_length_le all]

lemma byteOffset_add (i k : Nat) :
    byteOffset cs (i + k) = byteOffset cs i + (encode ((cs.drop i).take k)).length := by
  rw [byteOffset, byteOffset, List.take_add, encode_append, List.length_append]

lemma length_le_encode (cs : List Char) : cs.length ≤ (encode cs).length := by
  induction cs with
  | nil => exact Nat.le_refl _
  | cons c cs ih =>
    have := c.utf8Size_pos
    rw [encode_cons, List.length_append, String.length_utf8EncodeChar, List.length_cons]
    omega

lemma byteOffset_mono (le : i ≤ j) : byteOffset cs i ≤ byteOffset cs j := by
  obtain ⟨k, rfl⟩ := Nat.exists_eq_add_of_le le
  rw [byteOffset_add]
  exact Nat.le_add_right _ _

lemma byteOffset_lt (lt : i < j) (within : j ≤ cs.length) : byteOffset cs i < byteOffset cs j := by
  obtain ⟨k, rfl⟩ := Nat.exists_eq_add_of_le lt.le
  have := length_le_encode ((cs.drop i).take k)
  rw [List.length_take, List.length_drop] at this
  rw [byteOffset_add]
  omega

/-- What stands between two places is in the bytes between them. -/
lemma encode_slice (cs : List Char) (i j : Nat) :
    ((encode cs).take (byteOffset cs j)).drop (byteOffset cs i) =
      encode ((cs.take j).drop i) := by
  have start (cs : List Char) (i : Nat) :
      encode cs = encode (cs.take i) ++ encode (cs.drop i) := by
    rw [← encode_append, List.take_append_drop]
  have front : (encode cs).take (byteOffset cs j) = encode (cs.take j) := by
    rw [start cs j]
    exact List.take_left
  rw [front]
  by_cases le : i ≤ j
  · rw [start (cs.take j) i, byteOffset, List.take_take, Nat.min_eq_left le]
    exact List.drop_left
  · rw [List.drop_of_length_le (byteOffset_mono (Nat.le_of_not_le le)),
      List.drop_of_length_le ((List.length_take_le j cs).trans (Nat.le_of_not_le le))]
    rfl

lemma length_toBytes (text : String) : (toBytes text).length = text.utf8ByteSize := by
  rw [toBytes, String.toUTF8_eq_toByteArray, ByteArray.toList, toList_loop]
  rfl

/-- Every place is on a character. -/
lemma isValid_byteOffset (text : String) (i : Nat) :
    String.Pos.Raw.IsValid text ⟨byteOffset text.toList i⟩ := by
  rw [String.Pos.Raw.isValid_iff_exists_take_toList]
  refine ⟨i, ?_⟩
  rw [← length_toBytes, toBytes_ofList, byteOffset]

/-! ## Small letters in bytes -/

/-- Put a small letter for an ASCII capital. -/
def smallByte (b : UInt8) : UInt8 := if 65 ≤ b ∧ b ≤ 90 then b + 32 else b

/-- Bytes of a character beyond ASCII are beyond ASCII. -/
lemma beyondAscii_of_mem_encode (beyond : 0x80 ≤ c.toNat) (mem : b ∈ String.utf8EncodeChar c) :
    0x80 ≤ b.toNat := by
  by_contra ascii
  have same : c.toNat = b.toNat := toNat_of_mem_encode mem (Nat.lt_of_not_le ascii)
  omega

lemma encode_ascii (ascii : c.toNat < 0x80) : String.utf8EncodeChar c = [UInt8.ofNat c.toNat] := by
  unfold String.utf8EncodeChar
  exact if_pos (Nat.le_of_lt_succ ascii)

lemma toNat_asciiByte (ascii : c.toNat < 0x80) : (UInt8.ofNat c.toNat).toNat = c.toNat :=
  UInt8.toNat_ofNat_of_lt' (Nat.lt_trans ascii (by decide))

lemma exists_encode (c : Char) : ∃ b bs, String.utf8EncodeChar c = b :: bs :=
  List.exists_cons_of_ne_nil
    (List.ne_nil_of_length_pos (String.length_utf8EncodeChar c ▸ c.utf8Size_pos))

/-- What goes on with a character is beyond ASCII. -/
lemma asciiByte_not_mem {bs : List UInt8} (ascii : n.toNat < 0x80)
    (bytes : String.utf8EncodeChar c = b :: bs) : UInt8.ofNat n.toNat ∉ bs := by
  intro mem
  by_cases single : c.toNat < 0x80
  · rw [encode_ascii single] at bytes
    cases (List.cons.inj bytes).2
    cases mem
  · have high := beyondAscii_of_mem_encode (Nat.le_of_not_lt single)
      (bytes ▸ List.mem_cons_of_mem _ mem)
    rw [toNat_asciiByte ascii] at high
    omega

lemma toLower_beyondAscii (beyond : 0x80 ≤ c.toNat) : c.toLower = c := by
  refine dif_neg fun capital => ?_
  have last : c.toNat ≤ 90 := UInt32.le_iff_toNat_le.1 capital.2
  omega

lemma map_smallByte_encode (c : Char) :
    (String.utf8EncodeChar c).map smallByte = String.utf8EncodeChar c.toLower := by
  by_cases ascii : c.toNat < 0x80
  · apply forall_ascii _ ascii
    decide +kernel
  · have beyond := Nat.le_of_not_lt ascii
    rw [toLower_beyondAscii beyond]
    refine (List.map_congr_left fun b mem => ?_).trans (List.map_id _)
    have high := beyondAscii_of_mem_encode beyond mem
    refine if_neg fun between => ?_
    have := UInt8.le_iff_toNat_le.1 between.2
    have : (90 : UInt8).toNat = 90 := rfl
    omega

lemma map_smallByte_toBytes (text : String) :
    (toBytes text).map smallByte = encode (asciiLowercase text.toList) := by
  simp only [toBytes_eq, encode, asciiLowercase, List.map_flatMap, List.flatMap_map,
    map_smallByte_encode]

/-- Making letters small moves nothing. -/
lemma byteOffset_asciiLowercase (cs : List Char) (i : Nat) :
    byteOffset (asciiLowercase cs) i = byteOffset cs i := by
  have small := congrArg List.length (map_smallByte_toBytes (String.ofList (cs.take i)))
  rw [List.length_map, toBytes_ofList, String.toList_ofList] at small
  rw [byteOffset, byteOffset, asciiLowercase, ← List.map_take]
  exact small.symm

/-! ## Searching in bytes -/

lemma afterStart?_encode (ascii : ∀ c ∈ needle, c.toNat < 0x80) (cs : List Char) :
    afterStart? (encode needle) (encode cs) = (afterStart? needle cs).map encode := by
  induction needle generalizing cs with
  | nil => rfl
  | cons n ns ih =>
    obtain ⟨first, others⟩ := List.forall_mem_cons.1 ascii
    cases cs with
    | nil =>
      rw [encode_cons, encode_ascii first]
      rfl
    | cons c cs =>
      rw [encode_cons, encode_cons, encode_ascii first, List.singleton_append]
      by_cases same : n = c
      · subst same
        rw [encode_ascii first, List.singleton_append, afterStart?, if_pos rfl, ih others,
          afterStart?, if_pos rfl]
      · obtain ⟨b, bs, bytes⟩ := exists_encode c
        have other : UInt8.ofNat n.toNat ≠ b := by
          rintro rfl
          have number := toNat_asciiByte first
          have := toNat_of_mem_encode (bytes ▸ List.mem_cons_self : UInt8.ofNat n.toNat ∈ _)
            (number.trans_lt first)
          exact same (Char.ext (UInt32.toNat_inj.1 (number.symm.trans this.symm)))
        rw [bytes, List.cons_append, afterStart?, if_neg other, afterStart?, if_neg same]
        rfl

lemma splitFirst?_append_of_not_mem {α : Type} [DecidableEq α] {a : α} {u : List α}
    (absent : a ∉ u) (rest v : List α) : splitFirst? (a :: rest) (u ++ v) =
      (splitFirst? (a :: rest) v).map fun parts => (u ++ parts.1, parts.2) := by
  induction u with
  | nil => simp
  | cons b u ih =>
    obtain ⟨here, there⟩ := not_or.1 (mt List.mem_cons.2 absent)
    rw [List.cons_append, splitFirst?, afterStart?, if_neg here, ih there, Option.map_map]
    rfl

/-- The first occurrence of an ASCII text in bytes is that in characters. -/
lemma splitFirst?_encode (some : needle ≠ []) (ascii : ∀ c ∈ needle, c.toNat < 0x80)
    (cs : List Char) : splitFirst? (encode needle) (encode cs) =
      (splitFirst? needle cs).map fun parts => (encode parts.1, encode parts.2) := by
  obtain ⟨n, ns, rfl⟩ := List.exists_cons_of_ne_nil some
  have first : String.utf8EncodeChar n = [UInt8.ofNat n.toNat] :=
    encode_ascii (ascii n List.mem_cons_self)
  induction cs with
  | nil =>
    rw [encode_cons, first]
    rfl
  | cons c cs ih =>
    have start := afterStart?_encode ascii (c :: cs)
    obtain ⟨b, bs, bytes⟩ := exists_encode c
    rw [encode_cons n, first, List.singleton_append] at start ih ⊢
    rw [encode_cons, bytes, List.cons_append] at start ⊢
    rw [splitFirst?, splitFirst?, start]
    cases afterStart? (n :: ns) (c :: cs) with
    | some rest => rfl
    | none =>
      dsimp only [Option.map_none]
      -- Nothing begins within a character.
      rw [splitFirst?_append_of_not_mem (asciiByte_not_mem (ascii n List.mem_cons_self) bytes), ih]
      simp only [Option.map_map, Function.comp_def, encode_cons, bytes, List.cons_append]

lemma eq_of_splitFirst? {α : Type} [DecidableEq α] {needle cs u v : List α}
    (found : splitFirst? needle cs = some (u, v)) : cs = u ++ (needle ++ v) := by
  induction cs generalizing u with
  | nil =>
    obtain ⟨rest, start, same⟩ := Option.map_eq_some_iff.1 found
    cases same
    have parts : [] = needle ++ v := afterStart?_eq_some.1 start
    exact parts
  | cons c cs ih =>
    rw [splitFirst?] at found
    cases start : afterStart? needle (c :: cs) with
    | some rest =>
      rw [start] at found
      cases found
      have parts : c :: cs = needle ++ v := afterStart?_eq_some.1 start
      exact parts
    | none =>
      rw [start] at found
      obtain ⟨⟨front, back⟩, later, same⟩ := Option.map_eq_some_iff.1 found
      cases same
      rw [List.cons_append, ← ih later]

end Text

namespace Retrieval

open Text (asciiLowercase byteOffset encode)

variable {h h' : Header} {text : String} {cs : List Char} {n n' k : Nat}

/-! ## Where headers and sections are -/

/-- The text from a header on. -/
lemma drop_of_position? (found : h.position? cs = some n) :
    ∃ v, (asciiLowercase cs).drop n = h.text ++ v ∧ n + h.text.length ≤ cs.length := by
  obtain ⟨⟨u, v⟩, split, rfl⟩ := Option.map_eq_some_iff.1 found
  have parts := Text.eq_of_splitFirst? split
  have length := congrArg List.length parts
  rw [asciiLowercase, List.length_map, List.length_append, List.length_append] at length
  refine ⟨v, ?_, by dsimp only; omega⟩
  rw [parts]
  exact List.drop_left

lemma eq_of_position? (found : h.position? cs = some n) (found' : h'.position? cs = some n) :
    h = h' := by
  obtain ⟨v, here, -⟩ := drop_of_position? found
  obtain ⟨v', here', -⟩ := drop_of_position? found'
  rcases List.prefix_or_prefix_of_prefix ⟨v, here.symm⟩ ⟨v', here'.symm⟩ with within | within
  · exact Header.eq_of_within within.isInfix
  · exact (Header.eq_of_within within.isInfix).symm

/-- A header that is found behind another one begins behind its end. -/
lemma position?_apart (found : h.position? cs = some n) (found' : h'.position? cs = some n')
    (lt : n < n') : n + h.text.length ≤ n' := by
  by_contra inside
  obtain ⟨v, here, -⟩ := drop_of_position? found
  obtain ⟨v', here', -⟩ := drop_of_position? found'
  obtain ⟨k, rfl⟩ := Nat.exists_eq_add_of_lt lt
  rw [Nat.add_assoc, ← List.drop_drop, here, List.drop_append_of_le_length (by omega)] at here'
  have shorter : (h.text.drop (k + 1)).length < h.text.length := by
    rw [List.length_drop]
    omega
  have nonempty : h.text.drop (k + 1) ≠ [] := by
    rw [ne_eq, List.drop_eq_nil_iff]
    omega
  have final := List.drop_suffix (k + 1) h.text
  have whole (within : h'.text <:+: h.text.drop (k + 1)) : False := by
    cases Header.eq_of_within (within.trans final.isInfix)
    have := within.length_le
    omega
  rcases List.prefix_or_prefix_of_prefix ⟨v', here'.symm⟩ ⟨v, rfl⟩ with start | start
  · exact whole start.isInfix
  · rcases Header.eq_of_prefix_of_suffix start final with none | all
    · exact nonempty none
    · exact whole (all ▸ List.infix_rfl)

lemma le_foldl_min {xs : List Nat} {a : Nat} :
    k ≤ xs.foldl min a ↔ k ≤ a ∧ ∀ x ∈ xs, k ≤ x := by
  induction xs generalizing a with
  | nil => simp
  | cons x xs ih => rw [List.foldl_cons, ih, Nat.le_min, List.forall_mem_cons, and_assoc]

lemma le_sectionEnd : k ≤ sectionEnd cs n ↔
    k ≤ cs.length ∧ ∀ m ∈ boundaries cs, n < m → k ≤ m := by
  simp [sectionEnd, le_foldl_min]

lemma mem_boundaries : n ∈ boundaries cs ↔ ∃ h : Header, h.position? cs = some n := by
  rw [boundaries, List.mem_filterMap]
  constructor
  · rintro ⟨h, -, found⟩
    exact ⟨h, found⟩
  · rintro ⟨h, found⟩
    exact ⟨h, by cases h <;> simp, found⟩

lemma sectionEnd_le (found : h.position? cs = some n') (lt : n < n') : sectionEnd cs n ≤ n' :=
  (le_sectionEnd.1 (Nat.le_refl _)).2 n' (mem_boundaries.2 ⟨h, found⟩) lt

/-- A section does not end before its header. -/
lemma le_sectionEnd_of_position? (found : h.position? cs = some n) :
    n + h.text.length ≤ sectionEnd cs n := by
  obtain ⟨_, -, within⟩ := drop_of_position? found
  refine le_sectionEnd.2 ⟨within, fun m mem lt => ?_⟩
  obtain ⟨h', found'⟩ := mem_boundaries.1 mem
  exact position?_apart found found' lt

/-! ## Ranges of bytes -/

/-- The bytes from the first up to, but without, the last. -/
structure ByteRange where
  first : Nat
  last : Nat
  deriving DecidableEq, Repr

def ByteRange.Contains (r : ByteRange) (i : Nat) : Prop := r.first ≤ i ∧ i < r.last

/-- No byte is in both ranges. -/
def ByteRange.Apart (r s : ByteRange) : Prop := ∀ i, ¬ (r.Contains i ∧ s.Contains i)

/-- A range of a text: in order, within the text, and with both ends on characters. -/
structure ByteRange.IsSlice (r : ByteRange) (text : String) : Prop where
  inOrder : r.first ≤ r.last
  within : r.last ≤ text.utf8ByteSize
  first : String.Pos.Raw.IsValid text ⟨r.first⟩
  last : String.Pos.Raw.IsValid text ⟨r.last⟩

/-- The text in a range of bytes; nothing if the range is no slice. -/
def slice? (text : String) (r : ByteRange) : Option String :=
  if r.first ≤ r.last ∧ String.Pos.Raw.isValid text ⟨r.first⟩ ∧ String.Pos.Raw.isValid text ⟨r.last⟩
  then some (Text.ofBytes (((Text.toBytes text).take r.last).drop r.first))
  else none

/-! ## Reading in bytes -/

def Header.bytes (h : Header) : List UInt8 := Text.toBytes (String.ofList h.text)

/-- Where a header first occurs in the bytes of a reply. -/
def Header.offset? (h : Header) (text : String) : Option Nat :=
  (Text.splitFirst? h.bytes ((Text.toBytes text).map Text.smallByte)).map fun parts =>
    parts.1.length

/-- The bytes of a header where it first occurs. -/
def Header.range? (h : Header) (text : String) : Option ByteRange :=
  (h.offset? text).map fun start => ⟨start, start + h.bytes.length⟩

/-- The bytes of the section below a header, up to the nearest header that begins behind that one,
or to the end. -/
def Header.sectionRange? (h : Header) (text : String) : Option ByteRange :=
  (h.offset? text).map fun start =>
    let starts := [Header.answer, Header.explanation, Header.sources].filterMap (·.offset? text)
    ⟨start + h.bytes.length, (starts.filter (start < ·)).foldl min text.utf8ByteSize⟩

/-- The text of the section below a header; nothing if its bytes are no slice. -/
def Header.below? (h : Header) (text : String) : Option String :=
  (h.sectionRange? text).elim (some "") fun r => (slice? text r).map Text.trimmed

/-- Read a reply by slices of its bytes; nothing if one of them is none. -/
def Reply.ofSlices? (text : String) : Option Reply :=
  if (Header.answer.offset? text).isNone then some ⟨Text.trimmed text, "", ""⟩
  else do return ⟨← Header.answer.below? text, ← Header.explanation.below? text,
    ← Header.sources.below? text⟩

lemma ByteRange.Apart.of_le {r s : ByteRange} (le : r.last ≤ s.first) : r.Apart s := by
  rintro i ⟨⟨-, below⟩, above, -⟩
  omega

lemma ByteRange.Apart.symm {r s : ByteRange} (h : r.Apart s) : s.Apart r := fun i both =>
  h i both.symm

lemma bytes_eq (h : Header) : h.bytes = encode h.text := Text.toBytes_ofList h.text

lemma ascii_of_mem_text (h : Header) : ∀ c ∈ h.text, c.toNat < 0x80 := by
  have all : h.text.all (·.toNat < 0x80) = true := by cases h <;> decide
  simpa using all

/-- A header is at the same place in characters and in bytes. -/
lemma offset?_eq (h : Header) (text : String) :
    h.offset? text = (h.position? text.toList).map (byteOffset text.toList) := by
  have some : h.text ≠ [] := by cases h <;> decide
  rw [Header.offset?, Text.map_smallByte_toBytes, bytes_eq,
    Text.splitFirst?_encode some (ascii_of_mem_text h), Header.position?, position?, Option.map_map,
    Option.map_map]
  refine Option.map_congr fun parts found => ?_
  have split := Text.eq_of_splitFirst? found
  rw [Function.comp_apply, Function.comp_apply, ← Text.byteOffset_asciiLowercase, split, byteOffset,
    List.take_left]

lemma byteOffset_add_header (found : h.position? cs = some n) :
    byteOffset cs (n + h.text.length) = byteOffset cs n + h.bytes.length := by
  obtain ⟨v, here, -⟩ := drop_of_position? found
  rw [← Text.byteOffset_asciiLowercase cs (n + h.text.length), Text.byteOffset_add,
    Text.byteOffset_asciiLowercase, here, List.take_left, bytes_eq]

lemma range?_eq_some {r : ByteRange} (found : h.range? text = some r) :
    ∃ n, h.position? text.toList = some n ∧
      r = ⟨byteOffset text.toList n, byteOffset text.toList (n + h.text.length)⟩ := by
  obtain ⟨start, at_, rfl⟩ := Option.map_eq_some_iff.1 found
  rw [offset?_eq] at at_
  obtain ⟨n, position, rfl⟩ := Option.map_eq_some_iff.1 at_
  exact ⟨n, position, by rw [byteOffset_add_header position]⟩

lemma length_toList_encode (text : String) :
    byteOffset text.toList text.toList.length = text.utf8ByteSize := by
  rw [Text.byteOffset_of_le (Nat.le_refl _), ← Text.length_toBytes, Text.toBytes_eq]

lemma le_length_of_mem_boundaries (mem : n ∈ boundaries cs) : n ≤ cs.length := by
  obtain ⟨h, found⟩ := mem_boundaries.1 mem
  obtain ⟨_, -, within⟩ := drop_of_position? found
  omega

lemma foldl_min_map {f : Nat → Nat} (mono : ∀ {a b}, a ≤ b → f a ≤ f b) (xs : List Nat) (a : Nat) :
    (xs.map f).foldl min (f a) = f (xs.foldl min a) := by
  induction xs generalizing a with
  | nil => rfl
  | cons x xs ih =>
    have first : min (f a) (f x) = f (min a x) := by
      rcases Nat.le_total a x with le | le
      · rw [Nat.min_eq_left le, Nat.min_eq_left (mono le)]
      · rw [Nat.min_eq_right le, Nat.min_eq_right (mono le)]
    rw [List.map_cons, List.foldl_cons, List.foldl_cons, first, ih]

/-- A section ends at the same place in characters and in bytes. -/
lemma sectionRange?_eq (h : Header) (text : String) : h.sectionRange? text =
    (h.position? text.toList).map fun n =>
      ⟨byteOffset text.toList (n + h.text.length),
        byteOffset text.toList (sectionEnd text.toList n)⟩ := by
  have starts : [Header.answer, Header.explanation, Header.sources].filterMap (·.offset? text) =
      (boundaries text.toList).map (byteOffset text.toList) := by
    simp only [offset?_eq, boundaries, List.map_filterMap]
  rw [Header.sectionRange?, offset?_eq, Option.map_map]
  refine Option.map_congr fun n found => ?_
  have later : ((boundaries text.toList).map (byteOffset text.toList)).filter
      (byteOffset text.toList n < ·) =
        ((boundaries text.toList).filter (n < ·)).map (byteOffset text.toList) := by
    rw [List.filter_map]
    refine congrArg _ (List.filter_congr fun m mem => ?_)
    refine decide_eq_decide.2 ⟨fun lt => ?_, fun lt => ?_⟩
    · exact Nat.lt_of_not_le fun le => absurd lt (Nat.not_lt_of_le (Text.byteOffset_mono le))
    · exact Text.byteOffset_lt lt (le_length_of_mem_boundaries mem)
  rw [Function.comp_apply, starts]
  dsimp only
  rw [later, byteOffset_add_header found, ← length_toList_encode,
    foldl_min_map Text.byteOffset_mono]
  rfl

/-! ## Slices -/

lemma isSlice_byteOffset {i j : Nat} (le : i ≤ j) (text : String) :
    ByteRange.IsSlice ⟨byteOffset text.toList i, byteOffset text.toList j⟩ text where
  inOrder := Text.byteOffset_mono le
  within := (Text.isValid_byteOffset text j).le_utf8ByteSize
  first := Text.isValid_byteOffset text i
  last := Text.isValid_byteOffset text j

lemma slice?_of_isSlice {r : ByteRange} (h : r.IsSlice text) : slice? text r =
    some (Text.ofBytes (((Text.toBytes text).take r.last).drop r.first)) :=
  if_pos ⟨h.inOrder, String.Pos.Raw.isValid_eq_true_iff.2 h.first,
    String.Pos.Raw.isValid_eq_true_iff.2 h.last⟩

/-- The slice between two characters is the text between them. -/
lemma slice?_byteOffset {i j : Nat} (le : i ≤ j) (text : String) :
    slice? text ⟨byteOffset text.toList i, byteOffset text.toList j⟩ =
      some (String.ofList ((text.toList.drop i).take (j - i))) := by
  rw [slice?_of_isSlice (isSlice_byteOffset le text), Text.toBytes_eq]
  dsimp only
  rw [Text.encode_slice, Text.ofBytes, Text.decodeBytes_encode, List.drop_take]

/-- The section below a header, taken by its bytes. -/
lemma slice?_section (found : h.position? text.toList = some n) :
    (slice? text ⟨byteOffset text.toList (n + h.text.length),
      byteOffset text.toList (sectionEnd text.toList n)⟩).map Text.trimmed =
        some (sectionText text.toList h n) := by
  rw [slice?_byteOffset (le_sectionEnd_of_position? found), Option.map_some, Text.trimmed,
    String.toList_ofList]
  rfl

lemma below?_eq (h : Header) (text : String) : h.below? text =
    some ((h.position? text.toList).elim "" (sectionText text.toList h)) := by
  rw [Header.below?, sectionRange?_eq]
  cases found : h.position? text.toList with
  | none => rfl
  | some n => exact slice?_section found

lemma ofSlices?_eq (text : String) : Reply.ofSlices? text = some (Reply.parse text) := by
  unfold Reply.ofSlices? Reply.parse
  rw [offset?_eq, below?_eq, below?_eq, below?_eq, Option.isNone_map]
  dsimp only
  cases Header.answer.position? text.toList with
  | none => rfl
  | some n =>
    cases Header.explanation.position? text.toList <;>
      cases Header.sources.position? text.toList <;> rfl

/-- The places of a section whose header is found. -/
lemma sectionRange?_eq_some {r : ByteRange} (found : h.sectionRange? text = some r) :
    ∃ n, h.position? text.toList = some n ∧
      r = ⟨byteOffset text.toList (n + h.text.length),
        byteOffset text.toList (sectionEnd text.toList n)⟩ := by
  rw [sectionRange?_eq] at found
  obtain ⟨n, position, rfl⟩ := Option.map_eq_some_iff.1 found
  exact ⟨n, position, rfl⟩

lemma sections_apart {r r' : ByteRange} (other : h ≠ h') (found : h.sectionRange? text = some r)
    (found' : h'.sectionRange? text = some r') : r.Apart r' := by
  obtain ⟨n, position, rfl⟩ := sectionRange?_eq_some found
  obtain ⟨n', position', rfl⟩ := sectionRange?_eq_some found'
  rcases Nat.lt_trichotomy n n' with lt | rfl | gt
  · have := sectionEnd_le position' lt
    exact .of_le (Text.byteOffset_mono (by omega))
  · exact absurd (eq_of_position? position position') other
  · have := sectionEnd_le position gt
    exact (ByteRange.Apart.of_le (Text.byteOffset_mono (by omega))).symm

lemma section_apart_header {r r' : ByteRange} (found : h.sectionRange? text = some r)
    (found' : h'.range? text = some r') : r.Apart r' := by
  obtain ⟨n, position, rfl⟩ := sectionRange?_eq_some found
  obtain ⟨n', position', rfl⟩ := range?_eq_some found'
  rcases Nat.lt_trichotomy n n' with lt | rfl | gt
  · exact .of_le (Text.byteOffset_mono (sectionEnd_le position' lt))
  · rw [eq_of_position? position position']
    exact (ByteRange.Apart.of_le (Nat.le_refl _)).symm
  · have := position?_apart position' position gt
    exact (ByteRange.Apart.of_le (Text.byteOffset_mono (by omega))).symm

/-- A reply is read by slices of its bytes, each of them in order and with its ends on characters.
No byte is in two sections, or in a section and a header. -/
theorem parse_slices (text : String) :
    Reply.ofSlices? text = some (Reply.parse text) ∧
    (∀ (h : Header) (r : ByteRange), h.sectionRange? text = some r → r.IsSlice text) ∧
    (∀ (h h' : Header) (r r' : ByteRange), h ≠ h' → h.sectionRange? text = some r →
      h'.sectionRange? text = some r' → r.Apart r') ∧
    ∀ (h h' : Header) (r r' : ByteRange), h.sectionRange? text = some r →
      h'.range? text = some r' → r.Apart r' := by
  refine ⟨ofSlices?_eq text, fun h r found => ?_, fun _ _ _ _ => sections_apart, fun _ _ _ _ =>
    section_apart_header⟩
  obtain ⟨n, position, rfl⟩ := sectionRange?_eq_some found
  exact isSlice_byteOffset (le_sectionEnd_of_position? position) text

/-- Letters beyond ASCII in sections that are out of order, a second header of the answer, and
nothing below the last header. -/
def shuffledReply : String := "SOURCES USED: é.js\nANSWER: ja, answer: ö\nExplanation:"

theorem parse_slices_shuffledReply :
    Header.sources.sectionRange? shuffledReply = some ⟨13, 20⟩ ∧
    Header.answer.sectionRange? shuffledReply = some ⟨27, 43⟩ ∧
    Header.explanation.range? shuffledReply = some ⟨43, 55⟩ ∧
    Reply.ofSlices? shuffledReply = some ⟨"ja, answer: ö", "", "é.js"⟩ ∧
    ByteRange.IsSlice ⟨13, 20⟩ shuffledReply ∧ ByteRange.Apart ⟨13, 20⟩ ⟨27, 43⟩ ∧
    ByteRange.Apart ⟨27, 43⟩ ⟨43, 55⟩ := by
  have sources : Header.sources.sectionRange? shuffledReply = some ⟨13, 20⟩ := by decide +kernel
  have answer : Header.answer.sectionRange? shuffledReply = some ⟨27, 43⟩ := by decide +kernel
  have explanation : Header.explanation.range? shuffledReply = some ⟨43, 55⟩ := by decide +kernel
  obtain ⟨read, slices, apart, clear⟩ := parse_slices shuffledReply
  exact ⟨sources, answer, explanation, read.trans (by decide +kernel), slices _ _ sources,
    apart _ _ _ _ (by decide) sources answer, clear _ _ _ _ answer explanation⟩

end Retrieval

end CodeAtlas
