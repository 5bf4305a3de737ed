import CodeAtlas.Proofs.Pieces
import CodeAtlas.Proofs.Splitting
import CodeAtlas.Retrieval.Keywords
import Mathlib

/-! # The keywords of a question

Which words of a question are among its keywords. The question is made lower-case as a whole and
then cut at what is no letter, digit or underscore, while a search makes only ASCII letters small.
The two agree on a word of which every letter has the small letter that ASCII gives it. -/
namespace CodeAtlas

namespace Text

/-! ## Lower case -/

/-- The members of a run of capitals. -/
def membersOf : Nat × Nat × Nat × Nat → List Nat
  | (first, last, gap, _) => (List.range ((last - first) / gap + 1)).map fun k => first + k * gap

/-- Whether the members of runs lie in ranges, both in ascending order. The ranges that a run has
passed are not looked at again, and a run lies in few. -/
def lieIn : (ranges : List (Nat × Nat)) → List (Nat × Nat × Nat × Nat) → Bool
  | _, [] => true
  | ranges, run :: runs =>
      let ahead := ranges.dropWhile fun r => r.2 < run.1
      (membersOf run).all (inRanges (ahead.take 4)) && lieIn ahead runs

lemma mem_membersOf {first last gap small n : Nat} (le : first ≤ n) (ge : n ≤ last)
    (step : (n - first) % gap = 0) : n ∈ membersOf (first, last, gap, small) := by
  have within : (n - first) / gap < (last - first) / gap + 1 :=
    Nat.lt_succ_of_le (Nat.div_le_div_right (Nat.sub_le_sub_right ge first))
  refine List.mem_map.2 ⟨_, List.mem_range.2 within, ?_⟩
  rw [Nat.div_mul_cancel (Nat.dvd_of_mod_eq_zero step), Nat.add_sub_cancel' le]

lemma inRanges_of_subset {few ranges : List (Nat × Nat)} (sub : few ⊆ ranges) {n : Nat}
    (h : inRanges few n = true) : inRanges ranges n = true := by
  obtain ⟨r, mem, inside⟩ := List.any_eq_true.1 h
  exact List.any_eq_true.2 ⟨r, sub mem, inside⟩

lemma inRanges_of_lieIn {ranges : List (Nat × Nat)} {runs : List (Nat × Nat × Nat × Nat)}
    (h : lieIn ranges runs = true) :
    ∀ run ∈ runs, ∀ n ∈ membersOf run, inRanges ranges n = true := by
  induction runs generalizing ranges with
  | nil => simp
  | cons run runs ih =>
    rw [lieIn, Bool.and_eq_true, List.all_eq_true] at h
    have sub := List.dropWhile_subset (fun r : Nat × Nat => decide (r.2 < run.1)) (l := ranges)
    rintro other mem n member
    rcases List.mem_cons.1 mem with rfl | mem
    · exact inRanges_of_subset (fun r near => sub (List.mem_of_mem_take near)) (h.1 n member)
    · exact inRanges_of_subset sub (ih h.2 other mem n member)

lemma alphabetic_of_capitalRun : ∀ run ∈ capitalRuns, ∀ n ∈ membersOf run,
    inRanges alphabeticRanges n = true :=
  inRanges_of_lieIn (by decide +kernel)

/-- The code points of a run: from the first to the last, with a gap between neighbours. -/
def IsMember (run : Nat × Nat × Nat) (n : Nat) : Prop :=
  run.1 ≤ n ∧ n ≤ run.2.1 ∧ (n - run.1) % run.2.2 = 0

/-- The capitals of a run. -/
def capitalsOf : Nat × Nat × Nat × Nat → Nat × Nat × Nat
  | (first, last, gap, _) => (first, last, gap)

/-- The small letters of a run of capitals. -/
def smallOf : Nat × Nat × Nat × Nat → Nat × Nat × Nat
  | (first, last, gap, small) => (small, small + (last - first), gap)

/-- What the characters beyond ASCII become. -/
lemma smallLetterBeyondAscii_cases (c : Char) :
    (∃ run ∈ capitalRuns, IsMember (capitalsOf run) c.toNat ∧
      smallLetterBeyondAscii c = Char.ofNat ((smallOf run).1 + (c.toNat - (capitalsOf run).1))) ∨
    (∀ run ∈ capitalRuns, ¬ IsMember (capitalsOf run) c.toNat) ∧
      smallLetterBeyondAscii c = c := by
  unfold smallLetterBeyondAscii
  dsimp only
  split
  next first last gap small found =>
    have inside := List.find?_some found
    simp only [Bool.and_eq_true, decide_eq_true_eq, beq_iff_eq, and_assoc] at inside
    exact .inl ⟨_, List.mem_of_find?_eq_some found, inside, rfl⟩
  next missing =>
    refine .inr ⟨fun run mem inside => ?_, rfl⟩
    have outside := List.find?_eq_none.1 missing run mem
    simp only [Bool.and_eq_true, decide_eq_true_eq, beq_iff_eq, and_assoc] at outside
    exact outside inside

lemma smallLetterBeyondAscii_of_not_alphabetic {c : Char}
    (h : inRanges alphabeticRanges c.toNat = false) : smallLetterBeyondAscii c = c := by
  rcases smallLetterBeyondAscii_cases c with ⟨run, mem, ⟨le, ge, step⟩, -⟩ | ⟨-, same⟩
  · have member : c.toNat ∈ membersOf run := mem_membersOf le ge step
    rw [alphabetic_of_capitalRun run mem _ member] at h
    cases h
  · exact same

lemma isAlphanumeric_of_isAlpha {c : Char} (h : c.isAlpha = true) : isAlphanumeric c = true := by
  have ascii : c.toNat < 0x80 := toNat_lt_of_isAlpha h
  rw [isAlphanumeric, if_pos ascii, Char.isAlphanum, h, Bool.true_or]

/-- A letter has the small letter that ASCII gives it, which is itself beyond ASCII. -/
def HasAsciiCase (c : Char) : Prop := smallLetters c = [c.toLower]

instance : DecidablePred HasAsciiCase := fun c =>
  inferInstanceAs (Decidable (smallLetters c = [c.toLower]))

lemma toLower_of_not_alphanumeric {c : Char} (h : isAlphanumeric c = false) : c.toLower = c := by
  refine Char.toLower_eq_of_not_isUpper fun upper => ?_
  rw [isAlphanumeric_of_isAlpha (by rw [Char.isAlpha, upper, Bool.true_or])] at h
  cases h

lemma hasAsciiCase_of_not_alphanumeric {c : Char} (h : isAlphanumeric c = false) :
    HasAsciiCase c := by
  rw [HasAsciiCase, toLower_of_not_alphanumeric h, smallLetters]
  unfold isAlphanumeric at h
  split_ifs at h ⊢ with ascii dotted
  · rw [toLower_of_not_alphanumeric (by rwa [isAlphanumeric, if_pos ascii])]
  · rw [dotted] at h
    cases h
  · rw [Bool.or_eq_false_iff, Bool.or_eq_false_iff] at h
    rw [smallLetterBeyondAscii_of_not_alphabetic h.1.1]

lemma lowercaseAfter_cons {c : Char} (h : HasAsciiCase c) (before rest : List Char) :
    lowercaseAfter before (c :: rest) = c.toLower :: lowercaseAfter (c :: before) rest := by
  have sigma : c ≠ 'Σ' := by
    rintro rfl
    exact absurd h (by decide)
  rw [lowercaseAfter, if_neg sigma, h, List.singleton_append]

lemma lowercaseAfter_append {word : List Char} (h : ∀ c ∈ word, HasAsciiCase c)
    (before rest : List Char) :
    lowercaseAfter before (word ++ rest) =
      asciiLowercase word ++ lowercaseAfter (word.reverse ++ before) rest := by
  induction word generalizing before with
  | nil => rfl
  | cons c word ih =>
    rw [List.cons_append, lowercaseAfter_cons (h c List.mem_cons_self),
      ih fun d mem => h d (List.mem_cons_of_mem c mem), List.reverse_cons,
      List.append_assoc word.reverse]
    rfl

lemma lowercase_eq_asciiLowercase {word : List Char} (h : ∀ c ∈ word, HasAsciiCase c) :
    lowercase word = asciiLowercase word := by
  have := lowercaseAfter_append h [] []
  rwa [List.append_nil, lowercaseAfter, List.append_nil] at this

/-- What a part of a text becomes, with some text before it and some after it. -/
lemma exists_lowercaseAfter (part before rest : List Char) :
    ∃ lowered, lowercaseAfter before (part ++ rest) =
      lowered ++ lowercaseAfter (part.reverse ++ before) rest := by
  induction part generalizing before with
  | nil => exact ⟨[], rfl⟩
  | cons c part ih =>
    obtain ⟨lowered, eq⟩ := ih (c :: before)
    rw [List.cons_append, List.reverse_cons, List.append_assoc part.reverse, List.singleton_append,
      lowercaseAfter, eq, ← List.append_assoc]
    exact ⟨_, rfl⟩

lemma asciiLowercase_idem (word : List Char) :
    asciiLowercase (asciiLowercase word) = asciiLowercase word := by
  simp [asciiLowercase]

end Text

namespace Retrieval

open Text

variable {text word : List Char} {c : Char}

/-! ## Runs -/

lemma hasAsciiCase_of_separator (h : isKeywordChar c = false) : HasAsciiCase c ∧ c.toLower = c := by
  rw [isKeywordChar, Bool.or_eq_false_iff] at h
  exact ⟨hasAsciiCase_of_not_alphanumeric h.1, toLower_of_not_alphanumeric h.1⟩

lemma isKeywordChar_toLower (h : isKeywordChar c = true) : isKeywordChar c.toLower = true := by
  by_cases upper : c.isUpper = true
  · have letter : c.toLower.isAlpha = true := by
      rw [Char.isAlpha_toLower_eq_isAlpha, Char.isAlpha, upper, Bool.true_or]
    rw [isKeywordChar, isAlphanumeric_of_isAlpha letter, Bool.true_or]
  · rwa [Char.toLower_eq_of_not_isUpper upper]

/-- A longest run of letters, digits and underscores in a text. -/
structure IsRun (text word : List Char) : Prop where
  letters : ∀ c ∈ word, isKeywordChar c = true
  apart : ∃ before after, text = before ++ word ++ after ∧
    (∀ c ∈ before.getLast?, isKeywordChar c = false) ∧
    ∀ c ∈ after.head?, isKeywordChar c = false

/-- What a run becomes with the text after it, whatever stands before. -/
lemma exists_lowercaseAfter_run {after : List Char} (plain : ∀ c ∈ word, HasAsciiCase c)
    (right : ∀ c ∈ after.head?, isKeywordChar c = false) (before : List Char) :
    ∃ lowered, lowercaseAfter before (word ++ after) = asciiLowercase word ++ lowered ∧
      ∀ c ∈ lowered.head?, isKeywordChar c = false := by
  refine ⟨_, lowercaseAfter_append plain before after, ?_⟩
  cases after with
  | nil => exact fun c mem => nomatch mem
  | cons c after =>
    obtain ⟨plain, same⟩ := hasAsciiCase_of_separator (right c rfl)
    rw [lowercaseAfter_cons plain, same]
    exact fun d mem => right d mem

/-- A run stays one in lower case, wherever in the text it stands. -/
lemma IsRun.lowercase (h : IsRun text word) (plain : ∀ c ∈ word, HasAsciiCase c) :
    IsRun (lowercase text) (asciiLowercase word) where
  letters := by
    intro c mem
    obtain ⟨d, there, rfl⟩ := List.mem_map.1 mem
    exact isKeywordChar_toLower (h.letters d there)
  apart := by
    obtain ⟨before, after, rfl, left, right⟩ := h.apart
    rw [List.append_assoc]
    rcases List.eq_nil_or_concat before with rfl | ⟨start, c, rfl⟩
    · obtain ⟨lowered, eq, next⟩ := exists_lowercaseAfter_run plain right []
      exact ⟨[], lowered, eq, left, next⟩
    · -- The character in front of the run stays, and parts it from what is before that one.
      obtain ⟨small, same⟩ := hasAsciiCase_of_separator (left c (by simp))
      obtain ⟨first, first_eq⟩ := exists_lowercaseAfter start [] (c :: (word ++ after))
      obtain ⟨lowered, eq, next⟩ :=
        exists_lowercaseAfter_run plain right (c :: (start.reverse ++ []))
      rw [lowercaseAfter_cons small, same, eq] at first_eq
      refine ⟨first ++ [c], lowered, ?_, by simpa using left, next⟩
      simpa [Text.lowercase] using first_eq

/-- No blank is put into a word. -/
lemma map_blank_of_letters (letters : ∀ c ∈ word, isKeywordChar c = true) :
    word.map (fun c => if isKeywordChar c then c else ' ') = word :=
  (List.map_congr_left fun c mem => if_pos (letters c mem)).trans (List.map_id' word)

lemma IsRun.mem_wordsOf (h : IsRun text word) (nonempty : word ≠ []) : word ∈ wordsOf text := by
  obtain ⟨before, after, rfl, left, right⟩ := h.apart
  rw [wordsOf, List.mem_filter]
  refine ⟨?_, by simpa using nonempty⟩
  rw [List.map_append, List.map_append, map_blank_of_letters h.letters]
  -- A blank stands for what is next to the run, and is no letter of it.
  refine mem_cut (fun blank => ?_) ?_ ?_
  · exact absurd (h.letters _ blank) (by decide)
  · simp only [List.getLast?_map, Option.mem_def, Option.map_eq_some_iff]
    rintro _ ⟨c, last, rfl⟩
    rw [left c last, if_neg Bool.false_ne_true]
  · simp only [List.head?_map, Option.mem_def, Option.map_eq_some_iff]
    rintro _ ⟨c, first, rfl⟩
    rw [right c first, if_neg Bool.false_ne_true]

/-! ## Keywords -/

lemma mem_foldl_addNew {new words : List String} {w : String} :
    w ∈ new.foldl addNew words ↔ w ∈ words ∨ w ∈ new := by
  induction new generalizing words with
  | nil => simp
  | cons v new ih =>
    rw [List.foldl_cons, ih, addNew]
    split_ifs with known
    · have := List.contains_iff_mem.1 known
      grind
    · grind

lemma mem_keywords {question w : String} : w ∈ keywords question ↔
    ∃ word ∈ wordsOf (lowercase question.toList),
      isKeyword word = true ∧ String.ofList word = w := by
  simp [keywords, mem_foldl_addNew, and_assoc]

/-- A long run that is no stop word is a keyword, with its ASCII letters made small. -/
lemma IsRun.mem_keywords {question : String} (h : IsRun question.toList word)
    (plain : ∀ c ∈ word, HasAsciiCase c) (long : 2 < word.length)
    (telling : String.ofList (Text.lowercase word) ∉ stopWords) :
    String.ofList (asciiLowercase word) ∈ keywords question := by
  rw [lowercase_eq_asciiLowercase plain] at telling
  have length : (asciiLowercase word).length = word.length := List.length_map ..
  have nonempty : asciiLowercase word ≠ [] := List.ne_nil_of_length_pos (by omega)
  refine Retrieval.mem_keywords.2 ⟨_, (h.lowercase plain).mem_wordsOf nonempty, ?_, rfl⟩
  simp only [isKeyword, length, long, decide_true, Bool.true_and, Bool.not_eq_true']
  rw [← Bool.not_eq_true, List.contains_iff_mem]
  exact telling

end Retrieval

end CodeAtlas
