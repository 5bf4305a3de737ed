import CodeAtlas.Proofs.Keywords

/-! # Keywords of questions that are put together

What is lower-case stays so, and a space parts a text into two that are made lower-case apart. So
the keywords of two questions with a space between them are those of the first and then the new
ones of the second, and a list of keywords has itself as its keywords. -/
namespace CodeAtlas

namespace Text

/-! ## Small letters -/

section Runs

variable {run other : Nat × Nat × Nat} {n : Nat}

/-- All members are even, or all are odd. -/
def isUniform (run : Nat × Nat × Nat) : Bool := run.2.2 % 2 == 0 || run.1 == run.2.1

/-- Two runs of which one ends before the other begins, or one is even and the other odd. -/
def areApart (run other : Nat × Nat × Nat) : Bool :=
  run.2.1.blt other.1 || (other.2.1.blt run.1 ||
    (isUniform run && isUniform other && run.1 % 2 != other.1 % 2))

lemma IsMember.mod_two (h : IsMember run n) (uniform : isUniform run = true) :
    n % 2 = run.1 % 2 := by
  obtain ⟨le, ge, step⟩ := h
  rw [isUniform, Bool.or_eq_true, beq_iff_eq, beq_iff_eq] at uniform
  rcases uniform with even | single
  · have := (Nat.dvd_of_mod_eq_zero even).trans (Nat.dvd_of_mod_eq_zero step)
    omega
  · omega

lemma not_isMember_of_areApart (apart : areApart run other = true) (h : IsMember run n) :
    ¬ IsMember other n := by
  intro h'
  simp only [areApart, Bool.or_eq_true, Bool.and_eq_true, Nat.blt_eq, bne_iff_ne] at apart
  rcases apart with before | behind | ⟨⟨uniform, uniform'⟩, differ⟩
  · exact absurd (h'.1.trans h.2.1) (by omega)
  · exact absurd (h.1.trans h'.2.1) (by omega)
  · exact differ ((h.mod_two uniform).symm.trans (h'.mod_two uniform'))

end Runs

/-- The capital with two small letters, which is in no run. -/
def dottedCapital : Nat × Nat × Nat := (0x130, 0x130, 1)

/-- A run of characters, which are ASCII only if all of them are small letters of it. -/
def isSmallRun (run : Nat × Nat × Nat) : Bool :=
  (run.2.1.blt 0xD800 || Nat.blt 0xDFFF run.1 && run.2.1.blt 0x110000) &&
    (Nat.ble 0x80 run.1 || Nat.ble 0x61 run.1 && run.2.1.ble 0x7A)

lemma small_apart : ∀ run ∈ capitalRuns, isSmallRun (smallOf run) = true ∧
    areApart (smallOf run) dottedCapital = true ∧
    ∀ other ∈ capitalRuns, areApart (smallOf run) (capitalsOf other) = true := by
  have check : (capitalRuns.all fun run => isSmallRun (smallOf run) &&
      areApart (smallOf run) dottedCapital &&
      capitalRuns.all fun other => areApart (smallOf run) (capitalsOf other)) = true := by
    decide +kernel
  simpa only [List.all_eq_true, Bool.and_eq_true, and_assoc] using check

/-- A character that is its own lower-case form. -/
def IsSmall (c : Char) : Prop := smallLetters c = [c]

instance : DecidablePred IsSmall := fun c =>
  inferInstanceAs (Decidable (smallLetters c = [c]))

lemma isSmall_of_ascii {c : Char} (ascii : c.toNat < 0x80) (same : c.toLower = c) :
    IsSmall c := by
  rw [IsSmall, smallLetters, if_pos ascii, same]

lemma isSmall_of_not_isMember {c : Char} (ascii : ¬ c.toNat < 0x80) (dotted : c.toNat ≠ 0x130)
    (h : ∀ run ∈ capitalRuns, ¬ IsMember (capitalsOf run) c.toNat) : IsSmall c := by
  rw [IsSmall, smallLetters, if_neg ascii, if_neg dotted]
  rcases smallLetterBeyondAscii_cases c with ⟨run, mem, inside, -⟩ | ⟨-, same⟩
  · exact absurd inside (h run mem)
  · rw [same]

lemma isSmall_of_isMember {run : Nat × Nat × Nat × Nat} (mem : run ∈ capitalRuns) {n : Nat}
    (inside : IsMember (smallOf run) n) : IsSmall (Char.ofNat n) := by
  obtain ⟨small, dotted, apart⟩ := small_apart run mem
  simp only [isSmallRun, Bool.and_eq_true, Bool.or_eq_true, Nat.blt_eq, Nat.ble_eq] at small
  have valid : n.isValidChar := by
    rcases small.1 with low | ⟨high, last⟩
    · exact .inl (inside.2.1.trans_lt low)
    · exact .inr ⟨high.trans_le inside.1, inside.2.1.trans_lt last⟩
  have number : (Char.ofNat n).toNat = n := by rw [Char.toNat_ofNat, if_pos valid]
  by_cases ascii : n < 0x80
  · -- Below 0x80 there are only small letters of ASCII.
    have range : 0x61 ≤ n ∧ n ≤ 0x7A := by
      have := inside.1
      have := inside.2.1
      omega
    refine isSmall_of_ascii (number.symm ▸ ascii) (Char.toLower_eq_of_not_isUpper fun upper => ?_)
    have le : (Char.ofNat n).toNat ≤ 90 := UInt32.le_iff_toNat_le.1 (of_decide_eq_true upper).2
    omega
  · refine isSmall_of_not_isMember (number.symm ▸ ascii) ?_ fun other there => ?_
    · rintro eq
      exact not_isMember_of_areApart dotted inside ⟨(number.symm.trans eq).ge,
        (number.symm.trans eq).le, Nat.mod_one _⟩
    · rw [number]
      exact not_isMember_of_areApart (apart other there) inside

lemma isSmall_of_mem_smallLetters {c d : Char} (h : d ∈ smallLetters c) : IsSmall d := by
  unfold smallLetters at h
  split_ifs at h with ascii dotted
  · rw [List.mem_singleton.1 h]
    have small : c.toLower.toNat < 0x80 :=
      forall_ascii (P := fun c => c.toLower.toNat < 0x80) (by decide +kernel) ascii
    exact isSmall_of_ascii small (Char.toLower_toLower_eq_toLower c)
  · have small : IsSmall 'i' ∧ IsSmall (Char.ofNat 0x307) :=
      ⟨isSmall_of_ascii (by decide) (by decide), by decide +kernel⟩
    simp only [List.mem_cons, List.not_mem_nil, or_false] at h
    rcases h with rfl | rfl
    · exact small.1
    · exact small.2
  · rw [List.mem_singleton.1 h]
    rcases smallLetterBeyondAscii_cases c with ⟨run, mem, inside, eq⟩ | ⟨outside, same⟩
    · rw [eq]
      refine isSmall_of_isMember mem ⟨Nat.le_add_right .., ?_, ?_⟩
      · exact Nat.add_le_add_left (Nat.sub_le_sub_right inside.2.1 _) _
      · rw [Nat.add_sub_cancel_left]
        exact inside.2.2
    · rw [same]
      exact isSmall_of_not_isMember ascii dotted outside

/-! ## Texts -/

lemma isSmall_of_mem_lowercase {cs : List Char} {d : Char} (h : d ∈ lowercase cs) : IsSmall d := by
  have sigmas : IsSmall 'ς' ∧ IsSmall 'σ' := by decide +kernel
  have after : ∀ before, d ∈ lowercaseAfter before cs → IsSmall d := by
    clear h
    induction cs with
    | nil => exact fun _ h => nomatch h
    | cons c cs ih =>
      intro before h
      rw [lowercaseAfter, List.mem_append] at h
      rcases h with h | h
      · split_ifs at h
        · exact List.mem_singleton.1 h ▸ sigmas.1
        · exact List.mem_singleton.1 h ▸ sigmas.2
        · exact isSmall_of_mem_smallLetters h
      · exact ih _ h
  exact after [] h

lemma lowercase_eq_self {cs : List Char} (h : ∀ c ∈ cs, IsSmall c) : lowercase cs = cs := by
  have after : ∀ before, lowercaseAfter before cs = cs := by
    induction cs with
    | nil => exact fun _ => rfl
    | cons c cs ih =>
      intro before
      obtain ⟨here, there⟩ := List.forall_mem_cons.1 h
      have sigma : c ≠ 'Σ' := by
        rintro rfl
        exact absurd here (by decide)
      rw [lowercaseAfter, if_neg sigma, here, ih there, List.singleton_append]
  exact after []

/-- What is behind a space has no say in what stands first. -/
lemma casedComesFirst_append_space (cs more : List Char) :
    casedComesFirst (cs ++ ' ' :: more) = casedComesFirst cs := by
  have stop : isCaseIgnorable ' ' = false ∧ isCased ' ' = false := by decide +kernel
  induction cs with
  | nil => simp [casedComesFirst, stop.1, stop.2]
  | cons c cs ih =>
    unfold casedComesFirst at ih ⊢
    rw [List.cons_append, List.dropWhile_cons, List.dropWhile_cons]
    split_ifs with passed
    · exact ih
    · rfl

lemma lowercaseAfter_append_space (cs before more : List Char) :
    lowercaseAfter (before ++ ' ' :: more) cs = lowercaseAfter before cs := by
  induction cs generalizing before with
  | nil => rfl
  | cons c cs ih =>
    rw [lowercaseAfter, casedComesFirst_append_space, ← List.cons_append, ih, lowercaseAfter]

/-- A space parts a text into two that are made lower-case apart. -/
theorem lowercase_append_space (cs ds : List Char) :
    lowercase (cs ++ ' ' :: ds) = lowercase cs ++ ' ' :: lowercase ds := by
  have after : ∀ before, lowercaseAfter before (cs ++ ' ' :: ds) =
      lowercaseAfter before cs ++ ' ' :: lowercase ds := by
    induction cs with
    | nil =>
      intro before
      have space : smallLetters ' ' = [' '] := by decide
      have alone : lowercaseAfter (' ' :: before) ds = lowercase ds :=
        lowercaseAfter_append_space ds [] before
      rw [List.nil_append, lowercaseAfter, lowercaseAfter, if_neg (by decide), space, alone]
      rfl
    | cons c cs ih =>
      intro before
      rw [List.cons_append, lowercaseAfter, casedComesFirst_append_space, ih, lowercaseAfter,
        List.append_assoc]
  exact after []

/-- In front of a piece and behind it is nothing or a separator. -/
lemma exists_of_mem_join {α : Type} {sep : α} {piece : List α} {pieces : List (List α)}
    (h : piece ∈ pieces) : ∃ before after, join [sep] pieces = before ++ piece ++ after ∧
      (∀ c ∈ before.getLast?, c = sep) ∧ ∀ c ∈ after.head?, c = sep := by
  induction pieces with
  | nil => cases h
  | cons first pieces ih =>
    cases pieces with
    | nil =>
      obtain rfl := List.mem_singleton.1 h
      exact ⟨[], [], by simp [join], by simp, by simp⟩
    | cons next rest =>
      rcases List.mem_cons.1 h with rfl | h
      · exact ⟨[], sep :: join [sep] (next :: rest), by simp [join], by simp, by simp⟩
      · obtain ⟨before, after, eq, left, right⟩ := ih h
        refine ⟨first ++ sep :: before, after, by simp [join, eq], ?_, right⟩
        cases before with
        | nil => simp
        | cons c before => simpa [List.getLast?_append] using left

lemma exists_of_mem_cut {α : Type} [DecidableEq α] {sep : α} {piece cs : List α}
    (h : piece ∈ cut sep cs) : ∃ before after, cs = before ++ piece ++ after ∧
      (∀ c ∈ before.getLast?, c = sep) ∧ ∀ c ∈ after.head?, c = sep := by
  rw [← join_cut sep cs]
  exact exists_of_mem_join h

end Text

namespace Retrieval

open Text

variable {text word : List Char} {q w : String}

/-! ## Words -/

lemma wordsOf_append_space (cs ds : List Char) :
    wordsOf (cs ++ ' ' :: ds) = wordsOf cs ++ wordsOf ds := by
  rw [wordsOf, List.map_append, List.map_cons, ite_self, cut_append_cons, List.filter_append]
  rfl

lemma wordsOf_of_letters (letters : ∀ c ∈ word, isKeywordChar c = true) (nonempty : word ≠ []) :
    wordsOf word = [word] := by
  have whole : ' ' ∉ word := fun blank => absurd (letters _ blank) (by decide)
  rw [wordsOf, map_blank_of_letters letters, cut_of_not_mem whole]
  simpa using nonempty

lemma mem_wordsOf_iff : word ∈ wordsOf text ↔ IsRun text word ∧ word ≠ [] := by
  refine ⟨fun h => ?_, fun h => h.1.mem_wordsOf h.2⟩
  obtain ⟨piece, nonempty⟩ := List.mem_filter.1 h
  obtain ⟨blankBefore, blankAfter, split, left, right⟩ := exists_of_mem_cut piece
  obtain ⟨both, after, rfl, parts, rfl⟩ := List.map_eq_append_iff.1 split
  obtain ⟨before, same, rfl, rfl, rfl⟩ := List.map_eq_append_iff.1 parts
  -- A blank is put for a character just if that is no letter of a word.
  have blank : ∀ c, (if isKeywordChar c then c else ' ') = ' ' → isKeywordChar c = false := by
    intro c eq
    split_ifs at eq with letter
    · exact absurd (eq ▸ letter) (by decide)
    · exact Bool.eq_false_iff.2 letter
  have letter : ∀ c ∈ same, isKeywordChar c = true := by
    intro c mem
    by_contra other
    refine not_mem_of_mem_cut piece (List.mem_map.2 ⟨c, mem, if_neg other⟩)
  rw [map_blank_of_letters letter] at nonempty ⊢
  refine ⟨⟨letter, before, after, rfl, fun c last => ?_, fun c first => ?_⟩,
    by simpa using nonempty⟩
  · exact blank c (left _ (by rw [List.getLast?_map, last]; rfl))
  · exact blank c (right _ (by rw [List.head?_map, first]; rfl))

/-! ## Keywords -/

/-- What is added to what is there already is what is new. -/
lemma foldl_addNew (words new : List String) :
    new.foldl addNew words = words ++ (new.foldl addNew []).filter (· ∉ words) := by
  induction new using List.reverseRecOn with
  | nil => simp
  | append_singleton new w ih =>
    rw [List.foldl_append, List.foldl_append, ih]
    simp only [List.foldl_cons, List.foldl_nil, addNew, List.contains_iff_mem, List.mem_append,
      List.mem_filter]
    by_cases old : w ∈ words <;> by_cases known : w ∈ new.foldl addNew [] <;> simp [old, known]

lemma nodup_foldl_addNew {words : List String} (h : words.Nodup) (new : List String) :
    (new.foldl addNew words).Nodup := by
  induction new generalizing words with
  | nil => exact h
  | cons w new ih =>
    refine ih ?_
    rw [addNew]
    split_ifs with known
    · exact h
    · rw [List.contains_iff_mem] at known
      exact List.nodup_append.2 ⟨h, List.nodup_singleton w, by grind⟩

lemma foldl_addNew_of_nodup {new : List String} (h : new.Nodup) : new.foldl addNew [] = new := by
  induction new using List.reverseRecOn with
  | nil => rfl
  | append_singleton new w ih =>
    obtain ⟨nodup, -, apart⟩ := List.nodup_append.1 h
    have fresh : w ∉ new := fun mem => apart w mem w (List.mem_singleton.2 rfl) rfl
    rw [List.foldl_append, ih nodup, List.foldl_cons, List.foldl_nil, addNew,
      if_neg (by rwa [List.contains_iff_mem])]

/-- The keywords of a question with their repetitions. -/
def tellingWords (question : String) : List String :=
  ((wordsOf (lowercase question.toList)).filter isKeyword).map String.ofList

lemma tellingWords_append_space (p q : String) :
    tellingWords (p ++ " " ++ q) = tellingWords p ++ tellingWords q := by
  have text : (p ++ " " ++ q).toList = p.toList ++ ' ' :: q.toList := by simp
  rw [tellingWords, text, lowercase_append_space, wordsOf_append_space, List.filter_append,
    List.map_append]
  rfl

lemma tellingWords_of_mem (h : w ∈ keywords q) : tellingWords w = [w] := by
  obtain ⟨word, mem, keyword, rfl⟩ := mem_keywords.1 h
  obtain ⟨run, nonempty⟩ := mem_wordsOf_iff.1 mem
  obtain ⟨before, after, text, -, -⟩ := run.apart
  have small : ∀ c ∈ word, IsSmall c := by
    intro c there
    have mem : c ∈ lowercase q.toList := by simp [text, there]
    exact isSmall_of_mem_lowercase mem
  rw [tellingWords, String.toList_ofList, lowercase_eq_self small,
    wordsOf_of_letters run.letters nonempty, List.filter_singleton, keyword]
  rfl

lemma tellingWords_intercalate {words : List String} (h : ∀ w ∈ words, w ∈ keywords q) :
    tellingWords (" ".intercalate words) = words := by
  induction words with
  | nil => decide
  | cons w words ih =>
    obtain ⟨here, there⟩ := List.forall_mem_cons.1 h
    by_cases last : words = []
    · subst last
      exact tellingWords_of_mem here
    · rw [String.intercalate_cons_of_ne_nil last, tellingWords_append_space,
        tellingWords_of_mem here, ih there, List.singleton_append]

/-- The keywords of a question are the long runs of its lower-case form that are no stop words,
each once. As a question, with spaces between them, they have themselves as keywords. A question
that is put behind another one and a space has the keywords added that are new. -/
theorem keywords_laws (p q : String) :
    (keywords q).Nodup ∧
    (∀ w, w ∈ keywords q ↔
      IsRun (lowercase q.toList) w.toList ∧ 2 < w.length ∧ w ∉ stopWords) ∧
    keywords (" ".intercalate (keywords q)) = keywords q ∧
    keywords (p ++ " " ++ q) = keywords p ++ (keywords q).filter (· ∉ keywords p) := by
  have nodup : (keywords q).Nodup := nodup_foldl_addNew List.nodup_nil (tellingWords q)
  refine ⟨nodup, fun w => ?_, ?_, ?_⟩
  · rw [mem_keywords]
    constructor
    · rintro ⟨word, mem, keyword, rfl⟩
      rw [isKeyword, Bool.and_eq_true, decide_eq_true_eq, Bool.not_eq_true'] at keyword
      rw [String.toList_ofList, String.length_ofList]
      refine ⟨(mem_wordsOf_iff.1 mem).1, keyword.1, fun stop => ?_⟩
      rw [List.contains_iff_mem.2 stop] at keyword
      cases keyword.2
    · rintro ⟨run, long, telling⟩
      rw [← String.length_toList] at long
      have nonempty : w.toList ≠ [] := List.ne_nil_of_length_pos (by omega)
      refine ⟨w.toList, mem_wordsOf_iff.2 ⟨run, nonempty⟩, ?_, String.ofList_toList⟩
      simp only [isKeyword, long, String.ofList_toList]
      simpa using telling
  · change (tellingWords (" ".intercalate (keywords q))).foldl addNew [] = keywords q
    rw [tellingWords_intercalate (q := q) fun _ mem => mem, foldl_addNew_of_nodup nodup]
  · change (tellingWords (p ++ " " ++ q)).foldl addNew [] = _
    rw [tellingWords_append_space, List.foldl_append]
    exact foldl_addNew (keywords p) (tellingWords q)

end Retrieval

end CodeAtlas
