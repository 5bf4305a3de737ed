import CodeAtlas.Text.Blank
import CodeAtlas.Text.CharClass
import CodeAtlas.Text.Lines
import Mathlib.Data.List.Infix
import Mathlib.Data.List.TakeWhile
import Mathlib.Tactic.Lemma

/-! # Splitting and trimming

Where the first occurrence of a text in another one is, given what stands before it, and what is
left of a text whose blanks at both ends are removed. -/
namespace CodeAtlas.Text

variable {needle u v w cs : List Char} {c d : Char}

/-! ## Characters -/

lemma forall_ascii {P : Char → Prop} (h : ∀ n < 0x80, P (Char.ofNat n)) (ascii : c.toNat < 0x80) :
    P c := by
  rw [← Char.ofNat_toNat c]
  exact h c.toNat ascii

lemma toNat_lt_of_isAlpha (h : c.isAlpha = true) : c.toNat < 0x80 := by
  have number : c.toNat = c.val.toNat := rfl
  have letters : 'Z'.val.toNat = 90 ∧ 'z'.val.toNat = 122 := ⟨rfl, rfl⟩
  rcases Bool.or_eq_true_iff.1 h with capital | small
  · have le := UInt32.le_iff_toNat_le.1 (of_decide_eq_true capital).2
    omega
  · have le := UInt32.le_iff_toNat_le.1 (of_decide_eq_true (Bool.and_eq_true_iff.1 small).2)
    omega

lemma isWordChar_of_isBlank (h : isBlank c = true) : isWordChar c = false := by
  have blanks : ∀ n ∈ List.range' 0x9 5 ++ [0x20, 0x85, 0xA0, 0x1680] ++ List.range' 0x2000 11 ++
      [0x2028, 0x2029, 0x202F, 0x205F, 0x3000], isWordChar (Char.ofNat n) = false := by
    decide +kernel
  rw [← Char.ofNat_toNat c]
  apply blanks
  simp only [isBlank, Bool.or_eq_true, Bool.and_eq_true, decide_eq_true_eq, beq_iff_eq] at h
  simp only [List.mem_append, List.mem_range'_1, List.mem_cons, List.not_mem_nil, or_false]
  omega

/-! ## The first occurrence -/

/-- With `v` behind `u`, no occurrence of the needle begins in `u`. -/
def Skips (needle u v : List Char) : Prop :=
  ∀ a b, u = a ++ b → b ≠ [] → ¬ needle <+: b ++ v

lemma splitFirst?_self (needle v : List Char) :
    splitFirst? needle (needle ++ v) = some ([], v) := by
  have found : afterStart? needle (needle ++ v) = some v := afterStart?_eq_some.2 rfl
  cases text : needle ++ v with
  | nil =>
    rw [text] at found
    rw [splitFirst?, found]
    rfl
  | cons c cs =>
    rw [text] at found
    rw [splitFirst?, found]

lemma splitFirst?_append (h : Skips needle u v) :
    splitFirst? needle (u ++ v) =
      (splitFirst? needle v).map fun parts => (u ++ parts.1, parts.2) := by
  induction u with
  | nil => simp
  | cons c u ih =>
    have here : afterStart? needle (c :: (u ++ v)) = none := by
      cases found : afterStart? needle (c :: (u ++ v)) with
      | none => rfl
      | some rest =>
        have start : needle <+: c :: u ++ v := ⟨rest, (afterStart?_eq_some.1 found).symm⟩
        exact absurd start (h [] (c :: u) rfl (List.cons_ne_nil _ _))
    have later : Skips needle u v := fun a b parts some =>
      h (c :: a) b (by rw [parts, List.cons_append]) some
    rw [List.cons_append, splitFirst?, here]
    dsimp only
    rw [ih later, Option.map_map]
    rfl

lemma Skips.append (h : Skips needle u (v ++ w)) (k : Skips needle v w) :
    Skips needle (u ++ v) w := by
  intro a b parts some
  rcases List.append_eq_append_iff.1 parts with ⟨middle, rfl, tail⟩ | ⟨middle, front, rfl⟩
  · exact k middle b tail some
  · by_cases inside : middle = []
    · subst inside
      exact k [] v rfl some
    · rw [List.append_assoc]
      exact h a middle front inside

lemma Skips.of_not_mem {rest : List Char} (h : c ∉ u) : Skips (c :: rest) u v := by
  rintro a (_ | ⟨x, b⟩) parts some start
  · exact some rfl
  · obtain ⟨rfl, -⟩ := List.cons_prefix_cons.1 start
    exact h (parts ▸ List.mem_append_right a List.mem_cons_self)

/-- A needle whose second character is no blank can begin only with the last one of some blanks. -/
lemma Skips.of_blanks {rest : List Char} (blank : ∀ x ∈ u, isBlank x = true)
    (solid : isBlank d = false) (last : u.getLast? = some c → ¬ d :: rest <+: v) :
    Skips (c :: d :: rest) u v := by
  rintro a (_ | ⟨x, _ | ⟨y, b⟩⟩) parts some start
  · exact some rfl
  · obtain ⟨rfl, second⟩ := List.cons_prefix_cons.1 start
    exact last (by simp [parts]) second
  · obtain ⟨-, second⟩ := List.cons_prefix_cons.1 start
    obtain ⟨rfl, -⟩ := List.cons_prefix_cons.1 second
    have mem : d ∈ u := parts ▸ List.mem_append_right a (by simp)
    rw [blank d mem] at solid
    cases solid

/-! ## Blanks at the ends -/

/-- A text is made of blanks, what trimming leaves, and blanks. -/
lemma exists_eq_trim (cs : List Char) :
    ∃ front back, cs = front ++ (trim cs ++ back) ∧ (∀ c ∈ front, isBlank c = true) ∧
      ∀ c ∈ back, isBlank c = true := by
  obtain ⟨back, text, blank⟩ := dropEndWhile_append isBlank (trimStart cs)
  refine ⟨cs.takeWhile isBlank, back, ?_, fun c mem => List.mem_takeWhile_imp mem, blank⟩
  rw [trim, trimEnd, ← text, trimStart, List.takeWhile_append_dropWhile]

/-- Trimming leaves the same characters that are not blank, in the same order. -/
lemma filter_trim (cs : List Char) :
    (trim cs).filter (!isBlank ·) = cs.filter (!isBlank ·) := by
  have nothing {blanks : List Char} (h : ∀ c ∈ blanks, isBlank c = true) :
      blanks.filter (!isBlank ·) = [] := List.filter_eq_nil_iff.2 fun c mem => by simp [h c mem]
  obtain ⟨front, back, text, hfront, hback⟩ := exists_eq_trim cs
  conv_rhs => rw [text]
  rw [List.filter_append, List.filter_append, nothing hfront, nothing hback, List.nil_append,
    List.append_nil]

lemma mem_trim (mem : c ∈ cs) (solid : isBlank c = false) : c ∈ trim cs := by
  have there : c ∈ cs.filter (!isBlank ·) := List.mem_filter.2 ⟨mem, by simp [solid]⟩
  rw [← filter_trim] at there
  exact List.mem_of_mem_filter there

lemma trimStart_append (h : ∀ c ∈ u, isBlank c = true) : trimStart (u ++ v) = trimStart v :=
  List.dropWhile_append_of_pos h

lemma trimStart_append_of_solid (mem : c ∈ u) (solid : isBlank c = false) :
    trimStart (u ++ v) = trimStart u ++ v := by
  have some : (u.dropWhile isBlank).isEmpty = false := by
    rw [List.isEmpty_eq_false_iff, ne_eq, List.dropWhile_eq_nil_iff]
    intro all
    rw [all c mem] at solid
    cases solid
  rw [trimStart, List.dropWhile_append, some]
  rfl

lemma dropEndWhile_append_of_all {p : Char → Bool} (h : ∀ c ∈ v, p c = true) :
    dropEndWhile p (u ++ v) = dropEndWhile p u := by
  induction u with
  | nil => exact dropEndWhile_eq_nil.2 h
  | cons c u ih => rw [List.cons_append, dropEndWhile, dropEndWhile, ih]

lemma dropEndWhile_append_of_ne_nil {p : Char → Bool} (h : dropEndWhile p v ≠ []) :
    dropEndWhile p (u ++ v) = u ++ dropEndWhile p v := by
  induction u with
  | nil => rfl
  | cons c u ih =>
    rw [List.cons_append, dropEndWhile, ih]
    cases rest : u ++ dropEndWhile p v with
    | nil => exact absurd (List.append_eq_nil_iff.1 rest).2 h
    | cons d ds => rw [List.cons_append, rest]

lemma dropEndWhile_of_forall {p : Char → Bool} (h : ∀ c ∈ cs, p c = false) :
    dropEndWhile p cs = cs := by
  obtain ⟨tail, text, all⟩ := dropEndWhile_append p cs
  cases tail with
  | nil => exact (List.append_nil _).symm.trans text.symm
  | cons c tail =>
    have mem : c ∈ cs := text ▸ List.mem_append_right _ List.mem_cons_self
    have := h c mem
    rw [all c List.mem_cons_self] at this
    cases this

/-- A word with blanks around it. -/
lemma trim_word {word : List Char} (front : ∀ c ∈ u, isBlank c = true)
    (solid : ∀ c ∈ word, isBlank c = false) (back : ∀ c ∈ v, isBlank c = true) :
    trim (u ++ (word ++ v)) = word := by
  rw [trim, trimStart_append front]
  cases word with
  | nil =>
    rw [List.nil_append, trimStart, List.dropWhile_eq_nil_iff.2 back]
    rfl
  | cons c word =>
    rw [trimStart_append_of_solid List.mem_cons_self (solid c List.mem_cons_self), trimStart,
      List.dropWhile_cons_of_neg (by simp [solid c]), trimEnd, dropEndWhile_append_of_all back,
      dropEndWhile_of_forall solid]

/-- A character between two that are not blank is not trimmed away. -/
lemma mem_trim_between {x : Char} (first : c ∈ u) (solid : isBlank c = false) (last : d ∈ v)
    (solid' : isBlank d = false) : x ∈ trim (u ++ x :: v) := by
  have some : dropEndWhile isBlank v ≠ [] := fun none => by
    rw [dropEndWhile_eq_nil.1 none d last] at solid'
    cases solid'
  rw [trim, trimStart_append_of_solid first solid, trimEnd, List.append_cons,
    dropEndWhile_append_of_ne_nil some]
  simp

end CodeAtlas.Text
