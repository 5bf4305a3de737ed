import CodeAtlas.Proofs.Pieces
import CodeAtlas.Proofs.Splitting
import CodeAtlas.Retrieval.Prompt
import CodeAtlas.Retrieval.Reply

/-! # Sections of a reply

No header begins with what another one ends with, so no header is found across the ends of a
section. A reply in the format that a prompt asks for is read as the sections that were put into
it. -/
namespace CodeAtlas

namespace Text

variable {needle u v w : List Char} {c : Char}

/-! ## Seams -/

lemma Skips.nil : Skips needle [] v :=
  fun _ _ parts some => absurd (List.append_eq_nil_iff.1 parts.symm).2 some

/-- What is not in a text, and does not have the character behind it, begins nowhere in it. -/
lemma Skips.of_mark (apart : c ∉ needle) (absent : ¬ needle <:+: u) :
    Skips needle (u ++ [c]) v := by
  rintro a b parts some ⟨rest, start⟩
  obtain ⟨front, last, rfl⟩ := (List.eq_nil_or_concat b).resolve_left some
  rw [List.concat_eq_append] at parts start
  obtain ⟨rfl, same⟩ := List.append_inj' (parts.trans (List.append_assoc ..).symm) rfl
  cases same
  rw [List.append_assoc, List.singleton_append] at start
  rcases List.append_eq_append_iff.1 start with ⟨more, rfl, -⟩ | ⟨more, rfl, tail⟩
  · exact absent ⟨a, more, List.append_assoc ..⟩
  · cases more with
    | nil => exact absent (by simpa using (List.suffix_append a front).isInfix)
    | cons x more =>
      cases (List.cons.inj tail).1
      exact apart (by simp)

lemma trim_of_forall (blank : ∀ c ∈ w, isBlank c = true) : trim w = [] := by
  rw [trim, trimStart, List.dropWhile_eq_nil_iff.2 blank]
  rfl

lemma trim_append (front : ∀ c ∈ u, isBlank c = true) (back : ∀ c ∈ v, isBlank c = true) :
    trim (u ++ (w ++ v)) = trim w := by
  by_cases blank : ∀ c ∈ w, isBlank c = true
  · rw [trim_of_forall blank, trim_of_forall]
    exact List.forall_mem_append.2 ⟨front, List.forall_mem_append.2 ⟨blank, back⟩⟩
  · simp only [not_forall, Bool.not_eq_true] at blank
    obtain ⟨c, mem, solid⟩ := blank
    rw [trim, trimStart_append front, trimStart_append_of_solid mem solid, trimEnd,
      dropEndWhile_append_of_all back]
    rfl

end Text

namespace Retrieval

open Text (Skips asciiLowercase)

variable {h h' : Header} {l cs u v : List Char}

/-! ## Headers -/

lemma Header.eq_of_within : h.text <:+: h'.text → h = h' := by
  cases h <;> cases h' <;> decide

/-- No header begins with what another one ends with, but for nothing and all of it. -/
lemma Header.eq_of_prefix_of_suffix (start : l <+: h.text) (final : l <:+ h'.text) :
    l = [] ∨ l = h.text := by
  have all : ∀ n ≤ h.text.length, h.text.take n <:+ h'.text → n = 0 ∨ n = h.text.length := by
    cases h <;> cases h' <;> decide
  rw [List.prefix_iff_eq_take.1 start] at final
  rcases all l.length start.length_le final with none | full
  · exact .inl (List.length_eq_zero_iff.1 none)
  · exact .inr (start.eq_of_length full)

lemma Header.newline_not_mem (h : Header) : '\n' ∉ h.text := by
  cases h <;> decide

lemma Header.not_prefix_space (h : Header) : ¬ h.text <+: ' ' :: cs := by
  obtain ⟨c, rest, eq, letter⟩ : ∃ c rest, h.text = c :: rest ∧ c ≠ ' ' := by
    cases h <;> exact ⟨_, _, rfl, by decide⟩
  rw [eq]
  exact fun start => letter (List.cons_prefix_cons.1 start).1

lemma Header.not_infix_append (other : h ≠ h') (absent : ¬ h.text <:+: cs) :
    ¬ h.text <:+: h'.text ++ ' ' :: cs := by
  rw [List.infix_append_iff]
  rintro (inside | behind | ⟨front, back, eq, final, start⟩)
  · exact other (eq_of_within inside)
  · rcases List.infix_cons_iff.1 behind with start | later
    · exact h.not_prefix_space start
    · exact absent later
  · rcases eq_of_prefix_of_suffix ⟨back, eq.symm⟩ final with rfl | rfl
    · rw [List.nil_append] at eq
      exact h.not_prefix_space (eq ▸ start)
    · exact other (eq_of_within final.isInfix)

lemma position?_of_skips {needle : List Char} (skips : Skips needle u (needle ++ v)) :
    position? needle (u ++ (needle ++ v)) = some u.length := by
  rw [position?, Text.splitFirst?_append skips, Text.splitFirst?_self]
  simp

/-! ## The format of a reply -/

/-- A section in the format that a prompt asks for, under a header as it is spelled. -/
def formatted (header text : String) : String := header ++ " " ++ text

/-- A reply of three sections in the format that a prompt asks for. -/
def formattedReply (spelling : Header → String) (answer explanation sources : String) : String :=
  formatted (spelling .answer) answer ++ "\n" ++
    (formatted (spelling .explanation) explanation ++ "\n" ++
      formatted (spelling .sources) sources)

/-- The headers as a prompt spells them. -/
def Header.inCapitals : Header → String
  | answer => "ANSWER:"
  | explanation => "EXPLANATION:"
  | sources => "SOURCES USED:"

/-- Every prompt ends with the format of a reply. -/
theorem prompt_asks (question : String) (chunks : List Chunk) (nodes : List GraphNode) :
    ∃ front, prompt question chunks nodes = front ++ (formattedReply Header.inCapitals
      "<direct answer>" "<supporting detail>" "<sources you cited>" ++ "\n") := by
  obtain ⟨front, eq⟩ : ∃ front, prompt question chunks nodes = front ++ instructions := ⟨_, rfl⟩
  refine ⟨front ++ ("INSTRUCTIONS:\n" ++
    "- Answer only from the context above and cite the files, functions or commits you rely on.\n" ++
    "- If the context is insufficient to answer, say so explicitly.\n" ++
    "- Reply in exactly this format:\n"), ?_⟩
  rw [eq, String.append_assoc]
  exact congrArg (front ++ ·) (by decide +kernel)

lemma asciiLowercase_append : asciiLowercase (u ++ v) = asciiLowercase u ++ asciiLowercase v :=
  List.map_append

/-- A section under a header as it is spelled, with what is behind it up to the next header. -/
def spelledSection (header text : String) (gap : List Char) : List Char :=
  header.toList ++ ' ' :: (text.toList ++ gap)

section Spelled

variable {header text : String} {gap part reply before behind : List Char}

lemma skips_section (isSection : part = spelledSection header text ['\n']) (other : h ≠ h')
    (spelled : asciiLowercase header.toList = h'.text)
    (absent : ¬ h.text <:+: asciiLowercase text.toList) : Skips h.text (asciiLowercase part) v := by
  have lower : asciiLowercase part = h'.text ++ ' ' :: asciiLowercase text.toList ++ ['\n'] := by
    rw [isSection, spelledSection, asciiLowercase_append, spelled, ← List.cons_append,
      asciiLowercase_append, ← List.append_assoc]
    rfl
  rw [lower]
  exact .of_mark h.newline_not_mem (Header.not_infix_append other absent)

/-- A header is found where it stands if it begins nowhere before. -/
lemma position?_of_spelled (isSection : part = spelledSection header text gap)
    (parts : reply = before ++ (part ++ behind)) (spelled : asciiLowercase header.toList = h.text)
    (skips : ∀ v, Skips h.text (asciiLowercase before) v) :
    h.position? reply = some before.length := by
  rw [Header.position?, parts, isSection, spelledSection, List.append_assoc, asciiLowercase_append,
    asciiLowercase_append, spelled, position?_of_skips (skips _), asciiLowercase, List.length_map]

lemma sectionText_of_spelled (isSection : part = spelledSection header text gap)
    (parts : reply = before ++ (part ++ behind)) (spelled : asciiLowercase header.toList = h.text)
    (blank : ∀ c ∈ gap, Text.isBlank c = true)
    (ends : sectionEnd reply before.length = before.length + part.length) :
    sectionText reply h before.length = Text.trimmed text := by
  have size : h.text.length = header.toList.length := by
    rw [← spelled, asciiLowercase, List.length_map]
  have body : reply = (before ++ header.toList) ++ ([' '] ++ (text.toList ++ gap) ++ behind) := by
    simp [parts, isSection, spelledSection]
  have length : before.length + part.length - (before ++ header.toList).length =
      ([' '] ++ (text.toList ++ gap)).length := by
    simp [isSection, spelledSection]
    omega
  have start : before.length + header.toList.length = (before ++ header.toList).length :=
    List.length_append.symm
  unfold sectionText
  dsimp only
  rw [ends, size, start, length, body, List.drop_left, List.take_left,
    Text.trim_append (List.forall_mem_singleton.2 (by decide)) blank]
  rfl

end Spelled

section Formatted

variable {spelling : Header → String} {answer explanation sources : String}
  {first second third : List Char}

/-- Each header is first found where it was put, if there is none in the sections before it. -/
lemma positions_of_spelled (first_eq : first = spelledSection (spelling .answer) answer ['\n'])
    (second_eq : second = spelledSection (spelling .explanation) explanation ['\n'])
    (third_eq : third = spelledSection (spelling .sources) sources [])
    (spelled : ∀ h, asciiLowercase (spelling h).toList = h.text)
    (inAnswer : ∀ h : Header, ¬ h.text <:+: asciiLowercase answer.toList)
    (inExplanation : ∀ h : Header, ¬ h.text <:+: asciiLowercase explanation.toList) :
    Header.answer.position? (first ++ (second ++ third)) = some 0 ∧
    Header.explanation.position? (first ++ (second ++ third)) = some first.length ∧
    Header.sources.position? (first ++ (second ++ third)) = some (first ++ second).length := by
  have clear : ∀ v, Skips Header.explanation.text (asciiLowercase first) v := fun _ =>
    skips_section first_eq (by decide) (spelled .answer) (inAnswer .explanation)
  have clear' : ∀ v, Skips Header.sources.text (asciiLowercase (first ++ second)) v := fun v => by
    rw [asciiLowercase_append]
    refine .append ?_ ?_
    · exact skips_section first_eq (by decide) (spelled .answer) (inAnswer .sources)
    · exact skips_section second_eq (by decide) (spelled .explanation) (inExplanation .sources)
  have last : first ++ (second ++ third) = (first ++ second) ++ (third ++ []) := by simp
  refine ⟨?_, ?_, ?_⟩
  · exact position?_of_spelled first_eq (List.nil_append _).symm (spelled .answer) fun _ => .nil
  · exact position?_of_spelled second_eq rfl (spelled .explanation) clear
  · exact position?_of_spelled third_eq last (spelled .sources) clear'

lemma sectionEnd_of_boundaries (some : first ≠ []) (some' : second ≠ [])
    (bounds : boundaries (first ++ (second ++ third)) =
      [0, first.length, (first ++ second).length]) :
    sectionEnd (first ++ (second ++ third)) 0 = first.length ∧
    sectionEnd (first ++ (second ++ third)) first.length = first.length + second.length ∧
    sectionEnd (first ++ (second ++ third)) (first ++ second).length =
      (first ++ second).length + third.length := by
  have more := List.length_pos_iff.2 some
  have more' := List.length_pos_iff.2 some'
  simp only [sectionEnd, bounds, List.length_append]
  refine ⟨?_, ?_, ?_⟩
  · have : 0 < first.length + second.length := by omega
    simp [more, this]
  · simp [more']
  · simp [Nat.add_assoc]

end Formatted

/-- A reply in the format that a prompt asks for is read as its sections without the blanks at their
ends, whatever letters of the headers are capitals, if there is no header in a section. -/
theorem parse_formattedReply (spelling : Header → String) (answer explanation sources : String)
    (spelled : ∀ h, asciiLowercase (spelling h).toList = h.text)
    (absent : ∀ text ∈ [answer, explanation, sources], ∀ h : Header,
      ¬ h.text <:+: asciiLowercase text.toList) :
    Reply.parse (formattedReply spelling answer explanation sources) =
      ⟨Text.trimmed answer, Text.trimmed explanation, Text.trimmed sources⟩ := by
  simp only [List.forall_mem_cons] at absent
  obtain ⟨inAnswer, inExplanation, -⟩ := absent
  obtain ⟨first, first_eq⟩ : ∃ first, first = spelledSection (spelling .answer) answer ['\n'] :=
    ⟨_, rfl⟩
  obtain ⟨second, second_eq⟩ : ∃ second,
      second = spelledSection (spelling .explanation) explanation ['\n'] := ⟨_, rfl⟩
  obtain ⟨third, third_eq⟩ : ∃ third, third = spelledSection (spelling .sources) sources [] :=
    ⟨_, rfl⟩
  have reply : (formattedReply spelling answer explanation sources).toList =
      first ++ (second ++ third) := by
    simp [first_eq, second_eq, third_eq, formattedReply, formatted, spelledSection]
  obtain ⟨answerAt, explanationAt, sourcesAt⟩ :=
    positions_of_spelled first_eq second_eq third_eq spelled inAnswer inExplanation
  have bounds : boundaries (first ++ (second ++ third)) =
      [0, first.length, (first ++ second).length] := by
    simp [boundaries, answerAt, explanationAt, sourcesAt]
  obtain ⟨answerEnd, explanationEnd, sourcesEnd⟩ := sectionEnd_of_boundaries
    (by simp [first_eq, spelledSection]) (by simp [second_eq, spelledSection]) bounds
  have newline : ∀ c ∈ ['\n'], Text.isBlank c = true := List.forall_mem_singleton.2 (by decide)
  have answerText := sectionText_of_spelled first_eq (List.nil_append _).symm (spelled .answer)
    newline (answerEnd.trans (Nat.zero_add _).symm)
  rw [List.length_nil] at answerText
  have explanationText :=
    sectionText_of_spelled second_eq rfl (spelled .explanation) newline explanationEnd
  have last : first ++ (second ++ third) = (first ++ second) ++ (third ++ []) := by simp
  have sourcesText :=
    sectionText_of_spelled third_eq last (spelled .sources) (List.forall_mem_nil _) sourcesEnd
  unfold Reply.parse
  dsimp only
  rw [reply, answerAt, explanationAt, sourcesAt]
  dsimp only
  rw [answerText, explanationText, sourcesText]

/-- Headers with some capitals. -/
def mixedSpelling : Header → String
  | .answer => "Answer:"
  | .explanation => "eXPLANATION:"
  | .sources => "Sources Used:"

theorem parse_formattedReply_mixedSpelling :
    (∀ h, asciiLowercase (mixedSpelling h).toList = h.text) ∧
    (∀ text ∈ ["An answer : näive", " explanation\n\n", "Sources used – a.js "], ∀ h : Header,
      ¬ h.text <:+: asciiLowercase text.toList) ∧
    Reply.parse (formattedReply mixedSpelling "An answer : näive" " explanation\n\n"
      "Sources used – a.js ") = ⟨"An answer : näive", "explanation", "Sources used – a.js"⟩ := by
  have spelled : ∀ h, asciiLowercase (mixedSpelling h).toList = h.text := by
    intro h
    cases h <;> decide
  have absent : ∀ text ∈ ["An answer : näive", " explanation\n\n", "Sources used – a.js "],
      ∀ h : Header, ¬ h.text <:+: asciiLowercase text.toList := by
    intro text mem h
    rw [← Text.occursIn_iff]
    revert text
    cases h <;> decide +kernel
  exact ⟨spelled, absent, (parse_formattedReply _ _ _ _ spelled absent).trans (by decide +kernel)⟩

end Retrieval

end CodeAtlas
