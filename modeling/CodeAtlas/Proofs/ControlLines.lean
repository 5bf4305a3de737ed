import CodeAtlas.Outline.Strategy
import CodeAtlas.Proofs.Matching
import CodeAtlas.Proofs.Splitting

/-! # Lines of control flow

What the line patterns find on a line that begins with a control keyword. The patterns that need a
keyword of their own find nothing there. The last one needs none: it takes the control keyword for
the type of a function, and the next word for its name. -/
namespace CodeAtlas

namespace Pattern

lemma toNat_lt_of_isNameStart {c : Char} (h : isNameStart c = true) : c.toNat < 0x80 := by
  rw [isNameStart, Bool.or_eq_true, beq_iff_eq] at h
  rcases h with letter | rfl
  · exact Text.toNat_lt_of_isAlpha letter
  · decide

lemma isNameStart_spec {c : Char} (h : isNameStart c = true) :
    Text.isWordChar c = true ∧ Text.isBlank c = false ∧ c ≠ '*' ∧ c ≠ '&' := by
  have ascii : c.toNat < 0x80 := toNat_lt_of_isNameStart h
  revert h
  apply Text.forall_ascii _ ascii
  decide +kernel

end Pattern

namespace Outline.Generic

open Pattern

/-! ## Patterns with a keyword -/

/-- The words that may begin a function where a pattern asks for a keyword. -/
def openers : List String :=
  ["pub", "const", "async", "unsafe", "extern", "fn", "public", "private", "fileprivate",
    "internal", "open", "static", "override", "func", "protected", "suspend", "inline", "fun",
    "def", "export", "function", "final", "abstract", "virtual", "synchronized", "sealed",
    "unsigned", "signed"]

/-- An opener begins the line, after blanks. -/
def IsOpened (line : List Char) : Prop := ∃ w ∈ openers, w.toList <+: Text.trimStart line

/-- Whatever is matched begins with an opener. -/
def Opens (p : Pattern) : Prop := ∀ s t, p.Reaches s t → IsOpened s.rest

/-- Whatever is matched begins with an opener or is blank. -/
def MayOpen (p : Pattern) : Prop :=
  ∀ s t, p.Reaches s t → Text.trimStart s.rest = Text.trimStart t.rest ∨ IsOpened s.rest

variable {p q : Pattern} {words : List String}

lemma Opens.append (h : Opens p) : Opens (p ++ q) := by
  rintro s t ⟨m, first, -⟩
  exact h s m first

lemma Opens.alt (h : Opens p) (k : Opens q) : Opens (alt p q) :=
  fun s t way => way.elim (h s t) (k s t)

lemma Opens.option (h : Opens p) : MayOpen (option p) := by
  rintro s t (way | rfl)
  · exact .inr (h s t way)
  · exact .inl rfl

lemma Opens.star (h : Opens p) : MayOpen (star p) := by
  intro s t way
  rcases way.cases_head with rfl | ⟨m, step, -⟩
  · exact .inl rfl
  · exact .inr (h s m step.1)

lemma MayOpen.then (h : MayOpen p) (k : Opens q) : Opens (p ++ q) := by
  rintro s t ⟨m, first, last⟩
  rcases h s m first with same | opened
  · obtain ⟨w, mem, here⟩ := k m t last
    exact ⟨w, mem, same ▸ here⟩
  · exact opened

lemma MayOpen.append (h : MayOpen p) (k : MayOpen q) : MayOpen (p ++ q) := by
  rintro s t ⟨m, first, last⟩
  rcases h s m first with same | opened
  · rcases k m t last with next | ⟨w, mem, here⟩
    · exact .inl (same.trans next)
    · exact .inr ⟨w, mem, same ▸ here⟩
  · exact .inr opened

lemma mayOpen_blanks : MayOpen blanks := by
  intro s t way
  refine .inl ?_
  induction way with
  | refl => rfl
  | tail _ step ih =>
    obtain ⟨c, here, blank, -⟩ := of_reaches_one step.1
    rw [ih, here]
    exact List.dropWhile_cons_of_pos blank

lemma opens_text {w : String} (mem : w ∈ openers) : Opens (text w) := by
  have solid : ∀ w ∈ openers, Text.trimStart w.toList = w.toList ∧ w.toList.isEmpty = false := by
    decide +kernel
  obtain ⟨whole, some⟩ := solid w mem
  rw [Text.trimStart] at whole
  intro s t way
  refine ⟨w, mem, ?_⟩
  rw [of_reaches_text way, Text.trimStart, List.dropWhile_append, whole, some]
  exact List.prefix_append _ _

lemma opens_anyOf (h : ∀ w ∈ words, w ∈ openers) : Opens (anyOf words) := by
  induction words with
  | nil =>
    rintro s t ⟨c, cs, -, impossible, -⟩
    cases impossible
  | cons w words ih =>
    have first : Opens (text w) := opens_text (h w List.mem_cons_self)
    cases words with
    | nil => exact first
    | cons w' words => exact first.alt (ih fun w mem => h w (List.mem_cons_of_mem _ mem))

lemma mayOpen_modifiers (h : ∀ w ∈ words, w ∈ openers) : MayOpen (modifiers words) :=
  (opens_anyOf h).append.star

lemma opens_fnFunction : Opens fnFunction := by
  have mark {w : String} (mem : w ∈ openers) : MayOpen (option (text w ++ gap)) :=
    (opens_text mem).append.option
  exact ((((((mayOpen_blanks.append (opens_text (by decide)).append.append.option).append
    (mark (by decide))).append (mark (by decide))).append (mark (by decide))).append
    (opens_text (by decide)).append.append.append.append.append.option).then
    (opens_text (by decide))).append.append

lemma opens_funcFunction : Opens funcFunction :=
  ((mayOpen_blanks.append (mayOpen_modifiers (by decide))).then
    (opens_text (by decide))).append.append.append

lemma opens_funFunction : Opens funFunction :=
  ((mayOpen_blanks.append (mayOpen_modifiers (by decide))).then
    (opens_text (by decide))).append.append.append.append

lemma opens_defFunction : Opens defFunction :=
  (mayOpen_blanks.then (opens_text (by decide))).append.append.append

lemma opens_functionFunction : Opens functionFunction :=
  ((mayOpen_blanks.append (mayOpen_modifiers (by decide))).then
    (opens_text (by decide))).append.append.append.append

lemma opens_modifiedMethod : Opens modifiedMethod :=
  (mayOpen_blanks.then (opens_anyOf (by decide)).append.append).append.append.append.append.append

/-! ## The pattern without a keyword -/

def isTypeChar (c : Char) : Bool := Text.isWordChar c || ":<>".toList.contains c

def isGapChar (c : Char) : Bool := Text.isBlank c || c == '*' || c == '&'

def isPlaceChar (c : Char) : Bool := Text.isWordChar c || c == ':'

/-- A character of one kind, and others of another kind. -/
def IsRun (first other : Char → Bool) : List Char → Prop
  | [] => False
  | c :: cs => first c = true ∧ ∀ d ∈ cs, other d = true

/-- The header of a function as it is written where no keyword marks it: a type, a gap, a name, and
a bracket after which the line has no semicolon. -/
structure Header where
  type : List Char
  gap : List Char
  name : List Char
  space : List Char
  inside : List Char
  isType : IsRun isNameStart isTypeChar type
  isGap : IsRun isGapChar isGapChar gap
  isName : IsRun isNameStart isPlaceChar name
  isSpace : ∀ c ∈ space, Text.isBlank c = true
  isOpen : ';' ∉ inside

def Header.text (h : Header) : List Char :=
  h.type ++ (h.gap ++ (h.name ++ (h.space ++ '(' :: h.inside)))

variable {s t : Spot} {line : List Char}

lemma modifiers_of_not_isOpened (mem : ∀ w ∈ words, w ∈ openers)
    (h : (modifiers words).Reaches s t) (plain : ¬ IsOpened s.rest) : t = s := by
  rcases h.cases_head with rfl | ⟨m, step, -⟩
  · rfl
  · exact absurd ((opens_anyOf mem).append s m step.1) plain

lemma of_reaches_run {first other : Char → Bool}
    (h : (one first ++ star (one other)).Reaches s t) :
    ∃ cs, s.rest = cs ++ t.rest ∧ IsRun first other cs ∧ t = s.after cs := by
  obtain ⟨m, start, more⟩ := h
  obtain ⟨c, here, isFirst, rfl⟩ := of_reaches_one start
  obtain ⟨cs, next, areOther, rfl⟩ := of_reaches_star_one more
  exact ⟨c :: cs, by rw [here, next, List.cons_append], ⟨isFirst, areOther⟩, Spot.after_after ..⟩

lemma reaches_run {first other : Char → Bool} {cs rest : List Char} (here : s.rest = cs ++ rest)
    (h : IsRun first other cs) : (one first ++ star (one other)).Reaches s (s.after cs) := by
  cases cs with
  | nil => exact h.elim
  | cons c cs =>
    have next : (s.after [c]).rest = cs ++ rest := Spot.rest_after here
    have more := reaches_star_one next h.2
    rw [Spot.after_after] at more
    exact ⟨s.after [c], reaches_one here h.1, more⟩

/-- A group of a run is marked with what the run takes. -/
lemma of_reaches_group {first other : Char → Bool} {number : Nat}
    (h : (group number (one first ++ star (one other))).Reaches s t) :
    ∃ cs, s.rest = cs ++ t.rest ∧ IsRun first other cs ∧ t = (s.after cs).marked number cs := by
  obtain ⟨m, run, rfl⟩ := h
  obtain ⟨cs, here, isRun, rfl⟩ := of_reaches_run run
  have size : (s.after cs).offset - s.offset = cs.length := Nat.add_sub_cancel_left ..
  refine ⟨cs, here, isRun, ?_⟩
  rw [size, here, List.take_left]

lemma reaches_group {first other : Char → Bool} {number : Nat} {cs rest : List Char}
    (here : s.rest = cs ++ rest) (h : IsRun first other cs) :
    (group number (one first ++ star (one other))).Reaches s ((s.after cs).marked number cs) := by
  have size : (s.after cs).offset - s.offset = cs.length := Nat.add_sub_cancel_left ..
  refine ⟨s.after cs, reaches_run here h, ?_⟩
  rw [size, here, List.take_left]

lemma Header.trimStart_text (h : Header) : Text.trimStart h.text = h.text := by
  unfold Header.text
  cases type : h.type with
  | nil => exact (type ▸ h.isType).elim
  | cons c cs =>
    have first : isNameStart c = true := (type ▸ h.isType).1
    exact List.dropWhile_cons_of_neg (by simp [(isNameStart_spec first).2.1])

/-- What the pattern finds on a line is the name in a header. -/
lemma exists_header (plain : ¬ IsOpened line) (h : typedFunction.Reaches (.start line) t) :
    ∃ header : Header, Text.trimStart line = header.text ∧ t.group? 1 = some header.name := by
  obtain ⟨s₈, ⟨s₇, ⟨s₆, ⟨s₅, ⟨s₄, ⟨s₃, ⟨s₂, ⟨s₁, ⟨s₀, hblank, hmodifiers⟩, hfirst⟩, htype⟩, hgap⟩,
    hname⟩, hspace⟩, hbracket⟩, hinside⟩, hend, ending⟩ := h
  obtain ⟨blank, here, isBlank, -⟩ := of_reaches_star_one hblank
  have start : Text.trimStart line = Text.trimStart s₀.rest := by
    rw [show line = blank ++ s₀.rest from here, Text.trimStart_append isBlank]
  rw [IsOpened, start] at plain
  obtain rfl : s₁ = s₀ := modifiers_of_not_isOpened (by decide) hmodifiers plain
  obtain ⟨type, here₁, isType, -⟩ := of_reaches_run ⟨s₂, hfirst, htype⟩
  obtain ⟨gap, here₃, isGap, -⟩ := of_reaches_run hgap
  obtain ⟨name, here₄, isName, marked⟩ := of_reaches_group hname
  obtain ⟨space, here₅, isSpace, spaced⟩ := of_reaches_star_one hspace
  obtain ⟨c, here₆, bracket, opened⟩ := of_reaches_one hbracket
  obtain ⟨inside, here₇, isOpen, passed⟩ := of_reaches_star_one hinside
  obtain rfl : c = '(' := beq_iff_eq.1 bracket
  let header : Header := ⟨type, gap, name, space, inside, isType, isGap, isName, isSpace,
    fun mem => by simpa [noneOf] using isOpen _ mem⟩
  refine ⟨header, ?_, ?_⟩
  · have text : s₁.rest = header.text := by
      rw [here₁, here₃, here₄, here₅, here₆, here₇, hend, List.append_nil]
      rfl
    rw [start, text, header.trimStart_text]
  · rw [ending, passed, opened, spaced, marked]
    rfl

/-- On a line that reads as a header the pattern finds something. -/
lemma reaches_header (header : Header) (h : Text.trimStart line = header.text) :
    ∃ t, typedFunction.Reaches (.start line) t := by
  let blank := line.takeWhile Text.isBlank
  have here : (Spot.start line).rest = blank ++ header.text := by
    rw [← h]
    exact List.takeWhile_append_dropWhile.symm
  have here₁ := Spot.rest_after here
  have here₃ := Spot.rest_after here₁
  have here₄ := Spot.rest_after here₃
  have here₅ := Spot.rest_after here₄
  have here₆ := Spot.rest_after here₅
  let s₁ := (Spot.start line).after blank
  let s₄ := (s₁.after header.type).after header.gap
  let s₅ := (s₄.after header.name).marked 1 header.name
  let s₇ := (s₅.after header.space).after ['(']
  have here₇ : s₇.rest = header.inside ++ [] := by
    rw [List.append_nil]
    exact Spot.rest_after (show (s₅.after header.space).rest = ['('] ++ header.inside from here₆)
  obtain ⟨s₂, hfirst, htype⟩ := reaches_run here₁ header.isType
  have hgap : (plus (one isGapChar)).Reaches _ s₄ := reaches_run here₃ header.isGap
  have hname : (group 1 _).Reaches s₄ s₅ := reaches_group here₄ header.isName
  have hspace : blanks.Reaches s₅ _ := reaches_star_one here₅ header.isSpace
  have hbracket : (char '(').Reaches _ s₇ := reaches_one here₆ rfl
  have hinside : (star (noneOf ";")).Reaches s₇ _ := reaches_star_one here₇ fun c mem => by
    have : c ≠ ';' := fun same => header.isOpen (same ▸ mem)
    simpa [noneOf] using this
  have hend : (s₇.after header.inside).rest = [] := Spot.rest_after here₇
  have hblank : blanks.Reaches (Spot.start line) s₁ :=
    reaches_star_one here fun c mem => List.mem_takeWhile_imp mem
  exact ⟨_, _, ⟨_, ⟨_, ⟨_, ⟨_, ⟨_, ⟨_, ⟨s₁, ⟨s₁, hblank, .refl⟩, hfirst⟩, htype⟩, hgap⟩, hname⟩,
    hspace⟩, hbracket⟩, hinside⟩, hend, rfl⟩

/-! ## The name in a header -/

/-- A text has one longest beginning of characters of a kind. -/
lemma append_inj_of_head {kind : Char → Bool} {u v u' v' : List Char} (h : u ++ v = u' ++ v')
    (all : ∀ c ∈ u, kind c = true) (all' : ∀ c ∈ u', kind c = true)
    (stop : ∀ c ∈ v.head?, kind c = false) (stop' : ∀ c ∈ v'.head?, kind c = false) :
    u = u' ∧ v = v' := by
  have longest {u v : List Char} (all : ∀ c ∈ u, kind c = true)
      (stop : ∀ c ∈ v.head?, kind c = false) : (u ++ v).takeWhile kind = u := by
    rw [List.takeWhile_append_of_pos all]
    cases v with
    | nil => exact List.append_nil u
    | cons c v => rw [List.takeWhile_cons_of_neg (by simp [stop c rfl]), List.append_nil]
  have same : u = u' := by rw [← longest all stop, h, longest all' stop']
  subst same
  exact ⟨rfl, List.append_cancel_left h⟩

lemma IsRun.forall {first other : Char → Bool} {cs : List Char} (h : IsRun first other cs)
    (sub : ∀ c, first c = true → other c = true) : ∀ c ∈ cs, other c = true := by
  cases cs with
  | nil => exact h.elim
  | cons c cs =>
    intro d mem
    rcases List.mem_cons.1 mem with rfl | mem
    · exact sub d h.1
    · exact h.2 d mem

lemma IsRun.head {first other : Char → Bool} {cs rest : List Char} (h : IsRun first other cs) :
    ∀ c ∈ (cs ++ rest).head?, first c = true := by
  cases cs with
  | nil => exact h.elim
  | cons c cs =>
    rintro d ⟨⟩
    exact h.1

lemma isTypeChar_of_isGapChar {c : Char} (h : isGapChar c = true) : isTypeChar c = false := by
  simp only [isGapChar, Bool.or_eq_true, beq_iff_eq] at h
  rcases h with (blank | rfl) | rfl
  · have unlike : c ∉ ":<>".toList := fun mem => by
      have solid : ":<>".toList.all (!Text.isBlank ·) = true := by decide +kernel
      have : (!Text.isBlank c) = true := List.all_eq_true.1 solid c mem
      rw [blank] at this
      cases this
    simpa [isTypeChar, Text.isWordChar_of_isBlank blank] using unlike
  · decide +kernel
  · decide +kernel

lemma isGapChar_of_isNameStart {c : Char} (h : isNameStart c = true) : isGapChar c = false := by
  obtain ⟨-, solid, noStar, noAnd⟩ := isNameStart_spec h
  simp [isGapChar, solid, noStar, noAnd]

lemma isPlaceChar_of_head {space rest : List Char} (h : ∀ c ∈ space, Text.isBlank c = true) :
    ∀ c ∈ (space ++ '(' :: rest).head?, isPlaceChar c = false := by
  cases space with
  | nil =>
    rintro c ⟨⟩
    decide +kernel
  | cons c space =>
    rintro d ⟨⟩
    have blank := h c List.mem_cons_self
    have colon : c ≠ ':' := by
      rintro rfl
      exact absurd blank (by decide +kernel)
    simp [isPlaceChar, Text.isWordChar_of_isBlank blank, colon]

/-- A line reads as a header in one way. -/
lemma Header.name_eq {header other : Header} (h : header.text = other.text) :
    header.name = other.name := by
  have types (h : Header) : ∀ c ∈ h.type, isTypeChar c = true :=
    h.isType.forall fun c start => by simp [isTypeChar, (isNameStart_spec start).1]
  have gaps (h : Header) : ∀ c ∈ h.gap, isGapChar c = true := h.isGap.forall fun _ => id
  have names (h : Header) : ∀ c ∈ h.name, isPlaceChar c = true :=
    h.isName.forall fun c start => by simp [isPlaceChar, (isNameStart_spec start).1]
  have afterType (h : Header) (rest : List Char) :
      ∀ c ∈ (h.gap ++ rest).head?, isTypeChar c = false :=
    fun c mem => isTypeChar_of_isGapChar (h.isGap.head c mem)
  have afterGap (h : Header) (rest : List Char) :
      ∀ c ∈ (h.name ++ rest).head?, isGapChar c = false :=
    fun c mem => isGapChar_of_isNameStart (h.isName.head c mem)
  have rest := (append_inj_of_head h (types _) (types _) (afterType _ _) (afterType _ _)).2
  have rest := (append_inj_of_head rest (gaps _) (gaps _) (afterGap _ _) (afterGap _ _)).2
  exact (append_inj_of_head rest (names _) (names _) (isPlaceChar_of_head header.isSpace)
    (isPlaceChar_of_head other.isSpace)).1

/-! ## Lines -/

lemma matchStart?_of_opens (h : Opens p) (plain : ¬ IsOpened line) : p.matchStart? line = none :=
  matchStart?_eq_none fun t way => plain (h _ t way)

/-- Where no opener begins a line, a function is found just where the line reads as a header whose
name is no control keyword. -/
lemma functionName?_eq_some_iff {name : String} (plain : ¬ IsOpened line) :
    functionName? line = some name ↔
      ∃ header : Header, Text.trimStart line = header.text ∧ name = String.ofList header.name ∧
        name ∉ controlKeywords := by
  have only : (functionPatterns.findSome? fun p => (p.matchStart? line).bind (·.group? 1)) =
      (typedFunction.matchStart? line).bind (·.group? 1) := by
    simp only [functionPatterns, List.findSome?_cons, List.findSome?_nil,
      matchStart?_of_opens opens_fnFunction plain, matchStart?_of_opens opens_funcFunction plain,
      matchStart?_of_opens opens_funFunction plain, matchStart?_of_opens opens_defFunction plain,
      matchStart?_of_opens opens_functionFunction plain,
      matchStart?_of_opens opens_modifiedMethod plain, Option.bind_none]
    cases (typedFunction.matchStart? line).bind (·.group? 1) <;> rfl
  unfold functionName?
  rw [only]
  cases found : typedFunction.matchStart? line with
  | none =>
    refine iff_of_false (fun h => by cases h) ?_
    rintro ⟨header, reads, -⟩
    obtain ⟨t, way⟩ := reaches_header header reads
    have := isSome_matchStart? way
    rw [found] at this
    cases this
  | some t =>
    obtain ⟨header, reads, marked⟩ := exists_header plain (reaches_of_matchStart? found)
    have others {other : Header} (h : Text.trimStart line = other.text) :
        other.name = header.name := Header.name_eq (h.symm.trans reads)
    rw [Option.bind_some, marked]
    dsimp only
    by_cases keyword : String.ofList header.name ∈ controlKeywords
    · rw [if_pos (List.contains_iff_mem.2 keyword)]
      refine iff_of_false (fun h => by cases h) ?_
      rintro ⟨other, same, rfl, free⟩
      exact free (others same ▸ keyword)
    · rw [if_neg (mt List.contains_iff_mem.1 keyword), Option.some.injEq]
      constructor
      · rintro rfl
        exact ⟨header, reads, rfl, keyword⟩
      · rintro ⟨other, same, rfl, -⟩
        rw [others same]

/-- The word with which a line begins, after blanks. -/
def firstWord (line : List Char) : String :=
  String.ofList ((Text.trimStart line).takeWhile Text.isWordChar)

/-- No control keyword begins with an opener. -/
lemma not_isOpened (control : firstWord line ∈ controlKeywords) : ¬ IsOpened line := by
  have apart : ∀ w ∈ openers, w.toList.all Text.isWordChar = true ∧
      ∀ k ∈ controlKeywords, ¬ w.toList <+: k.toList := by
    decide +kernel
  rintro ⟨w, mem, rest, here⟩
  obtain ⟨letters, unlike⟩ := apart w mem
  apply unlike _ control
  rw [firstWord, String.toList_ofList, ← here,
    List.takeWhile_append_of_pos (List.all_eq_true.1 letters)]
  exact List.prefix_append _ _

lemma symbols_ofLines (number : Nat) (rest : List (List Char)) (found : Outline) :
    (ofLines number rest found).symbols = found.symbols ++
      (rest.zipIdx number).filterMap fun (line, n) =>
        (functionName? line).map fun name => lineSymbol name n line := by
  induction rest generalizing number found with
  | nil => exact (List.append_nil _).symm
  | cons line rest ih =>
    rw [ofLines, ih, List.zipIdx_cons, List.filterMap_cons]
    dsimp only
    cases functionName? line with
    | none => rfl
    | some name => exact List.append_assoc ..

/-- A symbol stands on a line just where a function is found on it. -/
lemma exists_symbol_iff {source : List Char} {number : Nat}
    (there : (Text.lines source)[number]? = some line) :
    (∃ s ∈ (outline source).symbols, s.startLine = number + 1) ↔
      ∃ name, functionName? line = some name := by
  have symbols : (outline source).symbols = _ := symbols_ofLines 1 (Text.lines source) .empty
  have inside : (line, number + 1) ∈ (Text.lines source).zipIdx 1 :=
    List.mem_zipIdx_iff_le_and_getElem?_sub.2 ⟨Nat.le_add_left 1 number, there⟩
  rw [symbols]
  simp only [Outline.empty, List.nil_append, List.mem_filterMap, Option.map_eq_some_iff]
  constructor
  · rintro ⟨s, ⟨⟨other, n⟩, mem, name, found, rfl⟩, start⟩
    obtain rfl : n = number + 1 := start
    have same := (List.mem_zipIdx_iff_le_and_getElem?_sub.1 mem).2
    obtain rfl : line = other := Option.some.inj (there.symm.trans same)
    exact ⟨name, found⟩
  · rintro ⟨name, found⟩
    exact ⟨_, ⟨(line, number + 1), inside, name, found, rfl⟩, rfl⟩

/-- On a line that begins with a control keyword no symbol is found, but for the name in a header
that the line reads as, if that name is no control keyword itself. -/
theorem control_line_iff (parse : Script.Parser) (language : Language) (path source : String)
    (generic : Strategy.ofLanguage language = .generic) {number : Nat} {line : List Char}
    (there : (Text.lines source.toList)[number]? = some line)
    (control : firstWord line ∈ controlKeywords) :
    (∀ s ∈ (ofSource parse language path source).symbols, s.startLine ≠ number + 1) ↔
      ∀ header : Header, Text.trimStart line = header.text →
        String.ofList header.name ∈ controlKeywords := by
  have read : ofSource parse language path source = outline source.toList := by
    rw [ofSource, generic]
  have plain : ¬ IsOpened line := not_isOpened control
  have symbols := exists_symbol_iff there
  simp only [functionName?_eq_some_iff plain] at symbols
  rw [read, ← not_iff_not]
  push Not
  rw [symbols]
  constructor
  · rintro ⟨name, header, reads, rfl, free⟩
    exact ⟨header, reads, free⟩
  · rintro ⟨header, reads, free⟩
    exact ⟨_, header, reads, rfl, free⟩

/-- A statement that ends in a semicolon. -/
theorem control_line_semicolon :
    let source := "int f(int x) \x7b\n    return twice(x);\n\x7d\n"
    let line := "    return twice(x);".toList
    Strategy.ofLanguage .c = .generic ∧ (Text.lines source.toList)[1]? = some line ∧
      firstWord line ∈ controlKeywords ∧
      (∀ header : Header, Text.trimStart line = header.text →
        String.ofList header.name ∈ controlKeywords) ∧
      ∀ s ∈ (ofSource (fun _ _ => none) .c "a.c" source).symbols, s.startLine ≠ 2 := by
  intro source line
  have there : (Text.lines source.toList)[1]? = some line := by decide +kernel
  have control : firstWord line ∈ controlKeywords := by decide +kernel
  have silent :
      ∀ s ∈ (ofSource (fun _ _ => none) .c "a.c" source).symbols, s.startLine ≠ 1 + 1 := by
    decide +kernel
  have reads := (control_line_iff (fun _ _ => none) .c "a.c" source rfl there control).1 silent
  exact ⟨rfl, there, control, reads, silent⟩

/-- Where statements end without semicolons, what a line returns is taken for a function. -/
theorem return_line_named :
    let source := "fun f(x: Int): Int \x7b\n    return twice(x)\n\x7d\n"
    firstWord ((Text.lines source.toList)[1]?.getD []) ∈ controlKeywords ∧
      (ofSource (fun _ _ => none) .kotlin "a.kt" source).symbols.map (fun s => (s.name, s.startLine)) =
        [("f", 1), ("twice", 2)] := by
  decide +kernel

end Outline.Generic

end CodeAtlas
