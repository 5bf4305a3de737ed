import CodeAtlas.Outline.Indented
import CodeAtlas.Proofs.Pieces
import CodeAtlas.Proofs.Splitting

/-! # The grammar of import statements

Import statements of one line as they may be written, and what is read from one of their modules.
What a module is called is looked for behind an `as` with a space on both sides. -/
namespace CodeAtlas.Outline.Indented

/-! ## The grammar of import statements -/

/-- Whether a character may stand in an identifier. Beyond ASCII every character may that is not
blank. -/
def isIdentifierChar (c : Char) : Bool :=
  if c.toNat < 0x80 then c.isAlphanum || c == '_' else !Text.isBlank c

structure IsIdentifier (word : List Char) : Prop where
  nonempty : word ≠ []
  letters : ∀ c ∈ word, isIdentifierChar c = true
  unreserved : word ∉ ["as".toList, "from".toList, "import".toList]

instance (word : List Char) : Decidable (IsIdentifier word) :=
  decidable_of_iff
    (word ≠ [] ∧ word.all isIdentifierChar = true ∧
      word ∉ ["as".toList, "from".toList, "import".toList])
    ⟨fun h => ⟨h.1, List.all_eq_true.1 h.2.1, h.2.2⟩,
      fun h => ⟨h.nonempty, List.all_eq_true.2 h.letters, h.unreserved⟩⟩

/-- Identifiers with dots between them. -/
def IsDotted (module : List Char) : Prop :=
  ∃ words, words ≠ [] ∧ (∀ w ∈ words, IsIdentifier w) ∧ module = Text.join ['.'] words

/-- Dots, identifiers with dots between them, or both. -/
def IsRelative (module : List Char) : Prop :=
  ∃ dots rest, module = dots ++ rest ∧ (∀ c ∈ dots, c = '.') ∧
    (IsDotted rest ∨ rest = [] ∧ dots ≠ [])

def AreBlank (cs : List Char) : Prop := ∀ c ∈ cs, Text.isBlank c = true

instance (cs : List Char) : Decidable (AreBlank cs) :=
  decidable_of_iff (cs.all Text.isBlank = true) List.all_eq_true

/-- The word `as` and a name, as they stand behind a module. -/
structure Rename where
  before : List Char
  behind : List Char
  name : List Char
  isBefore : AreBlank before ∧ before ≠ []
  isBehind : AreBlank behind ∧ behind ≠ []
  isName : IsIdentifier name

def Rename.text (r : Rename) : List Char := r.before ++ ("as".toList ++ (r.behind ++ r.name))

/-- One module of an import statement, as it stands between two commas. -/
structure Item where
  before : List Char
  module : List Char
  rename? : Option Rename
  behind : List Char
  isBefore : AreBlank before
  isModule : IsDotted module
  isBehind : AreBlank behind

def Item.text (i : Item) : List Char :=
  i.before ++ (i.module ++ (i.rename?.elim [] Rename.text ++ i.behind))

/-- An import statement: of modules, or of names from a module. What names are imported makes no
difference here. A blank may be missing only where a dot keeps the words apart. -/
inductive Statement where
  | modules (first : Item) (others : List Item) (isSpaced : first.before ≠ [])
  | names (before module behind rest : List Char) (isModule : IsRelative module)
      (isBefore : AreBlank before ∧ (before ≠ [] ∨ module.head? = some '.'))
      (isBehind : AreBlank behind ∧ (behind ≠ [] ∨ module.getLast? = some '.'))

def Statement.text : Statement → List Char
  | modules first others _ =>
      "import".toList ++ Text.join [','] ((first :: others).map Item.text)
  | names before module behind rest _ _ _ =>
      "from".toList ++ (before ++ (module ++ (behind ++ ("import".toList ++ rest))))

/-- The modules that a statement imports, or imports from. -/
def Statement.imported : Statement → List (List Char)
  | modules first others _ => (first :: others).map Item.module
  | names _ module _ _ _ _ _ => [module]

/-- A line with an import statement: its indentation, the statement, and maybe a comment. -/
structure ImportLine where
  indent : List Char
  statement : Statement
  comment? : Option (List Char)
  isIndent : AreBlank indent

def ImportLine.text (l : ImportLine) : List Char :=
  l.indent ++ (l.statement.text ++ l.comment?.elim [] ('#' :: ·))

/-! ## Words -/

lemma isIdentifierChar_spec {c : Char} (h : isIdentifierChar c = true) :
    Text.isBlank c = false ∧ c ∉ [',', '#', '.'] := by
  by_cases ascii : c.toNat < 0x80
  · revert h
    apply Text.forall_ascii _ ascii
    decide +kernel
  · rw [isIdentifierChar, if_neg ascii, Bool.not_eq_true'] at h
    refine ⟨h, fun mem => ascii ?_⟩
    have marks : [',', '#', '.'].all (·.toNat < 0x80) = true := by decide
    exact of_decide_eq_true (List.all_eq_true.1 marks c mem)

/-- A character that may stand in the name of a module. -/
def IsSolid (c : Char) : Prop := Text.isBlank c = false ∧ c ≠ ',' ∧ c ≠ '#'

lemma isSolid_dot : IsSolid '.' := by
  unfold IsSolid
  decide +kernel

lemma IsIdentifier.isSolid {word : List Char} (h : IsIdentifier word) : ∀ c ∈ word, IsSolid c := by
  intro c mem
  obtain ⟨solid, marks⟩ := isIdentifierChar_spec (h.letters c mem)
  simp only [List.mem_cons, not_or] at marks
  exact ⟨solid, marks.1, marks.2.1⟩

lemma join_cons {glue piece : List Char} {pieces : List (List Char)} (some : pieces ≠ []) :
    Text.join glue (piece :: pieces) = piece ++ glue ++ Text.join glue pieces := by
  cases pieces with
  | nil => exact absurd rfl some
  | cons next rest => rfl

namespace IsDotted

variable {module : List Char}

lemma isSolid (h : IsDotted module) : ∀ c ∈ module, IsSolid c := by
  obtain ⟨words, -, identifiers, rfl⟩ := h
  intro c mem
  rcases Text.mem_join mem with dot | ⟨word, there, mem⟩
  · exact List.mem_singleton.1 dot ▸ isSolid_dot
  · exact (identifiers word there).isSolid c mem

lemma ne_nil (h : IsDotted module) : module ≠ [] := by
  obtain ⟨words, some, identifiers, rfl⟩ := h
  obtain ⟨word, words, rfl⟩ := List.exists_cons_of_ne_nil some
  have first := (identifiers word List.mem_cons_self).nonempty
  cases words with
  | nil => exact first
  | cons next rest => simp [Text.join, first]

lemma ne_as (h : IsDotted module) : module ≠ "as".toList := by
  obtain ⟨words, some, identifiers, rfl⟩ := h
  obtain ⟨word, words, rfl⟩ := List.exists_cons_of_ne_nil some
  have first := (identifiers word List.mem_cons_self).unreserved
  cases words with
  | nil =>
    intro same
    exact first (by rw [show word = "as".toList from same]; exact List.mem_cons_self)
  | cons next rest =>
    intro same
    have dot : '.' ∈ Text.join ['.'] (word :: next :: rest) := by simp [Text.join]
    rw [same] at dot
    revert dot
    decide

end IsDotted

lemma IsRelative.isSolid {module : List Char} (h : IsRelative module) :
    ∀ c ∈ module, IsSolid c := by
  obtain ⟨dots, rest, rfl, isDots, isRest⟩ := h
  intro c mem
  rcases List.mem_append.1 mem with mem | mem
  · exact isDots c mem ▸ isSolid_dot
  · rcases isRest with isRest | ⟨rfl, -⟩
    · exact isRest.isSolid c mem
    · cases mem

lemma IsRelative.ne_nil {module : List Char} (h : IsRelative module) : module ≠ [] := by
  obtain ⟨dots, rest, rfl, -, isRest⟩ := h
  rcases isRest with isRest | ⟨-, some⟩
  · exact fun none => isRest.ne_nil (List.append_eq_nil_iff.1 none).2
  · exact fun none => some (List.append_eq_nil_iff.1 none).1

/-! ## Pieces between commas -/

/-- The keyword of a renaming, as it is looked for. -/
def asWord : List Char := [' ', 'a', 's', ' ']

/-- The module that is read from a piece: what stands before the keyword, or all of it. -/
def moduleOf (piece : List Char) : List Char :=
  match Text.splitFirst? asWord piece with
  | some (module, _) => Text.trim module
  | none => Text.trim piece

variable {u v w : List Char} {c : Char} (item : Item)

/-- The keyword of a renaming has a space on both sides. -/
def Rename.IsSpaced (r : Rename) : Prop :=
  r.before.getLast? = some ' ' ∧ r.behind.head? = some ' '

instance (r : Rename) : Decidable r.IsSpaced :=
  inferInstanceAs (Decidable (r.before.getLast? = some ' ' ∧ r.behind.head? = some ' '))

/-- What is read begins with all that no ` as ` begins in. -/
lemma moduleOf_append (h : Text.Skips asWord u v) :
    ∃ x, moduleOf (u ++ v) = Text.trim (u ++ x) := by
  unfold moduleOf
  rw [Text.splitFirst?_append h]
  cases Text.splitFirst? asWord v with
  | none => exact ⟨v, rfl⟩
  | some parts => exact ⟨parts.1, rfl⟩

/-- A module is not the word `as`. -/
lemma Item.not_as_prefix (h : ∀ c ∈ w.head?, Text.isBlank c = true ∨ c = '#') :
    ¬ ['a', 's', ' '] <+: item.module ++ w := by
  have solid := item.isModule.isSolid
  have blank : ¬ IsSolid ' ' := fun h => absurd h.1 (by decide)
  have letter {c : Char} (mem : c ∈ w.head?) (word : c ∈ "as".toList) : False := by
    have plain : "as".toList.all (fun c => !Text.isBlank c && c != '#') = true := by decide
    have plain := List.all_eq_true.1 plain c word
    rcases h c mem with isBlank | rfl
    · rw [isBlank] at plain
      cases plain
    · revert plain
      decide
  rintro ⟨rest, text⟩
  rcases module : item.module with _ | ⟨x, _ | ⟨y, _ | ⟨z, cs⟩⟩⟩
  · exact item.isModule.ne_nil module
  · rw [module] at text
    cases w <;> simp at text
    exact letter rfl (by simp [← text.2.1])
  · rw [module] at text
    simp at text
    exact item.isModule.ne_as (by rw [module, ← text.1, ← text.2.1]; rfl)
  · rw [module] at text
    simp at text
    exact blank (solid ' ' (by rw [module, text.2.2.1]; simp))

/-- Nothing begins in a module, nor in the blanks before it. -/
lemma Item.skips_module (h : ∀ c ∈ w.head?, Text.isBlank c = true ∨ c = '#') :
    Text.Skips asWord (item.before ++ item.module) w := by
  refine Text.Skips.append (Text.Skips.of_blanks item.isBefore (by decide) ?_) ?_
  · exact fun _ => item.not_as_prefix h
  · refine Text.Skips.of_not_mem fun mem => ?_
    have := (item.isModule.isSolid _ mem).1
    revert this
    decide

lemma head_append (blank : AreBlank u) (h : ∀ c ∈ w.head?, Text.isBlank c = true ∨ c = '#') :
    ∀ c ∈ (u ++ w).head?, Text.isBlank c = true ∨ c = '#' := by
  cases u with
  | nil => exact h
  | cons b u =>
    rintro c ⟨⟩
    exact .inl (blank b List.mem_cons_self)

lemma Item.skips_text (plain : item.rename? = none) (h : ∀ c ∈ w.head?, c = '#') :
    Text.Skips asWord item.text w := by
  have text : item.text = item.before ++ item.module ++ item.behind := by
    rw [Item.text, plain, List.append_assoc]
    rfl
  have next : ∀ c ∈ (item.behind ++ w).head?, Text.isBlank c = true ∨ c = '#' :=
    head_append item.isBehind fun c mem => .inr (h c mem)
  rw [text]
  refine (item.skips_module next).append (Text.Skips.of_blanks item.isBehind (by decide) ?_)
  rintro - ⟨rest, start⟩
  rw [← start] at h
  exact absurd (h 'a' rfl) (by decide)

/-- Without a renaming and without a comment, what is read is the module. -/
lemma Item.moduleOf_text (plain : item.rename? = none) : moduleOf item.text = item.module := by
  have skips : Text.Skips asWord item.text [] :=
    item.skips_text plain fun _ mem => by cases mem
  have none : Text.splitFirst? asWord item.text = none := by
    rw [← List.append_nil item.text, Text.splitFirst?_append skips]
    rfl
  rw [moduleOf, none]
  dsimp only
  rw [Item.text, plain]
  exact Text.trim_word item.isBefore (fun c mem => (item.isModule.isSolid c mem).1) item.isBehind

/-- Without a renaming, a comment is read with the module. -/
lemma Item.mem_moduleOf_comment (plain : item.rename? = none) (comment : List Char) :
    '#' ∈ moduleOf (item.text ++ '#' :: comment) := by
  have skips : Text.Skips asWord (item.text ++ ['#']) comment :=
    (item.skips_text plain fun c mem => by simpa using mem.symm).append
      (Text.Skips.of_not_mem (by decide))
  obtain ⟨x, read⟩ := moduleOf_append skips
  rw [← List.append_cons] at read
  rw [read]
  exact Text.mem_trim (by simp) (by decide)

/-- With spaces around `as`, what is read is the module, whatever stands behind. -/
lemma Item.moduleOf_spaced {r : Rename} (renamed : item.rename? = some r) (spaced : r.IsSpaced)
    (w : List Char) : moduleOf (item.text ++ w) = item.module := by
  obtain ⟨last, head⟩ := spaced
  obtain ⟨start, before⟩ := List.getLast?_eq_some_iff.1 last
  obtain ⟨rest, behind⟩ := List.head?_eq_some_iff.1 head
  have blank : AreBlank start := fun c mem => r.isBefore.1 c (by simp [before, mem])
  have text : item.text ++ w = item.before ++ item.module ++ start ++
      (asWord ++ (rest ++ (r.name ++ (item.behind ++ w)))) := by
    rw [Item.text, renamed, Option.elim_some, Rename.text, before, behind]
    simp [asWord]
  have skips : Text.Skips asWord (item.before ++ item.module ++ start)
      (asWord ++ (rest ++ (r.name ++ (item.behind ++ w)))) := by
    refine (item.skips_module ?_).append (Text.Skips.of_blanks blank (by decide) ?_)
    · refine head_append blank ?_
      rintro c ⟨⟩
      exact .inl (by decide)
    · rintro - start
      obtain ⟨impossible, -⟩ := List.cons_prefix_cons.1 start
      cases impossible
  rw [moduleOf, text, Text.splitFirst?_append skips, Text.splitFirst?_self]
  dsimp only [Option.map_some]
  rw [List.append_nil, List.append_assoc]
  exact Text.trim_word item.isBefore (fun c mem => (item.isModule.isSolid c mem).1) blank

/-- Without a space on both sides of `as`, what is read has the blanks before it inside. -/
lemma Item.blank_mem_moduleOf {r : Rename} (renamed : item.rename? = some r)
    (tight : ¬ r.IsSpaced) (w : List Char) :
    ∃ c ∈ moduleOf (item.text ++ w), Text.isBlank c = true := by
  obtain ⟨b, blanks, before⟩ := List.exists_cons_of_ne_nil r.isBefore.2
  obtain ⟨b', blanks', behind⟩ := List.exists_cons_of_ne_nil r.isBehind.2
  have isBlank : Text.isBlank b = true := r.isBefore.1 b (by simp [before])
  let rest := 's' :: (r.behind ++ (r.name ++ (item.behind ++ w)))
  have text : item.text ++ w = item.before ++ item.module ++ r.before ++ ['a'] ++ rest := by
    rw [Item.text, renamed, Option.elim_some, Rename.text]
    simp [rest]
  have skips : Text.Skips asWord (item.before ++ item.module ++ r.before ++ ['a']) rest := by
    refine ((item.skips_module ?_).append (Text.Skips.of_blanks r.isBefore.1 (by decide) ?_)).append
      (Text.Skips.of_not_mem (by decide))
    · rw [before]
      rintro c ⟨⟩
      exact .inl isBlank
    · rintro last ⟨more, start⟩
      obtain rfl : ' ' = b' := by
        simp only [rest, behind, List.cons_append, List.nil_append, List.cons.injEq] at start
        exact start.2.2.1
      exact tight ⟨last, by rw [behind]; rfl⟩
  obtain ⟨x, read⟩ := moduleOf_append skips
  have split : item.before ++ item.module ++ r.before ++ ['a'] ++ x =
      (item.before ++ item.module) ++ b :: (blanks ++ 'a' :: x) := by
    rw [before]
    simp
  obtain ⟨c, cs, module⟩ := List.exists_cons_of_ne_nil item.isModule.ne_nil
  have first : c ∈ item.before ++ item.module := by simp [module]
  have solid : IsSolid c := item.isModule.isSolid c (by simp [module])
  have last : 'a' ∈ blanks ++ 'a' :: x := by simp
  rw [text, read, split]
  exact ⟨b, Text.mem_trim_between first solid.1 last (by decide), isBlank⟩

end CodeAtlas.Outline.Indented
