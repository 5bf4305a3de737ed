import CodeAtlas.History.Summary
import CodeAtlas.Proofs.Bytes
import CodeAtlas.Proofs.Pieces
import CodeAtlas.Proofs.Splitting
import Mathlib.Data.List.Forall2

/-! # Summaries that are read

What is read of a summary that was written of a list of changes: all of them in their order, each
with its kind and counts. A path that had to be quoted is taken with its quotes, so that the changes
themselves are read just if no path had to be. -/
namespace CodeAtlas

namespace Text

variable {p : Char → Bool} {c d : Char} {u v w cs : List Char} {ls : List (List Char)}

/-! ## Lines and words -/

lemma lines_terminated (whole : ∀ l ∈ ls, '\n' ∉ l) :
    lines (ls.flatMap (· ++ ['\n'])) = ls ++ [[]] := by
  induction ls with
  | nil => rfl
  | cons l ls ih =>
    obtain ⟨here, there⟩ := List.forall_mem_cons.1 whole
    rw [List.flatMap_cons, List.append_assoc, List.singleton_append, lines, cut_append_cons,
      cut_of_not_mem here]
    exact congrArg (l :: ·) (ih there)

lemma dropReturn_of_not_mem (h : '\r' ∉ w) : dropReturn w = w :=
  if_neg fun last => h (List.mem_of_getLast? last)

lemma cut_join {sep : Char} (some : ls ≠ []) (whole : ∀ l ∈ ls, sep ∉ l) :
    cut sep (join [sep] ls) = ls := by
  induction ls with
  | nil => exact absurd rfl some
  | cons l ls ih =>
    obtain ⟨here, there⟩ := List.forall_mem_cons.1 whole
    cases ls with
    | nil => exact cut_of_not_mem here
    | cons next rest =>
      rw [join, List.append_assoc, List.singleton_append, cut_append_cons, cut_of_not_mem here,
        ih (List.cons_ne_nil _ _) there]
      rfl

/-- Lines that end with a newline each are read as they are. -/
lemma terminatedLines_terminated (whole : ∀ l ∈ ls, '\n' ∉ l) (plain : ∀ l ∈ ls, '\r' ∉ l) :
    terminatedLines (ls.flatMap (· ++ ['\n'])) = ls := by
  have pieces := lines_terminated whole
  rcases List.eq_nil_or_concat ls with rfl | ⟨front, last, rfl⟩
  · rfl
  · have final : ((front ++ [last]).flatMap (· ++ ['\n'])).getLast? = some '\n' := by simp
    rw [List.concat_eq_append] at plain pieces ⊢
    unfold terminatedLines
    rw [pieces, final]
    simp only [List.getLast?_concat, if_true, List.dropLast_concat]
    exact (List.map_congr_left fun l mem => dropReturn_of_not_mem (plain l mem)).trans
      (List.map_id _)

lemma runsBetween_cons_of_pos (h : p c = true) (cs : List Char) :
    runsBetween p (c :: cs) = runsBetween p cs := by
  rw [runsBetween.eq_def]
  exact if_pos h

/-- A run of one character. -/
lemma runsBetween_cons_single (h : p c = false) (ends : ∀ d ∈ cs.head?, p d = true) :
    runsBetween p (c :: cs) = [c] :: runsBetween p cs := by
  rw [runsBetween.eq_def]
  cases cs with
  | nil => simp [h, runsBetween.eq_def]
  | cons d ds => simp [h, ends d rfl]

lemma exists_runsBetween_cons (h : p c = false) (cs : List Char) :
    ∃ run rest, runsBetween p (c :: cs) = (c :: run) :: rest := by
  rw [runsBetween.eq_def]
  simp only [h, Bool.false_eq_true, if_false]
  cases cs with
  | nil => exact ⟨[], [], rfl⟩
  | cons d ds =>
    dsimp only
    split_ifs
    · exact ⟨[], _, rfl⟩
    · split
      · exact ⟨[], [], rfl⟩
      · exact ⟨_, _, rfl⟩

/-- Two characters of one run. -/
lemma runsBetween_cons_cons (first : p c = false) (second : p d = false) {run : List Char}
    {rest : List (List Char)} (runs : runsBetween p (d :: cs) = run :: rest) :
    runsBetween p (c :: d :: cs) = (c :: run) :: rest := by
  rw [runsBetween.eq_def]
  simp [first, second, runs]

/-- A separator ends a run. -/
lemma runsBetween_append_cons (h : p c = true) :
    runsBetween p (u ++ c :: v) = runsBetween p u ++ runsBetween p v := by
  induction u with
  | nil => exact runsBetween_cons_of_pos h v
  | cons a u ih =>
    cases first : p a with
    | true =>
      rw [List.cons_append, runsBetween_cons_of_pos first, ih, runsBetween_cons_of_pos first]
    | false =>
      by_cases ends : ∀ d ∈ u.head?, p d = true
      · have ends' : ∀ d ∈ (u ++ c :: v).head?, p d = true := by
          cases u with
          | nil => simpa using h
          | cons d ds => exact ends
        rw [List.cons_append, runsBetween_cons_single first ends', ih,
          runsBetween_cons_single first ends, List.cons_append]
      · obtain _ | ⟨d, ds⟩ := u
        · simp at ends
        · have second : p d = false := by simpa using ends
          obtain ⟨run, rest, eq⟩ := exists_runsBetween_cons second ds
          rw [List.cons_append, eq, List.cons_append] at ih
          rw [List.cons_append, List.cons_append, runsBetween_cons_cons first second ih,
            runsBetween_cons_cons first second eq, List.cons_append]

lemma runsBetween_of_forall (some : w ≠ []) (solid : ∀ c ∈ w, p c = false) :
    runsBetween p w = [w] := by
  induction w with
  | nil => exact absurd rfl some
  | cons a w ih =>
    obtain ⟨first, others⟩ := List.forall_mem_cons.1 solid
    cases w with
    | nil =>
      rw [runsBetween.eq_def]
      simp [first]
    | cons d ds =>
      exact runsBetween_cons_cons first (others d List.mem_cons_self)
        (ih (List.cons_ne_nil _ _) others)

/-- No character of the text is blank. -/
def IsSolid (cs : List Char) : Prop := ∀ c ∈ cs, isBlank c = false

instance : DecidablePred IsSolid := List.decidableBAll _

/-- The last word of a text that ends with one. -/
lemma getLast?_words (word : w ≠ []) (solid : IsSolid w) :
    (words (u ++ ' ' :: w)).getLast? = some w := by
  unfold words
  rw [runsBetween_append_cons (by decide), runsBetween_of_forall word solid]
  exact List.getLast?_concat

/-! ## Reading bytes -/

lemma decodeAfter_ascii {b : UInt8} (ascii : b.toNat < 0x80) (rest : List UInt8) :
    decodeAfter 0 (b :: rest) = Char.ofNat b.toNat :: decodeAfter 0 rest := by
  rw [decodeAfter, firstChar, following?_one ascii]
  rfl

/-- ASCII bytes are read one by one. -/
lemma decodeBytes_ascii {bs : List UInt8} (ascii : ∀ b ∈ bs, b.toNat < 0x80) :
    decodeBytes bs = bs.map fun b => Char.ofNat b.toNat := by
  induction bs with
  | nil => rfl
  | cons b bs ih =>
    obtain ⟨first, others⟩ := List.forall_mem_cons.1 ascii
    rw [decodeBytes, decodeAfter_ascii first]
    exact congrArg (_ :: ·) (ih others)

/-- There are no more characters than bytes. -/
lemma length_decodeAfter_le (skip : Nat) (bs : List UInt8) :
    (decodeAfter skip bs).length ≤ bs.length := by
  induction bs generalizing skip with
  | nil => cases skip <;> exact Nat.le_refl _
  | cons b bs ih =>
    cases skip with
    | succ skip => exact Nat.le_succ_of_le (ih skip)
    | zero => exact Nat.succ_le_succ (ih _)

end Text

namespace History

open Number

/-! ## What changes tell -/

/-- The kind of change with a letter. -/
def kindOf (letter : Char) : ChangeKind :=
  (ChangeKind.all.find? (·.letter? = some letter)).getD .unknown

/-- The change that an entry tells of. -/
def DiffEntry.change (e : DiffEntry) : FileChange where
  filename := Text.ofBytes e.path
  additions := (e.counts.getD (0, 0)).1
  deletions := (e.counts.getD (0, 0)).2
  kind := kindOf e.status

/-- The change with its path as it is written in a summary. -/
def DiffEntry.writtenChange (e : DiffEntry) : FileChange :=
  { e.change with filename := String.ofList (pathChars e.path) }

/-- An entry whose modes and names of objects are words, whose status is a character that is not
blank, and whose counts are below 2^32. -/
structure DiffEntry.IsRegular (e : DiffEntry) : Prop where
  words : ∀ word ∈ [e.oldMode, e.newMode, e.oldObject, e.newObject], Text.IsSolid word.toList
  status : Text.isBlank e.status = false
  counts : ∀ n ∈ e.counts, n.1 < 0x100000000 ∧ n.2 < 0x100000000

variable {e : DiffEntry} {entries : List DiffEntry}

lemma ofStatus_cons (letter : Char) (rest : List Char) :
    ChangeKind.ofStatus (letter :: rest) = kindOf letter := by
  cases found : ChangeKind.all.find? (·.letter? = some letter) with
  | some kind =>
    have own : kind.letter? = some letter := by simpa using List.find?_some found
    rw [kindOf, found, ChangeKind.ofStatus_letter rest own, Option.getD_some]
  | none =>
    have other : ∀ kind ∈ ChangeKind.all, kind.letter? ≠ some letter := by
      simpa using List.find?_eq_none.1 found
    simp only [ChangeKind.all, List.forall_mem_cons, ChangeKind.letter?, ne_eq,
      Option.some.injEq] at other
    rw [kindOf, found, Option.getD_none]
    unfold ChangeKind.ofStatus
    split <;> simp_all

/-! ## Paths -/

/-- Characters that end a field or a line. -/
def marks : List Char := ['\t', '\n', '\r']

/-- A text that stays in its field and its line. -/
def IsPlain (cs : List Char) : Prop := ∀ c ∈ cs, c ∉ marks

instance : DecidablePred IsPlain := List.decidableBAll _

lemma forall_byte {P : UInt8 → Prop} (h : ∀ n < 256, P (UInt8.ofNat n)) (b : UInt8) : P b := by
  rw [← UInt8.ofNat_toNat (x := b)]
  exact h _ b.toNat_lt

lemma IsPlain.append {u v : List Char} (hu : IsPlain u) (hv : IsPlain v) : IsPlain (u ++ v) :=
  List.forall_mem_append.2 ⟨hu, hv⟩

lemma IsPlain.cons {c : Char} {cs : List Char} (hc : c ∉ marks) (h : IsPlain cs) :
    IsPlain (c :: cs) := List.forall_mem_cons.2 ⟨hc, h⟩

lemma IsPlain.of_solid {cs : List Char} (h : Text.IsSolid cs) : IsPlain cs := by
  intro c mem mark
  have blank : marks.all Text.isBlank = true := by decide
  have := List.all_eq_true.1 blank c mark
  rw [h c mem] at this
  cases this

lemma quotedByte_spec (b : UInt8) : quotedByte b ≠ [] ∧ IsPlain (quotedByte b) := by
  revert b
  apply forall_byte
  decide +kernel

lemma plainByte_spec (b : UInt8) :
    needsQuoting b = false → b.toNat < 0x80 ∧ Char.ofNat b.toNat ∉ marks := by
  revert b
  apply forall_byte
  decide +kernel

lemma isPlain_pathChars (path : PathBytes) : IsPlain (pathChars path) := by
  unfold pathChars
  split_ifs with quoted
  · refine .cons (by decide) (.append (fun c mem => ?_) (by decide))
    obtain ⟨b, -, mem⟩ := List.mem_flatMap.1 mem
    exact (quotedByte_spec b).2 c mem
  · intro c mem
    obtain ⟨b, there, rfl⟩ := List.mem_map.1 mem
    refine (plainByte_spec b ?_).2
    simpa using fun needs => quoted (List.any_eq_true.2 ⟨b, there, needs⟩)

lemma isPlain_renameChars (old new : PathBytes) : IsPlain (renameChars old new) := by
  have arrow : IsPlain [' ', '=', '>', ' '] := by decide
  unfold renameChars
  dsimp only
  split_ifs
  · exact ((isPlain_pathChars _).append arrow).append (isPlain_pathChars _)
  · exact ((isPlain_pathChars _).append arrow).append (isPlain_pathChars _)
  · refine (((isPlain_pathChars _).append (.cons (by decide) ?_))).append
      (.cons (by decide) (isPlain_pathChars _))
    exact ((isPlain_pathChars _).append arrow).append (isPlain_pathChars _)

lemma length_le_flatMap_quotedByte (path : PathBytes) :
    path.length ≤ (path.flatMap quotedByte).length := by
  induction path with
  | nil => exact Nat.le_refl _
  | cons b path ih =>
    have := List.length_pos_iff.2 (quotedByte_spec b).1
    rw [List.flatMap_cons, List.length_cons, List.length_append]
    omega

/-- A path is written as it reads just if it is written without quotes, for these make it longer. -/
lemma ofList_pathChars_eq_iff (path : PathBytes) :
    String.ofList (pathChars path) = Text.ofBytes path ↔ path.any needsQuoting = false := by
  rw [Text.ofBytes, String.ofList_inj, pathChars]
  split_ifs with quoted
  · refine iff_of_false (fun same => ?_) (by simp [quoted])
    have longer := length_le_flatMap_quotedByte path
    have shorter := Text.length_decodeAfter_le 0 path
    have length := congrArg List.length same
    rw [List.length_cons, List.length_append, Text.decodeBytes] at length
    omega
  · have plain : path.any needsQuoting = false := by simpa using quoted
    refine iff_of_true (Text.decodeBytes_ascii fun b mem => ?_).symm plain
    exact (plainByte_spec b (by simpa using List.any_eq_false.1 plain b mem)).1

/-! ## Lines -/

/-- A line, with its newline, that is read as something. -/
def Reads (line : List Char) (l : SummaryLine) : Prop :=
  ∃ text, line = text ++ ['\n'] ∧ '\n' ∉ text ∧ '\r' ∉ text ∧ SummaryLine.read text = l

/-- Lines are read one by one. -/
lemma read_lines {lines : List (List Char)} {ls : List SummaryLine} (h : lines.Forall₂ Reads ls) :
    (Text.terminatedLines lines.flatten).map SummaryLine.read = ls := by
  obtain ⟨texts, rfl, plain, whole, read⟩ : ∃ texts : List (List Char),
      lines = texts.map (· ++ ['\n']) ∧ (∀ l ∈ texts, '\r' ∉ l) ∧ (∀ l ∈ texts, '\n' ∉ l) ∧
        texts.map SummaryLine.read = ls := by
    induction h with
    | nil => exact ⟨[], rfl, by simp⟩
    | cons first _ ih =>
      obtain ⟨text, rfl, newline, carriage, rfl⟩ := first
      obtain ⟨texts, rfl, plain, whole, rfl⟩ := ih
      exact ⟨text :: texts, rfl, List.forall_mem_cons.2 ⟨carriage, plain⟩,
        List.forall_mem_cons.2 ⟨newline, whole⟩, rfl⟩
  rw [← List.flatMap_def, Text.terminatedLines_terminated whole plain, read]

/-- Fields with a tab between them. -/
lemma Reads.of_fields {fields : List (List Char)} {l : SummaryLine}
    (plain : ∀ field ∈ fields, IsPlain field)
    (read : SummaryLine.read (Text.join ['\t'] fields) = l) :
    Reads (Text.join ['\t'] fields ++ ['\n']) l := by
  have without {c : Char} (mark : c ∈ marks) (between : c ∉ ['\t']) :
      c ∉ Text.join ['\t'] fields := fun mem => by
    rcases Text.mem_join mem with glue | ⟨field, there, mem⟩
    · exact between glue
    · exact plain field there c mem mark
  exact ⟨_, rfl, without (by decide) (by decide), without (by decide) (by decide), read⟩

lemma cut_fields {fields : List (List Char)} (some : fields ≠ [])
    (plain : ∀ field ∈ fields, IsPlain field) :
    Text.cut '\t' (Text.join ['\t'] fields) = fields :=
  Text.cut_join some fun field mem there => plain field mem _ there (by decide)

/-- What stands in front of the paths. -/
def DiffEntry.about (e : DiffEntry) : List Char :=
  (e.oldMode ++ " " ++ e.newMode ++ " " ++ e.oldObject ++ " " ++ e.newObject).toList ++
    ' ' :: e.statusChars

/-- The paths of an entry as they are written, the present one last. -/
def DiffEntry.paths (e : DiffEntry) : List (List Char) :=
  (e.oldPath.map pathChars).toList ++ [pathChars e.path]

lemma rawLine_eq (e : DiffEntry) :
    e.rawLine = Text.join ['\t'] ((':' :: e.about) :: e.paths) ++ ['\n'] := by
  unfold DiffEntry.rawLine DiffEntry.about DiffEntry.paths
  cases e.oldPath <;> simp [Text.join]

lemma isBlank_digitChar {n : Nat} (h : n < 10) : Text.isBlank (digitChar n) = false := by
  revert n
  decide

lemma isSolid_statusChars (h : e.IsRegular) : Text.IsSolid e.statusChars := by
  unfold DiffEntry.statusChars
  refine List.forall_mem_cons.2 ⟨h.status, ?_⟩
  cases e.score with
  | none => simp
  | some n =>
    simp only [List.forall_mem_cons]
    exact ⟨isBlank_digitChar (by omega), isBlank_digitChar (by omega),
      isBlank_digitChar (by omega), by simp⟩

lemma isPlain_about (h : e.IsRegular) : IsPlain e.about := by
  have words := h.words
  simp only [List.forall_mem_cons] at words
  obtain ⟨oldMode, newMode, oldObject, newObject, -⟩ := words
  have space {u v : List Char} (hu : Text.IsSolid u) (hv : IsPlain v) :
      IsPlain (u ++ ' ' :: v) := (IsPlain.of_solid hu).append (.cons (by decide) hv)
  have := space oldMode (space newMode (space oldObject (space newObject
    (.of_solid (isSolid_statusChars h)))))
  simpa [DiffEntry.about] using this

lemma isPlain_paths (e : DiffEntry) : ∀ path ∈ e.paths, IsPlain path := by
  intro path mem
  rcases List.mem_append.1 mem with old | new
  · obtain ⟨bytes, -, rfl⟩ := Option.map_eq_some_iff.1 (Option.mem_toList.1 old)
    exact isPlain_pathChars bytes
  · rw [List.mem_singleton.1 new]
    exact isPlain_pathChars e.path

/-- The line of a path is read as the kind of its change and the path as it is written. -/
lemma reads_rawLine (h : e.IsRegular) :
    Reads e.rawLine (.path (kindOf e.status) (pathChars e.path)) := by
  have plain : ∀ field ∈ e.about :: e.paths, IsPlain field :=
    List.forall_mem_cons.2 ⟨isPlain_about h, isPlain_paths e⟩
  have last : e.paths.getLast? = some (pathChars e.path) := List.getLast?_concat
  have status : (Text.words e.about).getLast? = some e.statusChars :=
    Text.getLast?_words (List.cons_ne_nil _ _) (isSolid_statusChars h)
  have colon : Text.join ['\t'] ((':' :: e.about) :: e.paths) =
      ':' :: Text.join ['\t'] (e.about :: e.paths) := by
    cases e.paths <;> rfl
  rw [rawLine_eq]
  refine .of_fields (List.forall_mem_cons.2
    ⟨.cons (by decide) (isPlain_about h), isPlain_paths e⟩) ?_
  rw [colon, SummaryLine.read, cut_fields (List.cons_ne_nil _ _) plain]
  obtain ⟨first, more, paths⟩ : ∃ first more, e.paths = first :: more :=
    List.exists_cons_of_ne_nil (by simp [DiffEntry.paths])
  rw [paths] at last ⊢
  simp only [last, status, Option.getD_some]
  rw [DiffEntry.statusChars, ofStatus_cons]

lemma readCount_digits {n : Nat} (h : n < 0x100000000) : readCount (digits n) = n := by
  have all := isDigit_of_mem_digits n
  have unsigned : ∀ rest, digits n ≠ '+' :: rest := fun rest eq => by
    have := all '+' (eq ▸ List.mem_cons_self)
    revert this
    decide
  unfold readCount
  split
  next rest eq => exact absurd eq (unsigned rest)
  next =>
    have : (digits n).all isDigit = true := List.all_eq_true.2 all
    simp [digits_ne_nil, this, value_digits, Nat.not_le_of_lt h]

lemma isDigit_spec {c : Char} (h : isDigit c = true) : Text.isBlank c = false ∧ c ≠ ':' := by
  have ascii : c.toNat < 0x80 := by
    unfold isDigit digitValue? at h
    split_ifs at h with between
    · have nine : ('9' : Char).val.toNat = 57 := rfl
      have := UInt32.le_iff_toNat_le.1 between.2
      exact Nat.lt_of_le_of_lt this (by omega)
    · cases h
  revert h
  apply Text.forall_ascii _ ascii
  decide +kernel

/-- What is written for counts. -/
def DiffEntry.countTexts (e : DiffEntry) : List Char × List Char :=
  (e.counts.elim ['-'] fun n => digits n.1, e.counts.elim ['-'] fun n => digits n.2)

def DiffEntry.changeText (e : DiffEntry) : List Char :=
  e.oldPath.elim (pathChars e.path) fun old => renameChars old e.path

lemma countLine_eq (e : DiffEntry) : e.countLine =
    Text.join ['\t'] [e.countTexts.1, e.countTexts.2, e.changeText] ++ ['\n'] := by
  unfold DiffEntry.countLine DiffEntry.countTexts DiffEntry.changeText
  cases e.counts <;> cases e.oldPath <;> simp [Text.join]

lemma countTexts_spec (h : e.IsRegular) :
    (∀ text ∈ [e.countTexts.1, e.countTexts.2], text ≠ [] ∧ Text.IsSolid text ∧ ':' ∉ text) ∧
    readCount e.countTexts.1 = e.change.additions ∧
    readCount e.countTexts.2 = e.change.deletions := by
  have small := h.counts
  unfold DiffEntry.countTexts DiffEntry.change
  cases counts : e.counts with
  | none =>
    have minus : readCount ['-'] = 0 := by decide
    exact ⟨by decide, minus, minus⟩
  | some n =>
    obtain ⟨added, deleted⟩ := small n counts
    have digit (n : Nat) : digits n ≠ [] ∧ Text.IsSolid (digits n) ∧ ':' ∉ digits n :=
      ⟨digits_ne_nil n, fun c mem => (isDigit_spec (isDigit_of_mem_digits n c mem)).1,
        fun mem => (isDigit_spec (isDigit_of_mem_digits n _ mem)).2 rfl⟩
    refine ⟨?_, readCount_digits added, readCount_digits deleted⟩
    simp only [List.forall_mem_cons]
    exact ⟨digit _, digit _, by simp⟩

/-- The line of counts is read as these, whatever the path is. -/
lemma reads_countLine (h : e.IsRegular) :
    Reads e.countLine (.counts e.change.additions e.change.deletions) := by
  obtain ⟨texts, added, deleted⟩ := countTexts_spec h
  rw [← added, ← deleted, countLine_eq]
  generalize e.countTexts = counts at texts
  simp only [List.forall_mem_cons] at texts
  obtain ⟨⟨some, first, noColon⟩, ⟨-, second, -⟩, -⟩ := texts
  have path : IsPlain e.changeText := by
    unfold DiffEntry.changeText
    cases e.oldPath with
    | none => exact isPlain_pathChars _
    | some old => exact isPlain_renameChars old _
  have plain : ∀ field ∈ [counts.1, counts.2, e.changeText], IsPlain field := by
    simp only [List.forall_mem_cons]
    exact ⟨.of_solid first, .of_solid second, path, by simp⟩
  refine .of_fields plain ?_
  have fields := cut_fields (List.cons_ne_nil _ _) plain
  obtain ⟨c, cs, begins⟩ : ∃ c cs, Text.join ['\t'] [counts.1, counts.2, e.changeText] = c :: cs ∧
      Text.isBlank c = false ∧ c ≠ ':' := by
    obtain ⟨c, cs, eq⟩ := List.exists_cons_of_ne_nil some
    have mem : c ∈ counts.1 := eq ▸ List.mem_cons_self
    exact ⟨c, _, by rw [eq]; rfl, first c mem, fun same => noColon (same ▸ mem)⟩
  obtain ⟨text, solid, colon⟩ := begins
  have some : (Text.trim (c :: cs)).isEmpty = false := by
    rw [List.isEmpty_eq_false_iff]
    exact List.ne_nil_of_mem (Text.mem_trim List.mem_cons_self solid)
  rw [text] at fields ⊢
  unfold SummaryLine.read
  split
  next rest same => exact absurd (List.cons.inj same).1 colon
  next => rw [if_neg (by simp [some]), fields]

/-! ## Summaries -/

lemma pairChanges_map {kind : DiffEntry → ChangeKind} {path : DiffEntry → List Char}
    {added deleted : DiffEntry → Nat} :
    pairChanges (entries.map fun e => (kind e, path e))
        (entries.map fun e => (added e, deleted e)) =
      entries.map fun e => ⟨String.ofList (path e), added e, deleted e, kind e⟩ := by
  induction entries with
  | nil => rfl
  | cons e entries ih => exact congrArg (_ :: ·) ih

/-- What is read of a summary: each change in its place, with its path as it is written. -/
lemma readSummary_renderSummary (regular : ∀ e ∈ entries, e.IsRegular) :
    readSummary (renderSummary entries) = entries.map DiffEntry.writtenChange := by
  have raw : (entries.map DiffEntry.rawLine).Forall₂ Reads
      (entries.map fun e => .path (kindOf e.status) (pathChars e.path)) := by
    rw [List.forall₂_map_left_iff, List.forall₂_map_right_iff, List.forall₂_same]
    exact fun e mem => reads_rawLine (regular e mem)
  have counts : (entries.map DiffEntry.countLine).Forall₂ Reads
      (entries.map fun e => .counts e.change.additions e.change.deletions) := by
    rw [List.forall₂_map_left_iff, List.forall₂_map_right_iff, List.forall₂_same]
    exact fun e mem => reads_countLine (regular e mem)
  have lines := read_lines (List.rel_append raw counts)
  rw [List.flatten_append, ← List.flatMap_def, ← List.flatMap_def] at lines
  unfold readSummary renderSummary
  dsimp only
  rw [lines]
  simp only [List.filterMap_append, List.filterMap_map, Function.comp_def, SummaryLine.path?,
    SummaryLine.counts?, List.filterMap_none, List.append_nil, List.nil_append,
    List.filterMap_eq_map']
  exact pairChanges_map

/-- A summary is read as the changes that it was written of, in their order, each with its kind, its
counts and the path as it is written. They are the changes themselves just if no path had to be
quoted. -/
theorem readSummary_eq_iff (entries : List DiffEntry) (regular : ∀ e ∈ entries, e.IsRegular) :
    readSummary (renderSummary entries) = entries.map DiffEntry.writtenChange ∧
      (readSummary (renderSummary entries) = entries.map DiffEntry.change ↔
        ∀ e ∈ entries, e.path.any needsQuoting = false) := by
  have read := readSummary_renderSummary regular
  refine ⟨read, ?_⟩
  rw [read, List.map_inj_left]
  refine forall₂_congr fun e _ => Iff.trans ?_ (ofList_pathChars_eq_iff e.path)
  exact ⟨congrArg FileChange.filename, fun same => by rw [DiffEntry.writtenChange, same]; rfl⟩

/-- A file that was renamed and changed, and a binary one that was added. -/
def renamedAndBinary : List DiffEntry := [
  { oldMode := "100644", newMode := "100644", oldObject := "4444444", newObject := "5555555"
    status := 'R', score := some 92
    oldPath := some (Text.toBytes "old/c.js"), path := Text.toBytes "new/c.js"
    counts := some (10, 1) },
  { oldMode := "000000", newMode := "100644", oldObject := "0000000", newObject := "7777777"
    status := 'A', score := none
    oldPath := none, path := Text.toBytes "a logo.png"
    counts := none }]

theorem readSummary_eq_iff_renamedAndBinary :
    (∀ e ∈ renamedAndBinary, e.IsRegular) ∧
    readSummary (renderSummary renamedAndBinary) =
      [⟨"new/c.js", 10, 1, .renamed⟩, ⟨"a logo.png", 0, 0, .added⟩] := by
  have regular : ∀ e ∈ renamedAndBinary, e.IsRegular := by
    simp only [renamedAndBinary, List.forall_mem_cons]
    exact ⟨⟨by decide, by decide, by decide⟩, ⟨by decide, by decide, by decide⟩, by simp⟩
  have unquoted : ∀ e ∈ renamedAndBinary, e.path.any needsQuoting = false := by decide +kernel
  refine ⟨regular, ((readSummary_eq_iff _ regular).2.2 unquoted).trans ?_⟩
  decide +kernel

/-- A change of a file whose name has a letter beyond ASCII. -/
def accented : DiffEntry where
  oldMode := "100644"
  newMode := "100644"
  oldObject := "1111111"
  newObject := "2222222"
  status := 'M'
  score := none
  oldPath := none
  path := Text.toBytes "é.txt"
  counts := some (1, 0)

theorem accented_misread :
    accented.IsRegular ∧ accented.change = ⟨"é.txt", 1, 0, .modified⟩ ∧
    readSummary (renderSummary [accented]) = [⟨"\"\\303\\251.txt\"", 1, 0, .modified⟩] ∧
    readSummary (renderSummary [accented]) ≠ [accented.change] := by
  have change : accented.change = ⟨"é.txt", 1, 0, .modified⟩ := by decide +kernel
  have read : readSummary (renderSummary [accented]) =
      [⟨"\"\\303\\251.txt\"", 1, 0, .modified⟩] := by decide +kernel
  refine ⟨⟨by decide, by decide, by decide⟩, change, read, ?_⟩
  rw [read, change]
  decide

end History

end CodeAtlas
