import CodeAtlas.Text.Lines
import Mathlib.Data.List.Infix

/-! # Pieces of texts

What the pieces of a text are that is cut at a separator, and which texts occur in another. -/
namespace CodeAtlas.Text

/-! ## Cutting -/

section Cut

variable {α : Type} [DecidableEq α] {sep : α} {as bs before piece after : List α}

lemma cut_cons_of_ne {c : α} (h : c ≠ sep) (cs : List α) :
    ∃ piece rest, cut sep cs = piece :: rest ∧ cut sep (c :: cs) = (c :: piece) :: rest := by
  cases pieces : cut sep cs with
  | nil => exact absurd pieces (cut_ne_nil sep cs)
  | cons piece rest => exact ⟨piece, rest, rfl, by simp [cut, h, pieces]⟩

lemma cut_cons_self (cs : List α) : cut sep (sep :: cs) = [] :: cut sep cs := if_pos rfl

lemma not_mem_of_mem_cut {cs : List α} (h : piece ∈ cut sep cs) : sep ∉ piece := by
  induction cs generalizing piece with
  | nil =>
    cases List.mem_singleton.1 h
    exact List.not_mem_nil
  | cons c cs ih =>
    by_cases same : c = sep
    · rw [same, cut_cons_self] at h
      rcases List.mem_cons.1 h with rfl | h
      · exact List.not_mem_nil
      · exact ih h
    · obtain ⟨first, rest, hcs, hcut⟩ := cut_cons_of_ne same cs
      rw [hcut] at h
      rcases List.mem_cons.1 h with rfl | h
      · have := ih (hcs ▸ List.mem_cons_self)
        simp [Ne.symm same, this]
      · exact ih (hcs ▸ List.mem_cons_of_mem _ h)

lemma cut_of_not_mem (h : sep ∉ as) : cut sep as = [as] := by
  induction as with
  | nil => rfl
  | cons a as ih =>
    rw [List.mem_cons, not_or] at h
    rw [cut, if_neg (Ne.symm h.1), ih h.2]

lemma cut_append_cons : cut sep (as ++ sep :: bs) = cut sep as ++ cut sep bs := by
  induction as with
  | nil => exact cut_cons_self bs
  | cons a as ih =>
    by_cases same : a = sep
    · rw [List.cons_append, same, cut_cons_self, cut_cons_self, ih, List.cons_append]
    · obtain ⟨piece, rest, hcs, hcut⟩ := cut_cons_of_ne same as
      rw [hcut, List.cons_append, cut, if_neg same, ih, hcs]
      rfl

/-- Without a separator in it, a text joins the first piece of what follows. -/
lemma cut_append_of_not_mem {rest : List (List α)} (h : sep ∉ as)
    (pieces : cut sep bs = piece :: rest) : cut sep (as ++ bs) = (as ++ piece) :: rest := by
  induction as with
  | nil => exact pieces
  | cons a as ih =>
    rw [List.mem_cons, not_or] at h
    rw [List.cons_append, cut, if_neg (Ne.symm h.1), ih h.2]
    rfl

lemma cut_inj : cut sep as = cut sep bs ↔ as = bs :=
  ⟨fun h => by rw [← join_cut sep as, h, join_cut], fun h => h ▸ rfl⟩

/-- Where there is no separator, it cuts where it is put for another one as that one cuts. -/
lemma cut_map_replace {other : α} {cs : List α} (h : sep ∉ cs) :
    cut sep (cs.map fun c => if c = other then sep else c) = cut other cs := by
  induction cs with
  | nil => rfl
  | cons c cs ih =>
    rw [List.mem_cons, not_or] at h
    rw [List.map_cons, cut, cut, ih h.2]
    by_cases same : c = other
    · rw [if_pos same, if_pos rfl, if_pos same]
    · rw [if_neg same, if_neg (Ne.symm h.1), if_neg same]

/-- What stands between two separators, or between one and an end of the text, is a piece. -/
lemma mem_cut (whole : sep ∉ piece) (left : ∀ c ∈ before.getLast?, c = sep)
    (right : ∀ c ∈ after.head?, c = sep) : piece ∈ cut sep (before ++ piece ++ after) := by
  have first : piece ∈ cut sep (piece ++ after) := by
    cases after with
    | nil => simp [cut_of_not_mem whole]
    | cons c after =>
      obtain rfl : c = sep := right c rfl
      rw [cut_append_cons, cut_of_not_mem whole]
      exact List.mem_append_left _ (List.mem_singleton.2 rfl)
  rcases List.eq_nil_or_concat before with rfl | ⟨start, c, rfl⟩
  · exact first
  · obtain rfl : c = sep := left c (by simp)
    rw [List.concat_eq_append, List.append_assoc, List.append_assoc, List.singleton_append,
      cut_append_cons]
    exact List.mem_append_right _ first

end Cut

/-! ## Joining -/

lemma join_concat {α : Type} {glue : List α} (pieces : List (List α)) (last : List α) :
    join glue (pieces ++ [last]) =
      if pieces = [] then last else join glue pieces ++ glue ++ last := by
  induction pieces with
  | nil => rfl
  | cons piece pieces ih =>
    cases pieces with
    | nil => rfl
    | cons next rest =>
      rw [if_neg (List.cons_ne_nil _ _)] at ih ⊢
      rw [List.cons_append, List.cons_append, join, ← List.cons_append, ih, join]
      simp only [List.append_assoc]

/-- What is in pieces that are joined is in the glue or in one of them. -/
lemma mem_join {α : Type} {glue : List α} {pieces : List (List α)} {a : α}
    (h : a ∈ join glue pieces) : a ∈ glue ∨ ∃ piece ∈ pieces, a ∈ piece := by
  induction pieces with
  | nil => cases h
  | cons piece pieces ih =>
    cases pieces with
    | nil => exact .inr ⟨piece, List.mem_cons_self, h⟩
    | cons next rest =>
      rw [join, List.mem_append, List.mem_append] at h
      rcases h with (h | h) | h
      · exact .inr ⟨piece, List.mem_cons_self, h⟩
      · exact .inl h
      · rcases ih h with h | ⟨other, mem, h⟩
        · exact .inl h
        · exact .inr ⟨other, List.mem_cons_of_mem _ mem, h⟩

/-! ## Occurrences -/

variable {needle cs : List Char}

lemma isSome_afterStart? : (afterStart? needle cs).isSome = true ↔ needle <+: cs := by
  rw [Option.isSome_iff_exists]
  exact exists_congr fun rest => afterStart?_eq_some.trans eq_comm

lemma occursIn_iff : occursIn needle cs = true ↔ needle <:+: cs := by
  unfold occursIn
  induction cs with
  | nil =>
    rw [splitFirst?, Option.isSome_map, isSome_afterStart?, List.prefix_nil, List.infix_nil]
  | cons c cs ih =>
    rw [List.infix_cons_iff, ← ih, ← isSome_afterStart?, splitFirst?]
    cases afterStart? needle (c :: cs) <;> simp

end CodeAtlas.Text
