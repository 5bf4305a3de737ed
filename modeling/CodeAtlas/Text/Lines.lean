/-! # Lines and pieces

Cutting a text, or a list of bytes, at a separator. `cut` keeps empty pieces, so a text of `n`
separators has `n + 1` pieces, and `join` puts it together again. -/
namespace CodeAtlas.Text

/-- The pieces between occurrences of `sep`. -/
def cut {α : Type} [DecidableEq α] (sep : α) : List α → List (List α)
  | [] => [[]]
  | c :: cs =>
      if c = sep then [] :: cut sep cs
      else
        match cut sep cs with
        | [] => [[c]]
        | piece :: rest => (c :: piece) :: rest

theorem cut_ne_nil {α : Type} [DecidableEq α] (sep : α) (cs : List α) : cut sep cs ≠ [] := by
  cases cs with
  | nil => simp [cut]
  | cons c cs =>
    simp only [cut]
    split
    · simp
    · split <;> simp

/-- A text has one piece more than it has separators. -/
theorem length_cut {α : Type} [DecidableEq α] (sep : α) (cs : List α) :
    (cut sep cs).length = cs.count sep + 1 := by
  induction cs with
  | nil => simp [cut]
  | cons c cs ih =>
    simp only [cut]
    split
    next h => subst h; simp [ih]
    next h =>
      split
      next he => exact absurd he (cut_ne_nil sep cs)
      next piece rest he =>
        rw [he] at ih
        simp only [List.length_cons] at ih ⊢
        rw [List.count_cons_of_ne h, ih]

/-- Pieces put together with `sep` between them. -/
def join {α : Type} (sep : List α) : List (List α) → List α
  | [] => []
  | [piece] => piece
  | piece :: next :: rest => piece ++ sep ++ join sep (next :: rest)

theorem join_cut {α : Type} [DecidableEq α] (sep : α) (cs : List α) :
    join [sep] (cut sep cs) = cs := by
  induction cs with
  | nil => rfl
  | cons c cs ih =>
    simp only [cut]
    split
    next h =>
      subst h
      cases hc : cut c cs with
      | nil => exact absurd hc (cut_ne_nil c cs)
      | cons piece rest => rw [hc] at ih; simp [join, ih]
    next h =>
      split
      next he => exact absurd he (cut_ne_nil sep cs)
      next piece rest he =>
        rw [he] at ih
        cases rest with
        | nil => simp only [join] at ih ⊢; rw [ih]
        | cons next rest => simp only [join, List.cons_append] at ih ⊢; rw [ih]

/-- The lines of a text, cut at each newline; a final newline opens one more, empty, line. -/
def lines (cs : List Char) : List (List Char) := cut '\n' cs

/-- The number of lines: one more than the number of newlines. -/
def lineCount (text : String) : Nat := (lines text.toList).length

theorem lineCount_eq (text : String) : lineCount text = text.toList.count '\n' + 1 :=
  length_cut '\n' text.toList

def dropReturn (line : List Char) : List Char :=
  if line.getLast? = some '\r' then line.dropLast else line

/-- Terminated lines: a newline, with a carriage return before it, ends a line and opens none. -/
def terminatedLines (cs : List Char) : List (List Char) :=
  let pieces := lines cs
  let pieces := if pieces.getLast? = some [] then pieces.dropLast else pieces
  match cs.getLast? with
  | some '\n' => pieces.map dropReturn
  | _ =>
      match pieces.reverse with
      | [] => []
      | last :: before => (last :: before.map dropReturn).reverse

/-- At most the first `n` characters of a text. -/
def firstChars (n : Nat) (text : String) : String := String.ofList (text.toList.take n)

def slashed (path : String) : String :=
  path.map fun c => if c = '\\' then '/' else c

/-- Whether `needle` starts the text, and what follows it if so. -/
def afterStart? {α : Type} [DecidableEq α] : (needle : List α) → List α → Option (List α)
  | [], cs => some cs
  | _ :: _, [] => none
  | n :: ns, c :: cs => if n = c then afterStart? ns cs else none

theorem afterStart?_eq_some {α : Type} [DecidableEq α] {needle cs rest : List α} :
    afterStart? needle cs = some rest ↔ cs = needle ++ rest := by
  induction needle generalizing cs with
  | nil => simp [afterStart?, eq_comm]
  | cons n ns ih =>
    cases cs with
    | nil => simp [afterStart?]
    | cons c cs =>
      by_cases h : n = c
      · subst h; simp [afterStart?, ih]
      · simp [afterStart?, h, Ne.symm h]

/-- What stands before and after the first occurrence of `needle`. -/
def splitFirst? {α : Type} [DecidableEq α] (needle : List α) :
    List α → Option (List α × List α)
  | [] => (afterStart? needle []).map fun rest => ([], rest)
  | c :: cs =>
      match afterStart? needle (c :: cs) with
      | some rest => some ([], rest)
      | none => (splitFirst? needle cs).map fun parts => (c :: parts.1, parts.2)

/-- Whether `needle` occurs in the text. -/
def occursIn (needle cs : List Char) : Bool := (splitFirst? needle cs).isSome

end CodeAtlas.Text
