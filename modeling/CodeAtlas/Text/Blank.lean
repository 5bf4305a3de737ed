/-! # White space

The Unicode White_Space property, and trimming by it. `trim` removes blanks from both ends and
nothing else. -/
namespace CodeAtlas.Text

/-- The twenty-five code points with the White_Space property. -/
def isBlank (c : Char) : Bool :=
  let n := c.toNat
  (0x9 ≤ n && n ≤ 0xD) || n == 0x20 || n == 0x85 || n == 0xA0 || n == 0x1680 ||
    (0x2000 ≤ n && n ≤ 0x200A) || n == 0x2028 || n == 0x2029 || n == 0x202F || n == 0x205F ||
    n == 0x3000

/-- Drop the longest end of the list whose members satisfy `p`. -/
def dropEndWhile (p : Char → Bool) : List Char → List Char
  | [] => []
  | c :: cs =>
      match dropEndWhile p cs with
      | [] => if p c then [] else [c]
      | d :: ds => c :: d :: ds

@[simp] theorem dropEndWhile_nil (p : Char → Bool) : dropEndWhile p [] = [] := rfl

theorem dropEndWhile_eq_nil {p : Char → Bool} {cs : List Char} :
    dropEndWhile p cs = [] ↔ ∀ c ∈ cs, p c = true := by
  induction cs with
  | nil => simp
  | cons c cs ih =>
    cases h : dropEndWhile p cs with
    | nil =>
      have hall := ih.1 h
      by_cases hc : p c = true <;> simp [dropEndWhile, h, hc]
      exact hall
    | cons d ds =>
      have hn : ¬ ∀ x ∈ cs, p x = true := fun ha => by simp [ih.2 ha] at h
      simp only [dropEndWhile, h, List.mem_cons, forall_eq_or_imp, reduceCtorEq, false_iff]
      exact fun ha => hn ha.2

/-- A list is what `dropEndWhile` keeps followed by members that satisfy `p`. -/
theorem dropEndWhile_append (p : Char → Bool) (cs : List Char) :
    ∃ tail, cs = dropEndWhile p cs ++ tail ∧ ∀ c ∈ tail, p c = true := by
  induction cs with
  | nil => exact ⟨[], by simp⟩
  | cons c cs ih =>
    obtain ⟨tail, happ, hall⟩ := ih
    cases h : dropEndWhile p cs with
    | nil =>
      rw [h] at happ
      by_cases hc : p c = true
      · exact ⟨c :: tail, by simpa [dropEndWhile, h, hc] using happ, by simpa [hc] using hall⟩
      · exact ⟨tail, by simpa [dropEndWhile, h, hc] using happ, hall⟩
    | cons d ds =>
      rw [h] at happ
      exact ⟨tail, by simpa [dropEndWhile, h] using happ, hall⟩

def trimStart (cs : List Char) : List Char := cs.dropWhile isBlank

def trimEnd (cs : List Char) : List Char := dropEndWhile isBlank cs

def trim (cs : List Char) : List Char := trimEnd (trimStart cs)

/-- The members that satisfy `p` removed from both ends. -/
def trimMatches (p : Char → Bool) (cs : List Char) : List Char :=
  dropEndWhile p (cs.dropWhile p)

/-- `trim` on strings. -/
def trimmed (s : String) : String := String.ofList (trim s.toList)

/-- The maximal runs of characters that do not satisfy `p`, in order. -/
def runsBetween (p : Char → Bool) : List Char → List (List Char)
  | [] => []
  | c :: cs =>
      if p c then runsBetween p cs
      else
        match cs with
        | [] => [[c]]
        | d :: ds =>
            if p d then [c] :: runsBetween p (d :: ds)
            else
              match runsBetween p (d :: ds) with
              | [] => [[c]]
              | w :: ws => (c :: w) :: ws

/-- The words of a text: its maximal runs without blanks. -/
def words (cs : List Char) : List (List Char) := runsBetween isBlank cs

end CodeAtlas.Text
