import CodeAtlas.Records
import CodeAtlas.Text.Lines

/-! # Building outlines -/
namespace CodeAtlas.Outline

/-- The longest excerpt of code that a symbol keeps, in characters. -/
def excerptLimit : Nat := 500

def excerpt (code : List Char) : String := String.ofList (code.take excerptLimit)

theorem length_excerpt_le (code : List Char) : (excerpt code).toList.length ≤ excerptLimit := by
  rw [excerpt, String.toList_ofList, List.length_take]
  exact Nat.min_le_left _ _

/-- Add a name at the end unless it is empty or there already. -/
def addName (names : List String) (name : String) : List String :=
  if name.isEmpty || names.contains name then names else names ++ [name]

theorem nodup_addName {names : List String} (h : names.Nodup) (name : String) :
    (addName names name).Nodup := by
  unfold addName
  split
  · exact h
  next hn =>
    simp only [Bool.or_eq_true, List.contains_iff_mem, not_or] at hn
    rw [List.nodup_append]
    exact ⟨h, by simp, by rintro a ha b hb rfl; exact hn.2 (List.mem_singleton.1 hb ▸ ha)⟩

def addNames (names new : List String) : List String := new.foldl addName names

end CodeAtlas.Outline
