import CodeAtlas.Text.Blank

/-! # Vocabularies

A finite set of values, each with a word that names it in texts and tables. Reading accepts
exactly the words, with blanks around them. -/
namespace CodeAtlas

/-- The values, their words, and what one of them is called in an error message. -/
structure Vocabulary (α : Type) where
  noun : String
  members : List α
  word : α → String

/-- A word that is in no vocabulary of that noun. -/
structure UnknownWord where
  noun : String
  word : String
  deriving DecidableEq, Repr

def UnknownWord.message (e : UnknownWord) : String :=
  "unknown " ++ e.noun ++ " '" ++ e.word ++ "'"

def Vocabulary.find? (v : Vocabulary α) (word : String) : Option α :=
  v.members.find? (v.word · = word)

/-- The member that a text names once its blanks are trimmed. -/
def Vocabulary.read (v : Vocabulary α) (text : String) : Except UnknownWord α :=
  match v.find? (Text.trimmed text) with
  | some a => .ok a
  | none => .error ⟨v.noun, Text.trimmed text⟩

/-- Every value is a member, and its word names it and no other. -/
def Vocabulary.Complete (v : Vocabulary α) : Prop := ∀ a, v.read (v.word a) = .ok a

end CodeAtlas
