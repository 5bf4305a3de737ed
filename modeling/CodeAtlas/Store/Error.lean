import CodeAtlas.Number.Digits

/-! # Errors of the store

What can go wrong in one operation, and what is said of it. An error of the tables has further
causes, down to the rule that was broken. -/
namespace CodeAtlas

open Number

inductive StoreError where
  /-- A row that the store was told to refuse. -/
  | refused
  /-- A row that belongs to a row that is not there. -/
  | foreignKey
  /-- A column without a value. -/
  | notNull (column : String)
  /-- A text that cannot be read as what its column holds. -/
  | conversion (index : Nat) (reason : String)
  /-- A cell that is not of the kind of its column. -/
  | columnKind (index : Nat) (column kind : String)
  /-- A number that does not fit what its column holds. -/
  | outOfRange (index : Nat) (value : Int)
  | notFound (entity : String) (id : Int)
  | alreadyAnswered (question : Int)
  deriving DecidableEq, Repr, Inhabited

namespace StoreError

/-- The causes of an error of the tables, the outermost first. -/
def tableCauses : StoreError → List String
  | refused => ["injected failure", "Error code 1811: A RAISE function within a trigger fired"]
  | foreignKey =>
      ["FOREIGN KEY constraint failed", "Error code 787: A foreign key constraint failed"]
  | notNull column =>
      ["NOT NULL constraint failed: " ++ column, "Error code 1299: A NOT NULL constraint failed"]
  | conversion index reason =>
      ["Conversion error from type Text at index: " ++ text index ++ ", " ++ reason, reason]
  | columnKind index column kind =>
      ["Invalid column type " ++ kind ++ " at index: " ++ text index ++ ", name: " ++ column]
  | outOfRange index value =>
      ["Integer " ++ intText value ++ " out of range at index " ++ text index]
  | notFound .. | alreadyAnswered .. => []

def message : StoreError → String
  | notFound entity id => entity ++ " " ++ intText id ++ " not found"
  | alreadyAnswered question => "question " ++ intText question ++ " already has an answer"
  | e => "sqlite error: " ++ (e.tableCauses.head?).getD ""

def causes (e : StoreError) : List String := e.message :: e.tableCauses

end StoreError

end CodeAtlas
