import CodeAtlas.Number.Binary

/-! # Similarity of vectors

The cosine of two vectors, computed from left to right. Vectors of different lengths, empty ones
and such with a squared length that does not exceed `tiny` are similar to nothing. -/
namespace CodeAtlas.Inference

open Number

/-- The arithmetic in which cosines are computed. -/
structure Arithmetic (α : Type) where
  zero : α
  add : α → α → α
  mul : α → α → α
  div : α → α → α
  sqrt : α → α
  le : α → α → Bool
  /-- What a squared length must exceed. -/
  tiny : α

/-- Arithmetic on 32-bit numbers; `tiny` is the distance from one to the next number. -/
def Arithmetic.binary32 : Arithmetic Binary32 :=
  ⟨.zero, .add, .mul, .div, .sqrt, Binary32.le, ⟨0x34000000⟩⟩

namespace Arithmetic

/-- The sum of the products of the members of two lists, from left to right. -/
def dot (A : Arithmetic α) (left right : List α) : α :=
  (left.zip right).foldl (fun sum p => A.add sum (A.mul p.1 p.2)) A.zero

def isDegenerate (A : Arithmetic α) (left right : List α) : Bool :=
  left.length != right.length || left.isEmpty || A.le (A.dot left left) A.tiny ||
    A.le (A.dot right right) A.tiny

/-- The cosine of two vectors, zero if they have none. -/
def cosine (A : Arithmetic α) (left right : List α) : α :=
  if A.isDegenerate left right then A.zero
  else A.div (A.dot left right) (A.mul (A.sqrt (A.dot left left)) (A.sqrt (A.dot right right)))

end Arithmetic

/-- The cosine of two vectors of 32-bit numbers. -/
def cosine : List Binary32 → List Binary32 → Binary32 := Arithmetic.binary32.cosine

end CodeAtlas.Inference
