import CodeAtlas.Inference.Similarity
import CodeAtlas.Proofs.Rounding
import Mathlib.Analysis.Real.Sqrt

/-! # Cosines without rounding

Cosines of vectors of real numbers. A squared length is zero just if all members are, but it is
compared with a number above zero. So a vector that is short enough is taken for one of zeros, and
how short that is depends on its scale and on how many members it has. -/
namespace CodeAtlas.Inference

open Number

/-! ## Arithmetic without rounding -/

/-- Arithmetic on real numbers; `tiny` is the same number as in 32 bits. -/
noncomputable def Arithmetic.real : Arithmetic ℝ where
  zero := 0
  add x y := x + y
  mul x y := x * y
  div x y := x / y
  sqrt := Real.sqrt
  le x y := decide (x ≤ y)
  tiny := 2 ^ (-23 : ℤ)

open Arithmetic (real)

/-- The sum of the squares of the members. -/
def squaredLength (v : List ℝ) : ℝ := (v.map fun x => x * x).sum

/-- All members are zero. -/
def IsZero (v : List ℝ) : Prop := ∀ x ∈ v, x = 0

/-- Vectors between which there is no angle: they have different lengths, they are empty, or one of
them is all zero. -/
def HasNoAngle (v w : List ℝ) : Prop :=
  v.length ≠ w.length ∨ (v = [] ∧ w = []) ∨ IsZero v ∨ IsZero w

variable {v w : List ℝ}

lemma squaredLength_cons (x : ℝ) (v : List ℝ) :
    squaredLength (x :: v) = x * x + squaredLength v := List.sum_cons

lemma squaredLength_nonneg (v : List ℝ) : 0 ≤ squaredLength v := by
  refine List.sum_nonneg ?_
  rw [List.forall_mem_map]
  exact fun x _ => mul_self_nonneg x

lemma squaredLength_eq_zero : squaredLength v = 0 ↔ IsZero v := by
  induction v with
  | nil => simp [squaredLength, IsZero]
  | cons x v ih =>
    rw [squaredLength_cons, add_eq_zero_iff_of_nonneg (mul_self_nonneg x) (squaredLength_nonneg v),
      mul_self_eq_zero, ih, IsZero, IsZero, List.forall_mem_cons]

lemma squaredLength_scaled (c : ℝ) (v : List ℝ) :
    squaredLength (v.map (c * ·)) = c ^ 2 * squaredLength v := by
  induction v with
  | nil => simp [squaredLength]
  | cons x v ih =>
    rw [List.map_cons, squaredLength_cons, ih, squaredLength_cons]
    ring

lemma dot_self (v : List ℝ) : real.dot v v = squaredLength v := by
  have pairs : v.zip v = v.map fun x => (x, x) := List.zipWith_self
  rw [Arithmetic.dot, pairs, List.foldl_map, squaredLength, List.sum_eq_foldl, List.foldl_map]
  rfl

/-! ## Which vectors are taken for degenerate -/

lemma real_le_tiny {x : ℝ} : real.le x real.tiny = true ↔ x ≤ 2 ^ (-23 : ℤ) :=
  decide_eq_true_iff

lemma isDegenerate_real_iff : real.isDegenerate v w = true ↔
    v.length ≠ w.length ∨ v = [] ∨ squaredLength v ≤ 2 ^ (-23 : ℤ) ∨
      squaredLength w ≤ 2 ^ (-23 : ℤ) := by
  simp only [Arithmetic.isDegenerate, dot_self, Bool.or_eq_true, bne_iff_ne, List.isEmpty_iff,
    real_le_tiny, or_assoc]

lemma IsZero.squaredLength_le (h : IsZero v) : squaredLength v ≤ 2 ^ (-23 : ℤ) := by
  rw [squaredLength_eq_zero.2 h]
  positivity

lemma HasNoAngle.isDegenerate (h : HasNoAngle v w) : real.isDegenerate v w = true := by
  rw [isDegenerate_real_iff]
  obtain lengths | ⟨empty, -⟩ | left | right := h
  · exact .inl lengths
  · exact .inr (.inl empty)
  · exact .inr (.inr (.inl left.squaredLength_le))
  · exact .inr (.inr (.inr right.squaredLength_le))

/-- Vectors with an angle are taken for degenerate just if one of them is short. -/
lemma isDegenerate_real_of_angle (h : ¬ HasNoAngle v w) : real.isDegenerate v w = true ↔
    squaredLength v ≤ 2 ^ (-23 : ℤ) ∨ squaredLength w ≤ 2 ^ (-23 : ℤ) := by
  rw [isDegenerate_real_iff]
  constructor
  · rintro (lengths | rfl | short)
    · exact absurd (.inl lengths) h
    · exact absurd (.inr (.inr (.inl (by simp [IsZero])))) h
    · exact short
  · exact fun short => .inr (.inr short)

/-! ## Similarity with itself -/

lemma cosine_self_of_lt (long : 2 ^ (-23 : ℤ) < squaredLength v) : real.cosine v v = 1 := by
  have positive : 0 < squaredLength v := lt_trans (by positivity) long
  have nondegenerate : ¬ real.isDegenerate v v = true := by
    rw [isDegenerate_real_iff]
    rintro (lengths | rfl | short | short)
    · exact lengths rfl
    · exact positive.ne rfl
    · exact short.not_gt long
    · exact short.not_gt long
  rw [Arithmetic.cosine, if_neg nondegenerate, dot_self]
  change squaredLength v / (√(squaredLength v) * √(squaredLength v)) = 1
  rw [Real.mul_self_sqrt positive.le, div_self positive.ne']

lemma cosine_self_of_le (short : squaredLength v ≤ 2 ^ (-23 : ℤ)) : real.cosine v v = 0 := by
  rw [Arithmetic.cosine, if_pos (isDegenerate_real_iff.2 (.inr (.inr (.inl short))))]
  rfl

lemma cosine_self_eq_one_iff : real.cosine v v = 1 ↔ 2 ^ (-23 : ℤ) < squaredLength v := by
  refine ⟨fun one => lt_of_not_ge fun short => ?_, cosine_self_of_lt⟩
  rw [cosine_self_of_le short] at one
  exact zero_ne_one one

/-- Vectors are taken for degenerate if one of them is short, too; so those with an angle are told
from those without just if both are longer. At every scale, a vector has similarity one with itself
just if its squared length is more than `2 ^ (-23)`, and else similarity zero. -/
theorem real_cosine_iff (v w : List ℝ) (c : ℝ) :
    (real.isDegenerate v w = true ↔ v.length ≠ w.length ∨ v = [] ∨
      squaredLength v ≤ 2 ^ (-23 : ℤ) ∨ squaredLength w ≤ 2 ^ (-23 : ℤ)) ∧
    ((real.isDegenerate v w = true ↔ HasNoAngle v w) ↔
      HasNoAngle v w ∨ (2 ^ (-23 : ℤ) < squaredLength v ∧ 2 ^ (-23 : ℤ) < squaredLength w)) ∧
    (real.cosine v v = 1 ↔ 2 ^ (-23 : ℤ) < squaredLength v) ∧
    (real.cosine v v = 0 ↔ squaredLength v ≤ 2 ^ (-23 : ℤ)) ∧
    (real.cosine (v.map (c * ·)) (v.map (c * ·)) = 1 ↔
      2 ^ (-23 : ℤ) < c ^ 2 * squaredLength v) := by
  refine ⟨isDegenerate_real_iff, ?_, cosine_self_eq_one_iff, ?_, ?_⟩
  · by_cases none : HasNoAngle v w
    · exact iff_of_true (iff_of_true none.isDegenerate none) (.inl none)
    · rw [isDegenerate_real_of_angle none, iff_false_right none, or_iff_right none, not_or, not_le,
        not_le]
  · refine ⟨fun zero => le_of_not_gt fun long => ?_, cosine_self_of_le⟩
    rw [cosine_self_of_lt long] at zero
    exact one_ne_zero zero
  · rw [cosine_self_eq_one_iff, squaredLength_scaled]

/-! ## A short vector -/

/-- A vector of one number, which is `2 ^ (-12)`. -/
def faint : List Binary32 := [⟨0x39800000⟩]

/-- The vector is not zero, and it is taken for one that is, with rounding and without. -/
theorem cosine_self_faint :
    faint.map (fun x => BinaryFormat.single.magnitude? x.decode) = [some (2 ^ (-12 : ℤ))] ∧
    cosine faint faint = .zero ∧
    ¬ HasNoAngle [2 ^ (-12 : ℤ)] [2 ^ (-12 : ℤ)] ∧
    real.isDegenerate [2 ^ (-12 : ℤ)] [2 ^ (-12 : ℤ)] = true ∧
    real.cosine [2 ^ (-12 : ℤ)] [2 ^ (-12 : ℤ)] ≠ 1 := by
  have decoded : (⟨0x39800000⟩ : Binary32).decode = .finite false (2 ^ 23) 114 := by decide +kernel
  have short : squaredLength [2 ^ (-12 : ℤ)] ≤ 2 ^ (-23 : ℤ) := by
    norm_num [squaredLength]
  refine ⟨?_, by decide +kernel, ?_, isDegenerate_real_iff.2 (.inr (.inr (.inl short))), ?_⟩
  · rw [faint, List.map_singleton, decoded]
    norm_num [BinaryFormat.magnitude?, BinaryFormat.depth, BinaryFormat.single]
  · simp [HasNoAngle, IsZero]
  · rw [Ne, cosine_self_eq_one_iff, not_lt]
    exact short

end CodeAtlas.Inference
