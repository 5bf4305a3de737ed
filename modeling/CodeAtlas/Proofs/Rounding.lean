import CodeAtlas.Number.Binary
import Mathlib.Algebra.Order.Field.Rat
import Mathlib.Algebra.Order.Field.Basic
import Mathlib.Tactic.Linarith
import Mathlib.Tactic.Ring

/-! # Rounding

A positive number is counted in steps, small enough that all bits of the precision are needed and
no more of them. The rounded number is one with a finite value just if the exact one is closer to
the greatest of those than to the power of two behind it. -/
namespace CodeAtlas.Number

/-! ## Rounded quotients -/

lemma div_le_roundDiv (a d : Nat) : a / d ≤ roundDiv a d := by
  simp only [roundDiv]
  split_ifs <;> omega

lemma roundDiv_le (a d : Nat) : roundDiv a d ≤ a / d + 1 := by
  simp only [roundDiv]
  split_ifs <;> omega

lemma roundDiv_mul_left {c : Nat} (a d : Nat) (hc : 0 < c) :
    roundDiv (c * a) (c * d) = roundDiv a d := by
  have rest : 2 * (c * (a % d)) = c * (2 * (a % d)) := by ring
  simp only [roundDiv, Nat.mul_div_mul_left _ _ hc, Nat.mul_mod_mul_left, rest,
    Nat.mul_lt_mul_left hc]

/-- Halves go to the even number, so that the one below an even number goes up to it. -/
lemma roundDiv_lt_iff {a d k : Nat} (hd : 0 < d) (hk : 0 < k) (even : k % 2 = 0) :
    roundDiv a d < k ↔ 2 * a < (2 * k - 1) * d := by
  have split : d * (a / d) + a % d = a := Nat.div_add_mod a d
  have rest : a % d < d := Nat.mod_lt a hd
  obtain ⟨j, rfl⟩ : ∃ j, k = j + 1 := ⟨k - 1, by omega⟩
  have bound : (2 * (j + 1) - 1) * d = 2 * (d * j) + d := by
    rw [show 2 * (j + 1) - 1 = 2 * j + 1 by omega]
    ring
  rw [bound, roundDiv]
  rcases lt_trichotomy (a / d) j with less | same | more
  · have : d * (a / d + 1) ≤ d * j := Nat.mul_le_mul_left d less
    rw [Nat.mul_add, Nat.mul_one] at this
    refine iff_of_true ?_ (by omega)
    split_ifs <;> omega
  · rw [same] at split ⊢
    split_ifs <;> omega
  · have : d * (j + 1) ≤ d * (a / d) := Nat.mul_le_mul_left d more
    rw [Nat.mul_add, Nat.mul_one] at this
    refine iff_of_false ?_ (by omega)
    split_ifs <;> omega

namespace BinaryFormat

variable {f : BinaryFormat} {num den e : Nat}

/-! ## The step of a quotient -/

/-- In steps of `2 ^ (e - depth)` a quotient takes no more bits than the precision has, and no less
but in the smallest steps. -/
structure IsStep (f : BinaryFormat) (num den e : Nat) : Prop where
  above : num * 2 ^ f.depth < 2 ^ f.precision * (den * 2 ^ e)
  below : e = 0 ∨ 2 ^ (f.precision - 1) * (den * 2 ^ e) ≤ num * 2 ^ f.depth

/-- A quotient in steps, again as a quotient. -/
def inSteps (f : BinaryFormat) (num den e : Nat) : Nat × Nat :=
  if e < f.depth then (num * Nat.pow 2 (f.depth - e), den)
  else (num, den * Nat.pow 2 (e - f.depth))

lemma exists_inSteps (f : BinaryFormat) (num den e : Nat) : ∃ c, 0 < c ∧
    c * (f.inSteps num den e).1 = num * 2 ^ f.depth ∧
    c * (f.inSteps num den e).2 = den * 2 ^ e := by
  rw [inSteps]
  split_ifs with small
  · refine ⟨2 ^ e, Nat.two_pow_pos e, ?_, Nat.mul_comm ..⟩
    rw [Nat.pow_eq, Nat.mul_left_comm, ← Nat.pow_add, Nat.add_sub_cancel' small.le]
  · refine ⟨2 ^ f.depth, Nat.two_pow_pos _, Nat.mul_comm .., ?_⟩
    rw [Nat.pow_eq, Nat.mul_left_comm, ← Nat.pow_add, Nat.add_sub_cancel' (Nat.le_of_not_lt small)]

lemma roundDiv_inSteps : roundDiv (f.inSteps num den e).1 (f.inSteps num den e).2 =
    roundDiv (num * 2 ^ f.depth) (den * 2 ^ e) := by
  obtain ⟨c, positive, left, right⟩ := exists_inSteps f num den e
  rw [← left, ← right, roundDiv_mul_left _ _ positive]

/-- The step behind one that is too small. -/
def nextStep (f : BinaryFormat) (num den e : Nat) : Nat :=
  if 2 * Nat.pow 2 (f.precision - 1) * (f.inSteps num den e).2 ≤ (f.inSteps num den e).1 then e + 1
  else e

lemma nextStep_eq (hp : 0 < f.precision) : f.nextStep num den e =
    if 2 ^ f.precision * (den * 2 ^ e) ≤ num * 2 ^ f.depth then e + 1 else e := by
  obtain ⟨c, positive, left, right⟩ := exists_inSteps f num den e
  rw [nextStep, ← left, ← right, Nat.mul_left_comm, Nat.pow_eq, mul_pow_sub_one hp.ne']
  simp only [Nat.mul_le_mul_left_iff positive]

/-- The first guess of a step. -/
def firstStep (f : BinaryFormat) (num den : Nat) : Nat :=
  ((Nat.log2 num : Int) - Nat.log2 den - 1 - (f.precision - 1) + f.depth).toNat

lemma lt_firstStep (hd : 0 < den) :
    num * 2 ^ f.depth < 2 ^ f.precision * (den * 2 ^ (f.firstStep num den + 1)) := by
  have small : Nat.log2 num + 1 + f.depth ≤
      f.precision + (Nat.log2 den + (f.firstStep num den + 1)) := by
    rw [firstStep]
    omega
  calc num * 2 ^ f.depth < 2 ^ (Nat.log2 num + 1) * 2 ^ f.depth :=
        Nat.mul_lt_mul_of_pos_right Nat.lt_log2_self (Nat.two_pow_pos _)
    _ ≤ 2 ^ f.precision * (2 ^ Nat.log2 den * 2 ^ (f.firstStep num den + 1)) := by
        simp only [← Nat.pow_add]
        exact Nat.pow_le_pow_right Nat.two_pos small
    _ ≤ 2 ^ f.precision * (den * 2 ^ (f.firstStep num den + 1)) :=
        Nat.mul_le_mul_left _ (Nat.mul_le_mul_right _ (Nat.log2_self_le hd.ne'))

lemma firstStep_le (hn : 0 < num) (hp : 0 < f.precision) : f.firstStep num den = 0 ∨
    2 ^ (f.precision - 1) * (den * 2 ^ f.firstStep num den) ≤ num * 2 ^ f.depth := by
  refine or_iff_not_imp_left.2 fun positive => ?_
  have large : f.precision - 1 + (Nat.log2 den + 1 + f.firstStep num den) =
      Nat.log2 num + f.depth := by
    rw [firstStep] at positive ⊢
    omega
  calc 2 ^ (f.precision - 1) * (den * 2 ^ f.firstStep num den)
      ≤ 2 ^ (f.precision - 1) * (2 ^ (Nat.log2 den + 1) * 2 ^ f.firstStep num den) :=
        Nat.mul_le_mul_left _ (Nat.mul_le_mul_right _ Nat.lt_log2_self.le)
    _ = 2 ^ Nat.log2 num * 2 ^ f.depth := by rw [← Nat.pow_add, ← Nat.pow_add, large, Nat.pow_add]
    _ ≤ num * 2 ^ f.depth := Nat.mul_le_mul_right _ (Nat.log2_self_le hn.ne')

/-- The guess is right, or the step behind it is. -/
lemma isStep_nextStep (hn : 0 < num) (hd : 0 < den) (hp : 0 < f.precision) :
    f.IsStep num den (f.nextStep num den (f.firstStep num den)) := by
  rw [nextStep_eq hp]
  split_ifs with long
  · refine ⟨lt_firstStep hd, .inr ?_⟩
    rw [← mul_pow_sub_one hp.ne'] at long
    calc 2 ^ (f.precision - 1) * (den * 2 ^ (f.firstStep num den + 1))
        = 2 * 2 ^ (f.precision - 1) * (den * 2 ^ f.firstStep num den) := by ring
      _ ≤ num * 2 ^ f.depth := long
  · exact ⟨Nat.lt_of_not_le long, firstStep_le hn hp⟩

lemma IsStep.nextStep_eq (step : f.IsStep num den e) (hp : 0 < f.precision) :
    f.nextStep num den e = e := by
  rw [BinaryFormat.nextStep_eq hp, if_neg (Nat.not_le_of_lt step.above)]

/-- The number of steps is rounded, and the number of the step stands before it. -/
lemma exists_ofRatio_eq (hn : 0 < num) (hd : 0 < den) (hp : 0 < f.precision) :
    ∃ e, f.IsStep num den e ∧ f.ofRatio num den =
      min (e * 2 ^ (f.precision - 1) + roundDiv (num * 2 ^ f.depth) (den * 2 ^ e))
        f.infinityBits := by
  have step : f.IsStep num den (f.nextStep num den (f.firstStep num den)) :=
    isStep_nextStep hn hd hp
  have rounded (e : Nat)
      (last : f.nextStep num den (f.nextStep num den (f.firstStep num den)) = e) :
      f.ofRatio num den =
        min (e * 2 ^ (f.precision - 1) + roundDiv (f.inSteps num den e).1 (f.inSteps num den e).2)
          f.infinityBits := by
    rw [ofRatio, if_neg hn.ne', ← last]
    rfl
  exact ⟨_, step, roundDiv_inSteps ▸ rounded _ (step.nextStep_eq hp)⟩

/-! ## Where numbers overflow -/

lemma IsStep.roundDiv_le (step : f.IsStep num den e) (hp : 0 < f.precision) :
    roundDiv (num * 2 ^ f.depth) (den * 2 ^ e) ≤ 2 * 2 ^ (f.precision - 1) := by
  have above : num * 2 ^ f.depth < den * 2 ^ e * (2 * 2 ^ (f.precision - 1)) := by
    rw [Nat.mul_comm (den * _), mul_pow_sub_one hp.ne']
    exact step.above
  exact (Number.roundDiv_le ..).trans (Nat.div_lt_of_lt_mul above)

lemma IsStep.le_roundDiv (step : f.IsStep num den e) (hd : 0 < den) (he : 0 < e) :
    2 ^ (f.precision - 1) ≤ roundDiv (num * 2 ^ f.depth) (den * 2 ^ e) := by
  have positive : 0 < den * 2 ^ e := Nat.mul_pos hd (Nat.two_pow_pos e)
  have below : 2 ^ (f.precision - 1) ≤ num * 2 ^ f.depth / (den * 2 ^ e) :=
    (Nat.le_div_iff_mul_le positive).2 (step.below.resolve_left he.ne')
  exact below.trans (div_le_roundDiv ..)

/-- The step of the greatest numbers. -/
def lastStep (f : BinaryFormat) : Nat := 2 ^ f.exponentBits - 3

lemma infinityBits_eq (he : 2 ≤ f.exponentBits) :
    f.infinityBits = (f.lastStep + 2) * 2 ^ (f.precision - 1) := by
  have four : 4 ≤ 2 ^ f.exponentBits := Nat.pow_le_pow_right Nat.two_pos he
  rw [infinityBits, Nat.pow_eq, Nat.pow_eq, lastStep]
  congr 1
  omega

lemma two_mul_le_of_lt {e' : Nat} (h : e < e') : 2 * (den * 2 ^ e) ≤ den * 2 ^ e' := by
  rw [Nat.mul_left_comm, ← Nat.pow_succ']
  exact Nat.mul_le_mul_left den (Nat.pow_le_pow_right Nat.two_pos h)

/-- A positive quotient is rounded to one with a finite value just if it is below the middle between
the greatest such value and the power of two behind it. -/
theorem ofRatio_lt_infinityBits_iff (hn : 0 < num) (hd : 0 < den) (hp : 0 < f.precision)
    (he : 2 ≤ f.exponentBits) : f.ofRatio num den < f.infinityBits ↔
      2 * (num * 2 ^ f.depth) < (2 ^ (f.precision + 1) - 1) * (den * 2 ^ f.lastStep) := by
  obtain ⟨e, step, rounded⟩ := exists_ofRatio_eq hn hd hp
  have all : 2 ^ f.precision = 2 * 2 ^ (f.precision - 1) := (mul_pow_sub_one hp.ne' 2).symm
  have least : 0 < 2 ^ (f.precision - 1) := Nat.two_pow_pos _
  have atMost := step.roundDiv_le hp
  have atLeast := step.le_roundDiv hd
  have above := step.above
  have below := step.below
  rw [rounded, min_lt_iff, or_iff_left (lt_irrefl _), infinityBits_eq he, Nat.pow_succ']
  rw [all] at above ⊢
  generalize 2 ^ (f.precision - 1) = half at *
  rcases lt_trichotomy e f.lastStep with less | same | more
  · have bits : (e + 2) * half < (f.lastStep + 2) * half :=
      Nat.mul_lt_mul_of_pos_right (Nat.add_lt_add_right less 2) least
    rw [Nat.add_mul] at bits
    refine iff_of_true (by omega) ?_
    calc 2 * (num * 2 ^ f.depth) < 2 * half * (2 * (den * 2 ^ e)) := by linarith
      _ ≤ 2 * half * (den * 2 ^ f.lastStep) := Nat.mul_le_mul_left _ (two_mul_le_of_lt less)
      _ ≤ (2 * (2 * half) - 1) * (den * 2 ^ f.lastStep) := Nat.mul_le_mul_right _ (by omega)
  · subst same
    rw [← roundDiv_lt_iff (Nat.mul_pos hd (Nat.two_pow_pos _)) (by omega) (by omega), Nat.add_mul]
    omega
  · have bits : (f.lastStep + 2) * half ≤ (e + 1) * half :=
      Nat.mul_le_mul_right half (Nat.add_le_add_right more 1)
    have positive : 0 < e := Nat.zero_lt_of_lt more
    rw [Nat.add_mul e, Nat.one_mul] at bits
    refine iff_of_false (by have := atLeast positive; omega) (Nat.not_lt_of_le ?_)
    calc (2 * (2 * half) - 1) * (den * 2 ^ f.lastStep)
        ≤ 2 * (2 * half) * (den * 2 ^ f.lastStep) := Nat.mul_le_mul_right _ (Nat.sub_le ..)
      _ = 2 * (half * (2 * (den * 2 ^ f.lastStep))) := by ring
      _ ≤ 2 * (half * (den * 2 ^ e)) :=
        Nat.mul_le_mul_left 2 (Nat.mul_le_mul_left half (two_mul_le_of_lt more))
      _ ≤ 2 * (num * 2 ^ f.depth) := Nat.mul_le_mul_left 2 (below.resolve_left positive.ne')

lemma ofRatio_le : f.ofRatio num den ≤ f.infinityBits := by
  rw [ofRatio]
  split_ifs
  · exact Nat.zero_le _
  · exact Nat.min_le_right ..

/-- The middle between the greatest finite value and the power of two behind it. -/
def limit (f : BinaryFormat) : ℚ :=
  ((2 ^ (f.precision + 1) - 1) * 2 ^ f.lastStep : Nat) / 2 ^ (f.depth + 1)

lemma limit_single : single.limit = 2 ^ 128 - 2 ^ 103 := by
  norm_num [limit, lastStep, depth, single]

lemma limit_pos : 0 < f.limit := by
  have numerator : 0 < (2 ^ (f.precision + 1) - 1) * 2 ^ f.lastStep :=
    Nat.mul_pos (by have := Nat.one_lt_two_pow (Nat.succ_ne_zero f.precision); omega)
      (Nat.two_pow_pos _)
  rw [limit]
  positivity

lemma infinityBits_pos (he : 2 ≤ f.exponentBits) : 0 < f.infinityBits := by
  rw [infinityBits_eq he]
  positivity

lemma ofRatio_lt_iff_lt_limit (hd : 0 < den) (hp : 0 < f.precision) (he : 2 ≤ f.exponentBits) :
    f.ofRatio num den < f.infinityBits ↔ (num : ℚ) / den < f.limit := by
  rcases Nat.eq_zero_or_pos num with rfl | hn
  · rw [Nat.cast_zero, zero_div]
    exact iff_of_true (infinityBits_pos he) limit_pos
  · have denominator : (0 : ℚ) < den := Nat.cast_pos.2 hd
    rw [ofRatio_lt_infinityBits_iff hn hd hp he, limit, div_lt_div_iff₀ denominator (by positivity)]
    norm_cast
    rw [pow_succ' 2 f.depth, Nat.mul_left_comm, Nat.mul_assoc, Nat.mul_comm den]

/-! ## What bits stand for -/

/-- How far a value is from zero, if it is finite. -/
def magnitude? (f : BinaryFormat) : BinaryValue → Option ℚ
  | .finite _ m e => some (m * 2 ^ e / 2 ^ f.depth)
  | .infinite _ => none
  | .nan => none

lemma magnitude?_decode_isSome (bits : Nat) : (f.magnitude? (f.decode bits)).isSome = true ↔
    bits % f.signBit < f.infinityBits := by
  simp only [decode]
  split_ifs with infinite nan zero
  · simp [magnitude?, infinite]
  · simpa [magnitude?] using nan.le
  · simp [magnitude?]
    omega
  · simp [magnitude?]
    omega

lemma infinityBits_lt_nanBits (f : BinaryFormat) : f.infinityBits < f.nanBits :=
  Nat.lt_add_of_pos_right (Nat.two_pow_pos _)

lemma nanBits_lt_signBit (hp : 2 ≤ f.precision) : f.nanBits < f.signBit := by
  have half : 2 ^ (f.precision - 2) < 2 ^ (f.precision - 1) :=
    Nat.pow_lt_pow_right Nat.one_lt_two (by omega)
  have sign : f.signBit = f.infinityBits + 2 ^ (f.precision - 1) := by
    rw [signBit, infinityBits, Nat.pow_eq, Nat.pow_eq, Nat.pow_eq, Nat.pow_add, Nat.sub_mul,
      Nat.one_mul, Nat.mul_comm, Nat.sub_add_cancel]
    exact Nat.le_mul_of_pos_left _ (Nat.two_pow_pos _)
  rw [sign]
  exact Nat.add_lt_add_left half _

lemma signed_mod (negative : Bool) {n : Nat} (h : n < f.signBit) :
    ((if negative then f.signBit else 0) + n) % f.signBit = n := by
  cases negative with
  | false => simpa using Nat.mod_eq_of_lt h
  | true => simpa using Nat.mod_eq_of_lt h

/-- A finite value is rounded as the quotient that it is. -/
lemma exists_ratio_eq (f g : BinaryFormat) (m e : Nat) : ∃ num den, 0 < den ∧
    (if e < f.depth then g.ofRatio m (Nat.pow 2 (f.depth - e))
      else g.ofRatio (m * Nat.pow 2 (e - f.depth)) 1) = g.ofRatio num den ∧
    (num : ℚ) / den = m * 2 ^ e / 2 ^ f.depth := by
  split_ifs with small
  · refine ⟨m, 2 ^ (f.depth - e), Nat.two_pow_pos _, rfl, ?_⟩
    rw [div_eq_div_iff (by positivity) (by positivity)]
    push_cast
    rw [mul_assoc, ← pow_add, Nat.add_sub_cancel' small.le]
  · refine ⟨m * 2 ^ (e - f.depth), 1, Nat.one_pos, rfl, ?_⟩
    rw [div_eq_div_iff (by simp) (by positivity)]
    push_cast
    rw [mul_assoc, ← pow_add, Nat.sub_add_cancel (Nat.le_of_not_lt small), mul_one]

/-- A value is finite in another format just if it is finite and below the limit of that one. -/
lemma convert_mod_lt_iff {g : BinaryFormat} (hp : 2 ≤ g.precision) (he : 2 ≤ g.exponentBits)
    (bits : Nat) : f.convert g bits % g.signBit < g.infinityBits ↔
      ∃ r ∈ f.magnitude? (f.decode bits), r < g.limit := by
  have nan : g.nanBits < g.signBit := nanBits_lt_signBit hp
  have infinite := g.infinityBits_lt_nanBits
  rw [convert]
  cases f.decode bits with
  | nan =>
    rw [Nat.mod_eq_of_lt nan]
    simpa [magnitude?] using infinite.le
  | infinite negative =>
    rw [signed_mod negative (infinite.trans nan)]
    simp [magnitude?]
  | finite negative m e =>
    simp only [magnitude?, Option.mem_some_iff, exists_eq_left']
    obtain ⟨num, den, positive, same, ratio⟩ := exists_ratio_eq f g m e
    rw [same, signed_mod negative (ofRatio_le.trans_lt (infinite.trans nan)),
      ofRatio_lt_iff_lt_limit positive (by omega) he, ratio]

end BinaryFormat

/-! ## Numbers of 64 bits in 32 -/

lemma Binary32.isFinite_iff (x : Binary32) : x.isFinite = true ↔
    x.bits.toNat % BinaryFormat.single.signBit < BinaryFormat.single.infinityBits := by
  rw [isFinite, ← BinaryFormat.magnitude?_decode_isSome, ← Binary32.decode]
  cases x.decode <;> simp [BinaryFormat.magnitude?]

namespace Binary64

/-- How far a number is from zero, if it is finite. -/
def magnitude? (x : Binary64) : Option ℚ := BinaryFormat.double.magnitude? x.decode

lemma isFinite_iff (x : Binary64) : x.isFinite = true ↔ ∃ r, x.magnitude? = some r := by
  rw [isFinite, magnitude?]
  cases x.decode <;> simp [BinaryFormat.magnitude?]

/-- A number is finite in 32 bits just if it is below the middle between the greatest number of
those and `2 ^ 128`. -/
theorem toBinary32_isFinite_iff (x : Binary64) : x.toBinary32.isFinite = true ↔
    ∃ r ∈ x.magnitude?, r < 2 ^ 128 - 2 ^ 103 := by
  have bits : x.toBinary32.bits.toNat % BinaryFormat.single.signBit =
      BinaryFormat.double.convert .single x.bits.toNat % BinaryFormat.single.signBit := by
    rw [toBinary32, Binary32.ofNatBits, UInt32.toNat_ofNat']
    exact Nat.mod_mod_of_dvd _ (by decide)
  rw [Binary32.isFinite_iff, bits, BinaryFormat.convert_mod_lt_iff (by decide) (by decide),
    BinaryFormat.limit_single]
  rfl

lemma isFinite_of_toBinary32 {x : Binary64} (h : x.toBinary32.isFinite = true) :
    x.isFinite = true := by
  obtain ⟨r, some, -⟩ := (toBinary32_isFinite_iff x).1 h
  exact (isFinite_iff x).2 ⟨r, some⟩

end Binary64

end CodeAtlas.Number
