import FalconGuide.Lib.BinaryRounding
import Mathlib.Data.Rat.Floor

namespace FalconGuide

open Lib

/-!
# Numbers of 64 bits

What a 64-bit integer and a `double` hold of an integer and of a number of an ordered field, which
is `ℚ` where the code is run and `ℝ` where it is compared with geometry.

* `IsInt64` — a signed integer of 64 bits holds it;
* `roundDouble`, `finiteDouble` — the nearest `double`, and the one that is finite;
* `roundDouble_intCast` — the integers that are one;
* `roundDouble_lt_iff`, `roundDouble_lt_iff_of_units` — what is rounded below a bound;
* `roundDouble_pos_iff` — what is not rounded to zero;
* `truncate` — the integer part, towards zero.
-/

/-- A value of `int64_t`. -/
def IsInt64 (n : ℤ) : Prop := -2 ^ 63 ≤ n ∧ n < 2 ^ 63

instance (n : ℤ) : Decidable (IsInt64 n) := inferInstanceAs (Decidable (_ ∧ _))

/-- The nearest `double`; a number that is too large for one is not cut off. -/
def roundDouble {K : Type*} [Field K] [LinearOrder K] [FloorRing K] (x : K) : K :=
  roundBinary 53 (-1074) x

/-- The first number that rounds to more than the largest `double`. -/
def doubleLimit : ℕ := 2 ^ 1024 - 2 ^ 970

/-- The result of an operation, if it is neither infinite nor not a number. -/
def finiteDouble (x : ℚ) : Option ℚ := if |x| < doubleLimit then some (roundDouble x) else none

/-- The integer part, towards zero. -/
def truncate (x : ℚ) : ℤ := if 0 ≤ x then ⌊x⌋ else ⌈x⌉

/-! ### Rounding -/

section

variable {K : Type*} [Field K] [LinearOrder K] [FloorRing K] [IsStrictOrderedRing K] {x y : K}

theorem roundDouble_nonneg (hx : 0 ≤ x) : 0 ≤ roundDouble x := roundBinary_nonneg hx

@[simp] theorem roundDouble_zero : roundDouble (0 : K) = 0 := roundBinary_zero

@[simp] theorem roundDouble_neg (x : K) : roundDouble (-x) = -roundDouble x := roundBinary_neg x

/-- An integer of 53 digits is a `double`. -/
theorem roundDouble_intCast {n : ℤ} (hn : |n| < 2 ^ 53) : roundDouble (n : K) = n := by
  have hdigits := roundBinary_of_digits (K := K) (k := 0) hn (show -1074 ≤ 0 by decide)
  rwa [zpow_zero, mul_one] at hdigits

/-- **Not rounded to zero** is what is more than half the smallest positive `double`. -/
theorem roundDouble_pos_iff : 0 < roundDouble x ↔ 2 ^ (-1075 : ℤ) < x :=
  roundBinary_pos_iff (by decide)

/-- Powers of two that are a `double` are not passed. -/
theorem zpow_le_roundDouble {k : ℤ} (hk : -1074 ≤ k) (hx : 2 ^ k ≤ x) : 2 ^ k ≤ roundDouble x :=
  zpow_le_roundBinary (by decide) hk hx

/-- A sum is not rounded to zero. -/
theorem roundDouble_add_pos_iff :
    0 < roundDouble (roundDouble x + roundDouble y) ↔ 0 < roundDouble x + roundDouble y := by
  obtain ⟨n, hn⟩ := exists_roundBinary_eq 53 (-1074) x
  obtain ⟨m, hm⟩ := exists_roundBinary_eq 53 (-1074) y
  have hunit : (0 : K) < 2 ^ (-1074 : ℤ) := zpow_pos two_pos _
  have hsum : roundDouble x + roundDouble y = (n + m : ℤ) * 2 ^ (-1074 : ℤ) := by
    rw [roundDouble, roundDouble, hn, hm]
    push_cast
    ring
  rw [hsum, mul_pos_iff_of_pos_right hunit, Int.cast_pos]
  constructor
  · intro hpos
    have hproduct := (zpow_pos two_pos _).trans (roundDouble_pos_iff.mp hpos)
    rwa [mul_pos_iff_of_pos_right hunit, Int.cast_pos] at hproduct
  · intro hpos
    have hone : (1 : K) ≤ (n + m : ℤ) := by exact_mod_cast hpos
    exact hunit.trans_le (zpow_le_roundDouble le_rfl (le_mul_of_one_le_left hunit.le hone))

/-- A positive `double` is far enough from zero to be added and rounded. -/
theorem roundDouble_add_pos (hx : 0 ≤ x) (hy : 0 < roundDouble y) :
    0 < roundDouble (x + roundDouble y) := by
  obtain ⟨n, hn⟩ := exists_roundBinary_eq 53 (-1074) y
  have hunit : (0 : K) < 2 ^ (-1074 : ℤ) := zpow_pos two_pos _
  rw [roundDouble, hn, mul_pos_iff_of_pos_right hunit, Int.cast_pos] at hy
  have hone : (1 : K) ≤ n := by exact_mod_cast hy
  refine hunit.trans_le (zpow_le_roundDouble le_rfl ?_)
  rw [roundDouble, hn]
  linarith [le_mul_of_one_le_left hunit.le hone]

/-- Below a positive integer that is no more than `2 ^ 63`. -/
theorem roundDouble_lt_iff {n : ℤ} (hx : 0 ≤ x) (hn : 0 < n) :
    roundDouble x < n ↔ RoundsBelow 53 (n : K) x := by
  have hone : (1 : K) ≤ n := by exact_mod_cast hn
  have hclog : 0 ≤ Int.clog 2 (n : K) := by
    have hmono := Int.clog_mono_right (b := 2) one_pos hone
    rwa [Int.clog_one_right] at hmono
  exact roundBinary_lt_iff (by decide) hx (by exact_mod_cast hn) (by omega)

/-- **Below a bound** between `2 ^ (k - 1)` and `2 ^ k` that is in the `n`-th unit of its last
    digit: what is below the middle of that unit, and the middle itself if `n` is odd. -/
theorem roundDouble_lt_iff_of_units {k n : ℤ} (hx : 0 ≤ x) (hk : -1021 ≤ k)
    (hlower : 2 ^ (k - 1) < y) (hupper : y ≤ 2 ^ k)
    (hn : (n - 1) * 2 ^ (k - 53) < y) (hn' : y ≤ n * 2 ^ (k - 53)) :
    roundDouble x < y ↔
      x < (n - 1 / 2) * 2 ^ (k - 53) ∨ x = (n - 1 / 2) * 2 ^ (k - 53) ∧ n % 2 = 1 := by
  have hy : 0 < y := (zpow_pos two_pos _).trans hlower
  have hclog : Int.clog 2 y = k := by
    refine le_antisymm ?_ ?_
    · rw [← Int.le_zpow_iff_clog_le one_lt_two hy]
      exact_mod_cast hupper
    · have hlt : k - 1 < Int.clog 2 y := by
        rw [← Int.zpow_lt_iff_lt_clog one_lt_two hy]
        exact_mod_cast hlower
      omega
  have hunit : (0 : K) < 2 ^ (k - 53) := zpow_pos two_pos _
  have hbelow : unitBelow 53 y = 2 ^ (k - 53) := by
    rw [unitBelow, hclog]
    norm_num
  have hceil : ⌈y / 2 ^ (k - 53)⌉ = n := by
    rw [Int.ceil_eq_iff, lt_div_iff₀ hunit, div_le_iff₀ hunit]
    exact ⟨hn, hn'⟩
  rw [roundDouble, roundBinary_lt_iff (by decide) hx hy (by omega), RoundsBelow, hbelow, hceil]

end

/-! ### The integer part -/

section

variable {x : ℚ}

theorem truncate_of_nonneg (h : 0 ≤ x) : truncate x = ⌊x⌋ := if_pos h

@[simp] theorem truncate_intCast (n : ℤ) : truncate n = n := by
  rw [truncate]
  split
  · exact Int.floor_intCast n
  · exact Int.ceil_intCast n

@[simp] theorem truncate_neg (x : ℚ) : truncate (-x) = -truncate x := by
  rcases lt_trichotomy x 0 with h | rfl | h
  · rw [truncate, if_pos (by linarith), truncate, if_neg (by linarith)]
    exact Int.floor_neg
  · rfl
  · rw [truncate, if_neg (by linarith), truncate, if_pos h.le]
    exact Int.ceil_neg

end

end FalconGuide
