import FalconGuide.Lib.Rounding
import Mathlib.Data.Int.Log

namespace FalconGuide.Lib

/-!
# Rounding to so many binary digits

Floating-point numbers without an upper bound, over any ordered field.

* `roundBinary p e x` — the nearest multiple of the unit in the last of `p` digits of `x`, or of
  `2 ^ e` if that is more;
* `zpow_le_roundBinary`, `roundBinary_le_zpow` — powers of two are not passed;
* `roundBinary_of_digits` — numbers of `p` digits are not changed;
* `roundBinary_pos_iff` — what is not rounded to zero;
* `RoundsBelow` — the side of the midpoint between two numbers of `p` digits;
* `roundBinary_lt_iff` — what is rounded below a given bound.
-/

/-- A power of two, in units. -/
theorem exists_zpow_div_eq (K : Type*) [Field K] [NeZero (2 : K)] {e k : ℤ} (h : e ≤ k) :
    ∃ n : ℤ, (2 : K) ^ k / 2 ^ e = n := by
  obtain ⟨n, rfl⟩ := Int.le.dest h
  refine ⟨2 ^ n, ?_⟩
  rw [← zpow_sub₀ two_ne_zero, add_sub_cancel_left, zpow_natCast]
  push_cast
  rfl

variable {K : Type*} [Field K] [LinearOrder K] [FloorRing K]

/-- The nearest number of `p` binary digits, none of them below `2 ^ e`. -/
def roundBinary (p : ℕ) (e : ℤ) (x : K) : K :=
  let unit : K := 2 ^ max (Int.log 2 |x| + 1 - p) e
  roundEven (x / unit) * unit

/-- The distance of the numbers of `p` digits from the last power of two before `y` up to `y`. -/
def unitBelow (p : ℕ) (y : K) : K := 2 ^ (Int.clog 2 y - p)

/-- `x` is closer to the last number of `p` digits before `y` than to the first one from there on,
    or as close to both and the former is the even one. -/
def RoundsBelow (p : ℕ) (y x : K) : Prop :=
  let n := ⌈y / unitBelow p y⌉
  x < (n - 1 / 2) * unitBelow p y ∨ x = (n - 1 / 2) * unitBelow p y ∧ n % 2 = 1

variable [IsStrictOrderedRing K] {p : ℕ} {e k : ℤ} {x y : K}

@[simp] theorem roundBinary_zero : roundBinary p e (0 : K) = 0 := by
  simp [roundBinary, roundEven]

@[simp] theorem roundBinary_neg (x : K) : roundBinary p e (-x) = -roundBinary p e x := by
  simp only [roundBinary, abs_neg, neg_div, roundEven_neg]
  push_cast
  ring

theorem roundBinary_nonneg (hx : 0 ≤ x) : 0 ≤ roundBinary p e x := by
  have hround := roundEven_nonneg
    (div_nonneg hx (zpow_nonneg zero_le_two (max (Int.log 2 |x| + 1 - p) e)))
  exact mul_nonneg (by exact_mod_cast hround) (zpow_nonneg zero_le_two _)

/-- Rounding in units does not pass a power of two. -/
theorem roundEven_mul_le_zpow (h : e ≤ k) (hx : x ≤ 2 ^ k) :
    (roundEven (x / 2 ^ e) : K) * 2 ^ e ≤ 2 ^ k := by
  have hunit : (0 : K) < 2 ^ e := zpow_pos two_pos e
  obtain ⟨n, hn⟩ := exists_zpow_div_eq K h
  have hle : x / 2 ^ e ≤ n := by
    rw [← hn]
    exact div_le_div_of_nonneg_right hx hunit.le
  rw [← le_div_iff₀ hunit, hn]
  exact_mod_cast roundEven_le hle

theorem zpow_le_roundEven_mul (h : e ≤ k) (hx : 2 ^ k ≤ x) :
    2 ^ k ≤ (roundEven (x / 2 ^ e) : K) * 2 ^ e := by
  have hunit : (0 : K) < 2 ^ e := zpow_pos two_pos e
  obtain ⟨n, hn⟩ := exists_zpow_div_eq K h
  have hle : n ≤ x / 2 ^ e := by
    rw [← hn]
    exact div_le_div_of_nonneg_right hx hunit.le
  rw [← div_le_iff₀ hunit, hn]
  exact_mod_cast le_roundEven hle

/-- A power of two that is a number of the format is not passed from below. -/
theorem roundBinary_le_zpow (hp : 1 ≤ p) (he : e ≤ k) (hx : 0 < x) (hle : x ≤ 2 ^ k) :
    roundBinary p e x ≤ 2 ^ k := by
  have hlog : Int.log 2 |x| ≤ k := by
    have hmono := Int.log_mono_right (b := 2) hx hle
    rw [abs_of_pos hx]
    exact hmono.trans_eq (by exact_mod_cast Int.log_zpow (R := K) one_lt_two k)
  exact roundEven_mul_le_zpow (by omega) hle

/-- A power of two is not passed from above. -/
theorem zpow_le_roundBinary (hp : 1 ≤ p) (he : e ≤ k) (hle : 2 ^ k ≤ x) :
    2 ^ k ≤ roundBinary p e x := by
  have hx : 0 < x := (zpow_pos two_pos k).trans_le hle
  have hlog : k ≤ Int.log 2 x := by
    rw [← Int.zpow_le_iff_le_log one_lt_two hx]
    exact_mod_cast hle
  have hself : (2 : K) ^ Int.log 2 x ≤ x := by
    exact_mod_cast Int.zpow_log_le_self one_lt_two hx
  refine (zpow_le_zpow_right₀ one_le_two hlog).trans (zpow_le_roundEven_mul ?_ hself)
  rw [abs_of_pos hx]
  omega

/-- A number of so many digits is not changed. -/
theorem roundBinary_of_digits {n : ℤ} (hn : |n| < 2 ^ p) (hk : e ≤ k) :
    roundBinary p e (n * 2 ^ k : K) = n * 2 ^ k := by
  rcases eq_or_ne n 0 with rfl | hne
  · simp
  have hpos : 0 < |(n * 2 ^ k : K)| := by
    have hcast : (n : K) ≠ 0 := by exact_mod_cast hne
    exact abs_pos.mpr (mul_ne_zero hcast (zpow_pos two_pos k).ne')
  have hlog : Int.log 2 |(n * 2 ^ k : K)| < p + k := by
    have hcast : |(n : K)| < 2 ^ p := by exact_mod_cast hn
    have hscale : (0 : K) < 2 ^ k := zpow_pos two_pos k
    rw [← Int.lt_zpow_iff_log_lt one_lt_two hpos, abs_mul, abs_of_pos hscale]
    push_cast
    rw [zpow_add₀ two_ne_zero, zpow_natCast]
    exact mul_lt_mul_of_pos_right hcast hscale
  -- the unit divides the last digit
  obtain ⟨m, hm⟩ := exists_zpow_div_eq K
    (show max (Int.log 2 |(n * 2 ^ k : K)| + 1 - p) e ≤ k by omega)
  have hunit : (2 : K) ^ max (Int.log 2 |(n * 2 ^ k : K)| + 1 - p) e ≠ 0 :=
    (zpow_pos two_pos _).ne'
  rw [roundBinary, mul_div_assoc, hm, ← Int.cast_mul, roundEven_intCast, Int.cast_mul, ← hm,
    mul_assoc, div_mul_cancel₀ _ hunit]

/-- **Not rounded to zero** is what is more than half the smallest unit. -/
theorem roundBinary_pos_iff (hp : 1 ≤ p) : 0 < roundBinary p e x ↔ 2 ^ (e - 1) < x := by
  have hunit : (0 : K) < 2 ^ e := zpow_pos two_pos e
  rcases le_or_gt x 0 with hx | hx
  · have hneg := roundBinary_nonneg (p := p) (e := e) (neg_nonneg.mpr hx)
    rw [roundBinary_neg] at hneg
    have hhalf : (0 : K) < 2 ^ (e - 1) := zpow_pos two_pos _
    exact ⟨fun h => by linarith, fun h => by linarith⟩
  rcases le_or_gt (2 ^ e) x with hle | hlt
  · have hhalf : (2 : K) ^ (e - 1) < 2 ^ e := zpow_lt_zpow_right₀ one_lt_two (by omega)
    exact ⟨fun _ => hhalf.trans_le hle,
      fun _ => hunit.trans_le (zpow_le_roundBinary hp le_rfl hle)⟩
  · -- below the smallest unit the numbers of the format are its multiples
    have hlog : Int.log 2 x < e := by
      rw [← Int.lt_zpow_iff_log_lt one_lt_two hx]
      exact_mod_cast hlt
    have hmax : max (Int.log 2 |x| + 1 - p) e = e := by
      rw [abs_of_pos hx]
      omega
    have hround : roundEven (x / 2 ^ e) < 1 ↔ x ≤ 2 ^ (e - 1) := by
      have hhalf : (2 : K) ^ (e - 1) = 1 / 2 * 2 ^ e := by
        rw [zpow_sub_one₀ two_ne_zero]
        ring
      rw [roundEven_lt_iff, hhalf, ← div_le_iff₀ hunit, le_iff_lt_or_eq]
      norm_num
    rw [roundBinary, hmax, mul_pos_iff_of_pos_right hunit, Int.cast_pos, ← not_le (a := x),
      ← hround, not_lt]
    rfl

/-- The numbers of the format are multiples of the smallest unit. -/
theorem exists_roundBinary_eq (p : ℕ) (e : ℤ) (x : K) : ∃ n : ℤ, roundBinary p e x = n * 2 ^ e := by
  obtain ⟨m, hm⟩ := exists_zpow_div_eq K (le_max_right (Int.log 2 |x| + 1 - p) e)
  have hunit : (2 : K) ^ e ≠ 0 := (zpow_pos two_pos e).ne'
  refine ⟨roundEven (x / 2 ^ max (Int.log 2 |x| + 1 - p) e) * m, ?_⟩
  rw [Int.cast_mul, ← hm, mul_assoc, div_mul_cancel₀ _ hunit]
  rfl

/-- **Below a bound** is rounded what rounds below it in the units of that bound. -/
theorem roundBinary_lt_iff (hp : 1 ≤ p) (hx : 0 ≤ x) (hy : 0 < y) (he : e ≤ Int.clog 2 y - p) :
    roundBinary p e x < y ↔ RoundsBelow p y x := by
  have hunit : (0 : K) < unitBelow p y := zpow_pos two_pos _
  have hscaled : RoundsBelow p y x ↔ roundEven (x / unitBelow p y) * unitBelow p y < y := by
    rw [← lt_div_iff₀ hunit, ← Int.lt_ceil, roundEven_lt_iff, div_lt_iff₀ hunit,
      div_eq_iff hunit.ne']
    rfl
  rw [hscaled]
  have hlower : (2 : K) ^ (Int.clog 2 y - 1) < y := by
    exact_mod_cast Int.zpow_pred_clog_lt_self one_lt_two hy
  have hupper : y ≤ (2 : K) ^ Int.clog 2 y := by
    exact_mod_cast Int.self_le_zpow_clog one_lt_two y
  rcases hx.eq_or_lt with rfl | hx
  · simp [roundEven]
  rcases lt_trichotomy (Int.log 2 x) (Int.clog 2 y - 1) with hlog | hlog | hlog
  · -- `x` is below the last power of two before `y`, and neither rounding passes it
    have hlt : x < 2 ^ (Int.clog 2 y - 1) := by
      have hiff := Int.lt_zpow_iff_log_lt one_lt_two (x := Int.clog 2 y - 1) hx
      exact_mod_cast hiff.mpr hlog
    have hround := roundBinary_le_zpow hp (show e ≤ Int.clog 2 y - 1 by omega) hx hlt.le
    have hfixed := roundEven_mul_le_zpow (show Int.clog 2 y - p ≤ Int.clog 2 y - 1 by omega) hlt.le
    exact ⟨fun _ => hfixed.trans_lt hlower, fun _ => hround.trans_lt hlower⟩
  · -- between the same powers of two the units are the same
    have hmax : max (Int.log 2 |x| + 1 - p) e = Int.clog 2 y - p := by
      rw [abs_of_pos hx]
      omega
    rw [roundBinary, hmax]
    rfl
  · -- `x` is at least the first power of two from `y` on
    have hle : 2 ^ Int.clog 2 y ≤ x := by
      have hiff := Int.zpow_le_iff_le_log one_lt_two (x := Int.clog 2 y) hx
      exact_mod_cast hiff.mpr (by omega)
    have hround := zpow_le_roundBinary hp (show e ≤ Int.clog 2 y by omega) hle
    have hfixed := zpow_le_roundEven_mul (show Int.clog 2 y - p ≤ Int.clog 2 y by omega) hle
    exact ⟨fun h => absurd h (hupper.trans hround).not_gt,
      fun h => absurd h (hupper.trans hfixed).not_gt⟩

end FalconGuide.Lib
