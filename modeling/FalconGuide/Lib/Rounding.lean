import FalconGuide.Lib.Numerals
import Mathlib.Algebra.Order.Round
import Mathlib.Tactic.Linarith
import Mathlib.Tactic.Ring

namespace FalconGuide.Lib

/-!
# Rounding to the nearest integer, ties to even

* `roundEven` — the nearest integer, the even one of two;
* `abs_roundEven_sub_le` — it is at most a half away;
* `roundEven_lt_iff`, `roundEven_lt_iff_of_even` — what is rounded below an integer;
* `roundEven_le`, `le_roundEven`, `roundEven_nonneg`, `roundEven_neg`, `roundEven_intCast`.
-/

variable {K : Type*} [Field K] [LinearOrder K] [FloorRing K]

/-- The nearest integer, the even one of two. -/
def roundEven (x : K) : ℤ :=
  let n := ⌊x⌋
  if 2 * (x - n) < 1 then n
  else if 1 < 2 * (x - n) then n + 1
  else if n % 2 = 0 then n else n + 1

/-- It is the floor, or one more. -/
theorem roundEven_cases (x : K) :
    (roundEven x = ⌊x⌋ ∧ 2 * (x - ⌊x⌋) ≤ 1) ∨ (roundEven x = ⌊x⌋ + 1 ∧ 1 ≤ 2 * (x - ⌊x⌋)) := by
  simp only [roundEven]
  split
  · rename_i hlt
    exact .inl ⟨rfl, hlt.le⟩
  · rename_i hge
    split
    · rename_i hgt
      exact .inr ⟨rfl, hgt.le⟩
    · rename_i hle
      split
      · exact .inl ⟨rfl, not_lt.mp hle⟩
      · exact .inr ⟨rfl, not_lt.mp hge⟩

theorem le_roundEven {x : K} {n : ℤ} (h : n ≤ x) : n ≤ roundEven x := by
  have hfloor : n ≤ ⌊x⌋ := Int.le_floor.mpr h
  rcases roundEven_cases x with ⟨hround, -⟩ | ⟨hround, -⟩ <;> omega

theorem roundEven_nonneg {x : K} (hx : 0 ≤ x) : 0 ≤ roundEven x :=
  le_roundEven (by simpa using hx)

variable [IsStrictOrderedRing K]

@[simp] theorem roundEven_intCast (n : ℤ) : roundEven (n : K) = n := by
  simp [roundEven]

/-- At most a half away. -/
theorem abs_roundEven_sub_le (x : K) : |(roundEven x : K) - x| ≤ 1 / 2 := by
  have hfloor := Int.floor_le x
  have hlt := Int.lt_floor_add_one x
  rw [abs_le]
  rcases roundEven_cases x with ⟨h, hhalf⟩ | ⟨h, hhalf⟩
  · rw [h]
    constructor <;> linarith
  · rw [h]
    push_cast
    constructor <;> linarith

/-- A tie goes to the even one. -/
theorem roundEven_sub_half (n : ℤ) :
    roundEven (n - 1 / 2 : K) = if n % 2 = 0 then n else n - 1 := by
  have hfloor : ⌊(n - 1 / 2 : K)⌋ = n - 1 := by
    rw [Int.floor_eq_iff]
    push_cast
    constructor <;> linarith
  have hfraction : 2 * ((n - 1 / 2 : K) - (n - 1 : ℤ)) = 1 := by
    push_cast
    ring
  simp only [roundEven, hfloor, hfraction, lt_irrefl, if_false]
  split
  · rw [if_neg (by omega)]
  · rw [if_pos (by omega), sub_add_cancel]

theorem roundEven_le {x : K} {n : ℤ} (h : x ≤ n) : roundEven x ≤ n := by
  have hfloor := Int.floor_le x
  have hstep : ⌊x⌋ ≤ n := Int.floor_le_iff.mpr (by linarith)
  rcases roundEven_cases x with ⟨hround, -⟩ | ⟨hround, hhalf⟩
  · omega
  · have hlt : (⌊x⌋ : K) < n := by linarith
    have hlt' : ⌊x⌋ < n := by exact_mod_cast hlt
    omega

/-- **Below an integer** is rounded what is more than a half below it, and the tie if the integer
    is odd. -/
theorem roundEven_lt_iff {n : ℤ} (x : K) :
    roundEven x < n ↔ x < n - 1 / 2 ∨ x = n - 1 / 2 ∧ n % 2 = 1 := by
  constructor
  · intro h
    have hstep : (roundEven x : K) + 1 ≤ n := by exact_mod_cast h
    have hnear := (abs_le.mp (abs_roundEven_sub_le x)).1
    rcases (show x ≤ n - 1 / 2 by linarith).lt_or_eq with hlt | rfl
    · exact .inl hlt
    · refine .inr ⟨rfl, ?_⟩
      rw [roundEven_sub_half] at h
      split at h <;> omega
  · rintro (hlt | ⟨rfl, hodd⟩)
    · have hnear := (abs_le.mp (abs_roundEven_sub_le x)).2
      have hstep : (roundEven x : K) < n := by linarith
      exact_mod_cast hstep
    · rw [roundEven_sub_half, if_neg (by omega)]
      omega

/-- The nearest integer to the other side of zero. -/
@[simp] theorem roundEven_neg (x : K) : roundEven (-x) = -roundEven x := by
  refine eq_of_forall_gt_iff fun n => ?_
  -- a tie above `-n` goes up exactly if the one below `n` goes down
  have hup : roundEven x < -n + 1 ↔ x < -n + 1 / 2 ∨ x = -n + 1 / 2 ∧ n % 2 = 0 := by
    rw [roundEven_lt_iff]
    push_cast
    have hhalf : (-n + 1 - 1 / 2 : K) = -n + 1 / 2 := by ring
    rw [hhalf, show (-n + 1) % 2 = 1 ↔ n % 2 = 0 by omega]
  rw [roundEven_lt_iff, show -roundEven x < n ↔ ¬ roundEven x < -n + 1 by omega, hup, not_or,
    not_and, not_lt, Int.emod_two_ne_zero]
  constructor
  · rintro (hlt | ⟨heq, hodd⟩)
    · exact ⟨by linarith, fun htie => by linarith⟩
    · exact ⟨by linarith, fun _ => hodd⟩
  · rintro ⟨hle, htie⟩
    rcases hle.lt_or_eq with hlt | heq
    · exact .inl (by linarith)
    · exact .inr ⟨by linarith, htie heq.symm⟩

/-- Below an even integer. -/
theorem roundEven_lt_iff_of_even {n : ℤ} (hn : n % 2 = 0) (x : K) :
    roundEven x < n ↔ x < n - 1 / 2 := by
  rw [roundEven_lt_iff, or_iff_left]
  rintro ⟨-, hodd⟩
  omega

end FalconGuide.Lib
