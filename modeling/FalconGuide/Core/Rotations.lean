import FalconGuide.Core.Math
import Mathlib.Tactic.FieldSimp
import Mathlib.Tactic.Linarith
import Mathlib.Tactic.Ring

namespace FalconGuide

open Matrix

/-!
# Rotations as quaternions

* `Quat.normSq_normalized`, `Quat.normalized_normalized` — what `normalized()` returns is a unit
  quaternion, unless its argument is zero, and normalising it again changes nothing;
* `Quat.toRotationMatrix_mul_transpose` — the matrix of a unit quaternion is orthogonal;
* `expMapSo3_zero` — the rotation of the zero vector;
* `logMapSo3_star_mul_self` — the rotation between equal attitudes.
-/

theorem dotProduct_self_nonneg {n : ℕ} (v : Fin n → ℝ) : 0 ≤ v ⬝ᵥ v :=
  Finset.sum_nonneg fun i _ => mul_self_nonneg (v i)

namespace Quat

/-- A unit quaternion is normalised. -/
theorem normalized_of_unit {q : Quat} (h : Quaternion.normSq q = 1) : q.normalized = q := by
  rw [normalized, norm, h, if_pos one_pos, Real.sqrt_one, inv_one, one_smul]

/-- Unless it is zero, a quaternion has a length that divides out. -/
theorem normSq_normalized {q : Quat} (h : 0 < Quaternion.normSq q) :
    Quaternion.normSq q.normalized = 1 := by
  have hsqrt : √(Quaternion.normSq q) ^ 2 = Quaternion.normSq q := Real.sq_sqrt h.le
  rw [normalized, if_pos h, norm, Quaternion.normSq_smul, inv_pow, hsqrt]
  exact inv_mul_cancel₀ h.ne'

/-- What `normalized()` makes of a quaternion that is not zero. -/
theorem normSq_normalized_of_ne {q : Quat} (hq : q ≠ 0) :
    Quaternion.normSq q.normalized = 1 :=
  normSq_normalized
    (lt_of_le_of_ne Quaternion.normSq_nonneg fun h => hq (Quaternion.normSq_eq_zero.mp h.symm))

theorem ne_zero_of_unit {q : Quat} (hq : Quaternion.normSq q = 1) : q ≠ 0 := by
  intro hzero
  rw [hzero, map_zero] at hq
  exact zero_ne_one hq

/-- The length of what `normalized()` returns. -/
theorem normalized_cases (q : Quat) :
    Quaternion.normSq q.normalized = 1 ∨ q.normalized = 0 := by
  by_cases hq : q = 0
  · rw [hq, normalized, if_neg (by simp)]
    exact .inr rfl
  · exact .inl (normSq_normalized_of_ne hq)

/-- Normalising twice is normalising once. -/
theorem normalized_normalized (q : Quat) : q.normalized.normalized = q.normalized := by
  by_cases h : 0 < Quaternion.normSq q
  · exact normalized_of_unit (normSq_normalized h)
  · have hq : q.normalized = q := by rw [normalized, if_neg h]
    rw [hq, hq]

end Quat

namespace Quat

/-- The rotation matrix of a quaternion of any length, scaled by the square of the length. -/
def scaledRotation (q : Quat) : Mat3 :=
  !![q.re ^ 2 + q.imI ^ 2 - q.imJ ^ 2 - q.imK ^ 2, 2 * (q.imI * q.imJ - q.re * q.imK),
      2 * (q.imI * q.imK + q.re * q.imJ);
    2 * (q.imI * q.imJ + q.re * q.imK), q.re ^ 2 - q.imI ^ 2 + q.imJ ^ 2 - q.imK ^ 2,
      2 * (q.imJ * q.imK - q.re * q.imI);
    2 * (q.imI * q.imK - q.re * q.imJ), 2 * (q.imJ * q.imK + q.re * q.imI),
      q.re ^ 2 - q.imI ^ 2 - q.imJ ^ 2 + q.imK ^ 2]

theorem scaledRotation_mul (p q : Quat) :
    scaledRotation (p * q) = scaledRotation p * scaledRotation q := by
  ext i j
  fin_cases i <;> fin_cases j <;>
    simp [scaledRotation, Matrix.mul_apply, Fin.sum_univ_three] <;> ring

/-- On unit quaternions that is what Eigen computes. -/
theorem toRotationMatrix_of_unit {q : Quat} (h : Quaternion.normSq q = 1) :
    toRotationMatrix q = scaledRotation q := by
  rw [Quaternion.normSq_def'] at h
  ext i j
  fin_cases i <;> fin_cases j <;> simp [scaledRotation, toRotationMatrix] <;> linarith

/-- **Products** of unit quaternions are products of rotations. -/
theorem toRotationMatrix_mul {p q : Quat} (hp : Quaternion.normSq p = 1)
    (hq : Quaternion.normSq q = 1) :
    toRotationMatrix (p * q) = toRotationMatrix p * toRotationMatrix q := by
  have hpq : Quaternion.normSq (p * q) = 1 := by rw [map_mul, hp, hq, one_mul]
  rw [toRotationMatrix_of_unit hpq, toRotationMatrix_of_unit hp, toRotationMatrix_of_unit hq,
    scaledRotation_mul]

/-- The conjugate turns back. -/
theorem toRotationMatrix_star (q : Quat) : toRotationMatrix (star q) = (toRotationMatrix q)ᵀ := by
  ext i j
  fin_cases i <;> fin_cases j <;> simp [toRotationMatrix] <;> ring

theorem toRotationMatrix_mul_transpose {q : Quat} (h : Quaternion.normSq q = 1) :
    toRotationMatrix q * (toRotationMatrix q)ᵀ = 1 := by
  have hstar : Quaternion.normSq (star q) = 1 := by rw [Quaternion.normSq_star, h]
  have hone : q * star q = 1 := by
    rw [Quaternion.self_mul_star, h]
    rfl
  rw [← toRotationMatrix_star, ← toRotationMatrix_mul h hstar, hone, toRotationMatrix_one]

end Quat

/-- The zero vector is no rotation. -/
theorem expMapSo3_zero : expMapSo3 0 = 1 := by
  have hangle : euclideanNorm (0 : Vec3) < 1e-12 := by
    rw [euclideanNorm, zero_dotProduct, Real.sqrt_zero]
    norm_num
  have hone : (⟨1, 1 / 2 * (0 : Vec3) 0, 1 / 2 * (0 : Vec3) 1, 1 / 2 * (0 : Vec3) 2⟩ : Quat)
      = 1 := by
    ext <;> simp
  have hnorm : Quat.norm 1 ≠ 0 := by
    simp [Quat.norm]
  calc expMapSo3 0
      = normalizeQuaternion ⟨1, 1 / 2 * (0 : Vec3) 0, 1 / 2 * (0 : Vec3) 1, 1 / 2 * (0 : Vec3) 2⟩ :=
        if_pos hangle
    _ = normalizeQuaternion 1 := congrArg normalizeQuaternion hone
    _ = 1 := (if_neg hnorm).trans Quat.normalized_one

/-- Equal attitudes differ by no rotation. -/
theorem logMapSo3_star_mul_self (q : Quat) : logMapSo3 (star q * q) = 0 := by
  have hvec : Quat.vec (normalizeQuaternion (star q * q)) = 0 := by
    rw [Quaternion.star_mul_self, normalizeQuaternion]
    split
    · ext i
      fin_cases i <;> rfl
    · rw [Quat.normalized]
      split
      · ext i
        fin_cases i <;> simp [Quat.vec]
      · ext i
        fin_cases i <;> simp [Quat.vec]
  rw [logMapSo3]
  exact if_pos (by rw [hvec, euclideanNorm, zero_dotProduct, Real.sqrt_zero])

end FalconGuide
