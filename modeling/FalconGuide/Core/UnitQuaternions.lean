import FalconGuide.Core.SmallRotations
import FalconGuide.Lib.EulerAngles

namespace FalconGuide

open Lib Matrix

/-!
# Unit quaternions

* `Quat.normSq_normalizeQuaternion` — whatever is normalised is a unit quaternion;
* `Quat.isRotation` — its matrix is a rotation;
* `Quat.vec_star_mul_eq_zero_iff`, `Quat.toRotationMatrix_eq_iff` — when two of them turn alike.
-/

namespace Quat

/-- Whatever is normalised has length one. -/
theorem normSq_normalizeQuaternion (q : Quat) : Quaternion.normSq (normalizeQuaternion q) = 1 := by
  by_cases hzero : Quat.norm q = 0
  · rw [normalizeQuaternion, if_pos hzero, map_one]
  · rw [normalizeQuaternion, if_neg hzero]
    exact normSq_normalized (Real.sqrt_pos.mp ((Real.sqrt_nonneg _).lt_of_ne' hzero))

theorem normalizeQuaternion_of_unit {q : Quat} (h : Quaternion.normSq q = 1) :
    normalizeQuaternion q = q := by
  have hnorm : Quat.norm q ≠ 0 := by
    rw [Quat.norm, h, Real.sqrt_one]
    exact one_ne_zero
  rw [normalizeQuaternion, if_neg hnorm, normalized_of_unit h]

/-- The matrix of a unit quaternion is a rotation. -/
theorem isRotation {q : Quat} (h : Quaternion.normSq q = 1) :
    IsRotation (toRotationMatrix q) where
  orthogonal := toRotationMatrix_mul_transpose h
  det := by
    have hscaled : (scaledRotation q).det = Quaternion.normSq q ^ 3 := by
      rw [Quaternion.normSq_def', Matrix.det_fin_three]
      simp only [scaledRotation, of_apply, cons_val]
      ring
    rw [toRotationMatrix_of_unit h, hscaled, h, one_pow]

/-- A quaternion and its negative turn alike. -/
theorem toRotationMatrix_neg (q : Quat) : toRotationMatrix (-q) = toRotationMatrix q := by
  ext i j
  fin_cases i <;> fin_cases j <;> simp [toRotationMatrix]

/-- A unit quaternion without a vector part is one of two. -/
theorem eq_one_or_eq_neg_one {q : Quat} (hq : Quaternion.normSq q = 1) (hvec : Quat.vec q = 0) :
    q = 1 ∨ q = -1 := by
  have hI : q.imI = 0 := congrFun hvec 0
  have hJ : q.imJ = 0 := congrFun hvec 1
  have hK : q.imK = 0 := congrFun hvec 2
  rw [normSq_eq, hvec, zero_dotProduct, add_zero, sq, mul_self_eq_one_iff] at hq
  rcases hq with hre | hre
  · left
    ext
    · exact hre
    · exact hI
    · exact hJ
    · exact hK
  · right
    ext
    · exact hre
    · exact hI.trans neg_zero.symm
    · exact hJ.trans neg_zero.symm
    · exact hK.trans neg_zero.symm

/-- **Equal rotations.** The rotation from one to the other has no vector part. -/
theorem vec_star_mul_eq_zero_iff {p q : Quat} (hp : Quaternion.normSq p = 1)
    (hq : Quaternion.normSq q = 1) : Quat.vec (star p * q) = 0 ↔ q = p ∨ q = -p := by
  have hcancel : p * (star p * q) = q := by
    rw [← mul_assoc, Quaternion.self_mul_star, hp]
    exact one_mul q
  have hone : star p * p = 1 := by
    rw [Quaternion.star_mul_self, hp]
    rfl
  have hvec : Quat.vec 1 = 0 := by
    ext i
    fin_cases i <;> rfl
  constructor
  · intro hzero
    have hunit : Quaternion.normSq (star p * q) = 1 := by
      rw [map_mul, Quaternion.normSq_star, hp, hq, one_mul]
    rcases eq_one_or_eq_neg_one hunit hzero with heq | heq
    · rw [heq, mul_one] at hcancel
      exact .inl hcancel.symm
    · rw [heq] at hcancel
      exact .inr (hcancel.symm.trans (mul_neg_one p))
  · rintro (heq | heq)
    · rw [heq, hone, hvec]
    · have hneg : star p * -p = -1 := (mul_neg (star p) p).trans (congrArg Neg.neg hone)
      rw [heq, hneg]
      ext i
      fin_cases i <;> exact neg_zero

/-- What does not turn has no vector part. -/
theorem vec_eq_zero_of_toRotationMatrix {q : Quat} (h : toRotationMatrix q = 1) : vec q = 0 := by
  have h00 : 1 - (2 * q.imJ * q.imJ + 2 * q.imK * q.imK) = 1 := congrFun (congrFun h 0) 0
  have h11 : 1 - (2 * q.imI * q.imI + 2 * q.imK * q.imK) = 1 := congrFun (congrFun h 1) 1
  have hI : q.imI = 0 := by nlinarith [sq_nonneg q.imI, sq_nonneg q.imK]
  have hJ : q.imJ = 0 := by nlinarith [sq_nonneg q.imJ, sq_nonneg q.imK]
  have hK : q.imK = 0 := by nlinarith [sq_nonneg q.imI, sq_nonneg q.imK]
  ext i
  fin_cases i
  · exact hI
  · exact hJ
  · exact hK

/-- **Two quaternions for each attitude**, and no more. -/
theorem toRotationMatrix_eq_iff {p q : Quat} (hp : Quaternion.normSq p = 1)
    (hq : Quaternion.normSq q = 1) :
    toRotationMatrix p = toRotationMatrix q ↔ p = q ∨ p = -q := by
  constructor
  · intro h
    have hstar : Quaternion.normSq (star q) = 1 := by rw [Quaternion.normSq_star, hq]
    refine (vec_star_mul_eq_zero_iff hq hp).mp (vec_eq_zero_of_toRotationMatrix ?_)
    rw [toRotationMatrix_mul hstar hp, toRotationMatrix_star, h]
    exact mul_eq_one_comm.mp (toRotationMatrix_mul_transpose hq)
  · rintro (rfl | rfl)
    · rfl
    · exact toRotationMatrix_neg q

end Quat

end FalconGuide
