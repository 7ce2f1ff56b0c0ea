import FalconGuide.Core.Coordinates
import FalconGuide.Core.Frames
import Mathlib.LinearAlgebra.Matrix.Determinant.Basic

namespace FalconGuide

open Matrix

/-!
# Points in a local tangent plane

* `ecefToEnuRotation_transpose_mul`, `det_ecefToEnuRotation` — the matrix is a rotation;
* `LocalTangentPlane.enuToEcef_ecefToEnu`, `LocalTangentPlane.ecefToEnu_enuToEcef` — the
  conversions are inverse to each other;
* `euclideanNorm_mulVec` — rotations keep lengths;
* `frames_consistent` — the same of tangent planes and of transforms between frames.
-/

/-- The rotation is undone by its transpose. -/
theorem ecefToEnuRotation_transpose_mul (latitude longitude : ℝ) :
    (ecefToEnuRotation latitude longitude)ᵀ * ecefToEnuRotation latitude longitude = 1 :=
  mul_eq_one_comm.mp (ecefToEnuRotation_mul_transpose latitude longitude)

/-- It does not turn the axes inside out. -/
theorem det_ecefToEnuRotation (latitude longitude : ℝ) :
    (ecefToEnuRotation latitude longitude).det = 1 := by
  have hlat := Real.sin_sq_add_cos_sq latitude
  have hlon := Real.sin_sq_add_cos_sq longitude
  rw [det_fin_three]
  simp [ecefToEnuRotation]
  linear_combination (Real.sin latitude ^ 2 + Real.cos latitude ^ 2) * hlon + hlat

/-- A matrix with orthonormal columns keeps lengths. -/
theorem euclideanNorm_mulVec {R : Mat3} (h : Rᵀ * R = 1) (v : Vec3) :
    euclideanNorm (R *ᵥ v) = euclideanNorm v := by
  rw [euclideanNorm, euclideanNorm, dotProduct_mulVec, vecMul_mulVec, h, vecMul_one]

namespace LocalTangentPlane

variable (origin : Lla)

/-- Into the plane and back. -/
theorem enuToEcef_ecefToEnu (p : Vec3) :
    (make origin).enuToEcef ((make origin).ecefToEnu p) = p := by
  rw [enuToEcef, ecefToEnu, mulVec_mulVec, make, ecefToEnuRotation_transpose_mul, one_mulVec,
    add_sub_cancel]

/-- Out of the plane and back. -/
theorem ecefToEnu_enuToEcef (p : Vec3) :
    (make origin).ecefToEnu ((make origin).enuToEcef p) = p := by
  rw [enuToEcef, ecefToEnu, add_sub_cancel_left, mulVec_mulVec, make,
    ecefToEnuRotation_mul_transpose, one_mulVec]

/-- Distances in the plane are those on Earth. -/
theorem euclideanNorm_ecefToEnu_sub (p q : Vec3) :
    euclideanNorm ((make origin).ecefToEnu p - (make origin).ecefToEnu q)
      = euclideanNorm (p - q) := by
  rw [ecefToEnu, ecefToEnu, ← mulVec_sub, sub_sub_sub_cancel_right]
  exact euclideanNorm_mulVec (ecefToEnuRotation_transpose_mul _ _) (p - q)

/-- Distances are the same in both frames. -/
theorem euclideanNorm_enuToEcef_sub (p q : Vec3) :
    euclideanNorm ((make origin).enuToEcef p - (make origin).enuToEcef q)
      = euclideanNorm (p - q) := by
  have hback := euclideanNorm_ecefToEnu_sub origin ((make origin).enuToEcef p)
    ((make origin).enuToEcef q)
  rw [ecefToEnu_enuToEcef, ecefToEnu_enuToEcef] at hback
  exact hback.symm

end LocalTangentPlane

/-- **Frames are consistent.** The conversions of a tangent plane are inverse to each other and
    keep distances, by a rotation; transforms with unit quaternions act on points as a groupoid. -/
theorem frames_consistent :
    (∀ (origin : Lla) (p q : Vec3),
      (LocalTangentPlane.make origin).enuToEcef ((LocalTangentPlane.make origin).ecefToEnu p) = p ∧
      (LocalTangentPlane.make origin).ecefToEnu ((LocalTangentPlane.make origin).enuToEcef p) = p ∧
      euclideanNorm ((LocalTangentPlane.make origin).ecefToEnu p
        - (LocalTangentPlane.make origin).ecefToEnu q) = euclideanNorm (p - q) ∧
      euclideanNorm ((LocalTangentPlane.make origin).enuToEcef p
        - (LocalTangentPlane.make origin).enuToEcef q) = euclideanNorm (p - q)) ∧
    (∀ latitude longitude : ℝ,
      ecefToEnuRotation latitude longitude * (ecefToEnuRotation latitude longitude)ᵀ = 1 ∧
      (ecefToEnuRotation latitude longitude)ᵀ * ecefToEnuRotation latitude longitude = 1 ∧
      (ecefToEnuRotation latitude longitude).det = 1) ∧
    ∀ (F G H : Type) (T₂ : RigidTransform G H) (T₁ : RigidTransform F G) (p q r : Vec3),
      (RigidTransform.identity : RigidTransform F F).apply p = p ∧
      (T₂.mul T₁).apply p = T₂.apply (T₁.apply p) ∧
      T₁.inverse.apply (T₁.apply p) = p ∧
      T₁.apply (T₁.inverse.apply q) = q ∧
      (T₂.mul T₁).inverse.apply r = (T₁.inverse.mul T₂.inverse).apply r := by
  refine ⟨fun origin p q => ⟨?_, ?_, ?_, ?_⟩, fun latitude longitude => ⟨?_, ?_, ?_⟩,
    fun F G H T₂ T₁ p q r => ⟨?_, ?_, ?_, ?_, ?_⟩⟩
  · exact LocalTangentPlane.enuToEcef_ecefToEnu origin p
  · exact LocalTangentPlane.ecefToEnu_enuToEcef origin p
  · exact LocalTangentPlane.euclideanNorm_ecefToEnu_sub origin p q
  · exact LocalTangentPlane.euclideanNorm_enuToEcef_sub origin p q
  · exact ecefToEnuRotation_mul_transpose latitude longitude
  · exact ecefToEnuRotation_transpose_mul latitude longitude
  · exact det_ecefToEnuRotation latitude longitude
  · exact RigidTransform.apply_identity p
  · exact RigidTransform.apply_mul T₂ T₁ p
  · exact RigidTransform.apply_inverse_apply T₁ p
  · exact RigidTransform.apply_apply_inverse T₁ q
  · exact congrFun (congrArg DFunLike.coe (RigidTransform.toEquiv_inverse_mul T₂ T₁)) r

end FalconGuide
