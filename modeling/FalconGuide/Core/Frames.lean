import FalconGuide.Core.Rotations
import Mathlib.LinearAlgebra.CrossProduct

namespace FalconGuide

open Matrix

/-!
# Transforms between frames

`frames.hpp`: rigid transforms from the coordinates of one frame to those of another.

* `Quat.transformVector` — a quaternion times a vector, as Eigen computes it;
* `Transform` — a rotation and a translation, with its operators;
* `RigidTransform` — with a unit quaternion, which the operators keep;
* `RigidTransform.toEquiv` — the map of points, with composition and inverse.
-/

namespace Quat

/-- `q * v`. -/
def transformVector (q : Quat) (v : Vec3) : Vec3 :=
  let uv := crossProduct q.vec v
  let uv := uv + uv
  v + q.re • uv + crossProduct q.vec uv

/-- That is the rotation matrix times the vector, for quaternions of any length. -/
theorem transformVector_eq (q : Quat) (v : Vec3) :
    q.transformVector v = toRotationMatrix q *ᵥ v := by
  ext i
  fin_cases i <;>
    simp [transformVector, toRotationMatrix, vec, cross_apply, mulVec, dotProduct,
      Fin.sum_univ_three, vecHead, vecTail] <;> ring

/-- Rotations one after the other. -/
theorem transformVector_mul {p q : Quat} (hp : Quaternion.normSq p = 1)
    (hq : Quaternion.normSq q = 1) (v : Vec3) :
    (p * q).transformVector v = p.transformVector (q.transformVector v) := by
  rw [transformVector_eq, transformVector_eq, transformVector_eq, toRotationMatrix_mul hp hq,
    mulVec_mulVec]

/-- The conjugate of a unit quaternion rotates back. -/
theorem transformVector_star {q : Quat} (hq : Quaternion.normSq q = 1) (v : Vec3) :
    (star q).transformVector (q.transformVector v) = v := by
  have hstar : Quaternion.normSq (star q) = 1 := by rw [Quaternion.normSq_star, hq]
  rw [← transformVector_mul hstar hq, Quaternion.star_mul_self, hq, Quaternion.coe_one,
    transformVector_eq, toRotationMatrix_one, one_mulVec]

/-- A rotation undoes its conjugate. -/
theorem transformVector_self_star {q : Quat} (hq : Quaternion.normSq q = 1) (v : Vec3) :
    q.transformVector ((star q).transformVector v) = v := by
  have hstar : Quaternion.normSq (star q) = 1 := by rw [Quaternion.normSq_star, hq]
  have hback := transformVector_star hstar v
  rwa [star_star] at hback

theorem transformVector_add (q : Quat) (v w : Vec3) :
    q.transformVector (v + w) = q.transformVector v + q.transformVector w := by
  rw [transformVector_eq, transformVector_eq, transformVector_eq, mulVec_add]

theorem transformVector_neg (q : Quat) (v : Vec3) :
    q.transformVector (-v) = -q.transformVector v := by
  rw [transformVector_eq, transformVector_eq, mulVec_neg]

end Quat

/-! ### Transforms -/

/-- `Transform<From, To>`; frames are tags. -/
structure Transform (From To : Type) where
  rotationToFrom : Quat := 1
  translationToFrom : Vec3 := 0

namespace Transform

variable {F G H : Type}

/-- The constructor. -/
noncomputable def make (rotationToFrom : Quat) (translationToFrom : Vec3) : Transform F G where
  rotationToFrom := rotationToFrom.normalized
  translationToFrom

/-- `T * p`. -/
def apply (T : Transform F G) (pointFrom : Vec3) : Vec3 :=
  T.rotationToFrom.transformVector pointFrom + T.translationToFrom

/-- `inverse()`. -/
noncomputable def inverse (T : Transform F G) : Transform G F :=
  let inverseRotation := star T.rotationToFrom
  let inverseTranslation := -inverseRotation.transformVector T.translationToFrom
  make inverseRotation inverseTranslation

/-- `left * right`. -/
noncomputable def mul (left : Transform G H) (right : Transform F G) : Transform F H :=
  make (left.rotationToFrom * right.rotationToFrom)
    (left.rotationToFrom.transformVector right.translationToFrom + left.translationToFrom)

end Transform

/-- A transform with a unit quaternion. -/
structure RigidTransform (F G : Type) extends Transform F G where
  unit : Quaternion.normSq rotationToFrom = 1

namespace RigidTransform

variable {F G H : Type}

/-- What the constructor makes of anything but the zero quaternion. -/
noncomputable def make (rotation : Quat) (translation : Vec3)
    (h : 0 < Quaternion.normSq rotation) : RigidTransform F G where
  toTransform := .make rotation translation
  unit := Quat.normSq_normalized h

/-- `Identity()`. -/
def identity : RigidTransform F F where
  unit := by simp

noncomputable def inverse (T : RigidTransform F G) : RigidTransform G F where
  toTransform := T.toTransform.inverse
  unit := Quat.normSq_normalized (by rw [Quaternion.normSq_star, T.unit]; exact one_pos)

noncomputable def mul (left : RigidTransform G H) (right : RigidTransform F G) :
    RigidTransform F H where
  toTransform := left.toTransform.mul right.toTransform
  unit := Quat.normSq_normalized (by rw [map_mul, left.unit, right.unit, one_mul]; exact one_pos)

/-! ### Points -/

/-- Unit quaternions are not changed by the constructor. -/
theorem mul_eq (left : RigidTransform G H) (right : RigidTransform F G) :
    (left.mul right).rotationToFrom = left.rotationToFrom * right.rotationToFrom := by
  apply Quat.normalized_of_unit
  rw [map_mul, left.unit, right.unit, one_mul]

/-- The rotation of an inverse. -/
theorem inverse_eq (T : RigidTransform F G) :
    T.inverse.rotationToFrom = star T.rotationToFrom := by
  apply Quat.normalized_of_unit
  rw [Quaternion.normSq_star, T.unit]

@[simp] theorem apply_identity (p : Vec3) : (identity : RigidTransform F F).apply p = p := by
  show Quat.transformVector 1 p + 0 = p
  rw [add_zero, Quat.transformVector_eq, Quat.toRotationMatrix_one, one_mulVec]

/-- **Composition** of transforms is that of the maps. -/
theorem apply_mul (left : RigidTransform G H) (right : RigidTransform F G) (p : Vec3) :
    (left.mul right).apply p = left.apply (right.apply p) := by
  rw [Transform.apply, mul_eq, Quat.transformVector_mul left.unit right.unit]
  rw [Transform.apply, Transform.apply, Quat.transformVector_add, add_assoc]
  rfl

/-- There and back. -/
theorem apply_inverse_apply (T : RigidTransform F G) (p : Vec3) :
    T.inverse.apply (T.apply p) = p := by
  rw [Transform.apply, inverse_eq, Transform.apply, Quat.transformVector_add,
    Quat.transformVector_star T.unit, add_assoc]
  exact add_eq_left.mpr (add_neg_cancel _)

/-- Back and there. -/
theorem apply_apply_inverse (T : RigidTransform F G) (q : Vec3) :
    T.apply (T.inverse.apply q) = q := by
  have htranslation : T.inverse.translationToFrom
      = -(star T.rotationToFrom).transformVector T.translationToFrom := rfl
  rw [Transform.apply, Transform.apply, inverse_eq, htranslation, Quat.transformVector_add,
    Quat.transformVector_neg, Quat.transformVector_self_star T.unit,
    Quat.transformVector_self_star T.unit, neg_add_cancel_right]

/-- The map of points. -/
noncomputable def toEquiv (T : RigidTransform F G) : Vec3 ≃ Vec3 where
  toFun := T.apply
  invFun := T.inverse.apply
  left_inv := T.apply_inverse_apply
  right_inv := T.apply_apply_inverse

/-- A product of transforms is a composition of maps. -/
theorem toEquiv_mul (left : RigidTransform G H) (right : RigidTransform F G) :
    (left.mul right).toEquiv = right.toEquiv.trans left.toEquiv :=
  Equiv.ext (apply_mul left right)

/-- An inverse transform is the inverse map. -/
theorem toEquiv_inverse (T : RigidTransform F G) : T.inverse.toEquiv = T.toEquiv.symm :=
  Equiv.ext fun _ => rfl

/-- **The inverse of a composition** is the composition of the inverses, the other way round. -/
theorem toEquiv_inverse_mul (left : RigidTransform G H) (right : RigidTransform F G) :
    (left.mul right).inverse.toEquiv = (right.inverse.mul left.inverse).toEquiv := by
  rw [toEquiv_inverse, toEquiv_mul, toEquiv_mul, toEquiv_inverse, toEquiv_inverse]
  rfl

end RigidTransform

end FalconGuide
