import FalconGuide.Core.UnitQuaternions

namespace FalconGuide

open Lib Matrix

/-!
# Euler angles

* `eulerToQuaternion`, `quaternionToEuler` — roll, pitch and yaw as a quaternion, and back;
* `toRotationMatrix_eulerToQuaternion`, `quaternionToEuler_eq` — both maps, by their matrices;
* `euler_round_trips` — exactly which angles, and which attitudes, come back.
-/

/-- Angles in radians. -/
@[ext]
structure EulerAngles where
  rollRad : ℝ := 0
  pitchRad : ℝ := 0
  yawRad : ℝ := 0

/-- `Clamp`. -/
def clamp {α : Type*} [LT α] [DecidableLT α] (value minValue maxValue : α) : α :=
  if value < minValue then minValue
  else if maxValue < value then maxValue
  else value

/-- `EulerToQuaternion`. -/
noncomputable def eulerToQuaternion (euler : EulerAngles) : Quat :=
  let roll := Quat.ofAngleAxis euler.rollRad ![1, 0, 0]
  let pitch := Quat.ofAngleAxis euler.pitchRad ![0, 1, 0]
  let yaw := Quat.ofAngleAxis euler.yawRad ![0, 0, 1]
  normalizeQuaternion (yaw * pitch * roll)

/-- `QuaternionToEuler`. -/
noncomputable def quaternionToEuler (quaternion : Quat) : EulerAngles :=
  let rotation := (normalizeQuaternion quaternion).toRotationMatrix
  let roll := atan2 (rotation 2 1) (rotation 2 2)
  let pitch := Real.arcsin (clamp (-(rotation 2 0)) (-1) 1)
  let yaw := atan2 (rotation 1 0) (rotation 0 0)
  ⟨roll, pitch, yaw⟩

/-- Nothing is clamped within the bounds. -/
theorem clamp_of_mem {α : Type*} [LinearOrder α] {value minValue maxValue : α}
    (h : value ∈ Set.Icc minValue maxValue) : clamp value minValue maxValue = value := by
  rw [clamp, if_neg (not_lt.mpr h.1), if_neg (not_lt.mpr h.2)]

/-! ### Angles by their matrices -/

/-- An angle by its half. -/
theorem cos_eq_half (a : ℝ) : Real.cos a = 1 - 2 * Real.sin (a / 2) ^ 2 := by
  have h := Real.cos_two_mul (a / 2)
  rw [mul_div_cancel₀ a two_ne_zero] at h
  linarith [Real.sin_sq_add_cos_sq (a / 2)]

theorem sin_eq_half (a : ℝ) : Real.sin a = 2 * Real.sin (a / 2) * Real.cos (a / 2) := by
  have h := Real.sin_two_mul (a / 2)
  rwa [mul_div_cancel₀ a two_ne_zero] at h

theorem toRotationMatrix_unitX (a : ℝ) :
    (Quat.ofAngleAxis a ![1, 0, 0]).toRotationMatrix = rotX a := by
  rw [rotX, cos_eq_half a, sin_eq_half a]
  ext i j
  fin_cases i <;> fin_cases j <;> simp [Quat.toRotationMatrix, Quat.ofAngleAxis] <;> ring

theorem toRotationMatrix_unitY (a : ℝ) :
    (Quat.ofAngleAxis a ![0, 1, 0]).toRotationMatrix = rotY a := by
  rw [rotY, cos_eq_half a, sin_eq_half a]
  ext i j
  fin_cases i <;> fin_cases j <;> simp [Quat.toRotationMatrix, Quat.ofAngleAxis] <;> ring

theorem toRotationMatrix_unitZ (a : ℝ) :
    (Quat.ofAngleAxis a ![0, 0, 1]).toRotationMatrix = rotZ a := by
  rw [rotZ, cos_eq_half a, sin_eq_half a]
  ext i j
  fin_cases i <;> fin_cases j <;> simp [Quat.toRotationMatrix, Quat.ofAngleAxis] <;> ring

/-- About an axis of length one. -/
theorem normSq_ofAngleAxis (a : ℝ) {axis : Vec3} (h : axis ⬝ᵥ axis = 1) :
    Quaternion.normSq (Quat.ofAngleAxis a axis) = 1 := by
  rw [dotProduct, Fin.sum_univ_three] at h
  rw [Quaternion.normSq_def', Quat.ofAngleAxis]
  linear_combination Real.sin (a / 2) ^ 2 * h + Real.sin_sq_add_cos_sq (a / 2)

/-- The quaternion turns by the three angles. -/
theorem toRotationMatrix_eulerToQuaternion (e : EulerAngles) :
    (eulerToQuaternion e).toRotationMatrix = ofEulerAngles e.rollRad e.pitchRad e.yawRad := by
  have hx : Quaternion.normSq (Quat.ofAngleAxis e.rollRad ![1, 0, 0]) = 1 :=
    normSq_ofAngleAxis e.rollRad (by simp)
  have hy : Quaternion.normSq (Quat.ofAngleAxis e.pitchRad ![0, 1, 0]) = 1 :=
    normSq_ofAngleAxis e.pitchRad (by simp)
  have hz : Quaternion.normSq (Quat.ofAngleAxis e.yawRad ![0, 0, 1]) = 1 :=
    normSq_ofAngleAxis e.yawRad (by simp)
  have hzy : Quaternion.normSq (Quat.ofAngleAxis e.yawRad ![0, 0, 1]
      * Quat.ofAngleAxis e.pitchRad ![0, 1, 0]) = 1 := by rw [map_mul, hz, hy, one_mul]
  have hunit : Quaternion.normSq (Quat.ofAngleAxis e.yawRad ![0, 0, 1]
      * Quat.ofAngleAxis e.pitchRad ![0, 1, 0] * Quat.ofAngleAxis e.rollRad ![1, 0, 0]) = 1 := by
    rw [map_mul, hzy, hx, one_mul]
  rw [eulerToQuaternion, Quat.normalizeQuaternion_of_unit hunit,
    Quat.toRotationMatrix_mul hzy hx, Quat.toRotationMatrix_mul hz hy, toRotationMatrix_unitX,
    toRotationMatrix_unitY, toRotationMatrix_unitZ, ofEulerAngles]

/-- Of a rotation, nothing is clamped. -/
theorem quaternionToEuler_eq (q : Quat) :
    let R := (normalizeQuaternion q).toRotationMatrix
    quaternionToEuler q = ⟨rollOf R, pitchOf R, yawOf R⟩ := by
  intro R
  have hrotation : IsRotation R := Quat.isRotation (Quat.normSq_normalizeQuaternion q)
  obtain ⟨hlower, hupper⟩ := abs_le.mp ((sq_le_one_iff_abs_le_one _).mp hrotation.sq_le_one)
  have hclamp : clamp (-(R 2 0)) (-1) 1 = -(R 2 0) :=
    clamp_of_mem ⟨by linarith, by linarith⟩
  show (⟨rollOf R, Real.arcsin (clamp (-(R 2 0)) (-1) 1), yawOf R⟩ : EulerAngles) = _
  rw [hclamp, pitchOf]

/-! ### Round trips -/

/-- The values that `atan2` and `asin` return. -/
structure EulerAngles.InRange (e : EulerAngles) : Prop where
  roll : e.rollRad ∈ Set.Ioc (-Real.pi) Real.pi
  pitch : e.pitchRad ∈ Set.Icc (-(Real.pi / 2)) (Real.pi / 2)
  yaw : e.yawRad ∈ Set.Ioc (-Real.pi) Real.pi

theorem inRange_quaternionToEuler (q : Quat) : (quaternionToEuler q).InRange where
  roll := Complex.arg_mem_Ioc _
  pitch := Real.arcsin_mem_Icc _
  yaw := Complex.arg_mem_Ioc _

/-- A pitch that is no right angle. -/
theorem mem_Ioo_of_cos_ne_zero {p : ℝ} (h : p ∈ Set.Icc (-(Real.pi / 2)) (Real.pi / 2))
    (hcos : Real.cos p ≠ 0) : p ∈ Set.Ioo (-(Real.pi / 2)) (Real.pi / 2) := by
  refine ⟨h.1.lt_of_ne' ?_, h.2.lt_of_ne ?_⟩
  · rintro rfl
    exact hcos (by rw [Real.cos_neg, Real.cos_pi_div_two])
  · rintro rfl
    exact hcos Real.cos_pi_div_two

theorem quaternionToEuler_eulerToQuaternion (e : EulerAngles) :
    quaternionToEuler (eulerToQuaternion e) =
      ⟨rollOf (ofEulerAngles e.rollRad e.pitchRad e.yawRad),
        pitchOf (ofEulerAngles e.rollRad e.pitchRad e.yawRad),
        yawOf (ofEulerAngles e.rollRad e.pitchRad e.yawRad)⟩ := by
  have hunit : Quaternion.normSq (eulerToQuaternion e) = 1 := Quat.normSq_normalizeQuaternion _
  rw [quaternionToEuler_eq, Quat.normalizeQuaternion_of_unit hunit,
    toRotationMatrix_eulerToQuaternion]

theorem ofEulerAngles_two_zero (e : EulerAngles) :
    ofEulerAngles e.rollRad e.pitchRad e.yawRad 2 0 = -Real.sin e.pitchRad := by
  rw [ofEulerAngles_eq]
  rfl

/-- At a right angle roll and yaw are not told apart. -/
theorem anglesOf_ofEulerAngles_locked {e : EulerAngles} (hcos : Real.cos e.pitchRad = 0) :
    rollOf (ofEulerAngles e.rollRad e.pitchRad e.yawRad) = 0 ∧
      yawOf (ofEulerAngles e.rollRad e.pitchRad e.yawRad) = 0 := by
  have hrotation : IsRotation (ofEulerAngles e.rollRad e.pitchRad e.yawRad) := by
    rw [← toRotationMatrix_eulerToQuaternion]
    exact Quat.isRotation (Quat.normSq_normalizeQuaternion _)
  refine anglesOf_locked hrotation ?_
  rw [ofEulerAngles_two_zero, neg_sq, Real.sin_sq, hcos]
  norm_num

/-- Angles that come back. -/
theorem quaternionToEuler_eulerToQuaternion_iff (e : EulerAngles) :
    quaternionToEuler (eulerToQuaternion e) = e ↔
      e.InRange ∧ (Real.cos e.pitchRad = 0 → e.rollRad = 0 ∧ e.yawRad = 0) := by
  constructor
  · intro heq
    refine ⟨heq ▸ inRange_quaternionToEuler _, fun hcos => ?_⟩
    obtain ⟨hroll, hyaw⟩ := anglesOf_ofEulerAngles_locked hcos
    rw [quaternionToEuler_eulerToQuaternion, EulerAngles.ext_iff] at heq
    exact ⟨heq.1.symm.trans hroll, heq.2.2.symm.trans hyaw⟩
  · rintro ⟨hrange, hpure⟩
    rw [quaternionToEuler_eulerToQuaternion]
    by_cases hcos : Real.cos e.pitchRad = 0
    · obtain ⟨hroll, hyaw⟩ := anglesOf_ofEulerAngles_locked hcos
      obtain ⟨hroll0, hyaw0⟩ := hpure hcos
      refine EulerAngles.ext (hroll.trans hroll0.symm) ?_ (hyaw.trans hyaw0.symm)
      show Real.arcsin (-(ofEulerAngles e.rollRad e.pitchRad e.yawRad 2 0)) = e.pitchRad
      rw [ofEulerAngles_two_zero, neg_neg]
      exact Real.arcsin_sin hrange.pitch.1 hrange.pitch.2
    · obtain ⟨hroll, hpitch, hyaw⟩ := anglesOf_ofEulerAngles hrange.roll
        (mem_Ioo_of_cos_ne_zero hrange.pitch hcos) hrange.yaw
      exact EulerAngles.ext hroll hpitch hyaw

/-- An attitude that comes back. -/
theorem eulerToQuaternion_quaternionToEuler_iff (q : Quat) :
    (eulerToQuaternion (quaternionToEuler q) = normalizeQuaternion q ∨
        eulerToQuaternion (quaternionToEuler q) = -normalizeQuaternion q) ↔
      (normalizeQuaternion q).toRotationMatrix 2 0 ^ 2 ≠ 1 ∨
        (normalizeQuaternion q).toRotationMatrix 1 1 = 1 := by
  have hunit := Quat.normSq_normalizeQuaternion q
  have heuler : Quaternion.normSq (eulerToQuaternion (quaternionToEuler q)) = 1 :=
    Quat.normSq_normalizeQuaternion _
  rw [← Quat.toRotationMatrix_eq_iff heuler hunit,
    ← ofEulerAngles_anglesOf_iff (Quat.isRotation hunit), toRotationMatrix_eulerToQuaternion,
    quaternionToEuler_eq]

/-- **Both round trips.** Angles come back exactly when they are in the ranges of `atan2` and
    `asin`, and roll and yaw are zero where the pitch is a right angle.  An attitude comes back, as
    one of its two quaternions, exactly when its pitch is no right angle, or it is nothing but a
    pitch. -/
theorem euler_round_trips :
    (∀ e : EulerAngles, quaternionToEuler (eulerToQuaternion e) = e ↔
      e.InRange ∧ (Real.cos e.pitchRad = 0 → e.rollRad = 0 ∧ e.yawRad = 0)) ∧
    ∀ q : Quat,
      (eulerToQuaternion (quaternionToEuler q) = normalizeQuaternion q ∨
        eulerToQuaternion (quaternionToEuler q) = -normalizeQuaternion q) ↔
      (normalizeQuaternion q).toRotationMatrix 2 0 ^ 2 ≠ 1 ∨
        (normalizeQuaternion q).toRotationMatrix 1 1 = 1 :=
  ⟨quaternionToEuler_eulerToQuaternion_iff, eulerToQuaternion_quaternionToEuler_iff⟩

end FalconGuide
