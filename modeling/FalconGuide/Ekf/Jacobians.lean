import FalconGuide.Core.Segments
import FalconGuide.Core.SmallRotations
import FalconGuide.Ekf.Estimator
import FalconGuide.Lib.Expansions
import Mathlib.LinearAlgebra.QuadraticForm.Basic

namespace FalconGuide

open Asymptotics Filter Lib Matrix
open scoped Matrix.Norms.Operator

/-!
# The matrices of the body-frame models

Five models compare a measurement with what they predict from attitude, velocity and gyroscope
bias, and give `EkfUpdate` a matrix `H` that they write block by block.

* `BodyFrameUpdate` — a measurement and the model it goes to, with the rows that the model predicts
  and its `H`;
* `BodyFrameRows` — the form that all their rows have, and what an error of the state does to it;
* `BodyFrameUpdate.isLinearised` — the main result: `H` is the Jacobian of the rows, under the
  error that `InjectErrorAndReset` adds.
-/

/-! ### Models -/

/-- One measurement, and the model that it goes to. -/
inductive BodyFrameUpdate
  | dvl (options : DvlOptions) (meas : DvlMeasurement)
  | externalVelocity (options : ExternalVelocityOptions) (meas : ExternalVelocityMeasurement)
  | magnetometer (options : MagnetometerOptions) (meas : MagnetometerMeasurement)
  | opticalFlow (options : OpticalFlowOptions) (meas : OpticalFlowMeasurement)
  | wheelOdometry (options : WheelOdometryOptions) (meas : WheelOdometryMeasurement)

namespace BodyFrameUpdate

variable {n : ℕ}

/-- `Apply` of the model. -/
noncomputable def apply (eigen : Eigen) (nominal : NominalState) (est : Estimate n)
    (layout : StateLayout) : BodyFrameUpdate → Estimate n × EstimatorUpdateResult
  | dvl options meas => dvlApply eigen options nominal est layout meas
  | externalVelocity options meas => externalVelocityApply eigen options nominal est layout meas
  | magnetometer options meas => magnetometerApply eigen options nominal est layout meas
  | opticalFlow options meas => opticalFlowApply eigen options nominal est layout meas
  | wheelOdometry options meas => wheelOdometryApply eigen options nominal est layout meas

/-- How many rows `H` has. -/
def rows : BodyFrameUpdate → ℕ
  | dvl _ _ => 3
  | externalVelocity options _ => if options.useAngularRate then 6 else 3
  | magnetometer _ _ => 3
  | opticalFlow _ _ => 2
  | wheelOdometry options _ => if options.useAngularRate then 6 else 3

/-- A body velocity and, where there are rows for it, an angular rate. -/
def velocityAndRate {m : ℕ} (v omega : Vec3) : Fin m → ℝ := setSegment (setSegment 0 0 v) 3 omega

/-- The measurement function: what the model predicts. -/
noncomputable def predicted (R : Mat3) (v bg : Vec3) :
    (update : BodyFrameUpdate) → Fin update.rows → ℝ
  | dvl options _ => (options.dvlToBodyRotationᵀ * Rᵀ) *ᵥ v
  | externalVelocity options _ => velocityAndRate (Rᵀ *ᵥ v) (options.latestGyroRadps - bg)
  | magnetometer options _ => Rᵀ *ᵥ options.referenceFieldEnuTesla
  | opticalFlow _ _ => ![(Rᵀ *ᵥ v) 0, (Rᵀ *ᵥ v) 1]
  | wheelOdometry options _ => velocityAndRate (Rᵀ *ᵥ v) (options.latestGyroRadps - bg)

/-- `H` of a body velocity and, where there are rows for it, an angular rate. -/
def velocityAndRateH {m : ℕ} (layout : StateLayout) (R : Mat3) (v : Vec3) :
    Matrix (Fin m) (Fin n) ℝ :=
  let H := setBlock 0 0 (layout.get .velocity).offset Rᵀ
  let H := setBlock H 0 (layout.get .attitude).offset (skewSymmetric (Rᵀ *ᵥ v))
  setBlock H 3 (layout.get .gyroBias).offset (-1 : Mat3)

/-- `H`, as the model writes it. -/
def jacobian (layout : StateLayout) (R : Mat3) (v : Vec3) :
    (update : BodyFrameUpdate) → Matrix (Fin update.rows) (Fin n) ℝ
  | dvl options _ =>
    let H := setBlock 0 0 (layout.get .velocity).offset (options.dvlToBodyRotationᵀ * Rᵀ)
    setBlock H 0 (layout.get .attitude).offset
      (options.dvlToBodyRotationᵀ * skewSymmetric (Rᵀ *ᵥ v))
  | externalVelocity _ _ => velocityAndRateH layout R v
  | magnetometer options _ =>
    setBlock 0 0 (layout.get .attitude).offset
      (skewSymmetric (Rᵀ *ᵥ options.referenceFieldEnuTesla))
  | opticalFlow _ _ =>
    let H := setBlock 0 0 (layout.get .velocity).offset (topRows Rᵀ)
    setBlock H 0 (layout.get .attitude).offset (topRows (skewSymmetric (Rᵀ *ᵥ v)))
  | wheelOdometry _ _ => velocityAndRateH layout R v

end BodyFrameUpdate

/-! ### The common form -/

/-- Rows that a model predicts from the velocity and a reference field in the body frame, and from
    the gyroscope bias. -/
structure BodyFrameRows (m : ℕ) where
  velocity : Matrix (Fin m) (Fin 3) ℝ := 0
  field : Matrix (Fin m) (Fin 3) ℝ := 0
  reference : Vec3 := 0
  gyroBias : Matrix (Fin m) (Fin 3) ℝ := 0
  constant : Fin m → ℝ := 0

namespace BodyFrameRows

variable {m : ℕ} (rows : BodyFrameRows m) (R : Mat3) (v bg : Vec3)

/-- The rows. -/
def predicted : Fin m → ℝ :=
  rows.velocity *ᵥ (Rᵀ *ᵥ v) + rows.field *ᵥ (Rᵀ *ᵥ rows.reference) + rows.gyroBias *ᵥ bg
    + rows.constant

/-- The part of first order, for an error in attitude, velocity and gyroscope bias. -/
def linear (dTheta dv dbg : Vec3) : Fin m → ℝ :=
  rows.velocity *ᵥ (Rᵀ *ᵥ dv + skewSymmetric (Rᵀ *ᵥ v) *ᵥ dTheta)
    + rows.field *ᵥ (skewSymmetric (Rᵀ *ᵥ rows.reference) *ᵥ dTheta) + rows.gyroBias *ᵥ dbg

/-- What an error leaves over, when the attitude is turned by any matrix `E`. -/
theorem predicted_sub (E : Mat3) (dTheta dv dbg : Vec3) :
    rows.predicted (R * E) (v + dv) (bg + dbg) - rows.predicted R v bg
        - rows.linear R v dTheta dv dbg
      = rows.velocity *ᵥ
          ((Eᵀ - 1 + skewSymmetric dTheta) *ᵥ (Rᵀ *ᵥ v) + (Eᵀ - 1) *ᵥ (Rᵀ *ᵥ dv))
        + rows.field *ᵥ ((Eᵀ - 1 + skewSymmetric dTheta) *ᵥ (Rᵀ *ᵥ rows.reference)) := by
  simp only [predicted, linear, transpose_mul, ← mulVec_mulVec, mulVec_add, add_mulVec, sub_mulVec,
    one_mulVec, skewSymmetric_mulVec (Rᵀ *ᵥ v) dTheta,
    skewSymmetric_mulVec (Rᵀ *ᵥ rows.reference) dTheta, mulVec_neg, mulVec_sub]
  abel

/-! ### What an error leaves over -/

section Error

variable {n : ℕ}

/-- The remainder of an error that turns the attitude by `1 + [dθ]`: a product of two entries of
    the error in each term. -/
def remainder : QuadraticMap ℝ (Fin n → ℝ) (Fin m → ℝ) :=
  LinearMap.BilinMap.toQuadraticMap <|
    LinearMap.mk₂ ℝ
      (fun dx dy : Fin n → ℝ =>
        -(rows.velocity *ᵥ (skewSymmetric (segment dx 6 3) *ᵥ (Rᵀ *ᵥ segment dy 3 3))))
      (fun dx dx' dy => by
        rw [segment_add, skewSymmetric_add, add_mulVec, mulVec_add, neg_add])
      (fun r dx dy => by
        rw [segment_smul, skewSymmetric_smul, smul_mulVec, mulVec_smul, smul_neg])
      (fun dx dy dy' => by
        rw [segment_add, mulVec_add, mulVec_add, mulVec_add, neg_add])
      (fun r dx dy => by
        rw [segment_smul, mulVec_smul, mulVec_smul, mulVec_smul, smul_neg])

/-- **The right perturbation** leaves a remainder of degree two. -/
theorem predicted_sub_of_perturbation (dx : Fin n → ℝ) :
    rows.predicted (R * (1 + skewSymmetric (segment dx 6 3))) (v + segment dx 3 3)
          (bg + segment dx 12 3)
        - rows.predicted R v bg
        - rows.linear R v (segment dx 6 3) (segment dx 3 3) (segment dx 12 3)
      = rows.remainder R dx := by
  have hturned : (1 + skewSymmetric (segment dx 6 3))ᵀ - 1 = -skewSymmetric (segment dx 6 3) := by
    rw [transpose_add, transpose_one, transpose_skewSymmetric, add_sub_cancel_left]
  rw [predicted_sub, hturned, neg_add_cancel, zero_mulVec, zero_mulVec, mulVec_zero, add_zero,
    zero_add, neg_mulVec, mulVec_neg]
  rfl

theorem segment_isBigO (o p : ℕ) :
    (fun dx : Fin n → ℝ => segment dx o p) =O[⊤] fun dx => ‖dx‖ := by
  refine IsBigO.of_norm_le fun dx => (pi_norm_le_iff_of_nonneg (norm_nonneg dx)).mpr fun i => ?_
  rw [segment]
  split
  · exact norm_le_pi_norm dx _
  · rw [norm_zero]
    exact norm_nonneg dx

/-- **The exponential map** leaves a remainder of second order. -/
theorem predicted_sub_of_expMap :
    (fun dx : Fin n → ℝ =>
      rows.predicted (R * Quat.toRotationMatrix (expMapSo3 (segment dx 6 3))) (v + segment dx 3 3)
          (bg + segment dx 12 3)
        - rows.predicted R v bg
        - rows.linear R v (segment dx 6 3) (segment dx 3 3) (segment dx 12 3))
      =O[⊤] fun dx => ‖dx‖ ^ 2 := by
  have hsegment := segment_isBigO (n := n)
  have hfirst : (fun dx : Fin n → ℝ => (Quat.toRotationMatrix (expMapSo3 (segment dx 6 3)))ᵀ - 1)
      =O[⊤] fun dx => ‖dx‖ :=
    (transpose_expMapSo3_sub_one.comp_tendsto tendsto_top).trans (hsegment 6 3).norm_left
  have hsecond : (fun dx : Fin n → ℝ =>
      (Quat.toRotationMatrix (expMapSo3 (segment dx 6 3)))ᵀ - 1 + skewSymmetric (segment dx 6 3))
      =O[⊤] fun dx => ‖dx‖ ^ 2 :=
    (transpose_expMapSo3_sub_one_add.comp_tendsto tendsto_top).trans
      ((hsegment 6 3).norm_left.pow 2)
  have hproduct : (fun dx : Fin n → ℝ =>
      ((Quat.toRotationMatrix (expMapSo3 (segment dx 6 3)))ᵀ - 1) *ᵥ (Rᵀ *ᵥ segment dx 3 3))
      =O[⊤] fun dx => ‖dx‖ ^ 2 := by
    simpa only [sq] using isBigO_mulVec hfirst (isBigO_const_mulVec (hsegment 3 3) Rᵀ)
  simp only [predicted_sub]
  exact (isBigO_const_mulVec ((isBigO_mulVec_const hsecond _).add hproduct) rows.velocity).add
    (isBigO_const_mulVec (isBigO_mulVec_const hsecond _) rows.field)

end Error

end BodyFrameRows

/-! ### Every model has the form -/

namespace BodyFrameUpdate

/-- The rows of a velocity in the frame of the sensor. -/
def velocityRows {m : ℕ} (A : Matrix (Fin m) (Fin 3) ℝ) : BodyFrameRows m := { velocity := A }

/-- The rows of a body velocity and, where there are rows for it, an angular rate. -/
def velocityAndRateRows {m : ℕ} (latestGyro : Vec3) : BodyFrameRows m where
  velocity := setBlock 0 0 0 (1 : Mat3)
  gyroBias := setBlock 0 3 0 (-1 : Mat3)
  constant := setSegment 0 3 latestGyro

/-- The rows of a field. -/
def fieldRows (reference : Vec3) : BodyFrameRows 3 := { field := 1, reference }

/-- The rows of the model in the common form. -/
def form : (update : BodyFrameUpdate) → BodyFrameRows update.rows
  | dvl options _ => velocityRows options.dvlToBodyRotationᵀ
  | externalVelocity options _ => velocityAndRateRows options.latestGyroRadps
  | magnetometer options _ => fieldRows options.referenceFieldEnuTesla
  | opticalFlow _ _ => velocityRows (topRows 1)
  | wheelOdometry options _ => velocityAndRateRows options.latestGyroRadps

theorem setSegment_full {m : ℕ} (v w : Fin m → ℝ) : setSegment v 0 w = w := by
  funext i
  have hi : 0 ≤ i.val ∧ i.val < 0 + m := by omega
  rw [setSegment, dif_pos hi]
  rfl

theorem velocityAndRate_eq {m : ℕ} (v gyro bg : Vec3) :
    (velocityAndRate v (gyro - bg) : Fin m → ℝ)
      = setBlock 0 0 0 (1 : Mat3) *ᵥ v + setBlock 0 3 0 (-1 : Mat3) *ᵥ bg
        + setSegment 0 3 gyro := by
  rw [setBlock_zero_mulVec, setBlock_zero_mulVec, segment_self, segment_self, one_mulVec,
    neg_mulVec, one_mulVec, velocityAndRate]
  funext i
  by_cases hi : 3 ≤ i.val ∧ i.val < 3 + 3
  · have hrate : ¬ (0 ≤ i.val ∧ i.val < 0 + 3) := by omega
    simp only [setSegment, dif_pos hi, dif_neg hrate, Pi.add_apply, Pi.sub_apply, Pi.neg_apply,
      Pi.zero_apply]
    ring
  · simp only [setSegment, dif_neg hi, Pi.add_apply, Pi.zero_apply, add_zero]

theorem topRows_mul {k : ℕ} (A : Matrix (Fin 3) (Fin k) ℝ) :
    topRows (1 : Mat3) * A = topRows A := by
  ext i j
  fin_cases i <;> simp [topRows, Matrix.mul_apply, Matrix.one_apply]

/-- What the model predicts. -/
theorem predicted_eq (R : Mat3) (v bg : Vec3) (update : BodyFrameUpdate) :
    update.predicted R v bg = update.form.predicted R v bg := by
  have hvelocity : ∀ {m : ℕ} (A : Matrix (Fin m) (Fin 3) ℝ),
      (velocityRows A).predicted R v bg = (A * Rᵀ) *ᵥ v := fun A => by
    simp only [velocityRows, BodyFrameRows.predicted, zero_mulVec, add_zero]
    rw [mulVec_mulVec]
  have hrate : ∀ {m : ℕ} (gyro : Vec3), (velocityAndRateRows gyro).predicted R v bg
      = (velocityAndRate (Rᵀ *ᵥ v) (gyro - bg) : Fin m → ℝ) := fun gyro => by
    simp only [velocityAndRateRows, BodyFrameRows.predicted, zero_mulVec, add_zero,
      velocityAndRate_eq]
  have hfield : ∀ reference : Vec3, (fieldRows reference).predicted R v bg = Rᵀ *ᵥ reference :=
    fun reference => by
      simp only [fieldRows, BodyFrameRows.predicted, zero_mulVec, add_zero, zero_add, one_mulVec]
  have hflow : (![(Rᵀ *ᵥ v) 0, (Rᵀ *ᵥ v) 1] : Fin 2 → ℝ)
      = (velocityRows (topRows 1)).predicted R v bg := by
    rw [hvelocity, topRows_mul]
    funext i
    fin_cases i <;> rfl
  cases update with
  | dvl options meas => exact (hvelocity _).symm
  | externalVelocity options meas => exact (hrate _).symm
  | magnetometer options meas => exact (hfield _).symm
  | opticalFlow options meas => exact hflow
  | wheelOdometry options meas => exact (hrate _).symm

section Product

variable (options : EkfOptions) (R : Mat3) (v : Vec3)
  (dx : Fin options.buildLayout.totalSize → ℝ)

/-- A block for the velocity and one for the attitude. -/
theorem velocityAttitude_mulVec {m p : ℕ} (A B : Matrix (Fin p) (Fin 3) ℝ) :
    setBlock (setBlock (0 : Matrix (Fin m) (Fin options.buildLayout.totalSize) ℝ) 0 3 A) 0 6 B
        *ᵥ dx
      = setSegment 0 0 (A *ᵥ segment dx 3 3) + setSegment 0 0 (B *ᵥ segment dx 6 3) := by
  rw [setBlock_mulVec, setBlock_zero_mulVec]
  intro i j hij
  simp (disch := omega) only [setBlock_apply_of_outside, Matrix.zero_apply]

theorem velocityAndRateH_mulVec {m : ℕ} :
    (velocityAndRateH options.buildLayout R v : Matrix (Fin m) _ ℝ) *ᵥ dx
      = setBlock 0 0 0 (1 : Mat3)
          *ᵥ (Rᵀ *ᵥ segment dx 3 3 + skewSymmetric (Rᵀ *ᵥ v) *ᵥ segment dx 6 3)
        + setBlock 0 3 0 (-1 : Mat3) *ᵥ segment dx 12 3 := by
  rw [velocityAndRateH]
  simp only [EkfOptions.buildLayout_velocity, EkfOptions.buildLayout_attitude,
    EkfOptions.buildLayout_gyroBias]
  rw [setBlock_mulVec, velocityAttitude_mulVec, mulVec_add, setBlock_zero_mulVec,
    setBlock_zero_mulVec, setBlock_zero_mulVec, segment_self, segment_self, segment_self,
    one_mulVec, one_mulVec]
  intro i j hij
  simp (disch := omega) only [setBlock_apply_of_outside, Matrix.zero_apply]

/-- What `H` makes of an error. -/
theorem jacobian_mulVec (update : BodyFrameUpdate) :
    update.jacobian options.buildLayout R v *ᵥ dx
      = update.form.linear R v (segment dx 6 3) (segment dx 3 3) (segment dx 12 3) := by
  -- the five models share three shapes of `H`, and one that is cut to two rows
  have hvelocity : ∀ {m : ℕ} (A : Matrix (Fin m) (Fin 3) ℝ),
      setBlock (setBlock 0 0 3 (A * Rᵀ)) 0 6 (A * skewSymmetric (Rᵀ *ᵥ v)) *ᵥ dx
        = (velocityRows A).linear R v (segment dx 6 3) (segment dx 3 3) (segment dx 12 3) :=
    fun A => by
      rw [velocityAttitude_mulVec, setSegment_full, setSegment_full, ← mulVec_mulVec,
        ← mulVec_mulVec, ← mulVec_add]
      simp only [velocityRows, BodyFrameRows.linear, zero_mulVec, add_zero]
  have hrate : ∀ {m : ℕ} (gyro : Vec3),
      (velocityAndRateH options.buildLayout R v : Matrix (Fin m) _ ℝ) *ᵥ dx
        = (velocityAndRateRows gyro).linear R v (segment dx 6 3) (segment dx 3 3)
          (segment dx 12 3) := fun gyro => by
    rw [velocityAndRateH_mulVec]
    simp only [velocityAndRateRows, BodyFrameRows.linear, zero_mulVec, add_zero]
  have hfield : ∀ reference : Vec3,
      setBlock 0 0 6 (skewSymmetric (Rᵀ *ᵥ reference)) *ᵥ dx
        = (fieldRows reference).linear R v (segment dx 6 3) (segment dx 3 3) (segment dx 12 3) :=
    fun reference => by
      rw [setBlock_zero_mulVec, setSegment_full]
      simp only [fieldRows, BodyFrameRows.linear, zero_mulVec, add_zero, zero_add, one_mulVec]
  have hflow :
      setBlock (setBlock 0 0 3 (topRows Rᵀ)) 0 6 (topRows (skewSymmetric (Rᵀ *ᵥ v))) *ᵥ dx
        = (velocityRows (topRows 1)).linear R v (segment dx 6 3) (segment dx 3 3)
          (segment dx 12 3) := by
    rw [← hvelocity, topRows_mul, topRows_mul]
  -- the layout puts the velocity at 3, the attitude at 6 and the gyro bias at 12
  cases update with
  | dvl dvlOptions meas =>
    refine Eq.trans ?_ (hvelocity dvlOptions.dvlToBodyRotationᵀ)
    simp only [jacobian, EkfOptions.buildLayout_velocity, EkfOptions.buildLayout_attitude]
    rfl
  | externalVelocity options meas => exact hrate _
  | magnetometer magOptions meas =>
    refine Eq.trans ?_ (hfield _)
    simp only [jacobian, EkfOptions.buildLayout_attitude]
    rfl
  | opticalFlow flowOptions meas =>
    refine Eq.trans ?_ hflow
    simp only [jacobian, EkfOptions.buildLayout_velocity, EkfOptions.buildLayout_attitude]
    rfl
  | wheelOdometry options meas => exact hrate _

end Product

/-! ### What `Apply` does -/

section Apply

variable (options : EkfOptions) (R : Mat3) (v bg : Vec3)

/-- Two innovations, of a body velocity and an angular rate. -/
theorem velocityAndRate_sub {m : ℕ} (v v' omega omega' : Vec3) :
    (velocityAndRate (v - v') (omega - omega') : Fin m → ℝ)
      = velocityAndRate v omega - velocityAndRate v' omega' := by
  funext i
  simp only [velocityAndRate, setSegment, Pi.sub_apply, Pi.zero_apply]
  split
  · rfl
  · split
    · rfl
    · exact (sub_zero 0).symm

/-- Without rows for it, the angular rate is not there. -/
theorem velocityAndRate_three (v omega : Vec3) : velocityAndRate v omega = v := by
  funext i
  have hout : ¬ (3 ≤ i.val ∧ i.val < 3 + 3) := by omega
  rw [velocityAndRate, setSegment_full, setSegment_apply_of_outside hout]

theorem velocityAndRateH_three {n : ℕ} (layout : StateLayout) :
    (velocityAndRateH layout R v : Matrix (Fin 3) (Fin n) ℝ)
      = setBlock (setBlock 0 0 (layout.get .velocity).offset Rᵀ) 0 (layout.get .attitude).offset
        (skewSymmetric (Rᵀ *ᵥ v)) := by
  ext i j
  rw [velocityAndRateH, setBlock_apply_of_outside]
  omega

/-- The update that `WheelOdometry` and `ExternalVelocity` share. -/
theorem bodyVelocityUpdate_eq (useAngularRate : Bool) (vObs omegaObs latestGyro : Vec3)
    (sigmaLinear sigmaAngular gate : ℝ) :
    ∃ (z : Fin (if useAngularRate then 6 else 3) → ℝ) (noise : Matrix _ _ ℝ),
      ∀ (eigen : Eigen) (nominal : NominalState) (est : Estimate options.buildLayout.totalSize),
        let R := Quat.toRotationMatrix nominal.orientationBodyToEnu
        bodyVelocityUpdate eigen nominal est options.buildLayout vObs omegaObs latestGyro
            useAngularRate sigmaLinear sigmaAngular gate
          = ekfUpdate eigen est (velocityAndRateH options.buildLayout R nominal.velocityEnuMps)
            (z - velocityAndRate (Rᵀ *ᵥ nominal.velocityEnuMps)
              (latestGyro - nominal.gyroBiasRadps)) noise gate := by
  cases useAngularRate with
  | true =>
    refine ⟨velocityAndRate vObs omegaObs, setBlock (setBlock 0 0 0 (isotropicNoise 3 sigmaLinear))
      3 3 (isotropicNoise 3 sigmaAngular), fun eigen nominal est => ?_⟩
    simp only [bodyVelocityUpdate, EkfOptions.buildLayout_has_gyroBias, if_true,
      ← velocityAndRate_sub]
    rfl
  | false =>
    refine ⟨vObs, isotropicNoise 3 sigmaLinear, fun eigen nominal est => ?_⟩
    simp only [bodyVelocityUpdate, Bool.false_eq_true, if_false]
    -- without the rate, its rows and its part of the observation are out of range
    show _ = ekfUpdate eigen est (m := 3) _ (vObs - (velocityAndRate _ _ : Vec3)) _ gate
    rw [velocityAndRate_three, velocityAndRateH_three]

/-- `Apply` rejects the measurement whatever the state, or compares it with the rows that the model
    predicts, with its `H`.  The first happens only to a measurement that is not valid, to one of a
    DVL that does not track the bottom when `bottomTrackOnly` is set, and to an optical flow whose
    integration time is missing or below 1e-6 s, or whose height is below 0.1 m. -/
def IsCompared (update : BodyFrameUpdate) : Prop :=
  (∀ (eigen : Eigen) (nominal : NominalState) (est : Estimate options.buildLayout.totalSize),
      update.apply eigen nominal est options.buildLayout = (est, .rejected)) ∨
    ∃ (z : Fin update.rows → ℝ) (noise : Matrix _ _ ℝ) (gate : ℝ),
      ∀ (eigen : Eigen) (nominal : NominalState) (est : Estimate options.buildLayout.totalSize),
        let R := Quat.toRotationMatrix nominal.orientationBodyToEnu
        update.apply eigen nominal est options.buildLayout
          = ekfUpdate eigen est (update.jacobian options.buildLayout R nominal.velocityEnuMps)
            (z - update.predicted R nominal.velocityEnuMps nominal.gyroBiasRadps) noise gate

/-- **What `Apply` does** with a measurement. -/
theorem isCompared (update : BodyFrameUpdate) : update.IsCompared options := by
  cases update with
  | dvl dvlOptions meas =>
    -- each early return of `Apply` is one that no state can avoid
    by_cases hvalid : meas.validity ≠ .valid
    · exact .inl fun eigen nominal est => if_pos hvalid
    by_cases htrack : dvlOptions.bottomTrackOnly ∧ meas.reference ≠ .bottomTrack
    · exact .inl fun eigen nominal est => (if_neg hvalid).trans (if_pos htrack)
    · exact .inr ⟨meas.velocityMps, _, _, fun eigen nominal est =>
        (if_neg hvalid).trans (if_neg htrack)⟩
  | externalVelocity evOptions meas =>
    by_cases hvalid : meas.validity ≠ .valid
    · exact .inl fun eigen nominal est => if_pos hvalid
    · obtain ⟨z, noise, hupdate⟩ := bodyVelocityUpdate_eq options evOptions.useAngularRate
        meas.linearVelocityBodyMps meas.angularRateBodyRadps evOptions.latestGyroRadps
        (evOptions.sigmaLinearMps.getD 0.1) (evOptions.sigmaAngularRadps.getD 0.05)
        evOptions.innovationGate
      exact .inr ⟨z, noise, _, fun eigen nominal est =>
        (if_neg hvalid).trans (hupdate eigen nominal est)⟩
  | magnetometer magOptions meas =>
    by_cases hvalid : meas.validity ≠ .valid
    · exact .inl fun eigen nominal est => if_pos hvalid
    · exact .inr ⟨meas.magneticFieldTesla, _, _, fun eigen nominal est => if_neg hvalid⟩
  | opticalFlow flowOptions meas =>
    by_cases hvalid : meas.validity ≠ .valid
    · exact .inl fun eigen nominal est => if_pos hvalid
    cases htime : meas.integrationTimeS with
    | none =>
      refine .inl fun eigen nominal est => (if_neg hvalid).trans ?_
      rw [htime]
    | some dt =>
      let height := meas.groundDistanceM.getD flowOptions.fallbackAltitudeM
      by_cases hdt : dt < 1e-6
      · refine .inl fun eigen nominal est => (if_neg hvalid).trans ?_
        simp only [htime]
        exact if_pos hdt
      by_cases hheight : height < 0.1
      · refine .inl fun eigen nominal est => (if_neg hvalid).trans ?_
        simp only [htime]
        exact (if_neg hdt).trans (if_pos hheight)
      · refine .inr ⟨
          ![meas.integratedFlowXRad / dt * height, meas.integratedFlowYRad / dt * height],
          isotropicNoise 2 (flowOptions.sigmaRadps * height), flowOptions.innovationGate,
          fun eigen nominal est => (if_neg hvalid).trans ?_⟩
        simp only [htime]
        refine (if_neg hdt).trans ((if_neg hheight).trans ?_)
        congr 1
        -- the source divides and multiplies component by component
        funext i
        fin_cases i <;> rfl
  | wheelOdometry odoOptions meas =>
    by_cases hvalid : meas.validity ≠ .valid
    · exact .inl fun eigen nominal est => if_pos hvalid
    · obtain ⟨z, noise, hupdate⟩ := bodyVelocityUpdate_eq options odoOptions.useAngularRate
        meas.linearVelocityBodyMps meas.angularRateBodyRadps odoOptions.latestGyroRadps
        odoOptions.sigmaLinearMps odoOptions.sigmaAngularRadps odoOptions.innovationGate
      exact .inr ⟨z, noise, _, fun eigen nominal est =>
        (if_neg hvalid).trans (hupdate eigen nominal est)⟩

end Apply

/-! ### The Jacobian -/

/-- `H` is the Jacobian of what the model predicts, at every attitude, velocity and bias. -/
structure IsLinearised (options : EkfOptions) (update : BodyFrameUpdate) : Prop where
  /-- These rows and this matrix are what the update is given. -/
  used : update.IsCompared options
  /-- Under the perturbation `R (1 + [dθ])`, what is left over has degree two. -/
  perturbed : ∀ (R : Mat3) (v bg : Vec3),
    ∃ Q : QuadraticMap ℝ (Fin options.buildLayout.totalSize → ℝ) (Fin update.rows → ℝ),
      ∀ dx,
        let dTheta := segment dx (options.buildLayout.get .attitude).offset 3
        let dv := segment dx (options.buildLayout.get .velocity).offset 3
        let dbg := segment dx (options.buildLayout.get .gyroBias).offset 3
        update.predicted (R * (1 + skewSymmetric dTheta)) (v + dv) (bg + dbg)
            - update.predicted R v bg - update.jacobian options.buildLayout R v *ᵥ dx
          = Q dx
  /-- Under the error that `InjectErrorAndReset` adds, it is of second order. -/
  injected : ∀ nominal : NominalState, Quaternion.normSq nominal.orientationBodyToEnu = 1 →
    let predictedAt := fun nominal : NominalState =>
      update.predicted (Quat.toRotationMatrix nominal.orientationBodyToEnu) nominal.velocityEnuMps
        nominal.gyroBiasRadps
    let H := update.jacobian options.buildLayout
      (Quat.toRotationMatrix nominal.orientationBodyToEnu) nominal.velocityEnuMps
    ∃ C : ℝ, ∀ dx : Fin options.buildLayout.totalSize → ℝ,
      ‖predictedAt (injectedNominal options.buildLayout nominal dx) - predictedAt nominal - H *ᵥ dx‖
        ≤ C * ‖dx‖ ^ 2

/-- The attitude that `InjectErrorAndReset` leaves is turned on the right. -/
theorem rotation_injectedNominal {n : ℕ} (layout : StateLayout) {nominal : NominalState}
    (hunit : Quaternion.normSq nominal.orientationBodyToEnu = 1) (dx : Fin n → ℝ) :
    Quat.toRotationMatrix (injectedNominal layout nominal dx).orientationBodyToEnu
      = Quat.toRotationMatrix nominal.orientationBodyToEnu
        * Quat.toRotationMatrix (expMapSo3 (segment dx (layout.get .attitude).offset 3)) := by
  have hexp := normSq_expMapSo3 (segment dx (layout.get .attitude).offset 3)
  have hproduct : Quaternion.normSq (nominal.orientationBodyToEnu
      * expMapSo3 (segment dx (layout.get .attitude).offset 3)) = 1 := by
    rw [map_mul, hunit, hexp, one_mul]
  rw [injectedNominal, Quat.normalized_of_unit hproduct, Quat.toRotationMatrix_mul hunit hexp]

/-- **The matrices are Jacobians**, of all five models and with every choice of options. -/
theorem isLinearised (options : EkfOptions) (update : BodyFrameUpdate) :
    update.IsLinearised options where
  used := isCompared options update
  perturbed R v bg := by
    refine ⟨update.form.remainder R, fun dx => ?_⟩
    simp only [EkfOptions.buildLayout_velocity, EkfOptions.buildLayout_attitude,
      EkfOptions.buildLayout_gyroBias]
    rw [predicted_eq, predicted_eq, jacobian_mulVec]
    exact update.form.predicted_sub_of_perturbation R v bg dx
  injected := by
    intro nominal hunit predictedAt H
    obtain ⟨C, hC⟩ := isBigO_top.mp (update.form.predicted_sub_of_expMap
      (n := options.buildLayout.totalSize) (Quat.toRotationMatrix nominal.orientationBodyToEnu)
      nominal.velocityEnuMps nominal.gyroBiasRadps)
    refine ⟨C, fun dx => ?_⟩
    have hdx := hC dx
    rw [norm_pow, norm_norm] at hdx
    have hinjected : predictedAt (injectedNominal options.buildLayout nominal dx)
        = update.form.predicted
          (Quat.toRotationMatrix nominal.orientationBodyToEnu
            * Quat.toRotationMatrix (expMapSo3 (segment dx 6 3)))
          (nominal.velocityEnuMps + segment dx 3 3) (nominal.gyroBiasRadps + segment dx 12 3) := by
      show update.predicted _ _ _ = _
      rw [rotation_injectedNominal _ hunit, predicted_eq, injectedNominal]
      simp only [EkfOptions.buildLayout_velocity, EkfOptions.buildLayout_attitude,
        EkfOptions.buildLayout_gyroBias]
    have hnominal : predictedAt nominal = update.form.predicted _ _ _ := predicted_eq _ _ _ _
    rw [hinjected, hnominal, jacobian_mulVec]
    exact hdx

end BodyFrameUpdate

end FalconGuide
