import FalconGuide.Core.Sensors
import Mathlib.Tactic.Linarith

namespace FalconGuide

open Matrix

/-!
# Inertial preintegration

`ImuPreintegrator`, and the IMU cost function that its result goes into.

* `ImuPreintegration` — what one factor knows of the samples between two keyframes;
* `ImuPreintegrator.reset`, `integrate`, `finalize` — how it comes about;
* `ImuPreintegrator.integratedSeconds` — the time that is integrated over a list of samples;
* `ImuPreintegration.correctedDeltaP`, `correctedDeltaV`, `residual` — `ImuPreintegrationCost`.
-/

/-- `ImuPreintegration`.  The blocks of the two Jacobians are those of position, attitude and
    velocity; the attitude block of the first is the Jacobian with respect to the gyro bias. -/
structure ImuPreintegration where
  startTimestamp : Timestamp := {}
  endTimestamp : Timestamp := {}
  deltaP : Vec3 := 0
  deltaQ : Quat := 1
  deltaV : Vec3 := 0
  covariance : Matrix (Fin 9) (Fin 9) ℝ := 0
  jacobianDpDba : Matrix (Fin 9) (Fin 3) ℝ := 0
  jacobianDpDbg : Matrix (Fin 9) (Fin 3) ℝ := 0
  linearisationAccelBiasMps2 : Vec3 := 0
  linearisationGyroBiasRadps : Vec3 := 0
  integrationTimeS : ℝ := 0
  numSamples : ℕ := 0

/-- `ImuPreintegrator::Params`; the random walks are not read. -/
structure ImuPreintegratorParams where
  accelNoiseDensity : ℝ := 3.0e-3
  gyroNoiseDensity : ℝ := 1.5e-4

/-- `ImuPreintegrator`. -/
structure ImuPreintegrator where
  params : ImuPreintegratorParams := {}
  t0 : Timestamp := {}
  /-- The bias it is linearised at. -/
  ba : Vec3 := 0
  bg : Vec3 := 0
  deltaP : Vec3 := 0
  deltaQ : Quat := 1
  deltaV : Vec3 := 0
  cov : Matrix (Fin 9) (Fin 9) ℝ := 0
  jDpDba : Mat3 := 0
  jDpDbg : Mat3 := 0
  jDqDbg : Mat3 := 0
  jDvDba : Mat3 := 0
  jDvDbg : Mat3 := 0
  deltaT : ℝ := 0
  hasPrev : Bool := false
  prevTs : Timestamp := {}
  prevImu : ImuMeasurement := {}
  numSamples : ℕ := 0

namespace ImuPreintegrator

/-- `ExpMap`. -/
noncomputable def expMap (phi : Vec3) : Quat :=
  let angle := euclideanNorm phi
  if angle < 1e-10 then ⟨1, 0.5 * phi 0, 0.5 * phi 1, 0.5 * phi 2⟩
  else
    let s := Real.sin (0.5 * angle) / angle
    ⟨Real.cos (0.5 * angle), s * phi 0, s * phi 1, s * phi 2⟩

theorem expMap_zero : expMap 0 = 1 := by
  have hangle : euclideanNorm (0 : Vec3) = 0 := by
    rw [euclideanNorm, zero_dotProduct, Real.sqrt_zero]
  rw [expMap, hangle]
  norm_num
  rfl

/-- `Reset` with the default noise parameters; the last sample is left where it is. -/
def reset (s : ImuPreintegrator) (accelBias gyroBias : Vec3) (t0 : Timestamp) :
    ImuPreintegrator where
  t0
  ba := accelBias
  bg := gyroBias
  prevTs := s.prevTs
  prevImu := s.prevImu

/-- The seconds from the last sample to `imu`, on the monotonic clock. -/
noncomputable def sampleDt (s : ImuPreintegrator) (imu : ImuMeasurement) : ℝ :=
  ((imu.timestamp.steady.sub s.prevTs.steady).seconds : ℚ)

/-- The mean of the last two accelerations, without bias. -/
noncomputable def aMid (s : ImuPreintegrator) (imu : ImuMeasurement) : Vec3 :=
  (0.5 : ℝ) • ((s.prevImu.specificForceMps2 - s.ba) + (imu.specificForceMps2 - s.ba))

/-- The mean of the last two angular rates, without bias. -/
noncomputable def wMid (s : ImuPreintegrator) (imu : ImuMeasurement) : Vec3 :=
  (0.5 : ℝ) • ((s.prevImu.angularRateRadps - s.bg) + (imu.angularRateRadps - s.bg))

/-- `delta_q_` after a step of `dt` seconds. -/
noncomputable def nextDeltaQ (s : ImuPreintegrator) (imu : ImuMeasurement) (dt : ℝ) : Quat :=
  Quat.normalized (s.deltaQ * expMap (dt • s.wMid imu))

/-- `cov_` after a step of `dt` seconds. -/
noncomputable def nextCov (s : ImuPreintegrator) (imu : ImuMeasurement) (dt : ℝ) :
    Matrix (Fin 9) (Fin 9) ℝ :=
  let Ra := Quat.toRotationMatrix s.deltaQ
  let Sa := skewSymmetric (s.aMid imu)
  let F₀ : Matrix (Fin 9) (Fin 9) ℝ := 1
  let F₁ := setBlock F₀ 0 3 (dt • (-Ra * Sa))
  let F₂ := setBlock F₁ 0 6 (dt • (1 : Mat3))
  let F₃ := setBlock F₂ 3 3 ((1 : Mat3) - dt • skewSymmetric (s.wMid imu))
  let F := setBlock F₃ 6 3 (dt • (-Ra * Sa))
  let G₀ : Matrix (Fin 9) (Fin 6) ℝ := 0
  let G₁ := setBlock G₀ 0 0 ((0.5 * dt * dt) • Ra)
  let G₂ := setBlock G₁ 3 3 (dt • (1 : Mat3))
  let G := setBlock G₂ 6 0 (dt • Ra)
  let qa := s.params.accelNoiseDensity * s.params.accelNoiseDensity
  let qg := s.params.gyroNoiseDensity * s.params.gyroNoiseDensity
  let Q₀ : Matrix (Fin 6) (Fin 6) ℝ := 0
  let Q := setBlock (setBlock Q₀ 0 0 (qa • (1 : Mat3))) 3 3 (qg • (1 : Mat3))
  F * s.cov * Fᵀ + G * Q * Gᵀ

/-- One step of `dt` seconds from the last sample to `imu`. -/
noncomputable def step (s : ImuPreintegrator) (imu : ImuMeasurement) (dt : ℝ) :
    ImuPreintegrator :=
  let R := Quat.toRotationMatrix s.deltaQ
  let aWorld := R *ᵥ s.aMid imu
  let Sa := skewSymmetric (s.aMid imu)
  { s with
    deltaP := s.deltaP + (dt • s.deltaV + (0.5 * dt * dt) • aWorld)
    deltaV := s.deltaV + dt • aWorld
    deltaQ := s.nextDeltaQ imu dt
    cov := s.nextCov imu dt
    jDpDba := s.jDpDba + (dt • s.jDvDba + (0.5 * dt * dt) • R)
    jDpDbg := s.jDpDbg + (dt • s.jDvDbg - (0.5 * dt * dt) • (R * Sa * s.jDqDbg))
    jDvDba := s.jDvDba + dt • R
    jDvDbg := s.jDvDbg - dt • (R * Sa * s.jDqDbg)
    jDqDbg := (1 - dt • skewSymmetric (s.wMid imu)) * s.jDqDbg - dt • (1 : Mat3)
    deltaT := s.deltaT + dt
    prevTs := imu.timestamp
    prevImu := imu
    numSamples := s.numSamples + 1 }

/-- `Integrate`.  The first sample after `Reset`, and one behind a gap, are only remembered. -/
noncomputable def integrate (s : ImuPreintegrator) (imu : ImuMeasurement) : ImuPreintegrator :=
  if !s.hasPrev then { s with prevTs := imu.timestamp, prevImu := imu, hasPrev := true }
  else if s.sampleDt imu ≤ 0 ∨ 1 < s.sampleDt imu then
    { s with prevTs := imu.timestamp, prevImu := imu }
  else s.step imu (s.sampleDt imu)

section Cases

variable {s : ImuPreintegrator} {imu : ImuMeasurement}

theorem integrate_first (h : s.hasPrev = false) :
    s.integrate imu = { s with prevTs := imu.timestamp, prevImu := imu, hasPrev := true } := by
  rw [integrate, h]
  rfl

theorem integrate_gap (h : s.hasPrev = true) (hgap : s.sampleDt imu ≤ 0 ∨ 1 < s.sampleDt imu) :
    s.integrate imu = { s with prevTs := imu.timestamp, prevImu := imu } := by
  rw [integrate, if_neg (by simp [h]), if_pos hgap]

theorem integrate_step (h : s.hasPrev = true)
    (hstep : ¬ (s.sampleDt imu ≤ 0 ∨ 1 < s.sampleDt imu)) :
    s.integrate imu = s.step imu (s.sampleDt imu) := by
  rw [integrate, if_neg (by simp [h]), if_neg hstep]

end Cases

/-- `Integrate` for every sample. -/
noncomputable def integrateAll (s : ImuPreintegrator) (imus : List ImuMeasurement) :
    ImuPreintegrator :=
  imus.foldl integrate s

/-- The start stays. -/
@[simp]
theorem integrate_t0 (s : ImuPreintegrator) (imu : ImuMeasurement) :
    (s.integrate imu).t0 = s.t0 := by
  unfold integrate
  split
  · rfl
  · split
    · rfl
    · rfl

theorem integrateAll_t0 (s : ImuPreintegrator) (imus : List ImuMeasurement) :
    (s.integrateAll imus).t0 = s.t0 := by
  induction imus generalizing s with
  | nil => rfl
  | cons imu imus ih =>
    show ((s.integrate imu).integrateAll imus).t0 = s.t0
    rw [ih, integrate_t0]

/-! ### Integrated time -/

/-- The seconds between two samples, on the monotonic clock. -/
noncomputable def secondsBetween (prev imu : ImuMeasurement) : ℝ :=
  ((imu.timestamp.steady.sub prev.timestamp.steady).seconds : ℚ)

/-- What `delta_t_` comes to over the samples behind `prev`: a step that is not between 0 and 1
    seconds long is left out. -/
noncomputable def integratedSeconds : ImuMeasurement → List ImuMeasurement → ℝ
  | _, [] => 0
  | prev, imu :: imus =>
    (if secondsBetween prev imu ≤ 0 ∨ 1 < secondsBetween prev imu then 0
      else secondsBetween prev imu) + integratedSeconds imu imus

theorem integratedSeconds_nonneg (prev : ImuMeasurement) (imus : List ImuMeasurement) :
    0 ≤ integratedSeconds prev imus := by
  induction imus generalizing prev with
  | nil => exact le_refl _
  | cons imu imus ih =>
    unfold integratedSeconds
    have hrest := ih imu
    split
    · linarith
    · rename_i hstep
      rw [not_or, not_le] at hstep
      linarith [hstep.1]

/-- A sample was integrated or remembered, and is the last. -/
structure Remembers (s : ImuPreintegrator) : Prop where
  hasPrev : s.hasPrev = true
  prevTs : s.prevTs = s.prevImu.timestamp

theorem Remembers.sampleDt {s : ImuPreintegrator} (h : s.Remembers) (imu : ImuMeasurement) :
    s.sampleDt imu = secondsBetween s.prevImu imu := by
  rw [ImuPreintegrator.sampleDt, h.prevTs]
  rfl

theorem remembers_integrate (s : ImuPreintegrator) (imu : ImuMeasurement) :
    (s.integrate imu).Remembers ∧ (s.integrate imu).prevImu = imu := by
  cases hprev : s.hasPrev with
  | false =>
    rw [integrate_first hprev]
    exact ⟨⟨rfl, rfl⟩, rfl⟩
  | true =>
    by_cases hgap : s.sampleDt imu ≤ 0 ∨ 1 < s.sampleDt imu
    · rw [integrate_gap hprev hgap]
      exact ⟨⟨hprev, rfl⟩, rfl⟩
    · rw [integrate_step hprev hgap]
      exact ⟨⟨hprev, rfl⟩, rfl⟩

/-- **Integrated time.** -/
theorem deltaT_integrateAll {s : ImuPreintegrator} (h : s.Remembers) (imus : List ImuMeasurement) :
    (s.integrateAll imus).deltaT = s.deltaT + integratedSeconds s.prevImu imus := by
  induction imus generalizing s with
  | nil => exact (add_zero _).symm
  | cons imu imus ih =>
    obtain ⟨hnext, hprev⟩ := s.remembers_integrate imu
    have hdt : (s.integrate imu).deltaT = s.deltaT +
        if secondsBetween s.prevImu imu ≤ 0 ∨ 1 < secondsBetween s.prevImu imu then 0
        else secondsBetween s.prevImu imu := by
      rw [← h.sampleDt imu]
      split
      · rename_i hgap
        rw [integrate_gap h.hasPrev hgap, add_zero]
      · rename_i hstep
        rw [integrate_step h.hasPrev hstep]
        rfl
    show ((s.integrate imu).integrateAll imus).deltaT = _
    rw [ih hnext, hprev, hdt, integratedSeconds, add_assoc]

/-! ### The factor -/

/-- `Finalize`. -/
def finalize (s : ImuPreintegrator) (t1 : Timestamp) : ImuPreintegration where
  startTimestamp := s.t0
  endTimestamp := t1
  deltaP := s.deltaP
  deltaQ := s.deltaQ
  deltaV := s.deltaV
  covariance := s.cov
  jacobianDpDba := setBlock (setBlock (setBlock 0 0 0 s.jDpDba) 3 0 s.jDqDbg) 6 0 s.jDvDba
  jacobianDpDbg := setBlock (setBlock 0 0 0 s.jDpDbg) 6 0 s.jDvDbg
  linearisationAccelBiasMps2 := s.ba
  linearisationGyroBiasRadps := s.bg
  integrationTimeS := s.deltaT
  numSamples := s.numSamples

end ImuPreintegrator

/-! ### The cost function -/

/-- Gravity in ENU. -/
noncomputable def gravityEnu : Vec3 := ![0, 0, -gravityMps2]

/-- A keyframe as parameter blocks: pose, velocity and the two biases. -/
structure KeyframeBlocks where
  position : Vec3 := 0
  rotation : Quat := 1
  velocity : Vec3 := 0
  accelBias : Vec3 := 0
  gyroBias : Vec3 := 0

/-- `QuatResidual`. -/
noncomputable def quatResidual (q : Quat) : Vec3 :=
  if 0 < q.re then (2 : ℝ) • Quat.vec q else (-2 : ℝ) • Quat.vec q

namespace ImuPreintegration

/-- `dp_corr`, at the biases of a keyframe. -/
def correctedDeltaP (p : ImuPreintegration) (accelBias gyroBias : Vec3) : Vec3 :=
  p.deltaP + block p.jacobianDpDba 0 0 3 3 *ᵥ (accelBias - p.linearisationAccelBiasMps2)
    + block p.jacobianDpDbg 0 0 3 3 *ᵥ (gyroBias - p.linearisationGyroBiasRadps)

/-- `dv_corr`, at the biases of a keyframe. -/
def correctedDeltaV (p : ImuPreintegration) (accelBias gyroBias : Vec3) : Vec3 :=
  p.deltaV + block p.jacobianDpDba 6 0 3 3 *ᵥ (accelBias - p.linearisationAccelBiasMps2)
    + block p.jacobianDpDbg 6 0 3 3 *ᵥ (gyroBias - p.linearisationGyroBiasRadps)

/-- `dq_hat * dq_corr`, at the gyro bias of a keyframe. -/
noncomputable def correctedDeltaQ (p : ImuPreintegration) (gyroBias : Vec3) : Quat :=
  p.deltaQ * ImuPreintegrator.expMap
    (block p.jacobianDpDba 3 0 3 3 *ᵥ (gyroBias - p.linearisationGyroBiasRadps))

/-- The residuals of `ImuPreintegrationCost` before they are scaled: position, attitude and
    velocity. -/
noncomputable def residual (p : ImuPreintegration) (i j : KeyframeBlocks) : Vec3 × Vec3 × Vec3 :=
  let qi := Quat.normalized i.rotation
  let qj := Quat.normalized j.rotation
  let R := Quat.toRotationMatrix qi
  let dt := p.integrationTimeS
  (Rᵀ *ᵥ (j.position - i.position - dt • i.velocity - (0.5 * dt * dt) • gravityEnu)
      - p.correctedDeltaP i.accelBias i.gyroBias,
    quatResidual (star (p.correctedDeltaQ i.gyroBias) * (star qi * qj)),
    Rᵀ *ᵥ (j.velocity - i.velocity - dt • gravityEnu)
      - p.correctedDeltaV i.accelBias i.gyroBias)

/-- `info_scale`, which every residual is multiplied by. -/
noncomputable def infoScale (p : ImuPreintegration) : ℝ :=
  1 / max 1e-6 √(p.covariance.trace / 9)

end ImuPreintegration

end FalconGuide
