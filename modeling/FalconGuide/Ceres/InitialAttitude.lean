import FalconGuide.Ceres.KeyframeTimes
import FalconGuide.Core.Rotations
import Mathlib.LinearAlgebra.Matrix.DotProduct

namespace FalconGuide

open Lib Matrix ImuPreintegrator CeresSlidingWindowEstimator

/-!
# The attitude of the first keyframe

`InitFromGnss` turns the mean specific force, which points upwards, to the direction of gravity.  It
takes the negative of the force for gravity and then the negative of that, so that the two signs
cancel, and gravity is doubled instead of cancelled.

* `TakesDirection` — what `FromTwoVectors` is for;
* `rotated_meanSpecificForce` — the mean specific force points downwards;
* `AtRest`, `deltaV_atRest` — preintegration of a constant specific force;
* `velocity_atRest` — the velocity predicted for a vehicle at rest;
* `CancelsGravity` — what the first keyframe is for, and `gravity_not_cancelled`, the main result.
-/

/-! ### Directions -/

theorem euclideanNorm_neg {n : ℕ} (v : Fin n → ℝ) : euclideanNorm (-v) = euclideanNorm v := by
  rw [euclideanNorm, euclideanNorm, neg_dotProduct_neg]

theorem normalizedVec_neg {n : ℕ} (v : Fin n → ℝ) : normalizedVec (-v) = -normalizedVec v := by
  unfold normalizedVec
  rw [neg_dotProduct_neg, euclideanNorm_neg]
  split
  · rw [smul_neg]
  · rfl

theorem dotProduct_self_pos {n : ℕ} {v : Fin n → ℝ} (h : v ≠ 0) : 0 < v ⬝ᵥ v := by
  have hnonneg : 0 ≤ v ⬝ᵥ v := Finset.sum_nonneg fun i _ => mul_self_nonneg (v i)
  have hne : v ⬝ᵥ v ≠ 0 := fun hzero => h (dotProduct_self_eq_zero.mp hzero)
  exact lt_of_le_of_ne hnonneg hne.symm

theorem euclideanNorm_pos {n : ℕ} {v : Fin n → ℝ} (h : v ≠ 0) : 0 < euclideanNorm v :=
  Real.sqrt_pos.mpr (dotProduct_self_pos h)

/-- A vector is its length times its direction. -/
theorem euclideanNorm_smul_normalizedVec {n : ℕ} {v : Fin n → ℝ} (h : v ≠ 0) :
    euclideanNorm v • normalizedVec v = v := by
  have hnorm := (euclideanNorm_pos h).ne'
  rw [normalizedVec, if_pos (dotProduct_self_pos h), smul_smul, mul_inv_cancel₀ hnorm, one_smul]

theorem normalizedVec_normalizedVec {n : ℕ} {v : Fin n → ℝ} (h : v ≠ 0) :
    normalizedVec (normalizedVec v) = normalizedVec v := by
  have hpos := dotProduct_self_pos h
  have hdot : normalizedVec v ⬝ᵥ normalizedVec v = 1 := by
    rw [normalizedVec, if_pos hpos, smul_dotProduct, dotProduct_smul, smul_smul, euclideanNorm,
      ← mul_inv, Real.mul_self_sqrt hpos.le, smul_eq_mul, inv_mul_cancel₀ hpos.ne']
  unfold normalizedVec at hdot ⊢
  rw [hdot, if_pos one_pos, euclideanNorm, hdot, Real.sqrt_one, inv_one, one_smul]

theorem gravityMps2_pos : 0 < gravityMps2 := by
  norm_num [gravityMps2]

/-- Gravity points downwards. -/
theorem normalizedVec_gravityEnu : normalizedVec gravityEnu = ![0, 0, -1] := by
  have hdot : gravityEnu ⬝ᵥ gravityEnu = gravityMps2 ^ 2 := by
    simp [gravityEnu, dotProduct, Fin.sum_univ_three, sq]
  have hpos := gravityMps2_pos
  have hnorm : euclideanNorm gravityEnu = gravityMps2 := by
    rw [euclideanNorm, hdot, Real.sqrt_sq hpos.le]
  rw [normalizedVec, hdot, if_pos (by positivity), hnorm, gravityEnu]
  ext i
  fin_cases i
  · simp
  · simp
  · simp [hpos.ne']

theorem gravityEnu_ne : gravityEnu ≠ 0 := by
  intro hzero
  have hz := congrFun hzero 2
  have hpos := gravityMps2_pos
  simp only [gravityEnu, Matrix.cons_val, Pi.zero_apply] at hz
  linarith

/-- A rotation that takes the direction of `a` to that of `b`. -/
structure TakesDirection (q : Quat) (a b : Vec3) : Prop where
  unit : Quaternion.normSq q = 1
  direction : Quat.toRotationMatrix q *ᵥ normalizedVec a = normalizedVec b

/-! ### The mean specific force -/

section FirstKeyframe

variable {options : CeresOptions} {lib : CeresLibrary} {e : CeresSlidingWindowEstimator options}
  {gnss : GnssSolution} {f : Vec3}

/-- `FromTwoVectors` does what it is for on the arguments of `InitFromGnss`. -/
def RotatesArguments (lib : CeresLibrary) (imuBuffer : List ImuMeasurement) : Prop :=
  TakesDirection
    (lib.fromTwoVectors (-normalizedVec (gravityBody imuBuffer)) (normalizedVec gravityEnu))
    (-normalizedVec (gravityBody imuBuffer)) (normalizedVec gravityEnu)

/-- **Two signs.** The first argument is the direction of the mean specific force. -/
theorem neg_normalizedVec_gravityBody {imuBuffer : List ImuMeasurement}
    (hmean : meanSpecificForce imuBuffer ≠ 0) :
    -normalizedVec (gravityBody imuBuffer) = normalizedVec (meanSpecificForce imuBuffer) := by
  have hbuffer : imuBuffer ≠ [] := by
    rintro rfl
    refine hmean ?_
    rw [meanSpecificForce, List.map_nil, List.sum_nil, smul_zero]
  rw [gravityBody, if_neg hbuffer, normalizedVec_neg, neg_neg]

/-- The attitude is the one that `FromTwoVectors` gives. -/
theorem newest_initFromGnss (lib : CeresLibrary) (e : CeresSlidingWindowEstimator options)
    (gnss : GnssSolution) : (e.initFromGnss lib gnss).1.newest
      = { rotation := initialRotation lib e.imuBuffer, timestamp := gnss.timestamp } :=
  List.getLastD_concat

/-- **Downwards.** The mean specific force, turned by the attitude of the first keyframe. -/
theorem rotated_meanSpecificForce (hmean : meanSpecificForce e.imuBuffer ≠ 0)
    (hrot : RotatesArguments lib e.imuBuffer) :
    Quat.toRotationMatrix (e.initFromGnss lib gnss).1.newest.Q *ᵥ meanSpecificForce e.imuBuffer
      = ![0, 0, -euclideanNorm (meanSpecificForce e.imuBuffer)] := by
  have hQ : (e.initFromGnss lib gnss).1.newest.Q = initialRotation lib e.imuBuffer := by
    rw [newest_initFromGnss]
    exact Quat.normalized_of_unit hrot.unit
  have hdirection : Quat.toRotationMatrix (initialRotation lib e.imuBuffer) *ᵥ
      normalizedVec (-normalizedVec (gravityBody e.imuBuffer))
        = normalizedVec (normalizedVec gravityEnu) := hrot.direction
  rw [neg_normalizedVec_gravityBody hmean, normalizedVec_normalizedVec hmean,
    normalizedVec_normalizedVec gravityEnu_ne, normalizedVec_gravityEnu] at hdirection
  rw [hQ]
  conv_lhs => rw [← euclideanNorm_smul_normalizedVec hmean]
  rw [mulVec_smul, hdirection]
  ext i
  fin_cases i
  · simp
  · simp
  · simp

end FirstKeyframe

/-! ### A vehicle at rest -/

/-- A sample of a vehicle at rest, with the specific force `f`. -/
structure Stationary (f : Vec3) (imu : ImuMeasurement) : Prop where
  specificForce : imu.specificForceMps2 = f
  angularRate : imu.angularRateRadps = 0

/-- A preintegration without biases of samples at rest. -/
structure AtRest (f : Vec3) (s : ImuPreintegrator) : Prop where
  remembers : s.Remembers
  prevImu : Stationary f s.prevImu
  ba : s.ba = 0
  bg : s.bg = 0
  deltaQ : s.deltaQ = 1

/-- **One sample at rest.** -/
theorem AtRest.integrate {f : Vec3} {s : ImuPreintegrator} {imu : ImuMeasurement}
    (h : AtRest f s) (himu : Stationary f imu) : AtRest f (s.integrate imu) ∧
      (s.integrate imu).deltaV = s.deltaV + (if secondsBetween s.prevImu imu ≤ 0 ∨
        1 < secondsBetween s.prevImu imu then 0 else secondsBetween s.prevImu imu) • f := by
  obtain ⟨hremembers, hprev⟩ := s.remembers_integrate imu
  have hdt := h.remembers.sampleDt imu
  by_cases hgap : secondsBetween s.prevImu imu ≤ 0 ∨ 1 < secondsBetween s.prevImu imu
  · rw [if_pos hgap, zero_smul, add_zero, integrate_gap h.remembers.hasPrev (by rwa [hdt])]
    exact ⟨⟨⟨h.remembers.hasPrev, rfl⟩, himu, h.ba, h.bg, h.deltaQ⟩, rfl⟩
  · have hw : s.wMid imu = 0 := by
      rw [ImuPreintegrator.wMid, h.prevImu.angularRate, himu.angularRate, h.bg, sub_zero, add_zero,
        smul_zero]
    have ha : s.aMid imu = f := by
      rw [ImuPreintegrator.aMid, h.prevImu.specificForce, himu.specificForce, h.ba, sub_zero]
      ext i
      simp only [Pi.smul_apply, Pi.add_apply, smul_eq_mul]
      ring
    rw [if_neg hgap, integrate_step h.remembers.hasPrev (by rwa [hdt]), hdt]
    refine ⟨⟨⟨h.remembers.hasPrev, rfl⟩, himu, h.ba, h.bg, ?_⟩, ?_⟩
    · show s.nextDeltaQ imu _ = 1
      rw [ImuPreintegrator.nextDeltaQ, hw, smul_zero, expMap_zero, mul_one, h.deltaQ,
        Quat.normalized_one]
    · show s.deltaV + _ • (Quat.toRotationMatrix s.deltaQ *ᵥ s.aMid imu) = _
      rw [h.deltaQ, Quat.toRotationMatrix_one, one_mulVec, ha]

/-- **Samples at rest.** The velocity is the force times the integrated time. -/
theorem AtRest.deltaV_integrateAll {f : Vec3} {s : ImuPreintegrator} {imus : List ImuMeasurement}
    (h : AtRest f s) (himus : ∀ imu ∈ imus, Stationary f imu) :
    (s.integrateAll imus).deltaV = s.deltaV + integratedSeconds s.prevImu imus • f := by
  induction imus generalizing s with
  | nil =>
    rw [integratedSeconds, zero_smul, add_zero]
    rfl
  | cons imu imus ih =>
    obtain ⟨hnext, hdeltaV⟩ := h.integrate (himus imu List.mem_cons_self)
    have hrest := ih hnext fun x hx => himus x (List.mem_cons_of_mem imu hx)
    show ((s.integrate imu).integrateAll imus).deltaV = _
    rw [hrest, hdeltaV, (s.remembers_integrate imu).2, integratedSeconds, add_smul, add_assoc]

theorem deltaV_atRest {f : Vec3} {samples : List ImuMeasurement} (s : ImuPreintegrator)
    (t0 : Timestamp) (h : ∀ imu ∈ samples, Stationary f imu) :
    ((s.reset 0 0 t0).integrateAll samples).deltaV = coveredSeconds samples • f := by
  cases samples with
  | nil =>
    rw [coveredSeconds, zero_smul]
    rfl
  | cons first imus =>
    obtain ⟨hremembers, hprev⟩ := (s.reset 0 0 t0).remembers_integrate first
    have hfirst : AtRest f ((s.reset 0 0 t0).integrate first) := by
      refine ⟨hremembers, ?_, ?_, ?_, ?_⟩
      · rw [hprev]
        exact h first List.mem_cons_self
      all_goals
        rw [integrate_first rfl]
        rfl
    have hrest := hfirst.deltaV_integrateAll fun x hx => h x (List.mem_cons_of_mem first hx)
    show (((s.reset 0 0 t0).integrate first).integrateAll imus).deltaV = _
    rw [hrest, hprev, integrate_first rfl, coveredSeconds]
    exact zero_add _

/-! ### Gravity -/

/-- Nothing but samples comes in, and then a keyframe is made at `t`: its predicted velocity. -/
noncomputable def predictedVelocity {options : CeresOptions}
    (e : CeresSlidingWindowEstimator options) (imus : List ImuMeasurement) (t : Timestamp) : Vec3 :=
  let e := imus.foldl (fun e imu => (e.addImu imu).1) e
  (predictedKeyframe e.newest (e.preint.finalize t) t).velocity

/-- What the first keyframe is for: the mean specific force points upwards, and a vehicle that stays
    at rest is predicted to be at rest. -/
structure CancelsGravity {options : CeresOptions} (lib : CeresLibrary)
    (e : CeresSlidingWindowEstimator options) (gnss : GnssSolution) : Prop where
  upwards : Quat.toRotationMatrix (e.initFromGnss lib gnss).1.newest.Q *ᵥ
    meanSpecificForce e.imuBuffer = ![0, 0, euclideanNorm (meanSpecificForce e.imuBuffer)]
  still : euclideanNorm (meanSpecificForce e.imuBuffer) = gravityMps2 → ∀ imus t,
    (∀ imu ∈ e.imuBuffer ++ imus, Stationary (meanSpecificForce e.imuBuffer) imu) →
      predictedVelocity (e.initFromGnss lib gnss).1 imus t = 0

section Gravity

variable {options : CeresOptions} {lib : CeresLibrary} {e : CeresSlidingWindowEstimator options}
  {gnss : GnssSolution}

/-- Samples are only integrated. -/
theorem foldl_addImu {e : CeresSlidingWindowEstimator options} (h : e.preintActive = true)
    (imus : List ImuMeasurement) :
    (imus.foldl (fun e imu => (e.addImu imu).1) e).newest = e.newest ∧
      (imus.foldl (fun e imu => (e.addImu imu).1) e).preint = e.preint.integrateAll imus := by
  induction imus generalizing e with
  | nil => exact ⟨rfl, rfl⟩
  | cons imu imus ih =>
    have hactive : (e.addImu imu).1.preintActive = true := h
    obtain ⟨hnewest, hpreint⟩ := ih hactive
    refine ⟨hnewest, ?_⟩
    show (imus.foldl _ (e.addImu imu).1).preint = (e.preint.integrate imu).integrateAll imus
    rw [hpreint]
    show (if e.preintActive then e.preint.integrate imu else e.preint).integrateAll imus = _
    rw [if_pos h]

/-- **Twice gravity.** The velocity that is predicted for a vehicle at rest. -/
theorem predictedVelocity_stationary (hmean : meanSpecificForce e.imuBuffer ≠ 0)
    (hrot : RotatesArguments lib e.imuBuffer)
    (hg : euclideanNorm (meanSpecificForce e.imuBuffer) = gravityMps2) {imus : List ImuMeasurement}
    (himus : ∀ imu ∈ e.imuBuffer ++ imus, Stationary (meanSpecificForce e.imuBuffer) imu)
    (t : Timestamp) :
    predictedVelocity (e.initFromGnss lib gnss).1 imus t
      = (2 * coveredSeconds (replayed e.imuBuffer gnss.timestamp ++ imus)) • gravityEnu := by
  have hactive : (e.initFromGnss lib gnss).1.preintActive = true := rfl
  obtain ⟨hnewest, hpreint⟩ := foldl_addImu hactive imus
  have hsamples : ∀ imu ∈ replayed e.imuBuffer gnss.timestamp ++ imus,
      Stationary (meanSpecificForce e.imuBuffer) imu := by
    intro imu hmem
    rcases List.mem_append.mp hmem with hold | hnew
    · exact himus imu (List.mem_append_left _ (List.mem_of_mem_filter hold))
    · exact himus imu (List.mem_append_right _ hnew)
  have hintegrated : (e.initFromGnss lib gnss).1.preint.integrateAll imus
      = (e.preint.reset 0 0 gnss.timestamp).integrateAll
          (replayed e.imuBuffer gnss.timestamp ++ imus) := (List.foldl_append ..).symm
  have hdown : Quat.toRotationMatrix (e.initFromGnss lib gnss).1.newest.Q
      *ᵥ meanSpecificForce e.imuBuffer = gravityEnu := by
    rw [rotated_meanSpecificForce hmean hrot, hg, gravityEnu]
  unfold predictedVelocity
  dsimp only
  rw [hnewest, hpreint, hintegrated]
  show (e.initFromGnss lib gnss).1.newest.velocity
    + (ImuPreintegrator.integrateAll _ _).deltaT • gravityEnu
    + Quat.toRotationMatrix (e.initFromGnss lib gnss).1.newest.Q
        *ᵥ (ImuPreintegrator.integrateAll _ _).deltaV = _
  rw [deltaV_atRest _ _ hsamples, deltaT_reset, mulVec_smul, hdown, newest_initFromGnss]
  show 0 + _ + _ = _
  rw [zero_add, ← add_smul, two_mul]

/-- **Gravity is doubled.** For every buffer, the mean specific force does not point upwards; and
    of the length of gravity, no vehicle at rest is predicted to be at rest once time was
    integrated. -/
theorem gravity_not_cancelled (hmean : meanSpecificForce e.imuBuffer ≠ 0)
    (hrot : RotatesArguments lib e.imuBuffer) :
    Quat.toRotationMatrix (e.initFromGnss lib gnss).1.newest.Q *ᵥ meanSpecificForce e.imuBuffer
        ≠ ![0, 0, euclideanNorm (meanSpecificForce e.imuBuffer)] ∧
      (euclideanNorm (meanSpecificForce e.imuBuffer) = gravityMps2 → ∀ imus t,
        (∀ imu ∈ e.imuBuffer ++ imus, Stationary (meanSpecificForce e.imuBuffer) imu) →
        0 < coveredSeconds (replayed e.imuBuffer gnss.timestamp ++ imus) →
          predictedVelocity (e.initFromGnss lib gnss).1 imus t ≠ 0) := by
  constructor
  · rw [rotated_meanSpecificForce hmean hrot]
    intro heq
    have hz := congrFun heq 2
    have hpos := euclideanNorm_pos hmean
    simp only [Matrix.cons_val] at hz
    linarith
  · intro hg imus t himus hpos
    rw [predictedVelocity_stationary hmean hrot hg himus t]
    exact smul_ne_zero (by linarith) gravityEnu_ne

end Gravity

/-! ### A level vehicle -/

/-- A sample of a level vehicle at rest, of millisecond `t`. -/
noncomputable def levelSample (t : ℤ) : ImuMeasurement :=
  { sampleAt t with specificForceMps2 := ![0, 0, gravityMps2] }

/-- A library that turns upside down, about the first axis. -/
def flippingLibrary : CeresLibrary :=
  { idleLibrary with fromTwoVectors := fun _ _ => ⟨0, 1, 0, 0⟩ }

/-- An estimator with one sample in its buffer. -/
noncomputable def levelEstimator : CeresSlidingWindowEstimator {} :=
  { imuBuffer := [levelSample 0] }

theorem meanSpecificForce_level :
    meanSpecificForce levelEstimator.imuBuffer = ![0, 0, gravityMps2] := by
  show ((1 : ℕ) : ℝ)⁻¹ • (![0, 0, gravityMps2] + 0 : Vec3) = _
  rw [Nat.cast_one, inv_one, one_smul, add_zero]

theorem meanSpecificForce_level_eq : meanSpecificForce levelEstimator.imuBuffer = -gravityEnu := by
  rw [meanSpecificForce_level, gravityEnu]
  ext i
  fin_cases i
  · simp
  · simp
  · simp

theorem meanSpecificForce_level_ne : meanSpecificForce levelEstimator.imuBuffer ≠ 0 := by
  rw [meanSpecificForce_level_eq]
  exact neg_ne_zero.mpr gravityEnu_ne

theorem euclideanNorm_level :
    euclideanNorm (meanSpecificForce levelEstimator.imuBuffer) = gravityMps2 := by
  have hdot : ![0, 0, gravityMps2] ⬝ᵥ ![0, 0, gravityMps2] = gravityMps2 ^ 2 := by
    simp [dotProduct, Fin.sum_univ_three, sq]
  rw [meanSpecificForce_level, euclideanNorm, hdot, Real.sqrt_sq gravityMps2_pos.le]

/-- Upside down is downwards. -/
theorem rotatesArguments_level : RotatesArguments flippingLibrary levelEstimator.imuBuffer := by
  have hmean := meanSpecificForce_level_ne
  constructor
  · have hnormSq : Quaternion.normSq (⟨0, 1, 0, 0⟩ : Quat) = 0 ^ 2 + 1 ^ 2 + 0 ^ 2 + 0 ^ 2 :=
      Quaternion.normSq_def' _
    exact hnormSq.trans (by norm_num)
  · rw [neg_normalizedVec_gravityBody hmean, normalizedVec_normalizedVec hmean,
      normalizedVec_normalizedVec gravityEnu_ne, meanSpecificForce_level_eq, normalizedVec_neg,
      normalizedVec_gravityEnu]
    show Quat.toRotationMatrix (⟨0, 1, 0, 0⟩ : Quat) *ᵥ _ = _
    ext i
    fin_cases i
    · simp [Quat.toRotationMatrix]
    · simp [Quat.toRotationMatrix]
    · norm_num [Quat.toRotationMatrix]

/-- **A level vehicle.** After a second at rest, it is predicted to fall. -/
theorem gravity_not_cancelled_level :
    predictedVelocity (levelEstimator.initFromGnss flippingLibrary (fixAt 0)).1 [levelSample 1000]
      (fixAt 1000).timestamp ≠ 0 := by
  refine (gravity_not_cancelled meanSpecificForce_level_ne rotatesArguments_level).2
    euclideanNorm_level _ _ ?_ ?_
  · intro imu hmem
    have himu : imu = levelSample 0 ∨ imu = levelSample 1000 := by
      simpa [levelEstimator] using hmem
    rcases himu with rfl | rfl
    · exact ⟨meanSpecificForce_level.symm, rfl⟩
    · exact ⟨meanSpecificForce_level.symm, rfl⟩
  · have hreplayed : replayed levelEstimator.imuBuffer (fixAt 0).timestamp = [levelSample 0] := by
      simp [replayed, levelEstimator, levelSample, sampleAt, fixAt, compareTimestamps]
    have hseconds : secondsBetween (levelSample 0) (levelSample 1000) = 1 := by
      rw [secondsBetween_eq]
      show steadySeconds (fixAt 1000).timestamp - steadySeconds (fixAt 0).timestamp = 1
      rw [steadySeconds_fixAt, steadySeconds_fixAt]
      norm_num
    rw [hreplayed]
    show 0 < (if secondsBetween (levelSample 0) (levelSample 1000) ≤ 0 ∨
      1 < secondsBetween (levelSample 0) (levelSample 1000) then 0
      else secondsBetween (levelSample 0) (levelSample 1000)) + 0
    rw [hseconds]
    norm_num

/-- The level vehicle against the purpose of the first keyframe. -/
theorem not_cancelsGravity :
    ¬ ∀ (options : CeresOptions) (lib : CeresLibrary) (e : CeresSlidingWindowEstimator options)
      (gnss : GnssSolution), e.imuBuffer ≠ [] → meanSpecificForce e.imuBuffer ≠ 0 →
        RotatesArguments lib e.imuBuffer → CancelsGravity lib e gnss := by
  intro h
  have hlevel := h {} flippingLibrary levelEstimator (fixAt 0) (List.cons_ne_nil _ _)
    meanSpecificForce_level_ne rotatesArguments_level
  have hupwards := hlevel.upwards
  rw [rotated_meanSpecificForce meanSpecificForce_level_ne rotatesArguments_level,
    euclideanNorm_level] at hupwards
  have hz := congrFun hupwards 2
  have hpos := gravityMps2_pos
  simp only [Matrix.cons_val] at hz
  linarith

end FalconGuide
