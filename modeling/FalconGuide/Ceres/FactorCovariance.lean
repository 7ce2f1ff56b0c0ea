import FalconGuide.Ceres.Composition
import FalconGuide.Ceres.KeyframeTimes
import FalconGuide.Ekf.Blocks

namespace FalconGuide

open Lib Matrix ImuPreintegrator CeresSlidingWindowEstimator

/-!
# What every factor keeps

`Integrate` carries a covariance along that it never checks, and `ImuPreintegrationCost` divides by
a root of its trace.

* `ImuPreintegrator.Sound`, `ImuPreintegration.Sound` — what holds of the increments of a factor;
* `ImuPreintegrator.Sound.step`, `Sound.integrateAll` — a sample keeps it, and so do several;
* `infoScale_mem` — the scale of the residuals is positive and has a bound;
* `factors_sound` — the main result: every factor of every reachable window.
-/

/-! ### Factors -/

/-- The rotation is one, the covariance is one, and no sample accounts for more than a second. -/
structure ImuPreintegration.Sound (p : ImuPreintegration) : Prop where
  unit : Quaternion.normSq p.deltaQ = 1
  covariance : p.covariance.PosSemidef
  time : 0 ≤ p.integrationTimeS ∧ p.integrationTimeS ≤ p.numSamples

/-- Whatever the covariance is, the residuals are scaled by a positive number. -/
theorem ImuPreintegration.infoScale_mem (p : ImuPreintegration) :
    0 < p.infoScale ∧ p.infoScale ≤ 1e6 := by
  have hfloor : (1e-6 : ℝ) ≤ max 1e-6 √(p.covariance.trace / 9) := le_max_left _ _
  have hpos : (0 : ℝ) < max 1e-6 √(p.covariance.trace / 9) := lt_of_lt_of_le (by norm_num) hfloor
  refine ⟨one_div_pos.mpr hpos, ?_⟩
  calc p.infoScale ≤ 1 / 1e-6 := one_div_le_one_div_of_le (by norm_num) hfloor
    _ = 1e6 := by norm_num

/-! ### The integrator -/

namespace ImuPreintegrator

variable {s : ImuPreintegrator}

/-- What a factor would have if it were taken now. -/
structure Sound (s : ImuPreintegrator) : Prop where
  unit : Quaternion.normSq s.deltaQ = 1
  covariance : s.cov.PosSemidef
  time : 0 ≤ s.deltaT ∧ s.deltaT ≤ s.numSamples

theorem Sound.finalize (h : s.Sound) (t1 : Timestamp) : (s.finalize t1).Sound :=
  ⟨h.unit, h.covariance, h.time⟩

theorem sound_new : ({} : ImuPreintegrator).Sound :=
  ⟨map_one _, .zero, le_refl _, le_of_eq Nat.cast_zero.symm⟩

theorem sound_reset (s : ImuPreintegrator) (accelBias gyroBias : Vec3) (t0 : Timestamp) :
    (s.reset accelBias gyroBias t0).Sound :=
  ⟨map_one _, .zero, le_refl _, le_of_eq Nat.cast_zero.symm⟩

/-- Noise of two sensors that know nothing of each other. -/
theorem posSemidef_sensorNoise (a g : ℝ) :
    (setBlock (setBlock (0 : Matrix (Fin 6) (Fin 6) ℝ) 0 0 ((a * a) • (1 : Mat3))) 3 3
      ((g * g) • (1 : Mat3))).PosSemidef := by
  have hblocks := (BlockDiagonal.zero (n := 6)).setBlock (o := 0) (q := 3) (by decide)
    (posSemidef_isotropicNoise 3 a)
  have hboth := hblocks.setBlock (o := 3) (q := 3) (by decide) (posSemidef_isotropicNoise 3 g)
  exact hboth.posSemidef

/-- **The covariance** is turned and gets the noise of the sample, whatever the Jacobians are. -/
theorem posSemidef_nextCov (h : s.cov.PosSemidef) (imu : ImuMeasurement) (dt : ℝ) :
    (s.nextCov imu dt).PosSemidef :=
  (Kalman.posSemidef_congr h _).add (Kalman.posSemidef_congr (posSemidef_sensorNoise _ _) _)

/-- **One step** of at most a second. -/
theorem Sound.step (h : s.Sound) (imu : ImuMeasurement) {dt : ℝ} (hpos : 0 < dt) (hle : dt ≤ 1) :
    (s.step imu dt).Sound where
  unit := normSq_nextDeltaQ h.unit imu dt
  covariance := posSemidef_nextCov h.covariance imu dt
  time := by
    obtain ⟨hnonneg, hcount⟩ := h.time
    refine ⟨add_nonneg hnonneg hpos.le, ?_⟩
    show s.deltaT + dt ≤ ((s.numSamples + 1 : ℕ) : ℝ)
    push_cast
    linarith

/-- **One sample**, whether it is integrated or only remembered. -/
theorem Sound.integrate (h : s.Sound) (imu : ImuMeasurement) : (s.integrate imu).Sound := by
  cases hprev : s.hasPrev with
  | false =>
    rw [integrate_first hprev]
    exact ⟨h.unit, h.covariance, h.time⟩
  | true =>
    by_cases hgap : s.sampleDt imu ≤ 0 ∨ 1 < s.sampleDt imu
    · rw [integrate_gap hprev hgap]
      exact ⟨h.unit, h.covariance, h.time⟩
    · rw [integrate_step hprev hgap]
      rw [not_or, not_le, not_lt] at hgap
      exact h.step imu hgap.1 hgap.2

/-- **Several samples.** -/
theorem Sound.integrateAll (h : s.Sound) (imus : List ImuMeasurement) :
    (s.integrateAll imus).Sound := by
  induction imus generalizing s with
  | nil => exact h
  | cons imu imus ih => exact ih (h.integrate imu)

end ImuPreintegrator

/-! ### Runs -/

namespace CeresSlidingWindowEstimator

variable {options : CeresOptions} {e e' : CeresSlidingWindowEstimator options}

/-- The factors of the window, and the one that is coming about. -/
structure FactorsSound (e : CeresSlidingWindowEstimator options) : Prop where
  factors : ∀ p ∈ e.imuFactors, p.Sound
  preint : e.preint.Sound

theorem factorsSound_new : ({} : CeresSlidingWindowEstimator options).FactorsSound where
  factors _ hp := absurd hp List.not_mem_nil
  preint := sound_new

/-- A new keyframe takes what was integrated into the window, and starts afresh. -/
theorem FactorsSound.createKeyframe (h : e.FactorsSound) (lib : CeresLibrary)
    (gnss : GnssSolution) (posEnu : Vec3) :
    (e.createKeyframe lib gnss posEnu).1.FactorsSound where
  factors := by
    intro p hp
    rw [createKeyframe_imuFactors] at hp
    rcases List.mem_append.mp (List.mem_of_mem_drop hp) with hold | hnew
    · exact h.factors p hold
    · rw [List.mem_singleton] at hnew
      rw [hnew]
      exact h.preint.finalize gnss.timestamp
  preint := sound_reset _ _ _ _

/-- **One fix.** -/
theorem FactorsSound.addGnss (h : e.FactorsSound) (lib : CeresLibrary) (gnss : GnssSolution) :
    (e.addGnss lib gnss).1.FactorsSound := by
  rcases addGnss_cases lib e gnss with ⟨_, heq⟩ | ⟨_, _, heq⟩ | ⟨_, _, ⟨_, heq⟩ | ⟨_, heq⟩⟩
  · rw [heq]
    exact h
  · rw [heq]
    exact ⟨h.factors, (sound_reset _ _ _ _).integrateAll _⟩
  · rw [heq]
    exact h.createKeyframe lib gnss _
  · rw [heq]
    exact ⟨h.factors, h.preint⟩

/-- **One call.** -/
theorem FactorsSound.step (h : e.FactorsSound) {call : Call} (hstep : Step e call e') :
    e'.FactorsSound := by
  cases hstep with
  | addMeasurement lib m =>
    cases m with
    | imu imu =>
      refine ⟨h.factors, ?_⟩
      show (if e.preintActive then e.preint.integrate imu else e.preint).Sound
      split
      · exact h.preint.integrate imu
      · exact h.preint
    | gnssSolution gnss => exact h.addGnss lib gnss
    | _ => exact h
  | processUntil timestamp => exact h
  | reset => exact factorsSound_new

theorem factorsSound_of_reachable (h : (system options).Reachable e) : e.FactorsSound := by
  induction h with
  | init hinit =>
    subst hinit
    exact factorsSound_new
  | step _ hstep ih => exact ih.step hstep

/-- **Every run.** Whatever the measurements are and whatever the solver writes, the covariance of
    every factor is positive semidefinite, its rotation is a unit quaternion, its samples account
    for at most a second each, and its residuals are scaled by a positive number below a bound.  All
    numbers are exact reals: nothing is rounded and nothing is a NaN. -/
theorem factors_sound (options : CeresOptions) (e : CeresSlidingWindowEstimator options)
    (h : (system options).Reachable e) (t : Timestamp) :
    ∀ p ∈ e.imuFactors ++ [e.preint.finalize t], p.Sound ∧ 0 < p.infoScale ∧ p.infoScale ≤ 1e6 := by
  have hsound := factorsSound_of_reachable h
  intro p hp
  refine ⟨?_, p.infoScale_mem⟩
  rcases List.mem_append.mp hp with hold | hnew
  · exact hsound.factors p hold
  · rw [List.mem_singleton] at hnew
    rw [hnew]
    exact hsound.preint.finalize t

/-- After two fixes: the samples since the second. -/
theorem factors_sound_second :
    ((afterSecondFix 0).estimator.preint.finalize (fixAt 2000).timestamp).Sound ∧
      0 < ((afterSecondFix 0).estimator.preint.finalize (fixAt 2000).timestamp).infoScale ∧
      ((afterSecondFix 0).estimator.preint.finalize (fixAt 2000).timestamp).infoScale ≤ 1e6 := by
  have hfirst := (afterFirstFix_eq {} 0).1.of_guarded
  have hsecond := hfirst.step (Recorded.next_step idleLibrary _ (.gnssSolution (fixAt 1000)))
  exact factors_sound {} _ (Recorded.reachable hsecond) (fixAt 2000).timestamp _
    (List.mem_append_right _ (List.mem_singleton_self _))

end CeresSlidingWindowEstimator

end FalconGuide
