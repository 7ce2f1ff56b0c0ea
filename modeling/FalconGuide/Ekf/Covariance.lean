import FalconGuide.Ekf.Applied
import FalconGuide.Ekf.Propagation

namespace FalconGuide

open Lib Matrix

/-!
# The covariance of a run

* `blockDiagonal_initialCovariance`, `posSemidef_propagateImu` — initialisation and one step of
  propagation;
* `EkfEstimator.posSemidef_of_step` — every public call keeps the covariance positive semidefinite;
* `EkfEstimator.call_returns` — and returns;
* `EkfEstimator.covariance_posSemidef` — the covariance of every reachable state.
-/

/-! ### Initialisation -/

section Initialisation

variable {n : ℕ} {options : EkfOptions} {gnss : GnssSolution} {R : Mat3}
  {P : Matrix (Fin n) (Fin n) ℝ}

/-- A block written at one of the segments that every layout has. -/
theorem BlockDiagonal.setDiagBlock {id : StateSegmentId} {B : Mat3} (h : BlockDiagonal P)
    (hr : ((options.buildLayout.get id).offset, 3) ∈ blockRanges) (hB : B.PosSemidef) :
    BlockDiagonal (setDiagBlock options.buildLayout P id B) :=
  h.setBlock hr hB

/-- The position and velocity blocks of a fix, or their fallback. -/
theorem blockDiagonal_initialPosVel (hpos : gnss.positionCovarianceEcefM2.PosSemidef)
    (hvel : gnss.velocityCovarianceEcefM2ps2.PosSemidef) :
    BlockDiagonal (initialPosVel (n := n) options.buildLayout R gnss) := by
  have hfix : BlockDiagonal (setDiagBlock options.buildLayout
      (setDiagBlock options.buildLayout (0 : Matrix (Fin n) (Fin n) ℝ) .position
        (R * gnss.positionCovarianceEcefM2 * Rᵀ))
      .velocity (R * gnss.velocityCovarianceEcefM2ps2 * Rᵀ)) := by
    refine (BlockDiagonal.zero.setDiagBlock ?_ ?_).setDiagBlock ?_ ?_
    · simp [blockRanges]
    · exact Kalman.posSemidef_congr hpos R
    · simp [blockRanges]
    · exact Kalman.posSemidef_congr hvel R
  unfold initialPosVel
  show BlockDiagonal (ite _ _ _)
  split
  · refine (hfix.setDiagBlock ?_ ?_).setDiagBlock ?_ ?_
    · simp [blockRanges]
    · exact posSemidef_isotropicNoise 3 _
    · simp [blockRanges]
    · exact posSemidef_isotropicNoise 3 _
  · exact hfix

/-- The initial covariance. -/
theorem blockDiagonal_initialCovariance (hpos : gnss.positionCovarianceEcefM2.PosSemidef)
    (hvel : gnss.velocityCovarianceEcefM2ps2.PosSemidef) :
    BlockDiagonal (initialCovariance (n := n) options.buildLayout R gnss) := by
  have hstandard : ∀ a g b : ℝ, BlockDiagonal (setDiagBlock options.buildLayout
      (setDiagBlock options.buildLayout (setDiagBlock options.buildLayout
        (initialPosVel (n := n) options.buildLayout R gnss)
        .attitude (isotropicNoise 3 a)) .accelBias (isotropicNoise 3 g))
        .gyroBias (isotropicNoise 3 b)) := by
    intro a g b
    have hposVel : BlockDiagonal (initialPosVel options.buildLayout R gnss : Matrix (Fin n) _ ℝ) :=
      blockDiagonal_initialPosVel hpos hvel
    refine ((hposVel.setDiagBlock ?_ (posSemidef_isotropicNoise 3 a)).setDiagBlock ?_
      (posSemidef_isotropicNoise 3 g)).setDiagBlock ?_ (posSemidef_isotropicNoise 3 b)
    · simp [blockRanges]
    · simp [blockRanges]
    · simp [blockRanges]
  unfold initialCovariance
  show BlockDiagonal (ite _ _ _)
  split
  · rename_i hclock
    rw [EkfOptions.buildLayout_has_gnssClock] at hclock
    simp only [setEntry, EkfOptions.buildLayout_gnssClock options hclock]
    refine ((hstandard _ _ _).setBlock (by decide) ?_).setBlock (by decide) ?_
    · exact posSemidef_variance (mul_self_nonneg _)
    · exact posSemidef_variance (mul_self_nonneg _)
  · exact hstandard _ _ _

end Initialisation

/-! ### Propagation -/

section Propagation

variable {options : EkfOptions} {layout : StateLayout}

/-- The spectral densities are a covariance. -/
theorem posSemidef_noiseDensity (noise : ImuNoiseModel) : (noiseDensity noise).PosSemidef := by
  have hiso := posSemidef_isotropicNoise 3
  apply BlockDiagonal.posSemidef
  exact (((BlockDiagonal.zero.setBlock (by decide) (hiso _)).setBlock (by decide)
    (hiso _)).setBlock (by decide) (hiso _)).setBlock (by decide) (hiso _)

/-- One step of `PropagateImu`, not backwards in time. -/
theorem posSemidef_propagateImu {s : EkfState layout} (hP : s.estimate.covariance.PosSemidef)
    (imu : ImuMeasurement) {dt : ℝ} (hdt : 0 ≤ dt) :
    (propagateImu options s imu dt).estimate.covariance.PosSemidef := by
  refine posSemidef_symmetrizeCovariance (.add (Kalman.posSemidef_congr hP _) (.smul ?_ hdt))
  exact Kalman.posSemidef_congr (posSemidef_noiseDensity _) _

end Propagation

/-! ### Public calls -/

namespace EkfEstimator

variable {eigen : Eigen} {options : EkfOptions} {e e' : EkfEstimator options}

/-- `PropagateTo`, with any `maxImuDtS`. -/
theorem posSemidef_propagateTo {target : Timestamp} (h : e.propagateTo target = some e')
    (hP : e.state.estimate.covariance.PosSemidef) :
    e'.state.estimate.covariance.PosSemidef :=
  propagateTo_keeps_of_nonneg (I := fun est => est.covariance.PosSemidef)
    (fun _ imu _ hdt hs => posSemidef_propagateImu hs imu hdt) h hP

/-- The measurement that a call adds, if any, has covariances that are positive semidefinite. -/
def CovariancesPosSemidef (_ : EkfEstimator options) : Call → Prop
  | .addMeasurement m => m.CovariancesPosSemidef
  | _ => True

/-- `TryInitialiseFromGnss`. -/
theorem posSemidef_tryInitialiseFromGnss {gnss : GnssSolution}
    (hm : (SensorMeasurement.gnssSolution gnss).CovariancesPosSemidef)
    (hP : e.state.estimate.covariance.PosSemidef) :
    (e.tryInitialiseFromGnss gnss).1.state.estimate.covariance.PosSemidef := by
  rcases tryInitialiseFromGnss_cases e gnss with h | ⟨ltp, nominal, -, h⟩
  · rwa [h]
  · rw [h]
    exact BlockDiagonal.posSemidef (blockDiagonal_initialCovariance hm.1 hm.2)

/-- The dispatch to a model; an injection does not touch the covariance. -/
theorem posSemidef_dispatched {m : SensorMeasurement} {report : MeasurementUpdateReport}
    (h : Dispatched eigen e m e' report) (hm : m.CovariancesPosSemidef)
    (hP : e.state.estimate.covariance.PosSemidef) :
    e'.state.estimate.covariance.PosSemidef := by
  cases h with
  | unmatched => exact hP
  | accepted model estimate hfind happly =>
    have hmodel : (e.applyModel eigen model m).1.covariance.PosSemidef :=
      MeasurementModel.posSemidef_apply hm hP model
    rwa [happly] at hmodel
  | refused model estimate result hfind happly =>
    have hmodel : (e.applyModel eigen model m).1.covariance.PosSemidef :=
      MeasurementModel.posSemidef_apply hm hP model
    rwa [happly] at hmodel

/-- **One call.** -/
theorem posSemidef_of_step {call : Call} (h : Step eigen e call e')
    (hcall : e.CovariancesPosSemidef call)
    (hP : e.state.estimate.covariance.PosSemidef) :
    e'.state.estimate.covariance.PosSemidef := by
  cases h with
  | registerMeasurementModel model => exact hP
  | addMeasurement _ m report hadd =>
    cases added_of_addMeasurement hadd with
    | buffered imu imuBuffer result => exact hP
    | initialise gnss modelName => exact posSemidef_tryInitialiseFromGnss hcall hP
    | early => exact hP
    | dispatched _ e₁ _ _ hinit himu he₁ hdispatch =>
      exact posSemidef_dispatched hdispatch hcall (posSemidef_propagateTo he₁ hP)
  | processUntil _ timestamp result hprocess =>
    rcases processUntil_cases hprocess with rfl | hpropagate
    · exact hP
    · exact posSemidef_propagateTo hpropagate hP
  | reset => exact .zero

/-- Every call returns. -/
theorem call_returns (hmax : 0 < options.maxImuDtS) (eigen : Eigen) (e : EkfEstimator options)
    (call : Call) : ∃ e', Step eigen e call e' := by
  cases call with
  | registerMeasurementModel model => exact ⟨_, .registerMeasurementModel e model⟩
  | addMeasurement m =>
    have hsome : (e.addMeasurement eigen m).isSome := by
      unfold addMeasurement
      split
      · rfl
      · split
        · split <;> rfl
        · rw [Option.isSome_map]
          exact propagateTo_isSome hmax e _
    obtain ⟨⟨e', report⟩, h⟩ := Option.isSome_iff_exists.mp hsome
    exact ⟨e', .addMeasurement e e' m report h⟩
  | processUntil timestamp =>
    have hsome : (e.processUntil timestamp).isSome := by
      unfold processUntil
      split
      · rfl
      · rw [Option.isSome_map]
        exact propagateTo_isSome hmax e _
    obtain ⟨⟨e', result⟩, h⟩ := Option.isSome_iff_exists.mp hsome
    exact ⟨e', .processUntil e e' timestamp result h⟩
  | reset => exact ⟨_, .reset e⟩

/-! ### Runs -/

/-- The covariance of every state that such calls reach. -/
theorem posSemidef_of_reachable
    (h : ((system eigen options).guarded CovariancesPosSemidef).Reachable e) :
    e.state.estimate.covariance.PosSemidef := by
  refine h.invariant (I := fun e => e.state.estimate.covariance.PosSemidef) ?_ ?_
  · rintro e rfl
    exact .zero
  · rintro e call e' - hP ⟨hcall, hstep⟩
    exact posSemidef_of_step hstep hcall hP

/-- **The covariance of a run.** While every measurement brings covariances that are positive
    semidefinite, every call returns and the covariance is positive semidefinite in every state
    reached; so it is within a call, after each step of propagation and each update with any
    matrix in the place of `S.inverse()`. -/
theorem covariance_posSemidef (eigen : Eigen) (options : EkfOptions)
    (hmax : 0 < options.maxImuDtS) :
    (∀ e, ((system eigen options).guarded CovariancesPosSemidef).Reachable e →
      e.state.estimate.covariance.PosSemidef ∧ ∀ call, ∃ e', Step eigen e call e') ∧
    (∀ (s : EkfState options.buildLayout) (imu : ImuMeasurement) (dt : ℝ), 0 ≤ dt →
      s.estimate.covariance.PosSemidef →
      (propagateImu options s imu dt).estimate.covariance.PosSemidef) ∧
    (∀ (n m : ℕ) (est : Estimate n) (H : Matrix (Fin m) (Fin n) ℝ) (dz : Fin m → ℝ)
      (R : Matrix (Fin m) (Fin m) ℝ) (gate : ℝ), est.covariance.PosSemidef → R.PosSemidef →
      (ekfUpdate eigen est H dz R gate).1.covariance.PosSemidef) ∧
    (∀ (n : ℕ) (est : Estimate n) (o : GnssLooselyCoupledOptions) (nominal : NominalState)
      (layout : StateLayout) (gnss : GnssSolution) (ltp : LocalTangentPlane),
      est.covariance.PosSemidef → (SensorMeasurement.gnssSolution gnss).CovariancesPosSemidef →
      (applySolution eigen o nominal est layout gnss ltp).1.covariance.PosSemidef) ∧
    (∀ (n : ℕ) (est : Estimate n) (gateSigma : ℝ) (h : Fin n → ℝ) (innovation sigma : ℝ),
      est.covariance.PosSemidef →
      (scalarUpdate gateSigma est h innovation sigma).1.covariance.PosSemidef) := by
  refine ⟨fun e he => ⟨posSemidef_of_reachable he, call_returns hmax eigen e⟩, ?_, ?_, ?_, ?_⟩
  · intro s imu dt hdt hP
    exact posSemidef_propagateImu hP imu hdt
  · intro n m est H dz R gate hP hR
    have happlied : Applied True est (ekfUpdate eigen est H dz R gate) :=
      applied_ekfUpdate fun _ => hR
    exact happlied.posSemidef trivial hP
  · intro n est o nominal layout gnss ltp hP hm
    have happlied : Applied True est (applySolution eigen o nominal est layout gnss ltp) :=
      applySolution_applied o gnss ltp fun _ => hm
    exact happlied.posSemidef trivial hP
  · intro n est gateSigma h innovation sigma hP
    exact posSemidef_scalarUpdate gateSigma hP h innovation sigma

/-- A fix without covariances initialises a default estimator. -/
theorem covariance_posSemidef_run :
    ∃ e : EkfEstimator {},
      Step .exact {} (.addMeasurement (.gnssSolution { fixType := .single })) e ∧
      e.initialised = true ∧ e.state.estimate.covariance.PosSemidef := by
  let call : Call := .addMeasurement (.gnssSolution { fixType := .single })
  have hstep : ∃ e : EkfEstimator {}, Step .exact {} call e ∧ e.initialised = true :=
    ⟨_, .addMeasurement _ _ _ _ rfl, rfl⟩
  obtain ⟨e, hstep, hinit⟩ := hstep
  have hcall : ({} : EkfEstimator {}).CovariancesPosSemidef call := ⟨.zero, .zero⟩
  have hreach : ((system .exact {}).guarded CovariancesPosSemidef).Reachable e :=
    .step (.init rfl) ⟨hcall, hstep⟩
  exact ⟨e, hstep, hinit, ((covariance_posSemidef .exact {} (by norm_num)).1 e hreach).1⟩

end EkfEstimator

end FalconGuide
