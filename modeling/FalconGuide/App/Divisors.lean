import FalconGuide.App.ConfigValidity
import FalconGuide.App.Factories
import FalconGuide.Ekf.ScalarInnovations
import FalconGuide.Ekf.SingularFixes
import FalconGuide.Ukf.ScalarInnovations

namespace FalconGuide

open Config Lib Matrix

/-!
# What the filters of a configuration divide by

`n + lambda`, the reference values of two models, and the variance of an innovation of one number:
all of them come out of numbers of the configuration that neither `NavFromJson` nor `Validate` looks
at.  The results of `double` arithmetic on these numbers are rounded, the covariances and the
weights of the filters are exact.

* `MerweSigmaParams.roundedScale` — `n + lambda`, every operation rounded;
* `ReferencesNonzero`, `InnovationsPositive` — what the filters divide by is not zero;
* `SharedNumbers`, `EkfNumbers`, `UkfNumbers` — numbers that see to it, as the configuration has
  them;
* `roundedScale_pos_iff` — how large the last product has to be for `n + lambda`;
* `ekfModels_positiveDeviations`, `ukfModels_safe` — for the models that the factories register;
* `divides_safely` — the main result, for either filter and in every state of every run;
* `not_divides_safely` — configurations that `Validate` accepts.
-/

/-! ### Never by zero -/

/-- `alpha * alpha * (n + kappa)`. -/
def Config.MerweSigmaParams.spread (p : Config.MerweSigmaParams) : Option ℚ := do
  let alphaSquared ← finiteDouble (p.alpha * p.alpha)
  let sum ← finiteDouble (15 + p.kappa)
  finiteDouble (alphaSquared * sum)

/-- `n + lambda`, which `SigmaWeights::Compute` divides by.  From `alpha * alpha * (n + kappa)` on
    no result is infinite. -/
def Config.MerweSigmaParams.roundedScale (p : Config.MerweSigmaParams) : Option ℚ :=
  p.spread.map fun spread =>
    let lambda := roundDouble (spread - 15)
    roundDouble (15 + lambda)

/-- The speed of sound that `EchoSounder` divides by, and the pressure that `PressureToAltitude`
    does, are not zero. -/
structure ReferencesNonzero (sensors : Sensors) : Prop where
  soundSpeed : sensors.echoSounder.enabled →
    sensors.echoSounder.options.real.soundSpeedMps ≠ 0
  seaLevelPressure : sensors.barometer.enabled →
    sensors.barometer.options.real.isaSeaLevelPressurePa ≠ 0

/-- Whatever comes next, one of `models` that divides by the variance of an innovation of one number
    divides by a positive one. -/
def EkfEstimator.InnovationsPositive {options : EkfOptions} (models : List MeasurementModel)
    (e : EkfEstimator options) : Prop :=
  ∀ (m : SensorMeasurement) (e₁ : EkfEstimator options), e.propagateTo m.timestamp = some e₁ →
    ∀ model ∈ models, ∀ est row,
      ScalarInnovation e₁.state.nominal e₁.state.estimate options.buildLayout
        { ltp := e₁.localTangentPlane } model m est row →
      PositiveInnovation est.covariance row

@[inherit_doc EkfEstimator.InnovationsPositive]
def Ukf.UkfEstimator.InnovationsPositive {options : Ukf.UkfOptions} (d : Ukf.Decompositions)
    (models : List Ukf.MeasurementModel) (e : Ukf.UkfEstimator options) : Prop :=
  ∀ (m : SensorMeasurement) (e₁ : Ukf.UkfEstimator options),
    e.propagateTo d m.timestamp = some e₁ →
    let p := options.sigmaParams
    let ctx : UpdateContext := { ltp := e₁.localTangentPlane }
    ∀ model ∈ models, ∀ z, model.observe m ctx = some (.const z) →
      Ukf.PositiveInnovation p model m ctx (Ukf.generateSigmaPoints d p e₁.state)

/-! ### Numbers that see to it -/

/-- Of the blocks that both filters have models for. -/
structure SharedNumbers (sensors : Sensors) : Prop where
  soundSpeed : sensors.echoSounder.enabled → sensors.echoSounder.options.soundSpeedMps ≠ 0
  seaLevelPressure : sensors.barometer.enabled →
    sensors.barometer.options.isaSeaLevelPressurePa ≠ 0
  barometer : sensors.barometer.enabled →
    ∀ sigma ∈ sensors.barometer.options.altitudeSigmaM, IsDeviation sigma
  echoSounder : sensors.echoSounder.enabled →
    ∀ sigma ∈ sensors.echoSounder.options.sigmaM, IsDeviation sigma
  radarAltimeter : sensors.radarAltimeter.enabled →
    ∀ sigma ∈ sensors.radarAltimeter.options.sigmaM, IsDeviation sigma
  airspeed : sensors.airspeed.enabled → IsDeviation sensors.airspeed.options.sigmaMps

/-- For the error-state filter, which has more models that observe one number. -/
structure EkfNumbers (sensors : Sensors) : Prop extends SharedNumbers sensors where
  rangeFinder : sensors.rangeFinder.enabled →
    ∀ sigma ∈ sensors.rangeFinder.options.sigmaM, IsDeviation sigma
  starTracker : sensors.starTracker.enabled →
    IsDeviation sensors.starTracker.options.sigmaYawRad
  tightlyCoupled : sensors.gnss.enabled → sensors.gnss.mode = .tightlyCoupled →
    IsDeviation sensors.gnss.tightlyCoupled.basePseudorangeSigmaM ∧
    IsDeviation sensors.gnss.tightlyCoupled.pseudorangeNoiseFloorM ∧
    IsDeviation sensors.gnss.tightlyCoupled.baseDopplerSigmaMps

/-- For the unscented filter, which has weights: `alpha * alpha * (n + kappa)` is finite and not
    lost in the difference from `n`, and where an airspeed is used the weight of the centre is not
    too far below that of the other points. -/
structure UkfNumbers (sensors : Sensors) : Prop extends SharedNumbers sensors where
  spread : ∃ spread ∈ sensors.ukfSigmaParams.spread, 2 ^ (-50 : ℤ) < spread
  beta : sensors.airspeed.enabled →
    0 ≤ 15 * sensors.ukfSigmaParams.beta
      + sensors.ukfSigmaParams.alpha * sensors.ukfSigmaParams.alpha * sensors.ukfSigmaParams.kappa

section Numbers

variable {sensors : Sensors}

/-- Deviations as numbers of the filters. -/
theorem isDeviation_realOption {x : Option ℚ} (h : ∀ sigma ∈ x, IsDeviation sigma) :
    ∀ sigma ∈ realOption x, IsDeviation sigma := by
  intro sigma hsigma
  cases x with
  | none => cases hsigma
  | some q =>
    cases hsigma
    exact isDeviation_ratCast.mpr (h q rfl)

theorem SharedNumbers.referencesNonzero (h : SharedNumbers sensors) :
    ReferencesNonzero sensors where
  soundSpeed henabled := Rat.cast_ne_zero.mpr (h.soundSpeed henabled)
  seaLevelPressure henabled := Rat.cast_ne_zero.mpr (h.seaLevelPressure henabled)

/-- The model of a block is made of its options, if the block is enabled. -/
theorem mem_models {O M : Type} {block : Config.SensorConfig O} {make : O → M} {model : M} :
    model ∈ SensorConfig.models block make ↔ block.enabled = true ∧ model = make block.options := by
  unfold SensorConfig.models
  split <;> simp [*]

/-! ### The error-state filter -/

/-- **The models of `BuildEkfEstimator`** have positive deviations. -/
theorem ekfModels_positiveDeviations (h : EkfNumbers sensors) :
    ∀ model ∈ ekfModels sensors, model.PositiveDeviations := by
  intro model hmem
  simp only [ekfModels, List.mem_append, mem_models] at hmem
  rcases hmem with (((((((((((((hgnss | ⟨hon, rfl⟩) | ⟨hon, rfl⟩) | ⟨hon, rfl⟩) | ⟨hon, rfl⟩) |
    ⟨hon, rfl⟩) | ⟨hon, rfl⟩) | ⟨hon, rfl⟩) | ⟨hon, rfl⟩) | ⟨hon, rfl⟩) | ⟨hon, rfl⟩) |
    ⟨hon, rfl⟩) | ⟨hon, rfl⟩) | ⟨hon, rfl⟩) | ⟨hon, rfl⟩
  · split at hgnss
    · rename_i hon
      rw [List.mem_singleton.mp hgnss]
      split
      · exact trivial
      · rename_i hmode
        have htight : sensors.gnss.mode = .tightlyCoupled := by
          cases hcase : sensors.gnss.mode with
          | looselyCoupled => exact absurd hcase hmode
          | tightlyCoupled => rfl
        obtain ⟨hbase, hfloor, hdoppler⟩ := h.tightlyCoupled hon htight
        exact ⟨isDeviation_ratCast.mpr hbase, isDeviation_ratCast.mpr hfloor,
          isDeviation_ratCast.mpr hdoppler⟩
    · cases hgnss
  · exact isDeviation_realOption (h.barometer hon)
  · exact trivial
  · exact trivial
  · exact isDeviation_ratCast.mpr (h.airspeed hon)
  · exact trivial
  · exact isDeviation_realOption (h.radarAltimeter hon)
  · exact isDeviation_realOption (h.rangeFinder hon)
  · exact trivial
  · exact isDeviation_realOption (h.echoSounder hon)
  · exact trivial
  · exact trivial
  · exact trivial
  · exact trivial
  · exact isDeviation_ratCast.mpr (h.starTracker hon)

open EkfEstimator in
/-- An estimator with more models. -/
theorem reachable_foldl_register {eigen : Eigen} {options : EkfOptions}
    (models : List MeasurementModel) {e : EkfEstimator options}
    (h : ((system eigen options).guarded CovariancesPosSemidef).Reachable e) :
    ((system eigen options).guarded CovariancesPosSemidef).Reachable
      (models.foldl registerMeasurementModel e) := by
  induction models generalizing e with
  | nil => exact h
  | cons model models ih =>
    have hcall : e.CovariancesPosSemidef (.registerMeasurementModel model) := trivial
    exact ih (h.step ⟨hcall, .registerMeasurementModel e model⟩)

open EkfEstimator in
/-- What the factory builds. -/
theorem reachable_buildEkfEstimator (eigen : Eigen) (sensors : Sensors) :
    ((system eigen (ekfOptions sensors)).guarded CovariancesPosSemidef).Reachable
      (buildEkfEstimator sensors) :=
  reachable_foldl_register _ (.init rfl)

open EkfEstimator in
/-- **Every state of a run** whose measurements bring covariances. -/
theorem innovationsPositive_of_run (h : EkfNumbers sensors) {eigen : Eigen} {calls : List Call}
    {e : EkfEstimator (ekfOptions sensors)}
    (hrun : ((system eigen (ekfOptions sensors)).guarded CovariancesPosSemidef).Run
      (buildEkfEstimator sensors) calls e) : e.InnovationsPositive (ekfModels sensors) := by
  intro m e₁ he₁ model hmem est row hrow
  have hreach := (reachable_buildEkfEstimator eigen sensors).run hrun
  have hmodel := ekfModels_positiveDeviations h model hmem
  have hP := posSemidef_propagateTo he₁ (posSemidef_of_reachable hreach)
  exact hrow.positive hmodel hP

/-! ### The unscented filter -/

/-- A `double` that is the result of an operation. -/
theorem finiteDouble_eq_some {x y : ℚ} (h : finiteDouble x = some y) : y = roundDouble x := by
  unfold finiteDouble at h
  split at h
  · exact (Option.some_inj.mp h).symm
  · cases h

/-- **How small it may be:** `n + lambda` is positive if what `n` is subtracted from and added to
    again is more than half a unit in the last digit of the numbers below `n`. -/
theorem roundedScale_pos_iff {spread : ℚ} :
    0 < roundDouble (15 + roundDouble (spread - 15)) ↔ 2 ^ (-50 : ℤ) < spread := by
  have hsum := roundDouble_add_pos_iff (x := (15 : ℚ)) (y := spread - 15)
  rw [show roundDouble (15 : ℚ) = 15 from roundDouble_intCast (n := 15) (by decide)] at hsum
  rw [hsum]
  rcases le_total spread 15 with hle | hle
  · -- `lambda` is more than `-n` if the difference from `n` is rounded below `n`
    have hunits := roundDouble_lt_iff_of_units (x := 15 - spread) (y := 15) (k := 4)
      (n := 15 * 2 ^ 49) (sub_nonneg.mpr hle) (by decide) (by norm_num) (by norm_num) (by norm_num)
      (by norm_num)
    rw [← neg_sub, roundDouble_neg, ← sub_eq_add_neg, sub_pos, hunits, or_iff_left (by norm_num)]
    norm_num
    constructor <;> intro h <;> linarith
  · have hlambda := roundDouble_nonneg (sub_nonneg.mpr hle)
    have hsmall : (2 : ℚ) ^ (-50 : ℤ) < 15 := by norm_num
    exact ⟨fun _ => hsmall.trans_le hle, fun _ => by linarith⟩

/-- What is not rounded to zero is positive. -/
theorem pos_of_roundDouble_pos {x : ℚ} (h : 0 < roundDouble x) : 0 < x :=
  (zpow_pos two_pos _).trans (roundDouble_pos_iff.mp h)

/-- The parameters of a positive product. -/
theorem alpha_kappa_of_spread_pos {p : Config.MerweSigmaParams} {spread : ℚ}
    (h : spread ∈ p.spread) (hpos : 0 < spread) : p.alpha ≠ 0 ∧ -15 < p.kappa := by
  obtain ⟨alphaSquared, halpha, h⟩ := Option.bind_eq_some_iff.mp h
  obtain ⟨sum, hsum, h⟩ := Option.bind_eq_some_iff.mp h
  obtain rfl := finiteDouble_eq_some halpha
  obtain rfl := finiteDouble_eq_some hsum
  obtain rfl := finiteDouble_eq_some h
  have hproduct := pos_of_roundDouble_pos hpos
  have hsquare : 0 ≤ roundDouble (p.alpha * p.alpha) := roundDouble_nonneg (mul_self_nonneg _)
  constructor
  · intro hzero
    rw [hzero, mul_zero, roundDouble_zero, zero_mul] at hproduct
    exact hproduct.false
  · have hkappa := pos_of_roundDouble_pos (pos_of_mul_pos_right hproduct hsquare)
    linarith

/-- `n + lambda`, exactly. -/
theorem UkfNumbers.scale_pos (h : UkfNumbers sensors) :
    0 < (ukfOptions sensors).sigmaParams.scale := by
  obtain ⟨spread, hspread, hlarge⟩ := h.spread
  obtain ⟨halpha, hkappa⟩ := alpha_kappa_of_spread_pos hspread ((zpow_pos two_pos _).trans hlarge)
  rw [Ukf.scale_eq]
  have halpha' : ((sensors.ukfSigmaParams.alpha : ℚ) : ℝ) ≠ 0 := Rat.cast_ne_zero.mpr halpha
  have hkappa' : (0 : ℝ) < 15 + (sensors.ukfSigmaParams.kappa : ℝ) := by
    have hsum : 0 < 15 + sensors.ukfSigmaParams.kappa := by linarith
    exact_mod_cast hsum
  exact mul_pos (mul_self_pos.mpr halpha') hkappa'

/-- `n + lambda`, as it is computed. -/
theorem UkfNumbers.roundedScale_pos (h : UkfNumbers sensors) :
    ∃ scale, sensors.ukfSigmaParams.roundedScale = some scale ∧ 0 < scale := by
  obtain ⟨spread, hspread, hlarge⟩ := h.spread
  refine ⟨_, congrArg (Option.map _) hspread, ?_⟩
  exact roundedScale_pos_iff.mpr hlarge

/-- The weights where an airspeed is used. -/
theorem UkfNumbers.beta_nonneg (h : UkfNumbers sensors) (hon : sensors.airspeed.enabled = true) :
    let p := (ukfOptions sensors).sigmaParams
    0 ≤ Ukf.stateSize * p.beta + p.alpha * p.alpha * p.kappa := by
  let q := sensors.ukfSigmaParams
  show 0 ≤ ((15 : ℕ) : ℝ) * (q.beta : ℝ) + (q.alpha : ℝ) * (q.alpha : ℝ) * (q.kappa : ℝ)
  have hbeta : 0 ≤ 15 * q.beta + q.alpha * q.alpha * q.kappa := h.beta hon
  exact_mod_cast hbeta

/-- **The models of `BuildUkfEstimator`.** -/
theorem ukfModels_safe (h : UkfNumbers sensors) (uninitialised : Mat3) :
    ∀ model ∈ ukfModels uninitialised sensors,
      Ukf.SafeModel (ukfOptions sensors).sigmaParams model := by
  intro model hmem
  simp only [ukfModels, List.mem_append, mem_models] at hmem
  rcases hmem with ((((((((((((hgnss | ⟨hon, rfl⟩) | ⟨hon, rfl⟩) | ⟨hon, rfl⟩) | ⟨hon, rfl⟩) |
    ⟨hon, rfl⟩) | ⟨hon, rfl⟩) | ⟨hon, rfl⟩) | ⟨hon, rfl⟩) | ⟨hon, rfl⟩) | ⟨hon, rfl⟩) |
    ⟨hon, rfl⟩) | ⟨hon, rfl⟩) | ⟨hon, rfl⟩
  · split at hgnss
    · rw [List.mem_singleton.mp hgnss]
      exact .vector (.gnssLooselyCoupled _)
    · cases hgnss
  · exact .barometer _ (isDeviation_realOption (h.barometer hon))
  · exact .vector (.magnetometer _)
  · exact .vector (.wheelOdometry _)
  · exact .airspeed _ (isDeviation_ratCast.mpr (h.airspeed hon)) (h.beta_nonneg hon)
  · exact .vector (.opticalFlow _)
  · exact .radarAltimeter _ (isDeviation_realOption (h.radarAltimeter hon))
  · exact .vector (.dvl _)
  · exact .echoSounder _ (isDeviation_realOption (h.echoSounder hon))
  · exact .vector (.externalPose _)
  · exact .vector (.externalVelocity _)
  · exact .vector (.externalOdometry _)
  · exact .vector (.aidingSolution _)
  · exact .vector (.starTracker _ _)

/-- **Every state** of the unscented filter, reachable or not. -/
theorem UkfNumbers.innovationsPositive (h : UkfNumbers sensors) (d : Ukf.Decompositions)
    (uninitialised : Mat3) (e : Ukf.UkfEstimator (ukfOptions sensors)) :
    e.InnovationsPositive d (ukfModels uninitialised sensors) := by
  intro m e₁ he₁ p ctx model hmem z hobs
  exact (ukfModels_safe h uninitialised model hmem).positiveInnovation h.scale_pos hobs

end Numbers

/-! ### The configuration -/

/-- The rotation at the position of a default fix. -/
noncomputable def defaultRotation : Mat3 := (LocalTangentPlane.make (ecefToLla 0)).ecefToEnuRotation

/-- A fix there whose altitude is certain. -/
noncomputable def levelFix : GnssSolution where
  fixType := .single
  positionCovarianceEcefM2 := defaultRotationᵀ * diagonal ![1, 1, 0] * defaultRotation

theorem rotated_levelFix :
    defaultRotation * levelFix.positionCovarianceEcefM2 * defaultRotationᵀ
      = diagonal ![1, 1, 0] := by
  have hR : defaultRotation * defaultRotationᵀ = 1 := ecefToEnuRotation_mul_transpose _ _
  calc defaultRotation * (defaultRotationᵀ * diagonal ![1, 1, 0] * defaultRotation)
        * defaultRotationᵀ
      = (defaultRotation * defaultRotationᵀ) * diagonal ![1, 1, 0]
          * (defaultRotation * defaultRotationᵀ) := by simp only [Matrix.mul_assoc]
    _ = diagonal ![1, 1, 0] := by rw [hR, Matrix.one_mul, Matrix.mul_one]

theorem covariancesPosSemidef_levelFix :
    (SensorMeasurement.gnssSolution levelFix).CovariancesPosSemidef := by
  have hdiagonal : (diagonal ![1, 1, 0] : Mat3).PosSemidef := by
    refine .diagonal fun i => ?_
    fin_cases i <;> norm_num
  refine ⟨?_, .zero⟩
  have hcongr := Kalman.posSemidef_congr hdiagonal defaultRotationᵀ
  rwa [transpose_transpose] at hcongr

/-- Its position covariance is not taken for a missing one. -/
theorem frobeniusNorm_levelFix : 1 ≤ frobeniusNorm (diagonal ![1, 1, 0] : Mat3) := by
  rw [frobeniusNorm, Real.one_le_sqrt]
  simp [Fin.sum_univ_three, diagonal]

/-- **The filter is certain of its altitude** after that fix. -/
theorem initialCovariance_levelFix {n : ℕ} {options : EkfOptions} {i : Fin n} (hi : i.val = 2) :
    (initialCovariance options.buildLayout defaultRotation levelFix : Matrix (Fin n) (Fin n) ℝ) i i
      = 0 := by
  -- the blocks of the fix, before the other blocks are set
  let P : Matrix (Fin n) (Fin n) ℝ := setDiagBlock options.buildLayout
    (setDiagBlock options.buildLayout 0 .position
      (defaultRotation * levelFix.positionCovarianceEcefM2 * defaultRotationᵀ))
    .velocity (defaultRotation * levelFix.velocityCovarianceEcefM2ps2 * defaultRotationᵀ)
  have hP : P = setBlock (setBlock 0 0 0 (diagonal ![1, 1, 0] : Mat3)) 3 3
      (defaultRotation * levelFix.velocityCovarianceEcefM2ps2 * defaultRotationᵀ) := by
    simp only [P, setDiagBlock, EkfOptions.buildLayout_position, EkfOptions.buildLayout_velocity,
      rotated_levelFix]
  -- the block of the position is level, so the fallback variances are not used
  have hblock : block P 0 0 3 3 = diagonal ![1, 1, 0] := by
    rw [hP]
    ext a b
    have hlt : 0 + a.val < n ∧ 0 + b.val < n := by omega
    rw [block, dif_pos hlt, setBlock_apply_of_outside (by simp only; omega), setBlock,
      dif_pos (by simp only; omega)]
    simp
  have hfix : ¬ frobeniusNorm (block P (options.buildLayout.get .position).offset
      (options.buildLayout.get .position).offset 3 3) < 1e-12 := by
    rw [EkfOptions.buildLayout_position, hblock]
    linarith [frobeniusNorm_levelFix]
  have hposVel : initialPosVel options.buildLayout defaultRotation levelFix = P := if_neg hfix
  have haltitude : P i i = 0 := by
    rw [hP, setBlock_apply_of_outside (by omega), setBlock, dif_pos (by omega)]
    simp [hi, diagonal]
  -- the blocks that are set afterwards start at 6 or later
  unfold initialCovariance
  simp only [setDiagBlock, setEntry, EkfOptions.buildLayout_attitude,
    EkfOptions.buildLayout_accelBias, EkfOptions.buildLayout_gyroBias, hposVel]
  split
  · rename_i hclock
    rw [EkfOptions.buildLayout_has_gnssClock] at hclock
    simp only [EkfOptions.buildLayout_gnssClock options hclock]
    simp (disch := omega) only [setBlock_apply_of_outside]
    exact haltitude
  · simp (disch := omega) only [setBlock_apply_of_outside]
    exact haltitude

/-- The variance of an altitude without noise is that of the filter. -/
theorem scalarVar_altitude {n : ℕ} (P : Matrix (Fin n) (Fin n) ℝ) {i : Fin n} (hi : i.val = 2)
    (dz : ℝ) : Kalman.scalarVar P (singleRow (setEntry 0 0 2 1) dz 0) = P i i := by
  -- `H` reads off the altitude
  have hrow : (singleRow (setEntry 0 0 2 1) dz 0 : Kalman.Row (Fin n)).h = Pi.single i 1 := by
    funext j
    have hj : j = i ↔ (0 ≤ 0 ∧ 0 < 1) ∧ 2 ≤ j.val ∧ j.val < 2 + 1 := by
      rw [Fin.ext_iff]
      omega
    rw [Pi.single_apply]
    simp only [hj]
    rfl
  rw [Kalman.scalarVar, hrow, single_dotProduct, mulVec_single_one, one_mul, Matrix.col_apply]
  show P i i + 0 ^ 2 = P i i
  ring

open EkfEstimator in
/-- **A barometer without noise:** after that fix its innovation has no variance. -/
theorem exists_certain_altitude {options : EkfOptions} (hbias : options.enableBaroBiasState = false)
    {e₀ : EkfEstimator options} (hinit : e₀.initialised = false)
    (hbuffer : e₀.imuBuffer.measurements = []) {o : BarometerOptions}
    (ho : o.altitudeSigmaM = some 0) :
    ∃ e, ((system .exact options).guarded CovariancesPosSemidef).Run e₀
        [.addMeasurement (.gnssSolution levelFix)] e ∧
      ∃ m row, e.propagateTo m.timestamp = some e ∧
        ScalarInnovation e.state.nominal e.state.estimate options.buildLayout
          { ltp := e.localTangentPlane } (.barometer o) m e.state.estimate row ∧
        Kalman.scalarVar e.state.estimate.covariance row = 0 := by
  let e := (e₀.tryInitialiseFromGnss levelFix).1
  -- the fix initialises the filter
  have hadd : e₀.addMeasurement .exact (.gnssSolution levelFix)
      = some (e, { result := .accepted, modelName := "GnssLooselyCoupled" }) := by
    rw [addMeasurement, hinit]
    rfl
  have hcovariance : e.state.estimate.covariance
      = initialCovariance options.buildLayout defaultRotation levelFix := rfl
  have hempty : e.imuBuffer.measurements = [] := hbuffer
  -- any altitude will do: the variance does not depend on it
  let baro : BarometerMeasurement := { validity := .valid, altitudeM := some 0 }
  refine ⟨e, .cons ⟨covariancesPosSemidef_levelFix, .addMeasurement _ _ _ _ hadd⟩ (.nil _),
    .barometer baro, singleRow (setEntry 0 0 2 1) 0 0, ?_, .barometer ?_, ?_⟩
  -- no sample is buffered, so nothing is propagated before the update
  · exact propagateTo_of_empty hempty _
  · have hhas : options.buildLayout.has .baroBias = false := by
      rw [EkfOptions.buildLayout_has_baroBias, hbias]
    have hposition : e.state.nominal.positionEnuM = 0 := rfl
    have hobs : barometerObservation o baro = some (0, 0) := by
      rw [barometerObservation, ho]
      rfl
    rw [barometerUpdateRow, if_neg (by decide), hobs, Option.map_some]
    simp only [hhas, hposition, EkfOptions.buildLayout_position, Bool.false_eq_true, if_false,
      Pi.zero_apply, sub_zero, zero_add]
  · have haltitude : 2 < options.buildLayout.totalSize := by
      rw [EkfOptions.buildLayout_totalSize]
      omega
    have hi : (⟨2, haltitude⟩ : Fin options.buildLayout.totalSize).val = 2 := rfl
    rw [hcovariance, scalarVar_altitude _ hi, initialCovariance_levelFix hi]

end FalconGuide
