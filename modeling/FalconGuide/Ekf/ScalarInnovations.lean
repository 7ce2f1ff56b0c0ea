import FalconGuide.Core.MachineNumbers
import FalconGuide.Ekf.Covariance
import FalconGuide.Ekf.GnssRows

namespace FalconGuide

open Lib Matrix

/-!
# Innovations of one number

Where the error-state filter divides by one variance: in `EkfUpdate` with a single row, and in
`ScalarUpdate` of the tightly coupled model.

* `barometerUpdateRow`, … — the row with which a model updates, if it does;
* `barometerApply_eq_row`, … — `Apply` is the update with that row;
* `ScalarInnovation` — the rows of a measurement, each with the estimate that it updates;
* `ScalarInnovation.apply_eq` — these are the updates of `Apply`;
* `IsDeviation` — a deviation whose square is not rounded to zero;
* `MeasurementModel.PositiveDeviations` — the options that set no other deviation;
* `PositiveInnovation` — the variance of a row is positive, and as the code rounds it too;
* `ScalarInnovation.positive` — with such options every variance is.
-/

variable {n : ℕ}

/-! ### An update with one row -/

/-- The only row of `H`, with its innovation and its deviation. -/
def singleRow (H : Matrix (Fin 1) (Fin n) ℝ) (dz sigma : ℝ) : Kalman.Row (Fin n) where
  h := H (Fin.last 0)
  innovation := dz
  sigma := sigma

/-- `EkfUpdate` with one row, if there is one. -/
noncomputable def ekfRowUpdate (eigen : Eigen) (est : Estimate n) (gate : ℝ) :
    Option (Kalman.Row (Fin n)) → Estimate n × EstimatorUpdateResult
  | none => (est, .rejected)
  | some row =>
    ekfUpdate eigen est (Matrix.of fun _ : Fin 1 => row.h) (fun _ => row.innovation)
      (isotropicNoise 1 row.sigma) gate

/-- An update with a matrix of one row. -/
theorem ekfUpdate_single (eigen : Eigen) (est : Estimate n) (H : Matrix (Fin 1) (Fin n) ℝ)
    (dz sigma gate : ℝ) :
    ekfUpdate eigen est H (fun _ => dz) (isotropicNoise 1 sigma) gate
      = ekfRowUpdate eigen est gate (some (singleRow H dz sigma)) := by
  have hH : (Matrix.of fun _ : Fin 1 => (singleRow H dz sigma).h) = H := by
    ext i j
    rw [Subsingleton.elim i (Fin.last 0)]
    rfl
  rw [ekfRowUpdate, hH]
  rfl

/-- `S` of such an update is the variance of the innovation. -/
theorem innovationCov_row (P : Matrix (Fin n) (Fin n) ℝ) (row : Kalman.Row (Fin n)) :
    (Matrix.of fun _ : Fin 1 => row.h) * (P * (Matrix.of fun _ : Fin 1 => row.h)ᵀ)
      + isotropicNoise 1 row.sigma = Kalman.scalarVar P row • (1 : Matrix (Fin 1) (Fin 1) ℝ) := by
  ext i j
  obtain rfl := Subsingleton.elim i j
  simp [Kalman.scalarVar, isotropicNoise, Matrix.mul_apply, mulVec, dotProduct, sq]

/-! ### The rows of the models -/

section Rows

variable (nominal : NominalState) (est : Estimate n) (layout : StateLayout)

/-- The row of a barometer. -/
noncomputable def barometerUpdateRow (options : BarometerOptions) (baro : BarometerMeasurement) :
    Option (Kalman.Row (Fin n)) :=
  if baro.validity ≠ .valid then none
  else
    (barometerObservation options baro).map fun (zObs, sigma) =>
      let altitude := (layout.get .position).offset + 2
      let bias := (layout.get .baroBias).offset
      let hPred := nominal.positionEnuM 2
      let hPred :=
        if layout.has .baroBias then hPred + segment est.errorState bias 1 (Fin.last 0) else hPred
      let H : Matrix (Fin 1) (Fin n) ℝ := setEntry 0 0 altitude 1
      let H := if layout.has .baroBias then setEntry H 0 bias 1 else H
      singleRow H (zObs - hPred) sigma

/-- The row of an echo sounder. -/
noncomputable def echoSounderUpdateRow (options : EchoSounderOptions)
    (es : EchoSounderMeasurement) : Option (Kalman.Row (Fin n)) :=
  if es.validity ≠ .valid then none
  else if es.depthOrRangeM < 0 then none
  else
    let soundSpeed := es.soundSpeedMps.getD options.soundSpeedMps
    let correctedDepth := es.depthOrRangeM * soundSpeed / options.soundSpeedMps
    let hPred := -nominal.positionEnuM 2 + options.depthOriginM
    some (singleRow (setEntry 0 0 ((layout.get .position).offset + 2) (-1))
      (correctedDepth - hPred) (options.sigmaM.getD 0.2))

/-- The row of a radar altimeter. -/
noncomputable def radarAltimeterUpdateRow (options : RadarAltimeterOptions)
    (ralt : RadarAltimeterMeasurement) : Option (Kalman.Row (Fin n)) :=
  if ralt.validity ≠ .valid then none
  else if ralt.surface = .invalid then none
  else if ralt.rangeM < 0 then none
  else
    let hPred := nominal.positionEnuM 2 - options.terrainElevationM
    some (singleRow (setEntry 0 0 ((layout.get .position).offset + 2) 1)
      (ralt.rangeM - hPred) (options.sigmaM.getD 0.5))

/-- The row of a range finder. -/
noncomputable def rangeFinderUpdateRow (options : RangeFinderOptions)
    (rf : RangeFinderMeasurement) : Option (Kalman.Row (Fin n)) :=
  if !options.useAsAltitude then none
  else if rf.validity ≠ .valid then none
  else if rf.rangeM < 0 then none
  else
    let hPred := nominal.positionEnuM 2 - options.terrainElevationM
    some (singleRow (setEntry 0 0 ((layout.get .position).offset + 2) 1)
      (rf.rangeM - hPred) (options.sigmaM.getD 0.3))

/-- The row of an airspeed. -/
noncomputable def airspeedUpdateRow (options : AirspeedOptions) (asp : AirspeedMeasurement) :
    Option (Kalman.Row (Fin n)) :=
  if asp.validity ≠ .valid then none
  else if asp.airspeedMps < 0 then none
  else
    let R := Quat.toRotationMatrix nominal.orientationBodyToEnu
    let vBody := Rᵀ *ᵥ (nominal.velocityEnuMps - options.windEnuMps)
    let hPred := euclideanNorm vBody
    if hPred < 1e-3 then none
    else
      let uBody := hPred⁻¹ • vBody
      let H : Matrix (Fin 1) (Fin n) ℝ := 0
      let H := setBlock H 0 (layout.get .velocity).offset (Matrix.of fun _ : Fin 1 => uBody ᵥ* Rᵀ)
      let H := setBlock H 0 (layout.get .attitude).offset
        (Matrix.of fun _ : Fin 1 => uBody ᵥ* skewSymmetric vBody)
      some (singleRow H (asp.airspeedMps - hPred) options.sigmaMps)

/-- The row of a heading, which a star tracker uses without pitch and roll. -/
noncomputable def headingUpdateRow (options : StarTrackerOptions) (st : StarTrackerMeasurement) :
    Option (Kalman.Row (Fin n)) :=
  if st.validity ≠ .valid then none
  else if options.usePitchRoll && st.pitchRad.isSome && st.rollRad.isSome then none
  else
    let qObs := quaternionFromStarTracker st.longitudeRad st.latitudeRad st.yawRad
      options.starTrackerToBody
    let dTheta := logMapSo3 (star nominal.orientationBodyToEnu * qObs)
    some (singleRow (setEntry 0 0 ((layout.get .attitude).offset + 2) 1) (dTheta 2)
      options.sigmaYawRad)

variable {nominal est layout} {eigen : Eigen}

theorem barometerApply_eq_row (options : BarometerOptions) (baro : BarometerMeasurement) :
    barometerApply eigen options nominal est layout baro
      = ekfRowUpdate eigen est options.innovationGate
          (barometerUpdateRow nominal est layout options baro) := by
  unfold barometerApply barometerUpdateRow
  split
  · rfl
  · cases barometerObservation options baro with
    | none => rfl
    | some z => exact ekfUpdate_single eigen est _ _ _ _

theorem echoSounderApply_eq_row (options : EchoSounderOptions) (es : EchoSounderMeasurement) :
    echoSounderApply eigen options nominal est layout es
      = ekfRowUpdate eigen est options.innovationGate
          (echoSounderUpdateRow nominal layout options es) := by
  unfold echoSounderApply echoSounderUpdateRow
  split
  · rfl
  · split
    · rfl
    · exact ekfUpdate_single eigen est _ _ _ _

theorem radarAltimeterApply_eq_row (options : RadarAltimeterOptions)
    (ralt : RadarAltimeterMeasurement) :
    radarAltimeterApply eigen options nominal est layout ralt
      = ekfRowUpdate eigen est options.innovationGate
          (radarAltimeterUpdateRow nominal layout options ralt) := by
  unfold radarAltimeterApply radarAltimeterUpdateRow
  split
  · rfl
  · split
    · rfl
    · split
      · rfl
      · exact ekfUpdate_single eigen est _ _ _ _

theorem rangeFinderApply_eq_row (options : RangeFinderOptions) (rf : RangeFinderMeasurement) :
    rangeFinderApply eigen options nominal est layout rf
      = ekfRowUpdate eigen est options.innovationGate
          (rangeFinderUpdateRow nominal layout options rf) := by
  unfold rangeFinderApply rangeFinderUpdateRow
  split
  · rfl
  · split
    · rfl
    · split
      · rfl
      · exact ekfUpdate_single eigen est _ _ _ _

theorem airspeedApply_eq_row (options : AirspeedOptions) (asp : AirspeedMeasurement) :
    airspeedApply eigen options nominal est layout asp
      = ekfRowUpdate eigen est options.innovationGate
          (airspeedUpdateRow nominal layout options asp) := by
  unfold airspeedApply airspeedUpdateRow
  split
  · rfl
  · split
    · rfl
    · simp only
      split
      · rfl
      · exact ekfUpdate_single eigen est _ _ _ _

/-- Without pitch and roll a star tracker updates with its heading alone. -/
theorem starTrackerApply_eq_row (options : StarTrackerOptions) {st : StarTrackerMeasurement}
    (hheading : (options.usePitchRoll && st.pitchRad.isSome && st.rollRad.isSome) = false) :
    starTrackerApply eigen options nominal est layout st
      = ekfRowUpdate eigen est options.innovationGate
          (headingUpdateRow nominal layout options st) := by
  unfold starTrackerApply headingUpdateRow
  rw [hheading]
  split
  · rfl
  · exact ekfUpdate_single eigen est _ _ _ _

end Rows

/-! ### The innovations of a measurement -/

/-- `ScalarInnovation nominal est layout ctx model m est' row`: when `model` is applied to `m`, it
    divides by the variance of `row`, with the estimate `est'`. -/
inductive ScalarInnovation (nominal : NominalState) (est : Estimate n) (layout : StateLayout)
    (ctx : UpdateContext) :
    MeasurementModel → SensorMeasurement → Estimate n → Kalman.Row (Fin n) → Prop
  | barometer {o : BarometerOptions} {m : BarometerMeasurement} {row : Kalman.Row (Fin n)}
      (h : barometerUpdateRow nominal est layout o m = some row) :
      ScalarInnovation nominal est layout ctx (.barometer o) (.barometer m) est row
  | echoSounder {o : EchoSounderOptions} {m : EchoSounderMeasurement} {row : Kalman.Row (Fin n)}
      (h : echoSounderUpdateRow nominal layout o m = some row) :
      ScalarInnovation nominal est layout ctx (.echoSounder o) (.echoSounder m) est row
  | radarAltimeter {o : RadarAltimeterOptions} {m : RadarAltimeterMeasurement}
      {row : Kalman.Row (Fin n)} (h : radarAltimeterUpdateRow nominal layout o m = some row) :
      ScalarInnovation nominal est layout ctx (.radarAltimeter o) (.radarAltimeter m) est row
  | rangeFinder {o : RangeFinderOptions} {m : RangeFinderMeasurement} {row : Kalman.Row (Fin n)}
      (h : rangeFinderUpdateRow nominal layout o m = some row) :
      ScalarInnovation nominal est layout ctx (.rangeFinder o) (.rangeFinder m) est row
  | airspeed {o : AirspeedOptions} {m : AirspeedMeasurement} {row : Kalman.Row (Fin n)}
      (h : airspeedUpdateRow nominal layout o m = some row) :
      ScalarInnovation nominal est layout ctx (.airspeed o) (.airspeed m) est row
  | heading {o : StarTrackerOptions} {m : StarTrackerMeasurement} {row : Kalman.Row (Fin n)}
      (h : headingUpdateRow nominal layout o m = some row) :
      ScalarInnovation nominal est layout ctx (.starTracker o) (.starTracker m) est row
  /-- The satellites update one after the other. -/
  | satellite {o : GnssTightlyCoupledOptions} {m : GnssTightlyCoupledEpoch}
      {before : List (Kalman.Row (Fin n))} {row : Kalman.Row (Fin n)}
      (h : before ++ [row] <+: epochRows o nominal layout m ctx) :
      ScalarInnovation nominal est layout ctx (.gnssTightlyCoupled o) (.gnssTightlyCoupledEpoch m)
        (rowsUpdate o est before) row

/-- **The update divides by it:** `Apply` is the update with that row, or goes on with it, satellite
    after satellite. -/
theorem ScalarInnovation.apply_eq {nominal : NominalState} {est est' : Estimate n}
    {layout : StateLayout} {ctx : UpdateContext} {model : MeasurementModel}
    {m : SensorMeasurement} {row : Kalman.Row (Fin n)} (eigen : Eigen)
    (h : ScalarInnovation nominal est layout ctx model m est' row) :
    (∃ gate, model.apply eigen nominal est layout ctx m = ekfRowUpdate eigen est' gate (some row)) ∨
    ∃ o after, (model.apply eigen nominal est layout ctx m).1
      = rowsUpdate o (rowUpdate o est' row).1 after := by
  cases h with
  | @barometer o m row h =>
    refine .inl ⟨o.innovationGate, ?_⟩
    rw [← h]
    apply barometerApply_eq_row
  | @echoSounder o m row h =>
    refine .inl ⟨o.innovationGate, ?_⟩
    rw [← h]
    apply echoSounderApply_eq_row
  | @radarAltimeter o m row h =>
    refine .inl ⟨o.innovationGate, ?_⟩
    rw [← h]
    apply radarAltimeterApply_eq_row
  | @rangeFinder o m row h =>
    refine .inl ⟨o.innovationGate, ?_⟩
    rw [← h]
    apply rangeFinderApply_eq_row
  | @airspeed o m row h =>
    refine .inl ⟨o.innovationGate, ?_⟩
    rw [← h]
    apply airspeedApply_eq_row
  | @heading o m row h =>
    refine .inl ⟨o.innovationGate, ?_⟩
    rw [← h]
    apply starTrackerApply_eq_row
    -- with pitch and roll there would be no such row
    unfold headingUpdateRow at h
    by_contra hall
    rw [Bool.not_eq_false] at hall
    simp only [hall, if_true, ite_self, reduceCtorEq] at h
  | @satellite o m before row h =>
    obtain ⟨after, hrows⟩ := h
    refine .inr ⟨o, after, ?_⟩
    show (gnssTightlyCoupledApply o nominal est layout m ctx).1 = _
    rw [gnssTightlyCoupledApply_fst, ← hrows]
    simp only [rowsUpdate, List.foldl_append, List.foldl_cons, List.foldl_nil]

/-! ### Deviations -/

section Deviations

variable {K : Type*} [Field K] [LinearOrder K] [IsStrictOrderedRing K] {sigma : K}

/-- A deviation that is positive, and so is its square when it is rounded to a `double`
    (`IsDeviation.roundDouble_pos`). -/
def IsDeviation (sigma : K) : Prop := 0 < sigma ∧ 2 ^ (-1075 : ℤ) < sigma * sigma

/-- The code's `R` is positive. -/
theorem IsDeviation.roundDouble_pos [FloorRing K] (h : IsDeviation sigma) :
    0 < roundDouble (sigma * sigma) :=
  roundDouble_pos_iff.mpr h.2

/-- So is a larger deviation. -/
theorem IsDeviation.mono (h : IsDeviation sigma) {larger : K} (hle : sigma ≤ larger) :
    IsDeviation larger :=
  ⟨h.1.trans_le hle, h.2.trans_le (mul_self_le_mul_self h.1.le hle)⟩

/-- A thousandth, say, is large enough. -/
theorem isDeviation_of_le (h : 1 / 1024 ≤ sigma) : IsDeviation sigma := by
  have hunit : IsDeviation (2 ^ (-10 : ℤ) : K) := by
    refine ⟨zpow_pos two_pos _, ?_⟩
    rw [← zpow_add₀ two_ne_zero]
    exact zpow_lt_zpow_right₀ one_lt_two (by decide)
  refine hunit.mono (le_trans (le_of_eq ?_) h)
  norm_num

/-- The deviations of a configuration, as numbers of the filters. -/
theorem isDeviation_ratCast {sigma : ℚ} : IsDeviation (sigma : ℝ) ↔ IsDeviation sigma := by
  have hunit : (2 : ℝ) ^ (-1075 : ℤ) = ((2 ^ (-1075 : ℤ) : ℚ) : ℝ) := by
    rw [Rat.cast_zpow, Rat.cast_ofNat]
  rw [IsDeviation, IsDeviation, hunit, ← Rat.cast_mul, Rat.cast_lt, Rat.cast_pos]

/-- A default deviation, or an override. -/
theorem isDeviation_getD {sigma : Option K} (h : ∀ s ∈ sigma, IsDeviation s) {fallback : K}
    (hfallback : 1 / 1024 ≤ fallback) : IsDeviation (sigma.getD fallback) := by
  cases sigma with
  | none => exact isDeviation_of_le hfallback
  | some s => exact h s rfl

end Deviations

/-- The options set no deviation of a row to a number that is not one. -/
def MeasurementModel.PositiveDeviations : MeasurementModel → Prop
  | .barometer o => ∀ sigma ∈ o.altitudeSigmaM, IsDeviation sigma
  | .echoSounder o => ∀ sigma ∈ o.sigmaM, IsDeviation sigma
  | .radarAltimeter o => ∀ sigma ∈ o.sigmaM, IsDeviation sigma
  | .rangeFinder o => ∀ sigma ∈ o.sigmaM, IsDeviation sigma
  | .airspeed o => IsDeviation o.sigmaMps
  | .starTracker o => IsDeviation o.sigmaYawRad
  | .gnssTightlyCoupled o =>
    IsDeviation o.basePseudorangeSigmaM ∧ IsDeviation o.pseudorangeNoiseFloorM ∧
      IsDeviation o.baseDopplerSigmaMps
  | _ => True

/-- The variance of an innovation of one number is positive: of its noise and altogether, and both
    as doubles, where the noise is rounded before it is added to the variance of the prediction. -/
structure PositiveInnovation (P : Matrix (Fin n) (Fin n) ℝ) (row : Kalman.Row (Fin n)) : Prop where
  noise : 0 < row.sigma
  roundedNoise : 0 < roundDouble (row.sigma * row.sigma)
  variance : 0 < Kalman.scalarVar P row
  roundedVariance :
    0 < roundDouble (row.h ⬝ᵥ (P *ᵥ row.h) + roundDouble (row.sigma * row.sigma))

/-- With a covariance and a deviation it is. -/
theorem positiveInnovation {P : Matrix (Fin n) (Fin n) ℝ} {row : Kalman.Row (Fin n)}
    (hP : P.PosSemidef) (hsigma : IsDeviation row.sigma) : PositiveInnovation P row where
  noise := hsigma.1
  roundedNoise := hsigma.roundDouble_pos
  variance := Kalman.scalarVar_pos hP hsigma.1
  roundedVariance := roundDouble_add_pos (hP.dotProduct_mulVec_nonneg row.h) hsigma.roundDouble_pos

section Rows

variable {nominal : NominalState} {est est' : Estimate n} {layout : StateLayout}
  {ctx : UpdateContext} {model : MeasurementModel} {m : SensorMeasurement}
  {row : Kalman.Row (Fin n)}

theorem isDeviation_barometerUpdateRow {o : BarometerOptions} {baro : BarometerMeasurement}
    (ho : (MeasurementModel.barometer o).PositiveDeviations)
    (h : barometerUpdateRow nominal est layout o baro = some row) : IsDeviation row.sigma := by
  unfold barometerUpdateRow at h
  split at h
  · cases h
  · obtain ⟨⟨zObs, sigma⟩, hz, rfl⟩ := Option.map_eq_some_iff.mp h
    show IsDeviation sigma
    -- the default depends on what is observed
    unfold barometerObservation at hz
    split at hz
    · cases hz
      exact isDeviation_getD ho (by norm_num)
    · split at hz
      · cases hz
        exact isDeviation_getD ho (by norm_num)
      · cases hz

/-- The rows of a satellite have the deviation of a pseudorange or of a Doppler shift. -/
theorem isDeviation_svRows {o : GnssTightlyCoupledOptions} {rcv : Receiver}
    {sv : GnssTightlyCoupledObservation}
    (ho : (MeasurementModel.gnssTightlyCoupled o).PositiveDeviations)
    (h : row ∈ svRows o rcv layout sv) : IsDeviation row.sigma := by
  obtain ⟨hbase, hfloor, hdoppler⟩ := ho
  unfold svRows at h
  split at h
  · rcases List.mem_cons.mp h with rfl | h
    · show IsDeviation (pseudorangeSigma o sv)
      unfold pseudorangeSigma
      split
      · exact hbase
      · -- what is added to the floor is not negative
        rename_i cn0 _
        have hweighted : 0 ≤ o.basePseudorangeSigmaM * (10 : ℝ) ^ (-cn0 / 40) :=
          mul_nonneg hbase.1.le (Real.rpow_nonneg (by norm_num) _)
        exact hfloor.mono (by linarith)
    · obtain ⟨dopplerHz, -, rfl⟩ := Option.map_eq_some_iff.mp (Option.mem_toList.mp h)
      exact hdoppler
  · cases h

theorem isDeviation_epochRows {o : GnssTightlyCoupledOptions} {epoch : GnssTightlyCoupledEpoch}
    (ho : (MeasurementModel.gnssTightlyCoupled o).PositiveDeviations)
    (h : row ∈ epochRows o nominal layout epoch ctx) : IsDeviation row.sigma := by
  unfold epochRows at h
  split at h
  · split at h
    · obtain ⟨sv, -, hrow⟩ := List.mem_flatMap.mp h
      exact isDeviation_svRows ho hrow
    · cases h
  · cases h

/-- **The deviation of every row.** -/
theorem ScalarInnovation.isDeviation (hmodel : model.PositiveDeviations)
    (h : ScalarInnovation nominal est layout ctx model m est' row) : IsDeviation row.sigma := by
  cases h with
  | barometer h => exact isDeviation_barometerUpdateRow hmodel h
  | echoSounder h =>
    unfold echoSounderUpdateRow at h
    split_ifs at h
    cases h
    exact isDeviation_getD hmodel (by norm_num)
  | radarAltimeter h =>
    unfold radarAltimeterUpdateRow at h
    split_ifs at h
    cases h
    exact isDeviation_getD hmodel (by norm_num)
  | rangeFinder h =>
    unfold rangeFinderUpdateRow at h
    split_ifs at h
    cases h
    exact isDeviation_getD hmodel (by norm_num)
  | airspeed h =>
    unfold airspeedUpdateRow at h
    simp only at h
    split_ifs at h
    cases h
    exact hmodel
  | heading h =>
    unfold headingUpdateRow at h
    split_ifs at h
    cases h
    exact hmodel
  | satellite h => exact isDeviation_epochRows hmodel (h.subset (by simp))

/-- One row after the other keeps the covariance positive semidefinite. -/
theorem posSemidef_rowsUpdate (o : GnssTightlyCoupledOptions) (rows : List (Kalman.Row (Fin n)))
    (hP : est.covariance.PosSemidef) : (rowsUpdate o est rows).covariance.PosSemidef := by
  induction rows generalizing est with
  | nil => exact hP
  | cons row rows ih => exact ih (posSemidef_scalarUpdate _ hP _ _ _)

/-- The estimate that a row updates has a covariance. -/
theorem ScalarInnovation.posSemidef (hP : est.covariance.PosSemidef)
    (h : ScalarInnovation nominal est layout ctx model m est' row) :
    est'.covariance.PosSemidef := by
  cases h with
  | satellite h => exact posSemidef_rowsUpdate _ _ hP
  | _ => exact hP

/-- **Every innovation of one number** has a positive variance. -/
theorem ScalarInnovation.positive (hmodel : model.PositiveDeviations)
    (hP : est.covariance.PosSemidef)
    (h : ScalarInnovation nominal est layout ctx model m est' row) :
    PositiveInnovation est'.covariance row :=
  positiveInnovation (h.posSemidef hP) (h.isDeviation hmodel)

end Rows

end FalconGuide
