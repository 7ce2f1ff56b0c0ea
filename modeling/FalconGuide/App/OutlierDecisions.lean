import FalconGuide.App.Factories
import FalconGuide.Ekf.AcceptedUpdates
import FalconGuide.Ekf.Applied
import FalconGuide.Ekf.Injection
import FalconGuide.Ukf.AffineUpdate

namespace FalconGuide

open Config Lib Matrix

/-!
# Which measurements the two filters of a configuration take for outliers

The gates of a configuration reach the options of both filters, but for that of the loosely coupled
fix, which the factory of the unscented filter does not copy.  The error-state filter compares the
innovation with them; `ApplyMeasurementModel` of the unscented filter never does.

* `GateCheck`, `gateCheck` — the innovation that a model compares with its gate;
* `ekf_accepts_iff`, `ukf_accepts_iff` — which measurements each filter accepts;
* `outlier_decisions_iff` — the main result: the filters agree exactly if the measurement is not
  farther away than the gate;
* `outlier_decisions_differ` — an altitude ten metres off.
-/

/-! ### The gate -/

/-- What a model compares with its gate: an innovation with its covariance. -/
structure GateCheck where
  size : ℕ
  dz : Fin size → ℝ
  S : Matrix (Fin size) (Fin size) ℝ
  gate : ℝ

/-- The gate is on, and the Mahalanobis distance exceeds it. -/
def GateCheck.Farther (c : GateCheck) : Prop := 0 < c.gate ∧ c.gate < c.dz ⬝ᵥ (c.S⁻¹ *ᵥ c.dz)

/-- The check of an update with one row. -/
def rowCheck {n : ℕ} (P : Matrix (Fin n) (Fin n) ℝ) (H : Matrix (Fin 1) (Fin n) ℝ)
    (dz sigma gate : ℝ) : GateCheck where
  size := 1
  dz _ := dz
  S := Kalman.innovationCov P H (isotropicNoise 1 sigma)
  gate := gate

/-- The check of the affine models on a measurement that gets as far as the gate. -/
noncomputable def gateCheck {layout : StateLayout} (s : EkfState layout) (ctx : UpdateContext) :
    MeasurementModel → SensorMeasurement → Option GateCheck
  | .barometer o, .barometer baro =>
    if baro.validity ≠ .valid then none
    else
      (barometerObservation o baro).map fun z =>
        rowCheck s.estimate.covariance (barometerRow _ layout) (z.1 - barometerAltitude s) z.2
          o.innovationGate
  | .echoSounder o, .echoSounder es =>
    if es.validity ≠ .valid ∨ es.depthOrRangeM < 0 then none
    else
      let depth := es.depthOrRangeM * es.soundSpeedMps.getD o.soundSpeedMps / o.soundSpeedMps
      some (rowCheck s.estimate.covariance
        (setEntry 0 0 ((layout.get .position).offset + 2) (-1))
        (depth - (-s.nominal.positionEnuM 2 + o.depthOriginM)) (o.sigmaM.getD 0.2)
        o.innovationGate)
  | .radarAltimeter o, .radarAltimeter ralt =>
    if ralt.validity = .valid ∧ ralt.surface ≠ .invalid ∧ 0 ≤ ralt.rangeM then
      some (rowCheck s.estimate.covariance (setEntry 0 0 ((layout.get .position).offset + 2) 1)
        (ralt.rangeM - (s.nominal.positionEnuM 2 - o.terrainElevationM)) (o.sigmaM.getD 0.5)
        o.innovationGate)
    else none
  -- only the block of the position goes through the gate
  | .gnssLooselyCoupled o, .gnssSolution gnss =>
    if gnss.fixType = .noFix ∨ gnss.validity ≠ .valid then none
    else
      ctx.ltp.map fun ltp =>
        { size := 3
          dz := segment (fixInnovation s.nominal gnss ltp) 0 3
          S := block (fixInnovationCov o s.estimate.covariance layout gnss ltp) 0 0 3 3
          gate := o.positionGate }
  | _, _ => none

/-! ### One model of each filter -/

/-- The models whose prediction is affine in the error state, in both filters, with the same
    options but for the gate of the fix. -/
inductive AffinePair : MeasurementModel → Ukf.MeasurementModel → Prop
  | gnssLooselyCoupled (o : FalconGuide.GnssLooselyCoupledOptions)
      (o' : Ukf.GnssLooselyCoupledOptions) :
      AffinePair (.gnssLooselyCoupled o) (Ukf.gnssLooselyCoupled o')
  | barometer (o : FalconGuide.BarometerOptions) : AffinePair (.barometer o) (Ukf.barometer o)
  | echoSounder (o : FalconGuide.EchoSounderOptions) :
      AffinePair (.echoSounder o) (Ukf.echoSounder o)
  | radarAltimeter (o : FalconGuide.RadarAltimeterOptions) :
      AffinePair (.radarAltimeter o) (Ukf.radarAltimeter o)

section Models

variable {layout : StateLayout} {s : EkfState layout} {ctx : UpdateContext}
  {ekf : MeasurementModel} {ukf : Ukf.MeasurementModel} {m : SensorMeasurement}

/-- An update with one row is accepted unless it is farther away than the gate. -/
theorem ekfUpdate_accepted_iff {n : ℕ} {est : Estimate n} {H : Matrix (Fin 1) (Fin n) ℝ}
    {dz sigma gate : ℝ} :
    (ekfUpdate .exact est H (fun _ => dz) (isotropicNoise 1 sigma) gate).2 = .accepted ↔
      ¬ (rowCheck est.covariance H dz sigma gate).Farther := by
  by_cases hgate : Gated gate est.covariance H (fun _ => dz) (isotropicNoise 1 sigma)
  · rw [ekfUpdate_of_gated hgate]
    exact iff_of_false (by rintro ⟨⟩) (not_not_intro hgate)
  · refine iff_of_true ?_ hgate
    rw [Gated, Kalman.mahalanobis, Kalman.innovationCov, Matrix.mul_assoc H] at hgate
    rw [ekfUpdate]
    exact congrArg Prod.snd (if_neg hgate)

/-- A fix is accepted unless its position is farther away than the gate. -/
theorem applySolution_accepted_iff {n : ℕ} {o : FalconGuide.GnssLooselyCoupledOptions}
    {nominal : NominalState} {est : Estimate n} {gnss : GnssSolution} {ltp : LocalTangentPlane} :
    (applySolution .exact o nominal est layout gnss ltp).2 = .accepted ↔
      ¬ FixGated o nominal est.covariance layout gnss ltp := by
  by_cases hgate : FixGated o nominal est.covariance layout gnss ltp
  · rw [applySolution_of_gated hgate]
    exact iff_of_false (by rintro ⟨⟩) (not_not_intro hgate)
  · refine iff_of_true ?_ hgate
    rw [applySolution]
    exact congrArg Prod.snd (if_neg hgate)

/-- **The error-state filter** accepts what gets as far as the gate and is not farther away. -/
theorem apply_accepted_iff (hpair : AffinePair ekf ukf) :
    (ekf.apply .exact s.nominal s.estimate layout ctx m).2 = .accepted ↔
      ∃ c, gateCheck s ctx ekf m = some c ∧ ¬ c.Farther := by
  -- a measurement of another kind
  have hother : EstimatorUpdateResult.rejected = .accepted ↔
      ∃ c : GateCheck, none = some c ∧ ¬ c.Farther := by simp
  cases hpair with
  | gnssLooselyCoupled o o' =>
    cases m with
    | gnssSolution gnss =>
      show (gnssLooselyCoupledApply .exact o s.nominal s.estimate layout gnss ctx).2 = _ ↔ _
      rw [gnssLooselyCoupledApply, gateCheck]
      cases ctx.ltp with
      | none => simp
      | some ltp =>
        by_cases hfix : gnss.fixType = .noFix
        · simp [hfix]
        · by_cases hvalid : gnss.validity = .valid
          · simp only [hfix, hvalid, if_false, ne_eq, not_true, or_self, Option.map_some,
              Option.some.injEq, exists_eq_left']
            exact applySolution_accepted_iff
          · simp [hfix, hvalid]
    | _ => exact hother
  | barometer o =>
    cases m with
    | barometer baro =>
      show (barometerApply .exact o s.nominal s.estimate layout baro).2 = _ ↔ _
      by_cases hvalid : baro.validity = .valid
      · cases hobs : barometerObservation o baro with
        | none => simp [barometerApply, gateCheck, hvalid, hobs]
        | some z =>
          rw [barometerApply_eq hvalid hobs, ekfUpdate_accepted_iff]
          simp [gateCheck, hvalid, hobs]
      · simp [barometerApply, gateCheck, hvalid]
    | _ => exact hother
  | echoSounder o =>
    cases m with
    | echoSounder es =>
      show (echoSounderApply .exact o s.nominal s.estimate layout es).2 = _ ↔ _
      rw [echoSounderApply, gateCheck]
      by_cases hvalid : es.validity = .valid
      · by_cases hdepth : es.depthOrRangeM < 0
        · simp [hvalid, hdepth]
        · simp only [hvalid, hdepth, ne_eq, not_true, if_false, or_self, Option.some.injEq,
            exists_eq_left']
          exact ekfUpdate_accepted_iff
      · simp [hvalid]
    | _ => exact hother
  | radarAltimeter o =>
    cases m with
    | radarAltimeter ralt =>
      show (radarAltimeterApply .exact o s.nominal s.estimate layout ralt).2 = _ ↔ _
      rw [radarAltimeterApply, gateCheck]
      by_cases hvalid : ralt.validity = .valid
      · by_cases hsurface : ralt.surface = .invalid
        · simp [hvalid, hsurface]
        · by_cases hrange : ralt.rangeM < 0
          · simp [hvalid, hsurface, hrange]
          · simp only [hvalid, hsurface, hrange, not_lt.mp hrange, ne_eq, not_true, not_false_iff,
              if_false, and_self, if_true, Option.some.injEq, exists_eq_left']
            exact ekfUpdate_accepted_iff
      · simp [hvalid]
    | _ => exact hother

/-- **The unscented filter** observes what gets as far as the gate of the error-state filter. -/
theorem observe_isSome_iff (hpair : AffinePair ekf ukf) :
    (ukf.observe m ctx).isSome ↔ (gateCheck s ctx ekf m).isSome := by
  cases hpair with
  | gnssLooselyCoupled o o' =>
    cases m with
    | gnssSolution gnss =>
      rw [Ukf.gnssLooselyCoupled, gateCheck]
      cases hltp : ctx.ltp with
      | none => simp [hltp]
      | some ltp =>
        by_cases hfix : gnss.fixType = .noFix
        · simp [hltp, hfix]
        · by_cases hvalid : gnss.validity = .valid <;> simp [hltp, hfix, hvalid]
    | _ => rfl
  | barometer o =>
    cases m with
    | barometer baro =>
      rw [Ukf.barometer_observe, gateCheck]
      by_cases hvalid : baro.validity = .valid <;> simp [hvalid]
    | _ => rfl
  | echoSounder o =>
    cases m with
    | echoSounder es =>
      rw [Ukf.echoSounder, gateCheck]
      by_cases h : es.validity ≠ .valid ∨ es.depthOrRangeM < 0 <;> simp [h]
    | _ => rfl
  | radarAltimeter o =>
    cases m with
    | radarAltimeter ralt =>
      rw [Ukf.radarAltimeter, gateCheck]
      by_cases h : ralt.validity = .valid ∧ ralt.surface ≠ .invalid ∧ 0 ≤ ralt.rangeM <;>
        simp [h]
    | _ => rfl

end Models

/-! ### The models of a configuration -/

/-- The one model that a block may contribute. -/
theorem find?_ite {M : Type} {p : M → Bool} {c : Bool} {model : M} :
    (if c then [model] else []).find? p
      = if c then if p model then some model else none else none := by
  cases c with
  | false => rfl
  | true => exact List.find?_singleton

/-- A measurement that an affine model of the error-state filter is for. -/
def SensorMeasurement.IsAffine (sensors : Sensors) : SensorMeasurement → Prop
  | .gnssSolution _ => sensors.gnss.mode = .looselyCoupled
  | .barometer _ => True
  | .echoSounder _ => True
  | .radarAltimeter _ => True
  | _ => False

/-- The models of the block that a measurement is for, if it is enabled. -/
noncomputable def affineModels (sensors : Sensors) :
    SensorMeasurement → Option (MeasurementModel × Ukf.MeasurementModel)
  | .gnssSolution _ =>
    if sensors.gnss.enabled then
      some (.gnssLooselyCoupled sensors.gnss.looselyCoupled.real,
        Ukf.gnssLooselyCoupled (ukfGnssOptions sensors.gnss.looselyCoupled))
    else none
  | .barometer _ =>
    if sensors.barometer.enabled then
      some (.barometer sensors.barometer.options.real, Ukf.barometer sensors.barometer.options.real)
    else none
  | .echoSounder _ =>
    if sensors.echoSounder.enabled then
      some (.echoSounder sensors.echoSounder.options.real,
        Ukf.echoSounder sensors.echoSounder.options.real)
    else none
  | .radarAltimeter _ =>
    if sensors.radarAltimeter.enabled then
      some (.radarAltimeter sensors.radarAltimeter.options.real,
        Ukf.radarAltimeter sensors.radarAltimeter.options.real)
    else none
  | _ => none

section Find

variable {sensors : Sensors} {m : SensorMeasurement}

/-- The model of the GNSS block is for fixes or for raw observations. -/
theorem gnssModel_canHandle {o : FalconGuide.GnssLooselyCoupledOptions}
    {o' : FalconGuide.GnssTightlyCoupledOptions} {c : Prop} {_ : Decidable c}
    (hfix : ∀ gnss, m ≠ .gnssSolution gnss) (hepoch : ∀ epoch, m ≠ .gnssTightlyCoupledEpoch epoch) :
    (if c then MeasurementModel.gnssLooselyCoupled o else .gnssTightlyCoupled o').canHandle m
      = false := by
  split
  · cases m with
    | gnssSolution gnss => exact absurd rfl (hfix gnss)
    | _ => rfl
  · cases m with
    | gnssTightlyCoupledEpoch epoch => exact absurd rfl (hepoch epoch)
    | _ => rfl

theorem find?_ekfModels (hm : m.IsAffine sensors) :
    (ekfModels sensors).find? (·.canHandle m) = (affineModels sensors m).map Prod.fst := by
  -- block by block
  simp only [ekfModels, SensorConfig.models, List.find?_append, find?_ite]
  cases m with
  | gnssSolution gnss =>
    have hmode : sensors.gnss.mode = .looselyCoupled := hm
    simp only [hmode, if_true, MeasurementModel.canHandle, Bool.false_eq_true, if_false, ite_self,
      Option.or_none, affineModels]
    split <;> rfl
  | barometer baro =>
    rw [gnssModel_canHandle (by simp) (by simp)]
    simp only [MeasurementModel.canHandle, Bool.false_eq_true, if_true, if_false, ite_self,
      Option.or_none, Option.none_or, affineModels]
    split <;> rfl
  | echoSounder es =>
    rw [gnssModel_canHandle (by simp) (by simp)]
    simp only [MeasurementModel.canHandle, Bool.false_eq_true, if_true, if_false, ite_self,
      Option.or_none, Option.none_or, affineModels]
    split <;> rfl
  | radarAltimeter ralt =>
    rw [gnssModel_canHandle (by simp) (by simp)]
    simp only [MeasurementModel.canHandle, Bool.false_eq_true, if_true, if_false, ite_self,
      Option.or_none, Option.none_or, affineModels]
    split <;> rfl
  | _ => exact hm.elim

/-- Which measurements the models of the unscented filter handle. -/
theorem find?_ukfModels (uninitialised : Mat3) (hm : m.IsAffine sensors) :
    (ukfModels uninitialised sensors).find? (·.canHandle m)
      = (affineModels sensors m).map Prod.snd := by
  simp only [ukfModels, SensorConfig.models, List.find?_append, find?_ite]
  simp only [Ukf.barometer, Ukf.magnetometer, Ukf.wheelOdometry, Ukf.airspeed, Ukf.opticalFlow,
    Ukf.radarAltimeter, Ukf.dvl, Ukf.echoSounder, Ukf.externalPose, Ukf.externalVelocity,
    Ukf.externalOdometry, Ukf.aidingSolution, Ukf.starTracker, Ukf.gnssLooselyCoupled, affineModels]
  cases m with
  | gnssSolution gnss =>
    simp only [Bool.false_eq_true, if_true, if_false, ite_self, Option.or_none]
    split <;> rfl
  | barometer baro =>
    simp only [Bool.false_eq_true, if_true, if_false, ite_self, Option.or_none, Option.none_or]
    split <;> rfl
  | echoSounder es =>
    simp only [Bool.false_eq_true, if_true, if_false, ite_self, Option.or_none, Option.none_or]
    split <;> rfl
  | radarAltimeter ralt =>
    simp only [Bool.false_eq_true, if_true, if_false, ite_self, Option.or_none, Option.none_or]
    split <;> rfl
  | _ => exact hm.elim

/-- They belong together. -/
theorem affinePair_of_mem {ekf : MeasurementModel} {ukf : Ukf.MeasurementModel}
    (h : affineModels sensors m = some (ekf, ukf)) : AffinePair ekf ukf := by
  cases m with
  | gnssSolution gnss =>
    rw [affineModels] at h
    split at h
    · cases h
      exact .gnssLooselyCoupled _ _
    · cases h
  | barometer baro =>
    rw [affineModels] at h
    split at h
    · cases h
      exact .barometer _
    · cases h
  | echoSounder es =>
    rw [affineModels] at h
    split at h
    · cases h
      exact .echoSounder _
    · cases h
  | radarAltimeter ralt =>
    rw [affineModels] at h
    split at h
    · cases h
      exact .radarAltimeter _
    · cases h
  | _ => cases h

end Find

/-! ### The two filters -/

section Filters

variable {options : EkfOptions} {ukfOptions : Ukf.UkfOptions}

/-- The innovation of `m` is farther away than the gate of the error-state filter. -/
def FartherThanGate (e : EkfEstimator options) (m : SensorMeasurement) : Prop :=
  ∃ model c, e.measurementModels.find? (·.canHandle m) = some model ∧
    gateCheck e.state { ltp := e.localTangentPlane } model m = some c ∧ c.Farther

/-- The filters accept the same measurements, and leave what is farther away than the gate. -/
structure SameDecision (d : Ukf.Decompositions) (e : EkfEstimator options)
    (u : Ukf.UkfEstimator ukfOptions) (m : SensorMeasurement) : Prop where
  accepted :
    (u.dispatch d m).2.result = .accepted ↔ (e.dispatch .exact m).2.result = .accepted
  outlier : FartherThanGate e m →
    (e.dispatch .exact m).1 = e ∧ (e.dispatch .exact m).2.result = .rejected ∧
      (u.dispatch d m).1 = u ∧ (u.dispatch d m).2.result = .rejected

theorem EkfEstimator.dispatch_result {eigen : Eigen} {e : EkfEstimator options}
    {model : MeasurementModel} {m : SensorMeasurement}
    (h : e.measurementModels.find? (·.canHandle m) = some model) :
    (e.dispatch eigen m).2.result
      = (model.apply eigen e.state.nominal e.state.estimate options.buildLayout
          { ltp := e.localTangentPlane } m).2 := by
  simp only [EkfEstimator.dispatch, h]
  split <;> rfl

theorem Ukf.UkfEstimator.dispatch_accepted_iff {d : Ukf.Decompositions}
    {u : Ukf.UkfEstimator ukfOptions} {model : Ukf.MeasurementModel} {m : SensorMeasurement}
    (h : u.measurementModels.find? (·.canHandle m) = some model) :
    (u.dispatch d m).2.result = .accepted ↔
      (model.observe m { ltp := u.localTangentPlane }).isSome := by
  simp only [Ukf.UkfEstimator.dispatch, h]
  rw [Ukf.applyMeasurementModel]
  cases model.observe m { ltp := u.localTangentPlane } with
  | none => simp
  | some z => simp

/-- Registering models adds them behind those there are. -/
theorem EkfEstimator.foldl_registerMeasurementModel (e : EkfEstimator options)
    (models : List MeasurementModel) :
    (models.foldl EkfEstimator.registerMeasurementModel e).measurementModels
      = e.measurementModels ++ models := by
  induction models generalizing e with
  | nil => exact (List.append_nil _).symm
  | cons model models ih =>
    rw [List.foldl_cons, ih, EkfEstimator.registerMeasurementModel]
    exact List.append_assoc _ _ _

theorem Ukf.UkfEstimator.foldl_registerMeasurementModel (u : Ukf.UkfEstimator ukfOptions)
    (models : List Ukf.MeasurementModel) :
    (models.foldl Ukf.UkfEstimator.registerMeasurementModel u).measurementModels
      = u.measurementModels ++ models := by
  induction models generalizing u with
  | nil => exact (List.append_nil _).symm
  | cons model models ih =>
    rw [List.foldl_cons, ih, Ukf.UkfEstimator.registerMeasurementModel]
    exact List.append_assoc _ _ _

section Pair

variable {d : Ukf.Decompositions} {e : EkfEstimator options} {u : Ukf.UkfEstimator ukfOptions}
  {m : SensorMeasurement} {ekf : MeasurementModel} {ukf : Ukf.MeasurementModel}

/-- Which measurements the error-state filter accepts. -/
theorem ekf_accepts_iff (hpair : AffinePair ekf ukf)
    (he : e.measurementModels.find? (·.canHandle m) = some ekf) :
    (e.dispatch .exact m).2.result = .accepted ↔ ∃ c,
      gateCheck e.state { ltp := e.localTangentPlane } ekf m = some c ∧ ¬ c.Farther := by
  rw [EkfEstimator.dispatch_result he]
  exact apply_accepted_iff hpair

/-- Which measurements the unscented filter accepts. -/
theorem ukf_accepts_iff (hpair : AffinePair ekf ukf)
    (hu : u.measurementModels.find? (·.canHandle m) = some ukf)
    (hltp : u.localTangentPlane = e.localTangentPlane) :
    (u.dispatch d m).2.result = .accepted ↔
      (gateCheck e.state { ltp := e.localTangentPlane } ekf m).isSome := by
  rw [Ukf.UkfEstimator.dispatch_accepted_iff hu, hltp]
  exact observe_isSome_iff hpair

/-- Only the unscented filter accepts what is farther away than the gate. -/
theorem differ_of_farther (hpair : AffinePair ekf ukf)
    (he : e.measurementModels.find? (·.canHandle m) = some ekf)
    (hu : u.measurementModels.find? (·.canHandle m) = some ukf)
    (hltp : u.localTangentPlane = e.localTangentPlane) (h : FartherThanGate e m) :
    (e.dispatch .exact m).2.result ≠ .accepted ∧ (u.dispatch d m).2.result = .accepted := by
  obtain ⟨model, c, hfind, hcheck, hfarther⟩ := h
  obtain rfl : model = ekf := Option.some_inj.mp (hfind.symm.trans he)
  constructor
  · rw [Ne, ekf_accepts_iff hpair he]
    rintro ⟨c', hcheck', hnot⟩
    obtain rfl : c = c' := Option.some_inj.mp (hcheck.symm.trans hcheck')
    exact hnot hfarther
  · rw [ukf_accepts_iff hpair hu hltp, hcheck]
    rfl

/-- With counterparts, the filters decide alike exactly if the gate is not exceeded. -/
theorem sameDecision_iff_of_pair (hpair : AffinePair ekf ukf)
    (he : e.measurementModels.find? (·.canHandle m) = some ekf)
    (hu : u.measurementModels.find? (·.canHandle m) = some ukf)
    (hltp : u.localTangentPlane = e.localTangentPlane) :
    SameDecision d e u m ↔ ¬ FartherThanGate e m := by
  constructor
  · rintro ⟨haccepted, -⟩ hfarther
    obtain ⟨hekf, hukf⟩ := differ_of_farther hpair he hu hltp hfarther (d := d)
    exact hekf (haccepted.mp hukf)
  · intro hnot
    refine ⟨?_, fun hfarther => absurd hfarther hnot⟩
    rw [ukf_accepts_iff hpair hu hltp, ekf_accepts_iff hpair he, Option.isSome_iff_exists]
    constructor
    · rintro ⟨c, hcheck⟩
      exact ⟨c, hcheck, fun hfarther => hnot ⟨ekf, c, he, hcheck, hfarther⟩⟩
    · rintro ⟨c, hcheck, -⟩
      exact ⟨c, hcheck⟩

end Pair

/-- Without a model for the measurement both filters leave it. -/
theorem sameDecision_of_none {d : Ukf.Decompositions} {e : EkfEstimator options}
    {u : Ukf.UkfEstimator ukfOptions} {m : SensorMeasurement}
    (he : e.measurementModels.find? (·.canHandle m) = none)
    (hu : u.measurementModels.find? (·.canHandle m) = none) :
    SameDecision d e u m ∧ ¬ FartherThanGate e m := by
  have hekf : e.dispatch .exact m = (e, { result := .rejected }) := by
    simp only [EkfEstimator.dispatch, he]
  have hukf : u.dispatch d m = (u, { result := .rejected }) := by
    simp only [Ukf.UkfEstimator.dispatch, hu]
  constructor
  · constructor
    · rw [hekf, hukf]
    · intro _
      rw [hekf, hukf]
      exact ⟨rfl, rfl, rfl, rfl⟩
  · rintro ⟨model, c, hfind, -⟩
    rw [he] at hfind
    cases hfind

end Filters

section Built

variable {sensors : Sensors} {uninitialised : Mat3} {e : EkfEstimator (ekfOptions sensors)}
  {u : Ukf.UkfEstimator (ukfOptions sensors)} {m : SensorMeasurement}

theorem buildEkfEstimator_measurementModels :
    (buildEkfEstimator sensors).measurementModels = ekfModels sensors :=
  (EkfEstimator.foldl_registerMeasurementModel _ _).trans (List.nil_append _)

theorem buildUkfEstimator_measurementModels :
    (buildUkfEstimator uninitialised sensors).measurementModels = ukfModels uninitialised sensors :=
  (Ukf.UkfEstimator.foldl_registerMeasurementModel _ _).trans (List.nil_append _)

theorem find?_of_built (hm : m.IsAffine sensors)
    (he : e.measurementModels = (buildEkfEstimator sensors).measurementModels) :
    e.measurementModels.find? (·.canHandle m) = (affineModels sensors m).map Prod.fst := by
  rw [he, buildEkfEstimator_measurementModels, find?_ekfModels hm]

theorem find?_of_built_ukf (hm : m.IsAffine sensors)
    (hu : u.measurementModels = (buildUkfEstimator uninitialised sensors).measurementModels) :
    u.measurementModels.find? (·.canHandle m) = (affineModels sensors m).map Prod.snd := by
  rw [hu, buildUkfEstimator_measurementModels, find?_ukfModels uninitialised hm]

end Built

/-- **Outlier decisions.** The filters that one configuration builds, in any states with the same
    tangent plane, decide alike on a measurement of an affine model exactly if the measurement is
    not farther away than the gate.  The error-state filter inverts `S` as `Eigen.exact` does, which
    makes a singular `S` the zero matrix, so that nothing is farther than the gate then. -/
theorem outlier_decisions_iff (sensors : Sensors) (uninitialised : Mat3) (d : Ukf.Decompositions)
    (e : EkfEstimator (ekfOptions sensors)) (u : Ukf.UkfEstimator (ukfOptions sensors))
    (m : SensorMeasurement) (hm : m.IsAffine sensors)
    (he : e.measurementModels = (buildEkfEstimator sensors).measurementModels)
    (hu : u.measurementModels = (buildUkfEstimator uninitialised sensors).measurementModels)
    (hltp : u.localTangentPlane = e.localTangentPlane) :
    SameDecision d e u m ↔ ¬ FartherThanGate e m := by
  have hfind := find?_of_built hm he
  have hfind' := find?_of_built_ukf hm hu
  cases hmodels : affineModels sensors m with
  | none =>
    rw [hmodels] at hfind hfind'
    obtain ⟨hsame, hnot⟩ := sameDecision_of_none hfind hfind'
    exact iff_of_true hsame hnot
  | some pair =>
    rw [hmodels] at hfind hfind'
    exact sameDecision_iff_of_pair (affinePair_of_mem hmodels) hfind hfind' hltp

/-- Two filters with unit covariance. -/
theorem exists_unit {options : EkfOptions} {ukfOptions : Ukf.UkfOptions}
    (models : List MeasurementModel) (ukfModels : List Ukf.MeasurementModel) :
    ∃ (e : EkfEstimator options) (u : Ukf.UkfEstimator ukfOptions),
      e.measurementModels = models ∧ u.measurementModels = ukfModels ∧
      u.localTangentPlane = e.localTangentPlane ∧ u.state.nominal = .ofEkf e.state.nominal ∧
      u.state.covariance = 1 ∧ e.state = { estimate := { covariance := 1 } } :=
  ⟨{ measurementModels := models, state := { estimate := { covariance := 1 } } },
    { measurementModels := ukfModels, state := { covariance := 1 } }, rfl, rfl, rfl, rfl, rfl, rfl⟩

/-- A barometer that reports the altitude both filters expect. -/
theorem outlier_decisions_iff_barometer :
    let sensors : Sensors :=
      { barometer := { enabled := true, options := { innovationGate := 1 } } }
    ∃ (e : EkfEstimator (ekfOptions sensors)) (u : Ukf.UkfEstimator (ukfOptions sensors)),
      e.measurementModels = (buildEkfEstimator sensors).measurementModels ∧
      u.measurementModels = (buildUkfEstimator 0 sensors).measurementModels ∧
      (SameDecision .exact e u (.barometer { altitudeM := some 0 }) ↔
        ¬ FartherThanGate e (.barometer { altitudeM := some 0 })) := by
  intro sensors
  obtain ⟨e, u, he, hu, hltp, -⟩ := @exists_unit (ekfOptions sensors) (ukfOptions sensors)
    (buildEkfEstimator sensors).measurementModels (buildUkfEstimator 0 sensors).measurementModels
  exact ⟨e, u, he, hu, outlier_decisions_iff sensors 0 .exact e u _ trivial he hu hltp⟩

/-! ### An outlier -/

/-- The variance of one state of unit variance. -/
theorem setEntry_mul_transpose {n : ℕ} (k : Fin n) :
    (setEntry 0 0 k 1 : Matrix (Fin 1) (Fin n) ℝ)
      * (setEntry 0 0 k 1 : Matrix (Fin 1) (Fin n) ℝ)ᵀ = 1 := by
  ext i j
  obtain rfl : i = 0 := Subsingleton.elim _ _
  obtain rfl : j = 0 := Subsingleton.elim _ _
  rw [mul_apply, Finset.sum_eq_single k]
  · simp [setEntry, setBlock]
  · intro j _ hj
    have hzero : (setEntry 0 0 k 1 : Matrix (Fin 1) (Fin n) ℝ) 0 j = 0 := by
      refine dif_neg fun h => hj (Fin.ext ?_)
      omega
    rw [hzero, zero_mul]
  · intro h
    exact absurd (Finset.mem_univ k) h

/-- With unit variance and unit noise a distance of ten is farther away than a gate of one. -/
theorem rowCheck_farther {n : ℕ} (k : Fin n) :
    (rowCheck (1 : Matrix (Fin n) (Fin n) ℝ) (setEntry 0 0 k 1) 10 1 1).Farther := by
  let H : Matrix (Fin 1) (Fin n) ℝ := setEntry 0 0 k 1
  have hS : Kalman.innovationCov 1 H (isotropicNoise 1 1)
      = (2 : ℝ) • (1 : Matrix (Fin 1) (Fin 1) ℝ) := by
    rw [Kalman.innovationCov, Matrix.mul_one, setEntry_mul_transpose, isotropicNoise, mul_one,
      one_smul, two_smul]
  have hinv : ((2 : ℝ) • (1 : Matrix (Fin 1) (Fin 1) ℝ))⁻¹ = (1 / 2 : ℝ) • 1 := by
    apply inv_eq_right_inv
    rw [smul_mul_smul_comm, Matrix.one_mul]
    norm_num
  refine ⟨one_pos, ?_⟩
  show (1 : ℝ) < (fun _ : Fin 1 => 10) ⬝ᵥ ((Kalman.innovationCov 1 H (isotropicNoise 1 1))⁻¹
    *ᵥ fun _ : Fin 1 => 10)
  rw [hS, hinv, smul_mulVec, one_mulVec]
  norm_num [dotProduct]

section Altitude

variable {options : EkfOptions} {o : FalconGuide.BarometerOptions}

/-- With a barometer and unit covariance an altitude ten metres off is an outlier. -/
theorem altitude_fartherThanGate (hbias : options.enableBaroBiasState = false)
    (hsigma : o.altitudeSigmaM = some 1) (hgate : o.innovationGate = 1)
    {e : EkfEstimator options}
    (hfind : e.measurementModels.find? (·.canHandle (.barometer { altitudeM := some 10 }))
      = some (.barometer o))
    (hstate : e.state = { estimate := { covariance := 1 } }) :
    FartherThanGate e (.barometer { altitudeM := some 10 }) := by
  have hsize : 2 < options.buildLayout.totalSize := by
    unfold EkfOptions.buildLayout
    cases options.enableGnssClockState <;> cases options.enableBaroBiasState <;> decide
  refine ⟨_, _, hfind, ?_, rowCheck_farther ⟨2, hsize⟩⟩
  rw [hstate]
  simp [gateCheck, barometerObservation, barometerAltitude, barometerRow, hbias, hsigma, hgate]

end Altitude

/-- The error-state filter rejects an altitude ten metres off, the unscented filter fuses it. -/
theorem outlier_decisions_differ :
    let sensors : Sensors :=
      { barometer :=
          { enabled := true, options := { altitudeSigmaM := some 1, innovationGate := 1 } } }
    ∃ (e : EkfEstimator (ekfOptions sensors)) (u : Ukf.UkfEstimator (ukfOptions sensors)),
      e.measurementModels = (buildEkfEstimator sensors).measurementModels ∧
      u.measurementModels = (buildUkfEstimator 0 sensors).measurementModels ∧
      u.localTangentPlane = e.localTangentPlane ∧ u.state.nominal = .ofEkf e.state.nominal ∧
      u.state.covariance = 1 ∧ e.state.estimate.covariance = 1 ∧
      FartherThanGate e (.barometer { altitudeM := some 10 }) ∧
      (e.dispatch .exact (.barometer { altitudeM := some 10 })).2.result ≠ .accepted ∧
      (u.dispatch .exact (.barometer { altitudeM := some 10 })).2.result = .accepted := by
  intro sensors
  let m : SensorMeasurement := .barometer { altitudeM := some 10 }
  have hmodels : affineModels sensors m = some (.barometer sensors.barometer.options.real,
      Ukf.barometer sensors.barometer.options.real) := by
    simp [affineModels, m, sensors]
  have hsigma : sensors.barometer.options.real.altitudeSigmaM = some 1 := by
    simp [BarometerOptions.real, realOption, sensors]
  have hgate : sensors.barometer.options.real.innovationGate = 1 := by
    simp [BarometerOptions.real, sensors]
  generalize sensors = sensors at *
  obtain ⟨e, u, he, hu, hltp, hnominal, hcovariance, hstate⟩ := @exists_unit (ekfOptions sensors)
    (ukfOptions sensors) (buildEkfEstimator sensors).measurementModels
    (buildUkfEstimator 0 sensors).measurementModels
  have hfind := @find?_of_built sensors e m trivial he
  have hfind' := @find?_of_built_ukf sensors 0 u m trivial hu
  rw [hmodels] at hfind hfind'
  have hfarther : FartherThanGate e m := altitude_fartherThanGate rfl hsigma hgate hfind hstate
  exact ⟨e, u, he, hu, hltp, hnominal, hcovariance, by rw [hstate], hfarther,
    differ_of_farther (affinePair_of_mem hmodels) hfind hfind' hltp hfarther⟩

end FalconGuide
