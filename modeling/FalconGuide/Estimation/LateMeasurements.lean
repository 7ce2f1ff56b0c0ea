import FalconGuide.Estimation.FilterBackends
import FalconGuide.Ukf.Update

namespace FalconGuide

/-!
# Measurements that come late

`OutOfOrder` is the result for a timestamp that violates the ordering requirements.  Of the two
filters only the inertial path of `AddMeasurement` reports it; any other measurement is dispatched
to the models however old it is.

* `MeasurementModel.apply_ne_outOfOrder` — no model reports it;
* `late_never_reported` — so no filter does, for any measurement but an inertial sample;
* `late_barometer_fused` — a late measurement is fused at the later filter time.
-/

/-! ### What the models report -/

section Update

variable {n m : ℕ} {eigen : Eigen} {est : Estimate n} {outcome : Estimate n × EstimatorUpdateResult}
  {H : Matrix (Fin m) (Fin n) ℝ} {dz : Fin m → ℝ} {R : Matrix (Fin m) (Fin m) ℝ} {gate : ℝ}

theorem rejected_ne_outOfOrder : EstimatorUpdateResult.rejected ≠ .outOfOrder := by decide

theorem notInitialized_ne_outOfOrder : EstimatorUpdateResult.notInitialized ≠ .outOfOrder := by
  decide

theorem accepted_ne_outOfOrder : EstimatorUpdateResult.accepted ≠ .outOfOrder := by decide

/-- An update is accepted or rejected. -/
theorem ekfUpdate_ne_outOfOrder : (ekfUpdate eigen est H dz R gate).2 ≠ .outOfOrder := by
  rw [ekfUpdate]
  split
  · exact rejected_ne_outOfOrder
  · exact accepted_ne_outOfOrder

/-- One more block of a measurement. -/
theorem blockUpdate_ne_outOfOrder (h : outcome.2 ≠ .outOfOrder) :
    (blockUpdate eigen outcome H dz R gate).2 ≠ .outOfOrder := by
  show (if (ekfUpdate eigen outcome.1 H dz R gate).2 = .accepted then .accepted
    else outcome.2) ≠ EstimatorUpdateResult.outOfOrder
  split
  · exact accepted_ne_outOfOrder
  · exact h

/-- A block that an option may switch off. -/
theorem ifBlock_ne_outOfOrder {c : Prop} {_ : Decidable c} (h : outcome.2 ≠ .outOfOrder) :
    (if c then blockUpdate eigen outcome H dz R gate else outcome).2 ≠ .outOfOrder := by
  split
  · exact blockUpdate_ne_outOfOrder h
  · exact h

/-- A block that a measurement may lack. -/
theorem optionBlock_ne_outOfOrder {α : Type} {value : Option α} {dz : α → Fin m → ℝ}
    (h : outcome.2 ≠ .outOfOrder) :
    (value.elim outcome fun x => blockUpdate eigen outcome H (dz x) R gate).2 ≠ .outOfOrder := by
  cases value with
  | none => exact h
  | some x => exact blockUpdate_ne_outOfOrder h

/-- A block that a measurement may lack, or not vouch for. -/
theorem optionIfBlock_ne_outOfOrder {α : Type} {value : Option α} {c : Prop} {_ : Decidable c}
    {dz : α → Fin m → ℝ} (h : outcome.2 ≠ .outOfOrder) :
    (value.elim outcome fun x =>
      if c then blockUpdate eigen outcome H (dz x) R gate else outcome).2 ≠ .outOfOrder := by
  cases value with
  | none => exact h
  | some x => exact ifBlock_ne_outOfOrder h

end Update

section Models

variable {n : ℕ} (eigen : Eigen) (nominal : NominalState) (est : Estimate n) (layout : StateLayout)
  (ctx : UpdateContext)

/-- `AidingSolution::Apply` does not report it. -/
theorem aidingSolutionApply_ne_outOfOrder (o : AidingSolutionOptions) (m : AidingSolution) :
    (aidingSolutionApply eigen o nominal est layout m ctx).2 ≠ .outOfOrder := by
  unfold aidingSolutionApply
  split
  · exact rejected_ne_outOfOrder
  · split
    · exact rejected_ne_outOfOrder
    · split
      · exact notInitialized_ne_outOfOrder
      · refine optionIfBlock_ne_outOfOrder ?velocity
        refine optionBlock_ne_outOfOrder ?position
        exact optionBlock_ne_outOfOrder rejected_ne_outOfOrder

/-- Neither does `ExternalOdometry::Apply`. -/
theorem externalOdometryApply_ne_outOfOrder (o : ExternalOdometryOptions)
    (m : ExternalOdometryMeasurement) :
    (externalOdometryApply eigen o nominal est layout m ctx).2 ≠ .outOfOrder := by
  unfold externalOdometryApply
  split
  · exact rejected_ne_outOfOrder
  · split
    · exact notInitialized_ne_outOfOrder
    · refine ifBlock_ne_outOfOrder ?velocity
      refine ifBlock_ne_outOfOrder ?position
      exact ifBlock_ne_outOfOrder rejected_ne_outOfOrder

/-- Neither does `ExternalPose::Apply`. -/
theorem externalPoseApply_ne_outOfOrder (o : ExternalPoseOptions) (m : ExternalPoseMeasurement) :
    (externalPoseApply eigen o nominal est layout m ctx).2 ≠ .outOfOrder := by
  unfold externalPoseApply
  split
  · exact rejected_ne_outOfOrder
  · split
    · exact notInitialized_ne_outOfOrder
    · refine ifBlock_ne_outOfOrder ?position
      exact ifBlock_ne_outOfOrder rejected_ne_outOfOrder

/-- Neither does `GnssTightlyCoupled::Apply`. -/
theorem gnssTightlyCoupledApply_ne_outOfOrder (o : GnssTightlyCoupledOptions)
    (m : GnssTightlyCoupledEpoch) :
    (gnssTightlyCoupledApply o nominal est layout m ctx).2 ≠ .outOfOrder := by
  unfold gnssTightlyCoupledApply
  split
  · exact rejected_ne_outOfOrder
  · split
    · exact notInitialized_ne_outOfOrder
    · exact notInitialized_ne_outOfOrder
    · split
      · exact rejected_ne_outOfOrder
      · split
        · exact rejected_ne_outOfOrder
        · show (ite _ _ _ : EstimatorUpdateResult) ≠ _
          split
          · exact rejected_ne_outOfOrder
          · exact accepted_ne_outOfOrder

/-- No model of the error-state filter reports a measurement as out of order. -/
theorem MeasurementModel.apply_ne_outOfOrder (model : MeasurementModel) (m : SensorMeasurement) :
    (model.apply eigen nominal est layout ctx m).2 ≠ .outOfOrder := by
  cases model with
  | aidingSolution o =>
    cases m with
    | aidingSolution m => exact aidingSolutionApply_ne_outOfOrder eigen nominal est layout ctx o m
    | _ => exact rejected_ne_outOfOrder
  | externalOdometry o =>
    cases m with
    | externalOdometry m =>
      exact externalOdometryApply_ne_outOfOrder eigen nominal est layout ctx o m
    | _ => exact rejected_ne_outOfOrder
  | externalPose o =>
    cases m with
    | externalPose m => exact externalPoseApply_ne_outOfOrder eigen nominal est layout ctx o m
    | _ => exact rejected_ne_outOfOrder
  | gnssTightlyCoupled o =>
    cases m with
    | gnssTightlyCoupledEpoch m =>
      exact gnssTightlyCoupledApply_ne_outOfOrder nominal est layout ctx o m
    | _ => exact rejected_ne_outOfOrder
  | _ =>
    -- the others check their measurement and then make one update
    cases m <;> first
      | exact rejected_ne_outOfOrder
      | (simp only [apply, airspeedApply, barometerApply, dvlApply, echoSounderApply,
           externalVelocityApply, gnssLooselyCoupledApply, magnetometerApply, opticalFlowApply,
           radarAltimeterApply, rangeFinderApply, starTrackerApply, wheelOdometryApply,
           bodyVelocityUpdate, applySolution]
         repeat' split
         all_goals first
           | exact ekfUpdate_ne_outOfOrder
           | exact rejected_ne_outOfOrder
           | exact notInitialized_ne_outOfOrder
           | exact accepted_ne_outOfOrder)

end Models

/-! ### What the filters report -/

/-- A filter whose models never report a measurement as out of order reports none but inertial
    samples so. -/
theorem Filter.addMeasurement_ne_outOfOrder {b : Backend} {f f' : Filter b} {m : SensorMeasurement}
    {report : MeasurementUpdateReport}
    (hb : ∀ model m ctx s, (b.apply model m ctx s).2.result ≠ .outOfOrder)
    (hinit : f.initialised = true) (hm : m.isImu = false)
    (h : f.addMeasurement m = some (f', report)) : report.result ≠ .outOfOrder := by
  rw [addMeasurement_of_not_imu f hm, if_neg (by simp [hinit])] at h
  obtain ⟨f₁, -, hdispatch⟩ := Option.map_eq_some_iff.mp h
  have hreport : (f₁.dispatch m).2 = report := congrArg Prod.snd hdispatch
  rw [← hreport]
  cases hfind : f₁.measurementModels.find? (b.canHandle · m) with
  | none =>
    rw [dispatch_of_none hfind]
    exact rejected_ne_outOfOrder
  | some model =>
    by_cases hacc : (b.apply model m { ltp := f₁.localTangentPlane } f₁.state).2.result = .accepted
    · rw [dispatch_of_accepted hfind hacc]
      exact hb model m _ _
    · rw [dispatch_of_not_accepted hfind hacc]
      exact hb model m _ _

/-- No model of the error-state filter reports it. -/
theorem ekfBackend_ne_outOfOrder (eigen : Eigen) (options : EkfOptions) (model : MeasurementModel)
    (m : SensorMeasurement) (ctx : UpdateContext) (s : EkfState options.buildLayout) :
    ((ekfBackend eigen options).apply model m ctx s).2.result ≠ .outOfOrder := by
  have happly := model.apply_ne_outOfOrder eigen s.nominal s.estimate options.buildLayout ctx m
  show (ekfStep eigen model m ctx s).2.result ≠ _
  unfold ekfStep
  dsimp only
  split
  · exact happly
  · exact happly

/-- No model of the unscented filter reports it. -/
theorem ukfBackend_ne_outOfOrder (d : Ukf.Decompositions) (options : Ukf.UkfOptions)
    (model : Ukf.MeasurementModel) (m : SensorMeasurement) (ctx : UpdateContext)
    (s : Ukf.UkfState) :
    ((ukfBackend d options).apply model m ctx s).2.result ≠ .outOfOrder := by
  show (Ukf.applyMeasurementModel d options.sigmaParams model m ctx s).2.result ≠ _
  unfold Ukf.applyMeasurementModel
  split
  · exact rejected_ne_outOfOrder
  · exact accepted_ne_outOfOrder

/-- **A late measurement is never reported.** In no initialised state of either filter does
    `AddMeasurement` answer `OutOfOrder` to a measurement from before the filter time and leave
    the solution as it is. -/
theorem late_never_reported (m : SensorMeasurement) (hm : m.isImu = false) :
    (∀ (eigen : Eigen) (options : EkfOptions) (e : EkfEstimator options),
      e.initialised = true → compareTimestamps m.timestamp e.state.nominal.timestamp = .before →
      ¬ ∃ (e' : EkfEstimator options) (report : MeasurementUpdateReport),
        e.addMeasurement eigen m = some (e', report) ∧ report.result = .outOfOrder ∧
        e'.state.nominal = e.state.nominal ∧
        e'.state.estimate.covariance = e.state.estimate.covariance ∧
        e'.lastAidingTimestamp = e.lastAidingTimestamp) ∧
    (∀ (d : Ukf.Decompositions) (options : Ukf.UkfOptions) (e : Ukf.UkfEstimator options),
      e.initialised = true → compareTimestamps m.timestamp e.state.nominal.timestamp = .before →
      ¬ ∃ (e' : Ukf.UkfEstimator options) (report : MeasurementUpdateReport),
        e.addMeasurement d m = some (e', report) ∧ report.result = .outOfOrder ∧
        e'.state.nominal = e.state.nominal ∧ e'.state.covariance = e.state.covariance ∧
        e'.lastAidingTimestamp = e.lastAidingTimestamp) := by
  constructor
  · rintro eigen options e hinit - ⟨e', report, hadd, hresult, -⟩
    have hadd' : (e.toFilter eigen).addMeasurement m = some (e'.toFilter eigen, report) := by
      rw [EkfEstimator.toFilter_addMeasurement, hadd]
      rfl
    exact Filter.addMeasurement_ne_outOfOrder (ekfBackend_ne_outOfOrder eigen options) hinit hm
      hadd' hresult
  · rintro d options e hinit - ⟨e', report, hadd, hresult, -⟩
    have hadd' : (e.toFilter d).addMeasurement m = some (e'.toFilter d, report) := by
      rw [Ukf.UkfEstimator.toFilter_addMeasurement, hadd]
      rfl
    exact Filter.addMeasurement_ne_outOfOrder (ukfBackend_ne_outOfOrder d options) hinit hm
      hadd' hresult

/-! ### A late barometer -/

/-- A fix of second one. -/
def fixAtOne : GnssSolution where
  timestamp := { steady := { nanosecondsSinceEpoch := 1000000000 }, hasSteady := true }
  fixType := .single

/-- An altitude of second zero. -/
noncomputable def lateAltitude : BarometerMeasurement where
  timestamp := { hasSteady := true }
  altitudeM := some 0

/-- An estimator with a barometer, initialised by that fix. -/
noncomputable def baroEstimator (options : EkfOptions) (baro : BarometerOptions) :
    EkfEstimator options :=
  ((({} : EkfEstimator options).registerMeasurementModel (.barometer baro)).tryInitialiseFromGnss
    fixAtOne).1

/-- An unscented filter, initialised by that fix. -/
noncomputable def baroUkfEstimator (options : Ukf.UkfOptions) : Ukf.UkfEstimator options :=
  (({} : Ukf.UkfEstimator options).tryInitialiseFromGnss fixAtOne).1

/-- Neither filter reports the late altitude. -/
theorem late_never_reported_barometer :
    (¬ ∃ (e' : EkfEstimator {}) (report : MeasurementUpdateReport),
      (baroEstimator {} {}).addMeasurement .exact (.barometer lateAltitude) = some (e', report) ∧
      report.result = .outOfOrder ∧ e'.state.nominal = (baroEstimator {} {}).state.nominal ∧
      e'.state.estimate.covariance = (baroEstimator {} {}).state.estimate.covariance ∧
      e'.lastAidingTimestamp = (baroEstimator {} {}).lastAidingTimestamp) ∧
    (¬ ∃ (e' : Ukf.UkfEstimator {}) (report : MeasurementUpdateReport),
      (baroUkfEstimator {}).addMeasurement .exact (.barometer lateAltitude) = some (e', report) ∧
      report.result = .outOfOrder ∧ e'.state.nominal = (baroUkfEstimator {}).state.nominal ∧
      e'.state.covariance = (baroUkfEstimator {}).state.covariance ∧
      e'.lastAidingTimestamp = (baroUkfEstimator {}).lastAidingTimestamp) :=
  ⟨(late_never_reported (.barometer lateAltitude) rfl).1 .exact {} (baroEstimator {} {}) rfl rfl,
    (late_never_reported (.barometer lateAltitude) rfl).2 .exact {} (baroUkfEstimator {}) rfl rfl⟩

/-- The error-state filter fuses it, at a filter time one second later. -/
theorem late_barometer_fused :
    let e := baroEstimator {} {}
    (EkfEstimator.system .exact {}).Reachable e ∧ e.initialised = true ∧
      compareTimestamps lateAltitude.timestamp e.state.nominal.timestamp = .before ∧
      ∃ (e' : EkfEstimator {}) (report : MeasurementUpdateReport),
        e.addMeasurement .exact (.barometer lateAltitude) = some (e', report) ∧
        report.result = .accepted ∧ e'.lastAidingTimestamp = some lateAltitude.timestamp ∧
        e'.state.nominal.timestamp = fixAtOne.timestamp := by
  intro e
  have hreach : (EkfEstimator.system .exact {}).Reachable e :=
    .step (.step (.init rfl) (.registerMeasurementModel {} (.barometer {})))
      (.addMeasurement _ _ (.gnssSolution fixAtOne) _ rfl)
  have hfind : e.measurementModels.find? (·.canHandle (.barometer lateAltitude))
      = some (.barometer {}) := rfl
  -- the gate is off by default, so the update accepts
  have haccepted : ((MeasurementModel.barometer {}).apply .exact e.state.nominal
      e.state.estimate ({} : EkfOptions).buildLayout
      { ltp := e.localTangentPlane } (.barometer lateAltitude)).2 = .accepted := by
    show (barometerApply .exact {} _ _ _ lateAltitude).2 = _
    have hgate : ¬ (0 : ℝ) < ({} : BarometerOptions).innovationGate := lt_irrefl _
    rw [barometerApply, if_neg (by simp [lateAltitude])]
    show (ekfUpdate _ _ _ _ _ _).2 = _
    rw [ekfUpdate, if_neg fun h => hgate h.1]
  have hdispatch : e.dispatch .exact (.barometer lateAltitude) = _ :=
    EkfEstimator.dispatch_eq_ekfStep hfind
  rw [ekfStep_of_accepted (Prod.ext rfl haccepted)] at hdispatch
  refine ⟨hreach, rfl, rfl, (e.dispatch .exact (.barometer lateAltitude)).1,
    (e.dispatch .exact (.barometer lateAltitude)).2, rfl, ?_, ?_, ?_⟩
  · rw [hdispatch]
    rfl
  · rw [hdispatch]
    rfl
  · rw [hdispatch]
    rfl

end FalconGuide
