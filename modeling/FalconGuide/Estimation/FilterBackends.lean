import FalconGuide.Ekf.Estimator
import FalconGuide.Estimation.SequentialFilter
import FalconGuide.Ukf.Estimator

namespace FalconGuide

/-!
# The two filters as backends

* `ekfBackend`, `EkfEstimator.toFilter` — the error-state filter;
* `ukfBackend`, `UkfEstimator.toFilter` — the unscented filter;
* `toFilter_addMeasurement`, `toFilter_processUntil`, `embedding` — the calls of either estimator
  are those of the filter that both share.
-/

/-! ### The error-state filter -/

/-- The error-state filter as a backend. -/
noncomputable def ekfBackend (eigen : Eigen) (options : EkfOptions) : Backend where
  State := EkfState options.buildLayout
  Model := MeasurementModel
  initName := "GnssLooselyCoupled"
  minImuDtS := options.minImuDtS
  maxImuDtS := options.maxImuDtS
  blank := {}
  timestamp s := s.nominal.timestamp
  setTimestamp s timestamp := { s with nominal := { s.nominal with timestamp } }
  propagateImu := propagateImu options
  initialise s R gnss :=
    { nominal := initialNominal options.buildLayout s.nominal R gnss
      estimate := { errorState := 0, covariance := initialCovariance options.buildLayout R gnss } }
  canHandle := MeasurementModel.canHandle
  apply model m ctx s := ekfStep eigen model m ctx s

section Ekf

variable {eigen : Eigen} {options : EkfOptions}

/-- The loop over a gap. -/
theorem ekfBackend_gapLoop_apply (imu : ImuMeasurement) (fuel : ℕ)
    (s : EkfState options.buildLayout) (remaining : ℝ) :
    (ekfBackend eigen options).gapLoop imu fuel s remaining
      = gapLoop options imu fuel s remaining := by
  induction fuel generalizing s remaining with
  | zero => rfl
  | succ fuel ih =>
    rw [gapLoop_succ, ← ih]
    exact Backend.gapLoop_succ (ekfBackend eigen options) imu fuel s remaining

theorem ekfBackend_gapLoop : (ekfBackend eigen options).gapLoop = gapLoop options :=
  funext fun imu => funext fun fuel => funext fun s => funext fun remaining =>
    ekfBackend_gapLoop_apply imu fuel s remaining

/-- One popped sample. -/
theorem ekfBackend_propagateSample :
    (ekfBackend eigen options).propagateSample = propagateSample options := by
  funext s imu
  simp only [Backend.propagateSample, ekfBackend_gapLoop]
  rfl

namespace EkfEstimator

/-- The error-state filter as a filter over its backend. -/
noncomputable def toFilter (eigen : Eigen) (e : EkfEstimator options) :
    Filter (ekfBackend eigen options) where
  initialised := e.initialised
  state := e.state
  measurementModels := e.measurementModels
  imuBuffer := e.imuBuffer
  lastAidingTimestamp := e.lastAidingTimestamp
  localTangentPlane := e.localTangentPlane

/-- An estimator is no more than its filter. -/
theorem toFilter_injective :
    Function.Injective (toFilter eigen : EkfEstimator options → Filter _) := by
  intro e e' h
  cases e
  cases e'
  cases h
  rfl

theorem toFilter_propagateTo (e : EkfEstimator options) (target : Timestamp) :
    (e.toFilter eigen).propagateTo target = (e.propagateTo target).map (toFilter eigen) := by
  simp only [Filter.propagateTo, propagateTo, ekfBackend_propagateSample, Option.map_map]
  rfl

theorem toFilter_dispatch (e : EkfEstimator options) (m : SensorMeasurement) :
    (e.toFilter eigen).dispatch m
      = ((e.dispatch eigen m).1.toFilter eigen, (e.dispatch eigen m).2) := by
  cases hfind : e.measurementModels.find? (·.canHandle m) with
  | none =>
    have hdispatch : e.dispatch eigen m = (e, { result := .rejected }) := by
      simp only [dispatch, hfind]
    rw [hdispatch]
    exact Filter.dispatch_of_none hfind
  | some model =>
    have hdispatch := @dispatch_eq_ekfStep options eigen e model m hfind
    by_cases hacc : (ekfStep eigen model m { ltp := e.localTangentPlane } e.state).2.result
        = .accepted
    · simp only [if_pos hacc] at hdispatch
      rw [hdispatch]
      exact Filter.dispatch_of_accepted hfind hacc
    · simp only [if_neg hacc] at hdispatch
      rw [hdispatch]
      exact Filter.dispatch_of_not_accepted hfind hacc

theorem toFilter_tryInitialiseFromGnss (e : EkfEstimator options) (gnss : GnssSolution) :
    (e.toFilter eigen).tryInitialiseFromGnss gnss
      = ((e.tryInitialiseFromGnss gnss).1.toFilter eigen, (e.tryInitialiseFromGnss gnss).2) := by
  simp only [Filter.tryInitialiseFromGnss, tryInitialiseFromGnss]
  split
  · rfl
  · split
    · rfl
    · rfl

/-- **`AddMeasurement`** of the error-state filter is that of the shared filter. -/
theorem toFilter_addMeasurement (e : EkfEstimator options) (m : SensorMeasurement) :
    (e.toFilter eigen).addMeasurement m
      = (e.addMeasurement eigen m).map fun r => (r.1.toFilter eigen, r.2) := by
  by_cases hm : m.isImu = true
  · cases m with
    | imu imu => rfl
    | _ => cases hm
  · have hnot : m.isImu = false := by simpa using hm
    rw [Filter.addMeasurement_of_not_imu _ hnot]
    by_cases hinit : e.initialised = true
    · have hadd : e.addMeasurement eigen m
          = (e.propagateTo m.timestamp).map fun e => e.dispatch eigen m := by
        cases m with
        | imu imu => cases hnot
        | _ => exact if_neg (by simp [hinit])
      rw [hadd, if_neg (by simp [toFilter, hinit]), toFilter_propagateTo, Option.map_map,
        Option.map_map]
      simp only [Function.comp_def, toFilter_dispatch]
    · have hearly : (!e.initialised) = true := by simpa using hinit
      -- only a GNSS solution can do anything to an uninitialised estimator
      have hidle (hm : ∀ gnss, m ≠ .gnssSolution gnss) :
          e.addMeasurement eigen m = some (e, { result := .notInitialized }) := by
        cases m with
        | imu imu => cases hnot
        | gnssSolution gnss => exact absurd rfl (hm gnss)
        | _ => exact if_pos hearly
      rw [if_pos (by simpa [toFilter] using hinit)]
      cases m with
      | imu imu => cases hnot
      | gnssSolution gnss =>
        have hadd : e.addMeasurement eigen (.gnssSolution gnss)
            = some ((e.tryInitialiseFromGnss gnss).1,
              { result := if (e.tryInitialiseFromGnss gnss).2 then .accepted else .rejected
                modelName := "GnssLooselyCoupled" }) := if_pos hearly
        rw [hadd]
        simp only [Filter.addEarly, toFilter_tryInitialiseFromGnss]
        rfl
      | _ =>
        rw [hidle fun gnss => SensorMeasurement.noConfusion]
        rfl

/-- **`ProcessUntil`** of the error-state filter is that of the shared filter. -/
theorem toFilter_processUntil (e : EkfEstimator options) (timestamp : Timestamp) :
    (e.toFilter eigen).processUntil timestamp
      = (e.processUntil timestamp).map fun r => (r.1.toFilter eigen, r.2) := by
  by_cases hinit : e.initialised = true
  · rw [Filter.processUntil, processUntil, if_neg (by simp [toFilter, hinit]),
      if_neg (by simp [hinit]), toFilter_propagateTo, Option.map_map, Option.map_map]
    rfl
  · rw [Filter.processUntil, processUntil, if_pos (by simpa [toFilter] using hinit),
      if_pos (by simpa using hinit)]
    rfl

/-! #### Its calls -/

/-- A call of the estimator as a call of the shared filter. -/
def Call.toFilter : Call → Filter.Call (ekfBackend eigen options).Model
  | .registerMeasurementModel model => .registerMeasurementModel model
  | .addMeasurement m => .addMeasurement m
  | .processUntil timestamp => .processUntil timestamp
  | .reset => .reset

theorem toFilter_step {e e' : EkfEstimator options} {k : Call} (h : Step eigen e k e') :
    (e.toFilter eigen).call k.toFilter = some (e'.toFilter eigen) := by
  cases h with
  | registerMeasurementModel model => rfl
  | addMeasurement _ m report h =>
    show ((e.toFilter eigen).addMeasurement m).map Prod.fst = _
    rw [toFilter_addMeasurement, h]
    rfl
  | processUntil _ timestamp result h =>
    show ((e.toFilter eigen).processUntil timestamp).map Prod.fst = _
    rw [toFilter_processUntil, h]
    rfl
  | reset => rfl

/-- A call of the shared filter that returns is a step of the estimator. -/
theorem exists_step {e : EkfEstimator options} {k : Call} {f : Filter (ekfBackend eigen options)}
    (h : (e.toFilter eigen).call k.toFilter = some f) :
    ∃ e', Step eigen e k e' ∧ e'.toFilter eigen = f := by
  cases k with
  | registerMeasurementModel model =>
    cases h
    exact ⟨_, .registerMeasurementModel e model, rfl⟩
  | addMeasurement m =>
    obtain ⟨⟨f', report⟩, hadd, rfl⟩ := Option.map_eq_some_iff.mp h
    rw [toFilter_addMeasurement] at hadd
    obtain ⟨⟨e', report'⟩, hadd', heq⟩ := Option.map_eq_some_iff.mp hadd
    cases heq
    exact ⟨e', .addMeasurement e e' m report' hadd', rfl⟩
  | processUntil timestamp =>
    obtain ⟨⟨f', result⟩, hproc, rfl⟩ := Option.map_eq_some_iff.mp h
    rw [toFilter_processUntil] at hproc
    obtain ⟨⟨e', result'⟩, hproc', heq⟩ := Option.map_eq_some_iff.mp hproc
    cases heq
    exact ⟨e', .processUntil e e' timestamp result' hproc', rfl⟩
  | reset =>
    cases h
    exact ⟨_, .reset e, rfl⟩

/-- The error-state filter in the shared one. -/
noncomputable def embedding (eigen : Eigen) (options : EkfOptions) :
    Embedding (system eigen options) (ekfBackend eigen options) where
  toFilter := toFilter eigen
  toCall := Call.toFilter
  step := toFilter_step
  exists_step := exists_step

end EkfEstimator

end Ekf

/-! ### The unscented filter -/

/-- The unscented filter as a backend. -/
noncomputable def ukfBackend (d : Ukf.Decompositions) (options : Ukf.UkfOptions) : Backend where
  State := Ukf.UkfState
  Model := Ukf.MeasurementModel
  initName := "UkfGnssLooselyCoupled"
  minImuDtS := options.minImuDtS
  maxImuDtS := options.maxImuDtS
  blank := {}
  timestamp s := s.nominal.timestamp
  setTimestamp s timestamp := { s with nominal := { s.nominal with timestamp } }
  propagateImu := Ukf.propagateImu d options
  initialise _ R gnss :=
    { nominal :=
        { timestamp := gnss.timestamp
          velocityEnuMps := Matrix.mulVec R gnss.velocityEcefMps }
      covariance := Ukf.initialCovariance R gnss
      sigmaPoints := 0 }
  canHandle := Ukf.MeasurementModel.canHandle
  apply model m ctx s := Ukf.applyMeasurementModel d options.sigmaParams model m ctx s

namespace Ukf

variable {d : Decompositions} {options : UkfOptions}

/-- The loop over a gap. -/
theorem ukfBackend_gapLoop_apply (imu : ImuMeasurement) (fuel : ℕ) (s : UkfState)
    (remaining : ℝ) :
    (ukfBackend d options).gapLoop imu fuel s remaining
      = gapLoop d options imu fuel s remaining := by
  induction fuel generalizing s remaining with
  | zero => rfl
  | succ fuel ih =>
    rw [gapLoop_succ, ← ih]
    exact Backend.gapLoop_succ (ukfBackend d options) imu fuel s remaining

theorem ukfBackend_gapLoop : (ukfBackend d options).gapLoop = gapLoop d options :=
  funext fun imu => funext fun fuel => funext fun s => funext fun remaining =>
    ukfBackend_gapLoop_apply imu fuel s remaining

/-- One popped sample. -/
theorem ukfBackend_propagateSample :
    (ukfBackend d options).propagateSample = propagateSample d options := by
  funext s imu
  simp only [Backend.propagateSample, ukfBackend_gapLoop]
  rfl

namespace UkfEstimator

/-- The unscented filter as a filter over its backend. -/
noncomputable def toFilter (d : Decompositions) (e : UkfEstimator options) :
    Filter (ukfBackend d options) where
  initialised := e.initialised
  state := e.state
  measurementModels := e.measurementModels
  imuBuffer := e.imuBuffer
  lastAidingTimestamp := e.lastAidingTimestamp
  localTangentPlane := e.localTangentPlane

theorem toFilter_injective :
    Function.Injective (toFilter d : UkfEstimator options → Filter _) := by
  intro e e' h
  cases e
  cases e'
  cases h
  rfl

theorem toFilter_propagateTo (e : UkfEstimator options) (target : Timestamp) :
    (e.toFilter d).propagateTo target = (e.propagateTo d target).map (toFilter d) := by
  simp only [Filter.propagateTo, propagateTo, ukfBackend_propagateSample, Option.map_map]
  rfl

theorem toFilter_dispatch (e : UkfEstimator options) (m : SensorMeasurement) :
    (e.toFilter d).dispatch m = ((e.dispatch d m).1.toFilter d, (e.dispatch d m).2) := by
  cases hfind : e.measurementModels.find? (·.canHandle m) with
  | none =>
    have hdispatch : e.dispatch d m = (e, { result := .rejected }) := by
      simp only [dispatch, hfind]
    rw [hdispatch]
    exact Filter.dispatch_of_none hfind
  | some model =>
    by_cases hacc : (applyMeasurementModel d options.sigmaParams model m
        { ltp := e.localTangentPlane } e.state).2.result = .accepted
    · simp only [dispatch, hfind, if_pos hacc]
      exact Filter.dispatch_of_accepted hfind hacc
    · simp only [dispatch, hfind, if_neg hacc]
      exact Filter.dispatch_of_not_accepted hfind hacc

theorem toFilter_tryInitialiseFromGnss (e : UkfEstimator options) (gnss : GnssSolution) :
    (e.toFilter d).tryInitialiseFromGnss gnss
      = ((e.tryInitialiseFromGnss gnss).1.toFilter d, (e.tryInitialiseFromGnss gnss).2) := by
  simp only [Filter.tryInitialiseFromGnss, tryInitialiseFromGnss]
  split
  · rfl
  · split
    · rfl
    · rfl

/-- **`AddMeasurement`** of the unscented filter is that of the shared filter. -/
theorem toFilter_addMeasurement (e : UkfEstimator options) (m : SensorMeasurement) :
    (e.toFilter d).addMeasurement m
      = (e.addMeasurement d m).map fun r => (r.1.toFilter d, r.2) := by
  by_cases hm : m.isImu = true
  · cases m with
    | imu imu => rfl
    | _ => cases hm
  · have hnot : m.isImu = false := by simpa using hm
    rw [Filter.addMeasurement_of_not_imu _ hnot]
    by_cases hinit : e.initialised = true
    · have hadd : e.addMeasurement d m
          = (e.propagateTo d m.timestamp).map fun e => e.dispatch d m := by
        cases m with
        | imu imu => cases hnot
        | _ => exact if_neg (by simp [hinit])
      rw [hadd, if_neg (by simp [toFilter, hinit]), toFilter_propagateTo, Option.map_map,
        Option.map_map]
      simp only [Function.comp_def, toFilter_dispatch]
    · have hearly : (!e.initialised) = true := by simpa using hinit
      -- only a GNSS solution can do anything to an uninitialised estimator
      have hidle (hm : ∀ gnss, m ≠ .gnssSolution gnss) :
          e.addMeasurement d m = some (e, { result := .notInitialized }) := by
        cases m with
        | imu imu => cases hnot
        | gnssSolution gnss => exact absurd rfl (hm gnss)
        | _ => exact if_pos hearly
      rw [if_pos (by simpa [toFilter] using hinit)]
      cases m with
      | imu imu => cases hnot
      | gnssSolution gnss =>
        have hadd : e.addMeasurement d (.gnssSolution gnss)
            = some ((e.tryInitialiseFromGnss gnss).1,
              { result := if (e.tryInitialiseFromGnss gnss).2 then .accepted else .rejected
                modelName := "UkfGnssLooselyCoupled" }) := if_pos hearly
        rw [hadd]
        simp only [Filter.addEarly, toFilter_tryInitialiseFromGnss]
        rfl
      | _ =>
        rw [hidle fun gnss => SensorMeasurement.noConfusion]
        rfl

/-- **`ProcessUntil`** of the unscented filter is that of the shared filter. -/
theorem toFilter_processUntil (e : UkfEstimator options) (timestamp : Timestamp) :
    (e.toFilter d).processUntil timestamp
      = (e.processUntil d timestamp).map fun r => (r.1.toFilter d, r.2) := by
  by_cases hinit : e.initialised = true
  · rw [Filter.processUntil, processUntil, if_neg (by simp [toFilter, hinit]),
      if_neg (by simp [hinit]), toFilter_propagateTo, Option.map_map, Option.map_map]
    rfl
  · rw [Filter.processUntil, processUntil, if_pos (by simpa [toFilter] using hinit),
      if_pos (by simpa using hinit)]
    rfl

/-! #### Its calls -/

/-- A call of the estimator as a call of the shared filter. -/
def Call.toFilter : Call → Filter.Call (ukfBackend d options).Model
  | .registerMeasurementModel model => .registerMeasurementModel model
  | .addMeasurement m => .addMeasurement m
  | .processUntil timestamp => .processUntil timestamp
  | .reset => .reset

theorem toFilter_step {e e' : UkfEstimator options} {k : Call} (h : Step d e k e') :
    (e.toFilter d).call k.toFilter = some (e'.toFilter d) := by
  cases h with
  | registerMeasurementModel model => rfl
  | addMeasurement _ m report h =>
    show ((e.toFilter d).addMeasurement m).map Prod.fst = _
    rw [toFilter_addMeasurement, h]
    rfl
  | processUntil _ timestamp result h =>
    show ((e.toFilter d).processUntil timestamp).map Prod.fst = _
    rw [toFilter_processUntil, h]
    rfl
  | reset => rfl

/-- A call of the shared filter that returns is a step of the estimator. -/
theorem exists_step {e : UkfEstimator options} {k : Call} {f : Filter (ukfBackend d options)}
    (h : (e.toFilter d).call k.toFilter = some f) :
    ∃ e', Step d e k e' ∧ e'.toFilter d = f := by
  cases k with
  | registerMeasurementModel model =>
    cases h
    exact ⟨_, .registerMeasurementModel e model, rfl⟩
  | addMeasurement m =>
    obtain ⟨⟨f', report⟩, hadd, rfl⟩ := Option.map_eq_some_iff.mp h
    rw [toFilter_addMeasurement] at hadd
    obtain ⟨⟨e', report'⟩, hadd', heq⟩ := Option.map_eq_some_iff.mp hadd
    cases heq
    exact ⟨e', .addMeasurement e e' m report' hadd', rfl⟩
  | processUntil timestamp =>
    obtain ⟨⟨f', result⟩, hproc, rfl⟩ := Option.map_eq_some_iff.mp h
    rw [toFilter_processUntil] at hproc
    obtain ⟨⟨e', result'⟩, hproc', heq⟩ := Option.map_eq_some_iff.mp hproc
    cases heq
    exact ⟨e', .processUntil e e' timestamp result' hproc', rfl⟩
  | reset =>
    cases h
    exact ⟨_, .reset e, rfl⟩

/-- The unscented filter in the shared one. -/
noncomputable def embedding (d : Decompositions) (options : UkfOptions) :
    Embedding (system d options) (ukfBackend d options) where
  toFilter := toFilter d
  toCall := Call.toFilter
  step := toFilter_step
  exists_step := exists_step

end UkfEstimator

end Ukf

end FalconGuide
