import FalconGuide.Ekf.Estimator

namespace FalconGuide

open Lib

/-!
# Propagation to a time, and the cases of a call

The two loops of `PropagateTo`, over the popped samples and over the steps that split a gap, and
what `AddMeasurement` can do.

* `KeptByPropagation` — a property of the estimate that `propagateImu` keeps;
* `EkfEstimator.propagateTo_keeps` — `PropagateTo` keeps it too;
* `EkfEstimator.propagateTo_isSome` — with a positive `maxImuDtS` both loops end;
* `EkfEstimator.Added` — the cases of `AddMeasurement`.
-/

variable {options : EkfOptions} {layout : StateLayout}

/-! ### What both loops keep -/

/-- A property of the estimate that every step of propagation keeps; with a positive `maxImuDtS`
    no step goes backwards in time. -/
def KeptByPropagation (options : EkfOptions) (layout : StateLayout)
    (I : Estimate layout.totalSize → Prop) : Prop :=
  ∀ (s : EkfState layout) (imu : ImuMeasurement) (dt : ℝ), (0 < options.maxImuDtS → 0 ≤ dt) →
    I s.estimate → I (propagateImu options s imu dt).estimate

section Keeps

variable {I : Estimate layout.totalSize → Prop} {s s' : EkfState layout} {imu : ImuMeasurement}

/-- The steps of a gap. -/
theorem gapLoop_keeps (hI : KeptByPropagation options layout I) {fuel : ℕ} {remaining : ℝ}
    (h : gapLoop options imu fuel s remaining = some s') (hs : I s.estimate) : I s'.estimate := by
  induction fuel generalizing s remaining with
  | zero =>
    unfold gapLoop at h
    split at h
    · cases h
    · cases h
      exact hs
  | succ fuel ih =>
    unfold gapLoop at h
    split at h
    · rename_i hpos
      exact ih h (hI s imu _ (fun hmax => (lt_min hpos hmax).le) hs)
    · cases h
      exact hs

/-- One popped sample. -/
theorem propagateSample_keeps (hI : KeptByPropagation options layout I)
    (h : propagateSample options s imu = some s') (hs : I s.estimate) : I s'.estimate := by
  unfold propagateSample at h
  split at h
  · cases h
    exact hs
  · split at h
    · cases h
      exact hs
    · replace h : (if _ then _ else _ : Option (EkfState layout)) = some s' := h
      split at h
      · cases h
        exact hs
      · obtain ⟨t, ht, rfl⟩ := Option.map_eq_some_iff.mp h
        have hgap : I t.estimate := gapLoop_keeps hI ht hs
        exact hgap

/-- All popped samples. -/
theorem foldlM_propagateSample_keeps (hI : KeptByPropagation options layout I)
    {batch : List ImuMeasurement} (h : batch.foldlM (propagateSample options) s = some s')
    (hs : I s.estimate) : I s'.estimate := by
  induction batch generalizing s with
  | nil =>
    cases h
    exact hs
  | cons imu batch ih =>
    rw [List.foldlM_cons] at h
    obtain ⟨t, ht, hrest⟩ := Option.bind_eq_some_iff.mp h
    exact ih hrest (propagateSample_keeps hI ht hs)

/-! ### Steps that are not positive -/

/-- Without a positive `maxImuDtS` no sample that is propagated returns. -/
theorem propagateSample_estimate (hmax : options.maxImuDtS ≤ 0)
    (h : propagateSample options s imu = some s') : s'.estimate = s.estimate := by
  unfold propagateSample at h
  split at h
  · cases h
    rfl
  · split at h
    · cases h
      rfl
    · rename_i difference _
      replace h : (if _ then _ else _ : Option (EkfState layout)) = some s' := h
      split at h
      · cases h
        rfl
      · obtain ⟨t, ht, rfl⟩ := Option.map_eq_some_iff.mp h
        unfold gapLoop at ht
        split at ht
        · rename_i hpos
          have hfuel : ⌈(difference.seconds : ℝ) / options.maxImuDtS⌉₊ = 0 :=
            Nat.ceil_eq_zero.mpr (div_nonpos_of_nonneg_of_nonpos hpos.le hmax)
          rw [hfuel] at ht
          cases ht
        · cases ht
          rfl

/-- So the estimate stays as it is. -/
theorem foldlM_propagateSample_estimate (hmax : options.maxImuDtS ≤ 0)
    {batch : List ImuMeasurement} (h : batch.foldlM (propagateSample options) s = some s') :
    s'.estimate = s.estimate := by
  induction batch generalizing s with
  | nil =>
    cases h
    rfl
  | cons imu batch ih =>
    rw [List.foldlM_cons] at h
    obtain ⟨t, ht, hrest⟩ := Option.bind_eq_some_iff.mp h
    rw [ih hrest, propagateSample_estimate hmax ht]

end Keeps

/-! ### Both loops end -/

/-- `fuel` steps cover a gap of `fuel` times `maxImuDtS`. -/
theorem gapLoop_isSome (hmax : 0 < options.maxImuDtS) {imu : ImuMeasurement} {fuel : ℕ}
    {s : EkfState layout} {remaining : ℝ} (h : remaining ≤ fuel * options.maxImuDtS) :
    (gapLoop options imu fuel s remaining).isSome := by
  induction fuel generalizing s remaining with
  | zero =>
    have hle : ¬ 0 < remaining := by simpa using h
    unfold gapLoop
    rw [if_neg hle]
    rfl
  | succ fuel ih =>
    unfold gapLoop
    split
    · refine ih ?_
      have hfuel : 0 ≤ (fuel : ℝ) * options.maxImuDtS := by positivity
      rw [Nat.cast_succ, add_mul, one_mul] at h
      -- either the step covers what remains, or it is a full step
      rcases min_cases remaining options.maxImuDtS with ⟨hmin, -⟩ | ⟨hmin, -⟩
      · linarith
      · linarith
    · rfl

/-- One sample is propagated in finitely many steps. -/
theorem propagateSample_isSome (hmax : 0 < options.maxImuDtS) (imu : ImuMeasurement)
    (s : EkfState layout) : (propagateSample options s imu).isSome := by
  unfold propagateSample
  split
  · rfl
  · split
    · rfl
    · show (ite _ _ _ : Option (EkfState layout)).isSome
      split
      · rfl
      · rw [Option.isSome_map]
        exact gapLoop_isSome hmax ((div_le_iff₀ hmax).mp (Nat.le_ceil _))

/-- And so are all popped samples. -/
theorem foldlM_propagateSample_isSome (hmax : 0 < options.maxImuDtS)
    (batch : List ImuMeasurement) (s : EkfState layout) :
    (batch.foldlM (propagateSample options) s).isSome := by
  induction batch generalizing s with
  | nil => rfl
  | cons imu batch ih =>
    obtain ⟨t, ht⟩ := Option.isSome_iff_exists.mp (propagateSample_isSome hmax imu s)
    rw [List.foldlM_cons, ht]
    exact ih t

/-! ### `PropagateTo` -/

namespace EkfEstimator

/-- Everything but the state and the buffer is as it was. -/
structure SameSetup (e e' : EkfEstimator options) : Prop where
  initialised : e'.initialised = e.initialised
  measurementModels : e'.measurementModels = e.measurementModels
  lastAidingTimestamp : e'.lastAidingTimestamp = e.lastAidingTimestamp
  localTangentPlane : e'.localTangentPlane = e.localTangentPlane

/-- **`PropagateTo`.** It keeps what every step of propagation keeps. -/
theorem propagateTo_keeps {I : Estimate options.buildLayout.totalSize → Prop}
    (hI : KeptByPropagation options options.buildLayout I) {e e' : EkfEstimator options}
    {target : Timestamp} (h : e.propagateTo target = some e') (he : I e.state.estimate) :
    I e'.state.estimate := by
  obtain ⟨state, hstate, rfl⟩ := Option.map_eq_some_iff.mp h
  exact foldlM_propagateSample_keeps hI hstate he

/-- It keeps what every step of propagation keeps that is not backwards in time, with any
    `maxImuDtS`. -/
theorem propagateTo_keeps_of_nonneg {I : Estimate options.buildLayout.totalSize → Prop}
    (hI : ∀ (s : EkfState options.buildLayout) (imu : ImuMeasurement) (dt : ℝ), 0 ≤ dt →
      I s.estimate → I (propagateImu options s imu dt).estimate)
    {e e' : EkfEstimator options} {target : Timestamp} (h : e.propagateTo target = some e')
    (he : I e.state.estimate) : I e'.state.estimate := by
  by_cases hmax : 0 < options.maxImuDtS
  · exact propagateTo_keeps (fun s imu dt hdt => hI s imu dt (hdt hmax)) h he
  · obtain ⟨state, hstate, rfl⟩ := Option.map_eq_some_iff.mp h
    have hsame := foldlM_propagateSample_estimate (not_lt.mp hmax) hstate
    rwa [← hsame] at he

/-- It changes the state and the buffer only. -/
theorem propagateTo_sameSetup {e e' : EkfEstimator options} {target : Timestamp}
    (h : e.propagateTo target = some e') : e.SameSetup e' := by
  obtain ⟨state, hstate, rfl⟩ := Option.map_eq_some_iff.mp h
  exact ⟨rfl, rfl, rfl, rfl⟩

/-- `PropagateTo` returns. -/
theorem propagateTo_isSome (hmax : 0 < options.maxImuDtS) (e : EkfEstimator options)
    (target : Timestamp) : (e.propagateTo target).isSome := by
  unfold propagateTo
  show (Option.map _ _).isSome
  rw [Option.isSome_map]
  exact foldlM_propagateSample_isSome hmax _ _

/-! ### The cases of a dispatch -/

/-- A model, applied to the state of the estimator. -/
noncomputable def applyModel (eigen : Eigen) (e : EkfEstimator options) (model : MeasurementModel)
    (m : SensorMeasurement) : Estimate options.buildLayout.totalSize × EstimatorUpdateResult :=
  model.apply eigen e.state.nominal e.state.estimate options.buildLayout
    { ltp := e.localTangentPlane } m

/-- `Dispatched eigen e m e' report`: the models turn `e` into `e'` and report `report`. -/
inductive Dispatched (eigen : Eigen) (e : EkfEstimator options) (m : SensorMeasurement) :
    EkfEstimator options → MeasurementUpdateReport → Prop
  /-- No model can handle the measurement. -/
  | unmatched (hfind : e.measurementModels.find? (·.canHandle m) = none) :
      Dispatched eigen e m e { result := .rejected }
  /-- The correction is injected. -/
  | accepted (model : MeasurementModel) (estimate : Estimate options.buildLayout.totalSize)
      (hfind : e.measurementModels.find? (·.canHandle m) = some model)
      (happly : e.applyModel eigen model m = (estimate, .accepted)) :
      Dispatched eigen e m
        { e with
          state := injectErrorAndReset { e.state with estimate }
          lastAidingTimestamp := some m.timestamp }
        { result := .accepted
          modelName := model.name
          correctionNorm := some (euclideanNorm estimate.errorState) }
  /-- Whatever the model made of the estimate stays. -/
  | refused (model : MeasurementModel) (estimate : Estimate options.buildLayout.totalSize)
      (result : EstimatorUpdateResult)
      (hfind : e.measurementModels.find? (·.canHandle m) = some model)
      (happly : e.applyModel eigen model m = (estimate, result)) (hresult : result ≠ .accepted) :
      Dispatched eigen e m { e with state := { e.state with estimate } }
        { result, modelName := model.name }

/-- A dispatch does one of these. -/
theorem dispatched_dispatch (eigen : Eigen) (e : EkfEstimator options) (m : SensorMeasurement) :
    Dispatched eigen e m (e.dispatch eigen m).1 (e.dispatch eigen m).2 := by
  unfold dispatch
  cases hfind : e.measurementModels.find? (·.canHandle m) with
  | none => exact .unmatched hfind
  | some model =>
    by_cases hacc : (e.applyModel eigen model m).2 = .accepted
    · have happly : e.applyModel eigen model m = ((e.applyModel eigen model m).1, .accepted) := by
        rw [← hacc]
      have hcase := Dispatched.accepted model _ hfind happly
      simp only [applyModel] at hacc hcase
      simp only [hacc, if_true]
      exact hcase
    · have hcase := Dispatched.refused model _ _ hfind
        (rfl : e.applyModel eigen model m = (_, (e.applyModel eigen model m).2)) hacc
      simp only [applyModel] at hacc hcase
      simp only [hacc, if_false]
      exact hcase

/-! ### The cases of `AddMeasurement` -/

/-- `TryInitialiseFromGnss` does nothing, or takes the local frame and the state from the fix. -/
theorem tryInitialiseFromGnss_cases (e : EkfEstimator options) (gnss : GnssSolution) :
    (e.tryInitialiseFromGnss gnss).1 = e ∨
    ∃ ltp nominal, ltp = LocalTangentPlane.make (ecefToLla gnss.positionEcefM) ∧
      (e.tryInitialiseFromGnss gnss).1
        = { e with
            localTangentPlane := some ltp
            state :=
              { nominal
                estimate :=
                  { errorState := 0
                    covariance :=
                      initialCovariance options.buildLayout ltp.ecefToEnuRotation gnss } }
            initialised := true } := by
  unfold tryInitialiseFromGnss
  split
  · exact .inl rfl
  · split
    · exact .inl rfl
    · exact .inr ⟨_, _, rfl, rfl⟩

/-- A fix that is not valid, or is none, initialises nothing. -/
theorem tryInitialiseFromGnss_of_unusable (e : EkfEstimator options) {gnss : GnssSolution}
    (h : ¬ (gnss.fixType ≠ .noFix ∧ gnss.validity = .valid)) :
    (e.tryInitialiseFromGnss gnss).1 = e := by
  unfold tryInitialiseFromGnss
  split
  · rfl
  · rename_i hfix
    rw [if_pos fun hvalid => h ⟨hfix, hvalid⟩]

/-- `ProcessUntil` does nothing, or propagates. -/
theorem processUntil_cases {e e' : EkfEstimator options} {timestamp : Timestamp}
    {result : EstimatorUpdateResult} (h : e.processUntil timestamp = some (e', result)) :
    e' = e ∨ e.propagateTo timestamp = some e' := by
  unfold processUntil at h
  split at h
  · cases h
    exact .inl rfl
  · obtain ⟨e₁, he₁, heq⟩ := Option.map_eq_some_iff.mp h
    cases heq
    exact .inr he₁

/-- `Added eigen e m e' report`: with `m` the estimator `e` becomes `e'` and reports `report`. -/
inductive Added (eigen : Eigen) (e : EkfEstimator options) :
    SensorMeasurement → EkfEstimator options → MeasurementUpdateReport → Prop
  /-- A sample of the inertial unit is buffered, or does not fit in. -/
  | buffered (imu : ImuMeasurement) (imuBuffer : TimeOrderedBuffer ImuMeasurement)
      (result : EstimatorUpdateResult) (h : result ≠ .accepted) :
      Added eigen e (.imu imu) { e with imuBuffer } { result }
  /-- A GNSS solution may initialise the estimator. -/
  | initialise (gnss : GnssSolution) (modelName : String) (hinit : e.initialised = false) :
      Added eigen e (.gnssSolution gnss) (e.tryInitialiseFromGnss gnss).1
        { result := if (e.tryInitialiseFromGnss gnss).2 then .accepted else .rejected, modelName }
  /-- Any other measurement is too early. -/
  | early (m : SensorMeasurement) (hinit : e.initialised = false) :
      Added eigen e m e { result := .notInitialized }
  /-- Once initialised, the estimator propagates and dispatches. -/
  | dispatched (m : SensorMeasurement) (e₁ e' : EkfEstimator options)
      (report : MeasurementUpdateReport) (hinit : e.initialised = true) (himu : m.isImu = false)
      (h : e.propagateTo m.timestamp = some e₁) (hdispatch : Dispatched eigen e₁ m e' report) :
      Added eigen e m e' report

/-- `AddMeasurement` does one of these. -/
theorem added_of_addMeasurement {eigen : Eigen} {e e' : EkfEstimator options}
    {m : SensorMeasurement} {report : MeasurementUpdateReport}
    (h : e.addMeasurement eigen m = some (e', report)) : Added eigen e m e' report := by
  unfold addMeasurement at h
  split at h
  · cases h
    have hne : ∀ (c : Prop) [Decidable c],
        (if c then EstimatorUpdateResult.outOfOrder else .buffered) ≠ .accepted := by
      intro c _
      split <;> decide
    exact .buffered _ _ _ (hne _)
  · rename_i himu
    by_cases hinit : e.initialised = true
    · rw [if_neg (by simp [hinit])] at h
      obtain ⟨e₁, he₁, hdispatch⟩ := Option.map_eq_some_iff.mp h
      have hcase := dispatched_dispatch eigen e₁ m
      rw [hdispatch] at hcase
      have hnot : m.isImu = false := by
        cases m with
        | imu imu => exact absurd rfl (himu imu)
        | _ => rfl
      exact .dispatched m e₁ e' report hinit hnot he₁ hcase
    · have hnot : e.initialised = false := by simpa using hinit
      rw [if_pos (by simp [hnot])] at h
      split at h
      · cases h
        exact .initialise _ _ hnot
      · cases h
        exact .early _ hnot

end EkfEstimator

end FalconGuide
