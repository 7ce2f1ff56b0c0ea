import FalconGuide.Estimation.FilterBackends
import FalconGuide.Ukf.MeasurementModels
import FalconGuide.Ukf.Update

namespace FalconGuide

/-!
# Measurements that are not valid

Every model and the initialisation check the validity of a measurement, the buffer of inertial
samples does not.  Two runs are compared: one with all measurements, one with the valid ones only.
A measurement that a model refuses still makes the first run integrate the samples buffered so far,
so it is ahead of the second until both propagate again.

* `Backend.ChecksValidity` — the models of both filters refuse what is not valid;
* `Filter.advance` — a filter that has already integrated its oldest samples;
* `Filter.SamplesKept` — no inertial sample is invalid, and none is lost between two propagations;
* `Filter.after_filter_isValid` — the two runs then end in the same state;
* `invalid_ignored`, `invalid_sample_integrated` — for `LatestState` of both filters.
-/

/-! ### What the models do -/

/-- A model that leaves the state as it is when a measurement is not valid. -/
def Backend.ChecksValidity (b : Backend) (model : b.Model) : Prop :=
  ∀ (m : SensorMeasurement) (ctx : UpdateContext) (s : b.State), m.isValid = false →
    (b.apply model m ctx s).1 = s ∧ (b.apply model m ctx s).2.result ≠ .accepted

theorem SensorMeasurement.isValid_eq_false {m : SensorMeasurement} :
    m.isValid = false ↔ m.validity ≠ .valid := by
  simp [SensorMeasurement.isValid]

/-- The models of the error-state filter refuse what is not valid, whatever they check first. -/
theorem MeasurementModel.apply_of_invalid {n : ℕ} (eigen : Eigen) (nominal : NominalState)
    (est : Estimate n) (layout : StateLayout) (ctx : UpdateContext) (model : MeasurementModel)
    {m : SensorMeasurement} (h : m.validity ≠ .valid) :
    ∃ result, result ≠ .accepted ∧
      model.apply eigen nominal est layout ctx m = (est, result) := by
  cases model with
  | rangeFinder o =>
    cases m with
    | rangeFinder m =>
      refine ⟨.rejected, by decide, ?_⟩
      show rangeFinderApply eigen o nominal est layout m = _
      unfold rangeFinderApply
      split
      · rfl
      · exact if_pos h
    | _ => exact ⟨.rejected, by decide, rfl⟩
  | gnssLooselyCoupled o =>
    cases m with
    | gnssSolution m =>
      show ∃ result, _ ∧ gnssLooselyCoupledApply eigen o nominal est layout m ctx = _
      unfold gnssLooselyCoupledApply
      split
      · exact ⟨.notInitialized, by decide, rfl⟩
      · refine ⟨.rejected, by decide, ?_⟩
        split
        · rfl
        · exact if_pos h
    | _ => exact ⟨.rejected, by decide, rfl⟩
  | gnssTightlyCoupled o =>
    cases m with
    | gnssTightlyCoupledEpoch m =>
      show ∃ result, _ ∧ gnssTightlyCoupledApply o nominal est layout m ctx = _
      unfold gnssTightlyCoupledApply
      split
      · exact ⟨.rejected, by decide, rfl⟩
      · split
        · exact ⟨.notInitialized, by decide, rfl⟩
        · exact ⟨.notInitialized, by decide, rfl⟩
        · exact ⟨.rejected, by decide, if_pos h⟩
    | _ => exact ⟨.rejected, by decide, rfl⟩
  | _ =>
    -- the validity is checked first, and a measurement of another type is refused
    cases m <;> first
      | exact ⟨.rejected, by decide, rfl⟩
      | exact ⟨.rejected, by decide, if_pos h⟩

theorem checksValidity_ekfBackend (eigen : Eigen) (options : EkfOptions)
    (model : MeasurementModel) : (ekfBackend eigen options).ChecksValidity model := by
  intro m ctx s h
  obtain ⟨result, hresult, happly⟩ := model.apply_of_invalid eigen s.nominal s.estimate
    options.buildLayout ctx (SensorMeasurement.isValid_eq_false.mp h)
  have hstep : (ekfBackend eigen options).apply model m ctx s
      = (s, { result, modelName := model.name }) := ekfStep_of_ne happly hresult
  rw [hstep]
  exact ⟨rfl, hresult⟩

theorem checksValidity_ukfBackend (d : Ukf.Decompositions) (options : Ukf.UkfOptions)
    {model : Ukf.MeasurementModel} (hmodel : Ukf.Shipped model) :
    (ukfBackend d options).ChecksValidity model := by
  intro m ctx s h
  have hobserve := hmodel.observe_eq_none ctx (SensorMeasurement.isValid_eq_false.mp h)
  have happly : (ukfBackend d options).apply model m ctx s
      = (s, { result := .rejected, modelName := model.name }) := by
    show Ukf.applyMeasurementModel d options.sigmaParams model m ctx s = _
    simp only [Ukf.applyMeasurementModel, hobserve]
    rfl
  have hrejected : EstimatorUpdateResult.rejected ≠ .accepted := by decide
  rw [happly]
  exact ⟨rfl, hrejected⟩

/-! ### A filter that is ahead -/

namespace Filter

variable {b : Backend} {f : Filter b} {k : ℕ} {m : SensorMeasurement} {t : Timestamp}

/-- The filter after it has integrated the `k` oldest samples of its buffer. -/
noncomputable def advance (f : Filter b) (k : ℕ) : Option (Filter b) :=
  ((f.imuBuffer.measurements.take k).foldlM b.propagateSample f.state).map fun state =>
    { f with
      state
      imuBuffer := { f.imuBuffer with measurements := f.imuBuffer.measurements.drop k } }

@[simp]
theorem advance_zero (f : Filter b) : f.advance 0 = some f := rfl

/-- Every sample in the buffer is at or before `t`. -/
def BufferedBefore (f : Filter b) (t : Timestamp) : Prop :=
  ∀ imu ∈ f.imuBuffer.measurements, imu.timestamp.AtOrBefore t

/-- A target after all samples: everything is integrated. -/
theorem propagateTo_of_bufferedBefore (h : f.BufferedBefore t) :
    f.propagateTo t
      = (f.imuBuffer.measurements.foldlM b.propagateSample f.state).map fun state =>
          { f with state, imuBuffer := { f.imuBuffer with measurements := [] } } := by
  rw [propagateTo, TimeOrderedBuffer.popUntil_of_atOrBefore h]

theorem propagateTo_eq_advance (h : f.BufferedBefore t) :
    f.propagateTo t = f.advance f.imuBuffer.measurements.length := by
  rw [propagateTo_of_bufferedBefore h, advance, List.take_length, List.drop_length]

/-- A filter that is ahead is caught up with by the next propagation. -/
theorem advance_bind_propagateTo (h : f.BufferedBefore t) :
    (f.advance k).bind (fun f => f.propagateTo t) = f.propagateTo t := by
  have hsplit : f.imuBuffer.measurements.foldlM b.propagateSample f.state
      = ((f.imuBuffer.measurements.take k).foldlM b.propagateSample f.state).bind
          fun s => (f.imuBuffer.measurements.drop k).foldlM b.propagateSample s := by
    conv_lhs => rw [← List.take_append_drop k f.imuBuffer.measurements]
    rw [List.foldlM_append]
    rfl
  rw [propagateTo_of_bufferedBefore h, hsplit, advance]
  cases (f.imuBuffer.measurements.take k).foldlM b.propagateSample f.state with
  | none => rfl
  | some s => exact propagateTo_of_bufferedBefore fun imu himu => h imu (List.mem_of_mem_drop himu)

/-- A measurement that is not valid changes nothing after the propagation. -/
theorem dispatch_of_invalid (hmodels : ∀ model ∈ f.measurementModels, b.ChecksValidity model)
    (h : m.isValid = false) : (f.dispatch m).1 = f := by
  cases hfind : f.measurementModels.find? (b.canHandle · m) with
  | none => rw [dispatch_of_none hfind]
  | some model =>
    obtain ⟨hstate, hresult⟩ :=
      hmodels model (List.mem_of_find?_eq_some hfind) m { ltp := f.localTangentPlane } f.state h
    rw [dispatch_of_not_accepted hfind hresult, hstate]

/-- And nothing before the initialisation, which it does not bring about. -/
theorem addEarly_of_invalid (h : m.isValid = false) : (f.addEarly m).1 = f := by
  cases m with
  | gnssSolution gnss =>
    have hvalidity : gnss.validity ≠ .valid := SensorMeasurement.isValid_eq_false.mp h
    simp only [addEarly, tryInitialiseFromGnss]
    split
    · rfl
    · rfl
  | _ => rfl

/-! ### What a call leaves as it is -/

theorem sameSetup_of_advance {f' : Filter b} (h : f.advance k = some f') :
    f'.initialised = f.initialised ∧ f'.measurementModels = f.measurementModels := by
  obtain ⟨s, -, rfl⟩ := Option.map_eq_some_iff.mp h
  exact ⟨rfl, rfl⟩

theorem propagateTo_sameSetup {f' : Filter b} (h : f.propagateTo t = some f') :
    f'.measurementModels = f.measurementModels ∧
      ∀ imu ∈ f'.imuBuffer.measurements, imu ∈ f.imuBuffer.measurements := by
  obtain ⟨s, -, rfl⟩ := Option.map_eq_some_iff.mp h
  exact ⟨rfl, fun imu himu => TimeOrderedBuffer.mem_of_mem_popUntil_rest himu⟩

theorem dispatch_sameSetup (f : Filter b) (m : SensorMeasurement) :
    (f.dispatch m).1.measurementModels = f.measurementModels ∧
      (f.dispatch m).1.imuBuffer = f.imuBuffer := by
  unfold dispatch
  split
  · exact ⟨rfl, rfl⟩
  · dsimp only
    split
    · exact ⟨rfl, rfl⟩
    · exact ⟨rfl, rfl⟩

theorem addEarly_sameSetup (f : Filter b) (m : SensorMeasurement) :
    (f.addEarly m).1.measurementModels = f.measurementModels ∧
      (f.addEarly m).1.imuBuffer = f.imuBuffer := by
  cases m with
  | gnssSolution gnss =>
    simp only [addEarly, tryInitialiseFromGnss]
    split
    · exact ⟨rfl, rfl⟩
    · split
      · exact ⟨rfl, rfl⟩
      · exact ⟨rfl, rfl⟩
  | _ => exact ⟨rfl, rfl⟩

/-- A measurement changes no model, and no sample but itself enters the buffer. -/
theorem addMeasurement_sameSetup {f' : Filter b} {report : MeasurementUpdateReport}
    (h : f.addMeasurement m = some (f', report)) :
    f'.measurementModels = f.measurementModels ∧
      ∀ imu ∈ f'.imuBuffer.measurements,
        imu.timestamp = m.timestamp ∨ imu ∈ f.imuBuffer.measurements := by
  rcases addMeasurement_cases h with
    ⟨imu, rfl, hadd⟩ | ⟨-, -, hadd⟩ | ⟨-, -, f₁, hprop, hdispatch⟩
  · cases hadd
    refine ⟨rfl, ?_⟩
    intro x hx
    exact (TimeOrderedBuffer.mem_of_mem_insert hx).imp_left (congrArg _)
  · obtain ⟨hmodels, hbuffer⟩ := addEarly_sameSetup f m
    rw [hadd] at hmodels hbuffer
    exact ⟨hmodels, fun imu himu => .inr (hbuffer ▸ himu)⟩
  · obtain ⟨hmodels, hbuffer⟩ := propagateTo_sameSetup hprop
    obtain ⟨hmodels', hbuffer'⟩ := dispatch_sameSetup f₁ m
    rw [hdispatch] at hmodels' hbuffer'
    exact ⟨hmodels'.trans hmodels, fun imu himu => .inr (hbuffer imu (hbuffer' ▸ himu))⟩

/-! ### One measurement, in both runs -/

/-- A sample reaches both filters, when it does not drop another. -/
theorem advance_map_addImu {imu : ImuMeasurement} (h : f.BufferedBefore imu.timestamp)
    (hk : k ≤ f.imuBuffer.measurements.length) (hroom : k = 0 ∨ f.imuBuffer.HasRoom) :
    (f.advance k).map (fun f => (f.addImu imu).1) = (f.addImu imu).1.advance k := by
  rcases hroom with rfl | hroom
  · rfl
  · have hinsert := TimeOrderedBuffer.insert_of_atOrBefore h hroom
    simp only [advance, addImu, hinsert, List.take_append_of_le_length hk,
      List.drop_append_of_le_length hk, Option.map_map]
    refine Option.map_congr ?_
    intro s hs
    have hrest : ({ f.imuBuffer with
        measurements := f.imuBuffer.measurements.drop k } :
          TimeOrderedBuffer ImuMeasurement).HasRoom := by
      refine hroom.imp_right ?_
      intro hlt
      exact (List.length_drop.trans_le (Nat.sub_le _ _)).trans_lt hlt
    have hinsert' := @TimeOrderedBuffer.insert_of_atOrBefore ImuMeasurement
      ImuMeasurement.timestamp _ _
      (fun x hx => h x (List.mem_of_mem_drop hx)) hrest
    simp only [Function.comp_apply, hinsert']

/-- Any other measurement makes the filter that is behind catch up. -/
theorem advance_bind_addMeasurement (h : f.BufferedBefore m.timestamp) (hm : m.isImu = false)
    (hinit : f.initialised = true) :
    (f.advance k).bind (fun f => f.addMeasurement m) = f.addMeasurement m := by
  have hadd : ∀ f' : Filter b, f'.initialised = true →
      f'.addMeasurement m = (f'.propagateTo m.timestamp).map fun f => f.dispatch m := by
    intro f' hinit'
    rw [addMeasurement_of_not_imu f' hm, if_neg (by simp [hinit'])]
  rw [hadd f hinit, ← advance_bind_propagateTo (k := k) h]
  cases hadv : f.advance k with
  | none => rfl
  | some f' => exact hadd f' ((sameSetup_of_advance hadv).1.trans hinit)

/-! ### Two runs -/

/-- The measurements one after the other, and then `ProcessUntil(t)`. -/
noncomputable def after (t : Timestamp) : Filter b → List SensorMeasurement → Option (Filter b)
  | f, [] => (f.processUntil t).map Prod.fst
  | f, m :: ms => (f.addMeasurement m).bind fun r => after t r.1 ms

/-- What the measurements after `f`, the filter that gets the valid ones, are like: all inertial
    samples are valid, and while the filter that gets all of them is `ahead`, that is has integrated
    samples which `f` still buffers, no sample makes `f` drop one. -/
def SamplesKept : Filter b → Bool → List SensorMeasurement → Prop
  | _, _, [] => True
  | f, ahead, m :: ms =>
    if m.isValid then
      (m.isImu = true → ahead = true → f.imuBuffer.HasRoom) ∧
      ∀ f' report, f.addMeasurement m = some (f', report) →
        SamplesKept f' (ahead && m.isImu) ms
    else
      m.isImu = false ∧
      SamplesKept f (ahead || (f.initialised && !f.imuBuffer.measurements.isEmpty)) ms

/-- `f` and the filter `k` samples ahead of it, before the measurements `ms` and the target `t`. -/
structure InStep (f : Filter b) (k : ℕ) (ahead : Bool) (ms : List SensorMeasurement)
    (t : Timestamp) : Prop where
  le_length : k ≤ f.imuBuffer.measurements.length
  of_ahead : ahead = false → k = 0
  of_initialised : f.initialised = false → k = 0
  models : ∀ model ∈ f.measurementModels, b.ChecksValidity model
  buffered : ∀ u ∈ ms.map SensorMeasurement.timestamp ++ [t], f.BufferedBefore u

/-- A valid measurement but an inertial sample brings both filters to the same state. -/
theorem InStep.of_addMeasurement {f' : Filter b} {ahead ahead' : Bool}
    {ms : List SensorMeasurement} {report : MeasurementUpdateReport}
    (h : InStep f k ahead (m :: ms) t) (hadd : f.addMeasurement m = some (f', report))
    (htimes : ∀ u ∈ ms.map SensorMeasurement.timestamp ++ [t], m.timestamp.AtOrBefore u) :
    InStep f' 0 ahead' ms t := by
  obtain ⟨hmodels, hbuffer⟩ := addMeasurement_sameSetup hadd
  refine ⟨Nat.zero_le _, fun _ => rfl, fun _ => rfl, hmodels ▸ h.models, ?_⟩
  intro u hu imu himu
  rcases hbuffer imu himu with himu | himu
  · exact himu ▸ htimes u hu
  · exact h.buffered u (List.mem_cons_of_mem _ hu) imu himu

/-- A sample after all others goes to the end of the buffer. -/
theorem InStep.addImu {imu : ImuMeasurement} {ahead : Bool} {ms : List SensorMeasurement}
    (h : InStep f k ahead (.imu imu :: ms) t) (hbefore : f.BufferedBefore imu.timestamp)
    (hfits : k = 0 ∨ f.imuBuffer.HasRoom)
    (htimes : ∀ u ∈ ms.map SensorMeasurement.timestamp ++ [t], imu.timestamp.AtOrBefore u) :
    InStep (f.addImu imu).1 k (ahead && true) ms t := by
  refine ⟨?_, fun hahead => h.of_ahead (by simpa using hahead), h.of_initialised, h.models, ?_⟩
  · rcases hfits with rfl | hroom
    · exact Nat.zero_le _
    · have hinsert := TimeOrderedBuffer.insert_of_atOrBefore hbefore hroom
      simp only [Filter.addImu, hinsert, List.length_append]
      exact h.le_length.trans (Nat.le_add_right _ _)
  · intro u hu x hx
    rcases TimeOrderedBuffer.mem_of_mem_insert hx with rfl | hx
    · exact htimes u hu
    · exact h.buffered u (List.mem_cons_of_mem _ hu) x hx

/-- **Two runs.** With valid samples only and none lost, the run over all measurements ends where
    the run over the valid ones does; by induction on the measurements. -/
theorem advance_bind_after {f : Filter b} {k : ℕ} {ahead : Bool} {ms : List SensorMeasurement}
    (h : InStep f k ahead ms t)
    (htimes : (ms.map SensorMeasurement.timestamp ++ [t]).Pairwise Timestamp.AtOrBefore)
    (hkept : f.SamplesKept ahead ms) :
    (f.advance k).bind (fun f => after t f ms)
      = after t f (ms.filter SensorMeasurement.isValid) := by
  induction ms generalizing f k ahead with
  | nil =>
    -- no measurement is left, and both propagate to `t`
    show (f.advance k).bind (fun f => (f.processUntil t).map Prod.fst) = _
    by_cases hinit : f.initialised = true
    · have hproc : ∀ f' : Filter b, f'.initialised = true →
          (f'.processUntil t).map Prod.fst = f'.propagateTo t := by
        intro f' hinit'
        -- an initialised filter only propagates
        rw [processUntil, if_neg (by simp [hinit']), Option.map_map]
        exact Option.map_id'
      show _ = (f.processUntil t).map Prod.fst
      rw [hproc f hinit, ← advance_bind_propagateTo (k := k) (h.buffered t (by simp))]
      cases hadv : f.advance k with
      | none => rfl
      | some f' => exact hproc f' ((sameSetup_of_advance hadv).1.trans hinit)
    · rw [h.of_initialised (by simpa using hinit)]
      rfl
  | cons m ms ih =>
    rw [List.map_cons, List.cons_append, List.pairwise_cons] at htimes
    obtain ⟨hfirst, hrest⟩ := htimes
    have hbefore : f.BufferedBefore m.timestamp := h.buffered m.timestamp (by simp)
    rw [SamplesKept] at hkept
    by_cases hvalid : m.isValid = true
    · rw [if_pos hvalid] at hkept
      obtain ⟨hroom, hkept⟩ := hkept
      rw [List.filter_cons_of_pos hvalid]
      by_cases hm : m.isImu = true
      · -- a sample is buffered by both
        cases m with
        | imu imu =>
          -- the sample fits, whichever of the two runs is ahead
          have hfits : k = 0 ∨ f.imuBuffer.HasRoom := by
            by_cases hahead : ahead = true
            · exact .inr (hroom rfl hahead)
            · exact .inl (h.of_ahead (by simpa using hahead))
          have hstep : InStep (f.addImu imu).1 k (ahead && true) ms t :=
            h.addImu hbefore hfits hfirst
          show (f.advance k).bind (fun f => after t (f.addImu imu).1 ms)
            = after t (f.addImu imu).1 (ms.filter SensorMeasurement.isValid)
          rw [← ih hstep hrest (hkept _ _ rfl), ← advance_map_addImu hbefore h.le_length hfits,
            Option.bind_map]
          rfl
        | _ => cases hm
      · have hnot : m.isImu = false := by simpa using hm
        -- another measurement propagates to its own time, which makes up the distance
        have hboth : (f.advance k).bind (fun f => f.addMeasurement m) = f.addMeasurement m := by
          by_cases hinit : f.initialised = true
          · exact advance_bind_addMeasurement hbefore hnot hinit
          · rw [h.of_initialised (by simpa using hinit)]
            rfl
        show (f.advance k).bind (fun f => (f.addMeasurement m).bind fun r => after t r.1 ms)
          = (f.addMeasurement m).bind fun r => after t r.1 (ms.filter SensorMeasurement.isValid)
        rw [← Option.bind_assoc, hboth]
        cases hadd : f.addMeasurement m with
        | none => rfl
        | some r =>
          have hstep : InStep r.1 0 (ahead && m.isImu) ms t := h.of_addMeasurement hadd hfirst
          exact ih hstep hrest (hkept r.1 r.2 hadd)
    · rw [if_neg hvalid] at hkept
      obtain ⟨hm, hkept⟩ := hkept
      rw [List.filter_cons_of_neg hvalid]
      have hinvalid : m.isValid = false := by simpa using hvalid
      show (f.advance k).bind (fun f => (f.addMeasurement m).bind fun r => after t r.1 ms) = _
      rw [← Option.bind_assoc]
      by_cases hinit : f.initialised = true
      · -- all buffered samples are integrated, and `f` is behind by as many
        have hboth := advance_bind_addMeasurement (k := k) hbefore hm hinit
        have hstep : InStep f f.imuBuffer.measurements.length
            (ahead || (f.initialised && !f.imuBuffer.measurements.isEmpty)) ms t := by
          -- what was buffered before `m` is what `f` has not yet integrated
          refine ⟨le_rfl, ?_, fun h' => by simp [hinit] at h', h.models,
            fun u hu => h.buffered u (List.mem_cons_of_mem _ hu)⟩
          intro hnone
          simpa [hinit] using (Bool.or_eq_false_iff.mp hnone).2
        rw [hboth, ← ih hstep hrest hkept, ← propagateTo_eq_advance hbefore,
          addMeasurement_of_not_imu f hm, if_neg (by simp [hinit]), Option.bind_map]
        refine Option.bind_congr ?_
        intro f' hf'
        have hmodels : ∀ model ∈ f'.measurementModels, b.ChecksValidity model :=
          (propagateTo_sameSetup hf').1 ▸ h.models
        -- every model looks at the validity first
        show after t (f'.dispatch m).1 ms = _
        rw [dispatch_of_invalid hmodels hinvalid]
      · have hnot : f.initialised = false := by simpa using hinit
        have hstep : InStep f 0 (ahead || (f.initialised && !f.imuBuffer.measurements.isEmpty))
            ms t :=
          ⟨Nat.zero_le _, fun _ => rfl, fun _ => rfl, h.models,
            fun u hu => h.buffered u (List.mem_cons_of_mem _ hu)⟩
        rw [h.of_initialised hnot, ← ih hstep hrest hkept, advance_zero]
        show (f.addMeasurement m).bind _ = after t f ms
        rw [addMeasurement_of_not_imu f hm, if_pos (by simp [hnot])]
        show after t (f.addEarly m).1 ms = _
        -- an invalid solution cannot initialise the filter
        rw [addEarly_of_invalid hinvalid]

end Filter

/-- Both runs start with an empty buffer. -/
theorem Filter.after_filter_isValid {b : Backend} {f : Filter b} {ms : List SensorMeasurement}
    {t : Timestamp} (hempty : f.imuBuffer.measurements = [])
    (hmodels : ∀ model ∈ f.measurementModels, b.ChecksValidity model)
    (htimes : (ms.map SensorMeasurement.timestamp ++ [t]).Pairwise Timestamp.AtOrBefore)
    (hkept : f.SamplesKept false ms) :
    after t f ms = after t f (ms.filter SensorMeasurement.isValid) := by
  have hstart : InStep f 0 false ms t := by
    refine ⟨Nat.zero_le _, fun _ => rfl, fun _ => rfl, hmodels, ?_⟩
    intro u _ imu himu
    rw [hempty] at himu
    cases himu
  exact advance_bind_after hstart htimes hkept

/-! ### Both filters -/

namespace EkfEstimator

variable {options : EkfOptions} {eigen : Eigen}

/-- The measurements one after the other, and then `ProcessUntil(t)`. -/
noncomputable def after (eigen : Eigen) (t : Timestamp) :
    EkfEstimator options → List SensorMeasurement → Option (EkfEstimator options)
  | e, [] => (e.processUntil t).map Prod.fst
  | e, m :: ms => (e.addMeasurement eigen m).bind fun r => after eigen t r.1 ms

theorem toFilter_after (t : Timestamp) (e : EkfEstimator options) (ms : List SensorMeasurement) :
    Filter.after t (e.toFilter eigen) ms = (after eigen t e ms).map (toFilter eigen) := by
  induction ms generalizing e with
  | nil =>
    show ((e.toFilter eigen).processUntil t).map Prod.fst
      = ((e.processUntil t).map Prod.fst).map (toFilter eigen)
    rw [toFilter_processUntil, Option.map_map, Option.map_map]
    rfl
  | cons m ms ih =>
    show ((e.toFilter eigen).addMeasurement m).bind _
      = ((e.addMeasurement eigen m).bind _).map (toFilter eigen)
    rw [toFilter_addMeasurement]
    cases e.addMeasurement eigen m with
    | none => rfl
    | some r => exact ih r.1

end EkfEstimator

namespace Ukf.UkfEstimator

variable {options : UkfOptions} {d : Decompositions}

/-- The measurements one after the other, and then `ProcessUntil(t)`. -/
noncomputable def after (d : Decompositions) (t : Timestamp) :
    UkfEstimator options → List SensorMeasurement → Option (UkfEstimator options)
  | e, [] => (e.processUntil d t).map Prod.fst
  | e, m :: ms => (e.addMeasurement d m).bind fun r => after d t r.1 ms

theorem toFilter_after (t : Timestamp) (e : UkfEstimator options) (ms : List SensorMeasurement) :
    Filter.after t (e.toFilter d) ms = (after d t e ms).map (toFilter d) := by
  induction ms generalizing e with
  | nil =>
    show ((e.toFilter d).processUntil t).map Prod.fst
      = ((e.processUntil d t).map Prod.fst).map (toFilter d)
    rw [toFilter_processUntil, Option.map_map, Option.map_map]
    rfl
  | cons m ms ih =>
    show ((e.toFilter d).addMeasurement m).bind _
      = ((e.addMeasurement d m).bind _).map (toFilter d)
    rw [toFilter_addMeasurement]
    cases e.addMeasurement d m with
    | none => rfl
    | some r => exact ih r.1

end Ukf.UkfEstimator

/-- **Measurements that are not valid are ignored**, in runs without invalid inertial samples and
    without lost ones: the last `LatestState` is that of the run over the valid measurements. -/
theorem invalid_ignored (ms : List SensorMeasurement) (t : Timestamp)
    (htimes : (ms.map SensorMeasurement.timestamp ++ [t]).Pairwise Timestamp.AtOrBefore) :
    (∀ (eigen : Eigen) (options : EkfOptions) (e : EkfEstimator options),
      e.imuBuffer.measurements = [] → (e.toFilter eigen).SamplesKept false ms →
      (e.after eigen t ms).map EkfEstimator.latestState
        = (e.after eigen t (ms.filter SensorMeasurement.isValid)).map EkfEstimator.latestState) ∧
    (∀ (d : Ukf.Decompositions) (options : Ukf.UkfOptions) (e : Ukf.UkfEstimator options),
      e.imuBuffer.measurements = [] → (∀ model ∈ e.measurementModels, Ukf.Shipped model) →
      (e.toFilter d).SamplesKept false ms →
      (e.after d t ms).map Ukf.UkfEstimator.latestState
        = (e.after d t (ms.filter SensorMeasurement.isValid)).map
            Ukf.UkfEstimator.latestState) := by
  constructor
  · intro eigen options e hempty hkept
    have hruns := Filter.after_filter_isValid hempty
      (fun model _ => checksValidity_ekfBackend eigen options model) htimes hkept
    rw [EkfEstimator.toFilter_after, EkfEstimator.toFilter_after] at hruns
    rw [Option.map_injective EkfEstimator.toFilter_injective hruns]
  · intro d options e hempty hmodels hkept
    have hruns := Filter.after_filter_isValid hempty
      (fun model hmodel => checksValidity_ukfBackend d options (hmodels model hmodel)) htimes hkept
    rw [Ukf.UkfEstimator.toFilter_after, Ukf.UkfEstimator.toFilter_after] at hruns
    rw [Option.map_injective Ukf.UkfEstimator.toFilter_injective hruns]

/-! ### Two short runs -/

/-- A fix at time zero. -/
def validFix : GnssSolution :=
  { timestamp := { hasSteady := true }, fixType := .single }

/-- A saturated inertial sample one second later. -/
def saturatedSample : ImuMeasurement where
  timestamp := { steady := { nanosecondsSinceEpoch := 1000000000 }, hasSteady := true }
  specificForceMps2 := ![0, 0, 160]
  validity := .saturated

/-- A dropped fix before a valid one: both filters ignore it. -/
theorem invalid_ignored_fix :
    (({} : EkfEstimator {}).after .exact validFix.timestamp
        [.gnssSolution { validFix with validity := .dropped }, .gnssSolution validFix]).map
        EkfEstimator.latestState
      = (({} : EkfEstimator {}).after .exact validFix.timestamp [.gnssSolution validFix]).map
          EkfEstimator.latestState ∧
    (({} : Ukf.UkfEstimator {}).after .exact validFix.timestamp
        [.gnssSolution { validFix with validity := .dropped }, .gnssSolution validFix]).map
        Ukf.UkfEstimator.latestState
      = (({} : Ukf.UkfEstimator {}).after .exact validFix.timestamp [.gnssSolution validFix]).map
          Ukf.UkfEstimator.latestState := by
  have hkept : ∀ (b : Backend) (f : Filter b), f.SamplesKept false
      [.gnssSolution { validFix with validity := .dropped }, .gnssSolution validFix] := by
    intro b f
    refine ⟨rfl, ?_, fun _ _ _ => trivial⟩
    intro himu
    cases himu
  have hruns := invalid_ignored
    [.gnssSolution { validFix with validity := .dropped }, .gnssSolution validFix]
    validFix.timestamp (by decide)
  constructor
  · exact hruns.1 .exact {} {} rfl (hkept _ _)
  · exact hruns.2 .exact {} {} rfl (by simp) (hkept _ _)

/-- The filter that integrates the saturated sample is one second further than the other. -/
theorem invalid_sample_integrated :
    ∃ (ms : List SensorMeasurement) (t : Timestamp),
      (ms.map SensorMeasurement.timestamp ++ [t]).Pairwise Timestamp.AtOrBefore ∧
      ∃ s s' : NavigationState,
        (({} : EkfEstimator {}).after .exact t ms).map EkfEstimator.latestState = some (some s) ∧
        (({} : EkfEstimator {}).after .exact t (ms.filter SensorMeasurement.isValid)).map
          EkfEstimator.latestState = some (some s') ∧
        s.timestamp ≠ s'.timestamp := by
  let e : EkfEstimator {} := (({} : EkfEstimator {}).tryInitialiseFromGnss validFix).1
  have hmax : 0 < (ekfBackend .exact {}).maxImuDtS := by
    show (0 : ℝ) < 0.05
    norm_num
  -- the sample is integrated, and the filter time is then that of the sample
  obtain ⟨s, hs⟩ : ∃ s, propagateSample {} e.state saturatedSample = some s := by
    have hsome := Backend.propagateSample_isSome hmax e.state saturatedSample
    rw [ekfBackend_propagateSample] at hsome
    exact Option.isSome_iff_exists.mp hsome
  have htime : s.nominal.timestamp = saturatedSample.timestamp := by
    have hdt : (timeDifference saturatedSample.timestamp e.state.nominal.timestamp)
        = some { nanoseconds := 1000000000 } := rfl
    have hseconds : ((Duration.seconds { nanoseconds := 1000000000 } : ℚ) : ℝ) = 1 := by
      simp [Duration.seconds]
    have hone : ¬ (1 : ℝ) < 1e-6 := by norm_num
    have hbase : (!e.state.nominal.timestamp.hasSteady && !e.state.nominal.timestamp.hasGps)
        = false := rfl
    simp only [propagateSample, hbase, hdt, hseconds, if_neg hone] at hs
    obtain ⟨s₀, -, rfl⟩ := Option.map_eq_some_iff.mp hs
    rfl
  refine ⟨[.gnssSolution validFix, .imu saturatedSample], saturatedSample.timestamp, by decide,
    ({ e with state := s, imuBuffer := { maxSize := 2000 } } :
      EkfEstimator {}).buildNavigationState, e.buildNavigationState, ?_, rfl, ?_⟩
  · have hbatch : [saturatedSample].foldlM (propagateSample {}) e.state = some s := by
      rw [List.foldlM_cons, hs]
      rfl
    show ((Option.map _ (Option.map _ ([saturatedSample].foldlM (propagateSample {})
      e.state))).map Prod.fst).map EkfEstimator.latestState = _
    exact (congrArg (fun o => ((Option.map _ (Option.map _ o)).map Prod.fst).map
      EkfEstimator.latestState) hbatch).trans rfl
  · rw [EkfEstimator.buildNavigationState_timestamp, EkfEstimator.buildNavigationState_timestamp]
    show s.nominal.timestamp ≠ validFix.timestamp
    rw [htime]
    decide

end FalconGuide
