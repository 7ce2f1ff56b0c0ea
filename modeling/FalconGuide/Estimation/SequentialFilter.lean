import FalconGuide.Core.Sensors
import FalconGuide.Core.TimeOrderedBuffer
import FalconGuide.Ekf.State
import FalconGuide.Estimation.EstimatorInterface
import FalconGuide.Lib.TransitionSystem

namespace FalconGuide

/-!
# The filter that both backends share

The error-state filter and the unscented filter differ in their state, in how they propagate it
and in their measurement models.  What they do with the buffer of inertial samples, with time and
with the order of their calls is the same code twice.  It is stated here once, over what differs.

* `Backend` — what differs;
* `Filter` — an estimator over a backend, with `propagateTo`, `addMeasurement` and `processUntil`;
* `Filter.call`, `Filter.run` — one public call, and several;
* `Embedding` — an estimator whose calls, and with them its runs, are those of such a filter;
* `Backend.Hom` — a map between backends, and `Filter.run_map` that every run respects it;
* `Backend.logged` — the backend that also records the steps `PropagateImu` is called with, and
  `Backend.eraseLog` that forgets the record again.
-/

/-- What an estimator is built from. -/
structure Backend where
  State : Type
  Model : Type
  /-- The name in the report of an initialisation. -/
  initName : String
  minImuDtS : ℝ
  maxImuDtS : ℝ
  blank : State
  timestamp : State → Timestamp
  setTimestamp : State → Timestamp → State
  propagateImu : State → ImuMeasurement → ℝ → State
  /-- The state after a fix, with the rotation from ECEF to the new tangent plane. -/
  initialise : State → Mat3 → GnssSolution → State
  canHandle : Model → SensorMeasurement → Bool
  /-- What a model makes of the state, with the correction injected when it accepts. -/
  apply : Model → SensorMeasurement → UpdateContext → State → State × MeasurementUpdateReport

/-! ### Propagation -/

namespace Backend

variable (b : Backend)

/-- The loop that splits a gap, `none` when `fuel` steps are not enough. -/
noncomputable def gapLoop (imu : ImuMeasurement) : ℕ → b.State → ℝ → Option b.State
  | fuel, s, remaining =>
    if 0 < remaining then
      match fuel with
      | 0 => none
      | fuel + 1 =>
        let step := min remaining b.maxImuDtS
        gapLoop imu fuel (b.propagateImu s imu step) (remaining - step)
    else some s

theorem gapLoop_succ (imu : ImuMeasurement) (fuel : ℕ) (s : b.State) (remaining : ℝ) :
    b.gapLoop imu (fuel + 1) s remaining
      = if 0 < remaining then
          b.gapLoop imu fuel (b.propagateImu s imu (min remaining b.maxImuDtS))
            (remaining - min remaining b.maxImuDtS)
        else some s := by
  rw [gapLoop]

/-- One popped sample. -/
noncomputable def propagateSample (s : b.State) (imu : ImuMeasurement) : Option b.State :=
  if !(b.timestamp s).hasSteady && !(b.timestamp s).hasGps then
    some (b.setTimestamp s imu.timestamp)
  else
    match timeDifference imu.timestamp (b.timestamp s) with
    | none => some s
    | some difference =>
      let dt : ℝ := difference.seconds
      if dt < b.minImuDtS then some s
      else
        (b.gapLoop imu ⌈dt / b.maxImuDtS⌉₊ s dt).map fun s => b.setTimestamp s imu.timestamp

/-! #### Both loops end -/

variable {b}

/-- `fuel` steps cover a gap of `fuel` times `maxImuDtS`. -/
theorem gapLoop_isSome (hmax : 0 < b.maxImuDtS) {imu : ImuMeasurement} {fuel : ℕ} {s : b.State}
    {remaining : ℝ} (h : remaining ≤ fuel * b.maxImuDtS) :
    (b.gapLoop imu fuel s remaining).isSome := by
  induction fuel generalizing s remaining with
  | zero =>
    have hle : ¬ 0 < remaining := by simpa using h
    rw [gapLoop, if_neg hle]
    rfl
  | succ fuel ih =>
    rw [gapLoop_succ]
    split
    · refine ih ?_
      have hfuel : 0 ≤ (fuel : ℝ) * b.maxImuDtS := by positivity
      rw [Nat.cast_succ, add_mul, one_mul] at h
      -- either the step covers what remains, or it is a full step
      rcases min_cases remaining b.maxImuDtS with ⟨hmin, -⟩ | ⟨hmin, -⟩
      · linarith
      · linarith
    · rfl

/-- One sample is propagated in finitely many steps. -/
theorem propagateSample_isSome (hmax : 0 < b.maxImuDtS) (s : b.State) (imu : ImuMeasurement) :
    (b.propagateSample s imu).isSome := by
  unfold propagateSample
  split
  · rfl
  · split
    · rfl
    · show (ite _ _ _ : Option b.State).isSome
      split
      · rfl
      · rw [Option.isSome_map]
        exact gapLoop_isSome hmax ((div_le_iff₀ hmax).mp (Nat.le_ceil _))

/-- And so are all popped samples. -/
theorem foldlM_propagateSample_isSome (hmax : 0 < b.maxImuDtS) (batch : List ImuMeasurement)
    (s : b.State) : (batch.foldlM b.propagateSample s).isSome := by
  induction batch generalizing s with
  | nil => rfl
  | cons imu batch ih =>
    obtain ⟨t, ht⟩ := Option.isSome_iff_exists.mp (propagateSample_isSome hmax s imu)
    rw [List.foldlM_cons, ht]
    exact ih t

end Backend

/-! ### The estimator -/

/-- An estimator over a backend. -/
structure Filter (b : Backend) where
  initialised : Bool := false
  state : b.State := b.blank
  measurementModels : List b.Model := []
  imuBuffer : TimeOrderedBuffer ImuMeasurement := { maxSize := 2000 }
  lastAidingTimestamp : Option Timestamp := none
  localTangentPlane : Option LocalTangentPlane := none

namespace Filter

variable {b : Backend}

/-- `RegisterMeasurementModel`. -/
def registerMeasurementModel (f : Filter b) (model : b.Model) : Filter b :=
  { f with measurementModels := f.measurementModels ++ [model] }

/-- The samples that `PropagateTo` pops. -/
def popped (f : Filter b) (target : Timestamp) : List ImuMeasurement :=
  (f.imuBuffer.popUntil ImuMeasurement.timestamp target true).1

/-- `PropagateTo`. -/
noncomputable def propagateTo (f : Filter b) (target : Timestamp) : Option (Filter b) :=
  let (batch, imuBuffer) := f.imuBuffer.popUntil ImuMeasurement.timestamp target true
  (batch.foldlM b.propagateSample f.state).map fun state => { f with state, imuBuffer }

/-- `TryInitialiseFromGnss`. -/
noncomputable def tryInitialiseFromGnss (f : Filter b) (gnss : GnssSolution) : Filter b × Bool :=
  if gnss.fixType = .noFix then (f, false)
  else if gnss.validity ≠ .valid then (f, false)
  else
    let ltp := LocalTangentPlane.make (ecefToLla gnss.positionEcefM)
    ({ f with
       localTangentPlane := some ltp
       state := b.initialise f.state ltp.ecefToEnuRotation gnss
       initialised := true }, true)

/-- The dispatch of a measurement to the models, after propagation. -/
noncomputable def dispatch (f : Filter b) (m : SensorMeasurement) :
    Filter b × MeasurementUpdateReport :=
  match f.measurementModels.find? (b.canHandle · m) with
  | none => (f, { result := .rejected })
  | some model =>
    let (state, report) := b.apply model m { ltp := f.localTangentPlane } f.state
    if report.result = .accepted then
      ({ f with state, lastAidingTimestamp := some m.timestamp }, report)
    else ({ f with state }, report)

theorem dispatch_of_none {f : Filter b} {m : SensorMeasurement}
    (h : f.measurementModels.find? (b.canHandle · m) = none) :
    f.dispatch m = (f, { result := .rejected }) := by
  simp only [dispatch, h]

theorem dispatch_of_accepted {f : Filter b} {m : SensorMeasurement} {model : b.Model}
    (h : f.measurementModels.find? (b.canHandle · m) = some model)
    (hacc : (b.apply model m { ltp := f.localTangentPlane } f.state).2.result = .accepted) :
    f.dispatch m
      = ({ f with
           state := (b.apply model m { ltp := f.localTangentPlane } f.state).1
           lastAidingTimestamp := some m.timestamp },
          (b.apply model m { ltp := f.localTangentPlane } f.state).2) := by
  simp only [dispatch, h, if_pos hacc]

theorem dispatch_of_not_accepted {f : Filter b} {m : SensorMeasurement} {model : b.Model}
    (h : f.measurementModels.find? (b.canHandle · m) = some model)
    (hacc : (b.apply model m { ltp := f.localTangentPlane } f.state).2.result ≠ .accepted) :
    f.dispatch m
      = ({ f with state := (b.apply model m { ltp := f.localTangentPlane } f.state).1 },
          (b.apply model m { ltp := f.localTangentPlane } f.state).2) := by
  simp only [dispatch, h, if_neg hacc]

/-- An inertial sample in `AddMeasurement`. -/
def addImu (f : Filter b) (imu : ImuMeasurement) : Filter b × MeasurementUpdateReport :=
  let (imuBuffer, r) := f.imuBuffer.insert ImuMeasurement.timestamp imu
  let result : EstimatorUpdateResult :=
    if r = .rejectedOutOfOrder ∨ r = .rejectedNotComparable then .outOfOrder else .buffered
  ({ f with imuBuffer }, { result })

/-- Any other measurement in `AddMeasurement` before the initialisation. -/
noncomputable def addEarly (f : Filter b) (m : SensorMeasurement) :
    Filter b × MeasurementUpdateReport :=
  match m with
  | .gnssSolution gnss =>
    let (f, ok) := f.tryInitialiseFromGnss gnss
    (f, { result := if ok then .accepted else .rejected, modelName := b.initName })
  | _ => (f, { result := .notInitialized })

/-- `AddMeasurement`. -/
noncomputable def addMeasurement (f : Filter b) (m : SensorMeasurement) :
    Option (Filter b × MeasurementUpdateReport) :=
  match m with
  | .imu imu => some (f.addImu imu)
  | m =>
    if !f.initialised then some (f.addEarly m)
    else (f.propagateTo m.timestamp).map fun f => f.dispatch m

/-- A measurement that is no inertial sample. -/
theorem addMeasurement_of_not_imu (f : Filter b) {m : SensorMeasurement} (hm : m.isImu = false) :
    f.addMeasurement m
      = if !f.initialised then some (f.addEarly m)
        else (f.propagateTo m.timestamp).map fun f => f.dispatch m := by
  cases m with
  | imu imu => cases hm
  | _ => rfl

/-- **The cases of `AddMeasurement`:** a sample is put into the buffer, another measurement may
    initialise the filter, and an initialised one propagates and dispatches. -/
theorem addMeasurement_cases {f f' : Filter b} {m : SensorMeasurement}
    {report : MeasurementUpdateReport} (h : f.addMeasurement m = some (f', report)) :
    (∃ imu, m = .imu imu ∧ f.addImu imu = (f', report)) ∨
    (m.isImu = false ∧ f.initialised = false ∧ f.addEarly m = (f', report)) ∨
    (m.isImu = false ∧ f.initialised = true ∧
      ∃ f₁, f.propagateTo m.timestamp = some f₁ ∧ f₁.dispatch m = (f', report)) := by
  by_cases hm : m.isImu = true
  · cases m with
    | imu imu => exact .inl ⟨imu, rfl, Option.some.inj h⟩
    | _ => cases hm
  · have hnot : m.isImu = false := by simpa using hm
    rw [addMeasurement_of_not_imu f hnot] at h
    by_cases hinit : f.initialised = true
    · rw [if_neg (by simp [hinit])] at h
      exact .inr (.inr ⟨hnot, hinit, Option.map_eq_some_iff.mp h⟩)
    · rw [if_pos (by simpa using hinit)] at h
      exact .inr (.inl ⟨hnot, by simpa using hinit, Option.some.inj h⟩)

/-- `ProcessUntil`. -/
noncomputable def processUntil (f : Filter b) (timestamp : Timestamp) :
    Option (Filter b × EstimatorUpdateResult) :=
  if !f.initialised then some (f, .notInitialized)
  else (f.propagateTo timestamp).map fun f => (f, .accepted)

/-- `ProcessUntil` does nothing, or propagates. -/
theorem processUntil_cases {f f' : Filter b} {timestamp : Timestamp}
    {result : EstimatorUpdateResult} (h : f.processUntil timestamp = some (f', result)) :
    f' = f ∨ (f.initialised = true ∧ f.propagateTo timestamp = some f') := by
  rw [processUntil] at h
  by_cases hinit : f.initialised = true
  · rw [if_neg (by simp [hinit])] at h
    obtain ⟨f₁, hpropagate, heq⟩ := Option.map_eq_some_iff.mp h
    cases heq
    exact .inr ⟨hinit, hpropagate⟩
  · rw [if_pos (by simpa using hinit)] at h
    cases h
    exact .inl rfl

/-! ### Runs -/

/-- `Reset`. -/
def reset (f : Filter b) : Filter b :=
  { f with
    initialised := false
    localTangentPlane := none
    lastAidingTimestamp := none
    imuBuffer := f.imuBuffer.clear
    state := b.blank }

/-- The public calls that change an estimator with models of type `Model`. -/
inductive Call (Model : Type)
  | registerMeasurementModel (model : Model)
  | addMeasurement (m : SensorMeasurement)
  | processUntil (timestamp : Timestamp)
  | reset

/-- The estimator after a call, `none` when it does not return. -/
noncomputable def call (f : Filter b) : Call b.Model → Option (Filter b)
  | .registerMeasurementModel model => some (f.registerMeasurementModel model)
  | .addMeasurement m => (f.addMeasurement m).map Prod.fst
  | .processUntil timestamp => (f.processUntil timestamp).map Prod.fst
  | .reset => some f.reset

/-- The estimator after some calls. -/
noncomputable def run (f : Filter b) (calls : List (Call b.Model)) : Option (Filter b) :=
  calls.foldlM call f

/-- With a positive `maxImuDtS` every call returns. -/
theorem call_isSome (hmax : 0 < b.maxImuDtS) (f : Filter b) (k : Call b.Model) :
    (f.call k).isSome := by
  have hpropagate : ∀ target, (f.propagateTo target).isSome := by
    intro target
    rw [propagateTo, Option.isSome_map]
    exact Backend.foldlM_propagateSample_isSome hmax _ _
  cases k with
  | registerMeasurementModel model => rfl
  | addMeasurement m =>
    rw [call, Option.isSome_map]
    by_cases hm : m.isImu = true
    · cases m with
      | imu imu => rfl
      | _ => cases hm
    · rw [addMeasurement_of_not_imu f (by simpa using hm)]
      split
      · rfl
      · rw [Option.isSome_map]
        exact hpropagate m.timestamp
  | processUntil timestamp =>
    rw [call, Option.isSome_map, processUntil]
    split
    · rfl
    · rw [Option.isSome_map]
      exact hpropagate timestamp
  | reset => rfl

theorem run_cons (f : Filter b) (c : Call b.Model) (calls : List (Call b.Model)) :
    f.run (c :: calls) = (f.call c).bind fun f => f.run calls := by
  rw [run, List.foldlM_cons]
  rfl

/-- And so does every run. -/
theorem run_isSome (hmax : 0 < b.maxImuDtS) (f : Filter b) (calls : List (Call b.Model)) :
    (f.run calls).isSome := by
  induction calls generalizing f with
  | nil => rfl
  | cons c calls ih =>
    obtain ⟨f', hcall⟩ := Option.isSome_iff_exists.mp (call_isSome hmax f c)
    rw [run_cons, hcall]
    exact ih f'

end Filter

/-! ### Estimators -/

open Lib in
/-- An estimator whose calls are those of a filter over `b`. -/
structure Embedding {σ κ : Type} (S : System σ κ) (b : Backend) where
  toFilter : σ → Filter b
  toCall : κ → Filter.Call b.Model
  step : ∀ {s s' : σ} {k : κ}, S.step s k s' →
    (toFilter s).call (toCall k) = some (toFilter s')
  exists_step : ∀ {s : σ} {k : κ} {f : Filter b}, (toFilter s).call (toCall k) = some f →
    ∃ s', S.step s k s' ∧ toFilter s' = f

namespace Embedding

variable {σ κ : Type} {S : Lib.System σ κ} {b : Backend} (E : Embedding S b)

/-- The time of the filter. -/
def time (s : σ) : Timestamp := b.timestamp (E.toFilter s).state

variable {E} {s s' : σ} {calls : List κ}

/-- **A run** of the estimator is a run of the filter. -/
theorem run (h : S.Run s calls s') :
    (E.toFilter s).run (calls.map E.toCall) = some (E.toFilter s') := by
  induction h with
  | nil s => rfl
  | cons hstep _ ih =>
    rw [List.map_cons, Filter.run_cons, E.step hstep]
    exact ih

/-- And back. -/
theorem exists_run {f : Filter b} (h : (E.toFilter s).run (calls.map E.toCall) = some f) :
    ∃ s', S.Run s calls s' ∧ E.toFilter s' = f := by
  induction calls generalizing s with
  | nil =>
    cases h
    exact ⟨s, .nil s, rfl⟩
  | cons k calls ih =>
    rw [List.map_cons, Filter.run_cons] at h
    obtain ⟨f₁, hcall, hrest⟩ := Option.bind_eq_some_iff.mp h
    obtain ⟨s₁, hstep, rfl⟩ := E.exists_step hcall
    obtain ⟨s', hrun, hlast⟩ := ih hrest
    exact ⟨s', .cons hstep hrun, hlast⟩

end Embedding

/-! ### Backends over the same estimator -/

namespace Backend

/-- A map between the states of two backends that every operation respects. -/
structure Hom (b c : Backend) where
  state : b.State → c.State
  model : b.Model → c.Model
  initName : c.initName = b.initName
  minImuDtS : c.minImuDtS = b.minImuDtS
  maxImuDtS : c.maxImuDtS = b.maxImuDtS
  blank : c.blank = state b.blank
  timestamp : ∀ s, c.timestamp (state s) = b.timestamp s
  setTimestamp : ∀ s t, c.setTimestamp (state s) t = state (b.setTimestamp s t)
  propagateImu : ∀ s imu dt, c.propagateImu (state s) imu dt = state (b.propagateImu s imu dt)
  initialise : ∀ s R gnss, c.initialise (state s) R gnss = state (b.initialise s R gnss)
  canHandle : ∀ x m, c.canHandle (model x) m = b.canHandle x m
  apply : ∀ x m ctx s, c.apply (model x) m ctx (state s)
    = (state (b.apply x m ctx s).1, (b.apply x m ctx s).2)

section Hom

variable {b c : Backend} (h : Hom b c)

theorem gapLoop_map (imu : ImuMeasurement) (fuel : ℕ) (s : b.State) (remaining : ℝ) :
    c.gapLoop imu fuel (h.state s) remaining = (b.gapLoop imu fuel s remaining).map h.state := by
  induction fuel generalizing s remaining with
  | zero =>
    simp only [gapLoop]
    split
    · rfl
    · rfl
  | succ fuel ih =>
    simp only [gapLoop_succ, h.propagateImu, h.maxImuDtS, ih]
    split
    · rfl
    · rfl

theorem propagateSample_map (s : b.State) (imu : ImuMeasurement) :
    c.propagateSample (h.state s) imu = (b.propagateSample s imu).map h.state := by
  simp only [propagateSample, h.timestamp, h.setTimestamp, h.minImuDtS, h.maxImuDtS, gapLoop_map h]
  split
  · rfl
  · cases timeDifference imu.timestamp (b.timestamp s) with
    | none => rfl
    | some difference =>
      dsimp only
      split
      · rfl
      · simp only [Option.map_map, Function.comp_def, h.setTimestamp]

theorem foldlM_propagateSample_map (batch : List ImuMeasurement) (s : b.State) :
    batch.foldlM c.propagateSample (h.state s)
      = (batch.foldlM b.propagateSample s).map h.state := by
  induction batch generalizing s with
  | nil => rfl
  | cons imu batch ih =>
    rw [List.foldlM_cons, List.foldlM_cons, propagateSample_map]
    cases b.propagateSample s imu with
    | none => rfl
    | some s' => exact ih s'

end Hom

end Backend

namespace Filter

variable {b c : Backend} (h : Backend.Hom b c)

/-- The estimator with its state and its models mapped. -/
def map (f : Filter b) : Filter c where
  initialised := f.initialised
  state := h.state f.state
  measurementModels := f.measurementModels.map h.model
  imuBuffer := f.imuBuffer
  lastAidingTimestamp := f.lastAidingTimestamp
  localTangentPlane := f.localTangentPlane

theorem propagateTo_map (f : Filter b) (target : Timestamp) :
    (f.map h).propagateTo target = (f.propagateTo target).map (·.map h) := by
  simp only [propagateTo, map, Backend.foldlM_propagateSample_map h, Option.map_map,
    Function.comp_def]

theorem dispatch_map (f : Filter b) (m : SensorMeasurement) :
    (f.map h).dispatch m = ((f.dispatch m).1.map h, (f.dispatch m).2) := by
  have hfind : (f.measurementModels.map h.model).find? (c.canHandle · m)
      = (f.measurementModels.find? (b.canHandle · m)).map h.model := by
    rw [List.find?_map]
    simp only [Function.comp_def, h.canHandle]
  simp only [dispatch, map, hfind]
  cases f.measurementModels.find? (b.canHandle · m) with
  | none => rfl
  | some model =>
    simp only [Option.map_some, h.apply]
    split
    · rfl
    · rfl

theorem addEarly_map (f : Filter b) (m : SensorMeasurement) :
    (f.map h).addEarly m = ((f.addEarly m).1.map h, (f.addEarly m).2) := by
  cases m with
  | gnssSolution gnss =>
    simp only [addEarly, tryInitialiseFromGnss, map, h.initialise, h.initName]
    split
    · rfl
    · split
      · rfl
      · rfl
  | _ => rfl

/-- **`AddMeasurement`** respects the map. -/
theorem addMeasurement_map (f : Filter b) (m : SensorMeasurement) :
    (f.map h).addMeasurement m = (f.addMeasurement m).map fun r => (r.1.map h, r.2) := by
  by_cases hm : m.isImu = true
  · cases m with
    | imu imu => rfl
    | _ => cases hm
  · have hnot : m.isImu = false := by simpa using hm
    rw [addMeasurement_of_not_imu _ hnot, addMeasurement_of_not_imu _ hnot]
    by_cases hinit : f.initialised = true
    · rw [if_neg (by simp [map, hinit]), if_neg (by simp [hinit])]
      simp only [propagateTo_map, Option.map_map, Function.comp_def, dispatch_map]
    · rw [if_pos (by simpa [map] using hinit), if_pos (by simpa using hinit), addEarly_map]
      rfl

/-- **`ProcessUntil`** respects the map. -/
theorem processUntil_map (f : Filter b) (timestamp : Timestamp) :
    (f.map h).processUntil timestamp
      = (f.processUntil timestamp).map fun r => (r.1.map h, r.2) := by
  by_cases hinit : f.initialised = true
  · rw [processUntil, processUntil, if_neg (by simp [map, hinit]), if_neg (by simp [hinit])]
    simp only [propagateTo_map, Option.map_map, Function.comp_def]
  · rw [processUntil, processUntil, if_pos (by simpa [map] using hinit),
      if_pos (by simpa using hinit)]
    rfl

/-- A call with its model mapped. -/
def Call.map {Model Model' : Type} (g : Model → Model') : Call Model → Call Model'
  | .registerMeasurementModel model => .registerMeasurementModel (g model)
  | .addMeasurement m => .addMeasurement m
  | .processUntil timestamp => .processUntil timestamp
  | .reset => .reset

theorem call_map (f : Filter b) (k : Call b.Model) :
    (f.map h).call (k.map h.model) = (f.call k).map (·.map h) := by
  cases k with
  | registerMeasurementModel model =>
    simp only [call, Call.map, registerMeasurementModel, map, List.map_append, List.map_cons,
      List.map_nil, Option.map_some]
  | addMeasurement m =>
    simp only [call, Call.map, addMeasurement_map, Option.map_map, Function.comp_def]
  | processUntil timestamp =>
    simp only [call, Call.map, processUntil_map, Option.map_map, Function.comp_def]
  | reset => simp only [call, Call.map, reset, map, h.blank, Option.map_some]

/-- **Every run** respects the map. -/
theorem run_map (f : Filter b) (calls : List (Call b.Model)) :
    (f.map h).run (calls.map (Call.map h.model)) = (f.run calls).map (·.map h) := by
  induction calls generalizing f with
  | nil => rfl
  | cons k calls ih =>
    rw [List.map_cons, run_cons, run_cons, call_map]
    cases f.call k with
    | none => rfl
    | some f' => exact ih f'

end Filter

/-! ### The record of the steps -/

namespace Backend

/-- The backend that records the steps since the initialisation. -/
def logged (b : Backend) : Backend where
  State := b.State × List ℝ
  Model := b.Model
  initName := b.initName
  minImuDtS := b.minImuDtS
  maxImuDtS := b.maxImuDtS
  blank := (b.blank, [])
  timestamp s := b.timestamp s.1
  setTimestamp s t := (b.setTimestamp s.1 t, s.2)
  propagateImu s imu dt := (b.propagateImu s.1 imu dt, s.2 ++ [dt])
  initialise s R gnss := (b.initialise s.1 R gnss, [])
  canHandle := b.canHandle
  apply model m ctx s := (((b.apply model m ctx s.1).1, s.2), (b.apply model m ctx s.1).2)

/-- The record is a record: no operation reads it. -/
def eraseLog (b : Backend) : Hom b.logged b where
  state := Prod.fst
  model := id
  initName := rfl
  minImuDtS := rfl
  maxImuDtS := rfl
  blank := rfl
  timestamp _ := rfl
  setTimestamp _ _ := rfl
  propagateImu _ _ _ := rfl
  initialise _ _ _ := rfl
  canHandle _ _ := rfl
  apply _ _ _ _ := rfl

end Backend

namespace Filter

variable {b : Backend}

/-- The estimator with an empty record. -/
def startRecord (f : Filter b) : Filter b.logged where
  initialised := f.initialised
  state := (f.state, [])
  measurementModels := f.measurementModels
  imuBuffer := f.imuBuffer
  lastAidingTimestamp := f.lastAidingTimestamp
  localTangentPlane := f.localTangentPlane

/-- The lengths of the steps `PropagateImu` is called with during `calls`, since the last
    initialisation among them. -/
noncomputable def recordedSteps (f : Filter b) (calls : List (Call b.Model)) :
    Option (List ℝ) :=
  (f.startRecord.run calls).map fun g => g.state.2

theorem Call.map_id {Model : Type} (k : Call Model) : k.map id = k := by
  cases k with
  | registerMeasurementModel model => rfl
  | addMeasurement m => rfl
  | processUntil timestamp => rfl
  | reset => rfl

theorem map_startRecord (f : Filter b) : f.startRecord.map b.eraseLog = f := by
  have hmodels : f.measurementModels.map (fun model => model) = f.measurementModels :=
    List.map_id' _
  show { f with measurementModels := f.measurementModels.map fun model => model } = f
  rw [hmodels]

/-- A run with the record is the run without it. -/
theorem run_startRecord (f : Filter b) (calls : List (Call b.Model)) :
    (f.startRecord.run calls).map (·.map b.eraseLog) = f.run calls := by
  have hcalls : calls.map (Call.map b.eraseLog.model) = calls := by
    show calls.map (Call.map id) = calls
    rw [List.map_congr_left fun k _ => k.map_id, List.map_id']
  have hmap := run_map b.eraseLog f.startRecord calls
  rw [map_startRecord] at hmap
  exact hmap.symm.trans (congrArg f.run hcalls)

end Filter

end FalconGuide
