import FalconGuide.Estimation.FilterBackends
import FalconGuide.Ukf.Update

namespace FalconGuide

/-!
# A reset estimator is a new one

`Reset` keeps the options and the registered models.  Everything else of the two filters, their
buffer of inertial samples included, it leaves as the constructor does, so that nobody can tell a
filter that was reset from one that was never used.

* `Query` / `Answer` — what a client asks an estimator, and what it is told;
* `NavigationInterface` — how an estimator answers, and `answers` to a sequence of queries;
* `Filter.reset_of_run` — after any calls, `reset` gives a new filter with the models registered;
* `reset_as_new` — so every answer after `Reset` is that of a new estimator.
-/

/-! ### Queries -/

/-- A call of a client that is told something. -/
inductive Query
  | addMeasurement (m : SensorMeasurement)
  | processUntil (timestamp : Timestamp)
  | isInitialized
  | latestState

/-- What it is told. -/
inductive Answer
  | report (report : MeasurementUpdateReport)
  | result (result : EstimatorUpdateResult)
  | initialized (initialized : Bool)
  | state (state : Option NavigationState)

/-- The part of `INavigationEstimator` that answers, `none` for a call that does not return. -/
structure NavigationInterface (σ : Type) where
  addMeasurement : σ → SensorMeasurement → Option (σ × MeasurementUpdateReport)
  processUntil : σ → Timestamp → Option (σ × EstimatorUpdateResult)
  isInitialized : σ → Bool
  latestState : σ → Option NavigationState

namespace NavigationInterface

variable {σ : Type} (I : NavigationInterface σ)

/-- One query: the estimator after it, and the answer. -/
def ask (s : σ) : Query → Option (σ × Answer)
  | .addMeasurement m => (I.addMeasurement s m).map fun r => (r.1, .report r.2)
  | .processUntil timestamp => (I.processUntil s timestamp).map fun r => (r.1, .result r.2)
  | .isInitialized => some (s, .initialized (I.isInitialized s))
  | .latestState => some (s, .state (I.latestState s))

/-- The answers to a sequence of queries.  A call that does not return is the last. -/
def answers (s : σ) : List Query → List (Option Answer)
  | [] => []
  | q :: qs =>
    match I.ask s q with
    | none => [none]
    | some (s, answer) => some answer :: answers s qs

end NavigationInterface

/-- `EkfEstimator` as an `INavigationEstimator`. -/
noncomputable def EkfEstimator.interface (eigen : Eigen) (options : EkfOptions) :
    NavigationInterface (EkfEstimator options) where
  addMeasurement := addMeasurement eigen
  processUntil := processUntil
  isInitialized := initialised
  latestState := latestState

/-- `UkfEstimator` as an `INavigationEstimator`. -/
noncomputable def Ukf.UkfEstimator.interface (d : Decompositions) (options : UkfOptions) :
    NavigationInterface (UkfEstimator options) where
  addMeasurement := addMeasurement d
  processUntil := processUntil d
  isInitialized := initialised
  latestState := latestState

/-! ### What no call changes -/

/-- The bound and the insertion policy of a buffer outlive every insert. -/
theorem TimeOrderedBuffer.insert_clear {M : Type} (time : M → Timestamp)
    (b : TimeOrderedBuffer M) (m : M) : (b.insert time m).1.clear = b.clear := by
  have henforce : ∀ (xs : List M) (r : BufferInsertResult),
      (enforceMaxSize { b with measurements := xs } r).1.clear = b.clear := by
    intro xs r
    unfold enforceMaxSize
    split
    · rfl
    · rfl
  unfold insert
  split
  · rfl
  · split
    · exact henforce _ _
    · exact henforce _ _
    · rfl
    · split
      · rfl
      · split
        · rfl
        · exact henforce _ _

namespace Filter

variable {b : Backend} {f f' : Filter b}

/-- The model that a call registers. -/
def Call.registered {Model : Type} : Call Model → Option Model
  | .registerMeasurementModel model => some model
  | _ => none

/-- What a call leaves of the settings: those of the buffer, and the models, to which it may add
    one. -/
structure SameSettings (registered : List b.Model) (f f' : Filter b) : Prop where
  imuBuffer : f'.imuBuffer.clear = f.imuBuffer.clear
  measurementModels : f'.measurementModels = f.measurementModels ++ registered

theorem SameSettings.refl (f : Filter b) : SameSettings [] f f :=
  ⟨rfl, (List.append_nil _).symm⟩

theorem SameSettings.trans {xs ys : List b.Model} {f₁ f₂ f₃ : Filter b}
    (h : SameSettings xs f₁ f₂) (h' : SameSettings ys f₂ f₃) : SameSettings (xs ++ ys) f₁ f₃ where
  imuBuffer := h'.imuBuffer.trans h.imuBuffer
  measurementModels := by
    rw [h'.measurementModels, h.measurementModels, List.append_assoc]

theorem propagateTo_sameSettings {target : Timestamp} (h : f.propagateTo target = some f') :
    SameSettings [] f f' := by
  obtain ⟨s, -, rfl⟩ := Option.map_eq_some_iff.mp h
  exact ⟨rfl, (List.append_nil _).symm⟩

theorem dispatch_sameSettings (f : Filter b) (m : SensorMeasurement) :
    SameSettings [] f (f.dispatch m).1 := by
  unfold dispatch
  split
  · exact .refl f
  · dsimp only
    split
    · exact ⟨rfl, (List.append_nil _).symm⟩
    · exact ⟨rfl, (List.append_nil _).symm⟩

theorem tryInitialiseFromGnss_sameSettings (f : Filter b) (gnss : GnssSolution) :
    SameSettings [] f (f.tryInitialiseFromGnss gnss).1 := by
  unfold tryInitialiseFromGnss
  split
  · exact .refl f
  · split
    · exact .refl f
    · exact ⟨rfl, (List.append_nil _).symm⟩

theorem addEarly_sameSettings (f : Filter b) (m : SensorMeasurement) :
    SameSettings [] f (f.addEarly m).1 := by
  cases m with
  | gnssSolution gnss => exact tryInitialiseFromGnss_sameSettings f gnss
  | _ => exact .refl f

theorem addMeasurement_sameSettings {m : SensorMeasurement} {report : MeasurementUpdateReport}
    (h : f.addMeasurement m = some (f', report)) : SameSettings [] f f' := by
  rcases addMeasurement_cases h with
    ⟨imu, rfl, hadd⟩ | ⟨-, -, hadd⟩ | ⟨-, -, f₁, hpropagate, hdispatch⟩
  · cases hadd
    exact ⟨TimeOrderedBuffer.insert_clear _ _ _, (List.append_nil _).symm⟩
  · have hearly := addEarly_sameSettings f m
    rw [hadd] at hearly
    exact hearly
  · have hsame := (propagateTo_sameSettings hpropagate).trans (dispatch_sameSettings f₁ m)
    rw [hdispatch] at hsame
    exact hsame

theorem processUntil_sameSettings {timestamp : Timestamp} {result : EstimatorUpdateResult}
    (h : f.processUntil timestamp = some (f', result)) : SameSettings [] f f' := by
  rcases processUntil_cases h with rfl | ⟨-, hpropagate⟩
  · exact .refl f'
  · exact propagateTo_sameSettings hpropagate

/-- **One call** keeps the settings. -/
theorem call_sameSettings {c : Call b.Model} (h : f.call c = some f') :
    SameSettings c.registered.toList f f' := by
  cases c with
  | registerMeasurementModel model =>
    cases h
    exact ⟨rfl, rfl⟩
  | addMeasurement m =>
    obtain ⟨⟨f₁, report⟩, hadd, rfl⟩ := Option.map_eq_some_iff.mp h
    exact addMeasurement_sameSettings hadd
  | processUntil timestamp =>
    obtain ⟨⟨f₁, result⟩, hprocess, rfl⟩ := Option.map_eq_some_iff.mp h
    exact processUntil_sameSettings hprocess
  | reset =>
    cases h
    exact ⟨rfl, (List.append_nil _).symm⟩

/-- **And so do several.** -/
theorem run_sameSettings {calls : List (Call b.Model)} (h : f.run calls = some f') :
    SameSettings (calls.filterMap Call.registered) f f' := by
  induction calls generalizing f with
  | nil =>
    cases h
    exact .refl _
  | cons c calls ih =>
    rw [run_cons] at h
    obtain ⟨f₁, hcall, hrest⟩ := Option.bind_eq_some_iff.mp h
    have hsame := (call_sameSettings hcall).trans (ih hrest)
    cases hreg : c.registered with
    | none =>
      rw [hreg] at hsame
      rw [List.filterMap_cons_none hreg]
      exact hsame
    | some model =>
      rw [hreg] at hsame
      rw [List.filterMap_cons_some hreg]
      exact hsame

/-- A new filter with some models registered. -/
def new (b : Backend) (models : List b.Model) : Filter b :=
  models.foldl registerMeasurementModel {}

theorem new_eq (models : List b.Model) : new b models = { measurementModels := models } := by
  have hfold : ∀ f : Filter b, models.foldl registerMeasurementModel f
      = { f with measurementModels := f.measurementModels ++ models } := by
    induction models with
    | nil =>
      intro f
      simp
    | cons model models ih =>
      intro f
      rw [List.foldl_cons, ih]
      simp [registerMeasurementModel]
  exact hfold {}

/-- **After any calls** `reset` gives a new filter with the models registered. -/
theorem reset_of_run {calls : List (Call b.Model)} {models : List b.Model}
    (h : (new b models).run calls = some f) :
    f.reset = new b (models ++ calls.filterMap Call.registered) := by
  have hsame := run_sameSettings h
  rw [new_eq] at hsame
  rw [new_eq, reset, hsame.imuBuffer, hsame.measurementModels]
  rfl

end Filter

/-! ### The two filters -/

namespace EkfEstimator

variable {eigen : Eigen} {options : EkfOptions}

/-- The model that a call registers. -/
def Call.registered : Call → Option MeasurementModel
  | .registerMeasurementModel model => some model
  | _ => none

/-- A constructed filter with some models registered. -/
def new (options : EkfOptions) (models : List MeasurementModel) : EkfEstimator options :=
  models.foldl registerMeasurementModel {}

theorem toFilter_new (models : List MeasurementModel) :
    (new options models).toFilter eigen = Filter.new (ekfBackend eigen options) models := by
  have hfold : ∀ e : EkfEstimator options, (models.foldl registerMeasurementModel e).toFilter eigen
      = models.foldl Filter.registerMeasurementModel (e.toFilter eigen) := by
    induction models with
    | nil =>
      intro e
      rfl
    | cons model models ih =>
      intro e
      exact ih (e.registerMeasurementModel model)
  exact hfold {}

/-- **After any calls** `reset` gives a constructed filter with the models registered. -/
theorem reset_of_run {models : List MeasurementModel} {calls : List Call}
    {e : EkfEstimator options} (h : (system eigen options).Run (new options models) calls e) :
    e.reset = new options (models ++ calls.filterMap Call.registered) := by
  have hrun := (embedding eigen options).run h
  have hregistered : (calls.map Call.toFilter).filterMap
      (Filter.Call.registered : Filter.Call (ekfBackend eigen options).Model → _)
        = calls.filterMap Call.registered := by
    rw [List.filterMap_map]
    congr 1
    funext c
    cases c with
    | _ => rfl
  apply @toFilter_injective eigen options
  show (e.toFilter eigen).reset = _
  rw [toFilter_new, ← hregistered]
  refine Filter.reset_of_run ?_
  rw [← toFilter_new]
  exact hrun

end EkfEstimator

namespace Ukf.UkfEstimator

variable {d : Decompositions} {options : UkfOptions}

/-- The model that a call registers. -/
def Call.registered : Call → Option MeasurementModel
  | .registerMeasurementModel model => some model
  | _ => none

/-- A constructed filter with some models registered. -/
def new (options : UkfOptions) (models : List MeasurementModel) : UkfEstimator options :=
  models.foldl registerMeasurementModel {}

theorem toFilter_new (models : List MeasurementModel) :
    (new options models).toFilter d = Filter.new (ukfBackend d options) models := by
  have hfold : ∀ e : UkfEstimator options, (models.foldl registerMeasurementModel e).toFilter d
      = models.foldl Filter.registerMeasurementModel (e.toFilter d) := by
    induction models with
    | nil =>
      intro e
      rfl
    | cons model models ih =>
      intro e
      exact ih (e.registerMeasurementModel model)
  exact hfold {}

/-- **After any calls** `reset` gives a constructed filter with the models registered. -/
theorem reset_of_run {models : List MeasurementModel} {calls : List Call}
    {e : UkfEstimator options} (h : (system d options).Run (new options models) calls e) :
    e.reset = new options (models ++ calls.filterMap Call.registered) := by
  have hrun := (embedding d options).run h
  have hregistered : (calls.map Call.toFilter).filterMap
      (Filter.Call.registered : Filter.Call (ukfBackend d options).Model → _)
        = calls.filterMap Call.registered := by
    rw [List.filterMap_map]
    congr 1
    funext c
    cases c with
    | _ => rfl
  apply @toFilter_injective d options
  show (e.toFilter d).reset = _
  rw [toFilter_new, ← hregistered]
  refine Filter.reset_of_run ?_
  rw [← toFilter_new]
  exact hrun

end Ukf.UkfEstimator

/-- **A reset estimator is a new one.** Whatever was called before `Reset`, every sequence of
    queries after it is answered as by an estimator that was constructed with the same options and
    the same models. -/
theorem reset_as_new :
    (∀ (eigen : Eigen) (options : EkfOptions) (models : List MeasurementModel)
      (history : List EkfEstimator.Call) (e : EkfEstimator options) (queries : List Query),
      (EkfEstimator.system eigen options).Run (.new options models) history e →
      (EkfEstimator.interface eigen options).answers e.reset queries
        = (EkfEstimator.interface eigen options).answers
            (.new options (models ++ history.filterMap EkfEstimator.Call.registered)) queries) ∧
    (∀ (d : Ukf.Decompositions) (options : Ukf.UkfOptions) (models : List Ukf.MeasurementModel)
      (history : List Ukf.UkfEstimator.Call) (e : Ukf.UkfEstimator options)
      (queries : List Query),
      (Ukf.UkfEstimator.system d options).Run (.new options models) history e →
      (Ukf.UkfEstimator.interface d options).answers e.reset queries
        = (Ukf.UkfEstimator.interface d options).answers
            (.new options (models ++ history.filterMap Ukf.UkfEstimator.Call.registered))
            queries) := by
  constructor
  · intro eigen options models history e queries hrun
    rw [EkfEstimator.reset_of_run hrun]
  · intro d options models history e queries hrun
    rw [Ukf.UkfEstimator.reset_of_run hrun]

/-- Both filters have a barometer, are initialised and hold a sample when they are reset, and are
    then asked for their state before and after another fix. -/
theorem reset_as_new_initialised :
    let fix : SensorMeasurement :=
      .gnssSolution { positionEcefM := ![6378137, 0, 0], fixType := .single }
    let queries : List Query := [.isInitialized, .latestState, .addMeasurement fix,
      .processUntil (.ofSteady 1), .isInitialized, .latestState]
    (∃ e : EkfEstimator {}, e.initialised = true ∧ e.imuBuffer.measurements ≠ [] ∧
      (EkfEstimator.interface .exact {}).answers e.reset queries
        = (EkfEstimator.interface .exact {}).answers (.new {} [.barometer {}]) queries) ∧
    (∃ e : Ukf.UkfEstimator {}, e.initialised = true ∧ e.imuBuffer.measurements ≠ [] ∧
      (Ukf.UkfEstimator.interface .exact {}).answers e.reset queries
        = (Ukf.UkfEstimator.interface .exact {}).answers (.new {} [Ukf.barometer {}]) queries) := by
  intro fix queries
  let imu : SensorMeasurement := .imu {}
  constructor
  · let e₀ := (EkfEstimator.new {} []).registerMeasurementModel (.barometer {})
    let e₁ := (e₀.tryInitialiseFromGnss
      { positionEcefM := ![6378137, 0, 0], fixType := .single }).1
    have hrun : (EkfEstimator.system .exact {}).Run (.new {} [])
        [.registerMeasurementModel (.barometer {}), .addMeasurement fix, .addMeasurement imu]
        { e₁ with imuBuffer := { maxSize := 2000, measurements := [{}] } } :=
      .cons (.registerMeasurementModel _ _) (.cons (.addMeasurement e₀ e₁ fix _ rfl)
        (.cons (.addMeasurement e₁ _ imu _ rfl) (.nil _)))
    exact ⟨_, rfl, by simp, reset_as_new.1 .exact {} _ _ _ queries hrun⟩
  · let e₀ := (Ukf.UkfEstimator.new {} []).registerMeasurementModel (Ukf.barometer {})
    let e₁ := (e₀.tryInitialiseFromGnss
      { positionEcefM := ![6378137, 0, 0], fixType := .single }).1
    have hrun : (Ukf.UkfEstimator.system .exact {}).Run (.new {} [])
        [.registerMeasurementModel (Ukf.barometer {}), .addMeasurement fix, .addMeasurement imu]
        { e₁ with imuBuffer := { maxSize := 2000, measurements := [{}] } } :=
      .cons (.registerMeasurementModel _ _) (.cons (.addMeasurement e₀ e₁ fix _ rfl)
        (.cons (.addMeasurement e₁ _ imu _ rfl) (.nil _)))
    exact ⟨_, rfl, by simp, reset_as_new.2 .exact {} _ _ _ queries hrun⟩

end FalconGuide
