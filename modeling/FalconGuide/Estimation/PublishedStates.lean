import FalconGuide.Core.SmallRotations
import FalconGuide.Core.TangentPlane
import FalconGuide.Estimation.InvalidMeasurements

namespace FalconGuide

open Lib Matrix

/-!
# What the published navigation states say

The same position and velocity stand twice in a `NavigationState`, and the attitude is a rotation
only if its quaternion has unit length.

* `Backend.Keeps` — a property of the state that every operation of a backend keeps, and
  `Filter.Anchored.call`, that every public call of the filter then keeps it;
* `keeps_unit_ekf`, `keeps_unit_ukf` — the attitude of both filters is a unit quaternion;
* `Embedding.run_plane` — the tangent plane stays until the next `Reset`;
* `InPlane` — position and velocity agree in both frames;
* `published_filters` — the main result, for every run of both filters.
-/

/-! ### Properties that a backend keeps -/

/-- Whatever is done with a state, `P` holds of it afterwards. -/
structure Backend.Keeps (b : Backend) (P : b.State → Prop) : Prop where
  blank : P b.blank
  setTimestamp : ∀ s t, P s → P (b.setTimestamp s t)
  propagateImu : ∀ s imu dt, P s → P (b.propagateImu s imu dt)
  initialise : ∀ s R gnss, P (b.initialise s R gnss)
  apply : ∀ model m ctx s, P s → P (b.apply model m ctx s).1

namespace Backend.Keeps

variable {b : Backend} {P : b.State → Prop} {s s' : b.State}

/-- Over the steps of a gap. -/
theorem gapLoop (h : b.Keeps P) {imu : ImuMeasurement} {fuel : ℕ} {remaining : ℝ} (hs : P s)
    (hloop : b.gapLoop imu fuel s remaining = some s') : P s' := by
  induction fuel generalizing s remaining with
  | zero =>
    unfold Backend.gapLoop at hloop
    split at hloop
    · cases hloop
    · cases hloop
      exact hs
  | succ fuel ih =>
    rw [gapLoop_succ] at hloop
    split at hloop
    · exact ih (h.propagateImu s imu _ hs) hloop
    · cases hloop
      exact hs

/-- Over one sample. -/
theorem propagateSample (h : b.Keeps P) {imu : ImuMeasurement} (hs : P s)
    (hsample : b.propagateSample s imu = some s') : P s' := by
  unfold Backend.propagateSample at hsample
  split at hsample
  · cases hsample
    exact h.setTimestamp s _ hs
  · split at hsample
    · cases hsample
      exact hs
    · dsimp only at hsample
      split at hsample
      · cases hsample
        exact hs
      · obtain ⟨s₁, hloop, rfl⟩ := Option.map_eq_some_iff.mp hsample
        exact h.setTimestamp s₁ _ (h.gapLoop hs hloop)

/-- Over the samples of a batch. -/
theorem samples (h : b.Keeps P) {batch : List ImuMeasurement} (hs : P s)
    (hbatch : batch.foldlM b.propagateSample s = some s') : P s' := by
  induction batch generalizing s with
  | nil =>
    cases hbatch
    exact hs
  | cons imu batch ih =>
    rw [List.foldlM_cons] at hbatch
    obtain ⟨s₁, hsample, hrest⟩ := Option.bind_eq_some_iff.mp hbatch
    exact ih (h.propagateSample hs hsample) hrest

end Backend.Keeps

namespace Filter

variable {b : Backend} {P : b.State → Prop} {f f' : Filter b}

/-- `P` holds of the state, and once it is initialised the filter has a tangent plane. -/
structure Anchored (P : b.State → Prop) (f : Filter b) : Prop where
  state : P f.state
  plane : f.initialised = true → ∃ origin, f.localTangentPlane = some (.make origin)

/-- **Propagation** keeps it. -/
theorem Anchored.propagateTo (h : f.Anchored P) (hP : b.Keeps P) {target : Timestamp}
    (hprop : f.propagateTo target = some f') : f'.Anchored P := by
  obtain ⟨s, hbatch, rfl⟩ := Option.map_eq_some_iff.mp hprop
  exact ⟨hP.samples h.state hbatch, h.plane⟩

/-- **A measurement model** keeps it. -/
theorem Anchored.dispatch (h : f.Anchored P) (hP : b.Keeps P) (m : SensorMeasurement) :
    (f.dispatch m).1.Anchored P := by
  cases hfind : f.measurementModels.find? (b.canHandle · m) with
  | none =>
    rw [dispatch_of_none hfind]
    exact h
  | some model =>
    have happly := hP.apply model m { ltp := f.localTangentPlane } f.state h.state
    by_cases hacc :
        (b.apply model m { ltp := f.localTangentPlane } f.state).2.result = .accepted
    · rw [dispatch_of_accepted hfind hacc]
      exact ⟨happly, h.plane⟩
    · rw [dispatch_of_not_accepted hfind hacc]
      exact ⟨happly, h.plane⟩

/-- **The first measurements**, up to the one that initialises. -/
theorem Anchored.addEarly (h : f.Anchored P) (hP : b.Keeps P) (m : SensorMeasurement) :
    (f.addEarly m).1.Anchored P := by
  cases m with
  | gnssSolution gnss =>
    simp only [Filter.addEarly, tryInitialiseFromGnss]
    split
    · exact h
    · split
      · exact h
      · exact ⟨hP.initialise _ _ _, fun _ => ⟨_, rfl⟩⟩
  | _ => exact h

/-- **One call.** -/
theorem Anchored.call (h : f.Anchored P) (hP : b.Keeps P) {k : Call b.Model}
    (hcall : f.call k = some f') : f'.Anchored P := by
  cases k with
  | registerMeasurementModel model =>
    cases hcall
    exact ⟨h.state, h.plane⟩
  | addMeasurement m =>
    obtain ⟨⟨f₁, report⟩, hadd, rfl⟩ := Option.map_eq_some_iff.mp hcall
    rcases addMeasurement_cases hadd with
      ⟨imu, -, heq⟩ | ⟨-, -, heq⟩ | ⟨-, -, f₂, hprop, heq⟩
    · cases heq
      exact ⟨h.state, h.plane⟩
    · have hearly := h.addEarly hP m
      rwa [heq] at hearly
    · have hdispatch := (h.propagateTo hP hprop).dispatch hP m
      rwa [heq] at hdispatch
  | processUntil timestamp =>
    obtain ⟨⟨f₁, result⟩, hproc, rfl⟩ := Option.map_eq_some_iff.mp hcall
    rcases processUntil_cases hproc with rfl | ⟨-, hprop⟩
    · exact h
    · exact h.propagateTo hP hprop
  | reset =>
    cases hcall
    exact ⟨hP.blank, fun hinit => absurd hinit Bool.false_ne_true⟩

/-- A new filter. -/
theorem anchored_new (hP : b.Keeps P) : ({} : Filter b).Anchored P :=
  ⟨hP.blank, fun hinit => absurd hinit Bool.false_ne_true⟩

end Filter

/-- **Every run.** Of an estimator whose calls are those of the filter. -/
theorem Embedding.anchored {σ κ : Type} {S : System σ κ} {b : Backend} (E : Embedding S b)
    {P : b.State → Prop} (hP : b.Keeps P) (hnew : ∀ s, S.init s → E.toFilter s = {}) {s : σ}
    (h : S.Reachable s) : (E.toFilter s).Anchored P := by
  induction h with
  | init hinit =>
    rw [hnew _ hinit]
    exact Filter.anchored_new hP
  | step _ hstep ih => exact ih.call hP (E.step hstep)

/-! ### Attitudes -/

/-- A turned attitude that is normalised is a unit quaternion. -/
theorem normSq_turned {q : Quat} (h : Quaternion.normSq q = 1) (v : Vec3) :
    Quaternion.normSq (q * expMapSo3 v).normalized = 1 := by
  apply Quat.normSq_normalized
  rw [map_mul, h, normSq_expMapSo3, one_mul]
  exact one_pos

/-- The error-state filter. -/
theorem keeps_unit_ekf (eigen : Eigen) (options : EkfOptions) :
    (ekfBackend eigen options).Keeps fun s =>
      Quaternion.normSq s.nominal.orientationBodyToEnu = 1 where
  blank := map_one _
  setTimestamp _ _ hs := hs
  propagateImu _ _ _ hs := normSq_turned hs _
  initialise _ _ _ := map_one _
  apply model m ctx s hs := by
    show Quaternion.normSq (ekfStep eigen model m ctx s).1.nominal.orientationBodyToEnu = 1
    unfold ekfStep
    dsimp only
    split
    · exact normSq_turned hs _
    · exact hs

namespace Ukf

/-- The mean attitude is a unit quaternion, whatever is averaged. -/
theorem normSq_averageLoop (w : Fin numSigmaPoints → ℝ) (q : Fin numSigmaPoints → Quat)
    (iterations : ℕ) {qMean : Quat} (h : Quaternion.normSq qMean = 1) :
    Quaternion.normSq (averageLoop w q iterations qMean) = 1 := by
  induction iterations generalizing qMean with
  | zero => exact h
  | succ iterations ih =>
    unfold averageLoop
    dsimp only
    split
    · exact normSq_turned h _
    · exact ih (normSq_turned h _)

end Ukf

/-- The unscented filter. -/
theorem keeps_unit_ukf (d : Ukf.Decompositions) (options : Ukf.UkfOptions) :
    (ukfBackend d options).Keeps fun s =>
      Quaternion.normSq s.nominal.orientationBodyToEnu = 1 where
  blank := map_one _
  setTimestamp _ _ hs := hs
  propagateImu s imu dt hs := by
    have hnominal : (Ukf.generateSigmaPoints d options.sigmaParams s).nominal = s.nominal := by
      unfold Ukf.generateSigmaPoints
      dsimp only
      split
      · rfl
      · rfl
    refine Ukf.normSq_averageLoop _ _ _ (normSq_turned ?_ _)
    refine normSq_turned ?_ _
    rw [hnominal]
    exact hs
  initialise _ _ _ := map_one _
  apply model m ctx s hs := by
    have hnominal : (Ukf.generateSigmaPoints d options.sigmaParams s).nominal = s.nominal := by
      unfold Ukf.generateSigmaPoints
      dsimp only
      split
      · rfl
      · rfl
    show Quaternion.normSq (Ukf.applyMeasurementModel d options.sigmaParams model m ctx
      s).1.nominal.orientationBodyToEnu = 1
    unfold Ukf.applyMeasurementModel
    split
    · exact hs
    · refine normSq_turned ?_ _
      rw [hnominal]
      exact hs

/-! ### One frame -/

namespace Filter

variable {b : Backend} {f f' : Filter b}

/-- Until the next `Reset`, the filter stays initialised and keeps its tangent plane. -/
theorem call_plane (hinit : f.initialised = true) {k : Call b.Model} (hk : k ≠ .reset)
    (hcall : f.call k = some f') :
    f'.initialised = true ∧ f'.localTangentPlane = f.localTangentPlane := by
  have hpropagate : ∀ {target f₁}, f.propagateTo target = some f₁ →
      f₁.initialised = true ∧ f₁.localTangentPlane = f.localTangentPlane := by
    intro target f₁ hprop
    obtain ⟨s, -, rfl⟩ := Option.map_eq_some_iff.mp hprop
    exact ⟨hinit, rfl⟩
  have hdispatch : ∀ (f₁ : Filter b) (m : SensorMeasurement),
      (f₁.dispatch m).1.initialised = f₁.initialised ∧
        (f₁.dispatch m).1.localTangentPlane = f₁.localTangentPlane := by
    intro f₁ m
    unfold dispatch
    split
    · exact ⟨rfl, rfl⟩
    · dsimp only
      split
      · exact ⟨rfl, rfl⟩
      · exact ⟨rfl, rfl⟩
  cases k with
  | registerMeasurementModel model =>
    cases hcall
    exact ⟨hinit, rfl⟩
  | addMeasurement m =>
    obtain ⟨⟨f₁, report⟩, hadd, rfl⟩ := Option.map_eq_some_iff.mp hcall
    rcases addMeasurement_cases hadd with
      ⟨imu, -, heq⟩ | ⟨-, hnot, -⟩ | ⟨-, -, f₂, hprop, heq⟩
    · cases heq
      exact ⟨hinit, rfl⟩
    · rw [hinit] at hnot
      cases hnot
    · obtain ⟨hinit', hplane'⟩ := hpropagate hprop
      obtain ⟨hinit'', hplane''⟩ := hdispatch f₂ m
      rw [heq] at hinit'' hplane''
      exact ⟨hinit''.trans hinit', hplane''.trans hplane'⟩
  | processUntil timestamp =>
    obtain ⟨⟨f₁, result⟩, hproc, rfl⟩ := Option.map_eq_some_iff.mp hcall
    rcases processUntil_cases hproc with rfl | ⟨-, hprop⟩
    · exact ⟨hinit, rfl⟩
    · exact hpropagate hprop
  | reset => exact absurd rfl hk

end Filter

/-- **Between two resets.** An initialised estimator stays initialised, in the same plane. -/
theorem Embedding.run_plane {σ κ : Type} {S : System σ κ} {b : Backend} (E : Embedding S b)
    {s s' : σ} {calls : List κ} (hinit : (E.toFilter s).initialised = true)
    (hcalls : ∀ k ∈ calls, E.toCall k ≠ .reset) (hrun : S.Run s calls s') :
    (E.toFilter s').initialised = true ∧
      (E.toFilter s').localTangentPlane = (E.toFilter s).localTangentPlane := by
  induction hrun with
  | nil s => exact ⟨hinit, rfl⟩
  | cons hstep _ ih =>
    obtain ⟨hfirst, hrest⟩ := List.forall_mem_cons.mp hcalls
    obtain ⟨hinit', hplane'⟩ := Filter.call_plane hinit hfirst (E.step hstep)
    obtain ⟨hinit'', hplane''⟩ := ih hinit' hrest
    exact ⟨hinit'', hplane''.trans hplane'⟩

/-! ### Published states -/

/-- Position and velocity are the same in both frames of the tangent plane at `origin`. -/
structure InPlane (origin : Lla) (s : NavigationState) : Prop where
  toEcef : (LocalTangentPlane.make origin).enuToEcef s.positionEnuM = s.positionEcefM
  toEnu : (LocalTangentPlane.make origin).ecefToEnu s.positionEcefM = s.positionEnuM
  velocity : (LocalTangentPlane.make origin).ecefToEnuRotation *ᵥ s.velocityEcefMps
    = s.velocityEnuMps
  speed : euclideanNorm s.velocityEcefMps = euclideanNorm s.velocityEnuMps

/-- What is converted agrees in both frames. -/
theorem inPlane_of_ecef {s : NavigationState} {origin : Lla}
    (hposition : s.positionEcefM = (LocalTangentPlane.make origin).enuToEcef s.positionEnuM)
    (hvelocity : s.velocityEcefMps
      = (LocalTangentPlane.make origin).ecefToEnuRotationᵀ *ᵥ s.velocityEnuMps) :
    InPlane origin s := by
  have hright : (LocalTangentPlane.make origin).ecefToEnuRotation
      * (LocalTangentPlane.make origin).ecefToEnuRotationᵀ = 1 :=
    ecefToEnuRotation_mul_transpose _ _
  have hback : (LocalTangentPlane.make origin).ecefToEnuRotation *ᵥ s.velocityEcefMps
      = s.velocityEnuMps := by
    rw [hvelocity, mulVec_mulVec, hright, one_mulVec]
  refine ⟨hposition.symm, ?_, hback, ?_⟩
  · rw [hposition, LocalTangentPlane.ecefToEnu_enuToEcef]
  · rw [← hback]
    exact (euclideanNorm_mulVec (ecefToEnuRotation_transpose_mul _ _) _).symm

/-- What the error-state filter publishes agrees in both frames. -/
theorem EkfEstimator.inPlane_buildNavigationState {options : EkfOptions}
    {e : EkfEstimator options} {origin : Lla}
    (hplane : e.localTangentPlane = some (.make origin)) :
    InPlane origin e.buildNavigationState ∧
      e.buildNavigationState.orientationBodyToEnu = e.state.nominal.orientationBodyToEnu := by
  unfold buildNavigationState
  rw [hplane]
  dsimp only
  -- neither the covariance nor the status concerns them
  split
  · split
    · exact ⟨inPlane_of_ecef rfl rfl, rfl⟩
    · exact ⟨inPlane_of_ecef rfl rfl, rfl⟩
  · split
    · exact ⟨inPlane_of_ecef rfl rfl, rfl⟩
    · exact ⟨inPlane_of_ecef rfl rfl, rfl⟩

/-- And so does what the unscented filter publishes. -/
theorem Ukf.UkfEstimator.inPlane_buildNavigationState {options : Ukf.UkfOptions}
    {e : Ukf.UkfEstimator options} {origin : Lla}
    (hplane : e.localTangentPlane = some (.make origin)) :
    InPlane origin e.buildNavigationState ∧
      e.buildNavigationState.orientationBodyToEnu = e.state.nominal.orientationBodyToEnu := by
  unfold buildNavigationState
  rw [hplane]
  exact ⟨inPlane_of_ecef rfl rfl, rfl⟩

/-- **Every state that a filter publishes**, whatever the measurements and the models are: the
    attitude is a unit quaternion, and position and velocity agree in ECEF and ENU, in one tangent
    plane for all states from an initialisation to the next `Reset`.  All numbers are exact reals:
    nothing is rounded and nothing is a NaN. -/
theorem published_filters :
    (∀ (eigen : Eigen) (options : EkfOptions) (e : EkfEstimator options),
      (EkfEstimator.system eigen options).Reachable e → e.initialised = true →
      ∃ origin, ∀ calls e', (EkfEstimator.system eigen options).Run e calls e' →
        (∀ k ∈ calls, k ≠ .reset) → ∃ s, e'.latestState = some s ∧
          Quaternion.normSq s.orientationBodyToEnu = 1 ∧ InPlane origin s) ∧
    (∀ (d : Ukf.Decompositions) (options : Ukf.UkfOptions) (e : Ukf.UkfEstimator options),
      (Ukf.UkfEstimator.system d options).Reachable e → e.initialised = true →
      ∃ origin, ∀ calls e', (Ukf.UkfEstimator.system d options).Run e calls e' →
        (∀ k ∈ calls, k ≠ .reset) → ∃ s, e'.latestState = some s ∧
          Quaternion.normSq s.orientationBodyToEnu = 1 ∧ InPlane origin s) := by
  constructor
  · intro eigen options e hreach hinit
    let E := EkfEstimator.embedding eigen options
    have hnew : ∀ s, (EkfEstimator.system eigen options).init s → E.toFilter s = {} := by
      intro s hs
      subst hs
      rfl
    obtain ⟨origin, hplane⟩ := (E.anchored (keeps_unit_ekf eigen options) hnew hreach).plane hinit
    refine ⟨origin, ?_⟩
    intro calls e' hrun hcalls
    have hkinds : ∀ k ∈ calls, E.toCall k ≠ .reset := by
      intro k hk hreset
      cases k with
      | reset => exact hcalls _ hk rfl
      | _ => cases hreset
    obtain ⟨hinit', hplane'⟩ := E.run_plane hinit hkinds hrun
    have hunit := (E.anchored (keeps_unit_ekf eigen options) hnew (hreach.run hrun)).state
    obtain ⟨hin, horientation⟩ :=
      EkfEstimator.inPlane_buildNavigationState (e := e') (hplane'.trans hplane)
    refine ⟨e'.buildNavigationState, if_neg (by simp [show e'.initialised = true from hinit']), ?_,
      hin⟩
    rw [horientation]
    exact hunit
  · intro d options e hreach hinit
    let E := Ukf.UkfEstimator.embedding d options
    have hnew : ∀ s, (Ukf.UkfEstimator.system d options).init s → E.toFilter s = {} := by
      intro s hs
      subst hs
      rfl
    obtain ⟨origin, hplane⟩ := (E.anchored (keeps_unit_ukf d options) hnew hreach).plane hinit
    refine ⟨origin, ?_⟩
    intro calls e' hrun hcalls
    have hkinds : ∀ k ∈ calls, E.toCall k ≠ .reset := by
      intro k hk hreset
      cases k with
      | reset => exact hcalls _ hk rfl
      | _ => cases hreset
    obtain ⟨hinit', hplane'⟩ := E.run_plane hinit hkinds hrun
    have hunit := (E.anchored (keeps_unit_ukf d options) hnew (hreach.run hrun)).state
    obtain ⟨hin, horientation⟩ :=
      Ukf.UkfEstimator.inPlane_buildNavigationState (e := e') (hplane'.trans hplane)
    refine ⟨e'.buildNavigationState, if_neg (by simp [show e'.initialised = true from hinit']), ?_,
      hin⟩
    rw [horientation]
    exact hunit

/-- Both filters after a fix. -/
theorem published_filters_fix :
    (∃ origin s, (({} : EkfEstimator {}).tryInitialiseFromGnss validFix).1.latestState = some s ∧
      Quaternion.normSq s.orientationBodyToEnu = 1 ∧ InPlane origin s) ∧
    (∃ origin s, (({} : Ukf.UkfEstimator {}).tryInitialiseFromGnss validFix).1.latestState
        = some s ∧
      Quaternion.normSq s.orientationBodyToEnu = 1 ∧ InPlane origin s) := by
  constructor
  · obtain ⟨origin, hpublished⟩ := published_filters.1 .exact {} _
      (.step (.init rfl) (.addMeasurement {} _ (.gnssSolution validFix) _ rfl)) rfl
    obtain ⟨s, hs⟩ := hpublished [] _ (.nil _) (by simp)
    exact ⟨origin, s, hs⟩
  · obtain ⟨origin, hpublished⟩ := published_filters.2 .exact {} _
      (.step (.init rfl) (.addMeasurement {} _ (.gnssSolution validFix) _ rfl)) rfl
    obtain ⟨s, hs⟩ := hpublished [] _ (.nil _) (by simp)
    exact ⟨origin, s, hs⟩

end FalconGuide
