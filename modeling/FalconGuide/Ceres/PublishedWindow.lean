import FalconGuide.Ceres.FactorCovariance
import FalconGuide.Estimation.PublishedStates

namespace FalconGuide

open Lib Matrix CeresSlidingWindowEstimator

/-!
# What the sliding window publishes

`latest_state_` is written by `BuildNavigationState` and then only read, while the window goes on to
change.

* `ShowsNewest` — the published state is that of the newest keyframe;
* `Shown` — what every state of an estimator keeps of it;
* `plane_step` — the tangent plane stays until the next `Reset`;
* `rotating` — the runs in which the libraries write no zero quaternion, and `NeverZero`, what they
  keep;
* `published_window` — the main result, for every run.
-/

namespace CeresSlidingWindowEstimator

variable {options : CeresOptions} {e e' : CeresSlidingWindowEstimator options}

/-- The published state is the newest keyframe. -/
structure ShowsNewest (e : CeresSlidingWindowEstimator options) : Prop where
  timestamp : e.latestState.timestamp = e.newest.timestamp
  position : e.latestState.positionEnuM = e.newest.position
  velocity : e.latestState.velocityEnuMps = e.newest.velocity
  orientation : e.latestState.orientationBodyToEnu = e.newest.Q

/-- The published state is in the plane of the estimator, and shows the newest keyframe. -/
structure Shown (e : CeresSlidingWindowEstimator options) : Prop where
  inPlane : ∃ origin, e.ltp = some (.make origin) ∧ InPlane origin e.latestState
  orientation : ∃ q : Quat, e.latestState.orientationBodyToEnu = q.normalized
  newest : e.window ≠ [] → e.ShowsNewest

/-- `BuildNavigationState` shows the newest keyframe. -/
theorem shown_buildNavigationState {kf : WindowKeyframe}
    (hplane : ∃ origin, e.ltp = some (.make origin)) (hkf : e.window ≠ [] → kf = e.newest) :
    (e.buildNavigationState kf).Shown where
  inPlane := by
    obtain ⟨origin, horigin⟩ := hplane
    have hmake : e.plane = .make origin := by rw [plane, horigin, Option.getD_some]
    refine ⟨origin, horigin, inPlane_of_ecef ?_ ?_⟩
    · show e.plane.enuToEcef kf.position = _
      rw [hmake]
      rfl
    · show e.plane.ecefToEnuRotationᵀ *ᵥ kf.velocity = _
      rw [hmake]
      rfl
  orientation := ⟨kf.rotation, rfl⟩
  newest := by
    intro hwindow
    have heq : kf = (e.buildNavigationState kf).newest := hkf hwindow
    exact ⟨congrArg WindowKeyframe.timestamp heq, congrArg (fun kf => kf.position) heq,
      congrArg (fun kf => kf.velocity) heq, congrArg WindowKeyframe.Q heq⟩

/-- **One fix.** -/
theorem shown_addGnss (h : e.initialised = true → e.Shown) (lib : CeresLibrary)
    (gnss : GnssSolution) (hinit : (e.addGnss lib gnss).1.initialised = true) :
    (e.addGnss lib gnss).1.Shown := by
  rcases addGnss_cases lib e gnss with
    ⟨_, heq⟩ | ⟨_, _, heq⟩ | ⟨_, hbefore, ⟨_, heq⟩ | ⟨_, heq⟩⟩
  · rw [heq] at hinit ⊢
    exact h hinit
  · rw [heq]
    exact shown_buildNavigationState ⟨_, rfl⟩ fun _ => rfl
  · rw [heq]
    obtain ⟨origin, horigin, _⟩ := (h hbefore).inPlane
    exact shown_buildNavigationState ⟨origin, horigin⟩ fun _ => rfl
  · rw [heq]
    obtain ⟨origin, horigin, _⟩ := (h hbefore).inPlane
    refine shown_buildNavigationState ⟨origin, horigin⟩ ?_
    intro hwindow
    -- the changed keyframe is put where it was
    show _ = (e.window.set (e.window.length - 1) _).getLastD {}
    have hlength : e.window.length ≠ 0 := by
      intro hzero
      rw [List.length_eq_zero_iff] at hzero
      refine hwindow ?_
      show e.window.set _ _ = []
      rw [hzero]
      rfl
    rw [List.getLastD_eq_getLast?, List.getLast?_eq_getElem?, List.length_set,
      List.getElem?_set_self (by omega)]
    rfl

/-- **Every run.** -/
theorem shown_of_reachable (h : (system options).Reachable e) (hinit : e.initialised = true) :
    e.Shown := by
  induction h with
  | init hnew =>
    subst hnew
    cases hinit
  | step _ hstep ih =>
    cases hstep with
    | addMeasurement lib m =>
      cases m with
      | imu imu =>
        have hbefore := ih hinit
        exact ⟨hbefore.inPlane, hbefore.orientation, fun hwindow =>
          ⟨(hbefore.newest hwindow).timestamp, (hbefore.newest hwindow).position,
            (hbefore.newest hwindow).velocity, (hbefore.newest hwindow).orientation⟩⟩
      | gnssSolution gnss => exact shown_addGnss ih lib gnss hinit
      | _ => exact ih hinit
    | processUntil timestamp => exact ih hinit
    | reset => cases hinit

/-- Until the next `Reset`, an initialised estimator keeps its tangent plane. -/
theorem plane_step (hinit : e.initialised = true) {call : Call} (hcall : call ≠ .reset)
    (hstep : Step e call e') : e'.initialised = true ∧ e'.ltp = e.ltp := by
  cases hstep with
  | addMeasurement lib m =>
    cases m with
    | imu imu => exact ⟨hinit, rfl⟩
    | gnssSolution gnss =>
      show (e.addGnss lib gnss).1.initialised = true ∧ (e.addGnss lib gnss).1.ltp = e.ltp
      rcases addGnss_cases lib e gnss with
        ⟨_, heq⟩ | ⟨_, hnot, _⟩ | ⟨_, _, ⟨_, heq⟩ | ⟨_, heq⟩⟩
      · rw [heq]
        exact ⟨hinit, rfl⟩
      · rw [hinit] at hnot
        cases hnot
      · rw [heq]
        exact ⟨hinit, rfl⟩
      · rw [heq]
        exact ⟨hinit, rfl⟩
    | _ => exact ⟨hinit, rfl⟩
  | processUntil timestamp => exact ⟨hinit, rfl⟩
  | reset => exact absurd rfl hcall

theorem plane_run (hinit : e.initialised = true) {calls : List Call}
    (hcalls : ∀ k ∈ calls, k ≠ .reset) (hrun : (system options).Run e calls e') :
    e'.initialised = true ∧ e'.ltp = e.ltp := by
  induction hrun with
  | nil e => exact ⟨hinit, rfl⟩
  | cons hstep _ ih =>
    obtain ⟨hfirst, hrest⟩ := List.forall_mem_cons.mp hcalls
    obtain ⟨hinit', hltp'⟩ := plane_step hinit hfirst hstep
    obtain ⟨hinit'', hltp''⟩ := ih hinit' hrest
    exact ⟨hinit'', hltp''.trans hltp'⟩

end CeresSlidingWindowEstimator

/-! ### Libraries that write no zero quaternion -/

/-- The libraries write no zero quaternion where there was none. -/
structure CeresLibrary.Rotates (lib : CeresLibrary) : Prop where
  fromTwoVectors : ∀ u v, lib.fromTwoVectors u v ≠ 0
  solve : ∀ (problem : Problem) (blocks : List KeyframeBlocks), (∀ b ∈ blocks, b.rotation ≠ 0) →
    ∀ i, (lib.solve problem blocks i).rotation ≠ 0

namespace CeresSlidingWindowEstimator

variable {options : CeresOptions} {e e' : CeresSlidingWindowEstimator options}

/-- A call with such libraries. -/
inductive RotatingStep : CeresSlidingWindowEstimator options → Call →
    CeresSlidingWindowEstimator options → Prop
  | addMeasurement (e : CeresSlidingWindowEstimator options) {lib : CeresLibrary}
      (hlib : lib.Rotates) (m : SensorMeasurement) :
      RotatingStep e (.addMeasurement m) (e.addMeasurement lib m).1
  | processUntil (e : CeresSlidingWindowEstimator options) (timestamp : Timestamp) :
      RotatingStep e (.processUntil timestamp) (e.processUntil timestamp).1
  | reset (e : CeresSlidingWindowEstimator options) : RotatingStep e .reset {}

/-- A constructed estimator and its calls with such libraries. -/
def rotating (options : CeresOptions) : System (CeresSlidingWindowEstimator options) Call where
  init e := e = {}
  step := RotatingStep

/-- No quaternion of the window is zero, and the published one has unit length. -/
structure NeverZero (e : CeresSlidingWindowEstimator options) : Prop where
  sound : e.FactorsSound
  window : ∀ kf ∈ e.window, kf.rotation ≠ 0
  published : e.initialised = true → Quaternion.normSq e.latestState.orientationBodyToEnu = 1

theorem neverZero_new : ({} : CeresSlidingWindowEstimator options).NeverZero where
  sound := factorsSound_new
  window _ hkf := absurd hkf List.not_mem_nil
  published hinit := absurd hinit Bool.false_ne_true

theorem rotation_newest (h : ∀ kf ∈ e.window, kf.rotation ≠ 0) : e.newest.rotation ≠ 0 := by
  rw [newest, List.getLastD_eq_getLast?]
  cases hlast : e.window.getLast? with
  | none => exact one_ne_zero
  | some kf => exact h kf (List.mem_of_getLast? hlast)

/-- The keyframe that is predicted has turned by a unit quaternion. -/
theorem NeverZero.rotation_predictedKeyframe (h : e.NeverZero) (t : Timestamp) :
    (predictedKeyframe e.newest (e.preint.finalize t) t).rotation ≠ 0 := by
  have hQ := Quat.ne_zero_of_unit (Quat.normSq_normalized_of_ne (rotation_newest h.window))
  have hdelta := Quat.ne_zero_of_unit (h.sound.preint.finalize t).unit
  exact Quat.ne_zero_of_unit (Quat.normSq_normalized_of_ne (mul_ne_zero hQ hdelta))

/-- The solver leaves the oldest keyframe, and writes no zero into the others. -/
theorem rotation_optimise {lib : CeresLibrary} (hlib : lib.Rotates)
    (h : ∀ kf ∈ e.window, kf.rotation ≠ 0) (gnss : GnssSolution) (posEnu : Vec3) :
    ∀ kf ∈ (e.optimise lib gnss posEnu).window, kf.rotation ≠ 0 := by
  intro kf hkf
  obtain ⟨i, hi, rfl⟩ := List.mem_mapIdx.mp hkf
  unfold WindowKeyframe.solved
  have hold : e.window[i].rotation ≠ 0 := h _ (List.getElem_mem hi)
  split
  · split
    · exact hold
    · exact hold
  · refine hlib.solve _ _ ?_ i
    intro b hb
    obtain ⟨kf, hkf, rfl⟩ := List.mem_map.mp hb
    exact h kf hkf

/-- **A new keyframe.** -/
theorem NeverZero.createKeyframe (h : e.NeverZero) {lib : CeresLibrary} (hlib : lib.Rotates)
    (gnss : GnssSolution) (posEnu : Vec3) : (e.createKeyframe lib gnss posEnu).1.NeverZero := by
  have hsound := h.sound.createKeyframe lib gnss posEnu
  have hwindow : ∀ kf ∈ (e.createKeyframe lib gnss posEnu).1.window, kf.rotation ≠ 0 := by
    refine rotation_optimise hlib ?_ gnss posEnu
    rw [trimWindow_eq]
    intro kf hkf
    rcases List.mem_append.mp (List.mem_of_mem_drop hkf) with hold | hnew
    · exact h.window kf hold
    · rw [List.mem_singleton.mp hnew]
      exact h.rotation_predictedKeyframe gnss.timestamp
  exact ⟨hsound, hwindow, fun _ => Quat.normSq_normalized_of_ne (rotation_newest hwindow)⟩

/-- **A fix that makes no keyframe** writes a velocity only. -/
theorem NeverZero.updateLatestGnss (h : e.NeverZero) (lib : CeresLibrary) (gnss : GnssSolution)
    (posEnu : Vec3) : (e.updateLatestGnss lib gnss posEnu).1.NeverZero where
  sound := ⟨h.sound.factors, h.sound.preint⟩
  window := by
    intro kf hkf
    rcases List.mem_or_eq_of_mem_set hkf with hold | rfl
    · exact h.window kf hold
    · exact rotation_newest h.window
  published _ := Quat.normSq_normalized_of_ne (rotation_newest h.window)

/-- **The first fix.** -/
theorem NeverZero.initFromGnss (h : e.NeverZero) {lib : CeresLibrary} (hlib : lib.Rotates)
    (gnss : GnssSolution) : (e.initFromGnss lib gnss).1.NeverZero := by
  have hwindow : ∀ kf ∈ (e.initFromGnss lib gnss).1.window, kf.rotation ≠ 0 := by
    intro kf hkf
    rcases List.mem_append.mp hkf with hold | hnew
    · exact h.window kf hold
    · rw [List.mem_singleton.mp hnew]
      exact hlib.fromTwoVectors _ _
  exact ⟨⟨h.sound.factors, (ImuPreintegrator.sound_reset _ _ _ _).integrateAll _⟩, hwindow,
    fun _ => Quat.normSq_normalized_of_ne (rotation_newest hwindow)⟩

/-- **One call.** -/
theorem NeverZero.step (h : e.NeverZero) {call : Call} (hstep : RotatingStep e call e') :
    e'.NeverZero := by
  cases hstep with
  | addMeasurement hlib m =>
    rename_i lib
    cases m with
    | imu imu => exact ⟨h.sound.step (.addMeasurement e lib (.imu imu)), h.window, h.published⟩
    | gnssSolution gnss =>
      show (e.addGnss lib gnss).1.NeverZero
      rcases addGnss_cases lib e gnss with
        ⟨_, heq⟩ | ⟨_, _, heq⟩ | ⟨_, _, ⟨_, heq⟩ | ⟨_, heq⟩⟩
      · rw [heq]
        exact h
      · rw [heq]
        exact h.initFromGnss hlib gnss
      · rw [heq]
        exact h.createKeyframe hlib gnss _
      · rw [heq]
        exact h.updateLatestGnss lib gnss _
    | _ => exact h
  | processUntil timestamp => exact h
  | reset => exact neverZero_new

/-- **Every such run.** -/
theorem neverZero_of_reachable (h : (rotating options).Reachable e) : e.NeverZero := by
  induction h with
  | init hinit =>
    subst hinit
    exact neverZero_new
  | step _ hstep ih => exact ih.step hstep

end CeresSlidingWindowEstimator

/-- **Every state that the sliding window publishes**, whatever the solver writes: from an
    initialisation to the next `Reset` there is one tangent plane in which its position and velocity
    agree in ECEF and ENU, its attitude is a unit quaternion, or zero when a library has written
    one, and while the window is not empty it is the newest keyframe at the time of the last
    keyframe. -/
theorem published_window (options : CeresOptions) (e : CeresSlidingWindowEstimator options)
    (h : (system options).Reachable e) (hinit : e.initialised = true) :
    ∃ origin, ∀ calls e', (system options).Run e calls e' → (∀ k ∈ calls, k ≠ .reset) →
      ∃ s, e'.latestState? = some s ∧ InPlane origin s ∧
        (Quaternion.normSq s.orientationBodyToEnu = 1 ∨ s.orientationBodyToEnu = 0) ∧
        ((rotating options).Reachable e' → Quaternion.normSq s.orientationBodyToEnu = 1) ∧
        (e'.window ≠ [] → e'.ShowsNewest ∧ s.timestamp = e'.lastKfTime) := by
  obtain ⟨origin, horigin, _⟩ := (shown_of_reachable h hinit).inPlane
  refine ⟨origin, ?_⟩
  intro calls e' hrun hcalls
  obtain ⟨hinit', hltp⟩ := plane_run hinit hcalls hrun
  have hreach := h.run hrun
  have hshown := shown_of_reachable hreach hinit'
  refine ⟨e'.latestState, if_neg (by simp [hinit']), ?_, ?_, ?_, ?_⟩
  · obtain ⟨origin', horigin', hin⟩ := hshown.inPlane
    rw [hltp, horigin, Option.some.injEq] at horigin'
    have heq : origin = origin' := congrArg LocalTangentPlane.originLla horigin'
    rw [heq]
    exact hin
  · obtain ⟨q, hq⟩ := hshown.orientation
    rw [hq]
    exact q.normalized_cases
  · intro hrotating
    exact (neverZero_of_reachable hrotating).published hinit'
  · intro hwindow
    refine ⟨hshown.newest hwindow, ?_⟩
    rw [(hshown.newest hwindow).timestamp]
    rcases coherent_of_reachable hreach with hwaiting | ⟨_, hcoherent⟩
    · exact absurd hwaiting.window hwindow
    · refine (hcoherent.newest _ ?_).symm
      show (e'.window.map WindowKeyframe.timestamp).getLast? = _
      rw [List.getLast?_map, newest, List.getLastD_eq_getLast?]
      cases hlast : e'.window.getLast? with
      | none => exact absurd (List.getLast?_eq_none_iff.mp hlast) hwindow
      | some kf => rfl

theorem rotates_idleLibrary : idleLibrary.Rotates where
  fromTwoVectors _ _ := one_ne_zero
  solve problem blocks h i := by
    show (blocks.getD i {}).rotation ≠ 0
    rw [List.getD_eq_getElem?_getD]
    cases hi : blocks[i]? with
    | none => exact one_ne_zero
    | some b => exact h b (List.mem_of_getElem? hi)

/-- After two fixes with a solver that changes nothing: the attitude is a unit quaternion. -/
theorem published_window_second :
    ∃ origin s, (afterSecondFix 0).estimator.latestState? = some s ∧ InPlane origin s ∧
      Quaternion.normSq s.orientationBodyToEnu = 1 := by
  have hreach := Recorded.reachable (afterFirstFix_eq {} 0).1.of_guarded
  have hstep := (Recorded.next_step idleLibrary (afterFirstFix {} 0)
    (.gnssSolution (fixAt 1000))).1
  obtain ⟨origin, hpublished⟩ := published_window {} _ hreach (afterFirstFix_eq {} 0).2.1
  obtain ⟨s, hs, hin, _, hunit, _⟩ := hpublished [.addMeasurement (.gnssSolution (fixAt 1000))] _
    (.cons hstep (.nil _)) (by simp)
  -- the same calls, as calls with a library that rotates
  have hidle : ∀ {e : CeresSlidingWindowEstimator {}} (m : SensorMeasurement),
      (rotating {}).Reachable e → (rotating {}).Reachable (e.addMeasurement idleLibrary m).1 :=
    fun m h => h.step (.addMeasurement _ rotates_idleLibrary m)
  have hrotating : (rotating {}).Reachable (afterSecondFix 0).estimator :=
    hidle _ (hidle _ (hidle _ (hidle _ (.init rfl))))
  exact ⟨origin, s, hs, hin, hunit hrotating⟩

end FalconGuide
