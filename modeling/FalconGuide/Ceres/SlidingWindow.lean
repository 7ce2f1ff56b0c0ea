import FalconGuide.Ceres.Estimator
import FalconGuide.Lib.Neighbours

namespace FalconGuide

open Lib

/-!
# Keyframes and the factors between them

The two deques grow at one end and are trimmed together at the other, so that factor `i` stays
between the keyframes `i` and `i + 1`.  That fails only when the limit of the trimming loop wraps
around to zero.

* `windowTimes` / `factorSpans` — what the invariant is about: times only, and none of the values
  that a solver writes;
* `createKeyframe_times`, `addGnss_cases` — what a fix does to them;
* `Coherent` — the invariant, for any limit, and `coherent_of_reachable`;
* `Aligned` — keyframes, factors, preintegration and `last_kf_time_` fit together;
* `aligned_iff` — the main result: always so exactly when `max_keyframes + 1` does not wrap around.
-/

namespace CeresSlidingWindowEstimator

variable {options : CeresOptions}

/-- The times of the keyframes. -/
def windowTimes (e : CeresSlidingWindowEstimator options) : List Timestamp :=
  e.window.map WindowKeyframe.timestamp

/-- The start and the end of each factor. -/
def factorSpans (e : CeresSlidingWindowEstimator options) : List (Timestamp × Timestamp) :=
  e.imuFactors.map fun factor => (factor.startTimestamp, factor.endTimestamp)

@[simp]
theorem length_windowTimes (e : CeresSlidingWindowEstimator options) :
    e.windowTimes.length = e.window.length := List.length_map _

@[simp]
theorem length_factorSpans (e : CeresSlidingWindowEstimator options) :
    e.factorSpans.length = e.imuFactors.length := List.length_map _

/-! ### What a call does to the times -/

section Calls

variable (lib : CeresLibrary) (e : CeresSlidingWindowEstimator options) (gnss : GnssSolution)
  (posEnu : Vec3)

/-- The solver leaves the times alone. -/
@[simp]
theorem optimise_times : (e.optimise lib gnss posEnu).windowTimes = e.windowTimes := by
  apply List.ext_getElem?
  intro i
  simp only [windowTimes, optimise, List.getElem?_map, List.getElem?_mapIdx, Option.map_map]
  congr 1
  funext kf
  exact kf.solved_timestamp _ _ _

/-- An update leaves the times alone. -/
theorem updateLatestGnss_times :
    (e.updateLatestGnss lib gnss posEnu).1.windowTimes = e.windowTimes := by
  show (e.window.set (e.window.length - 1) _).map WindowKeyframe.timestamp = e.windowTimes
  rcases List.eq_nil_or_concat' e.window with hnil | ⟨older, kf, hwindow⟩
  · rw [windowTimes, hnil]
    rfl
  · have hnewest : e.newest = kf := by
      rw [newest, hwindow, List.getLastD_concat]
    rw [windowTimes, hnewest, hwindow, List.length_append, List.length_singleton,
      Nat.add_sub_cancel, List.set_append_right _ _ (le_refl _), Nat.sub_self, List.set_cons_zero,
      List.map_append, List.map_append]
    rfl

/-- A keyframe more at the end; as many are taken away as there are too many. -/
theorem createKeyframe_times :
    (e.createKeyframe lib gnss posEnu).1.windowTimes
      = (e.windowTimes ++ [gnss.timestamp]).drop (e.window.length + 1 - options.windowLimit) := by
  unfold createKeyframe
  dsimp only
  rw [trimWindow_eq]
  show (optimise lib _ gnss posEnu).windowTimes = _
  rw [optimise_times, windowTimes, windowTimes, List.map_drop, List.map_append,
    List.length_append]
  rfl

/-- A factor more at the end; as many are taken away as keyframes. -/
theorem createKeyframe_imuFactors :
    (e.createKeyframe lib gnss posEnu).1.imuFactors
      = (e.imuFactors ++ [e.preint.finalize gnss.timestamp]).drop
          (e.window.length + 1 - options.windowLimit) := by
  unfold createKeyframe
  dsimp only
  rw [trimWindow_eq, List.length_append]
  rfl

theorem createKeyframe_spans :
    (e.createKeyframe lib gnss posEnu).1.factorSpans
      = (e.factorSpans ++ [(e.preint.t0, gnss.timestamp)]).drop
          (e.window.length + 1 - options.windowLimit) := by
  rw [factorSpans, createKeyframe_imuFactors, List.map_drop, List.map_append]
  rfl

end Calls

/-! ### The invariant -/

/-- Every factor is between two neighbours, and the preintegration starts at the newest keyframe. -/
structure Coherent (e : CeresSlidingWindowEstimator options) : Prop where
  spans : e.factorSpans = neighbours e.windowTimes
  newest : ∀ t, e.windowTimes.getLast? = some t → e.lastKfTime = t
  preint : e.preintActive = true ∧ e.preint.t0 = e.lastKfTime
  bounded : e.window.length ≤ max options.windowLimit 1
  /-- Of a limit of zero, nothing is left. -/
  nonempty : 0 < options.windowLimit → e.window ≠ []

/-- Nothing happened yet. -/
structure Waiting (e : CeresSlidingWindowEstimator options) : Prop where
  initialised : e.initialised = false
  window : e.window = []
  imuFactors : e.imuFactors = []
  preintActive : e.preintActive = false

section Invariant

variable {lib : CeresLibrary} {e : CeresSlidingWindowEstimator options} {gnss : GnssSolution}
  {posEnu : Vec3}

theorem Coherent.addImu (h : e.Coherent) (imu : ImuMeasurement) : (e.addImu imu).1.Coherent where
  spans := h.spans
  newest := h.newest
  preint := by
    refine ⟨h.preint.1, ?_⟩
    show (if e.preintActive then e.preint.integrate imu else e.preint).t0 = e.lastKfTime
    rw [if_pos h.preint.1, ImuPreintegrator.integrate_t0, h.preint.2]
  bounded := h.bounded
  nonempty := h.nonempty

/-- The first keyframe. -/
theorem Waiting.initFromGnss (h : e.Waiting) : (e.initFromGnss lib gnss).1.Coherent := by
  have htimes : (e.initFromGnss lib gnss).1.windowTimes = [gnss.timestamp] := by
    show (e.window ++ [_]).map WindowKeyframe.timestamp = _
    rw [h.window]
    rfl
  have hlength := length_windowTimes (e.initFromGnss lib gnss).1
  rw [htimes, List.length_singleton] at hlength
  constructor
  · rw [htimes]
    show e.imuFactors.map _ = _
    rw [h.imuFactors]
    rfl
  · intro t ht
    rw [htimes, List.getLast?_singleton, Option.some.injEq] at ht
    exact ht
  · refine ⟨rfl, ?_⟩
    show (ImuPreintegrator.integrateAll _ _).t0 = gnss.timestamp
    rw [ImuPreintegrator.integrateAll_t0]
    rfl
  · omega
  · intro _ hnil
    rw [hnil] at hlength
    simp at hlength

theorem Coherent.updateLatestGnss (h : e.Coherent) :
    (e.updateLatestGnss lib gnss posEnu).1.Coherent := by
  have htimes := updateLatestGnss_times lib e gnss posEnu
  have hlength : (e.updateLatestGnss lib gnss posEnu).1.window.length = e.window.length := by
    rw [← length_windowTimes, htimes, length_windowTimes]
  constructor
  · rw [htimes]
    exact h.spans
  · rw [htimes]
    exact h.newest
  · exact h.preint
  · rw [hlength]
    exact h.bounded
  · intro hlimit hnil
    rw [hnil] at hlength
    exact h.nonempty hlimit (List.length_eq_zero_iff.mp hlength.symm)

/-- **A new keyframe.** The new factor leads from the newest keyframe to the new one, and what is
    taken away at the front is taken from both. -/
theorem Coherent.createKeyframe (h : e.Coherent) :
    (e.createKeyframe lib gnss posEnu).1.Coherent := by
  have htimes := createKeyframe_times lib e gnss posEnu
  have hspans := createKeyframe_spans lib e gnss posEnu
  have hlength : (e.createKeyframe lib gnss posEnu).1.window.length
      = min (e.window.length + 1) options.windowLimit := by
    rw [← length_windowTimes, htimes, List.length_drop, List.length_append, length_windowTimes,
      List.length_singleton]
    omega
  constructor
  · rw [htimes, hspans, neighbours_drop, h.preint.2]
    -- the new factor pairs the newest time with the new one, and both lists lose their front
    by_cases hlimit : 0 < options.windowLimit
    · congr 1
      have hne : e.windowTimes ≠ [] := by
        intro hnil
        exact h.nonempty hlimit (List.map_eq_nil_iff.mp hnil)
      have hlast := List.getLast?_eq_some_getLast hne
      rw [neighbours_append_singleton hlast, h.spans, h.newest _ hlast]
    · -- everything is taken away
      have hcount := congrArg List.length h.spans
      rw [length_neighbours, length_windowTimes] at hcount
      rw [List.drop_of_length_le, List.drop_of_length_le]
      · rw [length_neighbours, List.length_append, length_windowTimes, List.length_singleton]
        omega
      · rw [List.length_append, hcount, List.length_singleton]
        omega
  · intro t ht
    rw [htimes, List.getLast?_drop] at ht
    split at ht
    · simp at ht
    · rw [List.getLast?_concat, Option.some.injEq] at ht
      exact ht
  · exact ⟨h.preint.1, rfl⟩
  · rw [hlength]
    omega
  · intro hlimit hnil
    rw [hnil, List.length_nil] at hlength
    omega

/-- **What a fix can do**: nothing, initialise, update, or make a keyframe. -/
theorem addGnss_cases (lib : CeresLibrary) (e : CeresSlidingWindowEstimator options)
    (gnss : GnssSolution) :
    gnss.validity ≠ .valid ∧ e.addGnss lib gnss = (e, { result := .rejected }) ∨
    gnss.validity = .valid ∧ e.initialised = false ∧ e.addGnss lib gnss = e.initFromGnss lib gnss ∨
    gnss.validity = .valid ∧ e.initialised = true ∧
      (e.StartsKeyframe gnss (e.plane.ecefToEnu gnss.positionEcefM) ∧ e.addGnss lib gnss
          = e.createKeyframe lib gnss (e.plane.ecefToEnu gnss.positionEcefM) ∨
        ¬ e.StartsKeyframe gnss (e.plane.ecefToEnu gnss.positionEcefM) ∧ e.addGnss lib gnss
          = e.updateLatestGnss lib gnss (e.plane.ecefToEnu gnss.positionEcefM)) := by
  unfold addGnss
  by_cases hvalid : gnss.validity = .valid
  · rw [if_neg (not_not_intro hvalid)]
    cases hinit : e.initialised with
    | false => exact .inr (.inl ⟨hvalid, rfl, if_pos rfl⟩)
    | true =>
      rw [if_neg (by simp)]
      by_cases hstart : e.StartsKeyframe gnss (e.plane.ecefToEnu gnss.positionEcefM)
      · exact .inr (.inr ⟨hvalid, rfl, .inl ⟨hstart, if_pos hstart⟩⟩)
      · exact .inr (.inr ⟨hvalid, rfl, .inr ⟨hstart, if_neg hstart⟩⟩)
  · rw [if_pos hvalid]
    exact .inl ⟨hvalid, rfl⟩

/-- The first valid fix initialises. -/
theorem addGnss_of_not_initialised (hvalid : gnss.validity = .valid)
    (hinit : e.initialised = false) : e.addGnss lib gnss = e.initFromGnss lib gnss := by
  rcases addGnss_cases lib e gnss with ⟨h, _⟩ | ⟨_, _, h⟩ | ⟨_, h, _⟩
  · exact absurd hvalid h
  · exact h
  · rw [hinit] at h
    exact absurd h Bool.false_ne_true

/-- **One fix.** -/
theorem coherent_addGnss (h : e.Waiting ∨ e.initialised = true ∧ e.Coherent) :
    (e.addGnss lib gnss).1.Waiting ∨
      (e.addGnss lib gnss).1.initialised = true ∧ (e.addGnss lib gnss).1.Coherent := by
  rcases addGnss_cases lib e gnss with ⟨_, heq⟩ | ⟨_, hinit, heq⟩ | ⟨_, hinit, hcases⟩
  · rw [heq]
    exact h
  · rcases h with hwaiting | ⟨htrue, _⟩
    · rw [heq]
      exact .inr ⟨rfl, hwaiting.initFromGnss⟩
    · rw [hinit] at htrue
      exact absurd htrue Bool.false_ne_true
  · rcases h with hwaiting | ⟨_, hcoherent⟩
    · rw [hwaiting.initialised] at hinit
      exact absurd hinit Bool.false_ne_true
    · rcases hcases with ⟨_, heq⟩ | ⟨_, heq⟩
      · rw [heq]
        exact .inr ⟨hinit, hcoherent.createKeyframe⟩
      · rw [heq]
        exact .inr ⟨hinit, hcoherent.updateLatestGnss⟩

/-- **One call.** -/
theorem coherent_step {e' : CeresSlidingWindowEstimator options} {call : Call}
    (h : e.Waiting ∨ e.initialised = true ∧ e.Coherent) (hstep : Step e call e') :
    e'.Waiting ∨ e'.initialised = true ∧ e'.Coherent := by
  cases hstep with
  | addMeasurement lib m =>
    cases m with
    | imu imu =>
      rcases h with hwaiting | ⟨hinit, hcoherent⟩
      · exact .inl ⟨hwaiting.initialised, hwaiting.window, hwaiting.imuFactors,
          hwaiting.preintActive⟩
      · exact .inr ⟨hinit, hcoherent.addImu imu⟩
    | gnssSolution gnss => exact coherent_addGnss h
    | _ => exact h
  | processUntil timestamp => exact h
  | reset => exact .inl ⟨rfl, rfl, rfl, rfl⟩

/-- **Every run.** -/
theorem coherent_of_reachable (h : (system options).Reachable e) :
    e.Waiting ∨ e.initialised = true ∧ e.Coherent := by
  induction h with
  | init hinit =>
    subst hinit
    exact .inl ⟨rfl, rfl, rfl, rfl⟩
  | step _ hstep ih => exact coherent_step ih hstep

end Invariant

/-! ### Alignment -/

/-- Keyframes, factors, preintegration and `last_kf_time_` fit together. -/
structure Aligned (e : CeresSlidingWindowEstimator options) : Prop where
  nonempty : e.window ≠ []
  bounded : e.window.length ≤ options.maxKeyframes.toNat + 1
  factors : e.imuFactors.length = e.window.length - 1
  ends : ∀ i factor, e.imuFactors[i]? = some factor →
    e.window[i]?.map WindowKeyframe.timestamp = some factor.startTimestamp ∧
      e.window[i + 1]?.map WindowKeyframe.timestamp = some factor.endTimestamp
  newest : e.window.getLast?.map WindowKeyframe.timestamp = some e.lastKfTime
  preint : e.preintActive = true ∧ e.preint.t0 = e.lastKfTime

/-- The limit without wrapping around. -/
theorem windowLimit_eq (h : options.maxKeyframes.toNat ≠ 2 ^ 64 - 1) :
    options.windowLimit = options.maxKeyframes.toNat + 1 := by
  have hlt := options.maxKeyframes.toNat_lt
  show (options.maxKeyframes.toNat + 1) % 2 ^ 64 = _
  omega

/-- The limit wraps around to zero. -/
theorem windowLimit_wraps (h : options.maxKeyframes.toNat = 2 ^ 64 - 1) :
    options.windowLimit = 0 := by
  show (options.maxKeyframes.toNat + 1) % 2 ^ 64 = 0
  omega

theorem Coherent.aligned {e : CeresSlidingWindowEstimator options} (h : e.Coherent)
    (hmax : options.maxKeyframes.toNat ≠ 2 ^ 64 - 1) : e.Aligned := by
  have hlimit := windowLimit_eq hmax
  have hne := h.nonempty (by omega)
  have hbounded := h.bounded
  have hcount := congrArg List.length h.spans
  rw [length_neighbours, length_windowTimes, length_factorSpans] at hcount
  refine ⟨hne, by omega, hcount, ?_, ?_, h.preint⟩
  · intro i factor hfactor
    have hspan : e.factorSpans[i]? = some (factor.startTimestamp, factor.endTimestamp) := by
      rw [factorSpans, List.getElem?_map, hfactor]
      rfl
    rw [h.spans, getElem?_neighbours] at hspan
    rw [← List.getElem?_map, ← List.getElem?_map]
    exact hspan
  · have hlast : e.windowTimes.getLast? = some (e.windowTimes.getLast _) :=
      List.getLast?_eq_some_getLast fun hnil => hne (List.map_eq_nil_iff.mp hnil)
    rw [← List.getLast?_map]
    show e.windowTimes.getLast? = some e.lastKfTime
    rw [hlast, h.newest _ hlast]

/-- A fix of millisecond `t`. -/
def fixAt (t : ℤ) : GnssSolution where
  timestamp := { steady := { nanosecondsSinceEpoch := t * 1000000 }, hasSteady := true }

/-- A fix a second after the newest keyframe makes another: that is not below the threshold. -/
theorem startsKeyframe_of_second {e : CeresSlidingWindowEstimator options} {t : ℤ}
    (hlast : e.lastKfTime = (fixAt t).timestamp) (posEnu : Vec3) :
    e.StartsKeyframe (fixAt (t + 1000)) posEnu := by
  rintro ⟨_, hdt⟩
  have hseconds : ((fixAt (t + 1000)).timestamp.steady.sub (fixAt t).timestamp.steady).seconds
      = 1 := by
    simp only [fixAt, MonotonicTime.sub, Duration.seconds]
    push_cast
    ring
  rw [hlast, hseconds] at hdt
  norm_num at hdt

theorem addGnss_of_second {e : CeresSlidingWindowEstimator options} {t : ℤ} (lib : CeresLibrary)
    (hinit : e.initialised = true) (hlast : e.lastKfTime = (fixAt t).timestamp) :
    e.addGnss lib (fixAt (t + 1000)) = e.createKeyframe lib (fixAt (t + 1000))
      (e.plane.ecefToEnu (fixAt (t + 1000)).positionEcefM) := by
  rcases addGnss_cases lib e (fixAt (t + 1000)) with ⟨h, _⟩ | ⟨_, h, _⟩ | ⟨_, _, h | h⟩
  · exact absurd rfl h
  · rw [hinit] at h
    exact absurd h (by decide)
  · exact h.2
  · exact absurd (startsKeyframe_of_second hlast _) h.1

/-- **The empty window.** After the second keyframe, nothing is left. -/
theorem window_empty (lib : CeresLibrary) (hlimit : options.windowLimit = 0) :
    ∃ e : CeresSlidingWindowEstimator options,
      (system options).Reachable e ∧ e.initialised = true ∧ e.window = [] := by
  let first : CeresSlidingWindowEstimator options := (addGnss lib {} (fixAt 0)).1
  have hreach : (system options).Reachable first :=
    .step (.init rfl) (Step.addMeasurement {} lib (.gnssSolution (fixAt 0)))
  have hfirst : first = (initFromGnss lib {} (fixAt 0)).1 :=
    congrArg Prod.fst (addGnss_of_not_initialised rfl rfl)
  have hinit : first.initialised = true := by
    rw [hfirst]
    rfl
  have hlast : first.lastKfTime = (fixAt 0).timestamp := by
    rw [hfirst]
    rfl
  have hsecond := addGnss_of_second lib hinit hlast
  refine ⟨_, hreach.step (Step.addMeasurement first lib (.gnssSolution (fixAt 1000))), ?_, ?_⟩
  · show (first.addGnss lib (fixAt (0 + 1000))).1.initialised = true
    rw [hsecond, hfirst]
    rfl
  · show (first.addGnss lib (fixAt (0 + 1000))).1.window = []
    have htimes := createKeyframe_times lib first (fixAt (0 + 1000))
      (first.plane.ecefToEnu (fixAt (0 + 1000)).positionEcefM)
    rw [hlimit, List.drop_of_length_le (by simp)] at htimes
    rw [hsecond]
    exact List.map_eq_nil_iff.mp htimes

/-- A solver that writes nothing new. -/
def idleLibrary : CeresLibrary where
  fromTwoVectors _ _ := 1
  solve _ blocks i := blocks.getD i {}

/-- **Every reachable state is aligned** if and only if `max_keyframes + 1` does not wrap around. -/
theorem aligned_iff (options : CeresOptions) :
    (∀ e : CeresSlidingWindowEstimator options, (system options).Reachable e →
        e.initialised = true → e.Aligned)
      ↔ options.maxKeyframes.toNat ≠ 2 ^ 64 - 1 := by
  constructor
  · intro h hmax
    obtain ⟨e, hreach, hinit, hwindow⟩ := window_empty idleLibrary (windowLimit_wraps hmax)
    exact (h e hreach hinit).nonempty hwindow
  · intro hmax e hreach hinit
    rcases coherent_of_reachable hreach with hwaiting | ⟨_, hcoherent⟩
    · rw [hwaiting.initialised] at hinit
      exact absurd hinit Bool.false_ne_true
    · exact hcoherent.aligned hmax

/-- The largest `max_keyframes`. -/
theorem not_aligned :
    ¬ ∀ (options : CeresOptions) (e : CeresSlidingWindowEstimator options),
      (system options).Reachable e → e.initialised = true → e.Aligned := by
  intro h
  let largest : CeresOptions := { maxKeyframes := -1 }
  have hlimit : largest.windowLimit = 0 := by decide
  obtain ⟨e, hreach, hinit, hwindow⟩ := window_empty idleLibrary hlimit
  exact (h _ e hreach hinit).nonempty hwindow

end CeresSlidingWindowEstimator

end FalconGuide
