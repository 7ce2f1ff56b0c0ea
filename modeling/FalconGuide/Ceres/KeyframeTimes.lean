import FalconGuide.Ceres.SlidingWindow
import FalconGuide.Core.TimeBasis

namespace FalconGuide

open Lib

/-!
# The time that the factors account for

`Reset` forgets the last sample and `Finalize` does not go on to the time of the fix, so that a
factor only accounts for the time from the first to the last sample that came in between.

* `coveredSeconds` — that time, and `Spans`, when it is the time between two fixes;
* `Recorded` — an estimator next to the samples since the last `Reset`;
* `TimesExact` — every factor accounts for the time between its keyframes, and all of them for the
  time from the first to the last keyframe;
* `times_exact` — the main result: so in every run in which the samples span each keyframe interval;
* `timesExact_iff_covered` — and, after a step of samples in order, only then;
* `not_times_exact` — a sample each second, and a fix half way between.
-/

/-! ### Times -/

/-- The seconds on the monotonic clock. -/
noncomputable def steadySeconds (t : Timestamp) : ℝ := t.steady.nanosecondsSinceEpoch / 1000000000

/-- The seconds from `t` to `u`, on the monotonic clock. -/
noncomputable def secondsFrom (t u : Timestamp) : ℝ := ((u.steady.sub t.steady).seconds : ℚ)

theorem secondsFrom_eq (t u : Timestamp) : secondsFrom t u = steadySeconds u - steadySeconds t := by
  simp only [secondsFrom, steadySeconds, MonotonicTime.sub, Duration.seconds]
  push_cast
  ring

namespace ImuPreintegrator

theorem secondsBetween_eq (prev imu : ImuMeasurement) :
    secondsBetween prev imu = steadySeconds imu.timestamp - steadySeconds prev.timestamp :=
  secondsFrom_eq prev.timestamp imu.timestamp

/-- What `delta_t_` comes to after `Reset` and the samples. -/
noncomputable def coveredSeconds : List ImuMeasurement → ℝ
  | [] => 0
  | first :: imus => integratedSeconds first imus

theorem deltaT_reset (s : ImuPreintegrator) (ba bg : Vec3) (t0 : Timestamp)
    (samples : List ImuMeasurement) :
    ((s.reset ba bg t0).integrateAll samples).deltaT = coveredSeconds samples := by
  cases samples with
  | nil => rfl
  | cons first imus =>
    -- the first sample is only remembered
    obtain ⟨hremembers, hprev⟩ := (s.reset ba bg t0).remembers_integrate first
    show (((s.reset ba bg t0).integrate first).integrateAll imus).deltaT = _
    rw [deltaT_integrateAll hremembers imus, hprev, integrate_first rfl]
    exact zero_add _

/-- Samples in order, at most a second apart. -/
def InOrder (samples : List ImuMeasurement) : Prop :=
  samples.IsChain fun prev imu => 0 ≤ secondsBetween prev imu ∧ secondsBetween prev imu ≤ 1

/-- Of samples in order, no step is left out. -/
theorem integratedSeconds_inOrder {first last : ImuMeasurement} {imus : List ImuMeasurement}
    (h : InOrder (first :: imus)) (hlast : (first :: imus).getLast? = some last) :
    integratedSeconds first imus = secondsBetween first last := by
  induction imus generalizing first with
  | nil =>
    rw [List.getLast?_singleton, Option.some.injEq] at hlast
    subst hlast
    rw [secondsBetween_eq, sub_self]
    rfl
  | cons imu imus ih =>
    obtain ⟨⟨hnonneg, hle⟩, hrest⟩ := List.isChain_cons_cons.mp h
    rw [List.getLast?_cons_cons] at hlast
    have hstep : (if secondsBetween first imu ≤ 0 ∨ 1 < secondsBetween first imu then 0
        else secondsBetween first imu) = secondsBetween first imu := by
      split
      · rename_i hgap
        rcases hgap with hgap | hgap
        · linarith
        · linarith
      · rfl
    rw [integratedSeconds, hstep, ih hrest hlast, secondsBetween_eq, secondsBetween_eq,
      secondsBetween_eq]
    ring

/-- The first sample is as far behind `t` as the last one is behind `u`; without a sample, there is
    no time in between. -/
def Spans (samples : List ImuMeasurement) (t u : Timestamp) : Prop :=
  match samples.head?, samples.getLast? with
  | some first, some last =>
    steadySeconds first.timestamp - steadySeconds t = steadySeconds last.timestamp - steadySeconds u
  | _, _ => steadySeconds t = steadySeconds u

/-- **The exact condition** on the samples of one factor. -/
theorem coveredSeconds_eq_iff {samples : List ImuMeasurement} (h : InOrder samples)
    (t u : Timestamp) : coveredSeconds samples = secondsFrom t u ↔ Spans samples t u := by
  rw [secondsFrom_eq]
  cases samples with
  | nil =>
    show 0 = _ ↔ steadySeconds t = steadySeconds u
    constructor
    · intro hzero
      linarith
    · intro heq
      linarith
  | cons first imus =>
    obtain ⟨last, hlast⟩ : ∃ last, (first :: imus).getLast? = some last :=
      ⟨_, List.getLast?_eq_some_getLast (List.cons_ne_nil first imus)⟩
    have hspans : Spans (first :: imus) t u ↔ steadySeconds first.timestamp - steadySeconds t
        = steadySeconds last.timestamp - steadySeconds u := by
      unfold Spans
      rw [hlast]
      rfl
    rw [hspans, coveredSeconds, integratedSeconds_inOrder h hlast, secondsBetween_eq]
    constructor
    · intro heq
      linarith
    · intro heq
      linarith

end ImuPreintegrator

open ImuPreintegrator

namespace CeresSlidingWindowEstimator

variable {options : CeresOptions}

/-! ### The samples of the running preintegration -/

/-- This call makes a keyframe. -/
def Creates (e : CeresSlidingWindowEstimator options) (gnss : GnssSolution) : Prop :=
  gnss.validity = .valid ∧ e.initialised = true ∧
    e.StartsKeyframe gnss (e.plane.ecefToEnu gnss.positionEcefM)

open Classical in
/-- The samples since the last `Reset` of the preintegrator, after a call. -/
noncomputable def samplesAfter (e : CeresSlidingWindowEstimator options)
    (samples : List ImuMeasurement) : Call → List ImuMeasurement
  | .addMeasurement (.imu imu) => if e.preintActive then samples ++ [imu] else samples
  | .addMeasurement (.gnssSolution gnss) =>
    if e.Creates gnss then []
    else if gnss.validity = .valid ∧ e.initialised = false then
      replayed e.imuBuffer gnss.timestamp
    else samples
  | .addMeasurement _ => samples
  | .processUntil _ => samples
  | .reset => []

/-- An estimator, and the samples since the last `Reset` of its preintegrator. -/
structure Recorded (options : CeresOptions) where
  estimator : CeresSlidingWindowEstimator options := {}
  samples : List ImuMeasurement := []

/-- The runs of an estimator with a record of the samples. -/
def recorded (options : CeresOptions) : System (Recorded options) Call where
  init r := r = {}
  step r call r' := Step r.estimator call r'.estimator ∧
    r'.samples = r.estimator.samplesAfter r.samples call

/-- A recorded run is a run. -/
theorem Recorded.reachable {r : Recorded options} (h : (recorded options).Reachable r) :
    (system options).Reachable r.estimator := by
  induction h with
  | init hinit =>
    subst hinit
    exact .init rfl
  | step _ hstep ih => exact ih.step hstep.1

/-- The preintegration is that of the recorded samples. -/
def Recorded.Faithful (r : Recorded options) : Prop :=
  r.estimator.preintActive = true → ∃ (s : ImuPreintegrator) (ba bg : Vec3) (t0 : Timestamp),
    r.estimator.preint = (s.reset ba bg t0).integrateAll r.samples

section Record

variable {r r' : Recorded options} {call : Call}

/-- **One call.** -/
theorem Recorded.Faithful.step (h : r.Faithful) (hstep : (recorded options).step r call r') :
    r'.Faithful := by
  obtain ⟨hcall, hsamples⟩ := hstep
  obtain ⟨e', samples'⟩ := r'
  subst hsamples
  dsimp only at hcall
  intro hactive
  show ∃ s ba bg t0, e'.preint = _
  cases hcall with
  | addMeasurement lib m =>
    cases m with
    | imu imu =>
      have hactive' : r.estimator.preintActive = true := hactive
      obtain ⟨s, ba, bg, t0, hpreint⟩ := h hactive'
      -- the sample is integrated and recorded, or neither
      refine ⟨s, ba, bg, t0, ?_⟩
      show (if r.estimator.preintActive then r.estimator.preint.integrate imu
        else r.estimator.preint) = ImuPreintegrator.integrateAll _
          (if r.estimator.preintActive then r.samples ++ [imu] else r.samples)
      rw [if_pos hactive', if_pos hactive', hpreint]
      exact (List.foldl_concat ..).symm
    | gnssSolution gnss =>
      have hgnss : ((r.estimator.addMeasurement lib (.gnssSolution gnss)).1)
          = (r.estimator.addGnss lib gnss).1 := rfl
      rw [hgnss] at hactive ⊢
      -- refused; initialises; makes a keyframe; too soon for one
      rcases addGnss_cases lib r.estimator gnss with
        ⟨hvalid, heq⟩ | ⟨hvalid, hinit, heq⟩ | ⟨hvalid, hinit, ⟨hstart, heq⟩ | ⟨hstart, heq⟩⟩
      · rw [heq] at hactive ⊢
        have hkeep : r.estimator.samplesAfter r.samples (.addMeasurement (.gnssSolution gnss))
            = r.samples := by
          simp [samplesAfter, Creates, hvalid]
        rw [hkeep]
        exact h hactive
      · rw [heq]
        have hreplay : r.estimator.samplesAfter r.samples (.addMeasurement (.gnssSolution gnss))
            = replayed r.estimator.imuBuffer gnss.timestamp := by
          simp [samplesAfter, Creates, hvalid, hinit]
        rw [hreplay]
        exact ⟨r.estimator.preint, 0, 0, gnss.timestamp, rfl⟩
      · rw [heq]
        have hnone : r.estimator.samplesAfter r.samples (.addMeasurement (.gnssSolution gnss))
            = [] := by
          simp [samplesAfter, Creates, hvalid, hinit, hstart]
        rw [hnone]
        exact ⟨_, _, _, gnss.timestamp, rfl⟩
      · rw [heq] at hactive ⊢
        have hkeep : r.estimator.samplesAfter r.samples (.addMeasurement (.gnssSolution gnss))
            = r.samples := by
          simp [samplesAfter, Creates, hvalid, hinit, hstart]
        rw [hkeep]
        exact h hactive
    | _ => exact h hactive
  | processUntil timestamp => exact h hactive
  | reset => exact absurd hactive Bool.false_ne_true

theorem Recorded.faithful (h : (recorded options).Reachable r) : r.Faithful := by
  induction h with
  | init hinit =>
    subst hinit
    intro hactive
    exact absurd hactive Bool.false_ne_true
  | step _ hstep ih => exact ih.step hstep

/-- **Integration time.** It is the time that the samples cover. -/
theorem Recorded.deltaT_preint (h : (recorded options).Reachable r)
    (hactive : r.estimator.preintActive = true) :
    r.estimator.preint.deltaT = coveredSeconds r.samples := by
  obtain ⟨s, ba, bg, t0, hpreint⟩ := Recorded.faithful h hactive
  rw [hpreint, deltaT_reset]

end Record

/-! ### Exact times -/

/-- Every factor accounts for the time between its keyframes, and the factors for the time from the
    first to the last keyframe. -/
structure TimesExact (e : CeresSlidingWindowEstimator options) : Prop where
  factor : ∀ i factor ki kj, e.imuFactors[i]? = some factor → e.window[i]? = some ki →
    e.window[i + 1]? = some kj → factor.integrationTimeS = secondsFrom ki.timestamp kj.timestamp
  sum : ∀ first last, e.window.head? = some first → e.window.getLast? = some last →
    (e.imuFactors.map ImuPreintegration.integrationTimeS).sum
      = secondsFrom first.timestamp last.timestamp

/-- The factor accounts for the time from its start to its end. -/
def Exact (factor : ImuPreintegration) : Prop :=
  factor.integrationTimeS = secondsFrom factor.startTimestamp factor.endTimestamp

/-- Next to aligned keyframes, that is a matter of each factor alone. -/
theorem Coherent.timesExact_iff {e : CeresSlidingWindowEstimator options} (h : e.Coherent) :
    e.TimesExact ↔ ∀ factor ∈ e.imuFactors, Exact factor := by
  -- keyframes `i` and `i + 1` are the neighbours that factor `i` goes between
  have hends : ∀ i factor, e.imuFactors[i]? = some factor →
      e.windowTimes[i]? = some factor.startTimestamp ∧
        e.windowTimes[i + 1]? = some factor.endTimestamp := by
    intro i factor hfactor
    rw [← getElem?_neighbours, ← h.spans, factorSpans, List.getElem?_map, hfactor]
    rfl
  constructor
  · intro htimes factor hmem
    obtain ⟨i, hi⟩ := List.mem_iff_getElem?.mp hmem
    obtain ⟨hstart, hend⟩ := hends i factor hi
    rw [windowTimes, List.getElem?_map, Option.map_eq_some_iff] at hstart hend
    obtain ⟨ki, hki, hstart⟩ := hstart
    obtain ⟨kj, hkj, hend⟩ := hend
    rw [Exact, ← hstart, ← hend]
    exact htimes.factor i factor ki kj hi hki hkj
  · intro hexact
    constructor
    · intro i factor ki kj hi hki hkj
      obtain ⟨hstart, hend⟩ := hends i factor hi
      rw [windowTimes, List.getElem?_map, hki, Option.map_some, Option.some.injEq] at hstart
      rw [windowTimes, List.getElem?_map, hkj, Option.map_some, Option.some.injEq] at hend
      rw [hexact factor (List.mem_of_getElem? hi), hstart, hend]
    · intro first last hfirst hlast
      have hhead : e.windowTimes.head? = some first.timestamp := by
        rw [windowTimes, List.head?_map, hfirst]
        rfl
      have hend : e.windowTimes.getLast? = some last.timestamp := by
        rw [windowTimes, List.getLast?_map, hlast]
        rfl
      -- the spans of the factors are those of the neighbours, and these telescope
      have htotal := sum_neighbours steadySeconds hhead hend
      rw [secondsFrom_eq, ← htotal, ← h.spans, factorSpans, List.map_map]
      congr 1
      apply List.map_congr_left
      intro factor hmem
      rw [hexact factor hmem, secondsFrom_eq]
      rfl

/-- The condition on a step: where a factor is made and kept, the samples are in order, at most a
    second apart, and span the time between the two keyframes. -/
def Covered (r : Recorded options) : Call → Prop
  | .addMeasurement (.gnssSolution gnss) => r.estimator.Creates gnss →
    options.windowLimit ≤ 1 ∨
      InOrder r.samples ∧ Spans r.samples r.estimator.lastKfTime gnss.timestamp
  | _ => True

section Runs

variable {r r' : Recorded options} {call : Call}

/-- A window of one keyframe keeps no factor. -/
theorem Coherent.imuFactors_eq_nil {e : CeresSlidingWindowEstimator options} (h : e.Coherent)
    (hlimit : options.windowLimit ≤ 1) : e.imuFactors = [] := by
  have hcount := congrArg List.length h.spans
  have hbounded := h.bounded
  rw [length_factorSpans, length_neighbours, length_windowTimes] at hcount
  apply List.eq_nil_of_length_eq_zero
  omega

/-- **The new factor.** It is exact if and only if the samples span the time between the two
    keyframes. -/
theorem exact_finalize_iff (h : (recorded options).Reachable r)
    (hcoherent : r.estimator.Coherent) (horder : InOrder r.samples) (t : Timestamp) :
    Exact (r.estimator.preint.finalize t) ↔ Spans r.samples r.estimator.lastKfTime t := by
  rw [← coveredSeconds_eq_iff horder, ← Recorded.deltaT_preint h hcoherent.preint.1,
    ← hcoherent.preint.2]
  rfl

/-- An initialised estimator is coherent. -/
theorem Recorded.coherent (h : (recorded options).Reachable r)
    (hinit : r.estimator.initialised = true) : r.estimator.Coherent := by
  rcases coherent_of_reachable (Recorded.reachable h) with hwaiting | ⟨_, hcoherent⟩
  · rw [hwaiting.initialised] at hinit
    exact absurd hinit Bool.false_ne_true
  · exact hcoherent

/-- The factors after a call: those from before, and the new one. -/
theorem mem_imuFactors_step {e e' : CeresSlidingWindowEstimator options}
    (hstep : Step e call e') {factor : ImuPreintegration} (hmem : factor ∈ e'.imuFactors) :
    factor ∈ e.imuFactors ∨ ∃ gnss, call = .addMeasurement (.gnssSolution gnss) ∧
      e.Creates gnss ∧ factor = e.preint.finalize gnss.timestamp := by
  cases hstep with
  | addMeasurement lib m =>
    cases m with
    | gnssSolution gnss =>
      replace hmem : factor ∈ (e.addGnss lib gnss).1.imuFactors := hmem
      rcases addGnss_cases lib e gnss with
        ⟨_, heq⟩ | ⟨_, _, heq⟩ | ⟨hvalid, hinit, ⟨hstart, heq⟩ | ⟨_, heq⟩⟩
      · rw [heq] at hmem
        exact .inl hmem
      · rw [heq] at hmem
        exact .inl hmem
      · rw [heq, createKeyframe_imuFactors] at hmem
        rcases List.mem_append.mp (List.mem_of_mem_drop hmem) with hold | hnew
        · exact .inl hold
        · exact .inr ⟨gnss, rfl, ⟨hvalid, hinit, hstart⟩, List.mem_singleton.mp hnew⟩
      · rw [heq] at hmem
        exact .inl hmem
    | _ => exact .inl hmem
  | processUntil timestamp => exact .inl hmem
  | reset => exact absurd hmem List.not_mem_nil

/-- **One covered call.** -/
theorem exact_step (h : (recorded options).Reachable r)
    (hexact : ∀ factor ∈ r.estimator.imuFactors, Exact factor) (hcovered : Covered r call)
    (hstep : (recorded options).step r call r') :
    ∀ factor ∈ r'.estimator.imuFactors, Exact factor := by
  intro factor hmem
  rcases mem_imuFactors_step hstep.1 hmem with hold | ⟨gnss, rfl, hcreates, rfl⟩
  · exact hexact factor hold
  · have hcoherent := Recorded.coherent h hcreates.2.1
    rcases hcovered hcreates with hlimit | ⟨horder, hspans⟩
    · -- nothing is kept
      rcases coherent_step (.inr ⟨hcreates.2.1, hcoherent⟩) hstep.1 with hwaiting | ⟨_, hafter⟩
      · rw [hwaiting.imuFactors] at hmem
        exact absurd hmem List.not_mem_nil
      · rw [hafter.imuFactors_eq_nil hlimit] at hmem
        exact absurd hmem List.not_mem_nil
    · exact (exact_finalize_iff h hcoherent horder gnss.timestamp).mpr hspans

/-- Every factor of a covered run is exact. -/
theorem exact_of_guarded (h : ((recorded options).guarded Covered).Reachable r) :
    ∀ factor ∈ r.estimator.imuFactors, Exact factor := by
  induction h with
  | init h0 =>
    subst h0
    intro factor hmem
    exact absurd hmem List.not_mem_nil
  | step hreach hstep ih => exact exact_step hreach.of_guarded ih hstep.1 hstep.2

/-- **Covered runs.** In every run in which the samples span the time between each two keyframes, no
    time is lost or counted twice.  That is in exact arithmetic: the code adds the intervals up as
    `double`s, each of which is rounded. -/
theorem times_exact (h : ((recorded options).guarded Covered).Reachable r)
    (hinit : r.estimator.initialised = true) : r.estimator.TimesExact := by
  have hcoherent := Recorded.coherent h.of_guarded hinit
  exact hcoherent.timesExact_iff.mpr (exact_of_guarded h)

/-- In a window of two or more keyframes, the new factor stays. -/
theorem finalize_mem_imuFactors {e e' : CeresSlidingWindowEstimator options} {gnss : GnssSolution}
    (h : e.Coherent) (hcreates : e.Creates gnss) (hlimit : 1 < options.windowLimit)
    (hstep : Step e (.addMeasurement (.gnssSolution gnss)) e') :
    e.preint.finalize gnss.timestamp ∈ e'.imuFactors := by
  obtain ⟨hvalid, hinit, hstart⟩ := hcreates
  cases hstep with
  | addMeasurement lib =>
    show _ ∈ (e.addGnss lib gnss).1.imuFactors
    rcases addGnss_cases lib e gnss with ⟨hnot, _⟩ | ⟨_, hnot, _⟩ | ⟨_, _, ⟨_, heq⟩ | ⟨hnot, _⟩⟩
    · exact absurd hvalid hnot
    · rw [hinit] at hnot
      exact absurd hnot (by decide)
    · have hcount := congrArg List.length h.spans
      have hpos := List.length_pos_of_ne_nil (h.nonempty (by omega))
      rw [length_factorSpans, length_neighbours, length_windowTimes] at hcount
      rw [heq, createKeyframe_imuFactors, List.drop_append_of_le_length (by omega)]
      exact List.mem_append_right _ List.mem_cons_self
    · exact absurd hstart hnot

/-- **And only those.** After a step of samples in order, the times are exact if and only if the
    step was covered. -/
theorem timesExact_iff_covered (h : ((recorded options).guarded Covered).Reachable r)
    (horder : InOrder r.samples) (hstep : (recorded options).step r call r')
    (hinit : r'.estimator.initialised = true) : r'.estimator.TimesExact ↔ Covered r call := by
  have hreach := h.of_guarded
  have hafter := Recorded.coherent (hreach.step hstep) hinit
  rw [hafter.timesExact_iff]
  constructor
  · intro hexact
    unfold Covered
    split
    · rename_i gnss
      intro hcreates
      have hcoherent := Recorded.coherent hreach hcreates.2.1
      by_cases hlimit : options.windowLimit ≤ 1
      · exact .inl hlimit
      · have hmem := finalize_mem_imuFactors hcoherent hcreates (Nat.lt_of_not_le hlimit) hstep.1
        have hspans := (exact_finalize_iff hreach hcoherent horder gnss.timestamp).mp
          (hexact _ hmem)
        exact .inr ⟨horder, hspans⟩
    · trivial
  · intro hcovered
    exact exact_of_guarded (h.guarded_step hstep hcovered)

end Runs

/-! ### A run that is not covered -/

/-- The backend behind the interface. -/
noncomputable def backend (options : CeresOptions) (lib : CeresLibrary) : NavigationEstimator
    (CeresSlidingWindowEstimator options) SensorMeasurement NavigationState where
  addMeasurement e m := e.addMeasurement lib m
  latestState := latestState?

/-- The IMU samples of a list of measurements. -/
def imuSamples (ms : List SensorMeasurement) : List ImuMeasurement :=
  ms.filterMap fun
    | .imu imu => some imu
    | _ => none

/-- Measurements with monotonic times and in order, among them IMU samples at most a second apart
    and from the first measurement to the last. -/
structure CoveringStream (ms : List SensorMeasurement) : Prop where
  steady : ∀ m ∈ ms, m.timestamp.hasSteady = true
  inOrder : ms.Pairwise fun m m' => steadySeconds m.timestamp ≤ steadySeconds m'.timestamp
  spacing : InOrder (imuSamples ms)
  covers : (ms.head?.map SensorMeasurement.isImu = some true) ∧
    ms.getLast?.map SensorMeasurement.isImu = some true

/-- A sample of millisecond `t`. -/
def sampleAt (t : ℤ) : ImuMeasurement where
  timestamp := (fixAt t).timestamp

/-- A recorded call of `AddMeasurement`. -/
noncomputable def Recorded.next (lib : CeresLibrary) (r : Recorded options)
    (m : SensorMeasurement) : Recorded options where
  estimator := (r.estimator.addMeasurement lib m).1
  samples := r.estimator.samplesAfter r.samples (.addMeasurement m)

theorem Recorded.next_step (lib : CeresLibrary) (r : Recorded options) (m : SensorMeasurement) :
    (recorded options).step r (.addMeasurement m) (r.next lib m) :=
  ⟨Step.addMeasurement r.estimator lib m, rfl⟩

/-- A sample each second, and a fix at `t` in between. -/
noncomputable def afterFirstFix (options : CeresOptions) (t : ℤ) : Recorded options :=
  ((Recorded.next idleLibrary {} (.imu (sampleAt 0))).next idleLibrary
    (.gnssSolution (fixAt t))).next idleLibrary (.imu (sampleAt 1000))

theorem steadySeconds_fixAt (t : ℤ) : steadySeconds (fixAt t).timestamp = t / 1000 := by
  simp only [steadySeconds, fixAt]
  push_cast
  ring

/-- Only a sample before the fix is left out. -/
theorem replayed_sampleAt (s t : ℤ) :
    replayed [sampleAt s] (fixAt t).timestamp = if s < t then [] else [sampleAt s] := by
  have hbefore :
      compareTimestamps (sampleAt s).timestamp (fixAt t).timestamp = .before ↔ s < t := by
    have hs : (sampleAt s).timestamp.On .steady := rfl
    have ht : (fixAt t).timestamp.On .steady := rfl
    rw [compareTimestamps_eq_before_iff hs ht]
    show toLex (s * 1000000, (0 : ℚ)) < toLex (t * 1000000, (0 : ℚ)) ↔ s < t
    rw [Prod.Lex.toLex_lt_toLex]
    constructor
    · rintro (h | ⟨_, h⟩)
      · exact lt_of_mul_lt_mul_right h (by norm_num)
      · exact absurd h (lt_irrefl _)
    · intro h
      exact .inl (mul_lt_mul_of_pos_right h (by norm_num))
  by_cases h : s < t
  · simp [replayed, hbefore, h]
  · simp [replayed, hbefore, h]

/-- A fix later than the first sample leaves it out. -/
theorem afterFirstFix_eq (options : CeresOptions) (t : ℤ) :
    ((recorded options).guarded Covered).Reachable (afterFirstFix options t) ∧
    (afterFirstFix options t).estimator.initialised = true ∧
    (afterFirstFix options t).estimator.lastKfTime = (fixAt t).timestamp ∧
    (afterFirstFix options t).samples
      = (if 0 < t then [] else [sampleAt 0]) ++ [sampleAt 1000] := by
  let first : Recorded options := Recorded.next idleLibrary {} (.imu (sampleAt 0))
  let second : Recorded options := first.next idleLibrary (.gnssSolution (fixAt t))
  have hinit : first.estimator.initialised = false := rfl
  have hnot : ¬ first.estimator.Creates (fixAt t) := by
    rintro ⟨_, htrue, _⟩
    rw [hinit] at htrue
    exact Bool.false_ne_true htrue
  -- neither of the first two calls makes a keyframe, so the guard holds of them
  have hfirst : ((recorded options).guarded Covered).Reachable first :=
    (System.Reachable.init rfl).guarded_step (Recorded.next_step idleLibrary {} _) trivial
  have hsecond : ((recorded options).guarded Covered).Reachable second :=
    hfirst.guarded_step (Recorded.next_step idleLibrary first _)
      fun hcreates => absurd hcreates hnot
  have hestimator : second.estimator
      = (first.estimator.initFromGnss idleLibrary (fixAt t)).1 := by
    show (first.estimator.addGnss idleLibrary (fixAt t)).1 = _
    rw [addGnss_of_not_initialised rfl hinit]
  have hsamples : second.samples = if 0 < t then [] else [sampleAt 0] := by
    rw [← replayed_sampleAt]
    show first.estimator.samplesAfter first.samples (.addMeasurement (.gnssSolution (fixAt t))) = _
    unfold samplesAfter
    dsimp only
    rw [if_neg hnot, if_pos ⟨rfl, hinit⟩]
    rfl
  refine ⟨hsecond.guarded_step (Recorded.next_step idleLibrary second _) trivial, ?_, ?_, ?_⟩
  · show second.estimator.initialised = true
    rw [hestimator]
    rfl
  · show second.estimator.lastKfTime = _
    rw [hestimator]
    rfl
  · show (if second.estimator.preintActive then second.samples ++ [sampleAt 1000]
      else second.samples) = _
    have hactive : second.estimator.preintActive = true := by
      rw [hestimator]
      rfl
    rw [if_pos hactive, hsamples]

theorem inOrder_afterFirstFix (options : CeresOptions) (t : ℤ) :
    InOrder (afterFirstFix options t).samples := by
  rw [(afterFirstFix_eq options t).2.2.2]
  have hstep : secondsBetween (sampleAt 0) (sampleAt 1000) = 1 := by
    rw [secondsBetween_eq, sampleAt, sampleAt, steadySeconds_fixAt, steadySeconds_fixAt]
    norm_num
  split
  · exact List.isChain_singleton _
  · refine List.isChain_pair.mpr ?_
    rw [hstep]
    norm_num

/-- The second fix, a second after the first, makes a keyframe. -/
theorem creates_second (options : CeresOptions) (t : ℤ) :
    (afterFirstFix options t).estimator.Creates (fixAt (t + 1000)) := by
  obtain ⟨_, hinit, hlast, _⟩ := afterFirstFix_eq options t
  exact ⟨rfl, hinit, startsKeyframe_of_second hlast _⟩

/-- The estimator with its default options after the second fix. -/
noncomputable def afterSecondFix (t : ℤ) : Recorded {} :=
  (afterFirstFix {} t).next idleLibrary (.gnssSolution (fixAt (t + 1000)))

theorem afterSecondFix_initialised (t : ℤ) : (afterSecondFix t).estimator.initialised = true := by
  obtain ⟨_, hinit, hlast, _⟩ := afterFirstFix_eq {} t
  show ((afterFirstFix {} t).estimator.addGnss idleLibrary (fixAt (t + 1000))).1.initialised = true
  rw [addGnss_of_second idleLibrary hinit hlast]
  exact hinit

/-- **On time.** Samples at the times of both fixes. -/
theorem times_exact_second : (afterSecondFix 0).estimator.TimesExact := by
  obtain ⟨hreach, _, hlast, hsamples⟩ := afterFirstFix_eq {} 0
  have hcovered : Covered (afterFirstFix {} 0) (.addMeasurement (.gnssSolution (fixAt 1000))) := by
    intro _
    refine .inr ⟨inOrder_afterFirstFix {} 0, ?_⟩
    rw [hsamples, hlast, if_neg (lt_irrefl 0)]
    show steadySeconds (fixAt 0).timestamp - steadySeconds (fixAt 0).timestamp
      = steadySeconds (fixAt 1000).timestamp - steadySeconds (fixAt 1000).timestamp
    rw [sub_self, sub_self]
  have hstep := Recorded.next_step idleLibrary (afterFirstFix {} 0) (.gnssSolution (fixAt 1000))
  exact times_exact (hreach.guarded_step hstep hcovered) (afterSecondFix_initialised 0)

/-- **Half a second off.** A sample each second, and the fixes half way between: the only sample
    between the two keyframes accounts for no time. -/
theorem not_times_exact :
    ¬ ∀ (options : CeresOptions) (lib : CeresLibrary) (ms : List SensorMeasurement),
      CoveringStream ms → ((backend options lib).run {} ms).initialised = true →
        ((backend options lib).run {} ms).TimesExact := by
  intro h
  have hstream : CoveringStream [.imu (sampleAt 0), .gnssSolution (fixAt 500), .imu (sampleAt 1000),
      .gnssSolution (fixAt 1500), .imu (sampleAt 2000)] := by
    refine ⟨?_, ?_, ?_, rfl, rfl⟩
    · simp [SensorMeasurement.timestamp, sampleAt, fixAt]
    · simp [SensorMeasurement.timestamp, sampleAt, steadySeconds_fixAt]
      norm_num
    · show InOrder [sampleAt 0, sampleAt 1000, sampleAt 2000]
      simp [InOrder, secondsBetween_eq, sampleAt, steadySeconds_fixAt]
      norm_num
  have hexact := h {} idleLibrary _ hstream (afterSecondFix_initialised 500)
  -- the last sample leaves window and factors alone
  have htimes : (afterSecondFix 500).estimator.TimesExact := ⟨hexact.factor, hexact.sum⟩
  obtain ⟨hreach, _, hlast, hsamples⟩ := afterFirstFix_eq {} 500
  have hcovered := (timesExact_iff_covered hreach (inOrder_afterFirstFix {} 500)
    (Recorded.next_step idleLibrary _ _) (afterSecondFix_initialised 500)).mp htimes
  rcases hcovered (creates_second {} 500) with hlimit | ⟨_, hspans⟩
  · exact absurd hlimit (by decide)
  · rw [hsamples, hlast, if_pos (by norm_num)] at hspans
    replace hspans : steadySeconds (fixAt 1000).timestamp - steadySeconds (fixAt 500).timestamp
      = steadySeconds (fixAt 1000).timestamp - steadySeconds (fixAt 1500).timestamp := hspans
    rw [steadySeconds_fixAt, steadySeconds_fixAt, steadySeconds_fixAt] at hspans
    norm_num at hspans

end CeresSlidingWindowEstimator

end FalconGuide
