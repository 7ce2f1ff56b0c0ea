import FalconGuide.App.ConfigValidity
import FalconGuide.App.Factories
import FalconGuide.Estimation.TimeAccounting

namespace FalconGuide

/-!
# Whether `PropagateTo` ends

The loop that splits a gap takes `min remaining max_imu_dt_s` off what remains, which nothing
between the configuration file and the filter keeps positive: neither `NavFromJson` nor `Validate`
looks at `max_imu_dt_s`.

* `Filter.propagateToWithin` / `Filter.Terminates` — `PropagateTo` with a bound on the rounds of the
  loop, and that some bound is enough;
* `EntersLoop` — some popped sample gets as far as the loop with time to integrate;
* `Filter.terminates_iff` — `PropagateTo` ends exactly if the step is positive or the loop is never
  entered;
* `propagateTo_terminates_iff` — the main result, for the filters that a configuration selects;
* `not_propagateTo_terminates` — a step of zero, which `Validate` accepts.
-/

/-! ### Bounded rounds -/

namespace Backend

variable (b : Backend)

/-- One popped sample, `none` when its gap takes more than `fuel` rounds. -/
noncomputable def propagateSampleWithin (fuel : ℕ) (s : b.State) (imu : ImuMeasurement) :
    Option b.State :=
  if !(b.timestamp s).hasSteady && !(b.timestamp s).hasGps then
    some (b.setTimestamp s imu.timestamp)
  else
    match timeDifference imu.timestamp (b.timestamp s) with
    | none => some s
    | some difference =>
      let dt : ℝ := difference.seconds
      if dt < b.minImuDtS then some s
      else (b.gapLoop imu fuel s dt).map fun s => b.setTimestamp s imu.timestamp

variable {b} {imu : ImuMeasurement} {fuel fuel' : ℕ} {s t : b.State} {remaining : ℝ}

/-- The loop ends when nothing remains. -/
theorem gapLoop_of_not_pos (hpos : ¬ 0 < remaining) :
    b.gapLoop imu fuel s remaining = some s := by
  cases fuel with
  | zero => rw [gapLoop, if_neg hpos]
  | succ fuel => rw [gapLoop_succ, if_neg hpos]

/-- More rounds do not change what the loop over a gap returns. -/
theorem gapLoop_mono (hle : fuel ≤ fuel') (h : b.gapLoop imu fuel s remaining = some t) :
    b.gapLoop imu fuel' s remaining = some t := by
  induction fuel generalizing fuel' s remaining with
  | zero =>
    by_cases hpos : 0 < remaining
    · rw [gapLoop, if_pos hpos] at h
      cases h
    · rw [gapLoop_of_not_pos hpos] at h ⊢
      exact h
  | succ fuel ih =>
    obtain ⟨more, rfl⟩ : ∃ more, fuel' = more + 1 := ⟨fuel' - 1, by omega⟩
    rw [gapLoop_succ] at h ⊢
    by_cases hpos : 0 < remaining
    · rw [if_pos hpos] at h ⊢
      apply ih _ h
      omega
    · rw [if_neg hpos] at h ⊢
      exact h

/-- Without a positive step what remains never gets less. -/
theorem gapLoop_of_nonpos (hmax : b.maxImuDtS ≤ 0) :
    b.gapLoop imu fuel s remaining = if 0 < remaining then none else some s := by
  induction fuel generalizing s remaining with
  | zero =>
    rw [gapLoop]
  | succ fuel ih =>
    rw [gapLoop_succ]
    by_cases hpos : 0 < remaining
    · have hstep : 0 < remaining - min remaining b.maxImuDtS := by
        rw [min_eq_right (by linarith)]
        linarith
      rw [if_pos hpos, if_pos hpos, ih, if_pos hstep]
    · rw [if_neg hpos, if_neg hpos]

/-- More rounds do not change what becomes of a sample. -/
theorem propagateSampleWithin_mono (hle : fuel ≤ fuel')
    (h : b.propagateSampleWithin fuel s imu = some t) :
    b.propagateSampleWithin fuel' s imu = some t := by
  unfold propagateSampleWithin at h ⊢
  split at h
  · rw [if_pos ‹_›]
    exact h
  · rw [if_neg ‹_›]
    split at h
    · exact h
    · simp only at h ⊢
      split at h
      · rw [if_pos ‹_›]
        exact h
      · rw [if_neg ‹_›]
        obtain ⟨u, hu, rfl⟩ := Option.map_eq_some_iff.mp h
        rw [gapLoop_mono hle hu]
        rfl

/-- Nor what becomes of several. -/
theorem foldlM_propagateSampleWithin_mono (hle : fuel ≤ fuel') {batch : List ImuMeasurement}
    (h : batch.foldlM (b.propagateSampleWithin fuel) s = some t) :
    batch.foldlM (b.propagateSampleWithin fuel') s = some t := by
  induction batch generalizing s with
  | nil => exact h
  | cons imu batch ih =>
    rw [List.foldlM_cons] at h ⊢
    obtain ⟨u, hu, hrest⟩ := Option.bind_eq_some_iff.mp h
    rw [propagateSampleWithin_mono hle hu]
    exact ih hrest

/-! ### With a positive step -/

/-- The rounds that `propagateSample` allows are one such bound. -/
theorem exists_propagateSampleWithin (h : b.propagateSample s imu = some t) :
    ∃ fuel, b.propagateSampleWithin fuel s imu = some t := by
  by_cases hclock : (!(b.timestamp s).hasSteady && !(b.timestamp s).hasGps) = true
  · refine ⟨0, ?_⟩
    rw [propagateSample, if_pos hclock] at h
    rw [propagateSampleWithin, if_pos hclock]
    exact h
  · cases hdiff : timeDifference imu.timestamp (b.timestamp s) with
    | none =>
      refine ⟨0, ?_⟩
      simp only [propagateSample, if_neg hclock, hdiff] at h
      simp only [propagateSampleWithin, if_neg hclock, hdiff]
      exact h
    | some difference =>
      refine ⟨⌈(difference.seconds : ℝ) / b.maxImuDtS⌉₊, ?_⟩
      simp only [propagateSample, if_neg hclock, hdiff] at h
      simp only [propagateSampleWithin, if_neg hclock, hdiff]
      exact h

/-- One bound is enough for a whole batch. -/
theorem exists_foldlM_propagateSampleWithin {batch : List ImuMeasurement}
    (h : batch.foldlM b.propagateSample s = some t) :
    ∃ fuel, batch.foldlM (b.propagateSampleWithin fuel) s = some t := by
  induction batch generalizing s with
  | nil => exact ⟨0, h⟩
  | cons imu batch ih =>
    rw [List.foldlM_cons] at h
    obtain ⟨u, hu, hrest⟩ := Option.bind_eq_some_iff.mp h
    obtain ⟨fuel, hfuel⟩ := exists_propagateSampleWithin hu
    obtain ⟨fuel', hfuel'⟩ := ih hrest
    refine ⟨max fuel fuel', ?_⟩
    rw [List.foldlM_cons, propagateSampleWithin_mono (le_max_left _ _) hfuel]
    exact foldlM_propagateSampleWithin_mono (le_max_right _ _) hfuel'

/-! ### Without a positive step -/

/-- The rounds do not matter. -/
theorem propagateSampleWithin_of_nonpos (hmax : b.maxImuDtS ≤ 0) :
    b.propagateSampleWithin fuel = b.propagateSample := by
  funext s imu
  unfold propagateSampleWithin propagateSample
  cases timeDifference imu.timestamp (b.timestamp s) with
  | none => rfl
  | some difference => simp only [gapLoop_of_nonpos hmax]

end Backend

/-- Some sample of the batch gets as far as the loop over its gap with time to integrate, in a
    filter whose time is `now` before the batch. -/
def EntersLoop (minImuDtS : ℝ) : Timestamp → List ImuMeasurement → Prop
  | _, [] => False
  | now, imu :: batch =>
    if !now.hasSteady && !now.hasGps then EntersLoop minImuDtS imu.timestamp batch
    else
      match timeDifference imu.timestamp now with
      | none => EntersLoop minImuDtS now batch
      | some difference =>
        if (difference.seconds : ℝ) < minImuDtS then EntersLoop minImuDtS now batch
        else 0 < (difference.seconds : ℝ) ∨ EntersLoop minImuDtS imu.timestamp batch

/-- **Without a positive step** a batch is propagated only if the loop is never entered. -/
theorem Backend.foldlM_propagateSample_isSome_iff {b : Backend} (hb : b.Clocked)
    (hmax : b.maxImuDtS ≤ 0) {batch : List ImuMeasurement} {s : b.State} :
    (batch.foldlM b.propagateSample s).isSome ↔ ¬ EntersLoop b.minImuDtS (b.timestamp s) batch := by
  induction batch generalizing s with
  | nil => simp [EntersLoop]
  | cons imu batch ih =>
    rw [List.foldlM_cons, EntersLoop]
    by_cases hclock : (!(b.timestamp s).hasSteady && !(b.timestamp s).hasGps) = true
    · rw [if_pos hclock, propagateSample, if_pos hclock]
      -- the filter takes over the time of the sample
      show (batch.foldlM b.propagateSample (b.setTimestamp s imu.timestamp)).isSome ↔ _
      rw [ih, hb.setTimestamp]
    · rw [if_neg hclock, propagateSample, if_neg hclock]
      cases hdiff : timeDifference imu.timestamp (b.timestamp s) with
      | none => exact ih
      | some difference =>
        by_cases hmin : (difference.seconds : ℝ) < b.minImuDtS
        · simp only [if_pos hmin]
          exact ih
        · simp only [if_neg hmin, gapLoop_of_nonpos hmax]
          by_cases hpos : 0 < (difference.seconds : ℝ)
          · simp [hpos]
          · simp only [hpos, false_or]
            show (batch.foldlM b.propagateSample (b.setTimestamp s imu.timestamp)).isSome ↔ _
            rw [ih, hb.setTimestamp]

/-! ### The whole batch -/

namespace Filter

variable {b : Backend}

/-- `PropagateTo`, `none` when the gap of a sample takes more than `fuel` rounds. -/
noncomputable def propagateToWithin (f : Filter b) (fuel : ℕ) (target : Timestamp) :
    Option (Filter b) :=
  let (batch, imuBuffer) := f.imuBuffer.popUntil ImuMeasurement.timestamp target true
  (batch.foldlM (b.propagateSampleWithin fuel) f.state).map fun state => { f with state, imuBuffer }

/-- `PropagateTo` ends. -/
def Terminates (f : Filter b) (target : Timestamp) : Prop :=
  ∃ fuel, (f.propagateToWithin fuel target).isSome

/-- `PropagateTo` ends exactly if the rounds that `propagateTo` allows are enough. -/
theorem terminates_iff_isSome (f : Filter b) (target : Timestamp) :
    f.Terminates target ↔ (f.propagateTo target).isSome := by
  constructor
  · rintro ⟨fuel, hfuel⟩
    by_cases hmax : 0 < b.maxImuDtS
    · rw [propagateTo, Option.isSome_map]
      exact Backend.foldlM_propagateSample_isSome hmax _ _
    · rw [propagateToWithin, Backend.propagateSampleWithin_of_nonpos (not_lt.mp hmax)] at hfuel
      exact hfuel
  · intro h
    rw [propagateTo, Option.isSome_map] at h
    obtain ⟨t, ht⟩ := Option.isSome_iff_exists.mp h
    obtain ⟨fuel, hfuel⟩ := Backend.exists_foldlM_propagateSampleWithin ht
    refine ⟨fuel, ?_⟩
    rw [propagateToWithin, Option.isSome_map, hfuel]
    rfl

/-- **`PropagateTo` ends** exactly if the step is positive or the loop is never entered. -/
theorem terminates_iff (hb : b.Clocked) (f : Filter b) (target : Timestamp) :
    f.Terminates target ↔
      0 < b.maxImuDtS ∨ ¬ EntersLoop b.minImuDtS (b.timestamp f.state) (f.popped target) := by
  rw [terminates_iff_isSome, propagateTo, Option.isSome_map]
  by_cases hmax : 0 < b.maxImuDtS
  · simp only [hmax, true_or, iff_true]
    exact Backend.foldlM_propagateSample_isSome hmax _ _
  · simp only [hmax, false_or]
    exact Backend.foldlM_propagateSample_isSome_iff hb (not_lt.mp hmax)

/-- Without a positive step a filter just created hangs after a fix and a later sample. -/
theorem not_terminates_of_gap (hb : b.Clocked) (hmax : b.maxImuDtS ≤ 0) {gnss : GnssSolution}
    {imu : ImuMeasurement} (hfix : gnss.fixType ≠ .noFix) (hvalid : gnss.validity = .valid)
    (hgnss : gnss.timestamp.hasSteady = true) (himu : imu.timestamp.hasSteady = true)
    (hmin : b.minImuDtS ≤ imu.timestamp.steadySeconds - gnss.timestamp.steadySeconds)
    (hlater : gnss.timestamp.steadySeconds < imu.timestamp.steadySeconds) :
    ∃ f, ({} : Filter b).run
        [.addMeasurement (.gnssSolution gnss), .addMeasurement (.imu imu)] = some f ∧
      ¬ f.Terminates imu.timestamp := by
  let R := (LocalTangentPlane.make (ecefToLla gnss.positionEcefM)).ecefToEnuRotation
  refine ⟨{
    initialised := true
    state := b.initialise b.blank R gnss
    imuBuffer := { maxSize := 2000, measurements := [imu] }
    localTangentPlane := some (LocalTangentPlane.make (ecefToLla gnss.positionEcefM)) }, ?_, ?_⟩
  · simp [run, call, addMeasurement, addEarly, tryInitialiseFromGnss, addImu, hfix, hvalid, R,
      TimeOrderedBuffer.insert]
  · rw [terminates_iff hb, not_or, not_not]
    refine ⟨not_lt.mpr hmax, ?_⟩
    obtain ⟨difference, hdiff, hseconds⟩ := timeDifference_of_steady himu hgnss
    have hpopped : TimeOrderedBuffer.popLoop ImuMeasurement.timestamp imu.timestamp true [imu]
        = ([imu], []) := by
      simp [TimeOrderedBuffer.popLoop, compareTimestamps, himu]
    simp only [popped, TimeOrderedBuffer.popUntil, hpopped, hb.initialise]
    rw [EntersLoop, if_neg (by simp [hgnss])]
    simp only [hdiff]
    rw [if_neg (by linarith)]
    exact .inl (by linarith)

end Filter

/-! ### The filters of a configuration -/

open Config in
/-- **Whether `PropagateTo` ends** in the filters that a configuration selects: in every state and
    for every target, if `max_imu_dt_s` is positive; else exactly if no sample gets as far as the
    loop with time to integrate. -/
theorem propagateTo_terminates_iff (config : SessionConfig Sensors) :
    (∀ (eigen : Eigen) (e : EkfEstimator (ekfOptions config.nav.sensors)) (target : Timestamp),
      (e.toFilter eigen).Terminates target ↔
        0 < config.nav.sensors.maxImuDtS ∨
          ¬ EntersLoop config.nav.sensors.minImuDtS e.state.nominal.timestamp
            ((e.toFilter eigen).popped target)) ∧
    ∀ (d : Ukf.Decompositions) (e : Ukf.UkfEstimator (ukfOptions config.nav.sensors))
      (target : Timestamp),
      (e.toFilter d).Terminates target ↔
        0 < config.nav.sensors.maxImuDtS ∨
          ¬ EntersLoop config.nav.sensors.minImuDtS e.state.nominal.timestamp
            ((e.toFilter d).popped target) := by
  constructor
  · intro eigen e target
    rw [Filter.terminates_iff (clocked_ekfBackend eigen _), ← Rat.cast_pos (K := ℝ)]
    rfl
  · intro d e target
    rw [Filter.terminates_iff (clocked_ukfBackend d _), ← Rat.cast_pos (K := ℝ)]
    rfl

open Config in
/-- A configuration that `Validate` accepts, with a largest step of zero: after a fix of time zero
    and a sample of two seconds `ProcessUntil` never returns, in either filter. -/
theorem not_propagateTo_terminates :
    ∃ config : SessionConfig Sensors, config.validate = none ∧
      (∃ e, (EkfEstimator.system .exact (ekfOptions config.nav.sensors)).Run
          (buildEkfEstimator config.nav.sensors)
          [.addMeasurement (.gnssSolution { timestamp := .ofSteady 0, fixType := .single }),
            .addMeasurement (.imu { timestamp := .ofSteady 2000000000 })] e ∧
        ¬ (e.toFilter .exact).Terminates (.ofSteady 2000000000)) ∧
      ∃ e, (Ukf.UkfEstimator.system .exact (ukfOptions config.nav.sensors)).Run
          (buildUkfEstimator 0 config.nav.sensors)
          [.addMeasurement (.gnssSolution { timestamp := .ofSteady 0, fixType := .single }),
            .addMeasurement (.imu { timestamp := .ofSteady 2000000000 })] e ∧
        ¬ (e.toFilter .exact).Terminates (.ofSteady 2000000000) := by
  let sensors : Sensors := { maxImuDtS := 0 }
  let fix : GnssSolution := { timestamp := .ofSteady 0, fixType := .single }
  let imu : ImuMeasurement := { timestamp := .ofSteady 2000000000 }
  have hmax : ((sensors.maxImuDtS : ℚ) : ℝ) ≤ 0 := by simp [sensors]
  -- two seconds are left after the sample was integrated in steps of no length
  have hgap : imu.timestamp.steadySeconds - fix.timestamp.steadySeconds = 2 := by
    norm_num [imu, fix, Timestamp.steadySeconds, Timestamp.ofSteady, MonotonicTime.sub,
      Duration.seconds]
  have hmin : (sensors.minImuDtS : ℝ) ≤ 2 := by norm_num [sensors]
  refine ⟨{ nav := { sensors }, dataset := { path := "flight.csv" } }, by decide, ?_, ?_⟩
  · have hbuild : buildEkfEstimator sensors = {} := by
      simp [buildEkfEstimator, ekfModels, SensorConfig.models, sensors]
    obtain ⟨f, hcalls, hnot⟩ := @Filter.not_terminates_of_gap _
      (clocked_ekfBackend .exact (ekfOptions sensors)) hmax fix imu (by decide) rfl rfl rfl
      (hgap ▸ hmin) (by linarith)
    obtain ⟨e, hrun, rfl⟩ := @Embedding.exists_run _ _ _ _
      (EkfEstimator.embedding .exact (ekfOptions sensors)) {}
      [.addMeasurement (.gnssSolution fix), .addMeasurement (.imu imu)] f hcalls
    refine ⟨e, ?_, hnot⟩
    show (EkfEstimator.system .exact _).Run (buildEkfEstimator sensors) _ e
    rw [hbuild]
    exact hrun
  · have hbuild : buildUkfEstimator 0 sensors = {} := by
      simp [buildUkfEstimator, ukfModels, SensorConfig.models, sensors]
    obtain ⟨f, hcalls, hnot⟩ := @Filter.not_terminates_of_gap _
      (clocked_ukfBackend .exact (ukfOptions sensors)) hmax fix imu (by decide) rfl rfl rfl
      (hgap ▸ hmin) (by linarith)
    obtain ⟨e, hrun, rfl⟩ := @Embedding.exists_run _ _ _ _
      (Ukf.UkfEstimator.embedding .exact (ukfOptions sensors)) {}
      [.addMeasurement (.gnssSolution fix), .addMeasurement (.imu imu)] f hcalls
    refine ⟨e, ?_, hnot⟩
    show (Ukf.UkfEstimator.system .exact _).Run (buildUkfEstimator 0 sensors) _ e
    rw [hbuild]
    exact hrun

end FalconGuide
