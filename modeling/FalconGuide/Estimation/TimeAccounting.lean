import FalconGuide.Estimation.FilterBackends
import FalconGuide.Ukf.Update
import Mathlib.Tactic.Linarith

namespace FalconGuide

/-!
# The time a filter integrates

From an initialisation on, a filter propagates over every nanosecond of its time once.  Samples
that arrive late or twice, targets that go back and samples too close to the last one change when
an interval is integrated, and with which sample, but not that it is.

* `Backend.Clocked` — what a backend does to the filter time: only `PropagateTo` moves it;
* `Advances` — the filter time moved on by exactly the recorded steps;
* `Filter.OnClock` — initialised, with the monotonic clock in every timestamp;
* `advances_call`, `advances_run` — one call moves the time on so, and every run does;
* `Accounts`, `time_accounted` — the time of both filters is accounted for.
-/

/-! ### The monotonic clock -/

/-- Seconds on the monotonic clock. -/
noncomputable def Timestamp.steadySeconds (t : Timestamp) : ℝ := (t.steady.sub {}).seconds

/-- Between timestamps with the monotonic clock `TimeDifference` is the difference. -/
theorem timeDifference_of_steady {t u : Timestamp} (ht : t.hasSteady = true)
    (hu : u.hasSteady = true) :
    ∃ difference, timeDifference t u = some difference ∧
      (difference.seconds : ℝ) = t.steadySeconds - u.steadySeconds := by
  refine ⟨t.steady.sub u.steady, by simp [timeDifference, ht, hu], ?_⟩
  simp only [MonotonicTime.sub, Duration.seconds, Timestamp.steadySeconds]
  push_cast
  ring

theorem atOrBefore_of_steady {t u : Timestamp} (ht : t.hasSteady = true)
    (hu : u.hasSteady = true) (hle : t.steadySeconds ≤ u.steadySeconds) : t.AtOrBefore u := by
  have hns : t.steady.nanosecondsSinceEpoch ≤ u.steady.nanosecondsSinceEpoch := by
    simp only [Timestamp.steadySeconds, MonotonicTime.sub, Duration.seconds, sub_zero] at hle
    have hcast := (div_le_div_iff_of_pos_right (by norm_num)).mp (Rat.cast_le.mp hle)
    exact_mod_cast hcast
  simp only [Timestamp.AtOrBefore, compareTimestamps, ht, hu, Bool.and_self, if_true]
  split
  · exact .inl rfl
  · rw [if_neg (by omega)]
    exact .inr rfl

/-! ### Who moves the filter time -/

/-- The filter time is set by an initialisation and by `PropagateTo`, not by the models. -/
structure Backend.Clocked (b : Backend) : Prop where
  setTimestamp : ∀ s t, b.timestamp (b.setTimestamp s t) = t
  initialise : ∀ s R gnss, b.timestamp (b.initialise s R gnss) = gnss.timestamp
  apply : ∀ model m ctx s, b.timestamp (b.apply model m ctx s).1 = b.timestamp s

theorem clocked_ekfBackend (eigen : Eigen) (options : EkfOptions) :
    (ekfBackend eigen options).Clocked where
  setTimestamp _ _ := rfl
  initialise _ _ _ := rfl
  apply model m ctx s := by
    show (ekfStep eigen model m ctx s).1.nominal.timestamp = s.nominal.timestamp
    unfold ekfStep
    dsimp only
    split
    · rfl
    · rfl

theorem clocked_ukfBackend (d : Ukf.Decompositions) (options : Ukf.UkfOptions) :
    (ukfBackend d options).Clocked where
  setTimestamp _ _ := rfl
  initialise _ _ _ := rfl
  apply model m ctx s := by
    show (Ukf.applyMeasurementModel d options.sigmaParams model m ctx s).1.nominal.timestamp
      = s.nominal.timestamp
    unfold Ukf.applyMeasurementModel Ukf.generateSigmaPoints
    split
    · rfl
    · dsimp only
      split
      · rfl
      · rfl

/-! ### One step of propagation -/

section Advances

variable {b : Backend} {s s' s'' : b.logged.State}

/-- From `s` to `s'` the filter time moved on by the recorded steps, each of which is positive and
    not longer than `maxImuDtS`. -/
def Advances (s s' : b.logged.State) : Prop :=
  (b.timestamp s'.1).hasSteady = true ∧
    ∃ steps : List ℝ, s'.2 = s.2 ++ steps ∧
      steps.sum = (b.timestamp s'.1).steadySeconds - (b.timestamp s.1).steadySeconds ∧
      ∀ dt ∈ steps, 0 < dt ∧ dt ≤ b.maxImuDtS

/-- Nothing is recorded while the time stays. -/
theorem Advances.of_timestamp (hs : (b.timestamp s.1).hasSteady = true)
    (ht : b.timestamp s'.1 = b.timestamp s.1) (hlog : s'.2 = s.2) : Advances s s' :=
  ⟨ht ▸ hs, [], by rw [hlog, List.append_nil], by rw [ht, sub_self, List.sum_nil], by simp⟩

theorem Advances.refl (hs : (b.timestamp s.1).hasSteady = true) : Advances s s :=
  .of_timestamp hs rfl rfl

theorem Advances.trans (h : Advances s s') (h' : Advances s' s'') : Advances s s'' := by
  obtain ⟨-, steps, hlog, hsum, hsteps⟩ := h
  obtain ⟨hsteady, steps', hlog', hsum', hsteps'⟩ := h'
  refine ⟨hsteady, steps ++ steps', ?_, ?_, ?_⟩
  · rw [hlog', hlog, List.append_assoc]
  · rw [List.sum_append, hsum, hsum']
    ring
  · intro dt hdt
    rcases List.mem_append.mp hdt with hdt | hdt
    · exact hsteps dt hdt
    · exact hsteps' dt hdt

/-- The time does not move backwards. -/
theorem Advances.le (h : Advances s s') :
    (b.timestamp s.1).steadySeconds ≤ (b.timestamp s'.1).steadySeconds := by
  obtain ⟨-, steps, -, hsum, hsteps⟩ := h
  have hpos : 0 ≤ steps.sum := List.sum_nonneg fun dt hdt => (hsteps dt hdt).1.le
  linarith

/-- **A gap** is split into steps that add up to it. -/
theorem gapLoop_logged (hmax : 0 < b.maxImuDtS) {imu : ImuMeasurement} {fuel : ℕ}
    {remaining : ℝ} (hremaining : 0 ≤ remaining)
    (h : b.logged.gapLoop imu fuel s remaining = some s') :
    ∃ steps : List ℝ, s'.2 = s.2 ++ steps ∧ steps.sum = remaining ∧
      ∀ dt ∈ steps, 0 < dt ∧ dt ≤ b.maxImuDtS := by
  induction fuel generalizing s remaining with
  | zero =>
    simp only [Backend.gapLoop] at h
    split at h
    · cases h
    · rename_i hpos
      cases h
      exact ⟨[], by simp, by simpa using le_antisymm hremaining (not_lt.mp hpos), by simp⟩
  | succ fuel ih =>
    rw [Backend.gapLoop_succ] at h
    split at h
    · rename_i hpos
      have hstep : 0 < min remaining b.maxImuDtS := lt_min hpos hmax
      obtain ⟨steps, hlog, hsum, hsteps⟩ := ih (sub_nonneg.mpr (min_le_left _ _)) h
      refine ⟨min remaining b.maxImuDtS :: steps, ?_, ?_, ?_⟩
      · rw [hlog]
        exact List.append_assoc _ _ _
      · rw [List.sum_cons, hsum]
        exact add_sub_cancel _ _
      · intro dt hdt
        rcases List.mem_cons.mp hdt with rfl | hdt
        · exact ⟨hstep, min_le_right _ _⟩
        · exact hsteps dt hdt
    · rename_i hpos
      cases h
      exact ⟨[], by simp, by simpa using le_antisymm hremaining (not_lt.mp hpos), by simp⟩

/-- **One popped sample.** A sample too early is left out, and its time is part of the step to the
    next one. -/
theorem advances_propagateSample (hb : b.Clocked) (hmin : 0 ≤ b.minImuDtS)
    (hmax : 0 < b.maxImuDtS) {imu : ImuMeasurement} (himu : imu.timestamp.hasSteady = true)
    (hs : (b.timestamp s.1).hasSteady = true)
    (h : b.logged.propagateSample s imu = some s') : Advances s s' := by
  obtain ⟨difference, hdiff, hseconds⟩ := timeDifference_of_steady himu hs
  have hbase : ¬ (!(b.logged.timestamp s).hasSteady && !(b.logged.timestamp s).hasGps) = true := by
    show ¬ (!(b.timestamp s.1).hasSteady && !(b.timestamp s.1).hasGps) = true
    simp [hs]
  have hlogged : timeDifference imu.timestamp (b.logged.timestamp s) = some difference := hdiff
  rw [Backend.propagateSample, if_neg hbase, hlogged] at h
  have hrest : (if (difference.seconds : ℝ) < b.minImuDtS then some s
      else (b.logged.gapLoop imu ⌈(difference.seconds : ℝ) / b.maxImuDtS⌉₊ s
        difference.seconds).map fun s => b.logged.setTimestamp s imu.timestamp) = some s' := h
  split at hrest
  · cases hrest
    exact .refl hs
  · rename_i hdt
    obtain ⟨t, hgap, rfl⟩ := Option.map_eq_some_iff.mp hrest
    have hnonneg : 0 ≤ (difference.seconds : ℝ) := hmin.trans (not_lt.mp hdt)
    obtain ⟨steps, hlog, hsum, hsteps⟩ := gapLoop_logged hmax hnonneg hgap
    have htime : b.timestamp (b.setTimestamp t.1 imu.timestamp) = imu.timestamp :=
      hb.setTimestamp _ _
    refine ⟨?_, steps, hlog, ?_, hsteps⟩
    · show (b.timestamp (b.setTimestamp t.1 imu.timestamp)).hasSteady = true
      rw [htime, himu]
    · show _ = (b.timestamp (b.setTimestamp t.1 imu.timestamp)).steadySeconds - _
      rw [htime, hsum, hseconds]

/-- All popped samples. -/
theorem advances_foldlM (hb : b.Clocked) (hmin : 0 ≤ b.minImuDtS) (hmax : 0 < b.maxImuDtS)
    {batch : List ImuMeasurement} (hbatch : ∀ imu ∈ batch, imu.timestamp.hasSteady = true)
    (hs : (b.timestamp s.1).hasSteady = true)
    (h : batch.foldlM b.logged.propagateSample s = some s') : Advances s s' := by
  induction batch generalizing s with
  | nil =>
    cases h
    exact .refl hs
  | cons imu batch ih =>
    rw [List.foldlM_cons] at h
    obtain ⟨t, ht, hrest⟩ := Option.bind_eq_some_iff.mp h
    have hfirst : Advances s t :=
      advances_propagateSample hb hmin hmax (hbatch imu (by simp)) hs ht
    exact hfirst.trans (ih (fun x hx => hbatch x (by simp [hx])) hfirst.1 hrest)

end Advances

/-! ### One call -/

/-- Every sample in the buffer carries the monotonic clock. -/
def TimeOrderedBuffer.Steady (buffer : TimeOrderedBuffer ImuMeasurement) : Prop :=
  ∀ imu ∈ buffer.measurements, imu.timestamp.hasSteady = true

namespace Filter

variable {b : Backend}

/-- Initialised, with the monotonic clock in the filter time and in the buffer. -/
structure OnClock (f : Filter b) : Prop where
  initialised : f.initialised = true
  time : (b.timestamp f.state).hasSteady = true
  buffer : f.imuBuffer.Steady

/-- A call other than `Reset`, whose timestamp carries the monotonic clock. -/
def Call.Steady {Model : Type} : Call Model → Prop
  | .registerMeasurementModel _ => True
  | .addMeasurement m => m.timestamp.hasSteady = true
  | .processUntil timestamp => timestamp.hasSteady = true
  | .reset => False

section Call

variable {f f' : Filter b.logged}

theorem advances_propagateTo (hb : b.Clocked) (hmin : 0 ≤ b.minImuDtS) (hmax : 0 < b.maxImuDtS)
    (hf : f.OnClock) {target : Timestamp} (h : f.propagateTo target = some f') :
    f'.OnClock ∧ Advances f.state f'.state := by
  obtain ⟨state, hfold, rfl⟩ := Option.map_eq_some_iff.mp h
  have hadv : Advances f.state state :=
    advances_foldlM hb hmin hmax
      (fun imu himu => hf.buffer imu (TimeOrderedBuffer.mem_of_mem_popUntil himu)) hf.time hfold
  refine ⟨⟨hf.initialised, hadv.1, ?_⟩, hadv⟩
  intro imu himu
  exact hf.buffer imu (TimeOrderedBuffer.mem_of_mem_popUntil_rest himu)

/-- The models leave the time as it is. -/
theorem advances_dispatch (hb : b.Clocked) (hf : f.OnClock) (m : SensorMeasurement) :
    (f.dispatch m).1.OnClock ∧ Advances f.state (f.dispatch m).1.state := by
  cases hfind : f.measurementModels.find? (b.logged.canHandle · m) with
  | none =>
    rw [dispatch_of_none hfind]
    exact ⟨hf, .refl hf.time⟩
  | some model =>
    have happly : b.timestamp
        (b.logged.apply model m { ltp := f.localTangentPlane } f.state).1.1
        = b.timestamp f.state.1 := hb.apply _ _ _ _
    have hadv : Advances f.state
        (b.logged.apply model m { ltp := f.localTangentPlane } f.state).1 :=
      .of_timestamp hf.time happly rfl
    by_cases hacc : (b.logged.apply model m { ltp := f.localTangentPlane } f.state).2.result
        = .accepted
    · rw [dispatch_of_accepted hfind hacc]
      exact ⟨⟨hf.initialised, hadv.1, hf.buffer⟩, hadv⟩
    · rw [dispatch_of_not_accepted hfind hacc]
      exact ⟨⟨hf.initialised, hadv.1, hf.buffer⟩, hadv⟩

/-- **One call.** Whatever it brings, the time only moves on by the steps it makes. -/
theorem advances_call (hb : b.Clocked) (hmin : 0 ≤ b.minImuDtS) (hmax : 0 < b.maxImuDtS)
    (hf : f.OnClock) {k : Call b.Model} (hk : k.Steady) (h : f.call k = some f') :
    f'.OnClock ∧ Advances f.state f'.state := by
  cases k with
  | registerMeasurementModel model =>
    cases h
    exact ⟨⟨hf.initialised, hf.time, hf.buffer⟩, .refl hf.time⟩
  | addMeasurement m =>
    obtain ⟨⟨f₂, report⟩, hadd, rfl⟩ := Option.map_eq_some_iff.mp h
    rcases addMeasurement_cases hadd with
      ⟨imu, rfl, hadd'⟩ | ⟨-, hnot, -⟩ | ⟨-, -, f₁, hprop, hdisp⟩
    · -- a sample waits in the buffer, wherever it is sorted in
      cases hadd'
      refine ⟨⟨hf.initialised, hf.time, ?_⟩, .refl hf.time⟩
      intro x hx
      rcases TimeOrderedBuffer.mem_of_mem_insert hx with rfl | hx
      · exact hk
      · exact hf.buffer x hx
    · exact absurd (hnot.symm.trans hf.initialised) Bool.false_ne_true
    · obtain ⟨hf₁, hadv⟩ := advances_propagateTo hb hmin hmax hf hprop
      obtain ⟨hf₂, hadv'⟩ := advances_dispatch hb hf₁ m
      rw [hdisp] at hf₂ hadv'
      exact ⟨hf₂, hadv.trans hadv'⟩
  | processUntil timestamp =>
    obtain ⟨⟨f₂, result⟩, hproc, rfl⟩ := Option.map_eq_some_iff.mp h
    rcases processUntil_cases hproc with rfl | ⟨-, hprop⟩
    · exact ⟨hf, .refl hf.time⟩
    · exact advances_propagateTo hb hmin hmax hf hprop
  | reset => exact hk.elim

/-- **Every run**, by induction on its calls. -/
theorem advances_run (hb : b.Clocked) (hmin : 0 ≤ b.minImuDtS) (hmax : 0 < b.maxImuDtS)
    (hf : f.OnClock) {calls : List (Call b.Model)} (hcalls : ∀ k ∈ calls, k.Steady)
    (h : f.run calls = some f') : f'.OnClock ∧ Advances f.state f'.state := by
  induction calls generalizing f with
  | nil =>
    cases h
    exact ⟨hf, .refl hf.time⟩
  | cons k calls ih =>
    have h : (f.call k).bind (fun f => f.run calls) = some f' := by
      rw [← h]
      exact (run_cons f k calls).symm
    obtain ⟨f₁, hcall, hrest⟩ := Option.bind_eq_some_iff.mp h
    obtain ⟨hf₁, hadv⟩ := advances_call hb hmin hmax hf (hcalls k (by simp)) hcall
    obtain ⟨hf', hadv'⟩ := ih hf₁ (fun x hx => hcalls x (by simp [hx])) hrest
    exact ⟨hf', hadv.trans hadv'⟩

end Call

/-! ### From an initialisation on -/

/-- A GNSS solution that initialises the filter sets its time. -/
theorem onClock_of_accepted (hb : b.Clocked) {f₀ f₁ : Filter b} {gnss : GnssSolution}
    {report : MeasurementUpdateReport} (hinit : f₀.initialised = false)
    (hbuffer : f₀.imuBuffer.Steady) (hgnss : gnss.timestamp.hasSteady = true)
    (h : f₀.addMeasurement (.gnssSolution gnss) = some (f₁, report))
    (hacc : report.result = .accepted) :
    f₁.OnClock ∧ b.timestamp f₁.state = gnss.timestamp := by
  rw [addMeasurement_of_not_imu f₀ rfl, if_pos (by simp [hinit])] at h
  simp only [addEarly, tryInitialiseFromGnss] at h
  split at h
  · cases h
    cases hacc
  · split at h
    · cases h
      cases hacc
    · cases h
      have htime := hb.initialise f₀.state
        (LocalTangentPlane.make (ecefToLla gnss.positionEcefM)).ecefToEnuRotation gnss
      exact ⟨⟨rfl, htime ▸ hgnss, hbuffer⟩, htime⟩

end Filter

/-- The steps account for the time from `start` to `finish`. -/
structure Accounts (steps : List ℝ) (maxImuDtS : ℝ) (start finish : Timestamp) : Prop where
  sum : ∃ difference, timeDifference finish start = some difference ∧
    steps.sum = difference.seconds
  positive : ∀ dt ∈ steps, 0 < dt
  bounded : ∀ dt ∈ steps, dt ≤ maxImuDtS

namespace Filter

variable {b : Backend} {f f' : Filter b}

/-- **The steps of a run** account for its time, which does not go back. -/
theorem accounts_of_run (hb : b.Clocked) (hmin : 0 ≤ b.minImuDtS) (hmax : 0 < b.maxImuDtS)
    (hf : f.OnClock) {calls : List (Call b.Model)} (hcalls : ∀ k ∈ calls, k.Steady)
    (h : f.run calls = some f') :
    f'.OnClock ∧ (b.timestamp f.state).AtOrBefore (b.timestamp f'.state) ∧
      ∃ steps, f.recordedSteps calls = some steps ∧
        Accounts steps b.maxImuDtS (b.timestamp f.state) (b.timestamp f'.state) := by
  rw [← run_startRecord] at h
  obtain ⟨g, hg, rfl⟩ := Option.map_eq_some_iff.mp h
  have hstart : f.startRecord.OnClock := ⟨hf.initialised, hf.time, hf.buffer⟩
  obtain ⟨hclock, hadv⟩ := advances_run hb hmin hmax hstart hcalls hg
  have hle := hadv.le
  obtain ⟨hsteady, steps, hlog, hsum, hsteps⟩ := hadv
  obtain ⟨difference, hdiff, hseconds⟩ := timeDifference_of_steady hsteady hf.time
  refine ⟨⟨hclock.initialised, hclock.time, hclock.buffer⟩,
    atOrBefore_of_steady hf.time hsteady hle, steps, ?_, ?_⟩
  · rw [recordedSteps, hg]
    exact congrArg some hlog
  · exact ⟨⟨difference, hdiff, hsum.trans hseconds.symm⟩,
      fun dt hdt => (hsteps dt hdt).1, fun dt hdt => (hsteps dt hdt).2⟩

end Filter

/-! ### Both filters -/

section Embedding

variable {σ κ : Type} {S : Lib.System σ κ} {b : Backend}

/-- Every run from `s₁` on, where the filter was initialised at `start`, returns, its steps account
    for the time, and the time never goes back. -/
def Embedding.TimeAccounted (E : Embedding S b) (s₁ : σ) (start : Timestamp) : Prop :=
  ∀ calls : List κ, (∀ k ∈ calls, (E.toCall k).Steady) →
    (∃ s₂, S.Run s₁ calls s₂) ∧
    ∀ s₂, S.Run s₁ calls s₂ →
      (∃ steps, (E.toFilter s₁).recordedSteps (calls.map E.toCall) = some steps ∧
        Accounts steps b.maxImuDtS start (E.time s₂)) ∧
      ∀ (calls' : List κ) (s₃ : σ), (∀ k ∈ calls', (E.toCall k).Steady) → S.Run s₂ calls' s₃ →
        (E.time s₂).AtOrBefore (E.time s₃)

theorem Embedding.timeAccounted_of_onClock (E : Embedding S b) (hb : b.Clocked)
    (hmin : 0 ≤ b.minImuDtS) (hmax : 0 < b.maxImuDtS) {s₁ : σ} (h : (E.toFilter s₁).OnClock) :
    E.TimeAccounted s₁ (E.time s₁) := by
  have hsteady : ∀ calls : List κ, (∀ k ∈ calls, (E.toCall k).Steady) →
      ∀ k ∈ calls.map E.toCall, k.Steady := by
    intro calls hcalls k hk
    obtain ⟨k', hk', rfl⟩ := List.mem_map.mp hk
    exact hcalls k' hk'
  intro calls hcalls
  constructor
  · obtain ⟨f, hf⟩ := Option.isSome_iff_exists.mp
      (Filter.run_isSome hmax (E.toFilter s₁) (calls.map E.toCall))
    obtain ⟨s₂, hrun, -⟩ := exists_run hf
    exact ⟨s₂, hrun⟩
  · intro s₂ hrun
    obtain ⟨hclock, -, hsteps⟩ :=
      Filter.accounts_of_run hb hmin hmax h (hsteady calls hcalls) (run hrun)
    refine ⟨hsteps, ?_⟩
    intro calls' s₃ hcalls' hrun'
    exact (Filter.accounts_of_run hb hmin hmax hclock (hsteady calls' hcalls') (run hrun')).2.1

end Embedding

/-- **The filter time is accounted for.** After a GNSS solution that initialises either filter and
    until the next `Reset`, the steps `PropagateImu` is called with are positive, not longer than
    `maxImuDtS`, and add up to the time that has passed since, whatever arrives in whatever
    order.  The sum is exact, and the differences on the clock fit in 64 bits, as they do within
    292 years. -/
theorem time_accounted :
    (∀ (eigen : Eigen) (options : EkfOptions), 0 ≤ options.minImuDtS → 0 < options.maxImuDtS →
      ∀ (e₀ e₁ : EkfEstimator options) (gnss : GnssSolution) (report : MeasurementUpdateReport),
        e₀.initialised = false → e₀.imuBuffer.Steady → gnss.timestamp.hasSteady = true →
        e₀.addMeasurement eigen (.gnssSolution gnss) = some (e₁, report) →
        report.result = .accepted →
        (EkfEstimator.embedding eigen options).TimeAccounted e₁ gnss.timestamp) ∧
    (∀ (d : Ukf.Decompositions) (options : Ukf.UkfOptions),
      0 ≤ options.minImuDtS → 0 < options.maxImuDtS →
      ∀ (e₀ e₁ : Ukf.UkfEstimator options) (gnss : GnssSolution) (report : MeasurementUpdateReport),
        e₀.initialised = false → e₀.imuBuffer.Steady → gnss.timestamp.hasSteady = true →
        e₀.addMeasurement d (.gnssSolution gnss) = some (e₁, report) →
        report.result = .accepted →
        (Ukf.UkfEstimator.embedding d options).TimeAccounted e₁ gnss.timestamp) := by
  constructor
  · intro eigen options hmin hmax e₀ e₁ gnss report hinit hbuffer hgnss hadd hacc
    have hb := clocked_ekfBackend eigen options
    have hadd' : (e₀.toFilter eigen).addMeasurement (.gnssSolution gnss)
        = some (e₁.toFilter eigen, report) := by
      rw [EkfEstimator.toFilter_addMeasurement, hadd]
      rfl
    obtain ⟨hclock, htime⟩ := Filter.onClock_of_accepted hb hinit hbuffer hgnss hadd' hacc
    rw [← htime]
    exact (EkfEstimator.embedding eigen options).timeAccounted_of_onClock hb hmin hmax hclock
  · intro d options hmin hmax e₀ e₁ gnss report hinit hbuffer hgnss hadd hacc
    have hb := clocked_ukfBackend d options
    have hadd' : (e₀.toFilter d).addMeasurement (.gnssSolution gnss)
        = some (e₁.toFilter d, report) := by
      rw [Ukf.UkfEstimator.toFilter_addMeasurement, hadd]
      rfl
    obtain ⟨hclock, htime⟩ := Filter.onClock_of_accepted hb hinit hbuffer hgnss hadd' hacc
    rw [← htime]
    exact (Ukf.UkfEstimator.embedding d options).timeAccounted_of_onClock hb hmin hmax hclock

/-- A fix at time zero initialises either filter; then a sample of two seconds arrives, and after
    it one of one second. -/
theorem time_accounted_late_sample :
    (∃ (e₁ e₂ : EkfEstimator {}) (steps : List ℝ),
      (EkfEstimator.system .exact {}).step {}
        (.addMeasurement (.gnssSolution { timestamp := .ofSteady 0, fixType := .single })) e₁ ∧
      (EkfEstimator.system .exact {}).Run e₁
        [.addMeasurement (.imu { timestamp := .ofSteady 2000000000 }),
          .addMeasurement (.imu { timestamp := .ofSteady 1000000000 }),
          .processUntil (.ofSteady 2000000000)] e₂ ∧
      Accounts steps 0.05 (.ofSteady 0) e₂.state.nominal.timestamp) ∧
    (∃ (e₁ e₂ : Ukf.UkfEstimator {}) (steps : List ℝ),
      (Ukf.UkfEstimator.system .exact {}).step {}
        (.addMeasurement (.gnssSolution { timestamp := .ofSteady 0, fixType := .single })) e₁ ∧
      (Ukf.UkfEstimator.system .exact {}).Run e₁
        [.addMeasurement (.imu { timestamp := .ofSteady 2000000000 }),
          .addMeasurement (.imu { timestamp := .ofSteady 1000000000 }),
          .processUntil (.ofSteady 2000000000)] e₂ ∧
      Accounts steps 0.05 (.ofSteady 0) e₂.state.nominal.timestamp) := by
  let fix : GnssSolution := { timestamp := .ofSteady 0, fixType := .single }
  have hempty : ({ maxSize := 2000 } : TimeOrderedBuffer ImuMeasurement).Steady := by
    intro imu himu
    cases himu
  constructor
  -- the fix is accepted on the spot
  · obtain ⟨e₁, report, hadd, hacc⟩ : ∃ e₁ report, ({} : EkfEstimator {}).addMeasurement .exact
        (.gnssSolution fix) = some (e₁, report) ∧ report.result = .accepted := ⟨_, _, rfl, rfl⟩
    have h := time_accounted.1 .exact {} (by norm_num) (by norm_num) {} e₁ fix report rfl hempty
      rfl hadd hacc
    obtain ⟨⟨e₂, hrun⟩, hall⟩ := h
      [.addMeasurement (.imu { timestamp := .ofSteady 2000000000 }),
        .addMeasurement (.imu { timestamp := .ofSteady 1000000000 }),
        -- every call is on the clock
        .processUntil (.ofSteady 2000000000)] (by
          intro k hk
          rcases List.mem_cons.mp hk with rfl | hk
          · rfl
          · rcases List.mem_cons.mp hk with rfl | hk
            · rfl
            · rw [List.mem_singleton.mp hk]
              rfl)
    obtain ⟨⟨steps, -, hsteps⟩, -⟩ := hall e₂ hrun
    exact ⟨e₁, e₂, steps, .addMeasurement _ _ _ report hadd, hrun, hsteps⟩
  · obtain ⟨e₁, report, hadd, hacc⟩ : ∃ e₁ report, ({} : Ukf.UkfEstimator {}).addMeasurement .exact
        (.gnssSolution fix) = some (e₁, report) ∧ report.result = .accepted := ⟨_, _, rfl, rfl⟩
    have h := time_accounted.2 .exact {} (by norm_num) (by norm_num) {} e₁ fix report rfl hempty
      rfl hadd hacc
    obtain ⟨⟨e₂, hrun⟩, hall⟩ := h
      [.addMeasurement (.imu { timestamp := .ofSteady 2000000000 }),
        .addMeasurement (.imu { timestamp := .ofSteady 1000000000 }),
        .processUntil (.ofSteady 2000000000)] (by
          intro k hk
          rcases List.mem_cons.mp hk with rfl | hk
          · rfl
          · rcases List.mem_cons.mp hk with rfl | hk
            · rfl
            · rw [List.mem_singleton.mp hk]
              rfl)
    obtain ⟨⟨steps, -, hsteps⟩, -⟩ := hall e₂ hrun
    exact ⟨e₁, e₂, steps, .addMeasurement _ _ _ report hadd, hrun, hsteps⟩

end FalconGuide
