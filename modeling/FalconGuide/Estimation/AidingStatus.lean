import FalconGuide.Estimation.LateMeasurements
import FalconGuide.Estimation.SampleHistory

namespace FalconGuide

/-!
# When the solution is dead reckoning

`BuildNavigationState` compares the filter time with the last aiding measurement accepted, which
need not be the newest, and only on the monotonic clock.  The differences on that clock are taken
to fit in 64 bits, as they do within 292 years.

* `Timestamp.secondsOn` — a time on one time basis, in seconds;
* `StatusLaw` — the solution is dead reckoning exactly if all accepted aiding measurements are too
  old, or there is none;
* `aidingStatus_law_iff` — when `aidingStatus` obeys the law;
* `aiding_status_iff` — the main result, for both filters after any run on one time basis.
-/

/-- Seconds on the monotonic clock, or of GPS time, whose weeks have 604800 seconds. -/
def Timestamp.secondsOn (basis : TimeBasis) (t : Timestamp) : ℚ :=
  match basis with
  | .steady => t.steady.nanosecondsSinceEpoch / 1000000000
  | .gps => t.gps.week * 604800 + t.gps.secondsOfWeek

/-- `now` is more than the threshold later than `t`. -/
def Exceeds (basis : TimeBasis) (thresholdS : ℝ) (now t : Timestamp) : Prop :=
  thresholdS < ((now.secondsOn basis - t.secondsOn basis : ℚ) : ℝ)

/-- `newest` is one of the timestamps, and none is later. -/
def Newest (aided : List Timestamp) (newest : Timestamp) : Prop :=
  newest ∈ aided ∧ ∀ t ∈ aided, t.AtOrBefore newest

/-- **The law of the status:** dead reckoning without an aiding measurement, or if the filter time
    exceeds the newest one by more than the threshold, and nominal otherwise. -/
structure StatusLaw (basis : TimeBasis) (thresholdS : ℝ) (aided : List Timestamp) (now : Timestamp)
    (status : NavigationStatus) : Prop where
  deadReckoning : status = .deadReckoning ↔
    aided = [] ∨ ∃ newest, Newest aided newest ∧ Exceeds basis thresholdS now newest
  nominal : status ≠ .deadReckoning → status = .nominal

/-- What makes the status right: nothing was accepted, or the filter time exceeds the newest
    timestamp, or, on the monotonic clock, not even the last one. -/
def Trustworthy (basis : TimeBasis) (thresholdS : ℝ) (aided : List Timestamp) (now : Timestamp) :
    Prop :=
  aided = [] ∨ (∃ newest, Newest aided newest ∧ Exceeds basis thresholdS now newest) ∨
    (basis = .steady ∧ ∃ last, aided.getLast? = some last ∧ ¬ Exceeds basis thresholdS now last)

section Status

variable {basis : TimeBasis} {thresholdS : ℝ} {aided : List Timestamp} {now t u : Timestamp}

/-- What exceeds a timestamp exceeds an earlier one. -/
theorem Exceeds.of_atOrBefore (ht : t.On .steady) (hu : u.On .steady) (htu : t.AtOrBefore u)
    (h : Exceeds .steady thresholdS now u) : Exceeds .steady thresholdS now t := by
  have hkey := (Timestamp.atOrBefore_iff ht hu).mp htu
  have hle : t.secondsOn .steady ≤ u.secondsOn .steady := by
    rw [Timestamp.key, Timestamp.key, Prod.Lex.toLex_le_toLex] at hkey
    rw [Timestamp.secondsOn, Timestamp.secondsOn]
    refine div_le_div_of_nonneg_right ?_ (by norm_num)
    rcases hkey with hlt | ⟨heq, -⟩
    · exact_mod_cast hlt.le
    · exact_mod_cast heq.le
  refine lt_of_lt_of_le h ?_
  exact_mod_cast sub_le_sub_left hle (now.secondsOn .steady)

/-- On the monotonic clock the status compares with the last timestamp. -/
theorem aidingStatus_steady (hnow : now.On .steady) (ht : t.On .steady) :
    aidingStatus now (some t) thresholdS = .deadReckoning ↔ Exceeds .steady thresholdS now t := by
  have hnow' : now.hasSteady = true := hnow
  have ht' : t.hasSteady = true := ht
  have hage : (((now.steady.sub t.steady).seconds : ℚ) : ℝ)
      = ((now.secondsOn .steady - t.secondsOn .steady : ℚ) : ℝ) := by
    simp only [Duration.seconds, MonotonicTime.sub, Timestamp.secondsOn]
    push_cast
    ring
  simp only [aidingStatus, timeDifference, hnow', ht', Bool.and_self, if_true, hage]
  rw [Exceeds]
  split
  · exact iff_of_true rfl ‹_›
  · exact iff_of_false (by decide) ‹_›

/-- On GPS time there is no other status than dead reckoning. -/
theorem aidingStatus_gps (hnow : now.On .gps) (last : Option Timestamp) :
    aidingStatus now last thresholdS = .deadReckoning := by
  cases last with
  | none => rfl
  | some t => simp only [aidingStatus, hnow.1, Bool.false_and, Bool.false_eq_true, if_false]

theorem aidingStatus_cases (now : Timestamp) (last : Option Timestamp) (thresholdS : ℝ) :
    aidingStatus now last thresholdS = .deadReckoning ∨
      aidingStatus now last thresholdS = .nominal := by
  unfold aidingStatus
  split
  · exact .inl rfl
  · split
    · split
      · exact .inr rfl
      · split
        · exact .inl rfl
        · exact .inr rfl
    · exact .inl rfl

/-- **When the status obeys the law.** -/
theorem aidingStatus_law_iff (hnow : now.On basis) (hon : ∀ t ∈ aided, t.On basis) :
    StatusLaw basis thresholdS aided now (aidingStatus now aided.getLast? thresholdS) ↔
      Trustworthy basis thresholdS aided now := by
  rw [Trustworthy]
  have hlaw : StatusLaw basis thresholdS aided now (aidingStatus now aided.getLast? thresholdS) ↔
      (aidingStatus now aided.getLast? thresholdS = .deadReckoning ↔
        aided = [] ∨ ∃ newest, Newest aided newest ∧ Exceeds basis thresholdS now newest) :=
    ⟨StatusLaw.deadReckoning, fun h => ⟨h, (aidingStatus_cases now _ thresholdS).resolve_left⟩⟩
  rw [hlaw]
  cases basis with
  | gps =>
    simp [aidingStatus_gps hnow]
  | steady =>
    cases hlast : aided.getLast? with
    | none =>
      have hnil := List.getLast?_eq_none_iff.mp hlast
      exact iff_of_true (iff_of_true rfl (.inl hnil)) (.inl hnil)
    | some last =>
      have hmem := List.mem_of_getLast? hlast
      have hne : aided ≠ [] := List.ne_nil_of_mem hmem
      rw [aidingStatus_steady hnow (hon last hmem)]
      have holder : (∃ newest, Newest aided newest ∧ Exceeds .steady thresholdS now newest) →
          Exceeds .steady thresholdS now last := by
        rintro ⟨newest, ⟨hnewest, hmax⟩, hexceeds⟩
        exact hexceeds.of_atOrBefore (hon last hmem) (hon newest hnewest) (hmax last hmem)
      simp only [hne, false_or, Option.some.injEq, exists_eq_left', true_and]
      constructor
      · intro hiff
        by_cases hexceeds : Exceeds .steady thresholdS now last
        · exact .inl (hiff.mp hexceeds)
        · exact .inr hexceeds
      · rintro (hnewest | hnot)
        · exact iff_of_true (holder hnewest) hnewest
        · exact iff_of_false hnot fun hnewest => hnot (holder hnewest)

end Status

/-! ### The two filters -/

theorem EkfEstimator.status_latestState {options : EkfOptions} {e : EkfEstimator options}
    (hinit : e.initialised = true) :
    ∃ nav, e.latestState = some nav ∧
      nav.status = aidingStatus e.state.nominal.timestamp e.lastAidingTimestamp
        options.deadReckoningThresholdS := by
  refine ⟨e.buildNavigationState, by simp [latestState, hinit], ?_⟩
  simp [buildNavigationState, hinit]

theorem Ukf.UkfEstimator.status_latestState {options : Ukf.UkfOptions}
    {e : Ukf.UkfEstimator options} (hinit : e.initialised = true) :
    ∃ nav, e.latestState = some nav ∧
      nav.status = aidingStatus e.state.nominal.timestamp e.lastAidingTimestamp
        options.deadReckoningThresholdS :=
  ⟨e.buildNavigationState, by simp [latestState, hinit], rfl⟩

/-- **After a run** of the error-state filter. -/
theorem EkfEstimator.statusLaw_iff {eigen : Eigen} {options : EkfOptions} {calls : List Call}
    {e : EkfEstimator options} {basis : TimeBasis} (hrun : (system eigen options).Run {} calls e)
    (hcalls : (embedding eigen options).CallsOn basis calls) (hinit : e.initialised = true) :
    let aided := ((embedding eigen options).history {} calls).aided
    ∃ nav, e.latestState = some nav ∧
      (StatusLaw basis options.deadReckoningThresholdS aided e.state.nominal.timestamp nav.status ↔
        Trustworthy basis options.deadReckoningThresholdS aided e.state.nominal.timestamp) := by
  intro aided
  have hb := clocked_ekfBackend eigen options
  obtain ⟨nav, hlatest, hstatus⟩ := status_latestState hinit
  have hlast : e.lastAidingTimestamp = aided.getLast? :=
    (Embedding.records_run (E := embedding eigen options) hb rfl hrun).aided
  have hbasis := Embedding.onBasis_run (E := embedding eigen options) hb rfl hcalls hrun
  refine ⟨nav, hlatest, ?_⟩
  rw [hstatus, hlast]
  exact aidingStatus_law_iff (hbasis.clock hinit) hbasis.aided

/-- And of the unscented filter. -/
theorem Ukf.UkfEstimator.statusLaw_iff {d : Decompositions} {options : UkfOptions}
    {calls : List Call} {e : UkfEstimator options} {basis : TimeBasis}
    (hrun : (system d options).Run {} calls e)
    (hcalls : (embedding d options).CallsOn basis calls) (hinit : e.initialised = true) :
    let aided := ((embedding d options).history {} calls).aided
    ∃ nav, e.latestState = some nav ∧
      (StatusLaw basis options.deadReckoningThresholdS aided e.state.nominal.timestamp nav.status ↔
        Trustworthy basis options.deadReckoningThresholdS aided e.state.nominal.timestamp) := by
  intro aided
  have hb := clocked_ukfBackend d options
  obtain ⟨nav, hlatest, hstatus⟩ := status_latestState hinit
  have hlast : e.lastAidingTimestamp = aided.getLast? :=
    (Embedding.records_run (E := embedding d options) hb rfl hrun).aided
  have hbasis := Embedding.onBasis_run (E := embedding d options) hb rfl hcalls hrun
  refine ⟨nav, hlatest, ?_⟩
  rw [hstatus, hlast]
  exact aidingStatus_law_iff (hbasis.clock hinit) hbasis.aided

/-- **Which status is right,** after any run on one time basis and for either filter. -/
theorem aiding_status_iff (basis : TimeBasis) :
    (∀ (eigen : Eigen) (options : EkfOptions) (calls : List EkfEstimator.Call)
      (e : EkfEstimator options),
      (EkfEstimator.system eigen options).Run {} calls e →
      let E := EkfEstimator.embedding eigen options
      let aided := (E.history {} calls).aided
      E.CallsOn basis calls → e.initialised = true →
      ∃ nav, e.latestState = some nav ∧
        (StatusLaw basis options.deadReckoningThresholdS aided e.state.nominal.timestamp
            nav.status ↔
          Trustworthy basis options.deadReckoningThresholdS aided e.state.nominal.timestamp)) ∧
    ∀ (d : Ukf.Decompositions) (options : Ukf.UkfOptions) (calls : List Ukf.UkfEstimator.Call)
      (e : Ukf.UkfEstimator options),
      (Ukf.UkfEstimator.system d options).Run {} calls e →
      let E := Ukf.UkfEstimator.embedding d options
      let aided := (E.history {} calls).aided
      E.CallsOn basis calls → e.initialised = true →
      ∃ nav, e.latestState = some nav ∧
        (StatusLaw basis options.deadReckoningThresholdS aided e.state.nominal.timestamp
            nav.status ↔
          Trustworthy basis options.deadReckoningThresholdS aided e.state.nominal.timestamp) := by
  constructor
  · intro eigen options calls e hrun E aided hcalls hinit
    exact EkfEstimator.statusLaw_iff hrun hcalls hinit
  · intro d options calls e hrun E aided hcalls hinit
    exact Ukf.UkfEstimator.statusLaw_iff hrun hcalls hinit

/-! ### An older altitude -/

/-- An altitude. -/
noncomputable def altitudeAt (timestamp : Timestamp) : BarometerMeasurement where
  timestamp := timestamp
  altitudeM := some 0

section Altitude

variable {options : EkfOptions} {e : EkfEstimator options}

/-- An estimator with a barometer, and no samples to propagate. -/
structure Idle (e : EkfEstimator options) : Prop where
  initialised : e.initialised = true
  models : e.measurementModels = [.barometer {}]
  empty : e.imuBuffer.measurements = []

/-- Without a gate an altitude is accepted, however old. -/
theorem Idle.exists_fused (h : Idle e) (t : Timestamp) :
    ∃ e' report, e.addMeasurement .exact (.barometer (altitudeAt t)) = some (e', report) ∧
      report.result = .accepted ∧ Idle e' ∧
      e'.state.nominal.timestamp = e.state.nominal.timestamp := by
  let e₁ : EkfEstimator options := { e with imuBuffer := { e.imuBuffer with measurements := [] } }
  -- without buffered samples the filter stays where it is
  have hpropagate : e.propagateTo t = some e₁ := by
    simp [EkfEstimator.propagateTo, TimeOrderedBuffer.popUntil, h.empty, TimeOrderedBuffer.popLoop,
      e₁]
  have hadd : e.addMeasurement .exact (.barometer (altitudeAt t))
      = some (e₁.dispatch .exact (.barometer (altitudeAt t))) := by
    show (if !e.initialised then _ else (e.propagateTo t).map _) = _
    rw [h.initialised, hpropagate]
    rfl
  have hfind : e₁.measurementModels.find? (·.canHandle (.barometer (altitudeAt t)))
      = some (.barometer {}) := by
    show e.measurementModels.find? _ = _
    rw [h.models]
    rfl
  have haccepted : ((MeasurementModel.barometer {}).apply .exact e₁.state.nominal
      e₁.state.estimate options.buildLayout { ltp := e₁.localTangentPlane }
      (.barometer (altitudeAt t))).2 = .accepted := by
    show (barometerApply .exact {} _ _ _ (altitudeAt t)).2 = _
    -- the gate of the default options is off
    have hgate : ¬ (0 : ℝ) < ({} : BarometerOptions).innovationGate := lt_irrefl _
    rw [barometerApply, if_neg (by simp [altitudeAt])]
    show (ekfUpdate _ _ _ _ _ _).2 = _
    rw [ekfUpdate, if_neg fun hgated => hgate hgated.1]
  let estimate := ((MeasurementModel.barometer {}).apply .exact e₁.state.nominal e₁.state.estimate
    options.buildLayout { ltp := e₁.localTangentPlane } (.barometer (altitudeAt t))).1
  let e' : EkfEstimator options :=
    { e₁ with
      state := injectErrorAndReset { e₁.state with estimate }
      lastAidingTimestamp := some t }
  have hdispatch : e₁.dispatch .exact (.barometer (altitudeAt t))
      = (e', { result := .accepted
               modelName := (MeasurementModel.barometer {}).name
               correctionNorm := some (euclideanNorm estimate.errorState) }) := by
    rw [EkfEstimator.dispatch_eq_ekfStep hfind, ekfStep_of_accepted (Prod.ext rfl haccepted)]
    rfl
  rw [hdispatch] at hadd
  exact ⟨e', _, hadd, rfl, ⟨h.initialised, h.models, rfl⟩, rfl⟩

/-- Altitudes of these times, in this order. -/
noncomputable def altitudes (ts : List Timestamp) : List EkfEstimator.Call :=
  ts.map fun t => .addMeasurement (.barometer (altitudeAt t))

/-- All of them are accepted. -/
theorem Idle.exists_run (h : Idle e) (ts : List Timestamp) (history : History) :
    ∃ e', (EkfEstimator.system .exact options).Run e (altitudes ts) e' ∧ Idle e' ∧
      e'.state.nominal.timestamp = e.state.nominal.timestamp ∧
      ((e.toFilter .exact).history history
        ((altitudes ts).map EkfEstimator.Call.toFilter)).aided = history.aided ++ ts := by
  induction ts generalizing e history with
  | nil => exact ⟨e, .nil e, h, rfl, (List.append_nil _).symm⟩
  | cons t ts ih =>
    obtain ⟨e₁, report, hadd, haccepted, hidle, htime⟩ := h.exists_fused t
    obtain ⟨e', hrun, hidle', htime', haided⟩ :=
      ih hidle { history with aided := history.aided ++ [t] }
    refine ⟨e', .cons (.addMeasurement e e₁ _ report hadd) hrun, hidle', htime'.trans htime, ?_⟩
    have hfilter : (e.toFilter .exact).addMeasurement (.barometer (altitudeAt t))
        = some (e₁.toFilter .exact, report) := by
      rw [EkfEstimator.toFilter_addMeasurement, hadd]
      rfl
    have hcall : (e.toFilter .exact).call (.addMeasurement (.barometer (altitudeAt t)))
        = some (e₁.toFilter .exact) := by
      rw [Filter.call, hfilter]
      rfl
    have hafter : (e.toFilter .exact).historyAfter history
        (.addMeasurement (.barometer (altitudeAt t)))
        = { history with aided := history.aided ++ [t] } := by
      simp only [Filter.historyAfter, hfilter]
      rw [History.add_of_not_imu _ _ rfl, if_pos ⟨h.initialised, haccepted⟩]
      rfl
    rw [altitudes, List.map_cons, List.map_cons]
    refine (congrArg History.aided (Filter.history_cons history _ hcall)).trans ?_
    rw [hafter]
    exact haided.trans (List.append_assoc _ _ _)

end Altitude

/-- A barometer, a fix of one second, and then altitudes. -/
noncomputable def fixAndAltitudes (ts : List Timestamp) : List EkfEstimator.Call :=
  .registerMeasurementModel (.barometer {}) :: .addMeasurement (.gnssSolution fixAtOne)
    :: altitudes ts

theorem exists_run_fixAndAltitudes (options : EkfOptions) (ts : List Timestamp) :
    ∃ e : EkfEstimator options,
      (EkfEstimator.system .exact options).Run {} (fixAndAltitudes ts) e ∧
      e.initialised = true ∧ e.state.nominal.timestamp = fixAtOne.timestamp ∧
      ((EkfEstimator.embedding .exact options).history {} (fixAndAltitudes ts)).aided = ts := by
  have hidle : Idle (baroEstimator options {}) := ⟨rfl, rfl, rfl⟩
  obtain ⟨e, hrun, hidle', htime, haided⟩ := hidle.exists_run ts {}
  refine ⟨e, .cons (.registerMeasurementModel _ _)
    (.cons (.addMeasurement _ _ (.gnssSolution fixAtOne) _ rfl) hrun), hidle'.initialised, htime,
    ?_⟩
  exact haided

theorem callsOn_fixAndAltitudes (options : EkfOptions) {ts : List Timestamp}
    (hts : ∀ t ∈ ts, t.On .steady) :
    (EkfEstimator.embedding .exact options).CallsOn .steady (fixAndAltitudes ts) := by
  intro k hk m hm
  simp only [fixAndAltitudes, altitudes, List.mem_cons, List.mem_map] at hk
  rcases hk with rfl | rfl | ⟨t, ht, rfl⟩
  · cases hm
  · cases hm
    rfl
  · cases hm
    exact hts t ht

/-- Altitudes of second zero and of the second of the fix, in this order, and a threshold of half a
    second: the solution is nominal, and the law says so. -/
theorem aiding_status_iff_altitudes :
    let options : EkfOptions := { deadReckoningThresholdS := 1 / 2 }
    let ts : List Timestamp := [.ofSteady 0, fixAtOne.timestamp]
    ∃ (e : EkfEstimator options) (nav : NavigationState),
      (EkfEstimator.system .exact options).Run {} (fixAndAltitudes ts) e ∧
      e.latestState = some nav ∧ nav.status = .nominal ∧
      StatusLaw .steady options.deadReckoningThresholdS ts e.state.nominal.timestamp
        nav.status := by
  intro options ts
  have hts : ∀ t ∈ ts, t.On .steady := by
    intro t ht
    simp only [ts, List.mem_cons, List.not_mem_nil, or_false] at ht
    rcases ht with rfl | rfl
    · rfl
    · rfl
  obtain ⟨e, hrun, hinit, htime, haided⟩ := exists_run_fixAndAltitudes options ts
  obtain ⟨nav, hlatest, hiff⟩ := (aiding_status_iff .steady).1 .exact options _ e hrun
    (callsOn_fixAndAltitudes options hts) hinit
  rw [haided, htime] at hiff
  -- the last altitude, of the filter time, is the newest
  have hfresh : ¬ Exceeds .steady options.deadReckoningThresholdS fixAtOne.timestamp
      fixAtOne.timestamp := by
    rw [Exceeds, sub_self]
    norm_num [options]
  have hlaw := hiff.mpr (.inr (.inr ⟨rfl, fixAtOne.timestamp, rfl, hfresh⟩))
  refine ⟨e, nav, hrun, hlatest, hlaw.nominal ?_, htime ▸ hlaw⟩
  intro hdead
  rcases hlaw.deadReckoning.mp hdead with hnil | ⟨newest, ⟨hmem, hmax⟩, hexceeds⟩
  · exact List.cons_ne_nil _ _ hnil
  · exact hfresh (hexceeds.of_atOrBefore (hts _ (by simp [ts])) (hts _ hmem)
      (hmax fixAtOne.timestamp (by simp [ts])))

/-- **An older altitude** turns the status to dead reckoning: the filter and its newest altitude are
    of one second, the last altitude is of second zero, and the threshold is half a second. -/
theorem not_aiding_status :
    ¬ ∀ (options : EkfOptions) (calls : List EkfEstimator.Call) (e : EkfEstimator options)
        (nav : NavigationState),
      (EkfEstimator.system .exact options).Run {} calls e →
      (EkfEstimator.embedding .exact options).CallsOn .steady calls → e.initialised = true →
      e.latestState = some nav →
      StatusLaw .steady options.deadReckoningThresholdS
        ((EkfEstimator.embedding .exact options).history {} calls).aided
        e.state.nominal.timestamp nav.status := by
  intro hall
  let options : EkfOptions := { deadReckoningThresholdS := 1 / 2 }
  let ts : List Timestamp := [fixAtOne.timestamp, .ofSteady 0]
  have hts : ∀ t ∈ ts, t.On .steady := by
    intro t ht
    simp only [ts, List.mem_cons, List.not_mem_nil, or_false] at ht
    rcases ht with rfl | rfl
    · rfl
    · rfl
  obtain ⟨e, hrun, hinit, htime, haided⟩ := exists_run_fixAndAltitudes options ts
  have hcalls := callsOn_fixAndAltitudes options hts
  obtain ⟨nav, hlatest, hiff⟩ := EkfEstimator.statusLaw_iff hrun hcalls hinit
  have htrust := hiff.mp (hall options _ e nav hrun hcalls hinit hlatest)
  rw [haided, htime] at htrust
  rcases htrust with hnil | ⟨newest, ⟨hmem, hmax⟩, hexceeds⟩ | ⟨-, last, hlast, hnot⟩
  · exact absurd hnil (List.cons_ne_nil _ _)
  · have hold := hexceeds.of_atOrBefore (hts _ (by simp [ts])) (hts _ hmem)
      (hmax fixAtOne.timestamp (by simp [ts]))
    rw [Exceeds, sub_self] at hold
    norm_num [options] at hold
  · cases hlast
    refine hnot ?_
    norm_num [Exceeds, Timestamp.secondsOn, fixAtOne, Timestamp.ofSteady, options]

end FalconGuide
