import FalconGuide.Core.BufferLedger
import FalconGuide.Estimation.TimeAccounting

namespace FalconGuide

/-!
# What a filter has accepted

The reports of `AddMeasurement` say which samples a filter has buffered since the last `Reset`, and
which aiding measurements it has accepted since its initialisation.  Here they are collected over a
run.

* `History` — what the reports add up to;
* `Filter.history`, `Embedding.history` — over several calls;
* `Filter.Records` — what the filter itself remembers of it, in every run;
* `Filter.OnBasis` — in a run on one time basis, the filter is on that basis.
-/

/-- What the reports add up to. -/
structure History where
  /-- The samples buffered since the last `Reset`. -/
  samples : List ImuMeasurement := []
  /-- The times of the aiding measurements accepted since the initialisation. -/
  aided : List Timestamp := []

/-- One more report.  What initialises the filter does not aid it. -/
def History.add (h : History) (initialised : Bool) (m : SensorMeasurement)
    (report : MeasurementUpdateReport) : History :=
  match m with
  | .imu imu => if report.result = .buffered then { h with samples := h.samples ++ [imu] } else h
  | m =>
    if initialised = true ∧ report.result = .accepted then
      { h with aided := h.aided ++ [m.timestamp] }
    else h

theorem History.add_imu (h : History) (initialised : Bool) (imu : ImuMeasurement)
    (report : MeasurementUpdateReport) :
    h.add initialised (.imu imu) report
      = if report.result = .buffered then { h with samples := h.samples ++ [imu] } else h := rfl

theorem History.add_of_not_imu (h : History) (initialised : Bool) {m : SensorMeasurement}
    (hm : m.isImu = false) (report : MeasurementUpdateReport) :
    h.add initialised m report
      = if initialised = true ∧ report.result = .accepted then
          { h with aided := h.aided ++ [m.timestamp] }
        else h := by
  cases m with
  | imu imu => cases hm
  | _ => rfl

namespace Filter

variable {b : Backend}

/-- The history after one more call. -/
noncomputable def historyAfter (f : Filter b) (h : History) : Call b.Model → History
  | .addMeasurement m =>
    match f.addMeasurement m with
    | none => h
    | some (_, report) => h.add f.initialised m report
  | .reset => {}
  | .registerMeasurementModel _ => h
  | .processUntil _ => h

/-- And after several. -/
noncomputable def history (f : Filter b) (h : History) : List (Call b.Model) → History
  | [] => h
  | k :: calls =>
    match f.call k with
    | none => f.historyAfter h k
    | some f' => history f' (f.historyAfter h k) calls

theorem history_cons {f f' : Filter b} {k : Call b.Model} (h : History)
    (calls : List (Call b.Model)) (hcall : f.call k = some f') :
    f.history h (k :: calls) = f'.history (f.historyAfter h k) calls := by
  rw [history, hcall]

end Filter

/-! ### The filter time -/

namespace Backend

variable {b : Backend} {s s' : b.State}

/-- A sample gives the filter its own time, or leaves that as it is. -/
theorem timestamp_propagateSample (hb : b.Clocked) {imu : ImuMeasurement}
    (h : b.propagateSample s imu = some s') :
    b.timestamp s' = b.timestamp s ∨ b.timestamp s' = imu.timestamp := by
  unfold propagateSample at h
  split at h
  · cases h
    exact .inr (hb.setTimestamp _ _)
  · split at h
    · cases h
      exact .inl rfl
    · change (ite _ _ _ : Option b.State) = some s' at h
      split at h
      · cases h
        exact .inl rfl
      · obtain ⟨t, -, rfl⟩ := Option.map_eq_some_iff.mp h
        exact .inr (hb.setTimestamp _ _)

/-- So does a batch. -/
theorem timestamp_batch (hb : b.Clocked) {batch : List ImuMeasurement}
    (h : batch.foldlM b.propagateSample s = some s') :
    b.timestamp s' = b.timestamp s ∨ ∃ imu ∈ batch, b.timestamp s' = imu.timestamp := by
  induction batch generalizing s with
  | nil =>
    cases h
    exact .inl rfl
  | cons imu batch ih =>
    rw [List.foldlM_cons] at h
    obtain ⟨t, hsample, hrest⟩ := Option.bind_eq_some_iff.mp h
    rcases ih hrest with htime | ⟨later, hlater, htime⟩
    · rw [htime]
      refine (timestamp_propagateSample hb hsample).imp_right fun ht => ?_
      exact ⟨imu, by simp, ht⟩
    · exact .inr ⟨later, List.mem_cons_of_mem _ hlater, htime⟩

end Backend

namespace Filter

variable {b : Backend}

/-! ### What one call does -/

section Calls

variable {f f' : Filter b} {m : SensorMeasurement} {report : MeasurementUpdateReport}

theorem propagateTo_keeps {target : Timestamp} (h : f.propagateTo target = some f') :
    f'.initialised = f.initialised ∧ f'.lastAidingTimestamp = f.lastAidingTimestamp ∧
      f'.imuBuffer = (f.imuBuffer.popUntil ImuMeasurement.timestamp target true).2 ∧
      (f.popped target).foldlM b.propagateSample f.state = some f'.state := by
  obtain ⟨s, hfold, rfl⟩ := Option.map_eq_some_iff.mp h
  exact ⟨rfl, rfl, rfl, hfold⟩

theorem dispatch_keeps (hb : b.Clocked) (h : f.dispatch m = (f', report)) :
    f'.initialised = f.initialised ∧ f'.imuBuffer = f.imuBuffer ∧
      b.timestamp f'.state = b.timestamp f.state ∧
      f'.lastAidingTimestamp
        = if report.result = .accepted then some m.timestamp else f.lastAidingTimestamp := by
  cases hfind : f.measurementModels.find? (b.canHandle · m) with
  | none =>
    rw [dispatch_of_none hfind] at h
    cases h
    exact ⟨rfl, rfl, rfl, rfl⟩
  | some model =>
    by_cases hacc : (b.apply model m { ltp := f.localTangentPlane } f.state).2.result = .accepted
    · rw [dispatch_of_accepted hfind hacc] at h
      cases h
      exact ⟨rfl, rfl, hb.apply _ _ _ _, (if_pos hacc).symm⟩
    · rw [dispatch_of_not_accepted hfind hacc] at h
      cases h
      exact ⟨rfl, rfl, hb.apply _ _ _ _, (if_neg hacc).symm⟩

/-- A measurement before the initialisation. -/
theorem addEarly_keeps (h : f.addEarly m = (f', report)) :
    f'.imuBuffer = f.imuBuffer ∧ f'.lastAidingTimestamp = f.lastAidingTimestamp ∧
      (f' = f ∨ ∃ (gnss : GnssSolution) (R : Mat3), m = .gnssSolution gnss ∧
        f'.initialised = true ∧ f'.state = b.initialise f.state R gnss) := by
  cases m with
  | gnssSolution gnss =>
    by_cases hfix : gnss.fixType = .noFix
    · simp only [addEarly, tryInitialiseFromGnss, if_pos hfix] at h
      cases h
      exact ⟨rfl, rfl, .inl rfl⟩
    · by_cases hvalid : gnss.validity ≠ .valid
      · simp only [addEarly, tryInitialiseFromGnss, if_neg hfix, if_pos hvalid] at h
        cases h
        exact ⟨rfl, rfl, .inl rfl⟩
      · simp only [addEarly, tryInitialiseFromGnss, if_neg hfix, if_neg hvalid] at h
        cases h
        exact ⟨rfl, rfl, .inr ⟨gnss, _, rfl, rfl, rfl⟩⟩
  | _ =>
    cases h
    exact ⟨rfl, rfl, .inl rfl⟩

end Calls

/-! ### What the filter remembers -/

/-- **The record:** the filter keeps the last time of the history, and none before it is
    initialised; its buffer takes late samples. -/
structure Records (f : Filter b) (h : History) : Prop where
  aided : f.lastAidingTimestamp = h.aided.getLast?
  fresh : f.initialised = false → h.aided = []
  allow : f.imuBuffer.allowOutOfOrderInsert = true

section Records

variable {f f' : Filter b} {h : History}

theorem records_new : Records ({} : Filter b) {} := ⟨rfl, fun _ => rfl, rfl⟩

/-- Propagation leaves the record as it is. -/
theorem Records.propagateTo (hr : f.Records h) {target : Timestamp}
    (hpropagate : f.propagateTo target = some f') : f'.Records h := by
  obtain ⟨hinit, haiding, hbuffer, -⟩ := propagateTo_keeps hpropagate
  refine ⟨haiding.trans hr.aided, fun hfalse => hr.fresh (hinit ▸ hfalse), ?_⟩
  rw [hbuffer]
  exact hr.allow

/-- **One call.** -/
theorem Records.call (hb : b.Clocked) (hr : f.Records h) {k : Call b.Model}
    (hcall : f.call k = some f') : f'.Records (f.historyAfter h k) := by
  cases k with
  | registerMeasurementModel model =>
    cases hcall
    exact ⟨hr.aided, hr.fresh, hr.allow⟩
  | processUntil timestamp =>
    obtain ⟨⟨f'', result⟩, hprocess, rfl⟩ := Option.map_eq_some_iff.mp hcall
    rcases processUntil_cases hprocess with rfl | ⟨-, hpropagate⟩
    · exact hr
    · exact hr.propagateTo hpropagate
  | reset =>
    cases hcall
    exact ⟨rfl, fun _ => rfl, hr.allow⟩
  | addMeasurement m =>
    obtain ⟨⟨f'', report⟩, hadd, rfl⟩ := Option.map_eq_some_iff.mp hcall
    have hafter : f.historyAfter h (.addMeasurement m) = h.add f.initialised m report := by
      simp only [historyAfter, hadd]
    rw [hafter]
    rcases addMeasurement_cases hadd with
      ⟨imu, rfl, hadd'⟩ | ⟨hnot, hinit, hearly⟩ | ⟨hnot, hinit, f₁, hpropagate, hdispatch⟩
    · -- a sample changes the buffer, and nothing that the history is about
      have hf : f'' = { f with
          imuBuffer := (f.imuBuffer.insert ImuMeasurement.timestamp imu).1 } :=
        (congrArg Prod.fst hadd').symm
      have hkept : f''.Records h := by
        rw [hf]
        -- `insert` leaves the options of the buffer alone
        refine ⟨hr.aided, hr.fresh, ?_⟩
        exact (TimeOrderedBuffer.insert_allow f.imuBuffer imu).trans hr.allow
      rw [History.add_imu]
      by_cases hbuffered : report.result = .buffered
      · rw [if_pos hbuffered]
        exact ⟨hkept.aided, hkept.fresh, hkept.allow⟩
      · rw [if_neg hbuffered]
        exact hkept
    · -- before the first fix nothing is aiding
      rw [History.add_of_not_imu h f.initialised hnot, hinit,
        if_neg fun hboth => Bool.false_ne_true hboth.1]
      obtain ⟨hbuffer, haiding, -⟩ := addEarly_keeps hearly
      refine ⟨haiding.trans hr.aided, fun _ => hr.fresh hinit, ?_⟩
      rw [hbuffer]
      exact hr.allow
    · rw [History.add_of_not_imu h f.initialised hnot]
      have hr₁ := hr.propagateTo hpropagate
      obtain ⟨hinit₁, hbuffer, -, haiding⟩ := dispatch_keeps hb hdispatch
      have hinit' : f''.initialised = true :=
        hinit₁.trans ((propagateTo_keeps hpropagate).1.trans hinit)
      have hallow : f''.imuBuffer.allowOutOfOrderInsert = true := hbuffer ▸ hr₁.allow
      -- `lastAiding` is set exactly by an accepted measurement
      by_cases hacc : report.result = .accepted
      · rw [if_pos ⟨hinit, hacc⟩]
        rw [if_pos hacc] at haiding
        refine ⟨?_, fun hfalse => absurd (hfalse.symm.trans hinit') Bool.false_ne_true, hallow⟩
        rw [haiding, List.getLast?_append, List.getLast?_singleton]
        rfl
      · rw [if_neg fun hboth => hacc hboth.2]
        rw [if_neg hacc] at haiding
        exact ⟨haiding.trans hr₁.aided,
          fun hfalse => absurd (hfalse.symm.trans hinit') Bool.false_ne_true, hallow⟩

/-- **Every run.** -/
theorem Records.run (hb : b.Clocked) {calls : List (Call b.Model)} (hr : f.Records h)
    (hrun : f.run calls = some f') : f'.Records (f.history h calls) := by
  induction calls generalizing f h with
  | nil =>
    cases hrun
    exact hr
  | cons k calls ih =>
    rw [run_cons] at hrun
    obtain ⟨f₁, hcall, hrest⟩ := Option.bind_eq_some_iff.mp hrun
    rw [history_cons h calls hcall]
    exact ih (hr.call hb hcall) hrest

end Records

/-! ### One time basis -/

/-- A measurement of the call is on the basis. -/
def Call.On {Model : Type} (basis : TimeBasis) (k : Call Model) : Prop :=
  ∀ m, k = .addMeasurement m → m.timestamp.On basis

/-- **The filter is on the basis,** and so is what it has accepted. -/
structure OnBasis (basis : TimeBasis) (f : Filter b) (h : History) : Prop where
  buffer : ∀ imu ∈ f.imuBuffer.measurements, imu.timestamp.On basis
  samples : ∀ imu ∈ h.samples, imu.timestamp.On basis
  aided : ∀ t ∈ h.aided, t.On basis
  clock : f.initialised = true → (b.timestamp f.state).On basis

section OnBasis

variable {f f' : Filter b} {h : History} {basis : TimeBasis}

theorem onBasis_new : OnBasis basis ({} : Filter b) {} where
  buffer _ himu := absurd himu List.not_mem_nil
  samples _ himu := absurd himu List.not_mem_nil
  aided _ ht := absurd ht List.not_mem_nil
  clock hinit := absurd hinit Bool.false_ne_true

/-- Propagation takes the times of samples. -/
theorem OnBasis.propagateTo (hb : b.Clocked) (ho : f.OnBasis basis h) {target : Timestamp}
    (hpropagate : f.propagateTo target = some f') : f'.OnBasis basis h := by
  obtain ⟨hinit, -, hbuffer, hfold⟩ := propagateTo_keeps hpropagate
  refine ⟨?_, ho.samples, ho.aided, ?_⟩
  · intro imu himu
    rw [hbuffer] at himu
    exact ho.buffer imu (TimeOrderedBuffer.mem_of_mem_popUntil_rest himu)
  · intro hinit'
    rcases Backend.timestamp_batch hb hfold with htime | ⟨imu, himu, htime⟩
    · rw [htime]
      exact ho.clock (hinit ▸ hinit')
    · rw [htime]
      exact ho.buffer imu (TimeOrderedBuffer.mem_of_mem_popUntil himu)

/-- **One call.** -/
theorem OnBasis.call (hb : b.Clocked) (ho : f.OnBasis basis h) {k : Call b.Model}
    (hk : k.On basis) (hcall : f.call k = some f') : f'.OnBasis basis (f.historyAfter h k) := by
  cases k with
  | registerMeasurementModel model =>
    cases hcall
    exact ⟨ho.buffer, ho.samples, ho.aided, ho.clock⟩
  | processUntil timestamp =>
    obtain ⟨⟨f'', result⟩, hprocess, rfl⟩ := Option.map_eq_some_iff.mp hcall
    rcases processUntil_cases hprocess with rfl | ⟨-, hpropagate⟩
    · exact ho
    · exact ho.propagateTo hb hpropagate
  | reset =>
    cases hcall
    -- `Reset` empties everything
    exact ⟨fun _ himu => absurd himu List.not_mem_nil, fun _ himu => absurd himu List.not_mem_nil,
      fun _ ht => absurd ht List.not_mem_nil, fun hinit => absurd hinit Bool.false_ne_true⟩
  | addMeasurement m =>
    have hm : m.timestamp.On basis := hk m rfl
    obtain ⟨⟨f'', report⟩, hadd, rfl⟩ := Option.map_eq_some_iff.mp hcall
    have hafter : f.historyAfter h (.addMeasurement m) = h.add f.initialised m report := by
      simp only [historyAfter, hadd]
    rw [hafter]
    rcases addMeasurement_cases hadd with
      ⟨imu, rfl, hadd'⟩ | ⟨hnot, hinit, hearly⟩ | ⟨hnot, hinit, f₁, hpropagate, hdispatch⟩
    · -- a sample joins the buffer, if any
      have hf : f'' = { f with
          imuBuffer := (f.imuBuffer.insert ImuMeasurement.timestamp imu).1 } :=
        (congrArg Prod.fst hadd').symm
      have hbuffer : ∀ x ∈ f''.imuBuffer.measurements, x.timestamp.On basis := by
        intro x hx
        rw [hf] at hx
        rcases TimeOrderedBuffer.mem_of_mem_insert hx with rfl | hx
        · exact hm
        · exact ho.buffer x hx
      have hclock : f''.initialised = true → (b.timestamp f''.state).On basis := by
        rw [hf]
        exact ho.clock
      rw [History.add_imu]
      by_cases hbuffered : report.result = .buffered
      · rw [if_pos hbuffered]
        refine ⟨hbuffer, ?_, ho.aided, hclock⟩
        intro x hx
        rcases List.mem_append.mp hx with hx | hx
        · exact ho.samples x hx
        · rw [List.mem_singleton.mp hx]
          exact hm
      · rw [if_neg hbuffered]
        exact ⟨hbuffer, ho.samples, ho.aided, hclock⟩
    · -- an initialisation takes the time of the fix
      rw [History.add_of_not_imu h f.initialised hnot, hinit,
        if_neg fun hboth => Bool.false_ne_true hboth.1]
      obtain ⟨hbuffer, -, rfl | ⟨gnss, R, rfl, -, hstate⟩⟩ := addEarly_keeps hearly
      · exact ho
      · refine ⟨hbuffer ▸ ho.buffer, ho.samples, ho.aided, ?_⟩
        intro _
        rw [hstate, hb.initialise]
        exact hm
    · rw [History.add_of_not_imu h f.initialised hnot]
      have ho₁ := ho.propagateTo hb hpropagate
      obtain ⟨hinit₁, hbuffer, htime, -⟩ := dispatch_keeps hb hdispatch
      have hclock : f''.initialised = true → (b.timestamp f''.state).On basis := by
        intro hinit''
        rw [htime]
        exact ho₁.clock (hinit₁ ▸ hinit'')
      have hkept : f''.OnBasis basis h :=
        ⟨hbuffer ▸ ho₁.buffer, ho.samples, ho.aided, hclock⟩
      split
      · refine ⟨hkept.buffer, hkept.samples, ?_, hkept.clock⟩
        intro t ht
        rcases List.mem_append.mp ht with ht | ht
        · exact ho.aided t ht
        · rw [List.mem_singleton.mp ht]
          exact hm
      · exact hkept

/-- **Every run.** -/
theorem OnBasis.run (hb : b.Clocked) {calls : List (Call b.Model)} (ho : f.OnBasis basis h)
    (hcalls : ∀ k ∈ calls, k.On basis) (hrun : f.run calls = some f') :
    f'.OnBasis basis (f.history h calls) := by
  induction calls generalizing f h with
  | nil =>
    cases hrun
    exact ho
  | cons k calls ih =>
    rw [run_cons] at hrun
    obtain ⟨f₁, hcall, hrest⟩ := Option.bind_eq_some_iff.mp hrun
    rw [history_cons h calls hcall]
    exact ih (ho.call hb (hcalls k (by simp)) hcall)
      (fun k hk => hcalls k (List.mem_cons_of_mem _ hk)) hrest

end OnBasis

end Filter

/-! ### Estimators -/

namespace Embedding

variable {σ κ : Type} {S : Lib.System σ κ} {b : Backend} (E : Embedding S b)

/-- What an estimator has accepted over a run from `s`. -/
noncomputable def history (s : σ) (calls : List κ) : History :=
  (E.toFilter s).history {} (calls.map E.toCall)

/-- All measurements of the calls are on the basis. -/
def CallsOn (basis : TimeBasis) (calls : List κ) : Prop := ∀ k ∈ calls, (E.toCall k).On basis

variable {E} {s s' : σ} {calls : List κ}

/-- **Every run** from a new estimator is recorded. -/
theorem records_run (hb : b.Clocked) (hnew : E.toFilter s = {}) (hrun : S.Run s calls s') :
    (E.toFilter s').Records (E.history s calls) := by
  have hfilter := E.run hrun
  rw [history, hnew]
  rw [hnew] at hfilter
  exact Filter.records_new.run hb hfilter

/-- And on one basis it stays there. -/
theorem onBasis_run (hb : b.Clocked) (hnew : E.toFilter s = {}) {basis : TimeBasis}
    (hcalls : E.CallsOn basis calls) (hrun : S.Run s calls s') :
    (E.toFilter s').OnBasis basis (E.history s calls) := by
  have hfilter := E.run hrun
  rw [history, hnew]
  rw [hnew] at hfilter
  refine Filter.onBasis_new.run hb ?_ hfilter
  intro k hk
  obtain ⟨k', hk', rfl⟩ := List.mem_map.mp hk
  exact hcalls k' hk'

end Embedding

end FalconGuide
