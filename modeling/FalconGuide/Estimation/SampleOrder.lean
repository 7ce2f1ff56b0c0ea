import FalconGuide.Estimation.SampleHistory

namespace FalconGuide

/-!
# Inertial samples out of order

Both filters report `OutOfOrder` for a sample that the buffer rejects, and both make a buffer that
reorders: what is rejected is a sample that cannot be compared, and an older one is stored.

* `TimeOrderedBuffer.Misplaced` — a measurement that meets a stored one it cannot be compared with;
* `Older` — a sample older than one that was accepted;
* `Filter.OrderLaw` — exactly the older samples are discarded, without effect;
* `sample_order_iff` — the main result: that holds of a sample exactly if the older ones are those
  that cannot be compared, so on one time basis of the samples that are not older.
-/

namespace TimeOrderedBuffer

variable {M : Type} (time : M → Timestamp)

/-- The scan from the oldest on meets a measurement that cannot be compared, before one that is not
    earlier. -/
def MeetsIncomparable (m : M) (xs : List M) : Prop :=
  ∃ before x after, xs = before ++ x :: after ∧
    compareTimestamps (time m) (time x) = .notComparable ∧
    ∀ y ∈ before, compareTimestamps (time m) (time y) = .after

/-- `m` cannot be compared with the newest measurement or, when that is later, with the first one
    that is not earlier than `m`. -/
def Misplaced (b : TimeOrderedBuffer M) (m : M) : Prop :=
  ∃ latest, b.measurements.getLast? = some latest ∧
    (compareTimestamps (time latest) (time m) = .notComparable ∨
      (compareTimestamps (time latest) (time m) = .after ∧
        MeetsIncomparable time m b.measurements))

variable {time} {b : TimeOrderedBuffer M} {m : M} {xs : List M}

theorem scan_eq_none_iff : scan time m xs = none ↔ MeetsIncomparable time m xs := by
  induction xs with
  | nil =>
    refine iff_of_false (Option.some_ne_none _) ?_
    rintro ⟨before, x, after, hsplit, -⟩
    exact List.cons_ne_nil _ _ (List.append_eq_nil_iff.mp hsplit.symm).2
  | cons y xs ih =>
    -- the scan stops at `y`, so it never gets to the one that cannot be compared
    have hhead : compareTimestamps (time m) (time y) ≠ .notComparable →
        compareTimestamps (time m) (time y) ≠ .after → ¬ MeetsIncomparable time m (y :: xs) := by
      rintro hcomparable hafter ⟨before, x, after, hsplit, hx, hbefore⟩
      cases before with
      | nil =>
        cases hsplit
        exact hcomparable hx
      | cons z before =>
        cases hsplit
        exact hafter (hbefore y (by simp))
    cases hcmp : compareTimestamps (time m) (time y) with
    | notComparable =>
      refine iff_of_true (by simp only [scan, hcmp]) ⟨[], y, xs, rfl, hcmp, ?_⟩
      intro z hz
      cases hz
    | before =>
      rw [hcmp] at hhead
      exact iff_of_false (by simp [scan, hcmp]) (hhead (by decide) (by decide))
    | equal =>
      rw [hcmp] at hhead
      exact iff_of_false (by simp [scan, hcmp]) (hhead (by decide) (by decide))
    | after =>
      have hscan : scan time m (y :: xs) = (scan time m xs).map (y :: ·) := by
        simp only [scan, hcmp]
      rw [hscan, Option.map_eq_none_iff, ih]
      constructor
      · rintro ⟨before, x, after, rfl, hx, hbefore⟩
        refine ⟨y :: before, x, after, rfl, hx, ?_⟩
        intro z hz
        rcases List.mem_cons.mp hz with rfl | hz
        · exact hcmp
        · exact hbefore z hz
      · rintro ⟨before, x, after, hsplit, hx, hbefore⟩
        cases before with
        | nil =>
          cases hsplit
          rw [hcmp] at hx
          cases hx
        | cons z before =>
          cases hsplit
          exact ⟨before, x, after, rfl, hx, fun z hz => hbefore z (List.mem_cons_of_mem _ hz)⟩

/-- **What a buffer that reorders rejects.** -/
theorem place_cases (hallow : b.allowOutOfOrderInsert = true) :
    (Misplaced time b m ∧ b.place time m = .error .rejectedNotComparable) ∨
    (¬ Misplaced time b m ∧ ∃ xs, b.place time m = .ok xs) := by
  cases hlast : b.measurements.getLast? with
  | none =>
    refine .inr ⟨?_, [m], by simp only [place, hlast]⟩
    rintro ⟨latest, hlatest, -⟩
    rw [hlast] at hlatest
    cases hlatest
  | some latest =>
    have hmisplaced : Misplaced time b m ↔
        (compareTimestamps (time latest) (time m) = .notComparable ∨
          (compareTimestamps (time latest) (time m) = .after ∧
            MeetsIncomparable time m b.measurements)) := by
      simp only [Misplaced, hlast, Option.some.injEq, exists_eq_left']
    rw [hmisplaced]
    cases hcmp : compareTimestamps (time latest) (time m) with
    | before => exact .inr ⟨by simp, b.measurements ++ [m], by simp only [place, hlast, hcmp]⟩
    | equal => exact .inr ⟨by simp, b.measurements ++ [m], by simp only [place, hlast, hcmp]⟩
    | notComparable => exact .inl ⟨.inl rfl, by simp only [place, hlast, hcmp]⟩
    | after =>
      rw [← scan_eq_none_iff]
      cases hscan : scan time m b.measurements with
      | none => exact .inl ⟨.inr ⟨rfl, rfl⟩, by simp [place, hlast, hcmp, hallow, hscan]⟩
      | some xs => exact .inr ⟨by simp, xs, by simp [place, hlast, hcmp, hallow, hscan]⟩

/-- On one basis everything can be compared. -/
theorem not_misplaced {basis : TimeBasis} (hm : (time m).On basis)
    (hb : ∀ x ∈ b.measurements, (time x).On basis) : ¬ Misplaced time b m := by
  rintro ⟨latest, hlast, hcmp | ⟨-, before, x, after, hsplit, hcmp, -⟩⟩
  · exact compareTimestamps_ne_notComparable (hb latest (List.mem_of_getLast? hlast)) hm hcmp
  · have hx : x ∈ b.measurements := by
      rw [hsplit]
      simp
    exact compareTimestamps_ne_notComparable hm (hb x hx) hcmp

end TimeOrderedBuffer

/-! ### The law -/

/-- The sample is older than one of the others. -/
def Older (samples : List ImuMeasurement) (imu : ImuMeasurement) : Prop :=
  ∃ s ∈ samples, compareTimestamps imu.timestamp s.timestamp = .before

namespace Filter

variable {b : Backend}

/-- **The law of the reports:** with `samples` accepted so far, an older one is reported as
    `OutOfOrder` and changes nothing, and any other is buffered. -/
def OrderLaw (f : Filter b) (samples : List ImuMeasurement) (imu : ImuMeasurement) : Prop :=
  ∃ f' report, f.addMeasurement (.imu imu) = some (f', report) ∧
    (Older samples imu → report.result = .outOfOrder ∧ f' = f) ∧
    (¬ Older samples imu → report.result = .buffered)

variable {f : Filter b} {samples : List ImuMeasurement} {imu : ImuMeasurement}

/-- **One sample:** the buffer tells what cannot be compared, not what is older. -/
theorem orderLaw_iff (hallow : f.imuBuffer.allowOutOfOrderInsert = true) :
    f.OrderLaw samples imu ↔
      (Older samples imu ↔ f.imuBuffer.Misplaced ImuMeasurement.timestamp imu) := by
  have hadd : f.addMeasurement (.imu imu) = some (f.addImu imu) := rfl
  -- `AddImu` is a function, so the law is about its one result
  have hlaw : f.OrderLaw samples imu ↔
      (Older samples imu → (f.addImu imu).2.result = .outOfOrder ∧ (f.addImu imu).1 = f) ∧
      (¬ Older samples imu → (f.addImu imu).2.result = .buffered) := by
    rw [OrderLaw, hadd]
    constructor
    · rintro ⟨f', report, heq, holder⟩
      cases heq
      exact holder
    · intro holder
      exact ⟨_, _, rfl, holder⟩
  rw [hlaw]
  rcases @TimeOrderedBuffer.place_cases _ ImuMeasurement.timestamp f.imuBuffer imu hallow with
    ⟨hmisplaced, hplace⟩ | ⟨hmisplaced, xs, hplace⟩
  · have hinsert : f.imuBuffer.insert ImuMeasurement.timestamp imu
        = (f.imuBuffer, .rejectedNotComparable) := by
      rw [TimeOrderedBuffer.insert_eq_place, hplace]
    have hresult : f.addImu imu = (f, { result := .outOfOrder }) := by
      simp only [addImu, hinsert]
      rfl
    simp [hresult, hmisplaced]
  · have hinsert : (f.imuBuffer.insert ImuMeasurement.timestamp imu).2 = .inserted ∨
        (f.imuBuffer.insert ImuMeasurement.timestamp imu).2 = .insertedAndDroppedOldest := by
      rw [TimeOrderedBuffer.insert_eq_place, hplace]
      simp only [TimeOrderedBuffer.enforceMaxSize]
      split
      · exact .inl rfl
      · exact .inr rfl
    have hresult : (f.addImu imu).2.result = .buffered := by
      rcases hinsert with h | h
      · simp [addImu, h]
      · simp [addImu, h]
    simp [hresult, hmisplaced]

end Filter

section Embedding

variable {σ κ : Type} {S : Lib.System σ κ} {b : Backend} {E : Embedding S b} {s s' : σ}
  {calls : List κ} {imu : ImuMeasurement}

/-- **After every run** the law holds of a sample exactly if the older samples are those that cannot
    be compared. -/
theorem Embedding.orderLaw_iff (hb : b.Clocked) (hnew : E.toFilter s = {})
    (hrun : S.Run s calls s') :
    (E.toFilter s').OrderLaw (E.history s calls).samples imu ↔
      (Older (E.history s calls).samples imu ↔
        (E.toFilter s').imuBuffer.Misplaced ImuMeasurement.timestamp imu) :=
  Filter.orderLaw_iff (E.records_run hb hnew hrun).allow

/-- **On one time basis** it holds of the samples that are not older. -/
theorem Embedding.orderLaw_iff_not_older (hb : b.Clocked) (hnew : E.toFilter s = {})
    (hrun : S.Run s calls s') {basis : TimeBasis} (hcalls : E.CallsOn basis calls)
    (himu : imu.timestamp.On basis) :
    (E.toFilter s').OrderLaw (E.history s calls).samples imu ↔
      ¬ Older (E.history s calls).samples imu := by
  have hnot := TimeOrderedBuffer.not_misplaced himu (E.onBasis_run hb hnew hcalls hrun).buffer
  rw [Embedding.orderLaw_iff hb hnew hrun]
  constructor
  · intro hiff holder
    exact hnot (hiff.mp holder)
  · intro hnewer
    exact iff_of_false hnewer hnot

end Embedding

/-- **Which samples are discarded,** by either filter after any run: the law holds of a sample
    exactly if it is both older and not comparable with the buffer, or neither; on one time basis,
    exactly if it is not older. -/
theorem sample_order_iff (eigen : Eigen) (d : Ukf.Decompositions) :
    (∀ (options : EkfOptions) (calls : List EkfEstimator.Call) (e : EkfEstimator options)
      (imu : ImuMeasurement),
      (EkfEstimator.system eigen options).Run {} calls e →
      let E := EkfEstimator.embedding eigen options
      let samples := (E.history {} calls).samples
      ((e.toFilter eigen).OrderLaw samples imu ↔
        (Older samples imu ↔ e.imuBuffer.Misplaced ImuMeasurement.timestamp imu)) ∧
      ∀ basis, E.CallsOn basis calls → imu.timestamp.On basis →
        ((e.toFilter eigen).OrderLaw samples imu ↔ ¬ Older samples imu)) ∧
    ∀ (options : Ukf.UkfOptions) (calls : List Ukf.UkfEstimator.Call)
      (e : Ukf.UkfEstimator options) (imu : ImuMeasurement),
      (Ukf.UkfEstimator.system d options).Run {} calls e →
      let E := Ukf.UkfEstimator.embedding d options
      let samples := (E.history {} calls).samples
      ((e.toFilter d).OrderLaw samples imu ↔
        (Older samples imu ↔ e.imuBuffer.Misplaced ImuMeasurement.timestamp imu)) ∧
      ∀ basis, E.CallsOn basis calls → imu.timestamp.On basis →
        ((e.toFilter d).OrderLaw samples imu ↔ ¬ Older samples imu) := by
  constructor
  · intro options calls e imu hrun E samples
    have hb := clocked_ekfBackend eigen options
    refine ⟨E.orderLaw_iff hb rfl hrun, ?_⟩
    intro basis hcalls himu
    exact E.orderLaw_iff_not_older hb rfl hrun hcalls himu
  · intro options calls e imu hrun E samples
    have hb := clocked_ukfBackend d options
    refine ⟨E.orderLaw_iff hb rfl hrun, ?_⟩
    intro basis hcalls himu
    exact E.orderLaw_iff_not_older hb rfl hrun hcalls himu

/-- A filter that has buffered a sample of nanosecond 1 buffers one of nanosecond 2. -/
theorem sample_order_iff_newer :
    ∃ e : EkfEstimator {},
      (EkfEstimator.system .exact {}).Run {}
        [.addMeasurement (.imu { timestamp := .ofSteady 1 })] e ∧
      (e.toFilter .exact).OrderLaw [{ timestamp := .ofSteady 1 }] { timestamp := .ofSteady 2 } := by
  have hrun : (EkfEstimator.system .exact {}).Run {}
      [.addMeasurement (.imu { timestamp := .ofSteady 1 })]
      { imuBuffer := { maxSize := 2000, measurements := [{ timestamp := .ofSteady 1 }] } } :=
    .cons (.addMeasurement _ _ _ _ rfl) (.nil _)
  refine ⟨_, hrun, ?_⟩
  have hlaw := (sample_order_iff .exact .exact).1 {} _ _ { timestamp := .ofSteady 2 } hrun
  refine (hlaw.2 .steady ?_ ?_).mpr ?_
  · intro k hk m hm
    rw [List.mem_singleton.mp hk] at hm
    cases hm
    rfl
  · rfl
  · rintro ⟨s, hs, hbefore⟩
    have hs' : s = { timestamp := .ofSteady 1 } := by
      change s ∈ [_] at hs
      exact List.mem_singleton.mp hs
    rw [hs'] at hbefore
    revert hbefore
    decide

/-- **An older sample is stored:** after a fix of one second and a sample of 1.1 s, one of 1 s. -/
theorem not_sample_order :
    ¬ ∀ (calls : List EkfEstimator.Call) (e : EkfEstimator {}) (imu : ImuMeasurement),
      (EkfEstimator.system .exact {}).Run {} calls e →
      (e.toFilter .exact).OrderLaw
        ((EkfEstimator.embedding .exact {}).history {} calls).samples imu := by
  intro hall
  let fix : GnssSolution := { timestamp := .ofSteady 1000000000, fixType := .single }
  let newest : ImuMeasurement := { timestamp := .ofSteady 1100000000 }
  let older : ImuMeasurement := { timestamp := .ofSteady 1000000000 }
  -- the fix initialises, and the sample is the only one in the buffer
  have hrun : (EkfEstimator.system .exact {}).Run {}
      [.addMeasurement (.gnssSolution fix), .addMeasurement (.imu newest)]
      { (({} : EkfEstimator {}).tryInitialiseFromGnss fix).1 with
        imuBuffer := { maxSize := 2000, measurements := [newest] } } :=
    .cons (.addMeasurement _ _ _ _ rfl) (.cons (.addMeasurement _ _ _ _ rfl) (.nil _))
  have hon : (EkfEstimator.embedding .exact {}).CallsOn .steady
      [.addMeasurement (.gnssSolution fix), .addMeasurement (.imu newest)] := by
    intro k hk m hm
    simp only [List.mem_cons, List.not_mem_nil, or_false] at hk
    rcases hk with rfl | rfl
    · cases hm
      rfl
    · cases hm
      rfl
  have holder : older.timestamp.On .steady := rfl
  refine ((EkfEstimator.embedding .exact {}).orderLaw_iff_not_older
    (clocked_ekfBackend .exact {}) rfl hrun hon holder).mp (hall _ _ older hrun) ?_
  exact ⟨newest, List.mem_singleton_self newest, by decide⟩

end FalconGuide
