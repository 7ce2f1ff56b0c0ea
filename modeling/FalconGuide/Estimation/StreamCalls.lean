import FalconGuide.Estimation.InvalidMeasurements

namespace FalconGuide

/-!
# When a stream is processed does not matter

Inertial samples wait in a buffer until `ProcessUntil` or the next other measurement.  A caller may
therefore call `ProcessUntil` after each measurement, once at the end, or at any times in between,
with targets in the past or in the future.

* `StreamCall`, `Filter.stream` — such calls, with the reports that `AddMeasurement` returns;
* `Filter.SamplesFit` — the samples that wait do not push each other out;
* `propagateTo_eq_advance_popped`, `advance_bind_advance` — every propagation is a step ahead, and
  steps ahead add up;
* `Filter.Behind`, `advance_bind_stream` — a filter that is ahead and one that is behind, over the
  rest of the calls;
* `process_until_invisible` — the main result, for both filters.
-/

/-- A call while a stream arrives. -/
inductive StreamCall
  | addMeasurement (m : SensorMeasurement)
  | processUntil (target : Timestamp)

namespace StreamCall

/-- This call brings a measurement. -/
def isMeasurement : StreamCall → Bool
  | .addMeasurement _ => true
  | .processUntil _ => false

/-- The times of the measurements. -/
def times : List StreamCall → List Timestamp
  | [] => []
  | .addMeasurement m :: calls => m.timestamp :: times calls
  | .processUntil _ :: calls => times calls

end StreamCall

namespace Filter

variable {b : Backend} {f : Filter b} {k j : ℕ} {m : SensorMeasurement} {t u : Timestamp}

/-- The calls one after the other, and then `ProcessUntil(t)`: the reports of the measurements and
    the filter afterwards. -/
noncomputable def stream (t : Timestamp) :
    Filter b → List StreamCall → Option (List MeasurementUpdateReport × Filter b)
  | f, [] => (f.processUntil t).map fun r => ([], r.1)
  | f, .addMeasurement m :: calls =>
    (f.addMeasurement m).bind fun r => (stream t r.1 calls).map fun s => (r.2 :: s.1, s.2)
  | f, .processUntil u :: calls => (f.processUntil u).bind fun r => stream t r.1 calls

/-- Of the filter that is never told to process, no sample that arrives pushes out another. -/
def SamplesFit : Filter b → List StreamCall → Prop
  | _, [] => True
  | f, .addMeasurement m :: calls =>
    (m.isImu = true → f.initialised = true → f.imuBuffer.HasRoom) ∧
    ∀ f' report, f.addMeasurement m = some (f', report) → SamplesFit f' calls
  | f, .processUntil _ :: calls => SamplesFit f calls

/-! ### Steps ahead -/

/-- The samples that `PropagateTo` leaves in the buffer. -/
def left (f : Filter b) (target : Timestamp) : List ImuMeasurement :=
  (f.imuBuffer.popUntil ImuMeasurement.timestamp target true).2.measurements

theorem popped_append (f : Filter b) (u : Timestamp) :
    f.popped u ++ f.left u = f.imuBuffer.measurements :=
  TimeOrderedBuffer.popLoop_append u true f.imuBuffer.measurements

/-- **Any target** leads some samples ahead. -/
theorem propagateTo_eq_advance_popped (f : Filter b) (u : Timestamp) :
    f.propagateTo u = f.advance (f.popped u).length := by
  have htake : f.imuBuffer.measurements.take (f.popped u).length = f.popped u := by
    conv_lhs => rw [← popped_append f u]
    exact List.take_left' rfl
  have hdrop : f.imuBuffer.measurements.drop (f.popped u).length = f.left u := by
    conv_lhs => rw [← popped_append f u]
    exact List.drop_left' rfl
  rw [advance, htake, hdrop]
  rfl

theorem popped_length_le (f : Filter b) (u : Timestamp) :
    (f.popped u).length ≤ f.imuBuffer.measurements.length := by
  have hlength := congrArg List.length (popped_append f u)
  rw [List.length_append] at hlength
  exact le_of_add_le_left hlength.le

/-- **Steps ahead** add up. -/
theorem advance_bind_advance (f : Filter b) (j k : ℕ) :
    (f.advance j).bind (fun f => f.advance k) = f.advance (j + k) := by
  have htake : f.imuBuffer.measurements.take (j + k)
      = f.imuBuffer.measurements.take j ++ (f.imuBuffer.measurements.drop j).take k :=
    List.take_add
  rw [advance, advance, htake, List.foldlM_append, Option.bind_map]
  cases (f.imuBuffer.measurements.take j).foldlM b.propagateSample f.state with
  | none => rfl
  | some s =>
    show Option.map _ _ = Option.map _ (((f.imuBuffer.measurements.drop j).take k).foldlM
      b.propagateSample s)
    rw [← List.drop_drop]

/-- What a filter that is ahead still buffers. -/
theorem measurements_of_advance {f' : Filter b} (h : f.advance k = some f') :
    f'.imuBuffer.measurements = f.imuBuffer.measurements.drop k := by
  obtain ⟨s, -, rfl⟩ := Option.map_eq_some_iff.mp h
  rfl

/-- Whatever target the filter that is ahead processes, it is ahead afterwards. -/
theorem exists_advance_propagateTo (hk : k ≤ f.imuBuffer.measurements.length) (u : Timestamp) :
    ∃ n, k ≤ n ∧ n ≤ f.imuBuffer.measurements.length ∧
      (f.advance k).bind (fun f => f.propagateTo u) = f.advance n := by
  cases hadv : f.advance k with
  | none =>
    refine ⟨k, le_rfl, hk, ?_⟩
    rw [hadv]
    rfl
  | some f' =>
    have hrest := measurements_of_advance hadv
    have hpopped := popped_length_le f' u
    rw [hrest, List.length_drop] at hpopped
    refine ⟨k + (f'.popped u).length, Nat.le_add_right _ _, by omega, ?_⟩
    rw [← advance_bind_advance, hadv]
    exact propagateTo_eq_advance_popped f' u

/-! ### Two runs -/

/-- `f`, and the filter `k` samples ahead of it, before the calls `calls` and the target `t`. -/
structure Behind (f : Filter b) (k : ℕ) (calls : List StreamCall) (t : Timestamp) : Prop where
  le_length : k ≤ f.imuBuffer.measurements.length
  of_initialised : f.initialised = false → k = 0
  buffered : ∀ u ∈ StreamCall.times calls ++ [t], f.BufferedBefore u

/-- After a measurement that is no sample, both filters are the same. -/
theorem Behind.of_addMeasurement {f' : Filter b} {calls : List StreamCall}
    {report : MeasurementUpdateReport} (h : Behind f k (.addMeasurement m :: calls) t)
    (hadd : f.addMeasurement m = some (f', report))
    (htimes : ∀ u ∈ StreamCall.times calls ++ [t], m.timestamp.AtOrBefore u) :
    Behind f' 0 calls t := by
  obtain ⟨-, hbuffer⟩ := addMeasurement_sameSetup hadd
  refine ⟨Nat.zero_le _, fun _ => rfl, ?_⟩
  intro u hu imu himu
  rcases hbuffer imu himu with himu | himu
  · exact himu ▸ htimes u hu
  · exact h.buffered u (List.mem_cons_of_mem _ hu) imu himu

/-- A sample goes to the end of both buffers. -/
theorem Behind.addImu {imu : ImuMeasurement} {calls : List StreamCall}
    (h : Behind f k (.addMeasurement (.imu imu) :: calls) t)
    (hbefore : f.BufferedBefore imu.timestamp) (hroom : k = 0 ∨ f.imuBuffer.HasRoom)
    (htimes : ∀ u ∈ StreamCall.times calls ++ [t], imu.timestamp.AtOrBefore u) :
    Behind (f.addImu imu).1 k calls t := by
  refine ⟨?_, h.of_initialised, ?_⟩
  · rcases hroom with rfl | hroom
    · exact Nat.zero_le _
    · have hinsert := TimeOrderedBuffer.insert_of_atOrBefore hbefore hroom
      simp only [Filter.addImu, hinsert, List.length_append]
      exact h.le_length.trans (Nat.le_add_right _ _)
  · intro u hu x hx
    rcases TimeOrderedBuffer.mem_of_mem_insert hx with rfl | hx
    · exact htimes u hu
    · exact h.buffered u (List.mem_cons_of_mem _ hu) x hx

/-- Both filters report the same of a sample that fits. -/
theorem addImu_report {imu : ImuMeasurement} (hbefore : f.BufferedBefore imu.timestamp)
    (hroom : f.imuBuffer.HasRoom) {f' : Filter b} (hadv : f.advance k = some f') :
    (f'.addImu imu).2 = (f.addImu imu).2 := by
  obtain ⟨s, -, rfl⟩ := Option.map_eq_some_iff.mp hadv
  have hrest : ({ f.imuBuffer with
      measurements := f.imuBuffer.measurements.drop k } :
        TimeOrderedBuffer ImuMeasurement).HasRoom := by
    refine hroom.imp_right ?_
    intro hlt
    exact (List.length_drop.trans_le (Nat.sub_le _ _)).trans_lt hlt
  have hinsert := TimeOrderedBuffer.insert_of_atOrBefore hbefore hroom
  have hinsert' := @TimeOrderedBuffer.insert_of_atOrBefore ImuMeasurement
    ImuMeasurement.timestamp _ _ (fun x hx => hbefore x (List.mem_of_mem_drop hx)) hrest
  simp only [addImu, hinsert, hinsert']

/-- An initialised filter that processes only propagates. -/
theorem processUntil_of_initialised (hinit : f.initialised = true) (u : Timestamp) :
    (f.processUntil u).map Prod.fst = f.propagateTo u := by
  rw [processUntil, if_neg (by simp [hinit]), Option.map_map]
  exact Option.map_id'

theorem processUntil_of_not_initialised (hinit : f.initialised = false) (u : Timestamp) :
    (f.processUntil u).map Prod.fst = some f := by
  rw [processUntil, if_pos (by simp [hinit])]
  rfl

/-- **Two runs.** By induction on the calls: however far ahead a filter is, it ends where the filter
    ends that only gets the measurements, and so do the reports. -/
theorem advance_bind_stream {f : Filter b} {k : ℕ} {calls : List StreamCall}
    (h : Behind f k calls t)
    (htimes : (StreamCall.times calls ++ [t]).Pairwise Timestamp.AtOrBefore)
    (hfit : f.SamplesFit calls) :
    (f.advance k).bind (fun f => stream t f calls)
      = stream t f (calls.filter StreamCall.isMeasurement) := by
  induction calls generalizing f k with
  | nil =>
    have hreports : ∀ f' : Filter b, stream t f' []
        = ((f'.processUntil t).map Prod.fst).map fun f => ([], f) := by
      intro f'
      rw [Option.map_map]
      rfl
    show (f.advance k).bind (fun f => stream t f []) = stream t f []
    cases hinit : f.initialised with
    | true =>
      rw [hreports f, processUntil_of_initialised hinit,
        ← advance_bind_propagateTo (k := k) (h.buffered t (by simp)), Option.map_bind]
      refine Option.bind_congr ?_
      intro f' hf'
      have hinit' : f'.initialised = true := (sameSetup_of_advance hf').1.trans hinit
      rw [hreports f', processUntil_of_initialised hinit']
      rfl
    | false =>
      rw [h.of_initialised hinit]
      rfl
  | cons call calls ih =>
    cases call with
    | processUntil u =>
      show (f.advance k).bind (fun f => (f.processUntil u).bind fun r => stream t r.1 calls)
        = stream t f (calls.filter StreamCall.isMeasurement)
      have hstate : ∀ f' : Filter b, ((f'.processUntil u).bind fun r => stream t r.1 calls)
          = ((f'.processUntil u).map Prod.fst).bind fun f => stream t f calls := by
        intro f'
        rw [Option.bind_map]
        rfl
      cases hinit : f.initialised with
      | true =>
        -- the filter that processes is further ahead afterwards
        obtain ⟨n, -, hn, hadv⟩ := exists_advance_propagateTo h.le_length u
        have hbehind : Behind f n calls t :=
          ⟨hn, fun hnot => absurd hnot (by simp [hinit]), h.buffered⟩
        rw [← ih hbehind htimes hfit, ← hadv, Option.bind_assoc]
        refine Option.bind_congr ?_
        intro f' hf'
        have hinit' : f'.initialised = true := (sameSetup_of_advance hf').1.trans hinit
        rw [hstate f', processUntil_of_initialised hinit']
      | false =>
        have hbehind : Behind f 0 calls t := ⟨Nat.zero_le _, fun _ => rfl, h.buffered⟩
        rw [h.of_initialised hinit, ← ih hbehind htimes hfit, advance_zero, Option.bind_some,
          Option.bind_some, hstate f, processUntil_of_not_initialised hinit]
        rfl
    | addMeasurement m =>
      obtain ⟨hroom, hrestfit⟩ := hfit
      rw [StreamCall.times, List.cons_append, List.pairwise_cons] at htimes
      obtain ⟨hfirst, hrest⟩ := htimes
      have hbefore : f.BufferedBefore m.timestamp :=
        h.buffered m.timestamp (by simp [StreamCall.times])
      show (f.advance k).bind (fun f => (f.addMeasurement m).bind fun r =>
          (stream t r.1 calls).map fun s => (r.2 :: s.1, s.2))
        = (f.addMeasurement m).bind fun r =>
          (stream t r.1 (calls.filter StreamCall.isMeasurement)).map fun s => (r.2 :: s.1, s.2)
      by_cases hm : m.isImu = true
      · cases m with
        | imu imu =>
          have hfits : k = 0 ∨ f.imuBuffer.HasRoom := by
            cases hinit : f.initialised with
            | true => exact .inr (hroom rfl hinit)
            | false => exact .inl (h.of_initialised hinit)
          have hbehind := h.addImu hbefore hfits hfirst
          show (f.advance k).bind (fun f => (stream t (f.addImu imu).1 calls).map
              fun s => ((f.addImu imu).2 :: s.1, s.2))
            = (stream t (f.addImu imu).1 (calls.filter StreamCall.isMeasurement)).map
              fun s => ((f.addImu imu).2 :: s.1, s.2)
          rw [← ih hbehind hrest (hrestfit _ _ rfl), ← advance_map_addImu hbefore h.le_length hfits,
            Option.bind_map, Option.map_bind]
          refine Option.bind_congr ?_
          intro f' hf'
          have hreport : (f'.addImu imu).2 = (f.addImu imu).2 := by
            rcases hfits with rfl | hroom'
            · rw [advance_zero] at hf'
              rw [Option.some.inj hf']
            · exact addImu_report hbefore hroom' hf'
          rw [hreport]
          rfl
        | _ => cases hm
      · have hnot : m.isImu = false := by simpa using hm
        -- another measurement makes the filter that is behind catch up
        have hboth : (f.advance k).bind (fun f => f.addMeasurement m) = f.addMeasurement m := by
          cases hinit : f.initialised with
          | true => exact advance_bind_addMeasurement hbefore hnot hinit
          | false =>
            rw [h.of_initialised hinit]
            rfl
        rw [← Option.bind_assoc, hboth]
        refine Option.bind_congr ?_
        intro r hr
        have hbehind : Behind r.1 0 calls t := h.of_addMeasurement hr hfirst
        rw [← ih hbehind hrest (hrestfit r.1 r.2 hr)]
        rfl

/-- A filter whose samples are all before what comes. -/
theorem stream_filter_isMeasurement {f : Filter b} {calls : List StreamCall}
    (hbuffered : ∀ u ∈ StreamCall.times calls ++ [t], f.BufferedBefore u)
    (htimes : (StreamCall.times calls ++ [t]).Pairwise Timestamp.AtOrBefore)
    (hfit : f.SamplesFit calls) :
    stream t f calls = stream t f (calls.filter StreamCall.isMeasurement) := by
  have hstart : Behind f 0 calls t := ⟨Nat.zero_le _, fun _ => rfl, hbuffered⟩
  exact advance_bind_stream hstart htimes hfit

end Filter

/-! ### Both filters -/

namespace EkfEstimator

variable {options : EkfOptions} {eigen : Eigen}

/-- The calls one after the other, and then `ProcessUntil(t)`. -/
noncomputable def stream (eigen : Eigen) (t : Timestamp) : EkfEstimator options →
    List StreamCall → Option (List MeasurementUpdateReport × EkfEstimator options)
  | e, [] => (e.processUntil t).map fun r => ([], r.1)
  | e, .addMeasurement m :: calls =>
    (e.addMeasurement eigen m).bind fun r =>
      (stream eigen t r.1 calls).map fun s => (r.2 :: s.1, s.2)
  | e, .processUntil u :: calls => (e.processUntil u).bind fun r => stream eigen t r.1 calls

theorem toFilter_stream (t : Timestamp) (e : EkfEstimator options) (calls : List StreamCall) :
    Filter.stream t (e.toFilter eigen) calls
      = (stream eigen t e calls).map (Prod.map id (toFilter eigen)) := by
  induction calls generalizing e with
  | nil =>
    show ((e.toFilter eigen).processUntil t).map _ = ((e.processUntil t).map _).map _
    rw [toFilter_processUntil, Option.map_map, Option.map_map]
    rfl
  | cons call calls ih =>
    cases call with
    | addMeasurement m =>
      show ((e.toFilter eigen).addMeasurement m).bind _
        = ((e.addMeasurement eigen m).bind _).map _
      rw [toFilter_addMeasurement]
      cases e.addMeasurement eigen m with
      | none => rfl
      | some r =>
        show (Filter.stream t (r.1.toFilter eigen) calls).map _
          = ((stream eigen t r.1 calls).map _).map _
        rw [ih r.1, Option.map_map, Option.map_map]
        rfl
    | processUntil u =>
      show ((e.toFilter eigen).processUntil u).bind _ = ((e.processUntil u).bind _).map _
      rw [toFilter_processUntil]
      cases e.processUntil u with
      | none => rfl
      | some r => exact ih r.1

end EkfEstimator

namespace Ukf.UkfEstimator

variable {options : UkfOptions} {d : Decompositions}

/-- The calls one after the other, and then `ProcessUntil(t)`. -/
noncomputable def stream (d : Decompositions) (t : Timestamp) : UkfEstimator options →
    List StreamCall → Option (List MeasurementUpdateReport × UkfEstimator options)
  | e, [] => (e.processUntil d t).map fun r => ([], r.1)
  | e, .addMeasurement m :: calls =>
    (e.addMeasurement d m).bind fun r => (stream d t r.1 calls).map fun s => (r.2 :: s.1, s.2)
  | e, .processUntil u :: calls => (e.processUntil d u).bind fun r => stream d t r.1 calls

theorem toFilter_stream (t : Timestamp) (e : UkfEstimator options) (calls : List StreamCall) :
    Filter.stream t (e.toFilter d) calls
      = (stream d t e calls).map (Prod.map id (toFilter d)) := by
  induction calls generalizing e with
  | nil =>
    show ((e.toFilter d).processUntil t).map _ = ((e.processUntil d t).map _).map _
    rw [toFilter_processUntil, Option.map_map, Option.map_map]
    rfl
  | cons call calls ih =>
    cases call with
    | addMeasurement m =>
      show ((e.toFilter d).addMeasurement m).bind _ = ((e.addMeasurement d m).bind _).map _
      rw [toFilter_addMeasurement]
      cases e.addMeasurement d m with
      | none => rfl
      | some r =>
        show (Filter.stream t (r.1.toFilter d) calls).map _ = ((stream d t r.1 calls).map _).map _
        rw [ih r.1, Option.map_map, Option.map_map]
        rfl
    | processUntil u =>
      show ((e.toFilter d).processUntil u).bind _ = ((e.processUntil d u).bind _).map _
      rw [toFilter_processUntil]
      cases e.processUntil d u with
      | none => rfl
      | some r => exact ih r.1

end Ukf.UkfEstimator

/-- **Online is offline.** Of measurements in order, whose waiting samples do not push each other
    out: calls of `ProcessUntil` with any targets, anywhere in between, change no report of
    `AddMeasurement` and nothing of the estimator after the last `ProcessUntil`; with them a run
    does not return exactly when without them it does not. -/
theorem process_until_invisible (calls : List StreamCall) (t : Timestamp)
    (htimes : (StreamCall.times calls ++ [t]).Pairwise Timestamp.AtOrBefore) :
    (∀ (eigen : Eigen) (options : EkfOptions) (e : EkfEstimator options),
      (∀ u ∈ StreamCall.times calls ++ [t], (e.toFilter eigen).BufferedBefore u) →
      (e.toFilter eigen).SamplesFit calls →
      e.stream eigen t calls = e.stream eigen t (calls.filter StreamCall.isMeasurement)) ∧
    (∀ (d : Ukf.Decompositions) (options : Ukf.UkfOptions) (e : Ukf.UkfEstimator options),
      (∀ u ∈ StreamCall.times calls ++ [t], (e.toFilter d).BufferedBefore u) →
      (e.toFilter d).SamplesFit calls →
      e.stream d t calls = e.stream d t (calls.filter StreamCall.isMeasurement)) := by
  constructor
  · intro eigen options e hbuffered hfit
    have hruns := Filter.stream_filter_isMeasurement hbuffered htimes hfit
    rw [EkfEstimator.toFilter_stream, EkfEstimator.toFilter_stream] at hruns
    exact Option.map_injective
      (Function.Injective.prodMap Function.injective_id EkfEstimator.toFilter_injective) hruns
  · intro d options e hbuffered hfit
    have hruns := Filter.stream_filter_isMeasurement hbuffered htimes hfit
    rw [Ukf.UkfEstimator.toFilter_stream, Ukf.UkfEstimator.toFilter_stream] at hruns
    exact Option.map_injective
      (Function.Injective.prodMap Function.injective_id Ukf.UkfEstimator.toFilter_injective) hruns

/-- A fix and a sample a second later, with a target between them and one far behind both. -/
theorem process_until_invisible_sample :
    let calls : List StreamCall :=
      [.processUntil saturatedSample.timestamp, .addMeasurement (.gnssSolution validFix),
        .processUntil validFix.timestamp, .addMeasurement (.imu saturatedSample),
        .processUntil saturatedSample.timestamp]
    ({} : EkfEstimator {}).stream .exact saturatedSample.timestamp calls
        = ({} : EkfEstimator {}).stream .exact saturatedSample.timestamp
          (calls.filter StreamCall.isMeasurement) ∧
      ({} : Ukf.UkfEstimator {}).stream .exact saturatedSample.timestamp calls
        = ({} : Ukf.UkfEstimator {}).stream .exact saturatedSample.timestamp
          (calls.filter StreamCall.isMeasurement) := by
  intro calls
  have hempty : ∀ (b : Backend) (f : Filter b), f.imuBuffer.measurements = [] →
      ∀ u ∈ StreamCall.times calls ++ [saturatedSample.timestamp], f.BufferedBefore u := by
    intro b f hf u _ imu himu
    rw [hf] at himu
    cases himu
  have hfit : ∀ (b : Backend) (f : Filter b), f.initialised = false →
      f.imuBuffer = { maxSize := 2000 } → f.SamplesFit calls := by
    intro b f hinit hbuffer
    refine ⟨fun himu => (Bool.false_ne_true himu).elim, ?_⟩
    intro f' report hadd
    refine ⟨?_, fun _ _ _ => trivial⟩
    intro _ _
    -- the fix leaves the buffer empty
    rw [Filter.addMeasurement_of_not_imu f rfl, if_pos (by simp [hinit])] at hadd
    have hkeep := (Filter.addEarly_sameSetup f (.gnssSolution validFix)).2
    rw [Option.some.inj hadd, hbuffer] at hkeep
    show f'.imuBuffer.HasRoom
    rw [hkeep]
    exact .inr (by decide)
  have hruns := process_until_invisible calls saturatedSample.timestamp (by decide)
  exact ⟨hruns.1 .exact {} {} (hempty _ _ rfl) (hfit _ _ rfl rfl),
    hruns.2 .exact {} {} (hempty _ _ rfl) (hfit _ _ rfl rfl)⟩

end FalconGuide
