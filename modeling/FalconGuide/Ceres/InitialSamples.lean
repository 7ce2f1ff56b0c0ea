import FalconGuide.Ceres.KeyframeTimes

namespace FalconGuide

open Lib

/-!
# The samples before the first fix

`AddImu` keeps samples for `InitFromGnss`, which plays them into the preintegrator.  It keeps the
first ones, and a full buffer drops the new sample.

* `received` — the samples since the last `Reset`;
* `Keeps` — what an estimator knows of them, in every run;
* `firstFactor`, `punctualFactor` — the first factor, and the one that the same fix would have
  started had it arrived at its own time;
* `ReplaysAll` — no sample from the fix on is missing;
* `replaysAll_iff` — the main result: so exactly if the samples that did not fit in the buffer are
  before the fix.
-/

namespace CeresSlidingWindowEstimator

variable {options : CeresOptions}

/-! ### What arrived -/

/-- The samples since the last `Reset`, after one more call. -/
def receivedAfter (imus : List ImuMeasurement) : Call → List ImuMeasurement
  | .addMeasurement (.imu imu) => imus ++ [imu]
  | .reset => []
  | _ => imus

/-- The samples since the last `Reset` among `calls`. -/
def received (calls : List Call) : List ImuMeasurement := calls.foldl receivedAfter []

/-- The samples at or after the fix, or not comparable with it. -/
def fromFix (t : Timestamp) (imus : List ImuMeasurement) : List ImuMeasurement :=
  imus.filter fun imu => compareTimestamps imu.timestamp t ≠ .before

/-- The samples before the fix. -/
def beforeFix (t : Timestamp) (imus : List ImuMeasurement) : List ImuMeasurement :=
  imus.filter fun imu => compareTimestamps imu.timestamp t = .before

/-- Several samples. -/
noncomputable def addImus (e : CeresSlidingWindowEstimator options) (imus : List ImuMeasurement) :
    CeresSlidingWindowEstimator options :=
  imus.foldl (fun e imu => (e.addImu imu).1) e

/-- The factor that a keyframe at `t1` takes, when `later` came in between the fix and it. -/
noncomputable def firstFactor (lib : CeresLibrary) (e : CeresSlidingWindowEstimator options)
    (gnss : GnssSolution) (later : List ImuMeasurement) (t1 : Timestamp) : ImuPreintegration :=
  ((e.addMeasurement lib (.gnssSolution gnss)).1.addImus later).preint.finalize t1

/-- The factor had the fix arrived at its own time: behind the samples before it, and ahead of the
    others. -/
noncomputable def punctualFactor (options : CeresOptions) (lib : CeresLibrary)
    (imus : List ImuMeasurement) (gnss : GnssSolution) (later : List ImuMeasurement)
    (t1 : Timestamp) : ImuPreintegration :=
  firstFactor lib
    (({} : CeresSlidingWindowEstimator options).addImus (beforeFix gnss.timestamp imus)) gnss
    (fromFix gnss.timestamp imus ++ later) t1

/-- **Nothing is missing:** of the samples `imus` received, those from the fix on are played into
    the preintegrator once and in their order, and the first factor is that of a punctual fix. -/
structure ReplaysAll (lib : CeresLibrary) (e : CeresSlidingWindowEstimator options)
    (imus : List ImuMeasurement) (gnss : GnssSolution) : Prop where
  replay : replayed e.imuBuffer gnss.timestamp = fromFix gnss.timestamp imus
  factor : ∀ later t1,
    firstFactor lib e gnss later t1 = punctualFactor options lib imus gnss later t1

/-! ### What the estimator keeps -/

/-- The buffer holds the first samples, and without a fix the preintegrator is untouched. -/
structure Keeps (e : CeresSlidingWindowEstimator options) (imus : List ImuMeasurement) : Prop where
  imuBuffer : e.imuBuffer = imus.take maxImuBuffer
  preint : e.initialised = false → e.preint = {} ∧ e.preintActive = false

theorem keeps_new : Keeps ({} : CeresSlidingWindowEstimator options) [] :=
  ⟨rfl, fun _ => ⟨rfl, rfl⟩⟩

section Keeps

variable {e e' : CeresSlidingWindowEstimator options} {imus : List ImuMeasurement}

/-- A sample goes to the end of the buffer while there is room. -/
theorem Keeps.addImu (h : Keeps e imus) (imu : ImuMeasurement) :
    Keeps (e.addImu imu).1 (imus ++ [imu]) := by
  constructor
  · show (if e.imuBuffer.length < maxImuBuffer then e.imuBuffer ++ [imu] else e.imuBuffer) = _
    rw [h.imuBuffer, List.length_take, List.take_append]
    by_cases hroom : imus.length < maxImuBuffer
    · have hone : maxImuBuffer - imus.length = (maxImuBuffer - imus.length - 1) + 1 := by omega
      rw [if_pos (by omega), hone, List.take_succ_cons, List.take_nil]
    · have hnone : maxImuBuffer - imus.length = 0 := by omega
      rw [if_neg (by omega), hnone, List.take_zero, List.append_nil]
  · intro hinit
    obtain ⟨hpreint, hactive⟩ := h.preint hinit
    refine ⟨?_, hactive⟩
    show (if e.preintActive then e.preint.integrate imu else e.preint) = {}
    rw [hactive, hpreint]
    rfl

/-- A fix leaves the buffer as it is. -/
theorem Keeps.addGnss (h : Keeps e imus) (lib : CeresLibrary) (gnss : GnssSolution) :
    Keeps (e.addGnss lib gnss).1 imus := by
  rcases addGnss_cases lib e gnss with
    ⟨_, heq⟩ | ⟨_, _, heq⟩ | ⟨_, hinit, ⟨_, heq⟩ | ⟨_, heq⟩⟩
  · rw [heq]
    exact h
  · rw [heq]
    exact ⟨h.imuBuffer, fun hfalse => absurd hfalse (by exact Bool.noConfusion)⟩
  · rw [heq]
    exact ⟨h.imuBuffer, fun hfalse => absurd (hfalse.symm.trans hinit) Bool.false_ne_true⟩
  · rw [heq]
    exact ⟨h.imuBuffer, fun hfalse => absurd (hfalse.symm.trans hinit) Bool.false_ne_true⟩

/-- **One call.** -/
theorem Keeps.step (h : Keeps e imus) {call : Call} (hstep : Step e call e') :
    Keeps e' (receivedAfter imus call) := by
  cases hstep with
  | addMeasurement lib m =>
    cases m with
    | imu imu => exact h.addImu imu
    | gnssSolution gnss => exact h.addGnss lib gnss
    | _ => exact h
  | processUntil timestamp => exact h
  | reset => exact keeps_new

/-- **Every run.** -/
theorem Keeps.run (h : Keeps e imus) {calls : List Call} (hrun : (system options).Run e calls e') :
    Keeps e' (calls.foldl receivedAfter imus) := by
  induction hrun generalizing imus with
  | nil e => exact h
  | cons hstep _ ih => exact ih (h.step hstep)

theorem Keeps.addImus (h : Keeps e imus) (later : List ImuMeasurement) :
    Keeps (e.addImus later) (imus ++ later) := by
  induction later generalizing e imus with
  | nil =>
    rw [List.append_nil]
    exact h
  | cons imu later ih =>
    rw [List.append_cons]
    exact ih (h.addImu imu)

end Keeps

/-! ### The first factor -/

section Factor

variable {e : CeresSlidingWindowEstimator options} {imus : List ImuMeasurement}
  {gnss : GnssSolution} {lib : CeresLibrary}

/-- Samples alone do not initialise. -/
theorem initialised_addImus (e : CeresSlidingWindowEstimator options)
    (imus : List ImuMeasurement) : (e.addImus imus).initialised = e.initialised := by
  induction imus generalizing e with
  | nil => rfl
  | cons imu imus ih => exact ih (e.addImu imu).1

/-- An active preintegrator takes every sample. -/
theorem preint_addImus (hactive : e.preintActive = true) (later : List ImuMeasurement) :
    (e.addImus later).preint = e.preint.integrateAll later := by
  induction later generalizing e with
  | nil => rfl
  | cons imu later ih =>
    have hstep : (e.addImu imu).1.preint = e.preint.integrate imu := if_pos hactive
    have hrest := ih (e := (e.addImu imu).1) hactive
    rw [hstep] at hrest
    exact hrest

/-- The first factor is integrated over the samples replayed, and those that came later. -/
theorem firstFactor_eq (h : Keeps e imus) (hinit : e.initialised = false)
    (hvalid : gnss.validity = .valid) (later : List ImuMeasurement) (t1 : Timestamp) :
    firstFactor lib e gnss later t1
      = ((({} : ImuPreintegrator).reset 0 0 gnss.timestamp).integrateAll
          (replayed e.imuBuffer gnss.timestamp ++ later)).finalize t1 := by
  have hfix : (e.addMeasurement lib (.gnssSolution gnss)).1 = (e.initFromGnss lib gnss).1 :=
    congrArg Prod.fst (addGnss_of_not_initialised hvalid hinit)
  have hpreint : (e.initFromGnss lib gnss).1.preint
      = (({} : ImuPreintegrator).reset 0 0 gnss.timestamp).integrateAll
          (replayed e.imuBuffer gnss.timestamp) := by
    rw [← (h.preint hinit).1]
    rfl
  rw [firstFactor, hfix, preint_addImus rfl, hpreint]
  exact congrArg (ImuPreintegrator.finalize · t1) List.foldl_append.symm

/-- For a punctual fix there is nothing to replay. -/
theorem punctualFactor_eq (hvalid : gnss.validity = .valid) (later : List ImuMeasurement)
    (t1 : Timestamp) :
    punctualFactor options lib imus gnss later t1
      = ((({} : ImuPreintegrator).reset 0 0 gnss.timestamp).integrateAll
          (fromFix gnss.timestamp imus ++ later)).finalize t1 := by
  have hnew : Keeps ({} : CeresSlidingWindowEstimator options) [] := keeps_new
  have hkeeps := hnew.addImus (beforeFix gnss.timestamp imus)
  rw [List.nil_append] at hkeeps
  have hnone : replayed (({} : CeresSlidingWindowEstimator options).addImus
      (beforeFix gnss.timestamp imus)).imuBuffer gnss.timestamp = [] := by
    rw [hkeeps.imuBuffer, replayed, List.filter_eq_nil_iff]
    intro imu himu
    have hbefore := (List.mem_filter.mp (List.mem_of_mem_take himu)).2
    simpa using hbefore
  rw [punctualFactor, firstFactor_eq hkeeps (initialised_addImus _ _) hvalid, hnone,
    List.nil_append]

/-- What is missing are the samples from the fix on that did not fit in the buffer. -/
theorem fromFix_eq (h : Keeps e imus) :
    fromFix gnss.timestamp imus
      = replayed e.imuBuffer gnss.timestamp ++ fromFix gnss.timestamp (imus.drop maxImuBuffer) := by
  rw [h.imuBuffer, replayed, fromFix, fromFix, ← List.filter_append, List.take_append_drop]

theorem replaysAll_iff_of_keeps (h : Keeps e imus) (hinit : e.initialised = false)
    (hvalid : gnss.validity = .valid) :
    ReplaysAll lib e imus gnss ↔
      ∀ imu ∈ imus.drop maxImuBuffer, compareTimestamps imu.timestamp gnss.timestamp = .before := by
  have hmissing : fromFix gnss.timestamp (imus.drop maxImuBuffer) = [] ↔
      ∀ imu ∈ imus.drop maxImuBuffer,
        compareTimestamps imu.timestamp gnss.timestamp = .before := by
    rw [fromFix, List.filter_eq_nil_iff]
    simp
  rw [← hmissing]
  have hsplit : fromFix gnss.timestamp imus = replayed e.imuBuffer gnss.timestamp ++
      fromFix gnss.timestamp (imus.drop maxImuBuffer) := fromFix_eq h
  constructor
  · intro hall
    rw [← hall.replay] at hsplit
    exact List.self_eq_append_right.mp hsplit
  · intro hnil
    rw [hnil, List.append_nil] at hsplit
    refine ⟨hsplit.symm, ?_⟩
    intro later t1
    rw [firstFactor_eq h hinit hvalid, punctualFactor_eq hvalid, hsplit]

end Factor

/-- **The samples replayed.** At the first valid fix of any run no sample from the fix on is missing
    exactly if all those that came when the buffer was full are before the fix. -/
theorem replaysAll_iff (lib : CeresLibrary) (calls : List Call)
    (e : CeresSlidingWindowEstimator options) (gnss : GnssSolution)
    (hrun : (system options).Run {} calls e) (hinit : e.initialised = false)
    (hvalid : gnss.validity = .valid) :
    ReplaysAll lib e (received calls) gnss ↔
      ∀ imu ∈ (received calls).drop maxImuBuffer,
        compareTimestamps imu.timestamp gnss.timestamp = .before :=
  replaysAll_iff_of_keeps (keeps_new.run hrun) hinit hvalid

/-- Samples, and then a fix. -/
theorem exists_run_addImus (lib : CeresLibrary) (e : CeresSlidingWindowEstimator options)
    (imus : List ImuMeasurement) :
    (system options).Run e (imus.map fun imu => .addMeasurement (.imu imu)) (e.addImus imus) := by
  induction imus generalizing e with
  | nil => exact .nil e
  | cons imu imus ih => exact .cons (.addMeasurement e lib (.imu imu)) (ih (e.addImu imu).1)

theorem received_imus (imus : List ImuMeasurement) :
    received (imus.map fun imu => Call.addMeasurement (.imu imu)) = imus := by
  have hfold : ∀ before : List ImuMeasurement,
      (imus.map fun imu => Call.addMeasurement (.imu imu)).foldl receivedAfter before
        = before ++ imus := by
    intro before
    induction imus generalizing before with
    | nil => exact (List.append_nil before).symm
    | cons imu imus ih =>
      rw [List.map_cons, List.foldl_cons, receivedAfter, ih, List.append_assoc]
      rfl
  exact hfold []

/-- `n` samples of millisecond 0, and one of millisecond 2. -/
def lateSamples (n : ℕ) : List ImuMeasurement := List.replicate n (sampleAt 0) ++ [sampleAt 2]

/-- With room in the buffer the late sample is replayed. -/
theorem replaysAll_iff_one :
    ReplaysAll idleLibrary (({} : CeresSlidingWindowEstimator {}).addImus (lateSamples 1))
      (lateSamples 1) (fixAt 1) := by
  have hiff := replaysAll_iff idleLibrary _ _ (fixAt 1)
    (exists_run_addImus idleLibrary ({} : CeresSlidingWindowEstimator {}) (lateSamples 1)) rfl rfl
  rw [received_imus] at hiff
  refine hiff.mpr ?_
  intro imu himu
  cases himu

/-- **A late fix.** The buffer is full at the last sample, the only one after the fix. -/
theorem not_replaysAll_late :
    ¬ ∀ (lib : CeresLibrary) (calls : List Call) (e : CeresSlidingWindowEstimator {})
        (gnss : GnssSolution), (system {}).Run {} calls e → e.initialised = false →
        gnss.validity = .valid → ReplaysAll lib e (received calls) gnss := by
  intro hall
  have hrun := exists_run_addImus idleLibrary ({} : CeresSlidingWindowEstimator {})
    (lateSamples maxImuBuffer)
  have hinit := initialised_addImus ({} : CeresSlidingWindowEstimator {}) (lateSamples maxImuBuffer)
  have hnew : Keeps ({} : CeresSlidingWindowEstimator {}) [] := keeps_new
  have hkeeps := hnew.run hrun
  have hreplays := hall idleLibrary _ _ (fixAt 1) hrun hinit rfl
  have hbefore := (replaysAll_iff_of_keeps hkeeps hinit rfl).mp hreplays
  change ∀ imu ∈ (received _).drop maxImuBuffer, _ at hbefore
  rw [received_imus, lateSamples, List.drop_append_of_le_length (by simp), List.drop_replicate,
    Nat.sub_self] at hbefore
  have hlast := hbefore (sampleAt 2) (by simp)
  revert hlast
  decide

end CeresSlidingWindowEstimator

end FalconGuide
