import Mathlib.Data.Real.Basic

namespace FalconGuide

/-!
# The backend-neutral estimator interface

* `EstimatorUpdateResult` / `MeasurementUpdateReport` — what submitting a measurement returns;
* `NavigationEstimator` — the part of `INavigationEstimator` the pipeline uses: the backend's
  state, its `AddMeasurement` and its `LatestState`;
* `NavigationEstimator.run` / `NavigationEstimator.published` — the backend state after a
  sequence of measurements, and the navigation states that sequence makes available.
-/

/-- Result of submitting a measurement or processing to a timestamp. -/
inductive EstimatorUpdateResult
  | accepted
  | buffered
  | rejected
  | outOfOrder
  | notInitialized
  | backendError
  deriving DecidableEq, Repr

/-- The report of `AddMeasurement`.  The correction norm is set on `accepted` only. -/
structure MeasurementUpdateReport where
  result : EstimatorUpdateResult := .rejected
  modelName : String := ""
  correctionNorm : Option ℝ := none

/-- An estimator backend with state `E`, over measurements `M` and navigation states `N`. -/
structure NavigationEstimator (E M N : Type*) where
  addMeasurement : E → M → E × MeasurementUpdateReport
  latestState : E → Option N

namespace NavigationEstimator

variable {E M N : Type*} (est : NavigationEstimator E M N)

/-- The backend state after the measurements `ms`. -/
def run (e : E) (ms : List M) : E := ms.foldl (fun e m => (est.addMeasurement e m).1) e

/-- What one measurement publishes: the state right after it, when its report is `accepted`
    and a state is present. -/
def publish (e : E) (m : M) : List N :=
  if (est.addMeasurement e m).2.result = .accepted then
    (est.latestState (est.addMeasurement e m).1).toList
  else []

/-- The states published by a sequence of measurements, in order. -/
def published (e : E) : List M → List N
  | [] => []
  | m :: ms => est.publish e m ++ published (est.addMeasurement e m).1 ms

@[simp] theorem run_nil (e : E) : est.run e [] = e := rfl

@[simp] theorem run_append_singleton (e : E) (ms : List M) (m : M) :
    est.run e (ms ++ [m]) = (est.addMeasurement (est.run e ms) m).1 := by
  simp [run]

@[simp] theorem published_nil (e : E) : est.published e [] = [] := rfl

/-- A further measurement publishes what it publishes in the state the earlier ones left. -/
theorem published_append_singleton (e : E) (ms : List M) (m : M) :
    est.published e (ms ++ [m]) = est.published e ms ++ est.publish (est.run e ms) m := by
  induction ms generalizing e with
  | nil => simp [published]
  | cons x ms ih => simp [published, ih, run]

end NavigationEstimator

end FalconGuide
