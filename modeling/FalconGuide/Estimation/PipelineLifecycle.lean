import FalconGuide.Estimation.PipelineRestart
import Mathlib.Data.List.Induction

namespace FalconGuide

open Lib

/-!
# The pipeline as its owner sees it

Between lifecycle calls the owner of a pipeline can tell two things apart: whether it is
running, and whether its queue was shut down.

* `PipelineState` — these two flags, with `start` and `stop`;
* `EstimatorPipeline.lifecycle_eq` — they are what the interleaved model computes;
* `EstimatorPipeline.accepting_of_accepts` — `PipelineState.accepts` means what it says.
-/

/-- A pipeline between lifecycle calls. -/
structure PipelineState where
  running : Bool := false
  shutdown : Bool := false
  deriving DecidableEq, Repr

namespace PipelineState

/-- `Start`. -/
def start (p : PipelineState) : PipelineState := { p with running := true }

/-- `Stop`. -/
def stop (p : PipelineState) : PipelineState :=
  if p.running then { running := false, shutdown := true } else p

/-- A measurement that is pushed is taken, unless the queue is full. -/
def accepts (p : PipelineState) : Bool := p.running && !p.shutdown

/-- The pipeline after one more lifecycle call. -/
def call (p : PipelineState) : LifecycleCall → PipelineState
  | .start => p.start
  | .stop => p.stop

@[simp] theorem start_running (p : PipelineState) : p.start.running = true := rfl
@[simp] theorem start_shutdown (p : PipelineState) : p.start.shutdown = p.shutdown := rfl
@[simp] theorem stop_running (p : PipelineState) : p.stop.running = false := by
  cases hr : p.running <;> simp [stop, hr]

@[simp] theorem accepts_eq_true_iff (p : PipelineState) :
    p.accepts = true ↔ p.running = true ∧ p.shutdown = false := by
  simp [accepts]

/-- The pipeline after a history of lifecycle calls: it runs when the last one was a `Start`,
    and is shut down when a `Stop` came after a `Start`. -/
theorem foldl_call (cs : List LifecycleCall) :
    ((cs.foldl call {}).running = true ↔ cs.getLast? = some .start) ∧
    ((cs.foldl call {}).shutdown = true ↔ [.start, .stop].Sublist cs) ∧
    (.start ∈ cs ↔ (cs.foldl call {}).running = true ∨ (cs.foldl call {}).shutdown = true) := by
  induction cs using List.reverseRecOn with
  | nil => simp
  | append_singleton cs c ih =>
    obtain ⟨-, hshut, hmem⟩ := ih
    rw [List.foldl_append]
    cases c with
    | start =>
      refine ⟨by simp [call], ?_, by simp [call]⟩
      rw [EstimatorPipeline.sublist_append_start, ← hshut]
      rfl
    | stop =>
      rw [EstimatorPipeline.sublist_append_stop, hmem]
      show ((cs.foldl call {}).stop.running = true ↔ _) ∧
        ((cs.foldl call {}).stop.shutdown = true ↔ _) ∧ (_ ↔ (cs.foldl call {}).stop.running =
          true ∨ (cs.foldl call {}).stop.shutdown = true)
      rcases hr : (cs.foldl call {}).running <;> simp [stop, hr, hmem]

end PipelineState

namespace EstimatorPipeline

variable {E M N ι : Type*} [DecidableEq ι] {est : NavigationEstimator E M N}
  {observers capacity : ℕ} {e : E} {s : EstimatorPipeline E M N ι}

/-- With no lifecycle call in progress, the two flags are what the calls so far make of a new
    pipeline. -/
theorem lifecycle_eq (h : (system est observers capacity e).Reachable s)
    (hidle : s.control = .idle) :
    (⟨s.running, s.queue.shutdown⟩ : PipelineState) = s.calls.foldl PipelineState.call {} := by
  obtain ⟨hrun, hshut, -⟩ := PipelineState.foldl_call s.calls
  have hrun' := (reachable_inv h).last.trans hrun.symm
  have hshut' := (stopped_iff_shutdown h hidle).symm.trans hshut.symm
  generalize s.calls.foldl PipelineState.call {} = p at hrun' hshut'
  rw [Bool.eq_iff_iff.mpr hrun', Bool.eq_iff_iff.mpr hshut']

/-- With no lifecycle call in progress, a pipeline that accepts is accepting. -/
theorem accepting_of_accepts (h : (system est observers capacity e).Reachable s)
    (hidle : s.control = .idle)
    (hacc : (s.calls.foldl PipelineState.call {}).accepts = true) : Accepting s := by
  rw [← lifecycle_eq h hidle, PipelineState.accepts_eq_true_iff] at hacc
  exact accepting_of_open h hidle hacc.1 hacc.2

end EstimatorPipeline

end FalconGuide
