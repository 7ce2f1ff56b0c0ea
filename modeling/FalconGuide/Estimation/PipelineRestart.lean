import FalconGuide.Estimation.PipelineDelivery

namespace FalconGuide

open Lib

/-!
# Starting a pipeline again

`Stop` shuts the queue down and nothing resets it, while `Start` only looks at `running_`.

* `ShutInv` — once a queue is shut down and drained it stays empty;
* `Accepting` — what a running pipeline is meant to offer;
* `accepting_iff_not_stopped` — it does so exactly when no `Stop` came after a `Start`.
-/

namespace EstimatorPipeline

variable {E M N ι : Type*} [DecidableEq ι]

/-- The result of a call of `Push` that no other thread interrupts. -/
def pushResult (s : EstimatorPipeline E M N ι) (m : M) : Bool :=
  if s.running then (s.queue.push ⟨s.nextId, m⟩).2 else false

/-- An idle producer can call `Push` and be told `pushResult`. -/
theorem exists_steps_pushResult {est : NavigationEstimator E M N} {observers capacity : ℕ}
    {e : E} (s : EstimatorPipeline E M N ι) (i : ι) (m : M) (hi : s.producers i = .idle) :
    ∃ t, (system est observers capacity e).Steps s t ∧
      t.returned = s.returned ++ [(⟨s.nextId, m⟩, s.pushResult m)] := by
  cases hr : s.running with
  | false =>
    refine ⟨_, System.Steps.single (Step.pushRefused s i m hi hr), ?_⟩
    simp [pushResult, hr]
  | true =>
    have hchecked : Step est observers s _ _ := Step.pushChecked s i m hi hr
    refine ⟨_, .tail (System.Steps.single hchecked)
      ⟨.enqueue i, Step.enqueue _ i ⟨s.nextId, m⟩ (Function.update_self _ _ _)⟩, ?_⟩
    simp [pushResult, hr]

/-- A running pipeline whose worker is in its loop and whose `Push` fails only on a full
    queue. -/
structure Accepting (s : EstimatorPipeline E M N ι) : Prop where
  inLoop : s.thread ≠ .notJoinable ∧ s.thread ≠ .returned
  push : ¬ s.queue.Full → ∀ m, s.pushResult m = true

/-! ### A drained queue stays empty -/

/-- After a shutdown the queue is empty, except while `Stop` waits for the worker to drain
    it. -/
def ShutInv (s : EstimatorPipeline E M N ι) : Prop :=
  s.queue.shutdown = true → s.control ≠ .joining → s.queue.queue = []

/-- One step keeps a drained queue empty. -/
theorem ShutInv.step {est : NavigationEstimator E M N} {observers : ℕ}
    {s t : EstimatorPipeline E M N ι} {a : Action M ι} (hinv : Inv s) (h : ShutInv s)
    (hst : Step est observers s a t) : ShutInv t := by
  cases hst with
  | pushRefused i m hi hr => exact h
  | pushChecked i m hi hr => exact h
  | enqueue i c hi =>
    intro hs hc
    rcases s.queue.push_cases c with ⟨hp, -⟩ | ⟨-, hs', -⟩
    · simp only [hp] at hs ⊢
      exact h hs hc
    · simp [hs'] at hs
  | startRefused hc hr => exact h
  | startExchange hc hr => exact fun hs _ => h hs (by simp [hc])
  | spawn hc ht => exact fun hs _ => h hs (by simp [hc])
  | stopRefused hc hr => exact h
  | stopExchange hc hr => exact fun hs _ => h hs (by simp [hc])
  | requestShutdown hc => exact fun _ hc' => absurd rfl hc'
  | join hc ht => exact fun _ _ => (hinv.returned ht).2
  | pop c q ht hq =>
    rcases MeasurementQueue.pop_cases hq with ⟨hn, -⟩ | ⟨m, rest, -, hqueue, rfl⟩
    · cases hn
    · intro hs hc
      have hemp := h hs hc
      rw [hqueue] at hemp
      cases hemp
  | exit q ht hq =>
    rcases MeasurementQueue.pop_cases hq with ⟨-, rfl, hemp, -⟩ | ⟨_, _, hn, _⟩
    · exact fun _ _ => hemp
    · cases hn
  | add c ht => exact h
  | notify state k ht hk => exact h
  | notified state k ht hk => exact h

section Reachable

variable {est : NavigationEstimator E M N} {observers capacity : ℕ} {e : E}
  {s : EstimatorPipeline E M N ι}

/-- A drained queue stays empty in every run. -/
theorem reachable_shutInv (h : (system est observers capacity e).Reachable s) : ShutInv s := by
  refine h.invariant ?_ (fun _ _ _ hr hs hst => hs.step (reachable_inv hr) hst)
  rintro s rfl
  exact fun hs => by simp [constructed] at hs

/-- The capacity is the one the pipeline was constructed with. -/
theorem queue_capacity_eq (h : (system est observers capacity e).Reachable s) :
    s.queue.capacity = capacity := by
  obtain ⟨_, -, hR⟩ := (simulates_channel est observers capacity e).exists_related h
  exact hR.capacity

/-- With no lifecycle call in progress, the queue is shut down exactly when a `Stop` came
    after a `Start`. -/
theorem stopped_iff_shutdown (h : (system est observers capacity e).Reachable s)
    (hidle : s.control = .idle) :
    [.start, .stop].Sublist s.calls ↔ s.queue.shutdown = true := by
  rw [(reachable_inv h).stopped, hidle]
  simp

/-- A running pipeline that was never shut down is accepting. -/
theorem accepting_of_open (h : (system est observers capacity e).Reachable s)
    (hidle : s.control = .idle) (hrun : s.running = true) (hshut : s.queue.shutdown = false) :
    Accepting s := by
  have hinv := reachable_inv h
  refine ⟨⟨fun hnj => ?_, fun hret => ?_⟩, fun hfull m => ?_⟩
  · have hstopped := (hinv.idle hidle).mp hnj
    rw [hrun] at hstopped
    cases hstopped
  · have hdown := (hinv.returned hret).1
    rw [hshut] at hdown
    cases hdown
  · rw [pushResult, if_pos hrun, MeasurementQueue.push_eq_true_iff]
    exact ⟨hshut, hfull⟩

omit [DecidableEq ι] in
/-- A pipeline whose queue was shut down refuses every measurement. -/
theorem pushResult_of_shutdown (hshut : s.queue.shutdown = true) (m : M) :
    s.pushResult m = false := by
  have hq : ¬ (s.queue.push ⟨s.nextId, m⟩).2 = true := by
    rw [MeasurementQueue.push_eq_true_iff, hshut]
    simp
  simp [pushResult, hq]

end Reachable

/-- **Restart.** Take a reachable state with no lifecycle call in progress and `IsRunning()`.
    If no `Stop` came after a `Start`, the worker is in its loop and `Push` succeeds unless
    the queue is full.  If one did, every `Push` fails, so a pipeline whose queue can hold
    anything is accepting only in the first case. -/
theorem accepting_iff_not_stopped (est : NavigationEstimator E M N) (observers capacity : ℕ)
    (e : E) (s : EstimatorPipeline E M N ι)
    (h : (system est observers capacity e).Reachable s) (hidle : s.control = .idle)
    (hrun : s.running = true) :
    (¬ [.start, .stop].Sublist s.calls → Accepting s) ∧
    ([.start, .stop].Sublist s.calls → ∀ m, s.pushResult m = false) ∧
    (0 < capacity → Nonempty M → (Accepting s ↔ ¬ [.start, .stop].Sublist s.calls)) := by
  have hiff := stopped_iff_shutdown h hidle
  have hgood : ¬ [.start, .stop].Sublist s.calls → Accepting s := fun hns =>
    accepting_of_open h hidle hrun (by simpa [hiff] using hns)
  have hbad : [.start, .stop].Sublist s.calls → ∀ m, s.pushResult m = false := fun hs =>
    pushResult_of_shutdown (hiff.mp hs)
  refine ⟨hgood, hbad, fun hcap ⟨m⟩ => ⟨fun hacc hs => ?_, hgood⟩⟩
  -- the drained queue has room, so an accepting pipeline would take `m`
  have hempty := reachable_shutInv h (hiff.mp hs) (by simp [hidle])
  have hroom : ¬ s.queue.Full := by
    rw [MeasurementQueue.Full, hempty, queue_capacity_eq h]
    simpa using hcap.ne'
  exact absurd (hacc.push hroom m) (by simp [hbad hs m])

/-- `accepting_iff_not_stopped` after a first `Start`. -/
theorem accepting_after_start :
    ∃ s : EstimatorPipeline ℕ ℕ ℕ Unit, s.calls = [.start] ∧ s.control = .idle ∧
      Accepting s := by
  have hinit : (system summing 1 1 0).Reachable (constructed (ι := Unit) 1 0) := .init rfl
  have hstart := (hinit.step (Step.startExchange _ rfl rfl)).step (Step.spawn _ rfl rfl)
  exact ⟨_, rfl, rfl,
    (accepting_iff_not_stopped summing 1 1 0 _ hstart rfl rfl).1 (by simp [constructed])⟩

/-- The state after `Start`, `Stop`, `Start`, with the second worker gone. -/
def afterRestart : EstimatorPipeline ℕ ℕ ℕ Unit where
  queue := { capacity := 1, shutdown := true }
  running := true
  thread := .returned
  estimator := 0
  producers := fun _ => .idle
  calls := [.start, .stop, .start]

/-- After `Start`, `Stop`, `Start` the pipeline reports that it is running, its worker has
    left the loop and an empty queue refuses every measurement. -/
theorem not_accepting_after_restart :
    (system summing 1 1 0).Reachable afterRestart ∧ afterRestart.control = .idle ∧
      afterRestart.running = true ∧ afterRestart.thread = .returned ∧
      ¬ afterRestart.queue.Full ∧ ∀ m, afterRestart.pushResult m = false := by
  have hinit : (system summing 1 1 0).Reachable (constructed (ι := Unit) 1 0) := .init rfl
  have hstart := (hinit.step (Step.startExchange _ rfl rfl)).step (Step.spawn _ rfl rfl)
  have hstop := (hstart.step (Step.stopExchange _ rfl rfl)).step (Step.requestShutdown _ rfl)
  have hjoin := (hstop.step (Step.exit _ _ rfl rfl)).step (Step.join _ rfl rfl)
  have hagain := (hjoin.step (Step.startExchange _ rfl rfl)).step (Step.spawn _ rfl rfl)
  exact ⟨hagain.step (Step.exit _ _ rfl rfl), rfl, rfl, rfl, by decide, fun _ => rfl⟩

end EstimatorPipeline

end FalconGuide
