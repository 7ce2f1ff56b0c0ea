import FalconGuide.Estimation.EstimatorInterface
import FalconGuide.Estimation.MeasurementQueue
import FalconGuide.Lib.TransitionSystem

namespace FalconGuide

open Lib

/-!
# The estimator pipeline as interleaved threads

Producer threads call `Push`, one control thread calls `Start` and `Stop` (never two of these
at once), and the worker runs `RunLoop`.  Every atomic access is one step:

* `Push` loads `running_` outside the queue lock (`Step.push`) and takes the lock later
  (`Step.enqueue`);
* `Start` is the exchange on `running_` followed by the creation of the thread;
* `Stop` is the exchange, `RequestShutdown` and the join;
* `RunLoop` pops, submits the measurement, and notifies the observers one by one.

`calls`, `nextId`, `returned`, `processed` and `notified` are history: no step reads them.
-/

/-- One call of `Push`.  The id tells calls with equal measurements apart. -/
structure PushCall (M : Type*) where
  id : ℕ
  measurement : M
  deriving DecidableEq

/-- A producer thread: outside `Push`, or past the check of `running_` and before the queue
    lock. -/
inductive Producer (M : Type*)
  | idle
  | checked (c : PushCall M)

/-- The worker thread `thread_`. -/
inductive Worker (M N : Type*)
  /-- No thread to join. -/
  | notJoinable
  /-- At the `Pop` of the loop head. -/
  | popping
  /-- Popped a measurement, about to call `AddMeasurement`. -/
  | adding (c : PushCall M)
  /-- In `NotifyObservers`, about to call observer number `next`. -/
  | notifying (state : N) (next : ℕ)
  /-- Returned from `RunLoop`, not yet joined. -/
  | returned

/-- Where the control thread is inside `Start` or `Stop`. -/
inductive Control
  | idle
  /-- `Start`, `running_` exchanged, thread not yet created. -/
  | starting
  /-- `Stop`, `running_` exchanged, shutdown not yet requested. -/
  | stopping
  /-- `Stop`, at the join. -/
  | joining
  deriving DecidableEq

/-- A public lifecycle call. -/
inductive LifecycleCall
  | start
  | stop
  deriving DecidableEq

/-- The state of the pipeline and of the threads using it. -/
structure EstimatorPipeline (E M N ι : Type*) where
  queue : MeasurementQueue (PushCall M)
  running : Bool := false
  thread : Worker M N := .notJoinable
  estimator : E
  control : Control := .idle
  producers : ι → Producer M := fun _ => .idle
  /-- The lifecycle calls made so far. -/
  calls : List LifecycleCall := []
  nextId : ℕ := 0
  /-- The results of `Push`, in the order in which they were decided. -/
  returned : List (PushCall M × Bool) := []
  /-- The calls whose measurement was passed to `AddMeasurement`. -/
  processed : List (PushCall M) := []
  /-- The `OnNavigationState` calls: observer number and state. -/
  notified : List (ℕ × N) := []

namespace EstimatorPipeline

variable {E M N ι : Type*} [DecidableEq ι]

/-- The measurements for which `Push` returned true, in the order they entered the queue. -/
def accepted (s : EstimatorPipeline E M N ι) : List (PushCall M) :=
  (s.returned.filter (·.2)).map (·.1)

/-- The states observer number `k` received. -/
def seenBy (s : EstimatorPipeline E M N ι) (k : ℕ) : List N :=
  (s.notified.filter (fun p => p.1 = k)).map (·.2)

/-- What `RunLoop` does after `AddMeasurement` returned `r` and left the backend in `e`. -/
def afterAdd (est : NavigationEstimator E M N) (e : E) (r : MeasurementUpdateReport) :
    Worker M N :=
  if r.result = .accepted then
    match est.latestState e with
    | some state => .notifying state 0
    | none => .popping
  else .popping

/-- What the threads can do. -/
inductive Action (M ι : Type*)
  | push (i : ι) (m : M)
  | enqueue (i : ι)
  | start
  | spawn
  | stop
  | requestShutdown
  | join
  | work

/-- One atomic step of one thread, with `observers` registered observers. -/
inductive Step (est : NavigationEstimator E M N) (observers : ℕ) :
    EstimatorPipeline E M N ι → Action M ι → EstimatorPipeline E M N ι → Prop
  /-- `Push` reads `running_ == false` and returns false. -/
  | pushRefused (s) (i : ι) (m : M) (hi : s.producers i = .idle) (hr : s.running = false) :
      Step est observers s (.push i m)
        { s with
          nextId := s.nextId + 1
          returned := s.returned ++ [(⟨s.nextId, m⟩, false)] }
  /-- `Push` reads `running_ == true` and goes on to the queue. -/
  | pushChecked (s) (i : ι) (m : M) (hi : s.producers i = .idle) (hr : s.running = true) :
      Step est observers s (.push i m)
        { s with
          nextId := s.nextId + 1
          producers := Function.update s.producers i (.checked ⟨s.nextId, m⟩) }
  /-- `queue_.Push` under the lock; its result is what `Push` returns. -/
  | enqueue (s) (i : ι) (c : PushCall M) (hi : s.producers i = .checked c) :
      Step est observers s (.enqueue i)
        { s with
          queue := (s.queue.push c).1
          producers := Function.update s.producers i .idle
          returned := s.returned ++ [(c, (s.queue.push c).2)] }
  /-- `Start` on a running pipeline returns at once. -/
  | startRefused (s) (hc : s.control = .idle) (hr : s.running = true) :
      Step est observers s .start { s with calls := s.calls ++ [.start] }
  | startExchange (s) (hc : s.control = .idle) (hr : s.running = false) :
      Step est observers s .start
        { s with running := true, control := .starting, calls := s.calls ++ [.start] }
  /-- Assigning to a joinable `thread_` would terminate the process; `Inv.starting` shows
      that `Start` never does. -/
  | spawn (s) (hc : s.control = .starting) (ht : s.thread = .notJoinable) :
      Step est observers s .spawn { s with thread := .popping, control := .idle }
  /-- `Stop` on a pipeline that is not running returns at once. -/
  | stopRefused (s) (hc : s.control = .idle) (hr : s.running = false) :
      Step est observers s .stop { s with calls := s.calls ++ [.stop] }
  | stopExchange (s) (hc : s.control = .idle) (hr : s.running = true) :
      Step est observers s .stop
        { s with running := false, control := .stopping, calls := s.calls ++ [.stop] }
  | requestShutdown (s) (hc : s.control = .stopping) :
      Step est observers s .requestShutdown
        { s with queue := s.queue.requestShutdown, control := .joining }
  /-- The join returns once the worker has; `Stop` returns. -/
  | join (s) (hc : s.control = .joining) (ht : s.thread = .returned) :
      Step est observers s .join { s with thread := .notJoinable, control := .idle }
  /-- The worker pops a measurement. -/
  | pop (s) (c : PushCall M) (q : MeasurementQueue (PushCall M)) (ht : s.thread = .popping)
      (hq : s.queue.pop = some (some c, q)) :
      Step est observers s .work { s with queue := q, thread := .adding c }
  /-- `Pop` returned `std::nullopt`: the worker leaves the loop. -/
  | exit (s) (q : MeasurementQueue (PushCall M)) (ht : s.thread = .popping)
      (hq : s.queue.pop = some (none, q)) :
      Step est observers s .work { s with queue := q, thread := .returned }
  | add (s) (c : PushCall M) (ht : s.thread = .adding c) :
      Step est observers s .work
        { s with
          estimator := (est.addMeasurement s.estimator c.measurement).1
          processed := s.processed ++ [c]
          thread := afterAdd est (est.addMeasurement s.estimator c.measurement).1
            (est.addMeasurement s.estimator c.measurement).2 }
  | notify (s) (state : N) (k : ℕ) (ht : s.thread = .notifying state k) (hk : k < observers) :
      Step est observers s .work
        { s with notified := s.notified ++ [(k, state)], thread := .notifying state (k + 1) }
  | notified (s) (state : N) (k : ℕ) (ht : s.thread = .notifying state k)
      (hk : observers ≤ k) :
      Step est observers s .work { s with thread := .popping }

/-- A pipeline constructed around the backend state `e`, with the given queue capacity. -/
def constructed (capacity : ℕ) (e : E) : EstimatorPipeline E M N ι where
  queue := { capacity := capacity }
  estimator := e

/-- The pipeline with `observers` observers and the threads using it. -/
def system (est : NavigationEstimator E M N) (observers capacity : ℕ) (e : E) :
    System (EstimatorPipeline E M N ι) (Action M ι) where
  init s := s = constructed capacity e
  step := Step est observers

/-! ### The lifecycle invariant -/

/-- How `running_`, the thread, the shutdown flag and the position of the control thread hang
    together, over any number of `Start` and `Stop` calls. -/
structure Inv (s : EstimatorPipeline E M N ι) : Prop where
  /-- The thread is joinable while running and not otherwise. -/
  idle : s.control = .idle → (s.thread = .notJoinable ↔ s.running = false)
  starting : s.control = .starting → s.thread = .notJoinable ∧ s.running = true
  stopping : s.control = .stopping → s.running = false
  joining : s.control = .joining → s.running = false ∧ s.queue.shutdown = true
  /-- The worker leaves its loop only when shut down and with nothing left to process. -/
  returned : s.thread = .returned → s.queue.shutdown = true ∧ s.queue.queue = []
  /-- Between a `Stop` and a `Start`, and before the first `Start`, nothing is queued and
      nothing can get in. -/
  quiet : s.control = .idle → s.running = false →
    s.queue.queue = [] ∧ (s.queue.shutdown = true ∨ ∀ i, s.producers i = .idle)
  /-- The pipeline is running when the last lifecycle call was a `Start`. -/
  last : s.running = true ↔ s.calls.getLast? = some .start
  /-- A thread that was shut down was started before. -/
  started : .start ∈ s.calls ↔
    s.running = true ∨ s.queue.shutdown = true ∨ s.control = .stopping
  /-- The queue is shut down exactly when a `Stop` came after a `Start`. -/
  stopped : [.start, .stop].Sublist s.calls ↔
    s.queue.shutdown = true ∨ s.control = .stopping

omit [DecidableEq ι] in
theorem inv_constructed (capacity : ℕ) (e : E) :
    Inv (constructed capacity e : EstimatorPipeline E M N ι) := by
  constructor <;> simp [constructed]

/-- A further `start` does not make `[start, stop]` a sublist of the history. -/
theorem sublist_append_start (cs : List LifecycleCall) :
    [LifecycleCall.start, .stop].Sublist (cs ++ [.start]) ↔
      [LifecycleCall.start, .stop].Sublist cs := by
  rw [← List.reverse_sublist, List.reverse_append, ← @List.reverse_sublist _ _ cs]
  simp [List.sublist_cons_iff]

/-- A further `stop` makes `[start, stop]` a sublist exactly when the history has a
    `start`. -/
theorem sublist_append_stop (cs : List LifecycleCall) :
    [LifecycleCall.start, .stop].Sublist (cs ++ [.stop]) ↔ .start ∈ cs := by
  rw [← List.reverse_sublist, List.reverse_append]
  simp

omit [DecidableEq ι] in
/-- After `AddMeasurement` the worker goes on notifying or popping. -/
theorem afterAdd_cases (est : NavigationEstimator E M N) (e : E) (r : MeasurementUpdateReport) :
    afterAdd est e r = .popping ∨ ∃ state, afterAdd est e r = .notifying state 0 := by
  unfold afterAdd
  split
  · split
    · exact .inr ⟨_, rfl⟩
    · exact .inl rfl
  · exact .inl rfl

omit [DecidableEq ι] in
/-- A step of the worker that neither leaves the loop nor touches the shutdown flag keeps the
    invariant. -/
theorem Inv.worker {s t : EstimatorPipeline E M N ι} (h : Inv s)
    (hs : s.thread ≠ .notJoinable) (ht : t.thread ≠ .notJoinable ∧ t.thread ≠ .returned)
    (hrun : t.running = s.running) (hctl : t.control = s.control) (hcalls : t.calls = s.calls)
    (hshut : t.queue.shutdown = s.queue.shutdown) : Inv t where
  idle hc := by
    have := h.idle (hctl ▸ hc)
    rw [hrun, ← this]
    exact iff_of_false ht.1 hs
  starting hc := absurd (h.starting (hctl ▸ hc)).1 hs
  stopping hc := hrun ▸ h.stopping (hctl ▸ hc)
  joining hc := by
    rw [hrun, hshut]
    exact h.joining (hctl ▸ hc)
  returned hr := absurd hr ht.2
  quiet hc hr := absurd ((h.idle (hctl ▸ hc)).mpr (hrun ▸ hr)) hs
  last := by rw [hcalls, hrun]; exact h.last
  started := by rw [hcalls, hrun, hshut, hctl]; exact h.started
  stopped := by rw [hcalls, hshut, hctl]; exact h.stopped

/-- One step keeps the lifecycle invariant. -/
theorem Inv.step {est : NavigationEstimator E M N} {observers : ℕ}
    {s t : EstimatorPipeline E M N ι} {a : Action M ι} (h : Inv s)
    (hst : Step est observers s a t) : Inv t := by
  cases hst with
  | pushRefused i m hi hr =>
    exact ⟨h.idle, h.starting, h.stopping, h.joining, h.returned, h.quiet, h.last, h.started,
      h.stopped⟩
  | pushChecked i m hi hr =>
    refine ⟨h.idle, h.starting, h.stopping, h.joining, h.returned, ?_, h.last, h.started,
      h.stopped⟩
    intro _ hr'
    exact absurd (hr.symm.trans hr') (by simp)
  | enqueue i c hi =>
    -- once shut down the push is refused; before that nothing below mentions the items
    have hkeep : s.queue.shutdown = true → (s.queue.push c).1 = s.queue := by
      intro hs
      rcases s.queue.push_cases c with ⟨hp, -⟩ | ⟨-, hs', -⟩
      · rw [hp]
      · exact absurd (hs.symm.trans hs') (by simp)
    refine ⟨h.idle, h.starting, h.stopping, ?_, ?_, ?_, h.last, ?_, ?_⟩
    · simpa using h.joining
    · intro hr
      obtain ⟨hs, hq⟩ := h.returned hr
      rw [hkeep hs]
      exact ⟨hs, hq⟩
    · intro hc hr
      obtain ⟨hq, hs | hp⟩ := h.quiet hc hr
      · rw [hkeep hs]
        exact ⟨hq, .inl hs⟩
      · exact absurd (hi.symm.trans (hp i)) (by simp)
    · simpa using h.started
    · simpa using h.stopped
  | startRefused hc hr =>
    refine ⟨h.idle, h.starting, h.stopping, h.joining, h.returned, h.quiet, ?_, ?_, ?_⟩
    · simp [hr]
    · simp [hr]
    · rw [sublist_append_start]
      exact h.stopped
  | startExchange hc hr =>
    have hnj := (h.idle hc).mpr hr
    refine ⟨?_, ?_, ?_, ?_, h.returned, ?_, ?_, ?_, ?_⟩
    · simp
    · exact fun _ => ⟨hnj, rfl⟩
    · simp
    · simp
    · simp
    · simp
    · simp
    · rw [sublist_append_start, h.stopped]
      simp [hc]
  | spawn hc ht =>
    have hrun := (h.starting hc).2
    refine ⟨?_, ?_, ?_, ?_, ?_, ?_, h.last, ?_, ?_⟩
    · simp [hrun]
    · simp
    · simp
    · simp
    · simp
    · simp [hrun]
    · simpa [hrun] using h.started
    · simpa [hc] using h.stopped
  | stopRefused hc hr =>
    refine ⟨h.idle, h.starting, h.stopping, h.joining, h.returned, h.quiet, ?_, ?_, ?_⟩
    · simp [hr]
    · simpa using h.started
    · rw [sublist_append_stop, h.started]
      simp [hr, hc]
  | stopExchange hc hr =>
    refine ⟨?_, ?_, ?_, ?_, h.returned, ?_, ?_, ?_, ?_⟩
    · simp
    · simp
    · simp
    · simp
    · simp
    · simp
    · simp [h.started, hr]
    · simp [sublist_append_stop, h.started, hr]
  | requestShutdown hc =>
    have hrun := h.stopping hc
    refine ⟨?_, ?_, ?_, ?_, ?_, ?_, h.last, ?_, ?_⟩
    · simp
    · simp
    · simp
    · simp [hrun]
    · intro hr
      exact ⟨rfl, (h.returned hr).2⟩
    · simp
    · simpa [hc] using h.started
    · simpa [hc] using h.stopped
  | join hc ht =>
    obtain ⟨hrun, hshut⟩ := h.joining hc
    refine ⟨?_, ?_, ?_, ?_, ?_, ?_, h.last, ?_, ?_⟩
    · simp [hrun]
    · simp
    · simp
    · simp
    · simp
    · exact fun _ _ => ⟨(h.returned ht).2, .inl hshut⟩
    · simpa [hshut] using h.started
    · simpa [hshut] using h.stopped
  | pop c q ht hq =>
    rcases MeasurementQueue.pop_cases hq with ⟨hn, -⟩ | ⟨_, _, _, _, rfl⟩
    · cases hn
    · exact h.worker (by simp [ht]) (by simp) rfl rfl rfl rfl
  | exit q ht hq =>
    rcases MeasurementQueue.pop_cases hq with ⟨-, rfl, hemp, hshut⟩ | ⟨_, _, hn, _⟩
    · have hj : s.thread ≠ .notJoinable := by simp [ht]
      refine ⟨?_, ?_, h.stopping, h.joining, fun _ => ⟨hshut, hemp⟩, ?_, h.last, h.started,
        h.stopped⟩
      · intro hc
        rw [← h.idle hc]
        exact iff_of_false (by simp) hj
      · intro hc
        exact absurd (h.starting hc).1 hj
      · intro hc hr
        exact absurd ((h.idle hc).mpr hr) hj
    · cases hn
  | add c ht =>
    refine h.worker (by simp [ht]) ?_ rfl rfl rfl rfl
    rcases afterAdd_cases est (est.addMeasurement s.estimator c.measurement).1
      (est.addMeasurement s.estimator c.measurement).2 with hw | ⟨_, hw⟩ <;> simp [hw]
  | notify state k ht hk => exact h.worker (by simp [ht]) (by simp) rfl rfl rfl rfl
  | notified state k ht hk => exact h.worker (by simp [ht]) (by simp) rfl rfl rfl rfl

/-- **Lifecycle invariant.** It holds in every reachable state. -/
theorem reachable_inv {est : NavigationEstimator E M N} {observers capacity : ℕ} {e : E}
    {s : EstimatorPipeline E M N ι} (h : (system est observers capacity e).Reachable s) :
    Inv s := by
  refine h.invariant ?_ (fun _ _ _ _ hs hst => hs.step hst)
  rintro s rfl
  exact inv_constructed capacity e

end EstimatorPipeline

end FalconGuide
