import Mathlib.Data.Nat.Notation

namespace FalconGuide

/-!
# The bounded measurement queue

`MeasurementQueue` as its member functions compute, each one atomic under `mutex_`.

* `push` — refused when the queue is full or shutting down;
* `pop` — `none` while the consumer is blocked, `some (none, _)` once it should exit;
* `requestShutdown` — there is no way back from it.
-/

/-- Bounded queue for one consumer and many producers. -/
structure MeasurementQueue (M : Type*) where
  capacity : ℕ := 4096
  queue : List M := []
  shutdown : Bool := false

namespace MeasurementQueue

variable {M : Type*}

/-- `Push`: false when the queue is full or shutting down, otherwise the measurement is
    appended. -/
def push (q : MeasurementQueue M) (m : M) : MeasurementQueue M × Bool :=
  if q.shutdown ∨ q.capacity ≤ q.queue.length then (q, false)
  else ({ q with queue := q.queue ++ [m] }, true)

/-- `Pop`: `none` while the wait predicate is false, `some (none, q)` when the consumer
    should exit, and the oldest item otherwise. -/
def pop (q : MeasurementQueue M) : Option (Option M × MeasurementQueue M) :=
  match q.queue with
  | [] => if q.shutdown then some (none, q) else none
  | m :: rest => some (some m, { q with queue := rest })

/-- `RequestShutdown`. -/
def requestShutdown (q : MeasurementQueue M) : MeasurementQueue M :=
  { q with shutdown := true }

/-- The queue is full. -/
def Full (q : MeasurementQueue M) : Prop := q.capacity ≤ q.queue.length

instance (q : MeasurementQueue M) : Decidable q.Full :=
  inferInstanceAs (Decidable (q.capacity ≤ q.queue.length))

@[simp] theorem requestShutdown_queue (q : MeasurementQueue M) :
    q.requestShutdown.queue = q.queue := rfl
@[simp] theorem requestShutdown_capacity (q : MeasurementQueue M) :
    q.requestShutdown.capacity = q.capacity := rfl
@[simp] theorem requestShutdown_shutdown (q : MeasurementQueue M) :
    q.requestShutdown.shutdown = true := rfl

/-- `Push` keeps capacity and shutdown flag. -/
@[simp] theorem push_capacity (q : MeasurementQueue M) (m : M) :
    (q.push m).1.capacity = q.capacity := by
  unfold push; split <;> rfl
@[simp] theorem push_shutdown (q : MeasurementQueue M) (m : M) :
    (q.push m).1.shutdown = q.shutdown := by
  unfold push; split <;> rfl

/-- **What `Push` does.** Either it is refused and nothing changes, or there was room, no
    shutdown was requested and the measurement is the new last item. -/
theorem push_cases (q : MeasurementQueue M) (m : M) :
    (q.push m = (q, false) ∧ (q.shutdown = true ∨ q.Full)) ∨
    (q.push m = ({ q with queue := q.queue ++ [m] }, true) ∧
      q.shutdown = false ∧ q.queue.length < q.capacity) := by
  unfold push Full
  split
  · exact .inl ⟨rfl, ‹_›⟩
  · rename_i h
    rw [not_or] at h
    exact .inr ⟨rfl, by simpa using h.1, by omega⟩

/-- `Push` returns true exactly when the queue is neither shutting down nor full. -/
theorem push_eq_true_iff (q : MeasurementQueue M) (m : M) :
    (q.push m).2 = true ↔ q.shutdown = false ∧ ¬ q.Full := by
  rcases q.push_cases m with ⟨h, hs⟩ | ⟨h, hs, hlt⟩
  · rw [h]
    rcases hs with hs | hs <;> simp [hs]
  · rw [h]
    simp [hs, Full, hlt]

/-- **What `Pop` does.** It tells the consumer to exit (empty and shutting down), or hands
    out the oldest item. -/
theorem pop_cases {q q' : MeasurementQueue M} {r : Option M} (h : q.pop = some (r, q')) :
    (r = none ∧ q' = q ∧ q.queue = [] ∧ q.shutdown = true) ∨
    (∃ m rest, r = some m ∧ q.queue = m :: rest ∧ q' = { q with queue := rest }) := by
  unfold pop at h
  split at h
  · rename_i hq
    split at h
    · rename_i hs
      simp only [Option.some.injEq, Prod.mk.injEq] at h
      exact .inl ⟨h.1.symm, h.2.symm, hq, hs⟩
    · cases h
  · rename_i m rest hq
    simp only [Option.some.injEq, Prod.mk.injEq] at h
    exact .inr ⟨m, rest, h.1.symm, hq, h.2.symm⟩

/-- A consumer of an empty queue that is shutting down is told to exit. -/
theorem pop_of_drained {q : MeasurementQueue M} (hq : q.queue = []) (hs : q.shutdown = true) :
    q.pop = some (none, q) := by
  simp [pop, hq, hs]

end MeasurementQueue

end FalconGuide
