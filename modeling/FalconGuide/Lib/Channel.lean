import FalconGuide.Lib.TransitionSystem
import Mathlib.Data.Nat.Notation

namespace FalconGuide.Lib

/-!
# A bounded lossless FIFO channel

The abstract purpose of a producer/consumer hand-off: what is received is what was sent, once
each and in order, and at most `capacity` messages are under way.

* `Channel` — the sent, pending and received messages;
* `Channel.system` — a message is sent when there is room, and the oldest pending one is
  received;
* `Channel.sent_eq` / `Channel.pending_le` — what holds in every reachable state.
-/

/-- The state of a FIFO channel: what was sent, what is under way, what was received. -/
structure Channel (M : Type*) where
  sent : List M
  pending : List M
  received : List M

namespace Channel

variable {M : Type*}

/-- The channel nothing was sent on yet. -/
def empty : Channel M := ⟨[], [], []⟩

/-- What a channel does in one step. -/
inductive Action (M : Type*)
  | send (m : M)
  | receive

/-- A message is sent when fewer than `capacity` are pending; the oldest pending message is
    received. -/
inductive Step (capacity : ℕ) : Channel M → Action M → Channel M → Prop
  | send (c : Channel M) (m : M) (hroom : c.pending.length < capacity) :
      Step capacity c (.send m)
        { c with sent := c.sent ++ [m], pending := c.pending ++ [m] }
  | receive (c : Channel M) (m : M) (rest : List M) (hm : c.pending = m :: rest) :
      Step capacity c .receive { c with pending := rest, received := c.received ++ [m] }

/-- The channel as a transition system. -/
def system (M : Type*) (capacity : ℕ) : System (Channel M) (Action M) where
  init c := c = empty
  step := Step capacity

/-- Nothing is lost, duplicated or reordered: the sent messages are the received ones
    followed by the pending ones. -/
theorem sent_eq {capacity : ℕ} {c : Channel M} (h : (system M capacity).Reachable c) :
    c.sent = c.received ++ c.pending := by
  refine h.invariant (I := fun c => c.sent = c.received ++ c.pending) ?_ ?_
  · rintro c rfl
    rfl
  · rintro c _ d _ ih (⟨m, hroom⟩ | ⟨m, rest, hm⟩)
    · simp [ih]
    · simp [ih, hm]

/-- The number of pending messages never exceeds the capacity. -/
theorem pending_le {capacity : ℕ} {c : Channel M} (h : (system M capacity).Reachable c) :
    c.pending.length ≤ capacity := by
  refine h.invariant (I := fun c => c.pending.length ≤ capacity) ?_ ?_
  · rintro c rfl
    exact Nat.zero_le _
  · rintro c _ d _ ih (⟨_, hroom⟩ | ⟨_, rest, hm⟩)
    · show (c.pending ++ [_]).length ≤ capacity
      rw [List.length_append]
      exact hroom
    · rw [hm, List.length_cons] at ih
      show rest.length ≤ capacity
      omega

end Channel

end FalconGuide.Lib
