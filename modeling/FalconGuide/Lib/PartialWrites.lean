import FalconGuide.Lib.TransitionSystem
import Mathlib.Data.List.Basic
import Mathlib.Data.List.Pairwise

namespace FalconGuide.Lib

/-!
# Writes that take a part of a message

A sender hands whole messages to a stream, and the stream takes any prefix of each.

* `Write` — a message and how much of it was taken;
* `received` — what the other end gets;
* `Unbroken` — nothing is taken once a message was taken in part;
* `Framed` — whole messages, and at the end a part of one;
* `Unbroken.framed` — then the other end gets whole messages and a part of one;
* `System.sending` — the runs of a system with what was written to every connection.
-/

variable {α : Type*}

/-- A message, and how much of it was taken. -/
structure Write (α : Type*) where
  message : List α
  accepted : ℕ

namespace Write

/-- What was taken. -/
def taken (w : Write α) : List α := w.message.take w.accepted

/-- The message was taken in part. -/
def Short (w : Write α) : Prop := w.taken ≠ [] ∧ w.accepted < w.message.length

/-- A message that was not taken in part was taken as a whole or not at all. -/
theorem taken_of_not_short {w : Write α} (h : ¬ w.Short) :
    w.taken = w.message ∨ w.taken = [] := by
  by_cases hlen : w.accepted < w.message.length
  · right
    by_contra hne
    exact h ⟨hne, hlen⟩
  · left
    exact List.take_of_length_le (Nat.le_of_not_lt hlen)

end Write

/-- What the other end gets. -/
def received (ws : List (Write α)) : List α := (ws.map Write.taken).flatten

@[simp] theorem received_nil : received ([] : List (Write α)) = [] := rfl

@[simp] theorem received_cons (w : Write α) (ws : List (Write α)) :
    received (w :: ws) = w.taken ++ received ws := rfl

theorem received_eq_nil {ws : List (Write α)} (h : ∀ w ∈ ws, w.taken = []) :
    received ws = [] := by
  induction ws with
  | nil => rfl
  | cons w ws ih =>
    rw [received_cons, h w List.mem_cons_self, ih fun v hv => h v (List.mem_cons_of_mem w hv)]
    rfl

/-- Once a message was taken in part, nothing is taken. -/
def Unbroken (ws : List (Write α)) : Prop :=
  ws.Pairwise fun w later => w.Short → later.taken = []

/-- Whole messages in their order, and at the end a part of one. -/
inductive Framed (messages : List (List α)) : List α → Prop
  | whole (ms : List (List α)) (hms : ms.Sublist messages) : Framed messages ms.flatten
  | part (ms : List (List α)) (current part : List α) (hms : (ms ++ [current]).Sublist messages)
      (hpart : part <+: current) : Framed messages (ms.flatten ++ part)

/-- A message in front of those that were sent: it was taken as a whole. -/
theorem Framed.cons {messages : List (List α)} {xs : List α} (h : Framed messages xs)
    (m : List α) : Framed (m :: messages) (m ++ xs) := by
  cases h with
  | whole ms hms => exact .whole (m :: ms) (hms.cons_cons m)
  | part ms current part hms hpart =>
    rw [← List.append_assoc]
    exact .part (m :: ms) current part (hms.cons_cons m) hpart

/-- A message in front of those that were sent: nothing of it was taken. -/
theorem Framed.skip {messages : List (List α)} {xs : List α} (h : Framed messages xs)
    (m : List α) : Framed (m :: messages) xs := by
  cases h with
  | whole ms hms => exact .whole ms (hms.cons m)
  | part ms current part hms hpart => exact .part ms current part (hms.cons m) hpart

/-- **Whole messages and a part of one.** By induction on the messages: behind one that was taken in
    part there is nothing. -/
theorem Unbroken.framed {ws : List (Write α)} (h : Unbroken ws) :
    Framed (ws.map Write.message) (received ws) := by
  induction ws with
  | nil => exact .whole [] (List.nil_sublist _)
  | cons w ws ih =>
    obtain ⟨hw, hws⟩ := List.pairwise_cons.mp h
    rw [List.map_cons, received_cons]
    by_cases hshort : w.Short
    · have hlater : received ws = [] := received_eq_nil fun v hv => hw v hv hshort
      rw [hlater, List.append_nil]
      exact .part [] w.message w.taken (List.singleton_sublist.mpr List.mem_cons_self)
        (List.take_prefix _ _)
    · rcases Write.taken_of_not_short hshort with hall | hnone
      · rw [hall]
        exact (ih hws).cons w.message
      · rw [hnone, List.nil_append]
        exact (ih hws).skip w.message

/-! ### Systems that write -/

section Sending

variable {σ ℓ : Type*}

/-- A state, and what was written to every connection. -/
structure Sending (σ α : Type*) where
  state : σ
  sent : ℕ → List (Write α) := fun _ => []

/-- The runs of a system with what was written; `writes s l c` is what the step `l` from `s` writes
    to the connection `c`. -/
def System.sending (S : System σ ℓ) (writes : σ → ℓ → ℕ → List (Write α)) :
    System (Sending σ α) ℓ where
  init s := S.init s.state ∧ s.sent = fun _ => []
  step s l t := S.step s.state l t.state ∧ t.sent = fun c => s.sent c ++ writes s.state l c

/-- No connection takes anything behind a message it took in part. -/
def Sending.Unbroken (writes : σ → ℓ → ℕ → List (Write α)) (s : Sending σ α) (l : ℓ) : Prop :=
  ∀ c, Lib.Unbroken (s.sent c ++ writes s.state l c)

variable {S : System σ ℓ} {writes : σ → ℓ → ℕ → List (Write α)} {s : Sending σ α}

/-- Every step of a run is a step of the system. -/
theorem System.Reachable.of_sending (h : (S.sending writes).Reachable s) :
    S.Reachable s.state := by
  induction h with
  | init hs => exact .init hs.1
  | step _ hst ih => exact ih.step hst.1

/-- A step of the system, with what it writes. -/
theorem System.Reachable.sending_step {G : Sending σ α → ℓ → Prop} {l : ℓ} {t : σ}
    (h : ((S.sending writes).guarded G).Reachable s) (hG : G s l) (hst : S.step s.state l t) :
    ((S.sending writes).guarded G).Reachable
      { state := t, sent := fun c => s.sent c ++ writes s.state l c } :=
  h.step ⟨hG, hst, rfl⟩

/-- **What a connection gets**, when every step leaves it unbroken. -/
theorem System.Reachable.framed
    (h : ((S.sending writes).guarded (Sending.Unbroken writes)).Reachable s) (c : ℕ) :
    Framed ((s.sent c).map Write.message) (received (s.sent c)) := by
  apply Unbroken.framed
  cases h with
  | init hs =>
    rw [hs.2]
    exact List.Pairwise.nil
  | step _ hst =>
    rw [hst.2.2]
    exact hst.1 c

/-- What holds of the messages of every step holds of all that were written. -/
theorem System.Reachable.messages {P : List α → Prop}
    (hP : ∀ s l t c w, S.step s l t → w ∈ writes s l c → P w.message)
    (h : (S.sending writes).Reachable s) (c : ℕ) : ∀ w ∈ s.sent c, P w.message := by
  induction h with
  | init hs =>
    rw [hs.2]
    exact nofun
  | step _ hst ih =>
    rw [hst.2]
    intro w hw
    rcases List.mem_append.mp hw with hw | hw
    · exact ih w hw
    · exact hP _ _ _ _ w hst.1 hw

end Sending

end FalconGuide.Lib
