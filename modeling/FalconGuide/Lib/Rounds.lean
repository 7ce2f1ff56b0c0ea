import Mathlib.Data.List.Basic
import Mathlib.Data.List.Count

namespace FalconGuide.Lib

/-!
# A queue that is served in rounds

Every round adds items to a queue and then serves it from the front, up to and including the
first item at which the service stops.

* `afterRound` — what a round leaves in the queue;
* `backlog` — what is left after the last round;
* `KeepsUp` — the condition on the arrivals under which nothing is left;
* `backlog_eq_nil_iff` — that condition is exact.
-/

variable {α : Type*} (stop : α → Bool)

/-- What is left behind the first item at which the service stops. -/
def afterRound : List α → List α
  | [] => []
  | x :: xs => if stop x then xs else afterRound xs

/-- The queue after rounds that begin with the given arrivals. -/
def backlog (waiting : List α) : List (List α) → List α
  | [] => waiting
  | new :: rounds => backlog (afterRound stop (waiting ++ new)) rounds

/-- How many items stop the service in front of another item. -/
def stops (xs : List α) : ℕ := xs.dropLast.countP stop

/-- From every round on, the items that stop the service in front of another one are no more than
    the rounds that follow. -/
def KeepsUp : List (List α) → Prop
  | [] => True
  | new :: rounds => stops stop (new ++ rounds.flatten) ≤ rounds.length ∧ KeepsUp rounds

instance : (rounds : List (List α)) → Decidable (KeepsUp stop rounds)
  | [] => .isTrue trivial
  | _ :: rounds =>
    haveI := instDecidableKeepsUp rounds
    inferInstanceAs (Decidable (_ ∧ _))

variable {stop}

/-- A round adds nothing. -/
theorem afterRound_subset (xs : List α) : afterRound stop xs ⊆ xs := by
  induction xs with
  | nil => exact List.Subset.refl _
  | cons x xs ih =>
    rw [afterRound]
    split
    · exact List.subset_cons_self x xs
    · exact List.subset_cons_of_subset x ih

theorem stops_cons {x : α} {xs : List α} (hxs : xs ≠ []) :
    stops stop (x :: xs) = stops stop xs + if stop x then 1 else 0 := by
  rw [stops, List.dropLast_cons_of_ne_nil hxs, List.countP_cons]
  rfl

/-- More items in front do not stop the service less often. -/
theorem stops_le_append (xs ys : List α) : stops stop ys ≤ stops stop (xs ++ ys) := by
  by_cases hys : ys = []
  · subst hys
    exact Nat.zero_le _
  · rw [stops, stops, List.dropLast_append_of_ne_nil hys, List.countP_append]
    omega

/-- A round that leaves nothing. -/
theorem afterRound_eq_nil_iff (xs : List α) : afterRound stop xs = [] ↔ stops stop xs = 0 := by
  induction xs with
  | nil => simp [afterRound, stops]
  | cons x xs ih =>
    rw [afterRound]
    by_cases hxs : xs = []
    · subst hxs
      simp [afterRound, stops]
    · rw [stops_cons hxs]
      by_cases hx : stop x
      · simp [hx, hxs]
      · simp [hx, ih]

/-- A round takes one stop away, unless none is left in front of what comes behind. -/
theorem stops_afterRound_le_iff (xs ys : List α) (n : ℕ) :
    stops stop (afterRound stop xs ++ ys) ≤ n
      ↔ stops stop (xs ++ ys) ≤ n + 1 ∧ stops stop ys ≤ n := by
  induction xs with
  | nil =>
    show stops stop ys ≤ n ↔ stops stop ys ≤ n + 1 ∧ stops stop ys ≤ n
    omega
  | cons x xs ih =>
    have hle : stops stop ys ≤ stops stop (xs ++ ys) := stops_le_append xs ys
    rw [afterRound, List.cons_append]
    by_cases hnil : xs ++ ys = []
    · -- nothing behind `x`
      obtain ⟨rfl, rfl⟩ := List.append_eq_nil_iff.mp hnil
      simp [afterRound, stops]
    · rw [stops_cons hnil]
      by_cases hx : stop x
      · rw [if_pos hx, if_pos hx]
        omega
      · rw [if_neg hx, if_neg hx, Nat.add_zero]
        exact ih

/-- **Nothing is left** after the last round exactly when the rounds keep up with the arrivals.
    By induction on the rounds: a round that is over can be merged into the next one, with what it
    left as part of the arrivals there. -/
theorem backlog_eq_nil_iff (waiting new : List α) (rounds : List (List α)) :
    backlog stop waiting (new :: rounds) = [] ↔ KeepsUp stop ((waiting ++ new) :: rounds) := by
  induction rounds generalizing waiting new with
  | nil =>
    rw [backlog, backlog, afterRound_eq_nil_iff, KeepsUp, KeepsUp, List.flatten_nil,
      List.append_nil, List.length_nil, Nat.le_zero, and_true]
  | cons next rounds ih =>
    have hmerge := @stops_afterRound_le_iff _ stop (waiting ++ new) (next ++ rounds.flatten)
      rounds.length
    rw [backlog, ih]
    simp only [KeepsUp, List.flatten_cons, List.length_cons, List.append_assoc] at hmerge ⊢
    rw [hmerge, and_assoc]

end FalconGuide.Lib
