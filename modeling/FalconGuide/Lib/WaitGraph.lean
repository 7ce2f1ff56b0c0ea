import Mathlib.Data.Nat.Notation
import Mathlib.Logic.Relation

namespace FalconGuide.Lib

/-!
# Wait-for graphs

What the threads of a program wait for in one state, and when no set of them waits in a circle.

* `WaitState` — what each thread wants, who owns each resource, and which threads have not
  returned;
* `WaitState.WaitsFor` — the edges of the wait-for graph;
* `WaitState.not_cyclic_of_level` — the hierarchy rule: if a thread that is waited for, and
  waits itself, is always on a lower level than the one that waits for it, nobody waits in a
  circle.
-/

/-- What the threads `T` want in one state, with resources `R`. -/
structure WaitState (T R : Type*) where
  /-- What a thread waits for: to own a resource, or for another thread. -/
  wants : T → Option (R ⊕ T)
  owner : R → Option T
  /-- The thread has been created and has not returned. -/
  alive : T → Bool

namespace WaitState

variable {T R : Type*} (w : WaitState T R)

/-- `t` cannot go on before `u` does. -/
def WaitsFor (t u : T) : Prop :=
  (∃ r, w.wants t = some (.inl r) ∧ w.owner r = some u) ∨
    (w.wants t = some (.inr u) ∧ w.alive u = true)

/-- Some thread waits, over any number of others, for itself. -/
def Cyclic : Prop := ∃ t, Relation.TransGen w.WaitsFor t t

variable {w}

/-- A thread that waits for another one wants something. -/
theorem WaitsFor.wants_isSome {t u : T} (h : w.WaitsFor t u) : (w.wants t).isSome = true := by
  rcases h with ⟨r, hw, -⟩ | ⟨hw, -⟩ <;> rw [hw] <;> rfl

/-- Two threads that wait for each other are a cycle. -/
theorem cyclic_of_pair {t u : T} (htu : w.WaitsFor t u) (hut : w.WaitsFor u t) : w.Cyclic :=
  ⟨t, .tail (.single htu) hut⟩

/-- **Rank rule.** If every edge goes down, there is no cycle. -/
theorem not_cyclic_of_rank (rank : T → ℕ) (h : ∀ t u, w.WaitsFor t u → rank u < rank t) :
    ¬ w.Cyclic := by
  rintro ⟨t, ht⟩
  have hdown : ∀ u v, Relation.TransGen w.WaitsFor u v → rank v < rank u := by
    intro u v huv
    induction huv with
    | single he => exact h _ _ he
    | tail _ he ih => exact Nat.lt_trans (h _ _ he) ih
  exact Nat.lt_irrefl _ (hdown t t ht)

/-- **Hierarchy rule.** Only the edges to threads that wait themselves have to go down. -/
theorem not_cyclic_of_level (level : T → ℕ)
    (h : ∀ t u, w.WaitsFor t u → (w.wants u).isSome = true → level u < level t) :
    ¬ w.Cyclic := by
  refine not_cyclic_of_rank (fun t => if (w.wants t).isSome = true then level t + 1 else 0) ?_
  intro t u htu
  rw [if_pos htu.wants_isSome]
  split
  · next hu => exact Nat.succ_lt_succ (h t u htu hu)
  · exact Nat.succ_pos _

end WaitState

end FalconGuide.Lib
