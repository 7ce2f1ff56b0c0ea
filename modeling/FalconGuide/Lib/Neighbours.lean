import Mathlib.Algebra.BigOperators.Group.List.Basic
import Mathlib.Algebra.Group.Basic
import Mathlib.Tactic.Abel

namespace FalconGuide.Lib

/-!
# Neighbours in a list

Links between the nodes of a window that grows at one end and is trimmed at the other.

* `neighbours` — each node with the next one;
* `neighbours_append_singleton` / `neighbours_drop` — a node more at the end, fewer at the front;
* `sum_neighbours` — the differences between neighbours add up to that between the two ends.
-/

variable {τ : Type*}

/-- Each node with the next one. -/
def neighbours (nodes : List τ) : List (τ × τ) := nodes.zip nodes.tail

@[simp] theorem neighbours_nil : neighbours ([] : List τ) = [] := rfl

@[simp] theorem neighbours_singleton (a : τ) : neighbours [a] = [] := rfl

@[simp]
theorem neighbours_cons_cons (a b : τ) (nodes : List τ) :
    neighbours (a :: b :: nodes) = (a, b) :: neighbours (b :: nodes) := rfl

/-- There is one pair less than there are nodes. -/
@[simp]
theorem length_neighbours (nodes : List τ) : (neighbours nodes).length = nodes.length - 1 := by
  rw [neighbours, List.length_zip, List.length_tail]
  omega

/-- The `i`-th pair is that of the nodes `i` and `i + 1`. -/
theorem getElem?_neighbours {nodes : List τ} {i : ℕ} {a b : τ} :
    (neighbours nodes)[i]? = some (a, b) ↔ nodes[i]? = some a ∧ nodes[i + 1]? = some b := by
  rw [neighbours, List.getElem?_zip_eq_some, List.getElem?_tail]

/-- A node more at the end is one more pair. -/
theorem neighbours_append_singleton {nodes : List τ} {a : τ} (h : nodes.getLast? = some a)
    (b : τ) : neighbours (nodes ++ [b]) = neighbours nodes ++ [(a, b)] := by
  induction nodes with
  | nil => simp at h
  | cons x nodes ih =>
    cases nodes with
    | nil =>
      rw [List.getLast?_singleton, Option.some.injEq] at h
      subst h
      rfl
    | cons y nodes =>
      rw [List.getLast?_cons_cons] at h
      have hrest := ih h
      show (x, y) :: neighbours ((y :: nodes) ++ [b])
        = (x, y) :: (neighbours (y :: nodes) ++ [(a, b)])
      rw [hrest]

/-- Fewer nodes at the front are as many pairs fewer. -/
theorem neighbours_drop (nodes : List τ) (k : ℕ) :
    neighbours (nodes.drop k) = (neighbours nodes).drop k := by
  rw [neighbours, neighbours, List.zip_eq_zipWith, List.zip_eq_zipWith, List.drop_zipWith,
    List.tail_drop, List.drop_tail]

/-- **Telescoping.** -/
theorem sum_neighbours {G : Type*} [AddCommGroup G] (f : τ → G) {nodes : List τ} {a b : τ}
    (hfirst : nodes.head? = some a) (hlast : nodes.getLast? = some b) :
    ((neighbours nodes).map fun e => f e.2 - f e.1).sum = f b - f a := by
  induction nodes generalizing a with
  | nil => simp at hfirst
  | cons x nodes ih =>
    rw [List.head?_cons, Option.some.injEq] at hfirst
    subst hfirst
    cases nodes with
    | nil =>
      rw [List.getLast?_singleton, Option.some.injEq] at hlast
      subst hlast
      rw [neighbours_singleton, List.map_nil, List.sum_nil, sub_self]
    | cons y nodes =>
      rw [List.getLast?_cons_cons] at hlast
      rw [neighbours_cons_cons, List.map_cons, List.sum_cons, ih rfl hlast]
      abel

end FalconGuide.Lib
