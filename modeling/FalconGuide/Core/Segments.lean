import FalconGuide.Core.Math
import Mathlib.Tactic.Linarith

namespace FalconGuide

open Matrix
open scoped BigOperators

/-!
# Reading what was written

A segment of a vector that is written piece by piece, and the product with a matrix that is written
block by block.

* `segment_add`, `segment_smul`, … — reading a segment is linear;
* `segment_setSegment`, `segment_setSegment_of_disjoint` — reading the piece written last, and one
  it does not meet;
* `setBlock_mulVec` — a block takes its part of the vector to a segment of the product.
-/

section Segments

variable {n p q : ℕ}

/-! ### Reading is linear -/

@[simp]
theorem segment_zero (o p : ℕ) : segment (0 : Fin n → ℝ) o p = 0 := by
  funext i
  simp [segment]

theorem segment_add (v w : Fin n → ℝ) (o p : ℕ) :
    segment (v + w) o p = segment v o p + segment w o p := by
  funext i
  by_cases h : o + i.val < n
  · simp [segment, h]
  · simp [segment, h]

theorem segment_sub (v w : Fin n → ℝ) (o p : ℕ) :
    segment (v - w) o p = segment v o p - segment w o p := by
  funext i
  by_cases h : o + i.val < n
  · simp [segment, h]
  · simp [segment, h]

theorem segment_smul (c : ℝ) (v : Fin n → ℝ) (o p : ℕ) :
    segment (c • v) o p = c • segment v o p := by
  funext i
  by_cases h : o + i.val < n
  · simp [segment, h]
  · simp [segment, h]

/-- An entry of a segment. -/
theorem segment_sub_apply {v : Fin n → ℝ} {i : Fin n} {o : ℕ} (h : o ≤ i.val ∧ i.val < o + p) :
    segment v o p ⟨i.val - o, by omega⟩ = v i := by
  have hi : o + (i.val - o) < n := by omega
  rw [segment, dif_pos hi]
  congr 1
  ext
  show o + (i.val - o) = i.val
  omega

/-! ### Reading what was written -/

/-- The piece written last. -/
theorem segment_setSegment {v : Fin n → ℝ} {o : ℕ} {w : Fin p → ℝ} (h : o + p ≤ n) :
    segment (setSegment v o w) o p = w := by
  funext i
  have hi : o + i.val < n := by omega
  have hin : o ≤ o + i.val ∧ o + i.val < o + p := by omega
  simp [segment, setSegment, hi, hin]

/-- A piece that the one written last does not meet. -/
theorem segment_setSegment_of_disjoint {v : Fin n → ℝ} {o o' : ℕ} {w : Fin q → ℝ}
    (h : o + p ≤ o' ∨ o' + q ≤ o) : segment (setSegment v o' w) o p = segment v o p := by
  funext i
  by_cases hi : o + i.val < n
  · have hout : ¬ (o' ≤ o + i.val ∧ o + i.val < o' + q) := by omega
    simp only [segment, dif_pos hi, setSegment, dif_neg hout]
  · simp only [segment, dif_neg hi]

/-- An entry that a piece does not meet. -/
theorem setSegment_apply_of_outside {v : Fin n → ℝ} {o : ℕ} {w : Fin p → ℝ} {i : Fin n}
    (h : ¬ (o ≤ i.val ∧ i.val < o + p)) : setSegment v o w i = v i := dif_neg h

/-- A piece written over zeros is added. -/
theorem setSegment_eq_add {v : Fin n → ℝ} {o : ℕ} {w : Fin p → ℝ}
    (h : ∀ i, o ≤ i.val ∧ i.val < o + p → v i = 0) :
    setSegment v o w = v + setSegment 0 o w := by
  funext i
  rw [Pi.add_apply, setSegment, setSegment]
  by_cases hi : o ≤ i.val ∧ i.val < o + p
  · rw [dif_pos hi, dif_pos hi, h i hi, zero_add]
  · rw [dif_neg hi, dif_neg hi, Pi.zero_apply, add_zero]

theorem setSegment_zero (o : ℕ) :
    setSegment (0 : Fin n → ℝ) o (0 : Fin p → ℝ) = 0 := by
  funext i
  rw [setSegment]
  split <;> rfl

/-! ### Products -/

/-- Reading one entry as a sum. -/
theorem segment_eq_sum (x : Fin n → ℝ) (o : ℕ) (k : Fin q) :
    segment x o q k = ∑ j : Fin n, if j.val = o + k.val then x j else 0 := by
  by_cases h : o + k.val < n
  · rw [Finset.sum_eq_single ⟨o + k.val, h⟩]
    · simp [segment, h]
    · intro j _ hj
      rw [if_neg fun hval => hj (Fin.ext hval)]
    · intro hj
      exact absurd (Finset.mem_univ _) hj
  · rw [segment, dif_neg h]
    refine (Finset.sum_eq_zero fun j _ => ?_).symm
    rw [if_neg]
    omega

/-- An entry of a matrix that is zero but for one block, in a row of the block. -/
theorem setBlock_zero_eq_sum {m : ℕ} {row col : ℕ} {B : Matrix (Fin p) (Fin q) ℝ} {i : Fin m}
    (hi : row ≤ i.val ∧ i.val < row + p) (j : Fin n) :
    setBlock (0 : Matrix (Fin m) (Fin n) ℝ) row col B i j
      = ∑ k : Fin q, if j.val = col + k.val then B ⟨i.val - row, by omega⟩ k else 0 := by
  by_cases hj : col ≤ j.val ∧ j.val < col + q
  · rw [setBlock, dif_pos ⟨hi, hj⟩, Finset.sum_eq_single ⟨j.val - col, by omega⟩]
    · rw [if_pos]
      show j.val = col + (j.val - col)
      omega
    · intro k _ hk
      refine if_neg fun hval => hk (Fin.ext ?_)
      show k.val = j.val - col
      omega
    · intro hk
      exact absurd (Finset.mem_univ _) hk
  · rw [setBlock, dif_neg fun h => hj h.2]
    refine (Finset.sum_eq_zero fun k _ => if_neg ?_).symm
    omega

theorem setBlock_zero {m : ℕ} (row col : ℕ) :
    setBlock (0 : Matrix (Fin m) (Fin n) ℝ) row col (0 : Matrix (Fin p) (Fin q) ℝ) = 0 := by
  ext i j
  rw [setBlock]
  split
  · rfl
  · rfl

/-- A matrix that is zero but for one block. -/
theorem setBlock_zero_mulVec {m : ℕ} (row col : ℕ) (B : Matrix (Fin p) (Fin q) ℝ)
    (x : Fin n → ℝ) :
    (setBlock (0 : Matrix (Fin m) (Fin n) ℝ) row col B) *ᵥ x
      = setSegment 0 row (B *ᵥ segment x col q) := by
  funext i
  by_cases hi : row ≤ i.val ∧ i.val < row + p
  · rw [setSegment, dif_pos hi]
    simp only [mulVec, dotProduct, setBlock_zero_eq_sum hi, segment_eq_sum, Finset.sum_mul,
      Finset.mul_sum, ite_mul, mul_ite, zero_mul, mul_zero]
    exact Finset.sum_comm
  · rw [setSegment, dif_neg hi]
    show ∑ j, setBlock (0 : Matrix (Fin m) (Fin n) ℝ) row col B i j * x j = 0
    refine Finset.sum_eq_zero fun j _ => ?_
    rw [setBlock, dif_neg fun h => hi h.1]
    exact zero_mul _

/-- An entry that a block does not meet. -/
theorem setBlock_apply_of_outside {m : ℕ} {A : Matrix (Fin m) (Fin n) ℝ} {row col : ℕ}
    {B : Matrix (Fin p) (Fin q) ℝ} {i : Fin m} {j : Fin n}
    (h : ¬ ((row ≤ i.val ∧ i.val < row + p) ∧ col ≤ j.val ∧ j.val < col + q)) :
    setBlock A row col B i j = A i j := dif_neg h

/-- A block that is written again. -/
theorem setBlock_setBlock {m : ℕ} (A : Matrix (Fin m) (Fin n) ℝ) (row col : ℕ)
    (B C : Matrix (Fin p) (Fin q) ℝ) :
    setBlock (setBlock A row col B) row col C = setBlock A row col C := by
  ext i j
  by_cases hij : (row ≤ i.val ∧ i.val < row + p) ∧ col ≤ j.val ∧ j.val < col + q
  · simp only [setBlock, dif_pos hij]
  · simp only [setBlock, dif_neg hij]

/-- Blocks of other rows. -/
theorem setBlock_comm {m p' q' : ℕ} (A : Matrix (Fin m) (Fin n) ℝ) {row row' : ℕ} (col col' : ℕ)
    (B : Matrix (Fin p) (Fin q) ℝ) (C : Matrix (Fin p') (Fin q') ℝ)
    (h : row + p ≤ row' ∨ row' + p' ≤ row) :
    setBlock (setBlock A row col B) row' col' C = setBlock (setBlock A row' col' C) row col B := by
  ext i j
  by_cases hB : (row ≤ i.val ∧ i.val < row + p) ∧ col ≤ j.val ∧ j.val < col + q
  · have hC : ¬ ((row' ≤ i.val ∧ i.val < row' + p') ∧ col' ≤ j.val ∧ j.val < col' + q') := by omega
    simp only [setBlock, dif_pos hB, dif_neg hC]
  · simp only [setBlock, dif_neg hB]

/-- **A block** written over zeros adds its product with the part of the vector it meets. -/
theorem setBlock_mulVec {m : ℕ} {A : Matrix (Fin m) (Fin n) ℝ} {row col : ℕ}
    (h : ∀ i j, (row ≤ i.val ∧ i.val < row + p) ∧ col ≤ j.val ∧ j.val < col + q → A i j = 0)
    (B : Matrix (Fin p) (Fin q) ℝ) (x : Fin n → ℝ) :
    setBlock A row col B *ᵥ x = A *ᵥ x + setSegment 0 row (B *ᵥ segment x col q) := by
  rw [← setBlock_zero_mulVec, ← add_mulVec]
  congr 1
  ext i j
  rw [Matrix.add_apply, setBlock, setBlock]
  by_cases hij : (row ≤ i.val ∧ i.val < row + p) ∧ col ≤ j.val ∧ j.val < col + q
  · rw [dif_pos hij, dif_pos hij, h i j hij, zero_add]
  · rw [dif_neg hij, dif_neg hij, Matrix.zero_apply, add_zero]

theorem transpose_setBlock {m : ℕ} (A : Matrix (Fin m) (Fin n) ℝ) (row col : ℕ)
    (B : Matrix (Fin p) (Fin q) ℝ) : (setBlock A row col B)ᵀ = setBlock Aᵀ col row Bᵀ := by
  ext i j
  by_cases hij : (row ≤ j.val ∧ j.val < row + p) ∧ col ≤ i.val ∧ i.val < col + q
  · rw [transpose_apply, setBlock, setBlock, dif_pos hij, dif_pos hij.symm, transpose_apply]
  · rw [transpose_apply, setBlock, setBlock, dif_neg hij, dif_neg fun h => hij h.symm,
      transpose_apply]

/-- A product with a vector that is zero but for one piece. -/
theorem dotProduct_setSegment (x : Fin n → ℝ) (o : ℕ) (w : Fin p → ℝ) :
    x ⬝ᵥ setSegment 0 o w = segment x o p ⬝ᵥ w := by
  simp only [dotProduct, segment_eq_sum, Finset.sum_mul, ite_mul, zero_mul]
  rw [Finset.sum_comm]
  refine Finset.sum_congr rfl fun i _ => ?_
  by_cases hi : o ≤ i.val ∧ i.val < o + p
  · rw [setSegment, dif_pos hi, Finset.sum_eq_single ⟨i.val - o, by omega⟩]
    · rw [if_pos]
      show i.val = o + (i.val - o)
      omega
    · intro k _ hk
      refine if_neg fun hval => hk (Fin.ext ?_)
      show k.val = i.val - o
      omega
    · intro hk
      exact absurd (Finset.mem_univ _) hk
  · rw [setSegment, dif_neg hi, Pi.zero_apply, mul_zero]
    refine (Finset.sum_eq_zero fun k _ => if_neg ?_).symm
    omega

end Segments

end FalconGuide
