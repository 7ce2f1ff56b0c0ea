import FalconGuide.Ekf.Update

namespace FalconGuide

open Lib Matrix

/-!
# Covariances written block by block

* `Decoupled` — a range of indices without correlation to the others;
* `posSemidef_setBlock` — writing a positive semidefinite block over a decoupled range;
* `BlockDiagonal` — the covariances that such writes build;
* `posSemidef_isotropicNoise`, `posSemidef_symmetrizeCovariance` — the other pieces of the noise
  matrices.
-/

variable {n q : ℕ} {P : Matrix (Fin n) (Fin n) ℝ} {B : Matrix (Fin q) (Fin q) ℝ} {o : ℕ}

/-! ### Decoupled ranges -/

/-- The indices `o, …, o + q - 1` have no correlation with the others. -/
def Decoupled (P : Matrix (Fin n) (Fin n) ℝ) (o q : ℕ) : Prop :=
  ∀ i j : Fin n, o ≤ i.val ∧ i.val < o + q → ¬ (o ≤ j.val ∧ j.val < o + q) → P i j = 0

@[simp] theorem decoupled_zero (o q : ℕ) : Decoupled (0 : Matrix (Fin n) (Fin n) ℝ) o q :=
  fun _ _ _ _ => rfl

/-- Writing a block keeps the ranges decoupled that it lies in, or that it does not meet. -/
theorem Decoupled.setBlock {p : ℕ} (h : Decoupled P o p) {o' : ℕ}
    (hr : o' + q ≤ o ∨ o + p ≤ o' ∨ o ≤ o' ∧ o' + q ≤ o + p) :
    Decoupled (setBlock P o' o' B) o p := by
  intro i j hi hj
  have hij : ¬ ((o' ≤ i.val ∧ i.val < o' + q) ∧ (o' ≤ j.val ∧ j.val < o' + q)) := by omega
  rw [FalconGuide.setBlock, dif_neg hij]
  exact h i j hi hj

/-- The index of the block that is written, or the index of the matrix that is written to. -/
def blockIndex (o q : ℕ) (i : Fin n) : Fin q ⊕ Fin n :=
  if h : o ≤ i.val ∧ i.val < o + q then .inl ⟨i.val - o, by omega⟩ else .inr i

/-- **A block written over a decoupled range.** -/
theorem posSemidef_setBlock (hP : P.PosSemidef) (hB : B.PosSemidef) (h : Decoupled P o q) :
    (setBlock P o o B).PosSemidef := by
  have hsub : setBlock P o o B
      = (fromBlocks B 0 0 P).submatrix (blockIndex o q) (blockIndex o q) := by
    ext i j
    have hsymm : P i j = P j i := congrFun (congrFun (Kalman.transpose_eq hP) i) j |>.symm
    rw [submatrix_apply, setBlock, blockIndex, blockIndex]
    by_cases hi : o ≤ i.val ∧ i.val < o + q <;> by_cases hj : o ≤ j.val ∧ j.val < o + q
    · simp only [hi, hj, and_self, dite_true, fromBlocks_apply₁₁]
    · simpa [hi, hj] using h i j hi hj
    · simpa [hi, hj, hsymm] using h j i hj hi
    · simp [hi, hj]
  rw [hsub]
  exact (Kalman.posSemidef_fromBlocks hB hP).submatrix _

/-! ### Block-diagonal covariances -/

/-- Offsets and sizes of the blocks that are ever written: six segments, the clock as two single
    states. -/
def blockRanges : List (ℕ × ℕ) := [(0, 3), (3, 3), (6, 3), (9, 3), (12, 3), (15, 1), (16, 1)]

/-- A covariance without correlation between the ranges. -/
structure BlockDiagonal (P : Matrix (Fin n) (Fin n) ℝ) : Prop where
  posSemidef : P.PosSemidef
  decoupled : ∀ r ∈ blockRanges, Decoupled P r.1 r.2

theorem BlockDiagonal.zero : BlockDiagonal (0 : Matrix (Fin n) (Fin n) ℝ) where
  posSemidef := .zero
  decoupled _ _ := decoupled_zero _ _

/-- Two ranges are the same or have no index in common. -/
theorem blockRanges_separate : ∀ r ∈ blockRanges, ∀ s ∈ blockRanges,
    s.1 + s.2 ≤ r.1 ∨ r.1 + r.2 ≤ s.1 ∨ r.1 ≤ s.1 ∧ s.1 + s.2 ≤ r.1 + r.2 := by
  decide

/-- **Block by block.** A block written at a range keeps the covariance block diagonal. -/
theorem BlockDiagonal.setBlock (h : BlockDiagonal P) (hr : (o, q) ∈ blockRanges)
    (hB : B.PosSemidef) : BlockDiagonal (setBlock P o o B) where
  posSemidef := posSemidef_setBlock h.posSemidef hB (h.decoupled _ hr)
  decoupled r hmem := (h.decoupled r hmem).setBlock (blockRanges_separate r hmem _ hr)

/-- A variance is a covariance. -/
theorem posSemidef_variance {x : ℝ} (hx : 0 ≤ x) :
    (Matrix.of fun (_ _ : Fin 1) => x).PosSemidef := by
  have hdiag : (Matrix.of fun (_ _ : Fin 1) => x) = diagonal fun _ => x := by
    ext i j
    simp [Subsingleton.elim i j]
  rw [hdiag]
  exact .diagonal fun _ => hx

/-! ### Noise -/

/-- Isotropic noise is a covariance. -/
theorem posSemidef_isotropicNoise (m : ℕ) (s : ℝ) : (isotropicNoise m s).PosSemidef :=
  .smul .one (mul_self_nonneg s)

/-- With a deviation that is not zero it is positive definite. -/
theorem posDef_isotropicNoise {m : ℕ} {s : ℝ} (hs : s ≠ 0) : (isotropicNoise m s).PosDef :=
  .smul .one (mul_self_pos.mpr hs)

/-- The symmetric part of a covariance is a covariance. -/
theorem posSemidef_symmetrizeCovariance (hP : P.PosSemidef) :
    (symmetrizeCovariance P).PosSemidef :=
  Kalman.posSemidef_symmetrize hP

/-- A block of a covariance is a covariance. -/
theorem posSemidef_block (hP : P.PosSemidef) {p : ℕ} (h : o + p ≤ n) :
    (block P o o p p).PosSemidef := by
  have hsub : block P o o p p
      = P.submatrix (fun i => ⟨o + i.val, by omega⟩) fun i => ⟨o + i.val, by omega⟩ := by
    ext i j
    have hij : o + i.val < n ∧ o + j.val < n := by omega
    rw [block, dif_pos hij, submatrix_apply]
  rw [hsub]
  exact hP.submatrix _

end FalconGuide
