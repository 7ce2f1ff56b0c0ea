import FalconGuide.Lib.Kalman

namespace FalconGuide.Lib

open Matrix
open scoped BigOperators

/-!
# Observations with rows that are zero

An observation whose unused rows are zeroed, against the observation of the other rows alone.  The
matrix `E` selects rows; its transpose puts them back among zeros.

* `selection` — the matrix that selects the rows of an injective map;
* `Kalman.innovationCov_embed` — the noise of the zeroed rows is all they have in `S`;
* `Kalman.mahalanobis_embed`, `Kalman.gain_embed`, `Kalman.posterior_embed` — so they do not
  matter to the gate, the correction and the covariance.
-/

variable {k m n : Type*} [Fintype k] [DecidableEq k] [Fintype m] [DecidableEq m]
  [Fintype n] [DecidableEq n]

/-! ### Selecting rows -/

/-- The matrix that selects the rows `f`. -/
def selection (f : k → m) : Matrix k m ℝ := (1 : Matrix m m ℝ).submatrix f id

section Selection

variable {f : k → m}

omit [Fintype k] in
/-- Rows that are put among zeros can be selected again. -/
theorem selection_mul_transpose (hf : Function.Injective f) :
    selection f * (selection f)ᵀ = 1 := by
  ext a b
  simp [selection, Matrix.mul_apply, Matrix.one_apply, hf.eq_iff, eq_comm]

omit [DecidableEq k] [Fintype m] in
/-- A sum over the selected rows sees each row of the range once. -/
theorem transpose_selection_mulVec (hf : Function.Injective f) (v : m → ℝ)
    (hv : ∀ i, i ∉ Set.range f → v i = 0) : (selection f)ᵀ *ᵥ (v ∘ f) = v := by
  ext i
  simp only [mulVec, dotProduct, transpose_apply, selection, submatrix_apply, id, one_apply,
    Function.comp_apply, ite_mul, one_mul, zero_mul]
  by_cases hi : i ∈ Set.range f
  · obtain ⟨a, rfl⟩ := hi
    rw [Finset.sum_eq_single a]
    · rw [if_pos rfl]
    · intro b _ hb
      exact if_neg fun h => hb (hf h)
    · intro ha
      exact absurd (Finset.mem_univ a) ha
  · rw [hv i hi]
    refine Finset.sum_eq_zero fun a _ => if_neg fun h => hi ⟨a, h⟩

omit [DecidableEq k] [Fintype m] [DecidableEq n] [Fintype n] in
@[inherit_doc transpose_selection_mulVec]
theorem transpose_selection_mul (hf : Function.Injective f) (A : Matrix m n ℝ)
    (hA : ∀ i, i ∉ Set.range f → A i = 0) : (selection f)ᵀ * A.submatrix f id = A := by
  ext i j
  have hcol := congrFun (transpose_selection_mulVec hf (fun i => A i j) fun i hi => by
    rw [hA i hi, Pi.zero_apply]) i
  exact hcol

end Selection

/-! ### The update -/

namespace Kalman

variable {E : Matrix k m ℝ} {P : Matrix n n ℝ} {H : Matrix k n ℝ} {R : Matrix m m ℝ}
  {R' : Matrix k k ℝ}

omit [DecidableEq n] [DecidableEq m] in
/-- The innovation covariance of the selected rows. -/
theorem innovationCov_embed (hE : E * Eᵀ = 1) (hR : R * Eᵀ = Eᵀ * R') :
    innovationCov P (Eᵀ * H) R * Eᵀ = Eᵀ * innovationCov P H R' := by
  rw [innovationCov, innovationCov, Matrix.add_mul, Matrix.mul_add, hR, transpose_mul,
    transpose_transpose]
  calc Eᵀ * H * P * (Hᵀ * E) * Eᵀ + Eᵀ * R'
      = Eᵀ * (H * P * Hᵀ) * (E * Eᵀ) + Eᵀ * R' := by simp only [Matrix.mul_assoc]
    _ = Eᵀ * (H * P * Hᵀ) + Eᵀ * R' := by rw [hE, Matrix.mul_one]

section Embed

variable (hE : E * Eᵀ = 1) (hR : R * Eᵀ = Eᵀ * R') (hP : P.PosSemidef) (hnoise : R.PosDef)
  (hnoise' : R'.PosDef)

include hE hR hP hnoise hnoise'

omit [DecidableEq n] in
/-- The inverse of the innovation covariance, at the selected rows. -/
theorem inv_innovationCov_embed :
    (innovationCov P (Eᵀ * H) R)⁻¹ * Eᵀ = Eᵀ * (innovationCov P H R')⁻¹ := by
  have hembed := innovationCov_embed (P := P) (H := H) hE hR
  have hS := (isUnit_iff_isUnit_det _).mp (posDef_innovationCov (H := Eᵀ * H) hP hnoise).isUnit
  have hS' := (isUnit_iff_isUnit_det _).mp (posDef_innovationCov (H := H) hP hnoise').isUnit
  calc (innovationCov P (Eᵀ * H) R)⁻¹ * Eᵀ
      = (innovationCov P (Eᵀ * H) R)⁻¹
          * (Eᵀ * innovationCov P H R') * (innovationCov P H R')⁻¹ := by
        rw [Matrix.mul_assoc, mul_nonsing_inv_cancel_right _ _ hS']
    _ = Eᵀ * (innovationCov P H R')⁻¹ := by
        rw [← hembed, nonsing_inv_mul_cancel_left _ _ hS]

omit [DecidableEq n] in
/-- The distance of an innovation whose other rows are zero. -/
theorem mahalanobis_embed (dz : k → ℝ) :
    mahalanobis P (Eᵀ * H) R (Eᵀ *ᵥ dz) = mahalanobis P H R' dz := by
  have hinv := inv_innovationCov_embed (H := H) hE hR hP hnoise hnoise'
  rw [mahalanobis, mahalanobis, mulVec_mulVec, hinv, ← mulVec_mulVec, dotProduct_mulVec,
    vecMul_transpose, mulVec_mulVec, hE, one_mulVec]

omit [DecidableEq n] in
/-- The gain has no column for the other rows. -/
theorem gain_embed : gain P (Eᵀ * H) R = gain P H R' * E := by
  have hS := transpose_eq (posDef_innovationCov (H := Eᵀ * H) hP hnoise).posSemidef
  have hS' := transpose_eq (posDef_innovationCov (H := H) hP hnoise').posSemidef
  have hinv := congrArg transpose (inv_innovationCov_embed (H := H) hE hR hP hnoise hnoise')
  rw [transpose_mul, transpose_mul, transpose_transpose, transpose_nonsing_inv,
    transpose_nonsing_inv, hS, hS'] at hinv
  rw [gain, gain, transpose_mul, transpose_transpose, ← Matrix.mul_assoc, Matrix.mul_assoc, hinv,
    ← Matrix.mul_assoc]

omit [DecidableEq n] in
/-- The correction. -/
theorem gain_mulVec_embed (dz : k → ℝ) :
    gain P (Eᵀ * H) R *ᵥ (Eᵀ *ᵥ dz) = gain P H R' *ᵥ dz := by
  rw [gain_embed hE hR hP hnoise hnoise', mulVec_mulVec, Matrix.mul_assoc, hE, Matrix.mul_one]

omit [DecidableEq n] in
/-- The covariance. -/
theorem posterior_embed : posterior P (Eᵀ * H) R = posterior P H R' := by
  rw [posterior, posterior, gain_embed hE hR hP hnoise hnoise', ← Matrix.mul_assoc,
    Matrix.mul_assoc (gain P H R') E, hE, Matrix.mul_one]

end Embed

end Kalman

end FalconGuide.Lib
