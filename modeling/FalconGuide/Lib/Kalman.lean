import FalconGuide.Lib.Numerals
import Mathlib.Algebra.Order.Star.Real
import Mathlib.Analysis.Matrix.Order
import Mathlib.LinearAlgebra.Matrix.PosDef
import Mathlib.Tactic.Module
import Mathlib.Tactic.Linarith

namespace FalconGuide.Lib

open Matrix

/-!
# Linear measurement updates

The covariance side of a Kalman update, over any finite index types and exact reals.

* `Kalman.gain_congr` — what an update takes off the covariance;
* `Kalman.joseph` — the Joseph form, which keeps a covariance positive semidefinite for every
  gain;
* `Kalman.gain` / `Kalman.posterior` — the optimal gain and the covariance it leaves;
* `Kalman.posSemidef_sub_posterior` — which is not above the prior;
* `Kalman.posterior_mul` — the information form, `P⁺ (1 + Hᵀ R⁻¹ H P) = P`;
* `Kalman.eq_of_mul_information` — the information form determines the posterior;
* `Kalman.isUnit_innovationCov_iff` — which innovation covariances can be inverted;
* `Kalman.variance_joseph_pos` — an observation with noise makes nothing certain;
* `Kalman.congr_joseph_of_exact` — what an observation without noise leaves.
-/

namespace Kalman

variable {n m : Type*} [Fintype n] [DecidableEq n] [Fintype m] [DecidableEq m]

/-! ### Symmetric parts -/

/-- The mean of a matrix and its transpose. -/
noncomputable def symmetrize (A : Matrix n n ℝ) : Matrix n n ℝ := (1 / 2 : ℝ) • (A + Aᵀ)

omit [Fintype n] [DecidableEq n] in
/-- A symmetric matrix is its own symmetric part. -/
theorem symmetrize_of_isSymm {A : Matrix n n ℝ} (h : Aᵀ = A) : symmetrize A = A := by
  rw [symmetrize, h]
  module

omit [Fintype n] [DecidableEq n] in
/-- A positive semidefinite real matrix is symmetric. -/
theorem transpose_eq {P : Matrix n n ℝ} (h : P.PosSemidef) : Pᵀ = P := by
  have hP := h.isHermitian
  rwa [Matrix.IsHermitian, conjTranspose_eq_transpose_of_trivial] at hP

omit [Fintype n] [DecidableEq n] in
/-- The symmetric part of a positive semidefinite matrix is positive semidefinite. -/
theorem posSemidef_symmetrize {A : Matrix n n ℝ} (h : A.PosSemidef) :
    (symmetrize A).PosSemidef := by
  rw [symmetrize_of_isSymm (transpose_eq h)]
  exact h

omit [DecidableEq n] [DecidableEq m] in
/-- A congruence of a positive semidefinite matrix is positive semidefinite. -/
theorem posSemidef_congr {P : Matrix n n ℝ} (h : P.PosSemidef) (A : Matrix m n ℝ) :
    (A * P * Aᵀ).PosSemidef := by
  have hA := h.mul_mul_conjTranspose_same A
  rwa [conjTranspose_eq_transpose_of_trivial] at hA

/-- A congruence of a positive definite matrix with one that can be inverted is positive
    definite. -/
theorem posDef_congr {P : Matrix n n ℝ} (h : P.PosDef) {A : Matrix n n ℝ} (hA : IsUnit A) :
    (A * P * Aᵀ).PosDef := by
  have hcongr := h.mul_mul_conjTranspose_same (vecMul_injective_of_isUnit hA)
  rwa [conjTranspose_eq_transpose_of_trivial] at hcongr

omit [DecidableEq n] [DecidableEq m] in
/-- Two positive semidefinite matrices without correlation. -/
theorem posSemidef_fromBlocks {A : Matrix n n ℝ} {B : Matrix m m ℝ} (hA : A.PosSemidef)
    (hB : B.PosSemidef) : (fromBlocks A 0 0 B).PosSemidef := by
  refine .of_dotProduct_mulVec_nonneg ?_ fun x => ?_
  · exact hA.isHermitian.fromBlocks (by simp) hB.isHermitian
  · have hAx : 0 ≤ (x ∘ Sum.inl) ⬝ᵥ (A *ᵥ (x ∘ Sum.inl)) := by
      simpa using hA.dotProduct_mulVec_nonneg (x ∘ Sum.inl)
    have hBx : 0 ≤ (x ∘ Sum.inr) ⬝ᵥ (B *ᵥ (x ∘ Sum.inr)) := by
      simpa using hB.dotProduct_mulVec_nonneg (x ∘ Sum.inr)
    rw [star_trivial, fromBlocks_mulVec, dotProduct_block, Sum.elim_comp_inl, Sum.elim_comp_inr,
      zero_mulVec, zero_mulVec, add_zero, zero_add]
    exact add_nonneg hAx hBx

omit [DecidableEq n] [DecidableEq m] in
/-- Two positive definite matrices without correlation. -/
theorem posDef_fromBlocks {A : Matrix n n ℝ} {B : Matrix m m ℝ} (hA : A.PosDef) (hB : B.PosDef) :
    (fromBlocks A 0 0 B).PosDef := by
  refine .of_dotProduct_mulVec_pos ?_ fun x hx => ?_
  · exact hA.isHermitian.fromBlocks (by simp) hB.isHermitian
  · have hAx : 0 ≤ (x ∘ Sum.inl) ⬝ᵥ (A *ᵥ (x ∘ Sum.inl)) := by
      simpa using hA.posSemidef.dotProduct_mulVec_nonneg (x ∘ Sum.inl)
    have hBx : 0 ≤ (x ∘ Sum.inr) ⬝ᵥ (B *ᵥ (x ∘ Sum.inr)) := by
      simpa using hB.posSemidef.dotProduct_mulVec_nonneg (x ∘ Sum.inr)
    rw [star_trivial, fromBlocks_mulVec, dotProduct_block, Sum.elim_comp_inl, Sum.elim_comp_inr,
      zero_mulVec, zero_mulVec, add_zero, zero_add]
    -- one of the two parts does not vanish
    by_cases hl : x ∘ Sum.inl = 0
    · have hr : x ∘ Sum.inr ≠ 0 := by
        intro hr
        apply hx
        rw [← Sum.elim_comp_inl_inr x, hl, hr]
        exact Sum.elim_zero_zero
      have hpos := hB.dotProduct_mulVec_pos hr
      rw [star_trivial] at hpos
      exact add_pos_of_nonneg_of_pos hAx hpos
    · have hpos := hA.dotProduct_mulVec_pos hl
      rw [star_trivial] at hpos
      exact add_pos_of_pos_of_nonneg hpos hBx

omit [Fintype n] [DecidableEq n] in
/-- A gain `C S⁻¹` takes `C S⁻¹ Cᵀ` off the covariance. -/
theorem gain_congr {S : Matrix m m ℝ} (hS : S.PosDef) (C : Matrix n m ℝ) :
    C * S⁻¹ * S * (C * S⁻¹)ᵀ = C * S⁻¹ * Cᵀ := by
  have hunit := (isUnit_iff_isUnit_det _).mp hS.isUnit
  rw [transpose_mul, transpose_nonsing_inv, transpose_eq hS.posSemidef,
    nonsing_inv_mul_cancel_right _ _ hunit, Matrix.mul_assoc]

/-! ### The Joseph form -/

/-- The Joseph form of the covariance update with gain `K`. -/
def joseph (P : Matrix n n ℝ) (H : Matrix m n ℝ) (R : Matrix m m ℝ) (K : Matrix n m ℝ) :
    Matrix n n ℝ :=
  (1 - K * H) * P * (1 - K * H)ᵀ + K * R * Kᵀ

omit [DecidableEq m] in
/-- **Joseph form.** Whatever the gain, the update keeps a covariance positive semidefinite. -/
theorem posSemidef_joseph {P : Matrix n n ℝ} {R : Matrix m m ℝ} (hP : P.PosSemidef)
    (hR : R.PosSemidef) (H : Matrix m n ℝ) (K : Matrix n m ℝ) :
    (joseph P H R K).PosSemidef :=
  (posSemidef_congr hP _).add (posSemidef_congr hR _)

/-! ### The optimal gain -/

/-- The covariance of the innovation. -/
def innovationCov (P : Matrix n n ℝ) (H : Matrix m n ℝ) (R : Matrix m m ℝ) : Matrix m m ℝ :=
  H * P * Hᵀ + R

/-- The optimal gain. -/
noncomputable def gain (P : Matrix n n ℝ) (H : Matrix m n ℝ) (R : Matrix m m ℝ) :
    Matrix n m ℝ :=
  P * Hᵀ * (innovationCov P H R)⁻¹

/-- The squared Mahalanobis distance of an innovation. -/
noncomputable def mahalanobis (P : Matrix n n ℝ) (H : Matrix m n ℝ) (R : Matrix m m ℝ)
    (dz : m → ℝ) : ℝ :=
  dz ⬝ᵥ ((innovationCov P H R)⁻¹ *ᵥ dz)

/-- The covariance after an update with the optimal gain. -/
noncomputable def posterior (P : Matrix n n ℝ) (H : Matrix m n ℝ) (R : Matrix m m ℝ) :
    Matrix n n ℝ :=
  P - gain P H R * H * P

section Gain

variable {P : Matrix n n ℝ} {H : Matrix m n ℝ} {R : Matrix m m ℝ}

omit [DecidableEq n] [DecidableEq m] in
/-- With positive definite noise the innovation covariance is positive definite. -/
theorem posDef_innovationCov (hP : P.PosSemidef) (hR : R.PosDef) :
    (innovationCov P H R).PosDef :=
  .posSemidef_add (posSemidef_congr hP H) hR

omit [DecidableEq n] in
/-- The gain times the innovation covariance. -/
theorem gain_mul_innovationCov (hP : P.PosSemidef) (hR : R.PosDef) :
    gain P H R * innovationCov P H R = P * Hᵀ := by
  have hunit := (posDef_innovationCov (H := H) hP hR).isUnit
  rw [gain, Matrix.mul_assoc, Matrix.nonsing_inv_mul _ ((isUnit_iff_isUnit_det _).mp hunit),
    Matrix.mul_one]

/-- With the optimal gain the Joseph form is the posterior. -/
theorem joseph_gain (hP : P.PosSemidef) (hR : R.PosDef) :
    joseph P H R (gain P H R) = posterior P H R := by
  have hK := gain_mul_innovationCov (H := H) hP hR
  rw [posterior, joseph]
  generalize gain P H R = K at hK
  calc (1 - K * H) * P * (1 - K * H)ᵀ + K * R * Kᵀ
      = P - K * H * P - P * Hᵀ * Kᵀ + K * innovationCov P H R * Kᵀ := by
        simp only [innovationCov, transpose_sub, transpose_one, transpose_mul, Matrix.sub_mul,
          Matrix.mul_sub, Matrix.one_mul, Matrix.mul_one, Matrix.mul_add, Matrix.add_mul,
          Matrix.mul_assoc]
        abel
    _ = P - K * H * P := by rw [hK]; abel

/-- The posterior is a covariance. -/
theorem posSemidef_posterior (hP : P.PosSemidef) (hR : R.PosDef) :
    (posterior P H R).PosSemidef := by
  rw [← joseph_gain hP hR]
  exact posSemidef_joseph hP hR.posSemidef _ _

omit [DecidableEq n] in
/-- The update takes `K S Kᵀ` off the prior. -/
theorem posterior_eq_sub_congr (hP : P.PosSemidef) (hR : R.PosDef) :
    posterior P H R = P - gain P H R * innovationCov P H R * (gain P H R)ᵀ := by
  have hS := posDef_innovationCov (H := H) hP hR
  have hPt := transpose_eq hP
  rw [posterior, gain, gain_congr hS, transpose_mul, transpose_transpose, hPt]
  simp only [Matrix.mul_assoc]

omit [DecidableEq n] in
/-- **The posterior is not above the prior.** -/
theorem posSemidef_sub_posterior (hP : P.PosSemidef) (hR : R.PosDef) :
    (P - posterior P H R).PosSemidef := by
  rw [posterior_eq_sub_congr hP hR, sub_sub_cancel]
  exact posSemidef_congr (posDef_innovationCov hP hR).posSemidef _

omit [DecidableEq n] in
/-- The gain is the posterior times `Hᵀ R⁻¹`. -/
theorem gain_eq (hP : P.PosSemidef) (hR : R.PosDef) :
    gain P H R = posterior P H R * (Hᵀ * R⁻¹) := by
  have hK := gain_mul_innovationCov (H := H) hP hR
  have hunit := (isUnit_iff_isUnit_det _).mp hR.isUnit
  rw [posterior]
  generalize gain P H R = K at hK
  have hnoise : (P - K * H * P) * Hᵀ = K * R := by
    calc (P - K * H * P) * Hᵀ = P * Hᵀ - K * (H * P * Hᵀ) := by
          simp only [Matrix.sub_mul, Matrix.mul_assoc]
      _ = K * innovationCov P H R - K * (H * P * Hᵀ) := by rw [hK]
      _ = K * R := by rw [innovationCov, Matrix.mul_add]; abel
  rw [← Matrix.mul_assoc, hnoise, Matrix.mul_nonsing_inv_cancel_right _ _ hunit]

/-- **Information form.** The posterior times `1 + Hᵀ R⁻¹ H P` is the prior. -/
theorem posterior_mul (hP : P.PosSemidef) (hR : R.PosDef) :
    posterior P H R * (1 + Hᵀ * R⁻¹ * H * P) = P := by
  have hK := gain_eq (H := H) hP hR
  calc posterior P H R * (1 + Hᵀ * R⁻¹ * H * P)
      = posterior P H R + posterior P H R * (Hᵀ * R⁻¹) * H * P := by
        simp only [Matrix.mul_add, Matrix.mul_one, Matrix.mul_assoc]
    _ = posterior P H R + gain P H R * H * P := by rw [← hK]
    _ = P := by rw [posterior]; abel

omit [DecidableEq m] in
/-- For positive semidefinite `Λ` and `P` the matrix `1 + Λ P` is invertible. -/
theorem isUnit_one_add_mul {Λ : Matrix n n ℝ} (hΛ : Λ.PosSemidef) (hP : P.PosSemidef) :
    IsUnit (1 + Λ * P) := by
  rw [← Matrix.mulVec_injective_iff_isUnit]
  refine (injective_iff_map_eq_zero (1 + Λ * P).mulVecLin).mpr fun v hv => ?_
  have hv' : v = -(Λ *ᵥ (P *ᵥ v)) := by
    rw [mulVecLin_apply, Matrix.add_mulVec, one_mulVec, ← mulVec_mulVec] at hv
    exact eq_neg_of_add_eq_zero_left hv
  -- both quadratic forms are non-negative, and their sum vanishes
  have hP0 : 0 ≤ v ⬝ᵥ (P *ᵥ v) := by simpa using hP.dotProduct_mulVec_nonneg v
  have hΛ0 : 0 ≤ (P *ᵥ v) ⬝ᵥ (Λ *ᵥ (P *ᵥ v)) := by
    simpa using hΛ.dotProduct_mulVec_nonneg (P *ᵥ v)
  have hsum : v ⬝ᵥ (P *ᵥ v) = -((P *ᵥ v) ⬝ᵥ (Λ *ᵥ (P *ᵥ v))) := by
    conv_lhs => rw [hv', neg_dotProduct, dotProduct_comm]
    rw [← hv']
  have hzero : Λ *ᵥ (P *ᵥ v) = 0 := by
    refine (hΛ.dotProduct_mulVec_zero_iff _).mp ?_
    rw [star_trivial]
    linarith
  rw [hv', hzero, neg_zero]

/-- **The information form determines the posterior.** -/
theorem eq_of_mul_information {Λ Q Q' : Matrix n n ℝ} (hΛ : Λ.PosSemidef) (hP : P.PosSemidef)
    (hQ : Q * (1 + Λ * P) = P) (hQ' : Q' * (1 + Λ * P) = P) : Q = Q' :=
  (isUnit_one_add_mul hΛ hP).mul_right_cancel (hQ.trans hQ'.symm)

end Gain

/-! ### Without noise in every component -/

/-- The variance that a covariance gives a linear combination. -/
def variance (P : Matrix n n ℝ) (x : n → ℝ) : ℝ := x ⬝ᵥ (P *ᵥ x)

omit [DecidableEq n] in
@[simp] theorem variance_zero (P : Matrix n n ℝ) : variance P 0 = 0 := zero_dotProduct _

omit [DecidableEq n] in
theorem variance_nonneg {P : Matrix n n ℝ} (hP : P.PosSemidef) (x : n → ℝ) : 0 ≤ variance P x :=
  hP.dotProduct_mulVec_nonneg x

omit [DecidableEq n] [DecidableEq m] in
theorem variance_congr (P : Matrix n n ℝ) (H : Matrix m n ℝ) (x : m → ℝ) :
    variance (H * P * Hᵀ) x = variance P (Hᵀ *ᵥ x) := by
  rw [variance, variance, ← mulVec_mulVec, ← mulVec_mulVec, dotProduct_mulVec, mulVec_transpose]

omit [DecidableEq n] in
theorem variance_add (P Q : Matrix n n ℝ) (x : n → ℝ) :
    variance (P + Q) x = variance P x + variance Q x := by
  rw [variance, add_mulVec, dotProduct_add]
  rfl

omit [DecidableEq n] in
theorem variance_symmetrize (A : Matrix n n ℝ) (x : n → ℝ) :
    variance (symmetrize A) x = variance A x := by
  have htranspose : x ⬝ᵥ (Aᵀ *ᵥ x) = x ⬝ᵥ (A *ᵥ x) := by
    rw [dotProduct_mulVec, vecMul_transpose, dotProduct_comm]
  rw [variance, symmetrize, smul_mulVec, dotProduct_smul, add_mulVec, dotProduct_add, htranspose,
    smul_eq_mul, variance]
  ring

omit [DecidableEq m] in
/-- **Nothing becomes certain** by an observation with noise in every component, whatever the
    gain. -/
theorem variance_joseph_pos {P : Matrix n n ℝ} {H : Matrix m n ℝ} {R : Matrix m m ℝ}
    (hP : P.PosSemidef) (hR : R.PosDef) (K : Matrix n m ℝ) {x : n → ℝ} (hx : 0 < variance P x) :
    0 < variance (joseph P H R K) x := by
  rw [joseph, variance_add, variance_congr, variance_congr]
  by_cases hgain : Kᵀ *ᵥ x = 0
  · -- what the gain does not see stays as it was
    have hkept : (1 - K * H)ᵀ *ᵥ x = x := by
      rw [transpose_sub, transpose_one, transpose_mul, sub_mulVec, one_mulVec, ← mulVec_mulVec,
        hgain, mulVec_zero, sub_zero]
    rw [hkept, hgain]
    exact add_pos_of_pos_of_nonneg hx (variance_nonneg hR.posSemidef 0)
  · exact add_pos_of_nonneg_of_pos (variance_nonneg hP _) (hR.dotProduct_mulVec_pos hgain)

omit [DecidableEq n] in
/-- **Which innovation covariances can be inverted.** Nothing that is observed may be certain under
    the prior and observed without noise. -/
theorem isUnit_innovationCov_iff {P : Matrix n n ℝ} {H : Matrix m n ℝ} {R : Matrix m m ℝ}
    (hP : P.PosSemidef) (hR : R.PosSemidef) :
    IsUnit (innovationCov P H R) ↔
      ∀ x : m → ℝ, x ≠ 0 → 0 < variance P (Hᵀ *ᵥ x) ∨ 0 < variance R x := by
  have hS : (innovationCov P H R).PosSemidef := (posSemidef_congr hP H).add hR
  have hsum : ∀ x, x ⬝ᵥ (innovationCov P H R *ᵥ x) = variance P (Hᵀ *ᵥ x) + variance R x :=
    fun x => by
      rw [innovationCov, add_mulVec, dotProduct_add, ← variance_congr]
      rfl
  rw [← hS.posDef_iff_isUnit]
  constructor
  · intro h x hx
    have hpos : 0 < variance P (Hᵀ *ᵥ x) + variance R x := by
      rw [← hsum]
      exact h.dotProduct_mulVec_pos hx
    by_contra hnot
    rw [not_or, not_lt, not_lt] at hnot
    linarith
  · intro h
    refine .of_dotProduct_mulVec_pos hS.isHermitian fun x hx => ?_
    have hP0 := variance_nonneg hP (Hᵀ *ᵥ x)
    have hR0 := variance_nonneg hR x
    rw [star_trivial, hsum]
    rcases h x hx with hpos | hpos
    · linarith
    · linarith

/-- An observation without noise leaves no variance in what it observes. -/
theorem congr_joseph_of_exact {P : Matrix n n ℝ} {H : Matrix m n ℝ}
    (hS : IsUnit (innovationCov P H 0)) :
    H * joseph P H 0 (P * Hᵀ * (innovationCov P H 0)⁻¹) * Hᵀ = 0 := by
  have hcancel : H * (1 - P * Hᵀ * (innovationCov P H 0)⁻¹ * H) = 0 := by
    have hprod : H * (P * Hᵀ * (innovationCov P H 0)⁻¹ * H)
        = innovationCov P H 0 * (innovationCov P H 0)⁻¹ * H := by
      rw [innovationCov, add_zero]
      simp only [Matrix.mul_assoc]
    rw [Matrix.mul_sub, Matrix.mul_one, hprod,
      Matrix.mul_nonsing_inv _ ((isUnit_iff_isUnit_det _).mp hS), Matrix.one_mul, sub_self]
  rw [joseph, Matrix.mul_zero, Matrix.zero_mul, add_zero, ← Matrix.mul_assoc, ← Matrix.mul_assoc,
    hcancel, Matrix.zero_mul, Matrix.zero_mul, Matrix.zero_mul]

end Kalman

end FalconGuide.Lib
