import FalconGuide.Lib.Kalman
import Mathlib.Algebra.BigOperators.Fin

namespace FalconGuide.Lib

open Matrix
open scoped BigOperators

/-!
# Scalar updates in sequence and one batch update

A list of scalar observations with independent noise, used one after the other or all at once.

* `Kalman.Row` — a scalar observation;
* `Kalman.batchCov` / `Kalman.batchCorrection` — the update that stacks all observations;
* `Kalman.batchCov_cons` — an observation may be taken first, alone;
* `Kalman.foldl_scalarPosterior` — the covariance of scalar updates in sequence is the batch one;
* `Kalman.batchCorrection_append_singleton` — the correction of scalar updates in sequence;
* `Kalman.sumGains_eq_iff` — when the sum of the gains times the innovations, without regard to
  what the earlier observations already corrected, is the batch correction.
-/

namespace Kalman

variable {n : Type*} [Fintype n] [DecidableEq n]

/-- A scalar observation: its row, its innovation and the standard deviation of its noise. -/
structure Row (n : Type*) where
  h : n → ℝ
  innovation : ℝ
  sigma : ℝ

/-! ### The batch update -/

/-- The rows of the observations. -/
def stackH (rows : List (Row n)) : Matrix (Fin rows.length) n ℝ := Matrix.of fun i => rows[i].h

/-- The diagonal noise covariance of the observations. -/
def stackNoise (rows : List (Row n)) : Matrix (Fin rows.length) (Fin rows.length) ℝ :=
  diagonal fun i => rows[i].sigma ^ 2

/-- The innovations of the observations. -/
def stackInnovation (rows : List (Row n)) : Fin rows.length → ℝ := fun i => rows[i].innovation

/-- The covariance after one update with all observations. -/
noncomputable def batchCov (P : Matrix n n ℝ) (rows : List (Row n)) : Matrix n n ℝ :=
  posterior P (stackH rows) (stackNoise rows)

/-- The correction of one update with all observations. -/
noncomputable def batchCorrection (P : Matrix n n ℝ) (rows : List (Row n)) : n → ℝ :=
  gain P (stackH rows) (stackNoise rows) *ᵥ stackInnovation rows

/-! ### Information -/

/-- The information of one observation. -/
noncomputable def Row.information (r : Row n) : Matrix n n ℝ :=
  (r.sigma ^ 2)⁻¹ • vecMulVec r.h r.h

/-- The innovation of one observation, weighted with its noise. -/
noncomputable def Row.weighted (r : Row n) : n → ℝ := ((r.sigma ^ 2)⁻¹ * r.innovation) • r.h

/-- The information of a list of observations. -/
noncomputable def information (rows : List (Row n)) : Matrix n n ℝ :=
  (rows.map Row.information).sum

/-- The weighted innovations of a list of observations. -/
noncomputable def weighted (rows : List (Row n)) : n → ℝ := (rows.map Row.weighted).sum

variable {P : Matrix n n ℝ} {rows : List (Row n)}

omit [Fintype n] [DecidableEq n] in
@[simp] theorem information_cons (r : Row n) (rows : List (Row n)) :
    information (r :: rows) = r.information + information rows := by
  simp [information]

omit [DecidableEq n] in
/-- Information is positive semidefinite. -/
theorem posSemidef_information (rows : List (Row n)) : (information rows).PosSemidef := by
  induction rows with
  | nil => exact .zero
  | cons r rows ih =>
    rw [information_cons]
    refine .add (.smul ?_ (by positivity)) ih
    simpa using posSemidef_vecMulVec_self_star r.h

omit [Fintype n] [DecidableEq n] in
/-- Positive standard deviations make the noise positive definite. -/
theorem posDef_stackNoise (hσ : ∀ r ∈ rows, 0 < r.sigma) : (stackNoise rows).PosDef := by
  refine .diagonal fun i => ?_
  have h := hσ rows[i] (List.getElem_mem _)
  positivity

omit [Fintype n] [DecidableEq n] in
/-- The inverse of the noise. -/
theorem inv_stackNoise (hσ : ∀ r ∈ rows, 0 < r.sigma) :
    (stackNoise rows)⁻¹ = diagonal fun i => (rows[i].sigma ^ 2)⁻¹ := by
  refine inv_eq_right_inv ?_
  rw [stackNoise, diagonal_mul_diagonal, ← diagonal_one]
  congr 1
  funext i
  have h := hσ rows[i] (List.getElem_mem _)
  exact mul_inv_cancel₀ (by positivity)

omit [Fintype n] [DecidableEq n] in
/-- The stacked rows carry the information of the observations. -/
theorem stackH_information (hσ : ∀ r ∈ rows, 0 < r.sigma) :
    (stackH rows)ᵀ * (stackNoise rows)⁻¹ * stackH rows = information rows := by
  rw [inv_stackNoise hσ, information, ← Fin.sum_univ_fun_getElem]
  ext a b
  rw [Matrix.sum_apply, Matrix.mul_apply]
  refine Finset.sum_congr rfl fun i _ => ?_
  rw [mul_diagonal]
  simp only [stackH, transpose_apply, of_apply, Row.information, Matrix.smul_apply,
    vecMulVec_apply, smul_eq_mul, Fin.getElem_fin]
  ring

omit [Fintype n] [DecidableEq n] in
/-- The stacked innovations are the weighted innovations. -/
theorem stackH_weighted (hσ : ∀ r ∈ rows, 0 < r.sigma) :
    ((stackH rows)ᵀ * (stackNoise rows)⁻¹) *ᵥ stackInnovation rows = weighted rows := by
  rw [inv_stackNoise hσ, weighted, ← Fin.sum_univ_fun_getElem]
  ext a
  rw [Finset.sum_apply, mulVec, dotProduct]
  refine Finset.sum_congr rfl fun i _ => ?_
  rw [mul_diagonal]
  simp only [stackH, stackInnovation, transpose_apply, of_apply, Row.weighted, Pi.smul_apply,
    smul_eq_mul, Fin.getElem_fin]
  ring

/-- The batch covariance in information form. -/
theorem batchCov_mul (hP : P.PosSemidef) (hσ : ∀ r ∈ rows, 0 < r.sigma) :
    batchCov P rows * (1 + information rows * P) = P := by
  rw [← stackH_information hσ]
  exact posterior_mul hP (posDef_stackNoise hσ)

omit [DecidableEq n] in
/-- The batch correction is the batch covariance times the weighted innovations. -/
theorem batchCorrection_eq (hP : P.PosSemidef) (hσ : ∀ r ∈ rows, 0 < r.sigma) :
    batchCorrection P rows = batchCov P rows *ᵥ weighted rows := by
  rw [batchCorrection, gain_eq hP (posDef_stackNoise hσ), ← stackH_weighted hσ, mulVec_mulVec]
  rfl

/-- A matrix with the information form of the batch covariance is the batch covariance. -/
theorem eq_batchCov {Q : Matrix n n ℝ} (hP : P.PosSemidef) (hσ : ∀ r ∈ rows, 0 < r.sigma)
    (hQ : Q * (1 + information rows * P) = P) : Q = batchCov P rows :=
  eq_of_mul_information (posSemidef_information rows) hP hQ (batchCov_mul hP hσ)

/-- The order of the observations does not matter to the batch update. -/
theorem batch_perm {rows' : List (Row n)} (h : rows.Perm rows') (hP : P.PosSemidef)
    (hσ : ∀ r ∈ rows, 0 < r.sigma) :
    batchCov P rows = batchCov P rows' ∧ batchCorrection P rows = batchCorrection P rows' := by
  have hσ' : ∀ r ∈ rows', 0 < r.sigma := fun r hr => hσ r (h.mem_iff.mpr hr)
  have hinfo : information rows = information rows' := (h.map _).sum_eq
  have hweighted : weighted rows = weighted rows' := (h.map _).sum_eq
  have hcov : batchCov P rows = batchCov P rows' :=
    eq_batchCov hP hσ' (hinfo ▸ batchCov_mul hP hσ)
  refine ⟨hcov, ?_⟩
  rw [batchCorrection_eq hP hσ, batchCorrection_eq hP hσ', hcov, hweighted]

/-! ### One scalar update -/

/-- The variance of the innovation of one observation. -/
def scalarVar (P : Matrix n n ℝ) (r : Row n) : ℝ := r.h ⬝ᵥ (P *ᵥ r.h) + r.sigma ^ 2

/-- The optimal gain of one observation. -/
noncomputable def scalarGain (P : Matrix n n ℝ) (r : Row n) : n → ℝ :=
  (scalarVar P r)⁻¹ • (P *ᵥ r.h)

/-- The Joseph form for one observation. -/
def scalarJoseph (P : Matrix n n ℝ) (r : Row n) (K : n → ℝ) : Matrix n n ℝ :=
  (1 - vecMulVec K r.h) * P * (1 - vecMulVec K r.h)ᵀ + r.sigma ^ 2 • vecMulVec K K

/-- The covariance after one observation. -/
noncomputable def scalarPosterior (P : Matrix n n ℝ) (r : Row n) : Matrix n n ℝ :=
  P - vecMulVec (scalarGain P r) (P *ᵥ r.h)

section Scalar

variable {r : Row n}

/-- The Joseph form for one observation keeps a covariance positive semidefinite, whatever the
    gain. -/
theorem posSemidef_scalarJoseph (hP : P.PosSemidef) (r : Row n) (K : n → ℝ) :
    (scalarJoseph P r K).PosSemidef := by
  refine .add (posSemidef_congr hP _) (.smul ?_ (sq_nonneg _))
  simpa using posSemidef_vecMulVec_self_star K

omit [DecidableEq n] in
/-- The variance of an innovation with noise is positive. -/
theorem scalarVar_pos (hP : P.PosSemidef) (hσ : 0 < r.sigma) : 0 < scalarVar P r := by
  have h : 0 ≤ r.h ⬝ᵥ (P *ᵥ r.h) := by simpa using hP.dotProduct_mulVec_nonneg r.h
  rw [scalarVar]
  positivity

omit [DecidableEq n] in
/-- The gain times the variance of the innovation. -/
theorem scalarVar_smul_gain (hP : P.PosSemidef) (hσ : 0 < r.sigma) :
    scalarVar P r • scalarGain P r = P *ᵥ r.h :=
  smul_inv_smul₀ (scalarVar_pos hP hσ).ne' _

omit [DecidableEq n] in
/-- A row from the left is the column from the right. -/
theorem vecMul_eq (hP : P.PosSemidef) (h : n → ℝ) : h ᵥ* P = P *ᵥ h := by
  conv_lhs => rw [← transpose_eq hP]
  rw [vecMul_transpose]

/-- With the optimal gain the Joseph form is the posterior. -/
theorem scalarJoseph_gain (hP : P.PosSemidef) (hσ : 0 < r.sigma) :
    scalarJoseph P r (scalarGain P r) = scalarPosterior P r := by
  have hK := scalarVar_smul_gain hP hσ
  rw [scalarPosterior, scalarJoseph]
  generalize scalarGain P r = K at hK
  have hcross : vecMulVec K r.h * P = vecMulVec K (P *ᵥ r.h) := by
    rw [vecMulVec_mul, vecMul_eq hP]
  have hquad : vecMulVec K (P *ᵥ r.h) * vecMulVec r.h K
      = (r.h ⬝ᵥ (P *ᵥ r.h)) • vecMulVec K K := by
    rw [vecMulVec_mul_vecMulVec, dotProduct_comm, vecMulVec_smul]
  have hvar : vecMulVec (P *ᵥ r.h) K
      = (r.h ⬝ᵥ (P *ᵥ r.h)) • vecMulVec K K + r.sigma ^ 2 • vecMulVec K K := by
    rw [← add_smul, ← smul_vecMulVec]
    exact congrArg (vecMulVec · K) hK.symm
  calc (1 - vecMulVec K r.h) * P * (1 - vecMulVec K r.h)ᵀ + r.sigma ^ 2 • vecMulVec K K
      = P - vecMulVec K (P *ᵥ r.h) - vecMulVec (P *ᵥ r.h) K
          + vecMulVec K (P *ᵥ r.h) * vecMulVec r.h K + r.sigma ^ 2 • vecMulVec K K := by
        rw [transpose_sub, transpose_one, transpose_vecMulVec, Matrix.sub_mul, Matrix.one_mul,
          hcross, Matrix.mul_sub, Matrix.mul_one, Matrix.sub_mul, mul_vecMulVec]
        abel
    _ = P - vecMulVec K (P *ᵥ r.h) := by rw [hquad, hvar]; abel

omit [DecidableEq n] in
/-- The gain in terms of the posterior. -/
theorem scalarGain_eq (hP : P.PosSemidef) (hσ : 0 < r.sigma) :
    scalarGain P r = (r.sigma ^ 2)⁻¹ • (scalarPosterior P r *ᵥ r.h) := by
  have hK := scalarVar_smul_gain hP hσ
  rw [scalarPosterior]
  generalize scalarGain P r = K at hK
  have hpost : (P - vecMulVec K (P *ᵥ r.h)) *ᵥ r.h = r.sigma ^ 2 • K := by
    have hquad : vecMulVec K (P *ᵥ r.h) *ᵥ r.h = (r.h ⬝ᵥ (P *ᵥ r.h)) • K := by
      rw [vecMulVec_mulVec, dotProduct_comm, op_smul_eq_smul]
    rw [sub_mulVec, hquad, sub_eq_iff_eq_add, ← add_smul, add_comm]
    exact hK.symm
  rw [hpost, inv_smul_smul₀ (by positivity)]

/-- The information form of one update. -/
theorem scalarPosterior_mul (hP : P.PosSemidef) (hσ : 0 < r.sigma) :
    scalarPosterior P r * (1 + r.information * P) = P := by
  have hK := scalarGain_eq hP hσ
  calc scalarPosterior P r * (1 + r.information * P)
      = scalarPosterior P r
          + vecMulVec ((r.sigma ^ 2)⁻¹ • (scalarPosterior P r *ᵥ r.h)) (P *ᵥ r.h) := by
        rw [Matrix.mul_add, Matrix.mul_one, Row.information, Matrix.smul_mul, vecMulVec_mul,
          vecMul_eq hP, Matrix.mul_smul, mul_vecMulVec, smul_vecMulVec]
    _ = P := by rw [← hK, scalarPosterior]; abel

end Scalar

/-! ### Scalar updates in sequence -/

/-- The covariance after one observation is positive semidefinite. -/
theorem posSemidef_scalarPosterior {r : Row n} (hP : P.PosSemidef) (hσ : 0 < r.sigma) :
    (scalarPosterior P r).PosSemidef := by
  rw [← scalarJoseph_gain hP hσ]
  exact posSemidef_scalarJoseph hP r _

/-- **An observation may be taken first.** The batch covariance is the one of the remaining
    observations from the covariance after the first. -/
theorem batchCov_cons {r : Row n} (hP : P.PosSemidef) (hr : 0 < r.sigma)
    (hσ : ∀ r' ∈ rows, 0 < r'.sigma) :
    batchCov P (r :: rows) = batchCov (scalarPosterior P r) rows := by
  refine (eq_batchCov hP (by simpa using ⟨hr, hσ⟩) ?_).symm
  have hfirst := scalarPosterior_mul hP hr
  have hrest := batchCov_mul (posSemidef_scalarPosterior hP hr) hσ
  have hstep : information rows * scalarPosterior P r * (1 + r.information * P)
      = information rows * P := by rw [Matrix.mul_assoc, hfirst]
  calc batchCov (scalarPosterior P r) rows * (1 + information (r :: rows) * P)
      = batchCov (scalarPosterior P r) rows
          * ((1 + r.information * P) + information rows * P) := by
        rw [information_cons, Matrix.add_mul, ← add_assoc]
    _ = batchCov (scalarPosterior P r) rows * (1 + information rows * scalarPosterior P r)
          * (1 + r.information * P) := by
        rw [← hstep, Matrix.mul_assoc (batchCov _ _), Matrix.add_mul, Matrix.one_mul]
    _ = P := by rw [hrest, hfirst]

/-- No observation leaves the covariance as it is. -/
theorem batchCov_nil (hP : P.PosSemidef) : batchCov P [] = P :=
  (eq_batchCov hP (by simp) (by simp [information])).symm

/-- The covariance of scalar updates in sequence is the batch covariance. -/
theorem foldl_scalarPosterior (hP : P.PosSemidef) (hσ : ∀ r ∈ rows, 0 < r.sigma) :
    rows.foldl scalarPosterior P = batchCov P rows := by
  induction rows generalizing P with
  | nil => rw [List.foldl_nil, batchCov_nil hP]
  | cons r rows ih =>
    have hr : 0 < r.sigma := hσ r (by simp)
    have hrows : ∀ r' ∈ rows, 0 < r'.sigma := fun r' h => hσ r' (by simp [h])
    rw [List.foldl_cons, ih (posSemidef_scalarPosterior hP hr) hrows, batchCov_cons hP hr hrows]

omit [Fintype n] [DecidableEq n] in
theorem weighted_append_singleton (rows : List (Row n)) (r : Row n) :
    weighted (rows ++ [r]) = weighted rows + r.weighted := by
  simp [weighted]

omit [Fintype n] [DecidableEq n] in
/-- One more observation with noise. -/
theorem sigma_pos_append {r : Row n} (hσ : ∀ r ∈ rows, 0 < r.sigma) (hr : 0 < r.sigma) :
    ∀ r' ∈ rows ++ [r], 0 < r'.sigma := by
  intro r' h
  rcases List.mem_append.mp h with h | h
  · exact hσ r' h
  · rw [List.mem_singleton.mp h]
    exact hr

/-- One more observation, after the others: the covariance. -/
theorem batchCov_append_singleton {r : Row n} (hP : P.PosSemidef) (hσ : ∀ r ∈ rows, 0 < r.sigma)
    (hr : 0 < r.sigma) :
    batchCov P (rows ++ [r]) = scalarPosterior (batchCov P rows) r := by
  have hall := sigma_pos_append hσ hr
  rw [← foldl_scalarPosterior hP hall, List.foldl_append, foldl_scalarPosterior hP hσ]
  rfl

/-- The batch covariance is positive semidefinite. -/
theorem posSemidef_batchCov (hP : P.PosSemidef) (hσ : ∀ r ∈ rows, 0 < r.sigma) :
    (batchCov P rows).PosSemidef := by
  rw [batchCov, ← joseph_gain hP (posDef_stackNoise hσ)]
  exact posSemidef_joseph hP (posDef_stackNoise hσ).posSemidef _ _

/-- **One more observation, after the others.** Its gain applies to what its innovation has left
    once the correction of the others is taken off. -/
theorem batchCorrection_append_singleton {r : Row n} (hP : P.PosSemidef)
    (hσ : ∀ r ∈ rows, 0 < r.sigma) (hr : 0 < r.sigma) :
    batchCorrection P (rows ++ [r])
      = batchCorrection P rows
        + (r.innovation - r.h ⬝ᵥ batchCorrection P rows) • scalarGain (batchCov P rows) r := by
  have hall := sigma_pos_append hσ hr
  have hQ := posSemidef_batchCov hP hσ
  have hδ := batchCorrection_eq hP hσ
  have hnew : scalarPosterior (batchCov P rows) r *ᵥ r.weighted
      = r.innovation • scalarGain (batchCov P rows) r := by
    rw [scalarGain_eq hQ hr, Row.weighted, mulVec_smul, smul_smul, mul_comm]
  have hold : scalarPosterior (batchCov P rows) r *ᵥ weighted rows
      = batchCorrection P rows
        - (r.h ⬝ᵥ batchCorrection P rows) • scalarGain (batchCov P rows) r := by
    rw [scalarPosterior, sub_mulVec, vecMulVec_mulVec, op_smul_eq_smul, ← hδ, ← vecMul_eq hQ,
      ← dotProduct_mulVec, ← hδ]
  rw [batchCorrection_eq hP hall, batchCov_append_singleton hP hσ hr, weighted_append_singleton,
    mulVec_add, hnew, hold, sub_smul]
  abel

/-! ### Innovations that ignore the earlier corrections -/

/-- The gains of scalar updates in sequence, each times its own innovation. -/
noncomputable def sumGains (P : Matrix n n ℝ) : List (Row n) → (n → ℝ)
  | [] => 0
  | r :: rows => r.innovation • scalarGain P r + sumGains (scalarPosterior P r) rows

/-- What the observations after `earlier` do not take off their innovations: for each of them, its
    row applied to the correction of those before it, times its gain. -/
noncomputable def leftOut (P : Matrix n n ℝ) : List (Row n) → List (Row n) → (n → ℝ)
  | _, [] => 0
  | earlier, r :: rows =>
    (r.h ⬝ᵥ batchCorrection P earlier) • scalarGain (batchCov P earlier) r
      + leftOut P (earlier ++ [r]) rows

omit [DecidableEq n] in
/-- No observation corrects nothing. -/
@[simp] theorem batchCorrection_nil (P : Matrix n n ℝ) : batchCorrection P [] = 0 := by
  ext a
  simp [batchCorrection, mulVec, dotProduct]

/-- What the second of two observations leaves out. -/
theorem leftOut_pair {r r' : Row n} (hP : P.PosSemidef) (hr : 0 < r.sigma) :
    leftOut P [] [r, r']
      = (r.innovation * (r'.h ⬝ᵥ scalarGain P r)) • scalarGain (scalarPosterior P r) r' := by
  have hfirst : batchCorrection P [r] = r.innovation • scalarGain P r := by
    have h := batchCorrection_append_singleton hP (List.forall_mem_nil _) hr
    simpa [batchCov_nil hP] using h
  have hcov : batchCov P [r] = scalarPosterior P r := by
    rw [batchCov_cons hP hr (by simp), batchCov_nil (posSemidef_scalarPosterior hP hr)]
  simp [leftOut, hfirst, hcov]

/-- An observation used twice leaves something out, unless it does not correct anything. -/
theorem leftOut_pair_ne {r : Row n} (hP : P.PosSemidef) (hr : 0 < r.sigma)
    (hy : r.innovation ≠ 0) (hPh : P *ᵥ r.h ≠ 0) : leftOut P [] [r, r] ≠ 0 := by
  have hvar := scalarVar_pos hP hr
  have hquad : r.h ⬝ᵥ (P *ᵥ r.h) ≠ 0 := by
    intro h0
    exact hPh ((hP.dotProduct_mulVec_zero_iff _).mp (by simpa using h0))
  have hgain : scalarGain P r ≠ 0 := smul_ne_zero (inv_ne_zero hvar.ne') hPh
  have hdot : r.h ⬝ᵥ scalarGain P r ≠ 0 := by
    rw [scalarGain, dotProduct_smul, smul_eq_mul]
    exact mul_ne_zero (inv_ne_zero hvar.ne') hquad
  have hpost : scalarPosterior P r *ᵥ r.h ≠ 0 := by
    intro h0
    exact hgain (by rw [scalarGain_eq hP hr, h0, smul_zero])
  have hvar' := scalarVar_pos (posSemidef_scalarPosterior hP hr) hr
  rw [leftOut_pair hP hr]
  exact smul_ne_zero (mul_ne_zero hy hdot) (smul_ne_zero (inv_ne_zero hvar'.ne') hpost)

/-- After the observations in `earlier` have been used correctly, the others bring in `leftOut`
    more than they should. -/
theorem add_sumGains {earlier : List (Row n)} (hP : P.PosSemidef)
    (he : ∀ r ∈ earlier, 0 < r.sigma) (hσ : ∀ r ∈ rows, 0 < r.sigma) :
    batchCorrection P earlier + sumGains (batchCov P earlier) rows
      = batchCorrection P (earlier ++ rows) + leftOut P earlier rows := by
  induction rows generalizing earlier with
  | nil => simp [sumGains, leftOut]
  | cons r rows ih =>
    have hr : 0 < r.sigma := hσ r (by simp)
    have hrows : ∀ r' ∈ rows, 0 < r'.sigma := fun r' h => hσ r' (by simp [h])
    have he' := sigma_pos_append he hr
    have hnext := ih he' hrows
    rw [batchCov_append_singleton hP he hr, batchCorrection_append_singleton hP he hr,
      List.append_assoc, List.singleton_append] at hnext
    rw [sumGains, leftOut, add_left_comm (batchCorrection P (earlier ++ r :: rows)), ← hnext]
    module

/-- **Innovations that ignore the earlier corrections.** The sum of the gains times the innovations
    exceeds the batch correction by what they leave out. -/
theorem sumGains_eq_add_leftOut (hP : P.PosSemidef) (hσ : ∀ r ∈ rows, 0 < r.sigma) :
    sumGains P rows = batchCorrection P rows + leftOut P [] rows := by
  have h : batchCorrection P [] + sumGains (batchCov P []) rows
      = batchCorrection P ([] ++ rows) + leftOut P [] rows := add_sumGains hP (by simp) hσ
  rwa [batchCorrection_nil, zero_add, batchCov_nil hP, List.nil_append] at h

/-- When the sum of the gains times the innovations is the batch correction. -/
theorem sumGains_eq_iff (hP : P.PosSemidef) (hσ : ∀ r ∈ rows, 0 < r.sigma) :
    sumGains P rows = batchCorrection P rows ↔ leftOut P [] rows = 0 := by
  rw [sumGains_eq_add_leftOut hP hσ, add_eq_left]

end Kalman

end FalconGuide.Lib
