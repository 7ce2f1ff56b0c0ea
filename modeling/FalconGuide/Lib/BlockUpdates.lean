import FalconGuide.Lib.Kalman
import Mathlib.Algebra.BigOperators.Fin

namespace FalconGuide.Lib

open Matrix
open scoped BigOperators

/-!
# Block updates in sequence and one joint update

A list of vector observations with independent noise, used one after the other or all at once.

* `Kalman.Block` — a vector observation;
* `Kalman.jointCov` / `Kalman.jointCorrection` — the update that stacks all observations;
* `Kalman.jointCov_cons` — an observation may be taken first, alone;
* `Kalman.jointCorrection_append_singleton` — or last, on what its innovation has left;
* `Kalman.sumBlockGains_eq_add_leftOutBlocks` — what the sum of the gains times the innovations,
  without regard to what the earlier observations already corrected, adds to the joint correction;
* `Kalman.leftOutBlocks_pair_eq_zero_iff` — for two observations, when the second does not see
  the correction of the first.
-/

namespace Kalman

variable {n m : Type*} [Fintype n] [DecidableEq n] [Fintype m] [DecidableEq m]

/-- A vector observation: its matrix, its innovation and the covariance of its noise. -/
structure Block (n m : Type*) where
  H : Matrix m n ℝ
  innovation : m → ℝ
  noise : Matrix m m ℝ

/-! ### The joint update -/

/-- The matrices of the observations. -/
def jointH (blocks : List (Block n m)) : Matrix (m × Fin blocks.length) n ℝ :=
  Matrix.of fun i => blocks[i.2].H i.1

/-- The block-diagonal noise covariance of the observations. -/
def jointNoise (blocks : List (Block n m)) :
    Matrix (m × Fin blocks.length) (m × Fin blocks.length) ℝ :=
  blockDiagonal fun i => blocks[i].noise

/-- The innovations of the observations. -/
def jointInnovation (blocks : List (Block n m)) : m × Fin blocks.length → ℝ :=
  fun i => blocks[i.2].innovation i.1

/-- The covariance after one update with all observations. -/
noncomputable def jointCov (P : Matrix n n ℝ) (blocks : List (Block n m)) : Matrix n n ℝ :=
  posterior P (jointH blocks) (jointNoise blocks)

/-- The correction of one update with all observations. -/
noncomputable def jointCorrection (P : Matrix n n ℝ) (blocks : List (Block n m)) : n → ℝ :=
  gain P (jointH blocks) (jointNoise blocks) *ᵥ jointInnovation blocks

/-! ### Information -/

/-- The information of one observation. -/
noncomputable def Block.information (b : Block n m) : Matrix n n ℝ := b.Hᵀ * b.noise⁻¹ * b.H

/-- The innovation of one observation, weighted with its noise. -/
noncomputable def Block.weighted (b : Block n m) : n → ℝ := (b.Hᵀ * b.noise⁻¹) *ᵥ b.innovation

/-- The information of a list of observations. -/
noncomputable def jointInformation (blocks : List (Block n m)) : Matrix n n ℝ :=
  (blocks.map Block.information).sum

/-- The weighted innovations of a list of observations. -/
noncomputable def jointWeighted (blocks : List (Block n m)) : n → ℝ :=
  (blocks.map Block.weighted).sum

/-- The noise of every observation is positive definite. -/
def Noisy (blocks : List (Block n m)) : Prop := ∀ b ∈ blocks, b.noise.PosDef

variable {P : Matrix n n ℝ} {blocks : List (Block n m)} {b b' : Block n m}

omit [Fintype n] [DecidableEq n] [Fintype m] [DecidableEq m] in
theorem noisy_nil : Noisy ([] : List (Block n m)) := List.forall_mem_nil _

omit [Fintype n] [DecidableEq n] [Fintype m] [DecidableEq m] in
theorem noisy_cons : Noisy (b :: blocks) ↔ b.noise.PosDef ∧ Noisy blocks := List.forall_mem_cons

omit [Fintype n] [DecidableEq n] [Fintype m] [DecidableEq m] in
theorem noisy_append_singleton (h : Noisy blocks) (hb : b.noise.PosDef) :
    Noisy (blocks ++ [b]) := by
  intro x hx
  rcases List.mem_append.mp hx with hx | hx
  · exact h x hx
  · rw [List.mem_singleton.mp hx]
    exact hb

omit [Fintype n] [DecidableEq n] in
@[simp] theorem jointInformation_cons (b : Block n m) (blocks : List (Block n m)) :
    jointInformation (b :: blocks) = b.information + jointInformation blocks := by
  simp [jointInformation]

omit [DecidableEq n] in
/-- Information is positive semidefinite. -/
theorem posSemidef_jointInformation (h : Noisy blocks) :
    (jointInformation blocks).PosSemidef := by
  induction blocks with
  | nil => exact .zero
  | cons b blocks ih =>
    obtain ⟨hb, hrest⟩ := noisy_cons.mp h
    rw [jointInformation_cons]
    refine .add ?_ (ih hrest)
    have hcongr := posSemidef_congr hb.posSemidef.inv b.Hᵀ
    rwa [transpose_transpose] at hcongr

omit [Fintype n] [DecidableEq n] [DecidableEq m] in
/-- Noise without correlation between the observations is positive definite. -/
theorem posDef_jointNoise (h : Noisy blocks) : (jointNoise blocks).PosDef := by
  have hnoise : ∀ k : Fin blocks.length, blocks[k].noise.PosDef := fun k =>
    h blocks[k] (List.getElem_mem _)
  refine .of_dotProduct_mulVec_pos ?_ fun {x} hx => ?_
  · rw [IsHermitian, jointNoise, blockDiagonal_conjTranspose]
    congr 1
    funext k
    exact (hnoise k).isHermitian
  · -- the quadratic form is the sum of those of the observations
    have hsum : x ⬝ᵥ (jointNoise blocks *ᵥ x)
        = ∑ k, (fun j => x (j, k)) ⬝ᵥ (blocks[k].noise *ᵥ fun j => x (j, k)) := by
      rw [dotProduct, Fintype.sum_prod_type_right]
      refine Finset.sum_congr rfl fun k _ => Finset.sum_congr rfl fun j _ => ?_
      congr 1
      rw [mulVec, dotProduct, Fintype.sum_prod_type_right, Finset.sum_eq_single k]
      · rw [mulVec, dotProduct]
        simp [jointNoise]
      · intro l _ hl
        simp [jointNoise, blockDiagonal_apply, hl.symm]
      · simp
    have hterm : ∀ k, 0 ≤ (fun j => x (j, k)) ⬝ᵥ (blocks[k].noise *ᵥ fun j => x (j, k)) := by
      intro k
      simpa using (hnoise k).posSemidef.dotProduct_mulVec_nonneg fun j => x (j, k)
    obtain ⟨⟨j, k⟩, hjk⟩ := Function.ne_iff.mp hx
    have hpos : 0 < (fun j => x (j, k)) ⬝ᵥ (blocks[k].noise *ᵥ fun j => x (j, k)) := by
      have hxk : (fun j => x (j, k)) ≠ 0 := Function.ne_iff.mpr ⟨j, hjk⟩
      simpa using (hnoise k).dotProduct_mulVec_pos hxk
    rw [star_trivial, hsum]
    exact Finset.sum_pos' (fun k _ => hterm k) ⟨k, Finset.mem_univ k, hpos⟩

omit [Fintype n] [DecidableEq n] in
/-- The inverse of the noise. -/
theorem inv_jointNoise (h : Noisy blocks) :
    (jointNoise blocks)⁻¹ = blockDiagonal fun i => blocks[i].noise⁻¹ := by
  refine inv_eq_right_inv ?_
  rw [jointNoise, ← blockDiagonal_mul, ← blockDiagonal_one]
  congr 1
  funext i
  have hunit := (h blocks[i] (List.getElem_mem _)).isUnit
  exact mul_nonsing_inv _ ((isUnit_iff_isUnit_det _).mp hunit)

omit [Fintype n] [DecidableEq n] in
/-- The stacked matrices, weighted with the noise. -/
theorem jointH_mul_inv (h : Noisy blocks) (a : n) (i : m × Fin blocks.length) :
    ((jointH blocks)ᵀ * (jointNoise blocks)⁻¹) a i
      = (blocks[i.2].Hᵀ * blocks[i.2].noise⁻¹) a i.1 := by
  rw [inv_jointNoise h, Matrix.mul_apply, Matrix.mul_apply, Fintype.sum_prod_type]
  refine Finset.sum_congr rfl fun j _ => ?_
  rw [Finset.sum_eq_single i.2]
  · simp [jointH, blockDiagonal_apply]
  · intro k _ hk
    simp [blockDiagonal_apply, hk]
  · simp

omit [Fintype n] [DecidableEq n] in
/-- The stacked matrices carry the information of the observations. -/
theorem jointH_information (h : Noisy blocks) :
    (jointH blocks)ᵀ * (jointNoise blocks)⁻¹ * jointH blocks = jointInformation blocks := by
  rw [jointInformation, ← Fin.sum_univ_fun_getElem]
  ext a c
  rw [Matrix.sum_apply, Matrix.mul_apply, Fintype.sum_prod_type_right]
  refine Finset.sum_congr rfl fun k _ => ?_
  rw [Block.information, Matrix.mul_apply]
  refine Finset.sum_congr rfl fun j _ => ?_
  rw [jointH_mul_inv h]
  rfl

omit [Fintype n] [DecidableEq n] in
/-- The stacked innovations are the weighted innovations. -/
theorem jointH_weighted (h : Noisy blocks) :
    ((jointH blocks)ᵀ * (jointNoise blocks)⁻¹) *ᵥ jointInnovation blocks
      = jointWeighted blocks := by
  rw [jointWeighted, ← Fin.sum_univ_fun_getElem]
  ext a
  rw [Finset.sum_apply, mulVec, dotProduct, Fintype.sum_prod_type_right]
  refine Finset.sum_congr rfl fun k _ => ?_
  rw [Block.weighted, mulVec, dotProduct]
  refine Finset.sum_congr rfl fun j _ => ?_
  rw [jointH_mul_inv h]
  rfl

/-- The joint covariance in information form. -/
theorem jointCov_mul (hP : P.PosSemidef) (h : Noisy blocks) :
    jointCov P blocks * (1 + jointInformation blocks * P) = P := by
  rw [← jointH_information h]
  exact posterior_mul hP (posDef_jointNoise h)

omit [DecidableEq n] in
/-- The joint correction is the joint covariance times the weighted innovations. -/
theorem jointCorrection_eq (hP : P.PosSemidef) (h : Noisy blocks) :
    jointCorrection P blocks = jointCov P blocks *ᵥ jointWeighted blocks := by
  rw [jointCorrection, gain_eq hP (posDef_jointNoise h), ← jointH_weighted h, mulVec_mulVec]
  rfl

/-- A matrix with the information form of the joint covariance is the joint covariance. -/
theorem eq_jointCov {Q : Matrix n n ℝ} (hP : P.PosSemidef) (h : Noisy blocks)
    (hQ : Q * (1 + jointInformation blocks * P) = P) : Q = jointCov P blocks :=
  eq_of_mul_information (posSemidef_jointInformation h) hP hQ (jointCov_mul hP h)

/-- The joint update does not depend on the order of the observations. -/
theorem joint_perm {blocks' : List (Block n m)} (hperm : blocks.Perm blocks')
    (hP : P.PosSemidef) (h : Noisy blocks) :
    jointCov P blocks = jointCov P blocks' ∧
      jointCorrection P blocks = jointCorrection P blocks' := by
  have h' : Noisy blocks' := fun b hb => h b (hperm.mem_iff.mpr hb)
  have hinfo : jointInformation blocks = jointInformation blocks' := (hperm.map _).sum_eq
  have hweighted : jointWeighted blocks = jointWeighted blocks' := (hperm.map _).sum_eq
  have hcov : jointCov P blocks = jointCov P blocks' :=
    eq_jointCov hP h' (hinfo ▸ jointCov_mul hP h)
  refine ⟨hcov, ?_⟩
  rw [jointCorrection_eq hP h, jointCorrection_eq hP h', hcov, hweighted]

/-! ### Updates in sequence -/

/-- The covariance after one observation. -/
noncomputable def blockPosterior (P : Matrix n n ℝ) (b : Block n m) : Matrix n n ℝ :=
  posterior P b.H b.noise

/-- The gain of one observation. -/
noncomputable def blockGain (P : Matrix n n ℝ) (b : Block n m) : Matrix n m ℝ :=
  gain P b.H b.noise

/-- The covariance after one observation is positive semidefinite. -/
theorem posSemidef_blockPosterior (hP : P.PosSemidef) (hb : b.noise.PosDef) :
    (blockPosterior P b).PosSemidef :=
  posSemidef_posterior hP hb

/-- **An observation may be taken first.** The joint covariance is the one of the remaining
    observations from the covariance after the first. -/
theorem jointCov_cons (hP : P.PosSemidef) (hb : b.noise.PosDef) (h : Noisy blocks) :
    jointCov P (b :: blocks) = jointCov (blockPosterior P b) blocks := by
  refine (eq_jointCov hP (noisy_cons.mpr ⟨hb, h⟩) ?_).symm
  have hfirst : blockPosterior P b * (1 + b.information * P) = P := posterior_mul hP hb
  have hrest := jointCov_mul (posSemidef_blockPosterior hP hb) h
  have hstep : jointInformation blocks * blockPosterior P b * (1 + b.information * P)
      = jointInformation blocks * P := by rw [Matrix.mul_assoc, hfirst]
  calc jointCov (blockPosterior P b) blocks * (1 + jointInformation (b :: blocks) * P)
      = jointCov (blockPosterior P b) blocks
          * ((1 + b.information * P) + jointInformation blocks * P) := by
        rw [jointInformation_cons, Matrix.add_mul, ← add_assoc]
    _ = jointCov (blockPosterior P b) blocks
          * (1 + jointInformation blocks * blockPosterior P b) * (1 + b.information * P) := by
        rw [← hstep, Matrix.mul_assoc (jointCov _ _), Matrix.add_mul, Matrix.one_mul]
    _ = P := by rw [hrest, hfirst]

/-- No observation leaves the covariance as it is. -/
theorem jointCov_nil (hP : P.PosSemidef) : jointCov P ([] : List (Block n m)) = P :=
  (eq_jointCov hP noisy_nil (by simp [jointInformation])).symm

/-- The covariance of updates in sequence is the joint covariance. -/
theorem foldl_blockPosterior (hP : P.PosSemidef) (h : Noisy blocks) :
    blocks.foldl blockPosterior P = jointCov P blocks := by
  induction blocks generalizing P with
  | nil => rw [List.foldl_nil, jointCov_nil hP]
  | cons b blocks ih =>
    obtain ⟨hb, hrest⟩ := noisy_cons.mp h
    rw [List.foldl_cons, ih (posSemidef_blockPosterior hP hb) hrest, jointCov_cons hP hb hrest]

/-- One more observation, after the others: the covariance. -/
theorem jointCov_append_singleton (hP : P.PosSemidef) (h : Noisy blocks) (hb : b.noise.PosDef) :
    jointCov P (blocks ++ [b]) = blockPosterior (jointCov P blocks) b := by
  rw [← foldl_blockPosterior hP (noisy_append_singleton h hb), List.foldl_append,
    foldl_blockPosterior hP h]
  rfl

/-- The joint covariance is positive semidefinite. -/
theorem posSemidef_jointCov (hP : P.PosSemidef) (h : Noisy blocks) :
    (jointCov P blocks).PosSemidef :=
  posSemidef_posterior hP (posDef_jointNoise h)

omit [Fintype n] [DecidableEq n] in
theorem jointWeighted_append_singleton (blocks : List (Block n m)) (b : Block n m) :
    jointWeighted (blocks ++ [b]) = jointWeighted blocks + b.weighted := by
  simp [jointWeighted]

/-- **One more observation, after the others.** Its gain applies to what its innovation has left
    once the correction of the others is taken off. -/
theorem jointCorrection_append_singleton (hP : P.PosSemidef) (h : Noisy blocks)
    (hb : b.noise.PosDef) :
    jointCorrection P (blocks ++ [b])
      = jointCorrection P blocks
        + blockGain (jointCov P blocks) b *ᵥ (b.innovation - b.H *ᵥ jointCorrection P blocks) := by
  have hQ := posSemidef_jointCov hP h
  have hδ := jointCorrection_eq hP h
  have hnew : blockPosterior (jointCov P blocks) b *ᵥ b.weighted
      = blockGain (jointCov P blocks) b *ᵥ b.innovation := by
    rw [blockGain, gain_eq hQ hb, Block.weighted, mulVec_mulVec]
    rfl
  have hold : blockPosterior (jointCov P blocks) b *ᵥ jointWeighted blocks
      = jointCorrection P blocks
        - blockGain (jointCov P blocks) b *ᵥ (b.H *ᵥ jointCorrection P blocks) := by
    rw [blockPosterior, posterior, sub_mulVec, hδ, blockGain, mulVec_mulVec, mulVec_mulVec,
      Matrix.mul_assoc]
  rw [jointCorrection_eq hP (noisy_append_singleton h hb), jointCov_append_singleton hP h hb,
    jointWeighted_append_singleton, mulVec_add, hold, hnew, mulVec_sub]
  abel

/-! ### Innovations that ignore the earlier corrections -/

/-- The gains of updates in sequence, each times its own innovation. -/
noncomputable def sumBlockGains (P : Matrix n n ℝ) : List (Block n m) → (n → ℝ)
  | [] => 0
  | b :: blocks => blockGain P b *ᵥ b.innovation + sumBlockGains (blockPosterior P b) blocks

/-- What the observations after `earlier` do not take off their innovations: for each of them, its
    gain applied to what it sees of the correction of those before it. -/
noncomputable def leftOutBlocks (P : Matrix n n ℝ) :
    List (Block n m) → List (Block n m) → (n → ℝ)
  | _, [] => 0
  | earlier, b :: blocks =>
    blockGain (jointCov P earlier) b *ᵥ (b.H *ᵥ jointCorrection P earlier)
      + leftOutBlocks P (earlier ++ [b]) blocks

omit [DecidableEq n] in
/-- No observation corrects nothing. -/
@[simp] theorem jointCorrection_nil (P : Matrix n n ℝ) :
    jointCorrection P ([] : List (Block n m)) = 0 := by
  ext a
  simp [jointCorrection, mulVec, dotProduct]

/-- After the observations in `earlier` have been used correctly, the others bring in what they
    leave out more than they should. -/
theorem add_sumBlockGains {earlier : List (Block n m)} (hP : P.PosSemidef)
    (hearlier : Noisy earlier) (h : Noisy blocks) :
    jointCorrection P earlier + sumBlockGains (jointCov P earlier) blocks
      = jointCorrection P (earlier ++ blocks) + leftOutBlocks P earlier blocks := by
  induction blocks generalizing earlier with
  | nil => simp [sumBlockGains, leftOutBlocks]
  | cons b blocks ih =>
    obtain ⟨hb, hrest⟩ := noisy_cons.mp h
    have hnext := ih (noisy_append_singleton hearlier hb) hrest
    rw [jointCov_append_singleton hP hearlier hb, jointCorrection_append_singleton hP hearlier hb,
      List.append_assoc, List.singleton_append, mulVec_sub] at hnext
    rw [sumBlockGains, leftOutBlocks, add_left_comm (jointCorrection P (earlier ++ b :: blocks)),
      ← hnext]
    abel

/-- **Innovations that ignore the earlier corrections.** The sum of the gains times the innovations
    exceeds the joint correction by what they leave out. -/
theorem sumBlockGains_eq_add_leftOutBlocks (hP : P.PosSemidef) (h : Noisy blocks) :
    sumBlockGains P blocks = jointCorrection P blocks + leftOutBlocks P [] blocks := by
  have hsum : jointCorrection P [] + sumBlockGains (jointCov P []) blocks
      = jointCorrection P ([] ++ blocks) + leftOutBlocks P [] blocks :=
    add_sumBlockGains hP noisy_nil h
  rwa [jointCorrection_nil, zero_add, jointCov_nil hP, List.nil_append] at hsum

/-! #### Two observations -/

omit [DecidableEq n] in
/-- A gain only cancels what its observation sees of a correction if that is nothing. -/
theorem gain_mulVec_eq_zero_iff {H : Matrix m n ℝ} {R : Matrix m m ℝ} (hP : P.PosSemidef)
    (hR : R.PosDef) (x : n → ℝ) :
    gain P H R *ᵥ (H *ᵥ (P *ᵥ x)) = 0 ↔ H *ᵥ (P *ᵥ x) = 0 := by
  constructor
  · intro hgain
    have hS := (isUnit_iff_isUnit_det _).mp (posDef_innovationCov (H := H) hP hR).isUnit
    obtain ⟨z, hz⟩ : ∃ z, innovationCov P H R *ᵥ z = H *ᵥ (P *ᵥ x) :=
      ⟨(innovationCov P H R)⁻¹ *ᵥ (H *ᵥ (P *ᵥ x)), by
        rw [mulVec_mulVec, mul_nonsing_inv _ hS, one_mulVec]⟩
    -- the gain is `P Hᵀ z`, so `z` only sees the noise
    have hPz : P *ᵥ (Hᵀ *ᵥ z) = 0 := by
      rw [← hz, mulVec_mulVec, gain_mul_innovationCov hP hR, ← mulVec_mulVec] at hgain
      exact hgain
    have hRz : R *ᵥ z = H *ᵥ (P *ᵥ x) := by
      rw [← hz, innovationCov, add_mulVec, ← mulVec_mulVec, ← mulVec_mulVec, hPz, mulVec_zero,
        zero_add]
    have hquad : z ⬝ᵥ (R *ᵥ z) = 0 := by
      rw [hRz, dotProduct_mulVec, ← mulVec_transpose, dotProduct_mulVec, ← mulVec_transpose,
        transpose_eq hP, hPz, zero_dotProduct]
    have hz0 : z = 0 := by
      by_contra hne
      have hpos : 0 < z ⬝ᵥ (R *ᵥ z) := by simpa using hR.dotProduct_mulVec_pos hne
      exact hpos.ne' hquad
    rw [← hRz, hz0, mulVec_zero]
  · intro h
    rw [h, mulVec_zero]

/-- **Two observations** leave nothing out exactly if the second does not see the correction of
    the first. -/
theorem leftOutBlocks_pair_eq_zero_iff (hP : P.PosSemidef) (hb : b.noise.PosDef)
    (hb' : b'.noise.PosDef) :
    leftOutBlocks P [] [b, b'] = 0 ↔ b'.H *ᵥ (blockGain P b *ᵥ b.innovation) = 0 := by
  have hcov : jointCov P [b] = blockPosterior P b := by
    rw [jointCov_cons hP hb noisy_nil, jointCov_nil (posSemidef_blockPosterior hP hb)]
  have hcorrection : jointCorrection P [b] = blockGain P b *ᵥ b.innovation := by
    have hfirst := jointCorrection_append_singleton hP noisy_nil hb
    simpa [jointCov_nil hP] using hfirst
  have hgain : blockGain P b *ᵥ b.innovation
      = blockPosterior P b *ᵥ ((b.Hᵀ * b.noise⁻¹) *ᵥ b.innovation) := by
    rw [blockGain, gain_eq hP hb, mulVec_mulVec]
    rfl
  have hpair : leftOutBlocks P [] [b, b']
      = blockGain (blockPosterior P b) b' *ᵥ (b'.H *ᵥ (blockGain P b *ᵥ b.innovation)) := by
    simp [leftOutBlocks, hcov, hcorrection]
  rw [hpair, hgain]
  exact gain_mulVec_eq_zero_iff (posSemidef_blockPosterior hP hb) hb' _

end Kalman

end FalconGuide.Lib
