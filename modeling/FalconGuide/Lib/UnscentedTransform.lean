import FalconGuide.Lib.Kalman

namespace FalconGuide.Lib

open Matrix
open scoped BigOperators

/-!
# The unscented transform

The moments of the images of weighted sample points, over any finite index types and exact reals.

* `SigmaSet` — sample points around a centre, with weights that may be negative at the centre
  only;
* `SigmaSet.mean`, `SigmaSet.innovationCov`, `SigmaSet.crossCov` — the moments of the images;
* `SigmaSet.innovationCov_eq` — the covariance of the images, centred at the image of the centre:
  a sum without the negative weight;
* `SigmaSet.posSemidef_innovationCov_sub_of_spread` — how small `extra` may be for the images to
  add to the noise;
* `SigmaSet.posDef_innovationCov`, `SigmaSet.posSemidef_posterior` — so it is positive definite,
  and a Kalman update with it leaves a covariance;
* `SigmaSet.innovationCov_affine`, `SigmaSet.crossCov_affine` — exact moments of affine images;
* `symmetricPoint` — zero, the columns of a matrix and their negatives; their moments, whatever
  the sign of the weights;
* `SigmaSet.symmetric` — the set of these points.
-/

/-- Sample points `point` around `centre`.  `extra` is what the centre's weight for covariances
    exceeds its weight for means by. -/
structure SigmaSet (κ n : Type*) [Fintype κ] where
  centre : κ
  weight : κ → ℝ
  extra : ℝ
  point : κ → n → ℝ
  sum_weight : ∑ i, weight i = 1
  /-- Only the centre may have a negative weight. -/
  weight_nonneg : ∀ i, i ≠ centre → 0 ≤ weight i
  point_centre : point centre = 0
  mean_point : ∑ i, weight i • point i = 0

/-! ### Weighted sums of products -/

section Sums

variable {κ n m : Type*} [Fintype κ] (w : κ → ℝ)

theorem sum_smul_vecMulVec_left (x : κ → n → ℝ) (v : m → ℝ) :
    ∑ i, w i • vecMulVec (x i) v = vecMulVec (∑ i, w i • x i) v := by
  ext a b
  simp [Matrix.sum_apply, vecMulVec_apply, Finset.sum_mul, mul_assoc]

theorem sum_smul_vecMulVec_right (u : n → ℝ) (y : κ → m → ℝ) :
    ∑ i, w i • vecMulVec u (y i) = vecMulVec u (∑ i, w i • y i) := by
  ext a b
  simp only [Matrix.sum_apply, Matrix.smul_apply, vecMulVec_apply, Finset.sum_apply, Pi.smul_apply,
    smul_eq_mul, Finset.mul_sum]
  exact Finset.sum_congr rfl fun i _ => by ring

/-- The products of linear images. -/
theorem sum_smul_vecMulVec_image [Fintype n] (A : Matrix m n ℝ) (x : κ → n → ℝ) :
    ∑ i, w i • vecMulVec (A *ᵥ x i) (A *ᵥ x i)
      = A * (∑ i, w i • vecMulVec (x i) (x i)) * Aᵀ := by
  rw [Matrix.mul_sum, Matrix.sum_mul]
  refine Finset.sum_congr rfl fun i _ => ?_
  rw [Matrix.mul_smul, Matrix.smul_mul, mul_vecMulVec, vecMulVec_mul, vecMul_transpose]

end Sums

namespace SigmaSet

variable {κ n m : Type*} [Fintype κ] [DecidableEq κ] (X : SigmaSet κ n)

/-- The weight for covariances. -/
def covWeight (i : κ) : ℝ := X.weight i + if i = X.centre then X.extra else 0

/-- The covariance of the points. -/
def covariance : Matrix n n ℝ := ∑ i, X.weight i • vecMulVec (X.point i) (X.point i)

/-! ### Images -/

section Images

variable (z : κ → m → ℝ) (R : Matrix m m ℝ)

/-- The mean of the images `z`. -/
def mean : m → ℝ := ∑ i, X.weight i • z i

/-- The covariance of the images, and the noise `R`. -/
def innovationCov : Matrix m m ℝ :=
  R + ∑ i, X.covWeight i • vecMulVec (z i - X.mean z) (z i - X.mean z)

/-- The covariance of the points with their images. -/
def crossCov : Matrix n m ℝ := ∑ i, X.covWeight i • vecMulVec (X.point i) (z i - X.mean z)

/-- The image of a point, seen from the image of the centre. -/
def offset (i : κ) : m → ℝ := z i - z X.centre

/-- The mean, seen from the image of the centre. -/
def meanOffset : m → ℝ := X.mean z - z X.centre

omit [DecidableEq κ] in
@[simp] theorem offset_centre : X.offset z X.centre = 0 := sub_self _

omit [DecidableEq κ] in
/-- The weights add up to one: the mean of the offsets is the offset of the mean. -/
theorem sum_weight_smul_offset : ∑ i, X.weight i • X.offset z i = X.meanOffset z := by
  simp only [offset, smul_sub, Finset.sum_sub_distrib]
  rw [← Finset.sum_smul, X.sum_weight, one_smul]
  rfl

omit [DecidableEq κ] in
theorem sub_mean (i : κ) : z i - X.mean z = X.offset z i - X.meanOffset z := by
  simp [offset, meanOffset]

/-- **The covariance of the images**, centred at the image of the centre.  There the centre itself
    contributes nothing, and what is left of its weight is `extra - 1`. -/
theorem innovationCov_eq :
    X.innovationCov z R = R + (∑ i, X.weight i • vecMulVec (X.offset z i) (X.offset z i)
      + (X.extra - 1) • vecMulVec (X.meanOffset z) (X.meanOffset z)) := by
  have hmean := X.sum_weight_smul_offset z
  -- the weights for means
  have hspread : ∑ i, X.weight i • vecMulVec (X.offset z i - X.meanOffset z)
        (X.offset z i - X.meanOffset z)
      = ∑ i, X.weight i • vecMulVec (X.offset z i) (X.offset z i)
        - vecMulVec (X.meanOffset z) (X.meanOffset z) := by
    simp only [sub_vecMulVec, vecMulVec_sub, smul_sub, Finset.sum_sub_distrib,
      sum_smul_vecMulVec_left, sum_smul_vecMulVec_right, hmean, ← Finset.sum_smul, X.sum_weight,
      one_smul]
    abel
  -- and what is added at the centre
  have hcentre : ∑ i, (if i = X.centre then X.extra else 0)
        • vecMulVec (X.offset z i - X.meanOffset z) (X.offset z i - X.meanOffset z)
      = X.extra • vecMulVec (X.meanOffset z) (X.meanOffset z) := by
    rw [Finset.sum_eq_single X.centre (fun i _ hi => by rw [if_neg hi, zero_smul]) (by simp),
      if_pos rfl, offset_centre, zero_sub, neg_vecMulVec, vecMulVec_neg, neg_neg]
  simp only [innovationCov, sub_mean, covWeight, add_smul, Finset.sum_add_distrib, hspread, hcentre,
    sub_smul, one_smul]
  abel

omit [DecidableEq κ] in
/-- The points balance: a constant is not correlated with them. -/
theorem sum_weight_smul_vecMulVec_const (v : m → ℝ) :
    ∑ i, X.weight i • vecMulVec (X.point i) v = 0 := by
  rw [sum_smul_vecMulVec_left, X.mean_point, zero_vecMulVec]

/-- The covariance of the points with the offsets of their images. -/
theorem crossCov_eq :
    X.crossCov z = ∑ i, X.weight i • vecMulVec (X.point i) (X.offset z i) := by
  have hcentre : ∑ i, (if i = X.centre then X.extra else 0)
      • vecMulVec (X.point i) (X.offset z i - X.meanOffset z) = 0 := by
    refine Finset.sum_eq_zero fun i _ => ?_
    by_cases hi : i = X.centre
    · rw [hi, X.point_centre, zero_vecMulVec, smul_zero]
    · rw [if_neg hi, zero_smul]
  simp only [crossCov, sub_mean, covWeight, add_smul, Finset.sum_add_distrib]
  rw [hcentre, add_zero]
  simp only [vecMulVec_sub, smul_sub, Finset.sum_sub_distrib, sum_weight_smul_vecMulVec_const,
    sub_zero]

/-! ### Positivity -/

section Positivity

variable [Fintype n] [Fintype m] [DecidableEq m] {z R}

omit [DecidableEq κ] [Fintype n] [DecidableEq m] in
/-- A sum of squares that vanish at the centre is positive semidefinite. -/
theorem posSemidef_sum_square {y : κ → m → ℝ} (hcentre : y X.centre = 0) :
    (∑ i, X.weight i • vecMulVec (y i) (y i)).PosSemidef := by
  refine Matrix.posSemidef_sum _ fun i _ => ?_
  by_cases hi : i = X.centre
  · rw [hi, hcentre, zero_vecMulVec, smul_zero]
    exact .zero
  · have hy : (vecMulVec (y i) (y i)).PosSemidef := posSemidef_vecMulVec_self_star (y i)
    exact hy.smul (X.weight_nonneg i hi)

omit [Fintype n] [DecidableEq m] in
/-- The images add to the noise. -/
theorem posSemidef_innovationCov_sub (hextra : 1 ≤ X.extra) :
    (X.innovationCov z R - R).PosSemidef := by
  have hmean : (vecMulVec (X.meanOffset z) (X.meanOffset z)).PosSemidef :=
    posSemidef_vecMulVec_self_star _
  rw [innovationCov_eq, add_sub_cancel_left]
  exact (X.posSemidef_sum_square (X.offset_centre z)).add (hmean.smul (sub_nonneg.mpr hextra))

omit [Fintype n] [Fintype m] [DecidableEq m] in
/-- The squares of the offsets less a multiple of the mean, without that of the centre. -/
theorem sum_erase_square (t : ℝ) :
    ∑ i ∈ Finset.univ.erase X.centre, X.weight i
        • vecMulVec (X.offset z i - t • X.meanOffset z) (X.offset z i - t • X.meanOffset z)
      = ∑ i, X.weight i • vecMulVec (X.offset z i) (X.offset z i)
        + (t * t * (1 - X.weight X.centre) - 2 * t)
          • vecMulVec (X.meanOffset z) (X.meanOffset z) := by
  have hmean := X.sum_weight_smul_offset z
  -- all of them, of which the centre has `t` times the mean
  have hall : ∑ i, X.weight i
        • vecMulVec (X.offset z i - t • X.meanOffset z) (X.offset z i - t • X.meanOffset z)
      = ∑ i, X.weight i • vecMulVec (X.offset z i) (X.offset z i)
        + (t * t - 2 * t) • vecMulVec (X.meanOffset z) (X.meanOffset z) := by
    simp only [sub_vecMulVec, vecMulVec_sub, smul_sub, Finset.sum_sub_distrib,
      sum_smul_vecMulVec_left, sum_smul_vecMulVec_right, hmean, ← Finset.sum_smul, X.sum_weight,
      one_smul]
    simp only [smul_vecMulVec, vecMulVec_smul]
    module
  rw [Finset.sum_erase_eq_sub (Finset.mem_univ X.centre), hall, offset_centre, zero_sub,
    neg_vecMulVec, vecMulVec_neg, neg_neg, smul_vecMulVec, vecMulVec_smul]
  module

omit [Fintype n] [DecidableEq m] in
/-- **The images add to the noise** as long as the centre does not take off more than the other
    points spread. -/
theorem posSemidef_innovationCov_sub_of_spread
    (hspread : (1 - X.extra) * (1 - X.weight X.centre) ≤ 1) :
    (X.innovationCov z R - R).PosSemidef := by
  by_cases hextra : 1 ≤ X.extra
  · exact X.posSemidef_innovationCov_sub hextra
  -- completing the square in the mean, which the centre may take off `t` times
  · let t := 1 - X.extra
    have ht : 0 ≤ t := by
      show 0 ≤ 1 - X.extra
      linarith
    have hleft : 0 ≤ t * (1 - t * (1 - X.weight X.centre)) :=
      mul_nonneg ht (sub_nonneg.mpr hspread)
    have hmean : (vecMulVec (X.meanOffset z) (X.meanOffset z)).PosSemidef :=
      posSemidef_vecMulVec_self_star _
    have hsquare : (∑ i ∈ Finset.univ.erase X.centre, X.weight i
        • vecMulVec (X.offset z i - t • X.meanOffset z)
          (X.offset z i - t • X.meanOffset z)).PosSemidef := by
      refine Matrix.posSemidef_sum _ fun i hi => ?_
      exact .smul (posSemidef_vecMulVec_self_star _) (X.weight_nonneg i (Finset.ne_of_mem_erase hi))
    have hsum := hsquare.add (hmean.smul hleft)
    rw [sum_erase_square, add_assoc, ← add_smul] at hsum
    have hcoefficient : t * t * (1 - X.weight X.centre) - 2 * t
        + t * (1 - t * (1 - X.weight X.centre)) = X.extra - 1 := by
      show (1 - X.extra) * (1 - X.extra) * (1 - X.weight X.centre) - 2 * (1 - X.extra)
        + (1 - X.extra) * (1 - (1 - X.extra) * (1 - X.weight X.centre)) = X.extra - 1
      ring
    rwa [innovationCov_eq, add_sub_cancel_left, ← hcoefficient]

omit [Fintype n] [DecidableEq m] in
/-- Affine images add to the noise with any weight at the centre. -/
theorem posSemidef_innovationCov_sub_of_meanOffset (hmean : X.meanOffset z = 0) :
    (X.innovationCov z R - R).PosSemidef := by
  rw [innovationCov_eq, add_sub_cancel_left, hmean, zero_vecMulVec, smul_zero, add_zero]
  exact X.posSemidef_sum_square (X.offset_centre z)

omit [Fintype n] [DecidableEq m] in
/-- **The innovation covariance** is positive definite. -/
theorem posDef_innovationCov (hextra : 1 ≤ X.extra) (hR : R.PosDef) :
    (X.innovationCov z R).PosDef := by
  have hS := PosDef.add_posSemidef hR (X.posSemidef_innovationCov_sub (z := z) (R := R) hextra)
  rwa [add_sub_cancel] at hS

omit [DecidableEq m] in
/-- The joint covariance of the points and their images. -/
theorem posSemidef_joint (hextra : 1 ≤ X.extra) (hR : R.PosSemidef) :
    (fromBlocks X.covariance (X.crossCov z) (X.crossCov z)ᵀ (X.innovationCov z R)).PosSemidef := by
  have hpoints : (∑ i, X.weight i • vecMulVec (Sum.elim (X.point i) (X.offset z i))
      (Sum.elim (X.point i) (X.offset z i))).PosSemidef := by
    apply X.posSemidef_sum_square
    rw [X.point_centre, offset_centre]
    exact Sum.elim_zero_zero
  have hmean : (vecMulVec (Sum.elim (0 : n → ℝ) (X.meanOffset z))
      (Sum.elim 0 (X.meanOffset z))).PosSemidef := posSemidef_vecMulVec_self_star _
  have hnoise : (fromBlocks (0 : Matrix n n ℝ) 0 0 R).PosSemidef :=
    Kalman.posSemidef_fromBlocks .zero hR
  convert (hpoints.add (hmean.smul (sub_nonneg.mpr hextra))).add hnoise using 1
  -- block by block
  rw [covariance, crossCov_eq, innovationCov_eq]
  ext (i | i) (j | j)
  · simp [Matrix.sum_apply, vecMulVec_apply]
  · simp [Matrix.sum_apply, vecMulVec_apply]
  · simp [Matrix.sum_apply, vecMulVec_apply, mul_comm]
  · simp [Matrix.sum_apply, vecMulVec_apply]
    ring

/-- **A Kalman update** with the moments of the images leaves a covariance. -/
theorem posSemidef_posterior [DecidableEq n] (hextra : 1 ≤ X.extra) (hR : R.PosDef) :
    (X.covariance - X.crossCov z * (X.innovationCov z R)⁻¹ * (X.crossCov z)ᵀ).PosSemidef := by
  have hS := X.posDef_innovationCov (z := z) hextra hR
  have hinv : Invertible (X.innovationCov z R) := hS.isUnit.invertible
  have hjoint := X.posSemidef_joint (z := z) hextra hR.posSemidef
  rw [← conjTranspose_eq_transpose_of_trivial] at hjoint ⊢
  exact (PosDef.fromBlocks₂₂ _ _ hS).mp hjoint

end Positivity

end Images

/-! ### Affine images -/

section Affine

variable [Fintype n] {z : κ → m → ℝ} {H : Matrix m n ℝ} (R : Matrix m m ℝ)

omit [DecidableEq κ] in
/-- The mean of affine images is the image of the centre. -/
theorem meanOffset_affine (hz : ∀ i, X.offset z i = H *ᵥ X.point i) : X.meanOffset z = 0 := by
  rw [← sum_weight_smul_offset]
  simp only [hz, ← mulVec_smul, ← mulVec_sum, X.mean_point, mulVec_zero]

omit [DecidableEq κ] in
@[inherit_doc meanOffset_affine]
theorem mean_affine (hz : ∀ i, X.offset z i = H *ᵥ X.point i) : X.mean z = z X.centre :=
  sub_eq_zero.mp (X.meanOffset_affine hz)

/-- Affine images have the covariance of the linear map. -/
theorem innovationCov_affine (hz : ∀ i, X.offset z i = H *ᵥ X.point i) :
    X.innovationCov z R = H * X.covariance * Hᵀ + R := by
  simp only [innovationCov_eq, X.meanOffset_affine hz, zero_vecMulVec, smul_zero, add_zero, hz]
  rw [sum_smul_vecMulVec_image, covariance, add_comm]

@[inherit_doc innovationCov_affine]
theorem crossCov_affine (hz : ∀ i, X.offset z i = H *ᵥ X.point i) :
    X.crossCov z = X.covariance * Hᵀ := by
  rw [crossCov_eq, covariance, Matrix.sum_mul]
  refine Finset.sum_congr rfl fun i _ => ?_
  rw [hz, Matrix.smul_mul, vecMulVec_mul, vecMul_transpose]

end Affine

end SigmaSet

/-! ### Symmetric points -/

section Symmetric

variable {n : ℕ}

/-- Zero, the columns of `L`, and their negatives. -/
def symmetricPoint (L : Matrix (Fin n) (Fin n) ℝ) (i : Fin (2 * n + 1)) : Fin n → ℝ :=
  if h0 : i.val = 0 then 0
  else if h : i.val ≤ n then L.col ⟨i.val - 1, by omega⟩
  else -L.col ⟨i.val - 1 - n, by omega⟩

/-- One weight for zero, another one for all other points. -/
def symmetricWeight (n : ℕ) (w₀ w : ℝ) (i : Fin (2 * n + 1)) : ℝ := if i.val = 0 then w₀ else w

/-- A sum over symmetric points. -/
theorem sum_symmetric {M : Type*} [AddCommMonoid M] (f : Fin (2 * n + 1) → M) :
    ∑ i, f i = f 0 + ∑ j : Fin n, (f ⟨j.val + 1, by omega⟩ + f ⟨j.val + 1 + n, by omega⟩) := by
  have hsplit : ∑ i : Fin (2 * n), f i.succ
      = ∑ i : Fin (n + n), f ⟨i.val + 1, by omega⟩ :=
    ((finCongr (two_mul n)).symm.sum_comp fun i : Fin (2 * n) => f i.succ).symm
  rw [Fin.sum_univ_succ, hsplit, Fin.sum_univ_add, ← Finset.sum_add_distrib]
  congr 1
  refine Finset.sum_congr rfl fun j _ => ?_
  congr 2
  rw [Fin.mk.injEq, Fin.val_natAdd]
  omega

variable (L : Matrix (Fin n) (Fin n) ℝ)

theorem symmetricPoint_zero : symmetricPoint L 0 = 0 := rfl

theorem symmetricPoint_pos (j : Fin n) :
    symmetricPoint L ⟨j.val + 1, by omega⟩ = L.col j := by
  rw [symmetricPoint, dif_neg (by simp), dif_pos (by simp)]
  rfl

theorem symmetricPoint_neg (j : Fin n) :
    symmetricPoint L ⟨j.val + 1 + n, by omega⟩ = -L.col j := by
  rw [symmetricPoint, dif_neg (by simp), dif_neg (by simp)]
  have hcol : j.val + 1 + n - 1 - n = j.val := by
    omega
  simp only [hcol]

/-- The weights add up to that of zero and one for every column and its negative. -/
theorem sum_symmetricWeight (w₀ w : ℝ) : ∑ i, symmetricWeight n w₀ w i = w₀ + 2 * n * w := by
  rw [sum_symmetric]
  simp [symmetricWeight]
  ring

/-- A column and its negative balance, whatever the weights. -/
theorem sum_smul_symmetricPoint (w₀ w : ℝ) :
    ∑ i, symmetricWeight n w₀ w i • symmetricPoint L i = 0 := by
  rw [sum_symmetric]
  simp [symmetricPoint_zero, symmetricPoint_pos, symmetricPoint_neg, symmetricWeight]

/-- The products of symmetric points, to which zero contributes nothing. -/
theorem sum_smul_vecMulVec_symmetricPoint (w₀ w : ℝ) :
    ∑ i, symmetricWeight n w₀ w i • vecMulVec (symmetricPoint L i) (symmetricPoint L i)
      = (2 * w) • (L * Lᵀ) := by
  have hcols : ∑ j, vecMulVec (L.col j) (L.col j) = L * Lᵀ := by
    ext a b
    simp [Matrix.sum_apply, vecMulVec_apply, Matrix.mul_apply]
  have hpair : ∀ j : Fin n, w • vecMulVec (L.col j) (L.col j)
      + w • vecMulVec (-L.col j) (-L.col j) = (2 * w) • vecMulVec (L.col j) (L.col j) := by
    intro j
    rw [neg_vecMulVec, vecMulVec_neg, neg_neg, ← add_smul, two_mul]
  rw [sum_symmetric, ← hcols, Finset.smul_sum]
  simp only [symmetricPoint_zero, symmetricPoint_pos, symmetricPoint_neg, symmetricWeight,
    zero_vecMulVec, smul_zero, zero_add, Nat.add_eq_zero_iff, one_ne_zero, and_false, false_and,
    if_false, hpair]

/-- Symmetric points around zero; the weights add up to one. -/
def SigmaSet.symmetric (w₀ w extra : ℝ) (hw : 0 ≤ w) (hsum : w₀ + 2 * n * w = 1) :
    SigmaSet (Fin (2 * n + 1)) (Fin n) where
  centre := 0
  weight := symmetricWeight n w₀ w
  extra := extra
  point := symmetricPoint L
  sum_weight := (sum_symmetricWeight w₀ w).trans hsum
  weight_nonneg i hi := by
    have hne : i.val ≠ 0 := fun h => hi (Fin.ext h)
    rw [symmetricWeight, if_neg hne]
    exact hw
  point_centre := symmetricPoint_zero L
  mean_point := sum_smul_symmetricPoint L w₀ w

/-- The covariance of symmetric points. -/
theorem SigmaSet.covariance_symmetric (w₀ w extra : ℝ) (hw : 0 ≤ w)
    (hsum : w₀ + 2 * n * w = 1) :
    (SigmaSet.symmetric L w₀ w extra hw hsum).covariance = (2 * w) • (L * Lᵀ) :=
  sum_smul_vecMulVec_symmetricPoint L w₀ w

end Symmetric

end FalconGuide.Lib
