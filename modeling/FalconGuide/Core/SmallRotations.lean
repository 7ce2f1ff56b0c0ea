import FalconGuide.Core.Rotations
import Mathlib.Analysis.Matrix.Normed
import Mathlib.Analysis.SpecialFunctions.Trigonometric.Bounds
import Mathlib.Tactic.Module
import Mathlib.Tactic.Positivity

namespace FalconGuide

open Asymptotics Matrix
open scoped Matrix.Norms.Operator

/-!
# Small rotations

* `HalfAngle`, `expMapSo3_eq` — the scalars of the exponential map, in both of its branches;
* `normSq_expMapSo3` — it is a unit quaternion;
* `transpose_expMapSo3_sub_one`, `transpose_expMapSo3_sub_one_add` — the inverse of the rotation of
  `v` is `1` up to terms of first order, and `1 - [v]` up to terms of second order, for every `v`.
-/

/-! ### Entries -/

theorem skewSymmetric_smul (r : ℝ) (v : Vec3) : skewSymmetric (r • v) = r • skewSymmetric v := by
  ext i j
  fin_cases i <;> fin_cases j <;> simp [skewSymmetric]

theorem skewSymmetric_add (v w : Vec3) :
    skewSymmetric (v + w) = skewSymmetric v + skewSymmetric w := by
  ext i j
  fin_cases i <;> fin_cases j <;> simp [skewSymmetric, add_comm]

theorem transpose_skewSymmetric (v : Vec3) : (skewSymmetric v)ᵀ = -skewSymmetric v := by
  ext i j
  fin_cases i <;> fin_cases j <;> simp [skewSymmetric]

/-- The cross product the other way round. -/
theorem skewSymmetric_mulVec (v w : Vec3) : skewSymmetric v *ᵥ w = -(skewSymmetric w *ᵥ v) := by
  ext i
  fin_cases i <;> simp [skewSymmetric, mulVec, dotProduct, Fin.sum_univ_three] <;> ring

theorem Quat.vec_smul (r : ℝ) (q : Quat) : Quat.vec (r • q) = r • Quat.vec q := by
  ext i
  fin_cases i <;> rfl

/-- The square of the length, by real part and vector. -/
theorem Quat.normSq_eq (q : Quat) :
    Quaternion.normSq q = q.re ^ 2 + Quat.vec q ⬝ᵥ Quat.vec q := by
  rw [Quaternion.normSq_def', dotProduct, Fin.sum_univ_three]
  simp only [Quat.vec, Matrix.cons_val]
  ring

/-- The inverse rotation, by real part and vector. -/
theorem Quat.transpose_toRotationMatrix (q : Quat) :
    (Quat.toRotationMatrix q)ᵀ
      = 1 - (2 * q.re) • skewSymmetric (Quat.vec q)
        + (2 : ℝ) • (skewSymmetric (Quat.vec q) * skewSymmetric (Quat.vec q)) := by
  ext i j
  fin_cases i <;> fin_cases j <;> simp [Quat.toRotationMatrix, skewSymmetric, Quat.vec] <;> ring

/-! ### Sizes -/

/-- The greatest entry is no longer than the vector. -/
theorem sq_norm_le_dotProduct (v : Vec3) : ‖v‖ ^ 2 ≤ v ⬝ᵥ v := by
  have hle : ‖v‖ ≤ √(v ⬝ᵥ v) := by
    refine (pi_norm_le_iff_of_nonneg (Real.sqrt_nonneg _)).mpr fun i => Real.le_sqrt_of_sq_le ?_
    rw [Real.norm_eq_abs, sq_abs, sq]
    exact Finset.single_le_sum (fun j _ => mul_self_nonneg (v j)) (Finset.mem_univ i)
  calc ‖v‖ ^ 2 ≤ √(v ⬝ᵥ v) ^ 2 := by gcongr
    _ = v ⬝ᵥ v := Real.sq_sqrt (dotProduct_self_nonneg v)

/-- The vector is no longer than three of its greatest entries. -/
theorem dotProduct_self_le (v : Vec3) : v ⬝ᵥ v ≤ 3 * ‖v‖ ^ 2 := by
  have hentry : ∀ i, v i * v i ≤ ‖v‖ ^ 2 := fun i => by
    rw [← sq, ← sq_abs]
    gcongr
    exact norm_le_pi_norm v i
  rw [dotProduct, Fin.sum_univ_three]
  linarith [hentry 0, hentry 1, hentry 2]

/-- A cross product with `v` is at most twice as long as `v`. -/
theorem norm_skewSymmetric_le (v : Vec3) : ‖skewSymmetric v‖ ≤ 2 * ‖v‖ := by
  have hentry : ∀ i, |v i| ≤ ‖v‖ := norm_le_pi_norm v
  have hrow : ∀ i, ∑ j, ‖skewSymmetric v i j‖ ≤ 2 * ‖v‖ := by
    intro i
    rw [Fin.sum_univ_three]
    fin_cases i <;> simp [skewSymmetric] <;> linarith [hentry 0, hentry 1, hentry 2]
  have hsup : (Finset.univ : Finset (Fin 3)).sup (fun i => ∑ j, ‖skewSymmetric v i j‖₊)
      ≤ 2 * ‖v‖₊ := by
    refine Finset.sup_le fun i _ => ?_
    rw [← NNReal.coe_le_coe]
    push_cast
    exact hrow i
  rw [Matrix.linfty_opNorm_def]
  exact_mod_cast hsup

theorem norm_skewSymmetric_sq_le (v : Vec3) :
    ‖skewSymmetric v * skewSymmetric v‖ ≤ 4 * ‖v‖ ^ 2 :=
  calc ‖skewSymmetric v * skewSymmetric v‖
      ≤ 2 * ‖v‖ * (2 * ‖v‖) :=
        (norm_mul_le _ _).trans (by gcongr <;> exact norm_skewSymmetric_le v)
    _ = 4 * ‖v‖ ^ 2 := by ring

/-! ### The half angle -/

/-- The scalars of the exponential map: the real part `w`, and the factor `c` of the vector. -/
structure HalfAngle (v : Vec3) (w c : ℝ) : Prop where
  unit : w ^ 2 + c ^ 2 * (v ⬝ᵥ v) = 1
  factor_le : |c| ≤ 1 / 2
  first_order : |2 * w * c - 1| ≤ (v ⬝ᵥ v) / 4

/-- For an angle that counts as zero. -/
theorem halfAngle_of_small (v : Vec3) :
    let s := √(1 + (v ⬝ᵥ v) / 4)
    HalfAngle v s⁻¹ (s⁻¹ / 2) := by
  intro s
  have hv : 0 ≤ v ⬝ᵥ v := dotProduct_self_nonneg v
  have hsq : s ^ 2 = 1 + (v ⬝ᵥ v) / 4 := Real.sq_sqrt (by positivity)
  have hs : 1 ≤ s := Real.one_le_sqrt.mpr (by linarith)
  have hinv : s⁻¹ ≤ 1 := inv_le_one_of_one_le₀ hs
  have hpos : 0 < s⁻¹ := by positivity
  have hone : s⁻¹ ^ 2 * (1 + (v ⬝ᵥ v) / 4) = 1 := by
    rw [← hsq, ← mul_pow, inv_mul_cancel₀ (by positivity), one_pow]
  constructor
  · linarith
  · rw [abs_of_pos (by positivity)]
    linarith
  · have hsmaller : s⁻¹ ^ 2 ≤ 1 := pow_le_one₀ hpos.le hinv
    rw [show 2 * s⁻¹ * (s⁻¹ / 2) - 1 = -(s⁻¹ ^ 2 * ((v ⬝ᵥ v) / 4)) by linarith, abs_neg,
      abs_of_nonneg (by positivity)]
    exact mul_le_of_le_one_left (by positivity) hsmaller

/-- For any other angle. -/
theorem halfAngle_of_angle {v : Vec3} (hv : 0 < euclideanNorm v) :
    let angle := euclideanNorm v
    HalfAngle v (Real.cos (angle / 2)) (Real.sin (angle / 2) * angle⁻¹) := by
  intro angle
  have hsq : angle ^ 2 = v ⬝ᵥ v := Real.sq_sqrt (dotProduct_self_nonneg v)
  have hcancel : angle⁻¹ * angle = 1 := inv_mul_cancel₀ hv.ne'
  constructor
  · calc Real.cos (angle / 2) ^ 2 + (Real.sin (angle / 2) * angle⁻¹) ^ 2 * (v ⬝ᵥ v)
        = Real.cos (angle / 2) ^ 2 + Real.sin (angle / 2) ^ 2 * (angle⁻¹ * angle) ^ 2 := by
          rw [← hsq]
          ring
      _ = 1 := by rw [hcancel, one_pow, mul_one, Real.cos_sq_add_sin_sq]
  · have hsin : |Real.sin (angle / 2)| ≤ |angle / 2| := Real.abs_sin_le_abs
    rw [abs_of_pos (half_pos hv)] at hsin
    rw [abs_mul, abs_of_pos (inv_pos.mpr hv)]
    calc |Real.sin (angle / 2)| * angle⁻¹ ≤ angle / 2 * angle⁻¹ := by gcongr
      _ = 1 / 2 := by linarith
  · have hdouble : 2 * Real.cos (angle / 2) * (Real.sin (angle / 2) * angle⁻¹) - 1
        = -((angle - Real.sin angle) * angle⁻¹) := by
      rw [show Real.sin angle = 2 * Real.sin (angle / 2) * Real.cos (angle / 2) by
        rw [← Real.sin_two_mul]
        congr 1
        ring]
      linear_combination hcancel
    have hcube : |angle - Real.sin angle| ≤ |angle| ^ 3 / 6 := Real.abs_sub_sin_le angle
    rw [abs_of_pos hv] at hcube
    rw [hdouble, abs_neg, abs_mul, abs_of_pos (inv_pos.mpr hv), ← hsq]
    calc |angle - Real.sin angle| * angle⁻¹ ≤ angle ^ 3 / 6 * angle⁻¹ := by gcongr
      _ = angle ^ 2 / 6 := by linear_combination angle ^ 2 / 6 * hcancel
      _ ≤ angle ^ 2 / 4 := by linarith [sq_nonneg angle]

/-- The exponential map, by its half angle. -/
theorem expMapSo3_eq (v : Vec3) :
    ∃ w c : ℝ, (expMapSo3 v).re = w ∧ Quat.vec (expMapSo3 v) = c • v ∧ HalfAngle v w c := by
  by_cases hangle : euclideanNorm v < 1e-12
  · let q : Quat := ⟨1, 1 / 2 * v 0, 1 / 2 * v 1, 1 / 2 * v 2⟩
    have hvec : Quat.vec q = (1 / 2 : ℝ) • v := by
      ext i
      fin_cases i <;> rfl
    have hnormSq : Quaternion.normSq q = 1 + (v ⬝ᵥ v) / 4 := by
      rw [Quat.normSq_eq, hvec, dotProduct_smul, smul_dotProduct, smul_eq_mul, smul_eq_mul]
      ring
    have hpos : 0 < Quaternion.normSq q := by
      rw [hnormSq]
      linarith [dotProduct_self_nonneg v]
    have hnorm : Quat.norm q ≠ 0 := (Real.sqrt_pos.mpr hpos).ne'
    have hexp : expMapSo3 v = (√(1 + (v ⬝ᵥ v) / 4))⁻¹ • q := by
      rw [← hnormSq]
      exact (if_pos hangle).trans ((if_neg hnorm).trans (if_pos hpos))
    refine ⟨_, _, ?_, ?_, halfAngle_of_small v⟩
    · rw [hexp, Quaternion.re_smul, smul_eq_mul, mul_one]
    · rw [hexp, Quat.vec_smul, hvec, smul_smul, mul_one_div]
  · refine ⟨_, _, ?_, ?_, halfAngle_of_angle (by linarith)⟩
    · rw [expMapSo3, if_neg hangle, Quat.ofAngleAxis]
    · rw [expMapSo3, if_neg hangle, Quat.ofAngleAxis]
      ext i
      fin_cases i <;> simp [Quat.vec, mul_assoc]

/-- It is a unit quaternion. -/
theorem normSq_expMapSo3 (v : Vec3) : Quaternion.normSq (expMapSo3 v) = 1 := by
  obtain ⟨w, c, hre, hvec, hhalf⟩ := expMapSo3_eq v
  rw [Quat.normSq_eq, hre, hvec, dotProduct_smul, smul_dotProduct, smul_eq_mul, smul_eq_mul,
    ← hhalf.unit]
  ring

namespace HalfAngle

variable {v : Vec3} {w c : ℝ}

theorem abs_two_mul_le (h : HalfAngle v w c) : |2 * w * c| ≤ 1 := by
  have hw : |w| ≤ 1 := by
    rw [← sq_le_one_iff_abs_le_one]
    linarith [h.unit, mul_nonneg (sq_nonneg c) (dotProduct_self_nonneg v)]
  rw [abs_mul, abs_mul, abs_two]
  nlinarith [h.factor_le, abs_nonneg w, abs_nonneg c]

theorem norm_smul_le_one (h : HalfAngle v w c) : ‖c • v‖ ≤ 1 := by
  have hsq : ‖c • v‖ ^ 2 ≤ (c • v) ⬝ᵥ (c • v) := sq_norm_le_dotProduct _
  rw [dotProduct_smul, smul_dotProduct, smul_eq_mul, smul_eq_mul, ← mul_assoc, ← sq] at hsq
  rw [← sq_le_one_iff₀ (norm_nonneg _)]
  linarith [h.unit, sq_nonneg w]

theorem norm_smul_le (h : HalfAngle v w c) : ‖c • v‖ ≤ ‖v‖ / 2 := by
  rw [norm_smul, Real.norm_eq_abs]
  nlinarith [h.factor_le, norm_nonneg v]

/-- The factor of the vector is one half, but for terms of first order. -/
theorem abs_two_mul_sub_one_le (h : HalfAngle v w c) : |2 * w * c - 1| ≤ 3 / 2 * ‖v‖ := by
  have hsq : |2 * w * c - 1| ≤ 3 * ‖v‖ ^ 2 / 4 :=
    h.first_order.trans (by linarith [dotProduct_self_le v])
  have htwo : |2 * w * c - 1| ≤ 2 := by
    obtain ⟨hlower, hupper⟩ := abs_le.mp h.abs_two_mul_le
    rw [abs_le]
    constructor <;> linarith
  rcases le_total ‖v‖ 2 with hv | hv
  · nlinarith [norm_nonneg v]
  · linarith

end HalfAngle

/-! ### First order -/

/-- The inverse of a small rotation. -/
theorem transpose_expMapSo3_eq (v : Vec3) :
    ∃ w c : ℝ, HalfAngle v w c ∧ (Quat.toRotationMatrix (expMapSo3 v))ᵀ
      = 1 - (2 * w * c) • skewSymmetric v
        + (2 : ℝ) • (skewSymmetric (c • v) * skewSymmetric (c • v)) := by
  obtain ⟨w, c, hre, hvec, hhalf⟩ := expMapSo3_eq v
  refine ⟨w, c, hhalf, ?_⟩
  rw [Quat.transpose_toRotationMatrix, hre, hvec, skewSymmetric_smul c v, smul_smul]

/-- **A small rotation** is close to none, -/
theorem transpose_expMapSo3_sub_one :
    (fun v : Vec3 => (Quat.toRotationMatrix (expMapSo3 v))ᵀ - 1) =O[⊤] fun v => ‖v‖ := by
  rw [isBigO_top]
  refine ⟨6, fun v => ?_⟩
  obtain ⟨w, c, h, hrotation⟩ := transpose_expMapSo3_eq v
  have hsplit : (Quat.toRotationMatrix (expMapSo3 v))ᵀ - 1
      = (2 : ℝ) • (skewSymmetric (c • v) * skewSymmetric (c • v))
        - (2 * w * c) • skewSymmetric v := by
    rw [hrotation]
    module
  rw [hsplit, norm_norm]
  calc ‖(2 : ℝ) • (skewSymmetric (c • v) * skewSymmetric (c • v)) - (2 * w * c) • skewSymmetric v‖
      ≤ ‖(2 : ℝ) • (skewSymmetric (c • v) * skewSymmetric (c • v))‖
        + ‖(2 * w * c) • skewSymmetric v‖ := norm_sub_le _ _
    _ ≤ 2 * (4 * ‖c • v‖ ^ 2) + 1 * (2 * ‖v‖) := by
        rw [norm_smul, norm_smul, Real.norm_two, Real.norm_eq_abs]
        gcongr
        · exact norm_skewSymmetric_sq_le _
        · exact h.abs_two_mul_le
        · exact norm_skewSymmetric_le v
    _ ≤ 6 * ‖v‖ := by nlinarith [norm_nonneg (c • v), h.norm_smul_le, h.norm_smul_le_one]

/-- and, but for terms of second order, turns by the cross product. -/
theorem transpose_expMapSo3_sub_one_add :
    (fun v : Vec3 => (Quat.toRotationMatrix (expMapSo3 v))ᵀ - 1 + skewSymmetric v)
      =O[⊤] fun v => ‖v‖ ^ 2 := by
  rw [isBigO_top]
  refine ⟨5, fun v => ?_⟩
  obtain ⟨w, c, h, hrotation⟩ := transpose_expMapSo3_eq v
  have hsplit : (Quat.toRotationMatrix (expMapSo3 v))ᵀ - 1 + skewSymmetric v
      = (2 : ℝ) • (skewSymmetric (c • v) * skewSymmetric (c • v))
        - (2 * w * c - 1) • skewSymmetric v := by
    rw [hrotation]
    module
  rw [hsplit, norm_pow, norm_norm]
  calc ‖(2 : ℝ) • (skewSymmetric (c • v) * skewSymmetric (c • v))
          - (2 * w * c - 1) • skewSymmetric v‖
      ≤ ‖(2 : ℝ) • (skewSymmetric (c • v) * skewSymmetric (c • v))‖
        + ‖(2 * w * c - 1) • skewSymmetric v‖ := norm_sub_le _ _
    _ ≤ 2 * (4 * ‖c • v‖ ^ 2) + 3 / 2 * ‖v‖ * (2 * ‖v‖) := by
        rw [norm_smul, norm_smul, Real.norm_two, Real.norm_eq_abs]
        gcongr
        · exact norm_skewSymmetric_sq_le _
        · exact h.abs_two_mul_sub_one_le
        · exact norm_skewSymmetric_le v
    _ ≤ 5 * ‖v‖ ^ 2 := by nlinarith [norm_nonneg (c • v), h.norm_smul_le]

end FalconGuide
