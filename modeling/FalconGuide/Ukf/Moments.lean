import FalconGuide.Ukf.Update

namespace FalconGuide.Ukf

open Lib Matrix
open scoped BigOperators

/-!
# The moments of the sigma points

The weights and the points reproduce mean zero and the covariance that `GenerateSigmaPoints`
leaves.  Here `n + lambda` may be negative, and so may any weight.

* `sum_meanWeights` — the mean weights add up to one;
* `generateSigmaPoints_points` — the points are those of the factor that `llt()` returned for the
  covariance left in the state, regularised or not;
* `generateSigmaPoints_moments` — the main result: mean, covariance, and both for every affine map.
-/

variable {p : MerweSigmaParams}

/-! ### Weights -/

/-- The mean weights add up to one. -/
theorem sum_meanWeights (hscale : p.scale ≠ 0) :
    ∑ i, (SigmaWeights.compute p).meanWeights i = 1 := by
  show ∑ i, symmetricWeight stateSize _ _ i = 1
  rw [sum_symmetricWeight]
  field_simp
  rw [MerweSigmaParams.scale]
  ring

/-! ### Points -/

section Points

variable {d : Decompositions} {s : UkfState}

/-- `GenerateSigmaPoints` leaves the points of the factor of the covariance it leaves. -/
theorem generateSigmaPoints_points (i : Fin numSigmaPoints) :
    (generateSigmaPoints d p s).sigmaPoints.col i
      = symmetricPoint (factorOf d p (generateSigmaPoints d p s)) i := by
  unfold generateSigmaPoints factorOf
  dsimp only
  split
  · rfl
  · rfl

/-- **The moments of the sigma points.** If the factor of `(n + lambda) P` is one, the weights
    reproduce mean zero and covariance `P`, and for every affine map the exact moments of the
    image, whatever the parameters. -/
theorem generateSigmaPoints_moments (d : Decompositions) (p : MerweSigmaParams) (s : UkfState)
    (hscale : p.alpha * p.alpha * (stateSize + p.kappa) ≠ 0) :
    let s' := generateSigmaPoints d p s
    let L := (d.llt (p.scale • s'.covariance)).1
    let w := SigmaWeights.compute p
    let x := s'.sigmaPoints.col
    L * Lᵀ = p.scale • s'.covariance →
    ∑ i, w.meanWeights i = 1 ∧ ∑ i, w.meanWeights i • x i = 0 ∧
      ∑ i, w.covWeights i • vecMulVec (x i) (x i) = s'.covariance ∧
      ∀ (m : ℕ) (A : Matrix (Fin m) (Fin stateSize) ℝ) (b : Fin m → ℝ),
        let y i := A *ᵥ x i + b
        let mean := ∑ i, w.meanWeights i • y i
        mean = b ∧
        ∑ i, w.covWeights i • vecMulVec (y i - mean) (y i - mean) = A * s'.covariance * Aᵀ := by
  intro s' L w x hL
  rw [← scale_eq] at hscale
  have hx : ∀ i, x i = symmetricPoint L i := fun i => generateSigmaPoints_points i
  have hone : ∑ i, w.meanWeights i = 1 := sum_meanWeights hscale
  have hmean : ∑ i, w.meanWeights i • x i = 0 := by
    simp only [hx]
    exact sum_smul_symmetricPoint L _ _
  have hcov : ∑ i, w.covWeights i • vecMulVec (x i) (x i) = s'.covariance := by
    -- the points come in pairs of weight `1 / (2 (n + lambda))`
    have hcancel : 2 * (1 / (2 * p.scale)) * p.scale = 1 := by field_simp
    simp only [hx]
    refine (sum_smul_vecMulVec_symmetricPoint L _ _).trans ?_
    rw [hL, smul_smul, hcancel, one_smul]
  refine ⟨hone, hmean, hcov, fun m A b => ?_⟩
  intro y mean
  have hb : mean = b := by
    simp only [mean, y, smul_add, Finset.sum_add_distrib, ← Finset.sum_smul, hone, one_smul,
      ← mulVec_smul, ← mulVec_sum, hmean, mulVec_zero, zero_add]
  refine ⟨hb, ?_⟩
  rw [hb]
  simp only [y, add_sub_cancel_right]
  rw [sum_smul_vecMulVec_image, hcov]

/-- The default parameters and the covariance of a constructed filter. -/
theorem generateSigmaPoints_moments_default :
    let s' := generateSigmaPoints .exact {} {}
    let w := SigmaWeights.compute {}
    let x := s'.sigmaPoints.col
    ∑ i, w.meanWeights i = 1 ∧ ∑ i, w.meanWeights i • x i = 0 ∧
      ∑ i, w.covWeights i • vecMulVec (x i) (x i) = s'.covariance := by
  have hP : (({} : UkfState).covariance).PosDef := PosDef.one.smul (by norm_num)
  have hscale : 0 < ({} : MerweSigmaParams).scale := by
    rw [scale_eq]
    norm_num
  have hleft : (generateSigmaPoints .exact {} {}).covariance = ({} : UkfState).covariance := by
    rw [generateSigmaPoints_eq Decompositions.exact_exact hscale hP]
  have hmoments := generateSigmaPoints_moments .exact {} {} (by norm_num)
    (by rw [hleft]; exact factorOf_mul_transpose Decompositions.exact_exact hscale hP)
  exact ⟨hmoments.1, hmoments.2.1, hmoments.2.2.1⟩

end Points

end FalconGuide.Ukf
