import FalconGuide.Ceres.Gauge
import FalconGuide.Ceres.PublishedWindow
import FalconGuide.Core.TangentPlane
import FalconGuide.Ukf.Update

namespace FalconGuide

open Lib Matrix CeresSlidingWindowEstimator

/-!
# The cost of a fix

A fix comes in ECEF, with covariances in ECEF; the cost functions compare it in the frame of the
window, and scale it with a root of the inverse of a covariance that was turned.  What the solver
makes small does not depend on that frame.

* `mahalanobis` — the distance that a covariance measures;
* `sumSquares` — what the solver makes small;
* `sqrtInfo_dotProduct` — scaled by the root, one is the other;
* `gnss_cost` — the main result, for both blocks of a fix in every run.
-/

/-- The distance that a covariance measures, squared. -/
noncomputable def mahalanobis (cov : Mat3) (d : Vec3) : ℝ := d ⬝ᵥ (cov⁻¹ *ᵥ d)

/-- The sum of the squares of residuals. -/
def sumSquares (residuals : List Vec3) : ℝ := (residuals.map fun r => r ⬝ᵥ r).sum

/-- A decomposition whose factor is one, of what is positive definite. -/
def Factors (llt : Mat3 → Mat3) : Prop := ∀ A : Mat3, A.PosDef → llt A * (llt A)ᵀ = A

section Cost

variable {llt : Mat3 → Mat3} {cov R : Mat3}

/-- **Scaled by the root** of the inverse. -/
theorem sqrtInfo_dotProduct (hllt : Factors llt) (hcov : cov.PosDef) (d : Vec3) :
    (sqrtInfo llt cov *ᵥ d) ⬝ᵥ (sqrtInfo llt cov *ᵥ d) = mahalanobis cov d := by
  have hroot : (sqrtInfo llt cov)ᵀ * sqrtInfo llt cov = cov⁻¹ := by
    rw [sqrtInfo, transpose_transpose]
    exact hllt _ hcov.inv
  rw [dotProduct_mulVec, vecMul_mulVec, hroot, ← dotProduct_mulVec]
  rfl

/-- A turned covariance measures the distance before the turn. -/
theorem mahalanobis_turned (hR : Rᵀ * R = 1) (cov : Mat3) (d : Vec3) :
    mahalanobis (R * cov * Rᵀ) (R *ᵥ d) = mahalanobis cov d := by
  have hinv : R⁻¹ = Rᵀ := inv_eq_left_inv hR
  have hinv' : Rᵀ⁻¹ = R := inv_eq_right_inv hR
  rw [mahalanobis, Matrix.mul_inv_rev, Matrix.mul_inv_rev, hinv, hinv', mulVec_mulVec,
    Matrix.mul_assoc, Matrix.mul_assoc, hR, Matrix.mul_one, ← mulVec_mulVec, dotProduct_mulVec,
    vecMul_mulVec, hR, vecMul_one]
  rfl

/-- **One block.** The residual of a difference that was turned with its covariance. -/
theorem sumSquares_turned (hllt : Factors llt) (hcov : cov.PosDef) (hR : Rᵀ * R = 1) {r d : Vec3}
    (hr : r = R *ᵥ d) :
    sumSquares [sqrtInfo llt (R * cov * Rᵀ) *ᵥ r] = mahalanobis cov d := by
  rw [hr, sumSquares, List.map_singleton, List.sum_singleton,
    sqrtInfo_dotProduct hllt (Kalman.posDef_congr hcov (.of_mul_eq_one_right _ hR)),
    mahalanobis_turned hR]

end Cost

/-- **The cost of a fix.** In every run of an estimator, of each keyframe and both blocks of a fix:
    the squares of the residuals add up to the distances, as the covariances of the fix measure
    them, between the ECEF position and velocity that the keyframe is published with and those of
    the fix. -/
theorem gnss_cost {options : CeresOptions} {e : CeresSlidingWindowEstimator options}
    (h : (system options).Reachable e) (hinit : e.initialised = true) {llt : Mat3 → Mat3}
    (hllt : Factors llt) (gnss : GnssSolution) (hpos : gnss.positionCovarianceEcefM2.PosDef)
    (hvel : gnss.velocityCovarianceEcefM2ps2.PosDef) (huberLoss : Option ℝ)
    (x : ℕ → WindowKeyframe) (i : ℕ) :
    (e.gnssFactors gnss (e.plane.ecefToEnu gnss.positionEcefM) huberLoss i).map
        (fun b => sumSquares (b.residuals llt fun k => (x k).toKeyframeBlocks)) =
      [mahalanobis gnss.positionCovarianceEcefM2
          ((e.buildNavigationState (x i)).latestState.positionEcefM - gnss.positionEcefM),
        mahalanobis gnss.velocityCovarianceEcefM2ps2
          ((e.buildNavigationState (x i)).latestState.velocityEcefMps
            - gnss.velocityEcefMps)] := by
  obtain ⟨origin, horigin, -⟩ := (shown_of_reachable h hinit).inPlane
  have hplane : e.plane = .make origin := by rw [plane, horigin, Option.getD_some]
  have hR : e.plane.ecefToEnuRotationᵀ * e.plane.ecefToEnuRotation = 1 := by
    rw [hplane]
    exact ecefToEnuRotation_transpose_mul _ _
  have hR' : e.plane.ecefToEnuRotation * e.plane.ecefToEnuRotationᵀ = 1 := mul_eq_one_comm.mp hR
  have hposition : (x i).position - e.plane.ecefToEnu gnss.positionEcefM = e.plane.ecefToEnuRotation
      *ᵥ (e.plane.enuToEcef (x i).position - gnss.positionEcefM) := by
    rw [LocalTangentPlane.ecefToEnu, LocalTangentPlane.enuToEcef, mulVec_sub, mulVec_sub,
      mulVec_add, mulVec_mulVec, hR', one_mulVec]
    abel
  have hvelocity : (x i).velocity - e.plane.ecefToEnuRotation *ᵥ gnss.velocityEcefMps
      = e.plane.ecefToEnuRotation
        *ᵥ (e.plane.ecefToEnuRotationᵀ *ᵥ (x i).velocity - gnss.velocityEcefMps) := by
    rw [mulVec_sub, mulVec_mulVec, hR', one_mulVec]
  exact List.cons_eq_cons.mpr ⟨sumSquares_turned hllt hpos hR hposition,
    List.cons_eq_cons.mpr ⟨sumSquares_turned hllt hvel hR hvelocity, rfl⟩⟩

open Classical in
/-- The decomposition of Cholesky. -/
noncomputable def choleskyLlt (A : Mat3) : Mat3 :=
  if hA : A.PosDef then Ukf.choleskyFactor hA else 0

theorem factors_choleskyLlt : Factors choleskyLlt := by
  intro A hA
  rw [choleskyLlt, dif_pos hA]
  exact Ukf.choleskyFactor_mul_transpose hA

/-- A fix a second after the first, of a metre and a metre per second. -/
theorem gnss_cost_second :
    let e := (afterFirstFix {} 0).estimator
    let gnss : GnssSolution :=
      { fixAt 1000 with positionCovarianceEcefM2 := 1, velocityCovarianceEcefM2ps2 := 1 }
    (e.gnssFactors gnss (e.plane.ecefToEnu gnss.positionEcefM) none 0).map
        (fun b => sumSquares (b.residuals choleskyLlt fun _ => e.newest.toKeyframeBlocks)) =
      [mahalanobis 1 ((e.buildNavigationState e.newest).latestState.positionEcefM
          - gnss.positionEcefM),
        mahalanobis 1 ((e.buildNavigationState e.newest).latestState.velocityEcefMps
          - gnss.velocityEcefMps)] := by
  intro e gnss
  obtain ⟨hreach, hinit, _, _⟩ := afterFirstFix_eq {} 0
  exact gnss_cost (Recorded.reachable hreach.of_guarded) hinit factors_choleskyLlt gnss
    PosDef.one PosDef.one none (fun _ => e.newest) 0

end FalconGuide
