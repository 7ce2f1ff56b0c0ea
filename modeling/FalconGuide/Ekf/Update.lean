import FalconGuide.Ekf.State
import FalconGuide.Estimation.EstimatorInterface
import FalconGuide.Lib.ScalarUpdates

namespace FalconGuide

open Lib Matrix

/-!
# Measurement updates of the error state

* `Eigen` — the two matrix routines the update helpers call;
* `ekfUpdate` — the update helper of the measurement models;
* `scalarUpdate` — the update with one observation of the tightly coupled model.
-/

/-- `S.inverse()` and `S.ldlt().solve(v)`. -/
structure Eigen where
  inverse : {n : ℕ} → Matrix (Fin n) (Fin n) ℝ → Matrix (Fin n) (Fin n) ℝ
  ldltSolve : {n : ℕ} → Matrix (Fin n) (Fin n) ℝ → (Fin n → ℝ) → (Fin n → ℝ)

/-- The two routines in exact arithmetic. -/
noncomputable def Eigen.exact : Eigen where
  inverse A := A⁻¹
  ldltSolve A v := A⁻¹ *ᵥ v

section Update

variable {n m : ℕ}

/-- `EkfUpdate`. -/
noncomputable def ekfUpdate (eigen : Eigen) (est : Estimate n) (H : Matrix (Fin m) (Fin n) ℝ)
    (dz : Fin m → ℝ) (R : Matrix (Fin m) (Fin m) ℝ) (mahalGate : ℝ) :
    Estimate n × EstimatorUpdateResult :=
  let PHt := est.covariance * Hᵀ
  let S := H * PHt + R
  if 0 < mahalGate ∧ mahalGate < dz ⬝ᵥ eigen.ldltSolve S dz then (est, .rejected)
  else
    let K := PHt * eigen.inverse S
    let IKH := 1 - K * H
    ({ errorState := est.errorState + K *ᵥ dz
       covariance := symmetrizeCovariance (IKH * est.covariance * IKHᵀ + K * R * Kᵀ) },
      .accepted)

/-- The gate of `EkfUpdate`: switched on, and the innovation is farther away. -/
def Gated (mahalGate : ℝ) (P : Matrix (Fin n) (Fin n) ℝ) (H : Matrix (Fin m) (Fin n) ℝ)
    (dz : Fin m → ℝ) (R : Matrix (Fin m) (Fin m) ℝ) : Prop :=
  0 < mahalGate ∧ mahalGate < Kalman.mahalanobis P H R dz

section Exact

variable {est : Estimate n} {H : Matrix (Fin m) (Fin n) ℝ} {dz : Fin m → ℝ}
  {R : Matrix (Fin m) (Fin m) ℝ} {gate : ℝ}

theorem ekfUpdate_of_gated (hgate : Gated gate est.covariance H dz R) :
    ekfUpdate .exact est H dz R gate = (est, .rejected) := by
  rw [Gated, Kalman.mahalanobis, Kalman.innovationCov, Matrix.mul_assoc H] at hgate
  rw [ekfUpdate]
  exact if_pos hgate

/-- The Joseph form of `EkfUpdate` with its gain is the Kalman update. -/
theorem josephUpdate_exact (hP : est.covariance.PosSemidef) (hR : R.PosDef) :
    let K := Kalman.gain est.covariance H R
    symmetrizeCovariance ((1 - K * H) * est.covariance * (1 - K * H)ᵀ + K * R * Kᵀ)
      = Kalman.posterior est.covariance H R := by
  intro K
  have hjoseph := Kalman.joseph_gain (H := H) hP hR
  rw [Kalman.joseph] at hjoseph
  rw [hjoseph]
  exact Kalman.symmetrize_of_isSymm (Kalman.transpose_eq (Kalman.posSemidef_posterior hP hR))

/-- **An update that the gate lets through** is the Kalman update. -/
theorem ekfUpdate_of_not_gated (hgate : ¬ Gated gate est.covariance H dz R)
    (hP : est.covariance.PosSemidef) (hR : R.PosDef) :
    ekfUpdate .exact est H dz R gate
      = ({ errorState := est.errorState + Kalman.gain est.covariance H R *ᵥ dz
           covariance := Kalman.posterior est.covariance H R }, .accepted) := by
  have hK : est.covariance * Hᵀ * (H * (est.covariance * Hᵀ) + R)⁻¹
      = Kalman.gain est.covariance H R := by
    rw [Kalman.gain, Kalman.innovationCov, Matrix.mul_assoc H]
  rw [Gated, Kalman.mahalanobis, Kalman.innovationCov, Matrix.mul_assoc H] at hgate
  rw [ekfUpdate]
  refine (if_neg hgate).trans ?_
  simp only [Eigen.exact, hK, josephUpdate_exact hP hR]

/-- The update without a gate is the Kalman update. -/
theorem ekfUpdate_exact (hgate : gate ≤ 0) (hP : est.covariance.PosSemidef) (hR : R.PosDef) :
    ekfUpdate .exact est H dz R gate
      = ({ errorState := est.errorState + Kalman.gain est.covariance H R *ᵥ dz
           covariance := Kalman.posterior est.covariance H R }, .accepted) :=
  ekfUpdate_of_not_gated (fun h => hgate.not_gt h.1) hP hR

end Exact

/-- One of several updates of a measurement, after those before it gave `outcome`:
    `if (EkfUpdate(…) == Accepted) result = Accepted`. -/
noncomputable def blockUpdate (eigen : Eigen) (outcome : Estimate n × EstimatorUpdateResult)
    (H : Matrix (Fin m) (Fin n) ℝ) (dz : Fin m → ℝ) (R : Matrix (Fin m) (Fin m) ℝ)
    (mahalGate : ℝ) : Estimate n × EstimatorUpdateResult :=
  let (est, result) := ekfUpdate eigen outcome.1 H dz R mahalGate
  (est, if result = .accepted then .accepted else outcome.2)

/-- `ScalarUpdate` of the tightly coupled model, with the gate of its options; the flag says
    whether the observation was used. -/
noncomputable def scalarUpdate (gateSigma : ℝ) (est : Estimate n) (h : Fin n → ℝ)
    (innovation sigma : ℝ) : Estimate n × Bool :=
  let S := h ⬝ᵥ (est.covariance *ᵥ h) + sigma * sigma
  if S ≤ 0 then (est, false)
  else if 0 < gateSigma ∧ gateSigma * √S < |innovation| then (est, false)
  else
    let K := S⁻¹ • (est.covariance *ᵥ h)
    let IKH := 1 - vecMulVec K h
    ({ errorState := est.errorState + innovation • K
       covariance :=
         symmetrizeCovariance (IKH * est.covariance * IKHᵀ + (sigma * sigma) • vecMulVec K K) },
      true)

/-- `Identity() * (s * s)`. -/
def isotropicNoise (m : ℕ) (s : ℝ) : Matrix (Fin m) (Fin m) ℝ := (s * s) • 1

end Update

end FalconGuide
