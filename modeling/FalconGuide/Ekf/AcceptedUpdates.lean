import FalconGuide.Ekf.Blocks
import FalconGuide.Ekf.GnssRows
import FalconGuide.Ekf.MeasurementModels

namespace FalconGuide

open Lib Matrix

/-!
# What an accepted update leaves of the covariance

The update helpers compute the Joseph form with an explicit inverse.  In exact arithmetic, and with
noise in every component, an update that is accepted leaves the Kalman posterior, which is not
above the prior.

* `TakesOff` — a covariance without what an observation tells about it;
* `fixH`, `fixNoise`, `fixInnovation`, `FixGated` — `ApplySolution` in these terms, with its gate
  on the position alone;
* `applySolution_of_not_gated` — a fix that passes the gate is a Kalman update;
* `accepted_updates_shrink` — the main result, for the three update helpers.
-/

/-! ### Between prior and posterior -/

/-- `P'` is what an observation with matrix `H` and noise `R` leaves of `P`; it is not above `P`,
    so no linear combination of the states has a larger variance. -/
structure TakesOff {n m : ℕ} (P P' : Matrix (Fin n) (Fin n) ℝ) (H : Matrix (Fin m) (Fin n) ℝ)
    (R : Matrix (Fin m) (Fin m) ℝ) : Prop where
  eq : P' = P - P * Hᵀ * (H * P * Hᵀ + R)⁻¹ * H * P
  posSemidef_sub : (P - P').PosSemidef
  variance_le : ∀ x : Fin n → ℝ, x ⬝ᵥ (P' *ᵥ x) ≤ x ⬝ᵥ (P *ᵥ x)

/-- The posterior of any observation with noise in every component. -/
theorem takesOff_posterior {n m : ℕ} {P : Matrix (Fin n) (Fin n) ℝ} {R : Matrix (Fin m) (Fin m) ℝ}
    (hP : P.PosSemidef) (hR : R.PosDef) (H : Matrix (Fin m) (Fin n) ℝ) :
    TakesOff P (Kalman.posterior P H R) H R where
  eq := rfl
  posSemidef_sub := Kalman.posSemidef_sub_posterior hP hR
  variance_le x := by
    have hx := (Kalman.posSemidef_sub_posterior (H := H) hP hR).dotProduct_mulVec_nonneg x
    rw [star_trivial, sub_mulVec, dotProduct_sub] at hx
    exact sub_nonneg.mp hx

/-! ### The fix -/

section Fix

variable {n : ℕ}

/-- `H` of `ApplySolution`. -/
def fixH (layout : StateLayout) : Matrix (Fin 6) (Fin n) ℝ :=
  setBlock (setBlock 0 0 (layout.get .position).offset (1 : Mat3)) 3
    (layout.get .velocity).offset (1 : Mat3)

/-- `R` of `ApplySolution`. -/
def fixNoise (options : GnssLooselyCoupledOptions) (gnss : GnssSolution)
    (ltp : LocalTangentPlane) : Matrix (Fin 6) (Fin 6) ℝ :=
  setBlock (setBlock 0 0 0
      (gnssNoise options.positionSigmaM ltp.ecefToEnuRotation gnss.positionCovarianceEcefM2)) 3 3
    (gnssNoise options.velocitySigmaMps ltp.ecefToEnuRotation gnss.velocityCovarianceEcefM2ps2)

/-- `dz` of `ApplySolution`. -/
noncomputable def fixInnovation (nominal : NominalState) (gnss : GnssSolution)
    (ltp : LocalTangentPlane) : Fin 6 → ℝ :=
  setSegment (setSegment 0 0 (ltp.ecefToEnu gnss.positionEcefM - nominal.positionEnuM)) 3
    (ltp.ecefToEnuRotation *ᵥ gnss.velocityEcefMps - nominal.velocityEnuMps)

/-- `S` of `ApplySolution`, which it inverts. -/
def fixInnovationCov (options : GnssLooselyCoupledOptions) (P : Matrix (Fin n) (Fin n) ℝ)
    (layout : StateLayout) (gnss : GnssSolution) (ltp : LocalTangentPlane) :
    Matrix (Fin 6) (Fin 6) ℝ :=
  Kalman.innovationCov P (fixH layout) (fixNoise options gnss ltp)

/-- The gate of `ApplySolution`, which looks at the position only. -/
def FixGated (options : GnssLooselyCoupledOptions) (nominal : NominalState)
    (P : Matrix (Fin n) (Fin n) ℝ) (layout : StateLayout) (gnss : GnssSolution)
    (ltp : LocalTangentPlane) : Prop :=
  let dz := segment (fixInnovation nominal gnss ltp) 0 3
  0 < options.positionGate ∧ options.positionGate
    < dz ⬝ᵥ ((block (fixInnovationCov options P layout gnss ltp) 0 0 3 3)⁻¹ *ᵥ dz)

variable {options : GnssLooselyCoupledOptions} {nominal : NominalState} {est : Estimate n}
  {layout : StateLayout} {gnss : GnssSolution} {ltp : LocalTangentPlane}

theorem applySolution_of_gated
    (hgate : FixGated options nominal est.covariance layout gnss ltp) :
    applySolution .exact options nominal est layout gnss ltp = (est, .rejected) := by
  rw [applySolution]
  exact if_pos hgate

/-- **A fix that the gate lets through** is a Kalman update. -/
theorem applySolution_of_not_gated
    (hgate : ¬ FixGated options nominal est.covariance layout gnss ltp)
    (hP : est.covariance.PosSemidef) (hR : (fixNoise options gnss ltp).PosDef) :
    let H : Matrix (Fin 6) (Fin n) ℝ := fixH layout
    let R := fixNoise options gnss ltp
    applySolution .exact options nominal est layout gnss ltp
      = ({ errorState := est.errorState
             + Kalman.gain est.covariance H R *ᵥ fixInnovation nominal gnss ltp
           covariance := Kalman.posterior est.covariance H R }, .accepted) := by
  intro H R
  have hcov := josephUpdate_exact (H := H) hP hR
  rw [applySolution]
  refine (if_neg hgate).trans ?_
  rw [← hcov]
  rfl

/-- The index within the first or the second block of three. -/
def halfIndex (i : Fin 6) : Fin 3 ⊕ Fin 3 :=
  if h : i.val < 3 then .inl ⟨i.val, h⟩ else .inr ⟨i.val - 3, by omega⟩

theorem halfIndex_injective : Function.Injective halfIndex := by
  intro i j hij
  apply Fin.ext
  unfold halfIndex at hij
  split at hij
  · split at hij
    · exact Fin.mk.inj (Sum.inl.inj hij)
    · cases hij
  · split at hij
    · cases hij
    · have hsub := Fin.mk.inj (Sum.inr.inj hij)
      omega

/-- Two blocks of three on the diagonal. -/
theorem twoBlocks_eq (A B : Mat3) :
    setBlock (setBlock (0 : Matrix (Fin 6) (Fin 6) ℝ) 0 0 A) 3 3 B
      = (fromBlocks A 0 0 B).submatrix halfIndex halfIndex := by
  ext i j
  rw [submatrix_apply, halfIndex, halfIndex]
  by_cases hi : i.val < 3
  · by_cases hj : j.val < 3
    · simp [setBlock, hi, hj, not_le.mpr hi]
    · simp [setBlock, hi, hj, not_le.mpr hi]
  · by_cases hj : j.val < 3
    · simp [setBlock, hi, hj, not_le.mpr hj]
    · simp [setBlock, hi, hj, not_lt.mp hi, not_lt.mp hj]

/-- Two blocks with noise in every component. -/
theorem posDef_twoBlocks {A B : Mat3} (hA : A.PosDef) (hB : B.PosDef) :
    (setBlock (setBlock (0 : Matrix (Fin 6) (Fin 6) ℝ) 0 0 A) 3 3 B).PosDef := by
  rw [twoBlocks_eq]
  exact (Kalman.posDef_fromBlocks hA hB).submatrix halfIndex_injective

end Fix

/-! ### One observation -/

/-- A posterior of one row is that of a matrix with this row. -/
theorem scalarPosterior_eq_posterior {n : ℕ} {P : Matrix (Fin n) (Fin n) ℝ} (hP : P.PosSemidef)
    {row : Kalman.Row (Fin n)} (hσ : 0 < row.sigma) :
    Kalman.scalarPosterior P row
      = Kalman.posterior P (Matrix.of fun _ : Fin 1 => row.h) (isotropicNoise 1 row.sigma) := by
  have hH : Kalman.stackH [row] = Matrix.of fun _ : Fin 1 => row.h := by
    ext i j
    simp [Kalman.stackH]
  have hR : Kalman.stackNoise [row] = isotropicNoise 1 row.sigma := by
    ext i j
    obtain rfl : i = j := Subsingleton.elim (α := Fin 1) i j
    simp [Kalman.stackNoise, isotropicNoise, sq]
  rw [← hH, ← hR, ← Kalman.batchCov_nil (Kalman.posSemidef_scalarPosterior hP hσ),
    ← Kalman.batchCov_cons hP hσ (by simp)]
  rfl

/-! ### Accepted updates -/

/-- **Accepted updates.** In exact arithmetic, from any prior and with noise in every component, an
    update that is accepted leaves `P - P Hᵀ S⁻¹ H P`, whatever the innovation and the gate. -/
theorem accepted_updates_shrink {n : ℕ} (est : Estimate n) (hP : est.covariance.PosSemidef) :
    (∀ (m : ℕ) (H : Matrix (Fin m) (Fin n) ℝ) (dz : Fin m → ℝ) (R : Matrix (Fin m) (Fin m) ℝ)
      (gate : ℝ), R.PosDef → (ekfUpdate .exact est H dz R gate).2 = .accepted →
      TakesOff est.covariance (ekfUpdate .exact est H dz R gate).1.covariance H R) ∧
    (∀ (options : GnssLooselyCoupledOptions) (nominal : NominalState) (layout : StateLayout)
      (gnss : GnssSolution) (ltp : LocalTangentPlane),
      (gnssNoise options.positionSigmaM ltp.ecefToEnuRotation
        gnss.positionCovarianceEcefM2).PosDef →
      (gnssNoise options.velocitySigmaMps ltp.ecefToEnuRotation
        gnss.velocityCovarianceEcefM2ps2).PosDef →
      (applySolution .exact options nominal est layout gnss ltp).2 = .accepted →
      TakesOff est.covariance
        (applySolution .exact options nominal est layout gnss ltp).1.covariance
        (fixH layout) (fixNoise options gnss ltp)) ∧
    (∀ (gateSigma : ℝ) (h : Fin n → ℝ) (innovation sigma : ℝ), 0 < sigma →
      (scalarUpdate gateSigma est h innovation sigma).2 = true →
      TakesOff est.covariance (scalarUpdate gateSigma est h innovation sigma).1.covariance
        (Matrix.of fun _ : Fin 1 => h) (isotropicNoise 1 sigma)) := by
  refine ⟨?_, ?_, ?_⟩
  · intro m H dz R gate hR hacc
    by_cases hgate : Gated gate est.covariance H dz R
    · rw [ekfUpdate_of_gated hgate] at hacc
      cases hacc
    · rw [ekfUpdate_of_not_gated hgate hP hR]
      exact takesOff_posterior hP hR H
  · intro options nominal layout gnss ltp hpos hvel hacc
    have hR : (fixNoise options gnss ltp).PosDef := posDef_twoBlocks hpos hvel
    by_cases hgate : FixGated options nominal est.covariance layout gnss ltp
    · rw [applySolution_of_gated hgate] at hacc
      cases hacc
    · rw [applySolution_of_not_gated hgate hP hR]
      exact takesOff_posterior hP hR (fixH layout)
  · intro gateSigma h innovation sigma hsigma hacc
    -- `scalarUpdate` is the row update of the tightly coupled model
    let row : Kalman.Row (Fin n) := { h, innovation, sigma }
    let options : GnssTightlyCoupledOptions := { innovationGateSigma := gateSigma }
    have hrow : scalarUpdate gateSigma est h innovation sigma = rowUpdate options est row := rfl
    rw [hrow] at hacc ⊢
    by_cases hpass : rowPasses options est.covariance row
    · have hpost := Kalman.posSemidef_scalarPosterior (r := row) hP hsigma
      rw [rowUpdate_of_passes hpass, Kalman.scalarJoseph_gain hP hsigma]
      show TakesOff _ (Kalman.symmetrize (Kalman.scalarPosterior est.covariance row)) _ _
      rw [Kalman.symmetrize_of_isSymm (Kalman.transpose_eq hpost),
        scalarPosterior_eq_posterior hP hsigma]
      exact takesOff_posterior hP (PosDef.one.smul (mul_pos hsigma hsigma)) _
    · rw [rowUpdate_of_not_passes hpass] at hacc
      cases hacc

/-- One state of unit variance, observed with unit noise. -/
theorem accepted_updates_shrink_unit :
    let est : Estimate 1 := { covariance := 1 }
    let H : Matrix (Fin 1) (Fin 1) ℝ := 1
    (ekfUpdate .exact est H 0 1 0).2 = .accepted ∧
      TakesOff est.covariance (ekfUpdate .exact est H 0 1 0).1.covariance H 1 := by
  intro est H
  have hacc : (ekfUpdate .exact est H 0 1 0).2 = .accepted := by
    rw [ekfUpdate_exact le_rfl PosSemidef.one PosDef.one]
  exact ⟨hacc, (accepted_updates_shrink est PosSemidef.one).1 1 H 0 1 0 PosDef.one hacc⟩

end FalconGuide
