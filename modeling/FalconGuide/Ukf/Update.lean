import FalconGuide.Ukf.MeasurementModels
import Mathlib.Analysis.Matrix.LDL

namespace FalconGuide.Ukf

open Lib Matrix
open scoped BigOperators

/-!
# The update of the unscented filter

The moments that `ApplyMeasurementModel` computes are those of a set of sigma points.

* `sigmaSet` — the sigma points with the weights of `SigmaWeights::Compute`;
* `innovationCovariance_eq`, `crossCovariance_eq` — `S` and `Pxz` are its moments, for a model
  that does not override `Innovation`;
* `Decompositions.Exact` — what the update relies on the two decompositions for;
* `Decompositions.exact` — the decompositions of exact arithmetic, which do that;
* `applyMeasurementModel_covariance` — for every measurement function, `S` is not below the noise
  and the update leaves `P - K S Kᵀ`, a covariance not above the prior.
-/

/-! ### The sigma points -/

section Weights

variable (p : MerweSigmaParams)

/-- `n + lambda`, as the parameters give it. -/
theorem scale_eq : p.scale = p.alpha * p.alpha * (stateSize + p.kappa) := by
  rw [MerweSigmaParams.scale, MerweSigmaParams.lambda]
  ring

/-- The sigma points of `L`.  The weight of the centre is large and negative when `alpha` is
    small. -/
noncomputable def sigmaSet (hscale : 0 < p.scale) (L : StateCovariance) :
    SigmaSet (Fin numSigmaPoints) (Fin stateSize) :=
  .symmetric L (p.lambda / p.scale) (1 / (2 * p.scale)) (1 - p.alpha * p.alpha + p.beta)
    (by positivity) (by
      have hne : p.scale ≠ 0 := hscale.ne'
      field_simp
      rw [MerweSigmaParams.scale]
      ring)

variable {p} (hscale : 0 < p.scale) (L : StateCovariance)

theorem meanWeights_eq (i : Fin numSigmaPoints) :
    (SigmaWeights.compute p).meanWeights i = (sigmaSet p hscale L).weight i := rfl

theorem covWeights_eq (i : Fin numSigmaPoints) :
    (SigmaWeights.compute p).covWeights i = (sigmaSet p hscale L).covWeight i := by
  have hcentre : i = (sigmaSet p hscale L).centre ↔ i.val = 0 := Fin.ext_iff
  rw [SigmaSet.covWeight, ← meanWeights_eq]
  simp only [SigmaWeights.compute, symmetricWeight, hcentre]
  split
  · rfl
  · rw [add_zero]

/-- The covariance of the sigma points is the one they were made of. -/
theorem covariance_sigmaSet {P : StateCovariance} (hL : L * Lᵀ = p.scale • P) :
    (sigmaSet p hscale L).covariance = P := by
  have hone : 2 * (1 / (2 * p.scale)) * p.scale = 1 := by
    have hne : p.scale ≠ 0 := hscale.ne'
    field_simp
  rw [sigmaSet, SigmaSet.covariance_symmetric, hL, smul_smul, hone, one_smul]

end Weights

/-! ### The decompositions -/

/-- The decompositions in exact arithmetic: on a positive definite matrix `llt()` succeeds with a
    factor, and `ldlt().solve` solves. -/
structure Decompositions.Exact (d : Decompositions) : Prop where
  success : ∀ {A : StateCovariance}, A.PosDef → (d.llt A).2 = true
  factor : ∀ {A : StateCovariance}, A.PosDef → (d.llt A).1 * (d.llt A).1ᵀ = A
  solve : ∀ {m : ℕ} {S : Matrix (Fin m) (Fin m) ℝ} (B : Matrix (Fin m) (Fin stateSize) ℝ),
    S.PosDef → d.ldltSolve S B = S⁻¹ * B

/-- The factor of Cholesky: the lower triangular factor of `LDLᵀ`, with its columns scaled. -/
noncomputable def choleskyFactor {n : ℕ} {A : Matrix (Fin n) (Fin n) ℝ} (hA : A.PosDef) :
    Matrix (Fin n) (Fin n) ℝ :=
  LDL.lower hA * diagonal fun i => √(LDL.diagEntries hA i)

theorem choleskyFactor_mul_transpose {n : ℕ} {A : Matrix (Fin n) (Fin n) ℝ} (hA : A.PosDef) :
    choleskyFactor hA * (choleskyFactor hA)ᵀ = A := by
  have hdiag : (LDL.diag hA).PosSemidef := by
    rw [LDL.diag_eq_lowerInv_conj]
    exact hA.posSemidef.mul_mul_conjTranspose_same _
  let root := diagonal fun i => √(LDL.diagEntries hA i)
  have hroot : root * root = LDL.diag hA := by
    rw [diagonal_mul_diagonal, LDL.diag]
    congr 1
    funext i
    have hi : 0 ≤ LDL.diag hA i i := hdiag.diag_nonneg
    rw [LDL.diag, diagonal_apply_eq] at hi
    exact Real.mul_self_sqrt hi
  calc choleskyFactor hA * (choleskyFactor hA)ᵀ
      = LDL.lower hA * (root * root) * (LDL.lower hA)ᵀ := by
        rw [choleskyFactor, transpose_mul, diagonal_transpose]
        simp only [Matrix.mul_assoc, root]
    _ = A := by
        rw [hroot]
        exact LDL.lower_conj_diag hA

open Classical in
/-- The decompositions of exact arithmetic. -/
noncomputable def Decompositions.exact : Decompositions where
  llt A := if hA : A.PosDef then (choleskyFactor hA, true) else (0, false)
  ldltSolve S B := S⁻¹ * B

theorem Decompositions.llt_exact {A : StateCovariance} (hA : A.PosDef) :
    exact.llt A = (choleskyFactor hA, true) := dif_pos hA

theorem Decompositions.exact_exact : exact.Exact where
  success hA := by rw [llt_exact hA]
  factor hA := by
    rw [llt_exact hA]
    exact choleskyFactor_mul_transpose hA
  solve _ _ := rfl

/-- `L` of `GenerateSigmaPoints`. -/
def factorOf (d : Decompositions) (p : MerweSigmaParams) (s : UkfState) : StateCovariance :=
  (d.llt (p.scale • s.covariance)).1

section Generate

variable {d : Decompositions} {p : MerweSigmaParams} {s : UkfState}

theorem factorOf_mul_transpose (hd : d.Exact) (hscale : 0 < p.scale)
    (hP : s.covariance.PosDef) :
    factorOf d p s * (factorOf d p s)ᵀ = p.scale • s.covariance :=
  hd.factor (hP.smul hscale)

/-- The sigma points of a positive definite covariance, which stays as it is. -/
theorem generateSigmaPoints_eq (hd : d.Exact) (hscale : 0 < p.scale) (hP : s.covariance.PosDef) :
    generateSigmaPoints d p s
      = { s with sigmaPoints := fun r i => symmetricPoint (factorOf d p s) i r } := by
  have hsuccess := hd.success (hP.smul hscale)
  rw [generateSigmaPoints, factorOf]
  exact if_pos hsuccess

end Generate

/-! ### The moments -/

section Moments

variable {p : MerweSigmaParams} {model : MeasurementModel} {measurement : SensorMeasurement}
  {ctx : UpdateContext} {s : UkfState} (hscale : 0 < p.scale) (L : StateCovariance)

/-- The model uses the default `Innovation`. -/
def DefaultInnovation (model : MeasurementModel) : Prop :=
  ∀ {m : ℕ} (zObs zPred : Fin m → ℝ), model.innovation zObs zPred = zObs - zPred

theorem predictedMean_eq (m : ℕ) :
    predictedMean p model ctx s m = (sigmaSet p hscale L).mean (predictedPoint model ctx s m) :=
  rfl

/-- **`S`** is the covariance of the predicted points, and the noise. -/
theorem innovationCovariance_eq (hmodel : DefaultInnovation model) (m : ℕ) :
    innovationCovariance p model measurement ctx s m
      = (sigmaSet p hscale L).innovationCov (predictedPoint model ctx s m)
          ((model.noiseCovariance measurement ctx).corner m) := by
  simp only [innovationCovariance, pointInnovation, SigmaSet.innovationCov, hmodel _ _,
    covWeights_eq hscale L, predictedMean_eq hscale L]

/-- **`Pxz`** is the covariance of the sigma points with the predicted points. -/
theorem crossCovariance_eq (hmodel : DefaultInnovation model)
    (hpoints : s.sigmaPoints = fun r i => symmetricPoint L i r) (m : ℕ) :
    crossCovariance p model ctx s m
      = (sigmaSet p hscale L).crossCov (predictedPoint model ctx s m) := by
  have hcol : ∀ i, s.sigmaPoints.col i = (sigmaSet p hscale L).point i := by
    intro i
    rw [hpoints]
    rfl
  simp only [crossCovariance, pointInnovation, SigmaSet.crossCov, hmodel _ _,
    covWeights_eq hscale L, predictedMean_eq hscale L, hcol]

end Moments

/-! ### The updated covariance -/

section Covariance

variable {d : Decompositions} {p : MerweSigmaParams} {model : MeasurementModel}
  {measurement : SensorMeasurement} {ctx : UpdateContext} {s : UkfState} {zObs : VectorXd}

/-- The update, once the measurement is observed. -/
theorem applyMeasurementModel_of_some (hobs : model.observe measurement ctx = some zObs) :
    let s₁ := generateSigmaPoints d p s
    let S := innovationCovariance p model measurement ctx s₁ zObs.size
    let K := kalmanGain d p model measurement ctx s₁ zObs.size
    let dx := K *ᵥ model.innovation zObs.val (predictedMean p model ctx s₁ zObs.size)
    applyMeasurementModel d p model measurement ctx s
      = ({ s₁ with
           nominal := correctedNominal s₁.nominal dx
           covariance := symmetrizeCovariance (s₁.covariance - K * S * Kᵀ) },
          { result := .accepted
            modelName := model.name
            correctionNorm := some (euclideanNorm dx) }) := by
  simp only [applyMeasurementModel, hobs]

/-- The gain, at a positive definite `S`. -/
theorem kalmanGain_eq (hd : d.Exact) {m : ℕ}
    (hS : (innovationCovariance p model measurement ctx s m).PosDef) :
    kalmanGain d p model measurement ctx s m
      = crossCovariance p model ctx s m * (innovationCovariance p model measurement ctx s m)⁻¹ := by
  rw [kalmanGain, hd.solve _ hS, transpose_mul, transpose_transpose, transpose_nonsing_inv,
    Kalman.transpose_eq hS.posSemidef]

/-- **The updated covariance.** Whatever the measurement function, `S` is not below the noise, and
    the update leaves `P - K S Kᵀ`, a covariance that is not above the prior. -/
theorem applyMeasurementModel_covariance (hd : d.Exact)
    (hscale : 0 < p.alpha * p.alpha * (stateSize + p.kappa)) (hbeta : p.alpha * p.alpha ≤ p.beta)
    (hmodel : DefaultInnovation model) (hP : s.covariance.PosDef)
    (hobs : model.observe measurement ctx = some zObs)
    (hR : ((model.noiseCovariance measurement ctx).corner zObs.size).PosDef) :
    let S := innovationCovariance p model measurement ctx (generateSigmaPoints d p s) zObs.size
    let K := kalmanGain d p model measurement ctx (generateSigmaPoints d p s) zObs.size
    let P' := (applyMeasurementModel d p model measurement ctx s).1.covariance
    P' = s.covariance - K * S * Kᵀ ∧
      (S - (model.noiseCovariance measurement ctx).corner zObs.size).PosSemidef ∧ IsUnit S ∧
      P'ᵀ = P' ∧ P'.PosSemidef ∧ (s.covariance - P').PosSemidef := by
  rw [← scale_eq] at hscale
  intro S K P'
  let X := sigmaSet p hscale (factorOf d p s)
  have hextra : 1 ≤ X.extra := by
    show 1 ≤ 1 - p.alpha * p.alpha + p.beta
    linarith
  have hgen := generateSigmaPoints_eq hd hscale hP
  let z := predictedPoint model ctx (generateSigmaPoints d p s) zObs.size
  have hS : S = X.innovationCov z _ := innovationCovariance_eq hscale _ hmodel _
  have hSpos : S.PosDef := by
    rw [hS]
    exact X.posDef_innovationCov hextra hR
  have hcross : crossCovariance p model ctx (generateSigmaPoints d p s) zObs.size
      = X.crossCov z := crossCovariance_eq hscale _ hmodel (by rw [hgen]) _
  have hcov : X.covariance = s.covariance :=
    covariance_sigmaSet hscale _ (factorOf_mul_transpose hd hscale hP)
  -- the update takes `Pxz S⁻¹ Pxzᵀ` off the prior
  have hleft : (s.covariance - X.crossCov z * S⁻¹ * (X.crossCov z)ᵀ).PosSemidef := by
    rw [← hcov, hS]
    exact X.posSemidef_posterior hextra hR
  have hK : K = X.crossCov z * S⁻¹ := by
    show kalmanGain d p model measurement ctx (generateSigmaPoints d p s) zObs.size = _
    rw [kalmanGain_eq hd hSpos, hcross]
  have hgain : K * S * Kᵀ = X.crossCov z * S⁻¹ * (X.crossCov z)ᵀ := by
    rw [hK]
    exact Kalman.gain_congr hSpos _
  have hP' : P' = s.covariance - X.crossCov z * S⁻¹ * (X.crossCov z)ᵀ := by
    show (applyMeasurementModel d p model measurement ctx s).1.covariance = _
    rw [applyMeasurementModel_of_some hobs]
    show symmetrizeCovariance ((generateSigmaPoints d p s).covariance - K * S * Kᵀ) = _
    rw [hgain, hgen]
    exact Kalman.symmetrize_of_isSymm (Kalman.transpose_eq hleft)
  refine ⟨hgain ▸ hP', ?_, hSpos.isUnit, ?_, ?_, ?_⟩
  · rw [hS]
    exact X.posSemidef_innovationCov_sub hextra
  · rw [hP']
    exact Kalman.transpose_eq hleft
  · rw [hP']
    exact hleft
  · rw [hP', sub_sub_cancel]
    exact Kalman.posSemidef_congr hSpos.inv.posSemidef _

/-- A barometer, with the default parameters and the covariance of a constructed filter. -/
theorem applyMeasurementModel_covariance_barometer :
    let model := barometer { altitudeSigmaM := some 1 }
    let measurement : SensorMeasurement := .barometer { validity := .valid, altitudeM := some 0 }
    let d := Decompositions.exact
    let S := innovationCovariance {} model measurement {} (generateSigmaPoints d {} {}) 1
    let K := kalmanGain d {} model measurement {} (generateSigmaPoints d {} {}) 1
    let P' := (applyMeasurementModel d {} model measurement {} {}).1.covariance
    P' = ({} : UkfState).covariance - K * S * Kᵀ ∧
      (S - (model.noiseCovariance measurement {}).corner 1).PosSemidef ∧ IsUnit S ∧
      P'ᵀ = P' ∧ P'.PosSemidef ∧ (({} : UkfState).covariance - P').PosSemidef := by
  intro model measurement d
  have hobs : model.observe measurement {} = some (.const 0) := rfl
  have hR : (model.noiseCovariance measurement {}).corner 1 = 1 := by
    show (MatrixXd.const (1 * 1)).corner 1 = 1
    rw [MatrixXd.corner_const, one_mul, one_smul]
  obtain ⟨hP', hnoise, hunit, hsymm, hpos, hbelow⟩ :=
    applyMeasurementModel_covariance (p := {}) (s := {}) Decompositions.exact_exact
      (by norm_num) (by norm_num) (fun _ _ => rfl) (PosDef.one.smul (by norm_num)) hobs
      (hR ▸ PosDef.one)
  exact ⟨hP', hnoise, hunit, hsymm, hpos, hbelow⟩

end Covariance

end FalconGuide.Ukf
