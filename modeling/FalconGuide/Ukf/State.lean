import FalconGuide.Ekf.State
import FalconGuide.Lib.UnscentedTransform

namespace FalconGuide.Ukf

open Lib Matrix
open scoped BigOperators

/-!
# The state of the unscented filter

* `NominalState`, `UkfState` — the mean with its covariance, and the sigma points;
* `MerweSigmaParams`, `SigmaWeights.compute` — the weights of the sigma points;
* `Decompositions` — the two matrix decompositions the filter uses;
* `unpackSigmaPoint`, `packSigmaPoint` — between sigma points and nominal states;
* `generateSigmaPoints` — sigma points of the current covariance.
-/

/-- `kStateSize`. -/
abbrev stateSize : ℕ := 15

/-- `kNumSigmaPoints`. -/
abbrev numSigmaPoints : ℕ := 2 * stateSize + 1

/-- `StateVector`. -/
abbrev StateVector := Fin stateSize → ℝ

/-- `StateCovariance`. -/
abbrev StateCovariance := Matrix (Fin stateSize) (Fin stateSize) ℝ

/-- `SigmaMatrix`. -/
abbrev SigmaMatrix := Matrix (Fin stateSize) (Fin numSigmaPoints) ℝ

/-- `NominalState` of the unscented filter, which has no clock. -/
structure NominalState where
  timestamp : Timestamp := {}
  positionEnuM : Vec3 := 0
  velocityEnuMps : Vec3 := 0
  orientationBodyToEnu : Quat := 1
  accelBiasMps2 : Vec3 := 0
  gyroBiasRadps : Vec3 := 0

/-- `UkfState`. -/
structure UkfState where
  nominal : NominalState := {}
  covariance : StateCovariance := (1e-4 : ℝ) • (1 : StateCovariance)
  sigmaPoints : SigmaMatrix := 0

/-! ### Weights -/

/-- `MerweSigmaParams`. -/
structure MerweSigmaParams where
  alpha : ℝ := 1e-3
  beta : ℝ := 2
  kappa : ℝ := 0

/-- `lambda`. -/
def MerweSigmaParams.lambda (p : MerweSigmaParams) : ℝ :=
  p.alpha * p.alpha * (stateSize + p.kappa) - stateSize

/-- `n + lambda`. -/
def MerweSigmaParams.scale (p : MerweSigmaParams) : ℝ := stateSize + p.lambda

/-- `SigmaWeights`. -/
structure SigmaWeights where
  meanWeights : Fin numSigmaPoints → ℝ
  covWeights : Fin numSigmaPoints → ℝ

/-- `SigmaWeights::Compute`. -/
noncomputable def SigmaWeights.compute (p : MerweSigmaParams) : SigmaWeights :=
  let wi := 1 / (2 * p.scale)
  { meanWeights := symmetricWeight stateSize (p.lambda / p.scale) wi
    covWeights := symmetricWeight stateSize
      (p.lambda / p.scale + (1 - p.alpha * p.alpha + p.beta)) wi }

/-! ### Options -/

/-- `UkfOptions`, as far as the filter reads them; the noise model has the fields of that of the
    error-state filter. -/
structure UkfOptions where
  sigmaParams : MerweSigmaParams := {}
  imuNoise : ImuNoiseModel := {}
  minImuDtS : ℝ := 1e-6
  maxImuDtS : ℝ := 0.05
  deadReckoningThresholdS : ℝ := 5

/-! ### Sigma points -/

/-- The decompositions: `llt()` with `matrixL()` and whether `info()` is `Success`, and
    `ldlt().solve`. -/
structure Decompositions where
  llt : StateCovariance → StateCovariance × Bool
  ldltSolve : {m : ℕ} → Matrix (Fin m) (Fin m) ℝ → Matrix (Fin m) (Fin stateSize) ℝ →
    Matrix (Fin m) (Fin stateSize) ℝ

/-- `GenerateSigmaPoints`: a covariance that has no decomposition is regularised. -/
noncomputable def generateSigmaPoints (d : Decompositions) (p : MerweSigmaParams) (s : UkfState) :
    UkfState :=
  let (L, success) := d.llt (p.scale • s.covariance)
  if success then { s with sigmaPoints := fun r i => symmetricPoint L i r }
  else
    let covariance := s.covariance + (1e-9 : ℝ) • (1 : StateCovariance)
    let L := (d.llt (p.scale • covariance)).1
    { s with covariance, sigmaPoints := fun r i => symmetricPoint L i r }

/-- `UnpackSigmaPoint`; the timestamp is not copied. -/
noncomputable def unpackSigmaPoint (mean : NominalState) (sigma : StateVector) : NominalState where
  positionEnuM := mean.positionEnuM + segment sigma 0 3
  velocityEnuMps := mean.velocityEnuMps + segment sigma 3 3
  orientationBodyToEnu :=
    Quat.normalized (mean.orientationBodyToEnu * expMapSo3 (segment sigma 6 3))
  accelBiasMps2 := mean.accelBiasMps2 + segment sigma 9 3
  gyroBiasRadps := mean.gyroBiasRadps + segment sigma 12 3

/-- `PackSigmaPoint`. -/
noncomputable def packSigmaPoint (mean s : NominalState) : StateVector :=
  let v : StateVector := setSegment 0 0 (s.positionEnuM - mean.positionEnuM)
  let v := setSegment v 3 (s.velocityEnuMps - mean.velocityEnuMps)
  let v := setSegment v 6
    (logMapSo3 (star mean.orientationBodyToEnu * s.orientationBodyToEnu))
  let v := setSegment v 9 (s.accelBiasMps2 - mean.accelBiasMps2)
  setSegment v 12 (s.gyroBiasRadps - mean.gyroBiasRadps)

end FalconGuide.Ukf
