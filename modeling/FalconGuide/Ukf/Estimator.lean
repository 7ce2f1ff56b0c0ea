import FalconGuide.Core.NavigationState
import FalconGuide.Core.TimeOrderedBuffer
import FalconGuide.Ekf.MeasurementModels
import FalconGuide.Lib.TransitionSystem
import FalconGuide.Ukf.State

namespace FalconGuide.Ukf

open Lib Matrix
open scoped BigOperators

/-!
# The unscented filter

`UkfEstimator` as its member functions compute.  A call that would not return, because the gap
between two IMU samples is split into steps that are not positive, gives `none`.

* `MeasurementModel` — the interface of the measurement models;
* `propagateImu`, `gapLoop`, `UkfEstimator.propagateTo` — propagation with the buffered samples;
* `applyMeasurementModel` — the update, in the steps the source names;
* `UkfEstimator.addMeasurement`, `processUntil`, `reset` — the public calls;
* `UkfEstimator.system` — the runs of an estimator.
-/

/-! ### Measurement models -/

/-- `Eigen::VectorXd`. -/
structure VectorXd where
  size : ℕ
  val : Fin size → ℝ

/-- The first `m` entries. -/
def VectorXd.head (v : VectorXd) (m : ℕ) : Fin m → ℝ := segment v.val 0 m

@[simp]
theorem VectorXd.head_mk {m : ℕ} (v : Fin m → ℝ) : (VectorXd.mk m v).head m = v := segment_self v

/-- `Eigen::MatrixXd`, of a square matrix. -/
structure MatrixXd where
  size : ℕ
  val : Matrix (Fin size) (Fin size) ℝ

/-- The top left corner. -/
def MatrixXd.corner (A : MatrixXd) (m : ℕ) : Matrix (Fin m) (Fin m) ℝ := block A.val 0 0 m m

@[simp]
theorem MatrixXd.corner_mk {m : ℕ} (A : Matrix (Fin m) (Fin m) ℝ) :
    (MatrixXd.mk m A).corner m = A :=
  block_self A

/-- `IUkfMeasurementModel`.  No model overrides `Name`. -/
structure MeasurementModel where
  name : String := "Unknown"
  canHandle : SensorMeasurement → Bool
  predict : NominalState → UpdateContext → VectorXd
  observe : SensorMeasurement → UpdateContext → Option VectorXd
  noiseCovariance : SensorMeasurement → UpdateContext → MatrixXd
  innovation : {m : ℕ} → (Fin m → ℝ) → (Fin m → ℝ) → Fin m → ℝ := fun zObs zPred => zObs - zPred

/-! ### Propagation -/

/-- `PropagateOnePoint`; the timestamp is not copied. -/
noncomputable def propagateOnePoint (s : NominalState) (imu : ImuMeasurement) (dt : ℝ) :
    NominalState :=
  let f := imu.specificForceMps2 - s.accelBiasMps2
  let omega := imu.angularRateRadps - s.gyroBiasRadps
  let R := Quat.toRotationMatrix s.orientationBodyToEnu
  let a := R *ᵥ f + ![0, 0, -9.80665]
  { positionEnuM := s.positionEnuM + dt • s.velocityEnuMps + (1 / 2 * dt * dt) • a
    velocityEnuMps := s.velocityEnuMps + dt • a
    orientationBodyToEnu := Quat.normalized (s.orientationBodyToEnu * expMapSo3 (dt • omega))
    accelBiasMps2 := s.accelBiasMps2
    gyroBiasRadps := s.gyroBiasRadps }

/-- The iteration for the mean attitude, which ends early at a small correction. -/
noncomputable def averageLoop (w : Fin numSigmaPoints → ℝ) (q : Fin numSigmaPoints → Quat) :
    ℕ → Quat → Quat
  | 0, qMean => qMean
  | iterations + 1, qMean =>
    let meanDtheta := ∑ i, w i • logMapSo3 (star qMean * q i)
    let qMean := Quat.normalized (qMean * expMapSo3 meanDtheta)
    if euclideanNorm meanDtheta < 1e-10 then qMean else averageLoop w q iterations qMean

/-- `BuildProcessNoise`. -/
noncomputable def buildProcessNoise (options : UkfOptions) (nom : NominalState) (dt : ℝ) :
    StateCovariance :=
  let R := Quat.toRotationMatrix nom.orientationBodyToEnu
  let G : Matrix (Fin stateSize) (Fin 12) ℝ := setBlock 0 3 0 (-R)
  let G := setBlock G 6 3 (-1 : Mat3)
  let G := setBlock G 9 6 (1 : Mat3)
  let G := setBlock G 12 9 (1 : Mat3)
  let Qc : Matrix (Fin 12) (Fin 12) ℝ :=
    setBlock 0 0 0 (isotropicNoise 3 options.imuNoise.accelNoiseDensity)
  let Qc := setBlock Qc 3 3 (isotropicNoise 3 options.imuNoise.gyroNoiseDensity)
  let Qc := setBlock Qc 6 6 (isotropicNoise 3 options.imuNoise.accelRandomWalk)
  let Qc := setBlock Qc 9 9 (isotropicNoise 3 options.imuNoise.gyroRandomWalk)
  dt • (G * Qc * Gᵀ)

section Propagation

variable (d : Decompositions) (options : UkfOptions)

/-- `PropagateImu`. -/
noncomputable def propagateImu (s : UkfState) (imu : ImuMeasurement) (dt : ℝ) : UkfState :=
  let w := SigmaWeights.compute options.sigmaParams
  let s := generateSigmaPoints d options.sigmaParams s
  let propagated i := propagateOnePoint (unpackSigmaPoint s.nominal (s.sigmaPoints.col i)) imu dt
  let nominal : NominalState := {
    timestamp := imu.timestamp
    positionEnuM := ∑ i, w.meanWeights i • (propagated i).positionEnuM
    velocityEnuMps := ∑ i, w.meanWeights i • (propagated i).velocityEnuMps
    -- orientations have no sum, so their mean is iterated, from the first point
    orientationBodyToEnu := averageLoop w.meanWeights
      (fun i => (propagated i).orientationBodyToEnu) 5 (propagated 0).orientationBodyToEnu
    accelBiasMps2 := ∑ i, w.meanWeights i • (propagated i).accelBiasMps2
    gyroBiasRadps := ∑ i, w.meanWeights i • (propagated i).gyroBiasRadps }
  -- the deviations are from the new mean
  let dx i := packSigmaPoint nominal (propagated i)
  let covariance := ∑ i, w.covWeights i • vecMulVec (dx i) (dx i)
    + buildProcessNoise options s.nominal dt
  { s with nominal, covariance := symmetrizeCovariance covariance }

/-- The loop that splits a gap, `none` when `fuel` steps are not enough. -/
noncomputable def gapLoop (imu : ImuMeasurement) : ℕ → UkfState → ℝ → Option UkfState
  | fuel, s, remaining =>
    if 0 < remaining then
      match fuel with
      | 0 => none
      | fuel + 1 =>
        let step := min remaining options.maxImuDtS
        gapLoop imu fuel (propagateImu d options s imu step) (remaining - step)
    else some s

theorem gapLoop_succ (imu : ImuMeasurement) (fuel : ℕ) (s : UkfState) (remaining : ℝ) :
    gapLoop d options imu (fuel + 1) s remaining
      = if 0 < remaining then
          gapLoop d options imu fuel
            (propagateImu d options s imu (min remaining options.maxImuDtS))
            (remaining - min remaining options.maxImuDtS)
        else some s := by
  rw [gapLoop]

/-- One popped sample of `PropagateTo`.  With a positive `maxImuDtS` the fuel is enough, with any
    other no fuel would be. -/
noncomputable def propagateSample (s : UkfState) (imu : ImuMeasurement) : Option UkfState :=
  if !s.nominal.timestamp.hasSteady && !s.nominal.timestamp.hasGps then
    some { s with nominal := { s.nominal with timestamp := imu.timestamp } }
  else
    match timeDifference imu.timestamp s.nominal.timestamp with
    | none => some s
    | some difference =>
      let dt : ℝ := difference.seconds
      if dt < options.minImuDtS then some s
      else
        (gapLoop d options imu ⌈dt / options.maxImuDtS⌉₊ s dt).map fun s =>
          { s with nominal := { s.nominal with timestamp := imu.timestamp } }

end Propagation

/-! ### Update -/

section Update

variable (d : Decompositions) (p : MerweSigmaParams) (model : MeasurementModel)
  (measurement : SensorMeasurement) (ctx : UpdateContext)

/-- `Z.col(i)`, for the sigma points that `GenerateSigmaPoints` left. -/
noncomputable def predictedPoint (s : UkfState) (m : ℕ) (i : Fin numSigmaPoints) : Fin m → ℝ :=
  (model.predict (unpackSigmaPoint s.nominal (s.sigmaPoints.col i)) ctx).head m

/-- `z_pred`. -/
noncomputable def predictedMean (s : UkfState) (m : ℕ) : Fin m → ℝ :=
  ∑ i, (SigmaWeights.compute p).meanWeights i • predictedPoint model ctx s m i

/-- `dz` of the loop over the sigma points. -/
noncomputable def pointInnovation (s : UkfState) (m : ℕ) (i : Fin numSigmaPoints) : Fin m → ℝ :=
  model.innovation (predictedPoint model ctx s m i) (predictedMean p model ctx s m)

/-- `S`. -/
noncomputable def innovationCovariance (s : UkfState) (m : ℕ) : Matrix (Fin m) (Fin m) ℝ :=
  (model.noiseCovariance measurement ctx).corner m
    + ∑ i, (SigmaWeights.compute p).covWeights i
        • vecMulVec (pointInnovation p model ctx s m i) (pointInnovation p model ctx s m i)

/-- `Pxz`. -/
noncomputable def crossCovariance (s : UkfState) (m : ℕ) : Matrix (Fin stateSize) (Fin m) ℝ :=
  ∑ i, (SigmaWeights.compute p).covWeights i
    • vecMulVec (s.sigmaPoints.col i) (pointInnovation p model ctx s m i)

/-- `K`. -/
noncomputable def kalmanGain (s : UkfState) (m : ℕ) : Matrix (Fin stateSize) (Fin m) ℝ :=
  (d.ldltSolve (innovationCovariance p model measurement ctx s m)
    (crossCovariance p model ctx s m)ᵀ)ᵀ

/-- The correction of the nominal state. -/
noncomputable def correctedNominal (nom : NominalState) (dx : StateVector) : NominalState where
  timestamp := nom.timestamp
  positionEnuM := nom.positionEnuM + segment dx 0 3
  velocityEnuMps := nom.velocityEnuMps + segment dx 3 3
  orientationBodyToEnu := Quat.normalized (nom.orientationBodyToEnu * expMapSo3 (segment dx 6 3))
  accelBiasMps2 := nom.accelBiasMps2 + segment dx 9 3
  gyroBiasRadps := nom.gyroBiasRadps + segment dx 12 3

/-- `ApplyMeasurementModel`. -/
noncomputable def applyMeasurementModel (s : UkfState) : UkfState × MeasurementUpdateReport :=
  match model.observe measurement ctx with
  | none => (s, { result := .rejected, modelName := model.name })
  | some zObs =>
    let m := zObs.size
    let s := generateSigmaPoints d p s
    let zPred := predictedMean p model ctx s m
    let S := innovationCovariance p model measurement ctx s m
    let K := kalmanGain d p model measurement ctx s m
    let dx := K *ᵥ model.innovation zObs.val zPred
    ({ s with
       nominal := correctedNominal s.nominal dx
       covariance := symmetrizeCovariance (s.covariance - K * S * Kᵀ) },
      { result := .accepted
        modelName := model.name
        correctionNorm := some (euclideanNorm dx) })

end Update

/-! ### Initialisation -/

/-- The covariance after an initialisation: that of the fix, or constants when its position
    covariance is zero. -/
noncomputable def initialCovariance (R : Mat3) (gnss : GnssSolution) : StateCovariance :=
  let covPos := R * gnss.positionCovarianceEcefM2 * Rᵀ
  let covVel := R * gnss.velocityCovarianceEcefM2ps2 * Rᵀ
  let (covPos, covVel) :=
    -- both blocks are replaced when that of the position is zero
    if frobeniusNorm covPos < 1e-12 then (isotropicNoise 3 10, isotropicNoise 3 1)
    else (covPos, covVel)
  let P : StateCovariance := setBlock 0 0 0 covPos
  let P := setBlock P 3 3 covVel
  let P := setBlock P 6 6 (isotropicNoise 3 0.5)
  let P := setBlock P 9 9 (isotropicNoise 3 0.3)
  setBlock P 12 12 (isotropicNoise 3 0.05)

/-! ### The estimator -/

/-- `UkfEstimator`, built with `options`. -/
structure UkfEstimator (options : UkfOptions) where
  initialised : Bool := false
  state : UkfState := {}
  measurementModels : List MeasurementModel := []
  imuBuffer : TimeOrderedBuffer ImuMeasurement := { maxSize := 2000 }
  lastAidingTimestamp : Option Timestamp := none
  localTangentPlane : Option LocalTangentPlane := none

namespace UkfEstimator

variable {options : UkfOptions}

/-- `RegisterMeasurementModel`. -/
def registerMeasurementModel (e : UkfEstimator options) (model : MeasurementModel) :
    UkfEstimator options :=
  { e with measurementModels := e.measurementModels ++ [model] }

/-- `Reset`. -/
noncomputable def reset (e : UkfEstimator options) : UkfEstimator options :=
  { e with
    initialised := false
    localTangentPlane := none
    lastAidingTimestamp := none
    imuBuffer := e.imuBuffer.clear
    state := {} }

/-- `PropagateTo`. -/
noncomputable def propagateTo (d : Decompositions) (e : UkfEstimator options)
    (target : Timestamp) : Option (UkfEstimator options) :=
  let (batch, imuBuffer) := e.imuBuffer.popUntil ImuMeasurement.timestamp target true
  (batch.foldlM (propagateSample d options) e.state).map fun state => { e with state, imuBuffer }

/-- `TryInitialiseFromGnss`. -/
noncomputable def tryInitialiseFromGnss (e : UkfEstimator options) (gnss : GnssSolution) :
    UkfEstimator options × Bool :=
  if gnss.fixType = .noFix then (e, false)
  else if gnss.validity ≠ .valid then (e, false)
  else
    let ltp := LocalTangentPlane.make (ecefToLla gnss.positionEcefM)
    let R := ltp.ecefToEnuRotation
    ({ e with
       localTangentPlane := some ltp
       state :=
         { nominal :=
             { timestamp := gnss.timestamp
               velocityEnuMps := R *ᵥ gnss.velocityEcefMps }
           covariance := initialCovariance R gnss
           sigmaPoints := 0 }
       initialised := true }, true)

/-- The dispatch of a measurement to the models, after propagation: the first model that can
    handle it decides. -/
noncomputable def dispatch (d : Decompositions) (e : UkfEstimator options)
    (m : SensorMeasurement) : UkfEstimator options × MeasurementUpdateReport :=
  match e.measurementModels.find? (·.canHandle m) with
  | none => (e, { result := .rejected })
  | some model =>
    let (state, report) := applyMeasurementModel d options.sigmaParams model m
      { ltp := e.localTangentPlane } e.state
    if report.result = .accepted then
      ({ e with state, lastAidingTimestamp := some m.timestamp }, report)
    else ({ e with state }, report)

/-- `AddMeasurement`. -/
noncomputable def addMeasurement (d : Decompositions) (e : UkfEstimator options)
    (m : SensorMeasurement) : Option (UkfEstimator options × MeasurementUpdateReport) :=
  match m with
  -- samples are buffered before the initialisation too
  | .imu imu =>
    let (imuBuffer, r) := e.imuBuffer.insert ImuMeasurement.timestamp imu
    let result : EstimatorUpdateResult :=
      if r = .rejectedOutOfOrder ∨ r = .rejectedNotComparable then .outOfOrder else .buffered
    some ({ e with imuBuffer }, { result })
  | m =>
    if !e.initialised then
      match m with
      | .gnssSolution gnss =>
        let (e, ok) := e.tryInitialiseFromGnss gnss
        some (e, {
          result := if ok then .accepted else .rejected
          modelName := "UkfGnssLooselyCoupled" })
      | _ => some (e, { result := .notInitialized })
    else (e.propagateTo d m.timestamp).map fun e => e.dispatch d m

/-- `ProcessUntil`. -/
noncomputable def processUntil (d : Decompositions) (e : UkfEstimator options)
    (timestamp : Timestamp) : Option (UkfEstimator options × EstimatorUpdateResult) :=
  if !e.initialised then some (e, .notInitialized)
  else (e.propagateTo d timestamp).map fun e => (e, .accepted)

/-- `BuildNavigationState`. -/
noncomputable def buildNavigationState (e : UkfEstimator options) : NavigationState :=
  let nom := e.state.nominal
  let P := e.state.covariance
  let out : NavigationState :=
    { timestamp := nom.timestamp
      positionEnuM := nom.positionEnuM
      velocityEnuMps := nom.velocityEnuMps
      orientationBodyToEnu := nom.orientationBodyToEnu
      covariance := P }
  let out :=
    match e.localTangentPlane with
    | none => out
    | some ltp =>
      { out with
        positionEcefM := ltp.enuToEcef nom.positionEnuM
        velocityEcefMps := ltp.ecefToEnuRotationᵀ *ᵥ nom.velocityEnuMps }
  { out with
    quality :=
      { initialized := e.initialised
        positionAccuracyM := some (blockAccuracy P 0)
        velocityAccuracyMps := some (blockAccuracy P 3)
        attitudeAccuracyRad := some (blockAccuracy P 6) }
    mode := if e.measurementModels.isEmpty then .inertialOnly else .multiSensorFusion
    status := aidingStatus nom.timestamp e.lastAidingTimestamp options.deadReckoningThresholdS
    imu := { health := .healthy, usedInSolution := true } }

/-- `LatestState`. -/
noncomputable def latestState (e : UkfEstimator options) : Option NavigationState :=
  if !e.initialised then none else some e.buildNavigationState

/-! ### Runs -/

/-- The public calls that change the estimator. -/
inductive Call
  | registerMeasurementModel (model : MeasurementModel)
  | addMeasurement (m : SensorMeasurement)
  | processUntil (timestamp : Timestamp)
  | reset

/-- A call that returns, and the estimator after it. -/
inductive Step (d : Decompositions) : UkfEstimator options → Call → UkfEstimator options → Prop
  | registerMeasurementModel (e : UkfEstimator options) (model : MeasurementModel) :
      Step d e (.registerMeasurementModel model) (e.registerMeasurementModel model)
  | addMeasurement (e e' : UkfEstimator options) (m : SensorMeasurement)
      (report : MeasurementUpdateReport)
      (h : e.addMeasurement d m = some (e', report)) : Step d e (.addMeasurement m) e'
  | processUntil (e e' : UkfEstimator options) (timestamp : Timestamp)
      (result : EstimatorUpdateResult)
      (h : e.processUntil d timestamp = some (e', result)) : Step d e (.processUntil timestamp) e'
  | reset (e : UkfEstimator options) : Step d e .reset e.reset

/-- A constructed estimator and its calls. -/
def system (d : Decompositions) (options : UkfOptions) : System (UkfEstimator options) Call where
  init e := e = {}
  step := Step d

end UkfEstimator

end FalconGuide.Ukf
