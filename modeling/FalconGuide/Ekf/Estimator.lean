import FalconGuide.Core.NavigationState
import FalconGuide.Core.TimeOrderedBuffer
import FalconGuide.Ekf.GnssTightlyCoupled
import FalconGuide.Ekf.MeasurementModels
import FalconGuide.Lib.TransitionSystem

namespace FalconGuide

open Lib Matrix

/-!
# The error-state filter

`EkfEstimator` as its member functions compute.  A call that would not return, because the gap
between two IMU samples is split into steps that are not positive, gives `none`.

* `MeasurementModel` — the sixteen models that can be registered;
* `propagateImu`, `gapLoop`, `EkfEstimator.propagateTo` — propagation with the buffered samples;
* `EkfEstimator.addMeasurement`, `processUntil`, `reset`, `latestState` — the public calls;
* `EkfEstimator.system` — the runs of an estimator.
-/

/-! ### Registered models -/

/-- A registered measurement model with its options. -/
inductive MeasurementModel
  | aidingSolution (options : AidingSolutionOptions)
  | airspeed (options : AirspeedOptions)
  | barometer (options : BarometerOptions)
  | dvl (options : DvlOptions)
  | echoSounder (options : EchoSounderOptions)
  | externalOdometry (options : ExternalOdometryOptions)
  | externalPose (options : ExternalPoseOptions)
  | externalVelocity (options : ExternalVelocityOptions)
  | gnssLooselyCoupled (options : GnssLooselyCoupledOptions)
  | gnssTightlyCoupled (options : GnssTightlyCoupledOptions)
  | magnetometer (options : MagnetometerOptions)
  | opticalFlow (options : OpticalFlowOptions)
  | radarAltimeter (options : RadarAltimeterOptions)
  | rangeFinder (options : RangeFinderOptions)
  | starTracker (options : StarTrackerOptions)
  | wheelOdometry (options : WheelOdometryOptions)

namespace MeasurementModel

/-- `Name`, which no model overrides. -/
def name (_ : MeasurementModel) : String := "Unknown"

/-- `CanHandle`. -/
def canHandle : MeasurementModel → SensorMeasurement → Bool
  | .aidingSolution _, .aidingSolution _ => true
  | .airspeed _, .airspeed _ => true
  | .barometer _, .barometer _ => true
  | .dvl _, .dvl _ => true
  | .echoSounder _, .echoSounder _ => true
  | .externalOdometry _, .externalOdometry _ => true
  | .externalPose _, .externalPose _ => true
  | .externalVelocity _, .externalVelocity _ => true
  | .gnssLooselyCoupled _, .gnssSolution _ => true
  | .gnssTightlyCoupled _, .gnssTightlyCoupledEpoch _ => true
  | .magnetometer _, .magnetometer _ => true
  | .opticalFlow _, .opticalFlow _ => true
  | .radarAltimeter _, .radarAltimeter _ => true
  | .rangeFinder _, .rangeFinder _ => true
  | .starTracker _, .starTracker _ => true
  | .wheelOdometry _, .wheelOdometry _ => true
  | _, _ => false

/-- `Apply`, on a measurement the model can handle. -/
noncomputable def apply {n : ℕ} (eigen : Eigen) (nominal : NominalState) (est : Estimate n)
    (layout : StateLayout) (context : UpdateContext) :
    MeasurementModel → SensorMeasurement → Estimate n × EstimatorUpdateResult
  | .aidingSolution o, .aidingSolution m =>
    aidingSolutionApply eigen o nominal est layout m context
  | .airspeed o, .airspeed m => airspeedApply eigen o nominal est layout m
  | .barometer o, .barometer m => barometerApply eigen o nominal est layout m
  | .dvl o, .dvl m => dvlApply eigen o nominal est layout m
  | .echoSounder o, .echoSounder m => echoSounderApply eigen o nominal est layout m
  | .externalOdometry o, .externalOdometry m =>
    externalOdometryApply eigen o nominal est layout m context
  | .externalPose o, .externalPose m => externalPoseApply eigen o nominal est layout m context
  | .externalVelocity o, .externalVelocity m => externalVelocityApply eigen o nominal est layout m
  | .gnssLooselyCoupled o, .gnssSolution m =>
    gnssLooselyCoupledApply eigen o nominal est layout m context
  | .gnssTightlyCoupled o, .gnssTightlyCoupledEpoch m =>
    gnssTightlyCoupledApply o nominal est layout m context
  | .magnetometer o, .magnetometer m => magnetometerApply eigen o nominal est layout m
  | .opticalFlow o, .opticalFlow m => opticalFlowApply eigen o nominal est layout m
  | .radarAltimeter o, .radarAltimeter m => radarAltimeterApply eigen o nominal est layout m
  | .rangeFinder o, .rangeFinder m => rangeFinderApply eigen o nominal est layout m
  | .starTracker o, .starTracker m => starTrackerApply eigen o nominal est layout m
  | .wheelOdometry o, .wheelOdometry m => wheelOdometryApply eigen o nominal est layout m
  | _, _ => (est, .rejected)

end MeasurementModel

/-! ### Propagation -/

section Propagation

variable {n : ℕ} (layout : StateLayout)

/-- `F`, the continuous error dynamics. -/
def errorDynamics (R : Mat3) (f omega : Vec3) : Matrix (Fin n) (Fin n) ℝ :=
  let pos := (layout.get .position).offset
  let vel := (layout.get .velocity).offset
  let att := (layout.get .attitude).offset
  let aba := (layout.get .accelBias).offset
  let gba := (layout.get .gyroBias).offset
  let clk := (layout.get .gnssClock).offset
  let F := setBlock 0 pos vel (1 : Mat3)
  let F := setBlock F vel att (-R * skewSymmetric f)
  let F := setBlock F vel aba (-R)
  let F := setBlock F att att (-skewSymmetric omega)
  let F := setBlock F att gba (-1 : Mat3)
  -- the drift drives the bias of the clock
  if layout.has .gnssClock then setEntry F clk (clk + 1) 1 else F

/-- `G`, which maps accelerometer noise, gyroscope noise and the two bias walks. -/
def noiseInput (R : Mat3) : Matrix (Fin n) (Fin 12) ℝ :=
  let G := setBlock 0 (layout.get .velocity).offset 0 (-R)
  let G := setBlock G (layout.get .attitude).offset 3 (-1 : Mat3)
  let G := setBlock G (layout.get .accelBias).offset 6 (1 : Mat3)
  setBlock G (layout.get .gyroBias).offset 9 (1 : Mat3)

/-- `Qc`, the spectral densities. -/
def noiseDensity (noise : ImuNoiseModel) : Matrix (Fin 12) (Fin 12) ℝ :=
  let Qc := setBlock 0 0 0 (isotropicNoise 3 noise.accelNoiseDensity)
  let Qc := setBlock Qc 3 3 (isotropicNoise 3 noise.gyroNoiseDensity)
  let Qc := setBlock Qc 6 6 (isotropicNoise 3 noise.accelRandomWalk)
  setBlock Qc 9 9 (isotropicNoise 3 noise.gyroRandomWalk)

end Propagation

/-- The nominal part of `PropagateImu`. -/
noncomputable def propagateNominal (nom : NominalState) (imu : ImuMeasurement) (dt : ℝ) :
    NominalState :=
  let f := imu.specificForceMps2 - nom.accelBiasMps2
  let omega := imu.angularRateRadps - nom.gyroBiasRadps
  let R := Quat.toRotationMatrix nom.orientationBodyToEnu
  let a := R *ᵥ f + ![0, 0, -gravityMps2]
  { nom with
    positionEnuM := nom.positionEnuM + dt • nom.velocityEnuMps + (1 / 2 * dt * dt) • a
    velocityEnuMps := nom.velocityEnuMps + dt • a
    orientationBodyToEnu :=
      Quat.normalized (nom.orientationBodyToEnu * expMapSo3 (dt • omega))
    timestamp := imu.timestamp }

/-- The covariance part of `PropagateImu`, from the nominal state before the step. -/
noncomputable def propagateCovariance {n : ℕ} (options : EkfOptions) (layout : StateLayout)
    (nom : NominalState) (P : Matrix (Fin n) (Fin n) ℝ) (imu : ImuMeasurement) (dt : ℝ) :
    Matrix (Fin n) (Fin n) ℝ :=
  let f := imu.specificForceMps2 - nom.accelBiasMps2
  let omega := imu.angularRateRadps - nom.gyroBiasRadps
  let R := Quat.toRotationMatrix nom.orientationBodyToEnu
  let G := noiseInput layout R
  let Phi := 1 + dt • errorDynamics layout R f omega
  let Q := dt • (G * noiseDensity options.imuNoise * Gᵀ)
  symmetrizeCovariance (Phi * P * Phiᵀ + Q)

/-- `PropagateImu`. -/
noncomputable def propagateImu {layout : StateLayout} (options : EkfOptions)
    (s : EkfState layout) (imu : ImuMeasurement) (dt : ℝ) : EkfState layout where
  nominal := propagateNominal s.nominal imu dt
  estimate :=
    { s.estimate with
      covariance := propagateCovariance options layout s.nominal s.estimate.covariance imu dt }

/-- The loop that splits a gap, `none` when `fuel` steps are not enough. -/
noncomputable def gapLoop {layout : StateLayout} (options : EkfOptions) (imu : ImuMeasurement) :
    ℕ → EkfState layout → ℝ → Option (EkfState layout)
  | fuel, s, remaining =>
    -- the last piece is the rest of the gap
    if 0 < remaining then
      match fuel with
      | 0 => none
      | fuel + 1 =>
        let step := min remaining options.maxImuDtS
        gapLoop options imu fuel (propagateImu options s imu step) (remaining - step)
    else some s

theorem gapLoop_succ {layout : StateLayout} (options : EkfOptions) (imu : ImuMeasurement)
    (fuel : ℕ) (s : EkfState layout) (remaining : ℝ) :
    gapLoop options imu (fuel + 1) s remaining
      = if 0 < remaining then
          gapLoop options imu fuel (propagateImu options s imu (min remaining options.maxImuDtS))
            (remaining - min remaining options.maxImuDtS)
        else some s := by
  rw [gapLoop]

/-- One popped sample of `PropagateTo`.  With a positive `maxImuDtS` the fuel is enough, with any
    other no fuel would be. -/
noncomputable def propagateSample {layout : StateLayout} (options : EkfOptions)
    (s : EkfState layout) (imu : ImuMeasurement) : Option (EkfState layout) :=
  -- a state without a time takes that of the sample, and does not move
  if !s.nominal.timestamp.hasSteady && !s.nominal.timestamp.hasGps then
    some { s with nominal := { s.nominal with timestamp := imu.timestamp } }
  else
    match timeDifference imu.timestamp s.nominal.timestamp with
    | none => some s
    | some difference =>
      let dt : ℝ := difference.seconds
      -- nor does it for a sample that is too close, or earlier
      if dt < options.minImuDtS then some s
      else
        (gapLoop options imu ⌈dt / options.maxImuDtS⌉₊ s dt).map fun s =>
          { s with nominal := { s.nominal with timestamp := imu.timestamp } }

/-! ### Injection -/

/-- The nominal state after `InjectErrorAndReset`. -/
noncomputable def injectedNominal {n : ℕ} (layout : StateLayout) (nom : NominalState)
    (dx : Fin n → ℝ) : NominalState where
  timestamp := nom.timestamp
  positionEnuM := nom.positionEnuM + segment dx (layout.get .position).offset 3
  velocityEnuMps := nom.velocityEnuMps + segment dx (layout.get .velocity).offset 3
  orientationBodyToEnu := Quat.normalized
    (nom.orientationBodyToEnu * expMapSo3 (segment dx (layout.get .attitude).offset 3))
  accelBiasMps2 := nom.accelBiasMps2 + segment dx (layout.get .accelBias).offset 3
  gyroBiasRadps := nom.gyroBiasRadps + segment dx (layout.get .gyroBias).offset 3
  -- the barometer bias has no place in the nominal state, and is lost here
  gnssClock :=
    if layout.has .gnssClock then
      nom.gnssClock.map (· + segment dx (layout.get .gnssClock).offset 2)
    else nom.gnssClock

/-- `InjectErrorAndReset`. -/
noncomputable def injectErrorAndReset {layout : StateLayout} (s : EkfState layout) :
    EkfState layout where
  nominal := injectedNominal layout s.nominal s.estimate.errorState
  estimate := { s.estimate with errorState := 0 }

/-! ### One measurement -/

/-- A measurement in the error-state filter: `Apply` and, if it accepts, `InjectErrorAndReset`. -/
noncomputable def ekfStep {layout : StateLayout} (eigen : Eigen)
    (model : MeasurementModel) (measurement : SensorMeasurement) (ctx : UpdateContext)
    (s : EkfState layout) : EkfState layout × MeasurementUpdateReport :=
  let (estimate, result) := model.apply eigen s.nominal s.estimate layout ctx measurement
  if result = .accepted then
    (injectErrorAndReset { s with estimate },
      { result
        modelName := model.name
        correctionNorm := some (euclideanNorm estimate.errorState) })
  else ({ s with estimate }, { result, modelName := model.name })

section EkfStep

variable {layout : StateLayout} {eigen : Eigen} {model : MeasurementModel}
  {measurement : SensorMeasurement} {ctx : UpdateContext} {s : EkfState layout}
  {est : Estimate layout.totalSize} {result : EstimatorUpdateResult}

theorem ekfStep_of_ne
    (h : model.apply eigen s.nominal s.estimate layout ctx measurement = (est, result))
    (hresult : result ≠ .accepted) :
    ekfStep eigen model measurement ctx s
      = ({ s with estimate := est }, { result, modelName := model.name }) := by
  rw [ekfStep, h]
  exact if_neg hresult

theorem ekfStep_of_accepted
    (h : model.apply eigen s.nominal s.estimate layout ctx measurement = (est, .accepted)) :
    ekfStep eigen model measurement ctx s
      = (injectErrorAndReset { s with estimate := est },
          { result := .accepted
            modelName := model.name
            correctionNorm := some (euclideanNorm est.errorState) }) := by
  rw [ekfStep, h]
  exact if_pos rfl

end EkfStep

/-! ### Initialisation -/

/-- `kInitPosSigmaM`, `kInitVelSigmaMps`, `kInitAttSigmaRad`, `kInitAbaSigma`, `kInitGbaSigma`,
    `kInitClkBiasSigmaM` and `kInitClkDriftSigmaMps`. -/
structure InitSigmas where
  pos : ℝ := 10
  vel : ℝ := 1
  att : ℝ := 0.5
  aba : ℝ := 0.3
  gba : ℝ := 0.05
  clkBias : ℝ := 100
  clkDrift : ℝ := 10

/-- `m.block(offset, offset, 3, 3) = B`. -/
def setDiagBlock {n : ℕ} (layout : StateLayout) (P : Matrix (Fin n) (Fin n) ℝ)
    (id : StateSegmentId) (B : Mat3) : Matrix (Fin n) (Fin n) ℝ :=
  setBlock P (layout.get id).offset (layout.get id).offset B

/-- The position and velocity blocks of the initial covariance: those of the fix, or constants
    when its position covariance is zero. -/
noncomputable def initialPosVel {n : ℕ} (layout : StateLayout) (R : Mat3) (gnss : GnssSolution) :
    Matrix (Fin n) (Fin n) ℝ :=
  let sigmas : InitSigmas := {}
  let pos := (layout.get .position).offset
  let P := setDiagBlock layout 0 .position (R * gnss.positionCovarianceEcefM2 * Rᵀ)
  let P := setDiagBlock layout P .velocity (R * gnss.velocityCovarianceEcefM2ps2 * Rᵀ)
  if frobeniusNorm (block P pos pos 3 3) < 1e-12 then
    let P := setDiagBlock layout P .position (isotropicNoise 3 sigmas.pos)
    setDiagBlock layout P .velocity (isotropicNoise 3 sigmas.vel)
  else P

/-- The initial covariance. -/
noncomputable def initialCovariance {n : ℕ} (layout : StateLayout) (R : Mat3)
    (gnss : GnssSolution) : Matrix (Fin n) (Fin n) ℝ :=
  let sigmas : InitSigmas := {}
  let P := initialPosVel layout R gnss
  let P := setDiagBlock layout P .attitude (isotropicNoise 3 sigmas.att)
  let P := setDiagBlock layout P .accelBias (isotropicNoise 3 sigmas.aba)
  let P := setDiagBlock layout P .gyroBias (isotropicNoise 3 sigmas.gba)
  if layout.has .gnssClock then
    let clk := (layout.get .gnssClock).offset
    let P := setEntry P clk clk (sigmas.clkBias * sigmas.clkBias)
    setEntry P (clk + 1) (clk + 1) (sigmas.clkDrift * sigmas.clkDrift)
  else P

/-- The nominal state after an initialisation; only a layout with a clock sets the clock. -/
def initialNominal (layout : StateLayout) (nom : NominalState) (R : Mat3) (gnss : GnssSolution) :
    NominalState where
  timestamp := gnss.timestamp
  positionEnuM := 0
  velocityEnuMps := R *ᵥ gnss.velocityEcefMps
  orientationBodyToEnu := 1
  accelBiasMps2 := 0
  gyroBiasRadps := 0
  gnssClock := if layout.has .gnssClock then some 0 else nom.gnssClock

/-! ### The estimator -/

/-- `EkfEstimator`, built with `options`. -/
structure EkfEstimator (options : EkfOptions) where
  initialised : Bool := false
  state : EkfState options.buildLayout := {}
  measurementModels : List MeasurementModel := []
  imuBuffer : TimeOrderedBuffer ImuMeasurement := { maxSize := 2000 }
  lastAidingTimestamp : Option Timestamp := none
  localTangentPlane : Option LocalTangentPlane := none

namespace EkfEstimator

variable {options : EkfOptions}

/-- `RegisterMeasurementModel`. -/
def registerMeasurementModel (e : EkfEstimator options) (model : MeasurementModel) :
    EkfEstimator options :=
  { e with measurementModels := e.measurementModels ++ [model] }

/-- `Reset`. -/
def reset (e : EkfEstimator options) : EkfEstimator options :=
  { e with
    initialised := false
    localTangentPlane := none
    lastAidingTimestamp := none
    imuBuffer := e.imuBuffer.clear
    state := {} }

/-- `PropagateTo`. -/
noncomputable def propagateTo (e : EkfEstimator options) (target : Timestamp) :
    Option (EkfEstimator options) :=
  let (batch, imuBuffer) := e.imuBuffer.popUntil ImuMeasurement.timestamp target true
  (batch.foldlM (propagateSample options) e.state).map fun state => { e with state, imuBuffer }

/-- `TryInitialiseFromGnss`. -/
noncomputable def tryInitialiseFromGnss (e : EkfEstimator options) (gnss : GnssSolution) :
    EkfEstimator options × Bool :=
  if gnss.fixType = .noFix then (e, false)
  else if gnss.validity ≠ .valid then (e, false)
  else
    let ltp := LocalTangentPlane.make (ecefToLla gnss.positionEcefM)
    let R := ltp.ecefToEnuRotation
    ({ e with
       localTangentPlane := some ltp
       state :=
         { nominal := initialNominal options.buildLayout e.state.nominal R gnss
           estimate :=
             { errorState := 0, covariance := initialCovariance options.buildLayout R gnss } }
       initialised := true }, true)

/-- The dispatch of a measurement to the models, after propagation: the first model that can
    handle it decides. -/
noncomputable def dispatch (eigen : Eigen) (e : EkfEstimator options) (m : SensorMeasurement) :
    EkfEstimator options × MeasurementUpdateReport :=
  match e.measurementModels.find? (·.canHandle m) with
  | none => (e, { result := .rejected })
  | some model =>
    let (estimate, result) := model.apply eigen e.state.nominal e.state.estimate
      options.buildLayout { ltp := e.localTangentPlane } m
    -- the model has written to the state, whatever it reports
    let applied : EkfState options.buildLayout := { e.state with estimate }
    if result = .accepted then
      ({ e with
         state := injectErrorAndReset applied
         lastAidingTimestamp := some m.timestamp },
        { result
          modelName := model.name
          correctionNorm := some (euclideanNorm estimate.errorState) })
    else ({ e with state := applied }, { result, modelName := model.name })

/-- The dispatch is the step of the model found. -/
theorem dispatch_eq_ekfStep {eigen : Eigen} {e : EkfEstimator options} {model : MeasurementModel}
    {m : SensorMeasurement} (h : e.measurementModels.find? (·.canHandle m) = some model) :
    e.dispatch eigen m
      = let (state, report) := ekfStep eigen model m { ltp := e.localTangentPlane } e.state
        if report.result = .accepted then
          ({ e with state, lastAidingTimestamp := some m.timestamp }, report)
        else ({ e with state }, report) := by
  simp only [dispatch, h, ekfStep]
  split
  · rename_i hacc
    simp only [hacc]
  · rfl

/-- `AddMeasurement`. -/
noncomputable def addMeasurement (eigen : Eigen) (e : EkfEstimator options)
    (m : SensorMeasurement) : Option (EkfEstimator options × MeasurementUpdateReport) :=
  match m with
  -- samples are buffered before the initialisation too
  | .imu imu =>
    let (imuBuffer, r) := e.imuBuffer.insert ImuMeasurement.timestamp imu
    let result : EstimatorUpdateResult :=
      if r = .rejectedOutOfOrder ∨ r = .rejectedNotComparable then .outOfOrder else .buffered
    some ({ e with imuBuffer }, { result })
  | m =>
    if !e.initialised then
      -- of the rest, only a fix is of use then
      match m with
      | .gnssSolution gnss =>
        let (e, ok) := e.tryInitialiseFromGnss gnss
        some (e,
          { result := if ok then .accepted else .rejected, modelName := "GnssLooselyCoupled" })
      | _ => some (e, { result := .notInitialized })
    else (e.propagateTo m.timestamp).map fun e => e.dispatch eigen m

/-- `ProcessUntil`. -/
noncomputable def processUntil (e : EkfEstimator options) (timestamp : Timestamp) :
    Option (EkfEstimator options × EstimatorUpdateResult) :=
  if !e.initialised then some (e, .notInitialized)
  else (e.propagateTo timestamp).map fun e => (e, .accepted)

/-- `BuildNavigationState`. -/
noncomputable def buildNavigationState (e : EkfEstimator options) : NavigationState :=
  let nom := e.state.nominal
  let layout := options.buildLayout
  let P := e.state.estimate.covariance
  let out : NavigationState :=
    { timestamp := nom.timestamp
      positionEnuM := nom.positionEnuM
      velocityEnuMps := nom.velocityEnuMps
      orientationBodyToEnu := nom.orientationBodyToEnu }
  let out :=
    match e.localTangentPlane with
    | none => out
    | some ltp =>
      { out with
        positionEcefM := ltp.enuToEcef nom.positionEnuM
        velocityEcefMps := ltp.ecefToEnuRotationᵀ *ᵥ nom.velocityEnuMps }
  -- of a larger state only the first fifteen rows are shown
  let out := if 15 ≤ layout.totalSize then { out with covariance := block P 0 0 15 15 } else out
  -- before the initialisation the other fields keep their defaults
  if !e.initialised then { out with status := .notInitialized, mode := .unknown }
  else
    { out with
      quality :=
        { initialized := true
          positionAccuracyM := some (blockAccuracy P (layout.get .position).offset)
          velocityAccuracyMps := some (blockAccuracy P (layout.get .velocity).offset)
          attitudeAccuracyRad := some (blockAccuracy P (layout.get .attitude).offset) }
      mode := if e.measurementModels.isEmpty then .inertialOnly else .multiSensorFusion
      status := aidingStatus nom.timestamp e.lastAidingTimestamp options.deadReckoningThresholdS
      imu := { health := .healthy, usedInSolution := true } }

@[simp]
theorem buildNavigationState_timestamp (e : EkfEstimator options) :
    e.buildNavigationState.timestamp = e.state.nominal.timestamp := by
  unfold buildNavigationState
  dsimp only
  split
  · split
    · split
      · rfl
      · rfl
    · split
      · rfl
      · rfl
  · split
    · split
      · rfl
      · rfl
    · split
      · rfl
      · rfl

/-- `LatestState`. -/
noncomputable def latestState (e : EkfEstimator options) : Option NavigationState :=
  if !e.initialised then none else some e.buildNavigationState

/-! ### Runs -/

/-- The public calls that change the estimator. -/
inductive Call
  | registerMeasurementModel (model : MeasurementModel)
  | addMeasurement (m : SensorMeasurement)
  | processUntil (timestamp : Timestamp)
  | reset

/-- A call that returns, and the estimator after it. -/
inductive Step (eigen : Eigen) : EkfEstimator options → Call → EkfEstimator options → Prop
  | registerMeasurementModel (e : EkfEstimator options) (model : MeasurementModel) :
      Step eigen e (.registerMeasurementModel model) (e.registerMeasurementModel model)
  | addMeasurement (e e' : EkfEstimator options) (m : SensorMeasurement)
      (report : MeasurementUpdateReport)
      (h : e.addMeasurement eigen m = some (e', report)) : Step eigen e (.addMeasurement m) e'
  | processUntil (e e' : EkfEstimator options) (timestamp : Timestamp)
      (result : EstimatorUpdateResult)
      (h : e.processUntil timestamp = some (e', result)) : Step eigen e (.processUntil timestamp) e'
  | reset (e : EkfEstimator options) : Step eigen e .reset e.reset

/-- A constructed estimator and its calls. -/
def system (eigen : Eigen) (options : EkfOptions) : System (EkfEstimator options) Call where
  init e := e = {}
  step := Step eigen

end EkfEstimator

end FalconGuide
