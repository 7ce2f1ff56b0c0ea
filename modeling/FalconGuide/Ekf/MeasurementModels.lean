import FalconGuide.Core.Sensors
import FalconGuide.Ekf.Update

namespace FalconGuide

open Matrix

/-!
# The measurement models

The fifteen models that update through `ekfUpdate` or its like, each as its options and its
`Apply`.  No model writes to the nominal state.

* altitude: `Barometer`, `EchoSounder`, `RadarAltimeter`, `RangeFinder`;
* body frame: `Airspeed`, `Dvl`, `ExternalVelocity`, `Magnetometer`, `OpticalFlow`,
  `WheelOdometry`;
* attitude: `StarTracker`;
* ECEF: `AidingSolution`, `ExternalOdometry`, `ExternalPose`, `GnssLooselyCoupled`.
-/

variable {n : ℕ}

/-- `H(row, col) = x`. -/
def setEntry {m : ℕ} (H : Matrix (Fin m) (Fin n) ℝ) (row col : ℕ) (x : ℝ) :
    Matrix (Fin m) (Fin n) ℝ :=
  setBlock H row col (Matrix.of fun (_ _ : Fin 1) => x)

/-! ### Altitude -/

/-- `BarometerOptions`. -/
structure BarometerOptions where
  altitudeSigmaM : Option ℝ := none
  isaSeaLevelPressurePa : ℝ := 101325
  innovationGate : ℝ := 0

/-- `PressureToAltitude`. -/
noncomputable def pressureToAltitude (pressurePa seaLevelPa : ℝ) : ℝ :=
  44330.77 * (1 - (pressurePa / seaLevelPa) ^ (1 / 5.25588 : ℝ))

/-- The altitude observed, and its standard deviation. -/
noncomputable def barometerObservation (options : BarometerOptions) (baro : BarometerMeasurement) :
    Option (ℝ × ℝ) :=
  match baro.altitudeM with
  | some altitude => some (altitude, options.altitudeSigmaM.getD 1)
  | none =>
    if 0 < baro.pressurePa then
      some (pressureToAltitude baro.pressurePa options.isaSeaLevelPressurePa,
        options.altitudeSigmaM.getD 5)
    else none

/-- `Barometer::Apply`. -/
noncomputable def barometerApply (eigen : Eigen) (options : BarometerOptions)
    (nominal : NominalState) (est : Estimate n) (layout : StateLayout)
    (baro : BarometerMeasurement) : Estimate n × EstimatorUpdateResult :=
  if baro.validity ≠ .valid then (est, .rejected)
  else
    match barometerObservation options baro with
    | none => (est, .rejected)
    | some (zObs, sigma) =>
      let altitude := (layout.get .position).offset + 2
      let bias := (layout.get .baroBias).offset
      let hPred := nominal.positionEnuM 2
      -- the bias is part of the prediction only if it is part of the state
      let hPred := if layout.has .baroBias then hPred + segment est.errorState bias 1 0 else hPred
      let H : Matrix (Fin 1) (Fin n) ℝ := setEntry 0 0 altitude 1
      let H := if layout.has .baroBias then setEntry H 0 bias 1 else H
      ekfUpdate eigen est H (fun _ => zObs - hPred) (isotropicNoise 1 sigma) options.innovationGate

/-- `EchoSounderOptions`. -/
structure EchoSounderOptions where
  soundSpeedMps : ℝ := 1500
  depthOriginM : ℝ := 0
  sigmaM : Option ℝ := none
  innovationGate : ℝ := 0

/-- `EchoSounder::Apply`; depth is positive downwards. -/
noncomputable def echoSounderApply (eigen : Eigen) (options : EchoSounderOptions)
    (nominal : NominalState) (est : Estimate n) (layout : StateLayout)
    (es : EchoSounderMeasurement) : Estimate n × EstimatorUpdateResult :=
  if es.validity ≠ .valid then (est, .rejected)
  else if es.depthOrRangeM < 0 then (est, .rejected)
  else
    let soundSpeed := es.soundSpeedMps.getD options.soundSpeedMps
    let correctedDepth := es.depthOrRangeM * soundSpeed / options.soundSpeedMps
    let hPred := -nominal.positionEnuM 2 + options.depthOriginM
    let H : Matrix (Fin 1) (Fin n) ℝ := setEntry 0 0 ((layout.get .position).offset + 2) (-1)
    ekfUpdate eigen est H (fun _ => correctedDepth - hPred)
      (isotropicNoise 1 (options.sigmaM.getD 0.2)) options.innovationGate

/-- `RadarAltimeterOptions`. -/
structure RadarAltimeterOptions where
  terrainElevationM : ℝ := 0
  sigmaM : Option ℝ := none
  innovationGate : ℝ := 0

/-- `RadarAltimeter::Apply`. -/
noncomputable def radarAltimeterApply (eigen : Eigen) (options : RadarAltimeterOptions)
    (nominal : NominalState) (est : Estimate n) (layout : StateLayout)
    (ralt : RadarAltimeterMeasurement) : Estimate n × EstimatorUpdateResult :=
  if ralt.validity ≠ .valid then (est, .rejected)
  else if ralt.surface = .invalid then (est, .rejected)
  else if ralt.rangeM < 0 then (est, .rejected)
  else
    let hPred := nominal.positionEnuM 2 - options.terrainElevationM
    let H : Matrix (Fin 1) (Fin n) ℝ := setEntry 0 0 ((layout.get .position).offset + 2) 1
    ekfUpdate eigen est H (fun _ => ralt.rangeM - hPred)
      (isotropicNoise 1 (options.sigmaM.getD 0.5)) options.innovationGate

/-- `RangeFinderOptions`; no code reads `expected_range_m`. -/
structure RangeFinderOptions where
  useAsAltitude : Bool := true
  terrainElevationM : ℝ := 0
  sigmaM : Option ℝ := none
  innovationGate : ℝ := 0

/-- `RangeFinder::Apply`. -/
noncomputable def rangeFinderApply (eigen : Eigen) (options : RangeFinderOptions)
    (nominal : NominalState) (est : Estimate n) (layout : StateLayout)
    (rf : RangeFinderMeasurement) : Estimate n × EstimatorUpdateResult :=
  if !options.useAsAltitude then (est, .rejected)
  else if rf.validity ≠ .valid then (est, .rejected)
  else if rf.rangeM < 0 then (est, .rejected)
  else
    let hPred := nominal.positionEnuM 2 - options.terrainElevationM
    let H : Matrix (Fin 1) (Fin n) ℝ := setEntry 0 0 ((layout.get .position).offset + 2) 1
    ekfUpdate eigen est H (fun _ => rf.rangeM - hPred)
      (isotropicNoise 1 (options.sigmaM.getD 0.3)) options.innovationGate

/-! ### Body frame -/

/-- `AirspeedOptions`. -/
structure AirspeedOptions where
  windEnuMps : Vec3 := 0
  sigmaMps : ℝ := 0.5
  innovationGate : ℝ := 0

/-- `Airspeed::Apply`. -/
noncomputable def airspeedApply (eigen : Eigen) (options : AirspeedOptions)
    (nominal : NominalState) (est : Estimate n) (layout : StateLayout)
    (asp : AirspeedMeasurement) : Estimate n × EstimatorUpdateResult :=
  if asp.validity ≠ .valid then (est, .rejected)
  else if asp.airspeedMps < 0 then (est, .rejected)
  else
    let R := Quat.toRotationMatrix nominal.orientationBodyToEnu
    let vBody := Rᵀ *ᵥ (nominal.velocityEnuMps - options.windEnuMps)
    let hPred := euclideanNorm vBody
    -- without a flow there is no direction to divide by
    if hPred < 1e-3 then (est, .rejected)
    else
      let uBody := hPred⁻¹ • vBody
      let H : Matrix (Fin 1) (Fin n) ℝ := 0
      let H := setBlock H 0 (layout.get .velocity).offset (Matrix.of fun _ : Fin 1 => uBody ᵥ* Rᵀ)
      let H := setBlock H 0 (layout.get .attitude).offset
        (Matrix.of fun _ : Fin 1 => uBody ᵥ* skewSymmetric vBody)
      ekfUpdate eigen est H (fun _ => asp.airspeedMps - hPred)
        (isotropicNoise 1 options.sigmaMps) options.innovationGate

/-- `DvlOptions`. -/
structure DvlOptions where
  dvlToBodyRotation : Mat3 := 1
  bottomTrackOnly : Bool := false
  sigmaMps : Option ℝ := none
  innovationGate : ℝ := 0

/-- `Dvl::Apply`. -/
noncomputable def dvlApply (eigen : Eigen) (options : DvlOptions) (nominal : NominalState)
    (est : Estimate n) (layout : StateLayout) (dvl : DvlMeasurement) :
    Estimate n × EstimatorUpdateResult :=
  if dvl.validity ≠ .valid then (est, .rejected)
  else if options.bottomTrackOnly ∧ dvl.reference ≠ .bottomTrack then (est, .rejected)
  else
    let R := Quat.toRotationMatrix nominal.orientationBodyToEnu
    let A := options.dvlToBodyRotationᵀ * Rᵀ
    let vPred := A *ᵥ nominal.velocityEnuMps
    let H : Matrix (Fin 3) (Fin n) ℝ := setBlock 0 0 (layout.get .velocity).offset A
    let H := setBlock H 0 (layout.get .attitude).offset
      (options.dvlToBodyRotationᵀ * skewSymmetric (Rᵀ *ᵥ nominal.velocityEnuMps))
    -- a covariance of zero stands for one that was not sent
    let noise :=
      if 1e-12 < dvl.velocityCovarianceM2ps2.trace then dvl.velocityCovarianceM2ps2
      else isotropicNoise 3 (options.sigmaMps.getD 0.05)
    ekfUpdate eigen est H (dvl.velocityMps - vPred) noise options.innovationGate

/-- The update that `WheelOdometry` and `ExternalVelocity` share: a body velocity and, if asked
    for, an angular rate that observes the gyroscope bias. -/
noncomputable def bodyVelocityUpdate (eigen : Eigen) (nominal : NominalState) (est : Estimate n)
    (layout : StateLayout) (vObs omegaObs latestGyro : Vec3) (useAngularRate : Bool)
    (sigmaLinear sigmaAngular gate : ℝ) : Estimate n × EstimatorUpdateResult :=
  let R := Quat.toRotationMatrix nominal.orientationBodyToEnu
  let vBody := Rᵀ *ᵥ nominal.velocityEnuMps
  if useAngularRate then
    let H : Matrix (Fin 6) (Fin n) ℝ := setBlock 0 0 (layout.get .velocity).offset Rᵀ
    let H := setBlock H 0 (layout.get .attitude).offset (skewSymmetric vBody)
    let dz : Fin 6 → ℝ := setSegment 0 0 (vObs - vBody)
    let omegaPred := latestGyro - nominal.gyroBiasRadps
    -- without the segment the last three rows stay empty, and are used all the same
    let H :=
      if layout.has .gyroBias then setBlock H 3 (layout.get .gyroBias).offset (-1 : Mat3) else H
    let dz := if layout.has .gyroBias then setSegment dz 3 (omegaObs - omegaPred) else dz
    let noise : Matrix (Fin 6) (Fin 6) ℝ := setBlock 0 0 0 (isotropicNoise 3 sigmaLinear)
    ekfUpdate eigen est H dz (setBlock noise 3 3 (isotropicNoise 3 sigmaAngular)) gate
  else
    let H : Matrix (Fin 3) (Fin n) ℝ := setBlock 0 0 (layout.get .velocity).offset Rᵀ
    let H := setBlock H 0 (layout.get .attitude).offset (skewSymmetric vBody)
    ekfUpdate eigen est H (vObs - vBody) (isotropicNoise 3 sigmaLinear) gate

/-- `ExternalVelocityOptions`. -/
structure ExternalVelocityOptions where
  sigmaLinearMps : Option ℝ := none
  sigmaAngularRadps : Option ℝ := none
  useAngularRate : Bool := false
  latestGyroRadps : Vec3 := 0
  innovationGate : ℝ := 0

/-- `ExternalVelocity::Apply`. -/
noncomputable def externalVelocityApply (eigen : Eigen) (options : ExternalVelocityOptions)
    (nominal : NominalState) (est : Estimate n) (layout : StateLayout)
    (ev : ExternalVelocityMeasurement) : Estimate n × EstimatorUpdateResult :=
  if ev.validity ≠ .valid then (est, .rejected)
  else
    bodyVelocityUpdate eigen nominal est layout ev.linearVelocityBodyMps ev.angularRateBodyRadps
      options.latestGyroRadps options.useAngularRate (options.sigmaLinearMps.getD 0.1)
      (options.sigmaAngularRadps.getD 0.05) options.innovationGate

/-- `WheelOdometryOptions`. -/
structure WheelOdometryOptions where
  sigmaLinearMps : ℝ := 0.1
  sigmaAngularRadps : ℝ := 0.05
  useAngularRate : Bool := false
  latestGyroRadps : Vec3 := 0
  innovationGate : ℝ := 0

/-- `WheelOdometry::Apply`. -/
noncomputable def wheelOdometryApply (eigen : Eigen) (options : WheelOdometryOptions)
    (nominal : NominalState) (est : Estimate n) (layout : StateLayout)
    (odo : WheelOdometryMeasurement) : Estimate n × EstimatorUpdateResult :=
  if odo.validity ≠ .valid then (est, .rejected)
  else
    bodyVelocityUpdate eigen nominal est layout odo.linearVelocityBodyMps odo.angularRateBodyRadps
      options.latestGyroRadps options.useAngularRate options.sigmaLinearMps
      options.sigmaAngularRadps options.innovationGate

/-- `MagnetometerOptions`. -/
structure MagnetometerOptions where
  referenceFieldEnuTesla : Vec3 := ![0, 2.0e-5, -4.3e-5]
  sigmaTesla : Option ℝ := none
  innovationGate : ℝ := 0

/-- `Magnetometer::Apply`. -/
noncomputable def magnetometerApply (eigen : Eigen) (options : MagnetometerOptions)
    (nominal : NominalState) (est : Estimate n) (layout : StateLayout)
    (mag : MagnetometerMeasurement) : Estimate n × EstimatorUpdateResult :=
  if mag.validity ≠ .valid then (est, .rejected)
  else
    let R := Quat.toRotationMatrix nominal.orientationBodyToEnu
    let bPred := Rᵀ *ᵥ options.referenceFieldEnuTesla
    let H : Matrix (Fin 3) (Fin n) ℝ :=
      setBlock 0 0 (layout.get .attitude).offset (skewSymmetric bPred)
    let s := options.sigmaTesla.getD (euclideanNorm options.referenceFieldEnuTesla * 0.05)
    ekfUpdate eigen est H (mag.magneticFieldTesla - bPred) (isotropicNoise 3 s)
      options.innovationGate

/-- `OpticalFlowOptions`. -/
structure OpticalFlowOptions where
  fallbackAltitudeM : ℝ := 10
  sigmaRadps : ℝ := 0.01
  innovationGate : ℝ := 0

/-- `topRows<2>()`. -/
def topRows {k : ℕ} (A : Matrix (Fin 3) (Fin k) ℝ) : Matrix (Fin 2) (Fin k) ℝ :=
  A.submatrix Fin.castSucc id

/-- `OpticalFlow::Apply`. -/
noncomputable def opticalFlowApply (eigen : Eigen) (options : OpticalFlowOptions)
    (nominal : NominalState) (est : Estimate n) (layout : StateLayout)
    (flow : OpticalFlowMeasurement) : Estimate n × EstimatorUpdateResult :=
  if flow.validity ≠ .valid then (est, .rejected)
  else
    match flow.integrationTimeS with
    | none => (est, .rejected)
    | some dt =>
      let z := flow.groundDistanceM.getD options.fallbackAltitudeM
      -- neither the time nor the height may be so small that the rate blows up
      if dt < 1e-6 then (est, .rejected)
      else if z < 0.1 then (est, .rejected)
      else
        let R := Quat.toRotationMatrix nominal.orientationBodyToEnu
        let vBody := Rᵀ *ᵥ nominal.velocityEnuMps
        let dz : Fin 2 → ℝ := ![flow.integratedFlowXRad / dt * z - vBody 0,
          flow.integratedFlowYRad / dt * z - vBody 1]
        let H : Matrix (Fin 2) (Fin n) ℝ := setBlock 0 0 (layout.get .velocity).offset (topRows Rᵀ)
        let H := setBlock H 0 (layout.get .attitude).offset (topRows (skewSymmetric vBody))
        ekfUpdate eigen est H dz (isotropicNoise 2 (options.sigmaRadps * z)) options.innovationGate

/-! ### Attitude -/

/-- `StarTrackerOptions`. -/
structure StarTrackerOptions where
  starTrackerToBody : Quat := 1
  sigmaYawRad : ℝ := 0.001
  sigmaPitchRad : ℝ := 0.001
  sigmaRollRad : ℝ := 0.001
  usePitchRoll : Bool := true
  innovationGate : ℝ := 0

/-- `QuaternionFromStarTracker`. -/
noncomputable def quaternionFromStarTracker (lonRad latRad yawRad : ℝ) (sensorToBody : Quat) :
    Quat :=
  let qLon := Quat.ofAngleAxis lonRad ![0, 0, 1]
  let qLat := Quat.ofAngleAxis (Real.pi / 2 - latRad) ![0, 1, 0]
  let qYaw := Quat.ofAngleAxis (-yawRad) ![0, 0, 1]
  Quat.normalized (qLon * qLat * qYaw * sensorToBody)

/-- `StarTracker::Apply`: without pitch and roll only the heading is used. -/
noncomputable def starTrackerApply (eigen : Eigen) (options : StarTrackerOptions)
    (nominal : NominalState) (est : Estimate n) (layout : StateLayout)
    (st : StarTrackerMeasurement) : Estimate n × EstimatorUpdateResult :=
  if st.validity ≠ .valid then (est, .rejected)
  else
    let attitude := (layout.get .attitude).offset
    let qObs := quaternionFromStarTracker st.longitudeRad st.latitudeRad st.yawRad
      options.starTrackerToBody
    let dTheta := logMapSo3 (star nominal.orientationBodyToEnu * qObs)
    let sYaw := options.sigmaYawRad * options.sigmaYawRad
    if options.usePitchRoll && st.pitchRad.isSome && st.rollRad.isSome then
      let noise : Matrix (Fin 3) (Fin 3) ℝ := diagonal
        ![options.sigmaRollRad * options.sigmaRollRad,
          options.sigmaPitchRad * options.sigmaPitchRad, sYaw]
      ekfUpdate eigen est (setBlock 0 0 attitude (1 : Mat3)) dTheta noise options.innovationGate
    -- the third component is the yaw, and the others are left out
    else
      let H : Matrix (Fin 1) (Fin n) ℝ := setEntry 0 0 (attitude + 2) 1
      ekfUpdate eigen est H (fun _ => dTheta 2) (isotropicNoise 1 options.sigmaYawRad)
        options.innovationGate

/-! ### ECEF -/

/-- An identity block at a segment, over three rows. -/
def segmentH (layout : StateLayout) (id : StateSegmentId) : Matrix (Fin 3) (Fin n) ℝ :=
  setBlock 0 0 (layout.get id).offset (1 : Mat3)

/-- The noise of a position or a velocity: the override, else the rotated covariance, else the
    fallback when that has almost no trace. -/
noncomputable def blockNoise (override : Option ℝ) (R cov : Mat3) (fallback : ℝ) : Mat3 :=
  match override with
  | some s => isotropicNoise 3 s
  | none =>
    if (R * cov * Rᵀ).trace < 1e-12 then isotropicNoise 3 fallback else R * cov * Rᵀ

/-- The attitude innovation of a body-to-ECEF orientation. -/
noncomputable def attitudeInnovation (nominal : NominalState) (R : Mat3) (q : Quat) : Vec3 :=
  let qObs := Quat.normalized (Quat.ofRotationMatrix R * q)
  logMapSo3 (star nominal.orientationBodyToEnu * qObs)

/-- `AidingSolutionOptions`. -/
structure AidingSolutionOptions where
  minMatchScore : ℝ := 0
  positionSigmaM : Option ℝ := none
  velocitySigmaMps : Option ℝ := none
  attitudeSigmaRad : Option ℝ := none
  innovationGate : ℝ := 0

/-- Zeroes the rows of the axes that an orientation does not observe. -/
def observedRows {k : ℕ} (v : OrientationValidity) (H : Matrix (Fin 3) (Fin k) ℝ) :
    Matrix (Fin 3) (Fin k) ℝ := fun i =>
  if ![v.roll, v.pitch, v.yaw] i then H i else 0

/-- Zeroes the innovations of the axes that an orientation does not observe. -/
def observedAxes (v : OrientationValidity) (dTheta : Vec3) : Vec3 := fun i =>
  if ![v.roll, v.pitch, v.yaw] i then dTheta i else 0

/-- `AidingSolution::Apply`. -/
noncomputable def aidingSolutionApply (eigen : Eigen) (options : AidingSolutionOptions)
    (nominal : NominalState) (est : Estimate n) (layout : StateLayout) (aid : AidingSolution)
    (context : UpdateContext) : Estimate n × EstimatorUpdateResult :=
  if aid.validity ≠ .valid then (est, .rejected)
  else if ∃ score ∈ aid.matchScore, score < options.minMatchScore then (est, .rejected)
  else
    match context.ltp with
    | none => (est, .notInitialized)
    | some ltp =>
      let R := ltp.ecefToEnuRotation
      let gate := options.innovationGate
      -- each block is applied to what the one before left
      let outcome := (est, EstimatorUpdateResult.rejected)
      let outcome := aid.positionEcefM.elim outcome fun p =>
        blockUpdate eigen outcome (segmentH layout .position)
          (ltp.ecefToEnu p - nominal.positionEnuM)
          (blockNoise options.positionSigmaM R aid.positionCovarianceEcefM2 10) gate
      let outcome := aid.velocityEcefMps.elim outcome fun v =>
        blockUpdate eigen outcome (segmentH layout .velocity)
          (R *ᵥ v - nominal.velocityEnuMps)
          (blockNoise options.velocitySigmaMps R aid.velocityCovarianceEcefMps2 1) gate
      aid.orientationBodyToEcef.elim outcome fun q =>
        -- the axes that are not valid keep their rows, as zeros
        if aid.orientationValidity.any then
          blockUpdate eigen outcome
            (observedRows aid.orientationValidity (segmentH layout .attitude))
            (observedAxes aid.orientationValidity (attitudeInnovation nominal R q))
            (isotropicNoise 3 (options.attitudeSigmaRad.getD 0.05)) gate
        else outcome

/-- `ExternalOdometryOptions`. -/
structure ExternalOdometryOptions where
  usePosition : Bool := true
  useVelocity : Bool := true
  useOrientation : Bool := true
  positionSigmaM : Option ℝ := none
  velocitySigmaMps : Option ℝ := none
  orientationSigmaRad : Option ℝ := none
  innovationGate : ℝ := 0

/-- `ExternalOdometry::Apply`. -/
noncomputable def externalOdometryApply (eigen : Eigen) (options : ExternalOdometryOptions)
    (nominal : NominalState) (est : Estimate n) (layout : StateLayout)
    (eo : ExternalOdometryMeasurement) (context : UpdateContext) :
    Estimate n × EstimatorUpdateResult :=
  if eo.validity ≠ .valid then (est, .rejected)
  else
    match context.ltp with
    | none => (est, .notInitialized)
    | some ltp =>
      let R := ltp.ecefToEnuRotation
      let gate := options.innovationGate
      -- accepted as soon as one block is
      let outcome := (est, EstimatorUpdateResult.rejected)
      let outcome :=
        if options.usePosition then
          blockUpdate eigen outcome (segmentH layout .position)
            (ltp.ecefToEnu eo.positionEcefM - nominal.positionEnuM)
            (isotropicNoise 3 (options.positionSigmaM.getD 1)) gate
        else outcome
      let outcome :=
        if options.useVelocity then
          blockUpdate eigen outcome (segmentH layout .velocity)
            (R *ᵥ eo.velocityEcefMps - nominal.velocityEnuMps)
            (isotropicNoise 3 (options.velocitySigmaMps.getD 0.1)) gate
        else outcome
      if options.useOrientation then
        blockUpdate eigen outcome (segmentH layout .attitude)
          (attitudeInnovation nominal R eo.orientationBodyToEcef)
          (isotropicNoise 3 (options.orientationSigmaRad.getD 0.02)) gate
      else outcome

/-- `ExternalPoseOptions`. -/
structure ExternalPoseOptions where
  usePosition : Bool := true
  useOrientation : Bool := true
  positionSigmaM : Option ℝ := none
  orientationSigmaRad : Option ℝ := none
  innovationGate : ℝ := 0

/-- `ExternalPose::Apply`. -/
noncomputable def externalPoseApply (eigen : Eigen) (options : ExternalPoseOptions)
    (nominal : NominalState) (est : Estimate n) (layout : StateLayout)
    (ep : ExternalPoseMeasurement) (context : UpdateContext) :
    Estimate n × EstimatorUpdateResult :=
  if ep.validity ≠ .valid then (est, .rejected)
  else
    match context.ltp with
    | none => (est, .notInitialized)
    | some ltp =>
      let R := ltp.ecefToEnuRotation
      let gate := options.innovationGate
      -- accepted as soon as one block is
      let outcome := (est, EstimatorUpdateResult.rejected)
      let outcome :=
        if options.usePosition then
          blockUpdate eigen outcome (segmentH layout .position)
            (ltp.ecefToEnu ep.positionEcefM - nominal.positionEnuM)
            (blockNoise options.positionSigmaM R (block ep.covariance 0 0 3 3) 2) gate
        else outcome
      if options.useOrientation then
        blockUpdate eigen outcome (segmentH layout .attitude)
          (attitudeInnovation nominal R ep.orientationBodyToEcef)
          (isotropicNoise 3 (options.orientationSigmaRad.getD 0.02)) gate
      else outcome

/-- `GnssLooselyCoupledOptions`. -/
structure GnssLooselyCoupledOptions where
  positionSigmaM : Option ℝ := none
  velocitySigmaMps : Option ℝ := none
  positionGate : ℝ := 0

/-- The noise of a GNSS block: the override, or the rotated covariance. -/
def gnssNoise (override : Option ℝ) (R cov : Mat3) : Mat3 :=
  match override with
  | some s => isotropicNoise 3 s
  | none => R * cov * Rᵀ

/-- `GnssLooselyCoupled::ApplySolution`: the gate is on the position block. -/
noncomputable def applySolution (eigen : Eigen) (options : GnssLooselyCoupledOptions)
    (nominal : NominalState) (est : Estimate n) (layout : StateLayout) (gnss : GnssSolution)
    (ltp : LocalTangentPlane) : Estimate n × EstimatorUpdateResult :=
  let R := ltp.ecefToEnuRotation
  let dzPos := ltp.ecefToEnu gnss.positionEcefM - nominal.positionEnuM
  let dzVel := R *ᵥ gnss.velocityEcefMps - nominal.velocityEnuMps
  let dz : Fin 6 → ℝ := setSegment (setSegment 0 0 dzPos) 3 dzVel
  let H : Matrix (Fin 6) (Fin n) ℝ := setBlock 0 0 (layout.get .position).offset (1 : Mat3)
  let H := setBlock H 3 (layout.get .velocity).offset (1 : Mat3)
  let noise : Matrix (Fin 6) (Fin 6) ℝ :=
    setBlock 0 0 0 (gnssNoise options.positionSigmaM R gnss.positionCovarianceEcefM2)
  let noise :=
    setBlock noise 3 3 (gnssNoise options.velocitySigmaMps R gnss.velocityCovarianceEcefM2ps2)
  let S := H * est.covariance * Hᵀ + noise
  -- the velocity is not gated
  if 0 < options.positionGate ∧
      options.positionGate < segment dz 0 3 ⬝ᵥ eigen.ldltSolve (block S 0 0 3 3) (segment dz 0 3)
  then (est, .rejected)
  else
    let K := est.covariance * Hᵀ * eigen.inverse S
    let IKH := 1 - K * H
    ({ errorState := est.errorState + K *ᵥ dz
       covariance := symmetrizeCovariance (IKH * est.covariance * IKHᵀ + K * noise * Kᵀ) },
      .accepted)

/-- Without a gate the update is that of the update helper. -/
theorem applySolution_of_gate_off {options : GnssLooselyCoupledOptions}
    (hgate : options.positionGate ≤ 0) (eigen : Eigen) (nominal : NominalState) (est : Estimate n)
    (layout : StateLayout) (gnss : GnssSolution) (ltp : LocalTangentPlane) :
    let R := ltp.ecefToEnuRotation
    let dz : Fin 6 → ℝ := setSegment (setSegment 0 0
      (ltp.ecefToEnu gnss.positionEcefM - nominal.positionEnuM)) 3
      (R *ᵥ gnss.velocityEcefMps - nominal.velocityEnuMps)
    let H : Matrix (Fin 6) (Fin n) ℝ := setBlock (setBlock 0 0 (layout.get .position).offset
      (1 : Mat3)) 3 (layout.get .velocity).offset (1 : Mat3)
    let noise : Matrix (Fin 6) (Fin 6) ℝ := setBlock (setBlock 0 0 0
      (gnssNoise options.positionSigmaM R gnss.positionCovarianceEcefM2)) 3 3
      (gnssNoise options.velocitySigmaMps R gnss.velocityCovarianceEcefM2ps2)
    applySolution eigen options nominal est layout gnss ltp
      = ekfUpdate eigen est H dz noise options.positionGate := by
  intro R dz H noise
  have hoff : ∀ x : ℝ, ¬ (0 < options.positionGate ∧ options.positionGate < x) :=
    fun _ h => hgate.not_gt h.1
  rw [applySolution, ekfUpdate, if_neg (hoff _), if_neg (hoff _), ← Matrix.mul_assoc]

/-- `GnssLooselyCoupled::Apply`. -/
noncomputable def gnssLooselyCoupledApply (eigen : Eigen) (options : GnssLooselyCoupledOptions)
    (nominal : NominalState) (est : Estimate n) (layout : StateLayout) (gnss : GnssSolution)
    (context : UpdateContext) : Estimate n × EstimatorUpdateResult :=
  match context.ltp with
  | none => (est, .notInitialized)
  | some ltp =>
    if gnss.fixType = .noFix then (est, .rejected)
    else if gnss.validity ≠ .valid then (est, .rejected)
    else applySolution eigen options nominal est layout gnss ltp

end FalconGuide
