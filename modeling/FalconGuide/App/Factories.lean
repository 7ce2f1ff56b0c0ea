import FalconGuide.App.SensorConfig
import FalconGuide.Ekf.Estimator
import FalconGuide.Ukf.MeasurementModels

namespace FalconGuide

/-!
# The estimators that a configuration selects

`NavigationSystem::BuildEkfEstimator` and `BuildUkfEstimator`, from the blocks of the
configuration, whose numbers are rational, to the options over real numbers that the filters
compute with.

* `Config.BarometerOptions.real`, … — options as numbers of the filters;
* `ekfOptions`, `ekfModels`, `buildEkfEstimator` — the error-state filter;
* `ukfOptions`, `ukfModels`, `buildUkfEstimator` — the unscented filter, which has no model for
  the range finder and for tightly coupled fixes.
-/

/-! ### Options as real numbers -/

namespace Config

/-- A number that need not be set. -/
def realOption (x : Option ℚ) : Option ℝ := x.map fun q => (q : ℝ)

/-- A vector. -/
def Vector3d.real (v : Vector3d) : Vec3 := fun i => v i

/-- A matrix. -/
def Matrix3d.real (m : Matrix3d) : Mat3 := fun i j => m i j

/-- A quaternion. -/
def Quaterniond.real (q : Quaterniond) : Quat := ⟨q.w, q.x, q.y, q.z⟩

/-- The noise of the IMU. -/
def ImuNoiseModel.real (n : ImuNoiseModel) : FalconGuide.ImuNoiseModel where
  accelNoiseDensity := n.accelNoiseDensity
  gyroNoiseDensity := n.gyroNoiseDensity
  accelRandomWalk := n.accelRandomWalk
  gyroRandomWalk := n.gyroRandomWalk

/-- The options for GNSS solutions. -/
def GnssLooselyCoupledOptions.real (o : GnssLooselyCoupledOptions) :
    FalconGuide.GnssLooselyCoupledOptions where
  positionSigmaM := realOption o.positionSigmaM
  velocitySigmaMps := realOption o.velocitySigmaMps
  positionGate := o.positionGate

/-- The options for pseudoranges. -/
def GnssTightlyCoupledOptions.real (o : GnssTightlyCoupledOptions) :
    FalconGuide.GnssTightlyCoupledOptions where
  basePseudorangeSigmaM := o.basePseudorangeSigmaM
  pseudorangeNoiseFloorM := o.pseudorangeNoiseFloorM
  baseDopplerSigmaMps := o.baseDopplerSigmaMps
  innovationGateSigma := o.innovationGateSigma
  minSatellites := o.minSatellites

/-- The options of a barometer. -/
def BarometerOptions.real (o : BarometerOptions) : FalconGuide.BarometerOptions where
  altitudeSigmaM := realOption o.altitudeSigmaM
  isaSeaLevelPressurePa := o.isaSeaLevelPressurePa
  innovationGate := o.innovationGate

/-- The options of a magnetometer. -/
def MagnetometerOptions.real (o : MagnetometerOptions) : FalconGuide.MagnetometerOptions where
  referenceFieldEnuTesla := Vector3d.real o.referenceFieldEnuTesla
  sigmaTesla := realOption o.sigmaTesla
  innovationGate := o.innovationGate

/-- The options of a star tracker. -/
def StarTrackerOptions.real (o : StarTrackerOptions) : FalconGuide.StarTrackerOptions where
  starTrackerToBody := o.starTrackerToBody.real
  sigmaYawRad := o.sigmaYawRad
  sigmaPitchRad := o.sigmaPitchRad
  sigmaRollRad := o.sigmaRollRad
  usePitchRoll := o.usePitchRoll
  innovationGate := o.innovationGate

/-- The options of wheel odometry. -/
def WheelOdometryOptions.real (o : WheelOdometryOptions) : FalconGuide.WheelOdometryOptions where
  sigmaLinearMps := o.sigmaLinearMps
  sigmaAngularRadps := o.sigmaAngularRadps
  useAngularRate := o.useAngularRate
  latestGyroRadps := Vector3d.real o.latestGyroRadps
  innovationGate := o.innovationGate

/-- The options of a radar altimeter. -/
def RadarAltimeterOptions.real (o : RadarAltimeterOptions) :
    FalconGuide.RadarAltimeterOptions where
  terrainElevationM := o.terrainElevationM
  sigmaM := realOption o.sigmaM
  innovationGate := o.innovationGate

/-- The options of a range finder; the expected range is used nowhere. -/
def RangeFinderOptions.real (o : RangeFinderOptions) : FalconGuide.RangeFinderOptions where
  useAsAltitude := o.useAsAltitude
  terrainElevationM := o.terrainElevationM
  sigmaM := realOption o.sigmaM
  innovationGate := o.innovationGate

/-- The options of optical flow. -/
def OpticalFlowOptions.real (o : OpticalFlowOptions) : FalconGuide.OpticalFlowOptions where
  fallbackAltitudeM := o.fallbackAltitudeM
  sigmaRadps := o.sigmaRadps
  innovationGate := o.innovationGate

/-- The options of a DVL. -/
def DvlOptions.real (o : DvlOptions) : FalconGuide.DvlOptions where
  dvlToBodyRotation := Matrix3d.real o.dvlToBodyRotation
  bottomTrackOnly := o.bottomTrackOnly
  sigmaMps := realOption o.sigmaMps
  innovationGate := o.innovationGate

/-- The options of an echo sounder. -/
def EchoSounderOptions.real (o : EchoSounderOptions) : FalconGuide.EchoSounderOptions where
  soundSpeedMps := o.soundSpeedMps
  depthOriginM := o.depthOriginM
  sigmaM := realOption o.sigmaM
  innovationGate := o.innovationGate

/-- The options of an airspeed sensor. -/
def AirspeedOptions.real (o : AirspeedOptions) : FalconGuide.AirspeedOptions where
  windEnuMps := Vector3d.real o.windEnuMps
  sigmaMps := o.sigmaMps
  innovationGate := o.innovationGate

/-- The options for external poses. -/
def ExternalPoseOptions.real (o : ExternalPoseOptions) : FalconGuide.ExternalPoseOptions where
  usePosition := o.usePosition
  useOrientation := o.useOrientation
  positionSigmaM := realOption o.positionSigmaM
  orientationSigmaRad := realOption o.orientationSigmaRad
  innovationGate := o.innovationGate

/-- The options for external velocities. -/
def ExternalVelocityOptions.real (o : ExternalVelocityOptions) :
    FalconGuide.ExternalVelocityOptions where
  sigmaLinearMps := realOption o.sigmaLinearMps
  sigmaAngularRadps := realOption o.sigmaAngularRadps
  useAngularRate := o.useAngularRate
  latestGyroRadps := Vector3d.real o.latestGyroRadps
  innovationGate := o.innovationGate

/-- The options for external odometry. -/
def ExternalOdometryOptions.real (o : ExternalOdometryOptions) :
    FalconGuide.ExternalOdometryOptions where
  usePosition := o.usePosition
  useVelocity := o.useVelocity
  useOrientation := o.useOrientation
  positionSigmaM := realOption o.positionSigmaM
  velocitySigmaMps := realOption o.velocitySigmaMps
  orientationSigmaRad := realOption o.orientationSigmaRad
  innovationGate := o.innovationGate

/-- The options for aiding solutions. -/
def AidingSolutionOptions.real (o : AidingSolutionOptions) :
    FalconGuide.AidingSolutionOptions where
  minMatchScore := o.minMatchScore
  positionSigmaM := realOption o.positionSigmaM
  velocitySigmaMps := realOption o.velocitySigmaMps
  attitudeSigmaRad := realOption o.attitudeSigmaRad
  innovationGate := o.innovationGate

/-- The spread of the sigma points. -/
def MerweSigmaParams.real (p : MerweSigmaParams) : Ukf.MerweSigmaParams where
  alpha := p.alpha
  beta := p.beta
  kappa := p.kappa

end Config

open Config

/-- The model of a block, if the block is enabled. -/
def SensorConfig.models {O M : Type} (block : Config.SensorConfig O) (make : O → M) : List M :=
  if block.enabled then [make block.options] else []

/-! ### The error-state filter -/

/-- The options in `BuildEkfEstimator`. -/
def ekfOptions (config : Sensors) : EkfOptions where
  imuNoise := config.imu.real
  minImuDtS := config.minImuDtS
  maxImuDtS := config.maxImuDtS
  deadReckoningThresholdS := config.deadReckoningThresholdS
  enableGnssClockState := config.gnss.enabled && config.gnss.mode = .tightlyCoupled
  enableBaroBiasState := false

/-- The models that `BuildEkfEstimator` registers. -/
def ekfModels (config : Sensors) : List MeasurementModel :=
  (if config.gnss.enabled then
    [if config.gnss.mode = .looselyCoupled then
      MeasurementModel.gnssLooselyCoupled config.gnss.looselyCoupled.real
    else .gnssTightlyCoupled config.gnss.tightlyCoupled.real]
  else [])
    ++ SensorConfig.models config.barometer (MeasurementModel.barometer ·.real)
    ++ SensorConfig.models config.magnetometer (MeasurementModel.magnetometer ·.real)
    ++ SensorConfig.models config.wheelOdometry (MeasurementModel.wheelOdometry ·.real)
    ++ SensorConfig.models config.airspeed (MeasurementModel.airspeed ·.real)
    ++ SensorConfig.models config.opticalFlow (MeasurementModel.opticalFlow ·.real)
    ++ SensorConfig.models config.radarAltimeter (MeasurementModel.radarAltimeter ·.real)
    ++ SensorConfig.models config.rangeFinder (MeasurementModel.rangeFinder ·.real)
    ++ SensorConfig.models config.dvl (MeasurementModel.dvl ·.real)
    ++ SensorConfig.models config.echoSounder (MeasurementModel.echoSounder ·.real)
    ++ SensorConfig.models config.externalPose (MeasurementModel.externalPose ·.real)
    ++ SensorConfig.models config.externalVelocity (MeasurementModel.externalVelocity ·.real)
    ++ SensorConfig.models config.externalOdometry (MeasurementModel.externalOdometry ·.real)
    ++ SensorConfig.models config.aidingSolution (MeasurementModel.aidingSolution ·.real)
    ++ SensorConfig.models config.starTracker (MeasurementModel.starTracker ·.real)

/-- `BuildEkfEstimator`. -/
def buildEkfEstimator (config : Sensors) : EkfEstimator (ekfOptions config) :=
  (ekfModels config).foldl EkfEstimator.registerMeasurementModel {}

/-! ### The unscented filter -/

/-- The options in `BuildUkfEstimator`. -/
noncomputable def ukfOptions (config : Sensors) : Ukf.UkfOptions where
  sigmaParams := config.ukfSigmaParams.real
  imuNoise := config.imu.real
  minImuDtS := config.minImuDtS
  maxImuDtS := config.maxImuDtS
  deadReckoningThresholdS := config.deadReckoningThresholdS

/-- The fix of `BuildUkfEstimator`, which copies the two deviations and no gate; it is loosely
    coupled in either mode. -/
def ukfGnssOptions (o : Config.GnssLooselyCoupledOptions) : Ukf.GnssLooselyCoupledOptions where
  positionSigmaM := realOption o.positionSigmaM
  velocitySigmaMps := realOption o.velocitySigmaMps

/-- The models that `BuildUkfEstimator` registers; `uninitialised` is what the star tracker leaves
    unassigned in its noise. -/
noncomputable def ukfModels (uninitialised : Mat3) (config : Sensors) :
    List Ukf.MeasurementModel :=
  (if config.gnss.enabled then
    [Ukf.gnssLooselyCoupled (ukfGnssOptions config.gnss.looselyCoupled)]
  else [])
    ++ SensorConfig.models config.barometer (Ukf.barometer ·.real)
    ++ SensorConfig.models config.magnetometer (Ukf.magnetometer ·.real)
    ++ SensorConfig.models config.wheelOdometry
      (Ukf.wheelOdometry { sigmaLinearMps := ·.sigmaLinearMps })
    ++ SensorConfig.models config.airspeed (Ukf.airspeed ·.real)
    ++ SensorConfig.models config.opticalFlow (Ukf.opticalFlow ·.real)
    ++ SensorConfig.models config.radarAltimeter (Ukf.radarAltimeter ·.real)
    ++ SensorConfig.models config.dvl (Ukf.dvl ·.real)
    ++ SensorConfig.models config.echoSounder (Ukf.echoSounder ·.real)
    ++ SensorConfig.models config.externalPose (Ukf.externalPose ·.real)
    ++ SensorConfig.models config.externalVelocity
      (Ukf.externalVelocity { sigmaLinearMps := realOption ·.sigmaLinearMps })
    ++ SensorConfig.models config.externalOdometry (Ukf.externalOdometry ·.real)
    ++ SensorConfig.models config.aidingSolution (Ukf.aidingSolution ·.real)
    ++ SensorConfig.models config.starTracker (Ukf.starTracker ·.real uninitialised)

/-- `BuildUkfEstimator`. -/
noncomputable def buildUkfEstimator (uninitialised : Mat3) (config : Sensors) :
    Ukf.UkfEstimator (ukfOptions config) :=
  (ukfModels uninitialised config).foldl Ukf.UkfEstimator.registerMeasurementModel {}

end FalconGuide
