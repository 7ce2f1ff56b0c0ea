import FalconGuide.App.SessionConfig
import Mathlib.Data.Fin.VecNotation
import Mathlib.Data.Fintype.Defs
import Mathlib.Data.Fintype.Basic

namespace FalconGuide.Config

/-!
# The sensor blocks of the configuration

`NavigationSystemConfig` with all its blocks, as the configuration file has them: the options of
the measurement models over rational numbers, which every finite `double` is.

* `BarometerOptions`, … — the options of a measurement model, with their defaults;
* `SensorConfig` — a measurement model that can be enabled;
* `Sensors` — the blocks of `NavigationSystemConfig`, without the backend.
-/

/-- `Eigen::Vector3d`. -/
abbrev Vector3d := Fin 3 → ℚ

/-- `Eigen::Matrix3d`. -/
abbrev Matrix3d := Fin 3 → Fin 3 → ℚ

/-- `Matrix3d::Identity`. -/
def identity : Matrix3d := fun r c => if r = c then 1 else 0

/-- `Eigen::Quaterniond`. -/
structure Quaterniond where
  w : ℚ := 1
  x : ℚ := 0
  y : ℚ := 0
  z : ℚ := 0
  deriving DecidableEq

/-! ### Options -/

/-- Noise densities and random walks of the accelerometer and the gyroscope. -/
structure ImuNoiseModel where
  accelNoiseDensity : ℚ := 3 / 1000
  gyroNoiseDensity : ℚ := 15 / 100000
  accelRandomWalk : ℚ := 3 / 100000
  gyroRandomWalk : ℚ := 2 / 1000000
  deriving DecidableEq

/-- Options of `GnssLooselyCoupled`: deviations that replace the solution's own, and the gate. -/
structure GnssLooselyCoupledOptions where
  positionSigmaM : Option ℚ := none
  velocitySigmaMps : Option ℚ := none
  positionGate : ℚ := 0
  deriving DecidableEq

/-- Options of `GnssTightlyCoupled`: the noise of pseudoranges and Doppler shifts, and the gate. -/
structure GnssTightlyCoupledOptions where
  basePseudorangeSigmaM : ℚ := 3
  pseudorangeNoiseFloorM : ℚ := 1 / 10
  baseDopplerSigmaMps : ℚ := 1 / 2
  innovationGateSigma : ℚ := 3
  minSatellites : ℕ := 4
  deriving DecidableEq

/-- Options of `Barometer`, with the pressure at sea level for a measurement without an altitude. -/
structure BarometerOptions where
  altitudeSigmaM : Option ℚ := none
  isaSeaLevelPressurePa : ℚ := 101325
  innovationGate : ℚ := 0
  deriving DecidableEq

/-- Options of `Magnetometer`, with the field of the Earth where the vehicle is. -/
structure MagnetometerOptions where
  referenceFieldEnuTesla : Vector3d := ![0, 2 / 100000, -43 / 1000000]
  sigmaTesla : Option ℚ := none
  innovationGate : ℚ := 0
  deriving DecidableEq

/-- Options of `StarTracker`: its mounting, a deviation for each angle, and whether pitch and roll
    are used. -/
structure StarTrackerOptions where
  starTrackerToBody : Quaterniond := {}
  sigmaYawRad : ℚ := 1 / 1000
  sigmaPitchRad : ℚ := 1 / 1000
  sigmaRollRad : ℚ := 1 / 1000
  usePitchRoll : Bool := true
  innovationGate : ℚ := 0
  deriving DecidableEq

/-- Options of `WheelOdometry`; the newest angular rate is meant to be set from outside. -/
structure WheelOdometryOptions where
  sigmaLinearMps : ℚ := 1 / 10
  sigmaAngularRadps : ℚ := 5 / 100
  useAngularRate : Bool := false
  latestGyroRadps : Vector3d := ![0, 0, 0]
  innovationGate : ℚ := 0
  deriving DecidableEq

/-- Options of `RadarAltimeter`, with the elevation of the terrain below. -/
structure RadarAltimeterOptions where
  terrainElevationM : ℚ := 0
  sigmaM : Option ℚ := none
  innovationGate : ℚ := 0
  deriving DecidableEq

/-- Options of `RangeFinder`; a range that is not used as an altitude is not used at all. -/
structure RangeFinderOptions where
  expectedRangeM : ℚ := 0
  useAsAltitude : Bool := true
  terrainElevationM : ℚ := 0
  sigmaM : Option ℚ := none
  innovationGate : ℚ := 0
  deriving DecidableEq

/-- Options of `OpticalFlow`, with the distance for a flow that has none. -/
structure OpticalFlowOptions where
  fallbackAltitudeM : ℚ := 10
  sigmaRadps : ℚ := 1 / 100
  innovationGate : ℚ := 0
  deriving DecidableEq

/-- Options of `Dvl`: its mounting, and whether only returns from the bottom are used. -/
structure DvlOptions where
  dvlToBodyRotation : Matrix3d := identity
  bottomTrackOnly : Bool := false
  sigmaMps : Option ℚ := none
  innovationGate : ℚ := 0
  deriving DecidableEq

/-- Options of `EchoSounder`: the speed of sound, and where depths are counted from. -/
structure EchoSounderOptions where
  soundSpeedMps : ℚ := 1500
  depthOriginM : ℚ := 0
  sigmaM : Option ℚ := none
  innovationGate : ℚ := 0
  deriving DecidableEq

/-- Options of `Airspeed`, with the wind. -/
structure AirspeedOptions where
  windEnuMps : Vector3d := ![0, 0, 0]
  sigmaMps : ℚ := 1 / 2
  innovationGate : ℚ := 0
  deriving DecidableEq

/-- Options of `ExternalPose`: what is used of a pose, and deviations that replace its own. -/
structure ExternalPoseOptions where
  usePosition : Bool := true
  useOrientation : Bool := true
  positionSigmaM : Option ℚ := none
  orientationSigmaRad : Option ℚ := none
  innovationGate : ℚ := 0
  deriving DecidableEq

/-- Options of `ExternalVelocity`, which are those of `WheelOdometry` with optional deviations. -/
structure ExternalVelocityOptions where
  sigmaLinearMps : Option ℚ := none
  sigmaAngularRadps : Option ℚ := none
  useAngularRate : Bool := false
  latestGyroRadps : Vector3d := ![0, 0, 0]
  innovationGate : ℚ := 0
  deriving DecidableEq

/-- Options of `ExternalOdometry`: what is used of it, and deviations that replace its own. -/
structure ExternalOdometryOptions where
  usePosition : Bool := true
  useVelocity : Bool := true
  useOrientation : Bool := true
  positionSigmaM : Option ℚ := none
  velocitySigmaMps : Option ℚ := none
  orientationSigmaRad : Option ℚ := none
  innovationGate : ℚ := 0
  deriving DecidableEq

/-- Options of `AidingSolution`: the least score of a match, and deviations that replace its own. -/
structure AidingSolutionOptions where
  minMatchScore : ℚ := 0
  positionSigmaM : Option ℚ := none
  velocitySigmaMps : Option ℚ := none
  attitudeSigmaRad : Option ℚ := none
  innovationGate : ℚ := 0
  deriving DecidableEq

/-- Spread and weights of the sigma points. -/
structure MerweSigmaParams where
  alpha : ℚ := 1 / 1000
  beta : ℚ := 2
  kappa : ℚ := 0
  deriving DecidableEq

/-! ### Blocks -/

/-- `GnssIntegrationMode`: solutions, or pseudoranges. -/
inductive GnssIntegrationMode
  | looselyCoupled
  | tightlyCoupled
  deriving DecidableEq, Repr

/-- `GnssSensorConfig`, with the options of both modes. -/
structure GnssSensorConfig where
  enabled : Bool := false
  mode : GnssIntegrationMode := .looselyCoupled
  looselyCoupled : GnssLooselyCoupledOptions := {}
  tightlyCoupled : GnssTightlyCoupledOptions := {}
  deriving DecidableEq

/-- `BarometerSensorConfig` and the other blocks of a flag and the options of one model. -/
structure SensorConfig (O : Type) where
  enabled : Bool := false
  options : O
  deriving DecidableEq

/-- What `NavigationSystemConfig` holds besides the backend. -/
structure Sensors where
  imu : ImuNoiseModel := {}
  gnss : GnssSensorConfig := {}
  barometer : SensorConfig BarometerOptions := { options := {} }
  magnetometer : SensorConfig MagnetometerOptions := { options := {} }
  starTracker : SensorConfig StarTrackerOptions := { options := {} }
  wheelOdometry : SensorConfig WheelOdometryOptions := { options := {} }
  radarAltimeter : SensorConfig RadarAltimeterOptions := { options := {} }
  rangeFinder : SensorConfig RangeFinderOptions := { options := {} }
  opticalFlow : SensorConfig OpticalFlowOptions := { options := {} }
  dvl : SensorConfig DvlOptions := { options := {} }
  echoSounder : SensorConfig EchoSounderOptions := { options := {} }
  airspeed : SensorConfig AirspeedOptions := { options := {} }
  externalPose : SensorConfig ExternalPoseOptions := { options := {} }
  externalVelocity : SensorConfig ExternalVelocityOptions := { options := {} }
  externalOdometry : SensorConfig ExternalOdometryOptions := { options := {} }
  aidingSolution : SensorConfig AidingSolutionOptions := { options := {} }
  ukfSigmaParams : MerweSigmaParams := {}
  deadReckoningThresholdS : ℚ := 5
  minImuDtS : ℚ := 1 / 1000000
  maxImuDtS : ℚ := 1 / 20
  deriving DecidableEq

end FalconGuide.Config
