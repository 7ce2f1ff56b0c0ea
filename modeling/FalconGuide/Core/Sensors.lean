import FalconGuide.Core.Math
import FalconGuide.Core.Time

namespace FalconGuide

/-!
# Sensor measurements

The measurement types with the fields that an estimator reads, and the variant over all of them.
Every measurement has a timestamp and a validity.
-/

/-- Source-level validity. -/
inductive MeasurementValidity
  | valid
  | saturated
  | dropped
  | outOfOrder
  | unknown
  deriving DecidableEq

/-- `ImuMeasurement`. -/
structure ImuMeasurement where
  timestamp : Timestamp := {}
  specificForceMps2 : Vec3 := 0
  angularRateRadps : Vec3 := 0
  validity : MeasurementValidity := .valid

/-- `MagnetometerMeasurement`. -/
structure MagnetometerMeasurement where
  timestamp : Timestamp := {}
  magneticFieldTesla : Vec3 := 0
  validity : MeasurementValidity := .valid

/-- `BarometerMeasurement`. -/
structure BarometerMeasurement where
  timestamp : Timestamp := {}
  pressurePa : ℝ := 0
  altitudeM : Option ℝ := none
  validity : MeasurementValidity := .valid

/-- `AirspeedMeasurement`. -/
structure AirspeedMeasurement where
  timestamp : Timestamp := {}
  airspeedMps : ℝ := 0
  validity : MeasurementValidity := .valid

/-- The surface a radar altimeter reports. -/
inductive RadarAltimeterSurface
  | unknown
  | ground
  | water
  | vegetation
  | building
  | invalid
  deriving DecidableEq

/-- `RadarAltimeterMeasurement`. -/
structure RadarAltimeterMeasurement where
  timestamp : Timestamp := {}
  rangeM : ℝ := 0
  surface : RadarAltimeterSurface := .unknown
  validity : MeasurementValidity := .valid

/-- `RangeFinderMeasurement`. -/
structure RangeFinderMeasurement where
  timestamp : Timestamp := {}
  rangeM : ℝ := 0
  validity : MeasurementValidity := .valid

/-- `OpticalFlowMeasurement`. -/
structure OpticalFlowMeasurement where
  timestamp : Timestamp := {}
  integratedFlowXRad : ℝ := 0
  integratedFlowYRad : ℝ := 0
  integrationTimeS : Option ℝ := none
  groundDistanceM : Option ℝ := none
  validity : MeasurementValidity := .valid

/-- The reference of a Doppler velocity log. -/
inductive DvlReference
  | unknown
  | bottomTrack
  | waterTrack
  deriving DecidableEq

/-- `DvlMeasurement`. -/
structure DvlMeasurement where
  timestamp : Timestamp := {}
  velocityMps : Vec3 := 0
  velocityCovarianceM2ps2 : Mat3 := 0
  reference : DvlReference := .unknown
  validity : MeasurementValidity := .valid

/-- `EchoSounderMeasurement`. -/
structure EchoSounderMeasurement where
  timestamp : Timestamp := {}
  depthOrRangeM : ℝ := 0
  soundSpeedMps : Option ℝ := none
  validity : MeasurementValidity := .valid

/-- `WheelOdometryMeasurement`. -/
structure WheelOdometryMeasurement where
  timestamp : Timestamp := {}
  linearVelocityBodyMps : Vec3 := 0
  angularRateBodyRadps : Vec3 := 0
  validity : MeasurementValidity := .valid

/-- `ExternalPoseMeasurement`. -/
structure ExternalPoseMeasurement where
  timestamp : Timestamp := {}
  positionEcefM : Vec3 := 0
  orientationBodyToEcef : Quat := 1
  covariance : Matrix (Fin 6) (Fin 6) ℝ := 0
  validity : MeasurementValidity := .valid

/-- `ExternalVelocityMeasurement`. -/
structure ExternalVelocityMeasurement where
  timestamp : Timestamp := {}
  linearVelocityBodyMps : Vec3 := 0
  angularRateBodyRadps : Vec3 := 0
  covariance : Matrix (Fin 6) (Fin 6) ℝ := 0
  validity : MeasurementValidity := .valid

/-- `ExternalOdometryMeasurement`. -/
structure ExternalOdometryMeasurement where
  timestamp : Timestamp := {}
  positionEcefM : Vec3 := 0
  velocityEcefMps : Vec3 := 0
  orientationBodyToEcef : Quat := 1
  validity : MeasurementValidity := .valid

/-- Which components of an orientation are trustworthy. -/
structure OrientationValidity where
  yaw : Bool := false
  pitch : Bool := false
  roll : Bool := false

/-- `any()`. -/
def OrientationValidity.any (v : OrientationValidity) : Bool := v.yaw || v.pitch || v.roll

/-- `AidingSolution`, the measurement. -/
structure AidingSolution where
  timestamp : Timestamp := {}
  positionEcefM : Option Vec3 := none
  positionCovarianceEcefM2 : Mat3 := 0
  velocityEcefMps : Option Vec3 := none
  velocityCovarianceEcefMps2 : Mat3 := 0
  orientationBodyToEcef : Option Quat := none
  orientationValidity : OrientationValidity := {}
  matchScore : Option ℝ := none
  validity : MeasurementValidity := .valid

/-- `StarTrackerMeasurement`. -/
structure StarTrackerMeasurement where
  timestamp : Timestamp := {}
  latitudeRad : ℝ := 0
  longitudeRad : ℝ := 0
  yawRad : ℝ := 0
  pitchRad : Option ℝ := none
  rollRad : Option ℝ := none
  validity : MeasurementValidity := .valid

/-! ### GNSS -/

/-- Carrier signals. -/
inductive GnssSignal
  | l1
  | l2
  | l5
  | e1
  | e5a
  | e5b
  | b1
  | b2
  | unknown
  deriving DecidableEq

/-- The fix type of a receiver. -/
inductive GnssFixType
  | noFix
  | single
  | differential
  | rtkFloat
  | rtkFixed
  | precisePointPositioning
  deriving DecidableEq

/-- `GnssRawObservation`. -/
structure GnssRawObservation where
  signal : GnssSignal := .unknown
  pseudorangeM : ℝ := 0
  dopplerHz : Option ℝ := none
  carrierToNoiseDensityDbhz : Option ℝ := none
  validity : MeasurementValidity := .valid

/-- `GnssSolution`. -/
structure GnssSolution where
  timestamp : Timestamp := {}
  positionEcefM : Vec3 := 0
  velocityEcefMps : Vec3 := 0
  positionCovarianceEcefM2 : Mat3 := 0
  velocityCovarianceEcefM2ps2 : Mat3 := 0
  fixType : GnssFixType := .noFix
  validity : MeasurementValidity := .valid

/-- `SatelliteState`. -/
structure SatelliteState where
  positionEcefM : Vec3 := 0
  velocityEcefMps : Vec3 := 0
  clockBiasS : ℝ := 0
  clockDriftSps : ℝ := 0
  ionosphericDelayM : ℝ := 0
  troposphericDelayM : ℝ := 0
  healthy : Bool := true

/-- `GnssTightlyCoupledObservation`. -/
structure GnssTightlyCoupledObservation where
  raw : GnssRawObservation := {}
  satellite : SatelliteState := {}

/-- `GnssTightlyCoupledEpoch`. -/
structure GnssTightlyCoupledEpoch where
  timestamp : Timestamp := {}
  svObservations : List GnssTightlyCoupledObservation := []
  validity : MeasurementValidity := .valid

/-- `SensorMeasurement`; a type whose content no estimator of the filter family reads keeps its
    timestamp and validity only. -/
inductive SensorMeasurement
  | imu (m : ImuMeasurement)
  | magnetometer (m : MagnetometerMeasurement)
  | barometer (m : BarometerMeasurement)
  | radarAltimeter (m : RadarAltimeterMeasurement)
  | wheelEncoder (timestamp : Timestamp) (validity : MeasurementValidity)
  | wheelOdometry (m : WheelOdometryMeasurement)
  | airspeed (m : AirspeedMeasurement)
  | rangeFinder (m : RangeFinderMeasurement)
  | opticalFlow (m : OpticalFlowMeasurement)
  | dvl (m : DvlMeasurement)
  | echoSounder (m : EchoSounderMeasurement)
  | externalPose (m : ExternalPoseMeasurement)
  | externalVelocity (m : ExternalVelocityMeasurement)
  | externalOdometry (m : ExternalOdometryMeasurement)
  | gnssObservationEpoch (timestamp : Timestamp) (validity : MeasurementValidity)
  | gnssSolution (m : GnssSolution)
  | cameraFrame (timestamp : Timestamp) (validity : MeasurementValidity)
  | geoReferenceImage (timestamp : Timestamp) (validity : MeasurementValidity)
  | aidingSolution (m : AidingSolution)
  | starTracker (m : StarTrackerMeasurement)
  | gnssTightlyCoupledEpoch (m : GnssTightlyCoupledEpoch)

/-- `GetTimestamp`. -/
def SensorMeasurement.timestamp : SensorMeasurement → Timestamp
  | .imu m => m.timestamp
  | .magnetometer m => m.timestamp
  | .barometer m => m.timestamp
  | .radarAltimeter m => m.timestamp
  | .wheelEncoder timestamp _ => timestamp
  | .wheelOdometry m => m.timestamp
  | .airspeed m => m.timestamp
  | .rangeFinder m => m.timestamp
  | .opticalFlow m => m.timestamp
  | .dvl m => m.timestamp
  | .echoSounder m => m.timestamp
  | .externalPose m => m.timestamp
  | .externalVelocity m => m.timestamp
  | .externalOdometry m => m.timestamp
  | .gnssObservationEpoch timestamp _ => timestamp
  | .gnssSolution m => m.timestamp
  | .cameraFrame timestamp _ => timestamp
  | .geoReferenceImage timestamp _ => timestamp
  | .aidingSolution m => m.timestamp
  | .starTracker m => m.timestamp
  | .gnssTightlyCoupledEpoch m => m.timestamp

/-- `GetValidity`. -/
def SensorMeasurement.validity : SensorMeasurement → MeasurementValidity
  | .imu m => m.validity
  | .magnetometer m => m.validity
  | .barometer m => m.validity
  | .radarAltimeter m => m.validity
  | .wheelEncoder _ validity => validity
  | .wheelOdometry m => m.validity
  | .airspeed m => m.validity
  | .rangeFinder m => m.validity
  | .opticalFlow m => m.validity
  | .dvl m => m.validity
  | .echoSounder m => m.validity
  | .externalPose m => m.validity
  | .externalVelocity m => m.validity
  | .externalOdometry m => m.validity
  | .gnssObservationEpoch _ validity => validity
  | .gnssSolution m => m.validity
  | .cameraFrame _ validity => validity
  | .geoReferenceImage _ validity => validity
  | .aidingSolution m => m.validity
  | .starTracker m => m.validity
  | .gnssTightlyCoupledEpoch m => m.validity

/-- `IsValid`. -/
def SensorMeasurement.isValid (m : SensorMeasurement) : Bool := decide (m.validity = .valid)

/-- An `ImuMeasurement`, which is buffered and never dispatched to a model. -/
def SensorMeasurement.isImu : SensorMeasurement → Bool
  | .imu _ => true
  | _ => false

end FalconGuide
