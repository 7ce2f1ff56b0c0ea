import FalconGuide.Core.Math
import FalconGuide.Core.Time

namespace FalconGuide

/-!
# The navigation state

What `LatestState` returns.  Fields that neither filter writes, such as the body rates and the
status of every sensor but the inertial unit, keep their defaults and are left out.

* `NavigationState` — with its `NavigationQuality`, and the `SensorStatus` of the inertial unit;
* `aidingStatus` — whether the solution is dead reckoning.
-/

/-- `NavigationStatus`. -/
inductive NavigationStatus
  | unknown
  | notInitialized
  | initializing
  | nominal
  | degraded
  | deadReckoning
  | fault
  deriving DecidableEq

/-- `EstimatorMode`. -/
inductive EstimatorMode
  | unknown
  | inertialOnly
  | visualInertial
  | gnssInertial
  | visualInertialGnss
  | multiSensorFusion
  deriving DecidableEq

/-- `SensorHealth`. -/
inductive SensorHealth
  | unknown
  | healthy
  | degraded
  | rejected
  | missing
  | stale
  | fault
  deriving DecidableEq

/-- `SensorStatus`. -/
structure SensorStatus where
  health : SensorHealth := .unknown
  usedInSolution : Bool := false

/-- `NavigationQuality`. -/
structure NavigationQuality where
  initialized : Bool := false
  positionAccuracyM : Option ℝ := none
  velocityAccuracyMps : Option ℝ := none
  attitudeAccuracyRad : Option ℝ := none
  horizontalAccuracyM : Option ℝ := none

/-- `NavigationState`. -/
structure NavigationState where
  timestamp : Timestamp := {}
  positionEcefM : Vec3 := 0
  velocityEcefMps : Vec3 := 0
  positionEnuM : Vec3 := 0
  velocityEnuMps : Vec3 := 0
  orientationBodyToEnu : Quat := 1
  covariance : Matrix (Fin 15) (Fin 15) ℝ := 0
  status : NavigationStatus := .unknown
  mode : EstimatorMode := .unknown
  quality : NavigationQuality := {}
  imu : SensorStatus := {}

/-- The accuracy of a segment: the root of the mean variance of its block. -/
noncomputable def blockAccuracy {n : ℕ} (P : Matrix (Fin n) (Fin n) ℝ) (offset : ℕ) : ℝ :=
  √(Matrix.trace (block P offset offset 3 3) / 3)

/-- The status of an initialised filter: dead reckoning without a recent aiding measurement on the
    monotonic clock. -/
noncomputable def aidingStatus (now : Timestamp) (lastAiding : Option Timestamp)
    (thresholdS : ℝ) : NavigationStatus :=
  match lastAiding with
  | none => .deadReckoning
  | some last =>
    if now.hasSteady && last.hasSteady then
      match timeDifference now last with
      | none => .nominal
      | some age => if thresholdS < (age.seconds : ℝ) then .deadReckoning else .nominal
    else .deadReckoning

end FalconGuide
