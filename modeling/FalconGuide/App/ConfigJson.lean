import FalconGuide.App.SensorConfig

namespace FalconGuide

/-!
# The configuration as JSON

`config_json.cpp`: a configuration as a JSON value, and back.

* `Json.member` — a member of an object, with the value to keep when there is none;
  `Json.readDouble`, `Json.readOptDouble`, `Json.readVec3`, … are cases of it;
* `Config.navFromJson`, `Config.navToJson` — `NavFromJson` and `NavToJson`, block by block;
* `SessionConfig.toJson` — `ToJson`, without the text: `dump` and `parse` lose nothing of finite
  numbers, booleans and texts.
-/

namespace Json

variable {α : Type}

/-- Conversion to `bool`. -/
def toBool : Json → Except String Bool
  | bool b => .ok b
  | j => .error (typeError "boolean" j)

/-- `if (j.contains(key)) x = j[key]`, with `conv` the conversion to the type of `x`. -/
def member (j : Json) (key : String) (x : α) (conv : Json → Except String α) : Except String α :=
  if j.contains key then conv (j.get key) else .ok x

/-- A member of type `double`. -/
def readDouble (j : Json) (key : String) (x : ℚ) : Except String ℚ := j.member key x toDouble

/-- A member of type `bool`. -/
def readBool (j : Json) (key : String) (x : Bool) : Except String Bool := j.member key x toBool

/-- `value` with a `bool` default. -/
def valueBool (j : Json) (key : String) (default : Bool) : Except String Bool :=
  j.value toBool key default

/-- A number or null. -/
def toOptDouble : Json → Except String (Option ℚ)
  | null => .ok none
  | j => j.toDouble.map some

/-- `ReadOptDouble`. -/
def readOptDouble (j : Json) (key : String) : Except String (Option ℚ) :=
  j.member key none toOptDouble

/-- `WriteOptDouble`. -/
def writeOptDouble : Option ℚ → Json
  | none => null
  | some x => num x

/-- The first three elements of an array; `default` if there are none. -/
def toVec3 (default : Config.Vector3d) : Json → Except String Config.Vector3d
  | arr (x :: y :: z :: _) => do
    let x ← x.toDouble
    let y ← y.toDouble
    let z ← z.toDouble
    return ![x, y, z]
  | _ => .ok default

/-- `ReadVec3`. -/
def readVec3 (j : Json) (key : String) (default : Config.Vector3d) :
    Except String Config.Vector3d :=
  j.member key default (toVec3 default)

/-- `WriteVec3`. -/
def writeVec3 (v : Config.Vector3d) : Json := arr [num (v 0), num (v 1), num (v 2)]

/-- The first nine elements of an array, row by row; the identity if there are none. -/
def toMat3 : Json → Except String Config.Matrix3d
  | arr a =>
    if a.length < 9 then .ok Config.identity
    else do
      let xs ← (a.take 9).mapM toDouble
      return fun r c => xs.getD (r * 3 + c) 0
  | _ => .ok Config.identity

/-- `ReadMat3`. -/
def readMat3 (j : Json) (key : String) : Except String Config.Matrix3d :=
  j.member key Config.identity toMat3

/-- `WriteMat3`: row by row. -/
def writeMat3 (m : Config.Matrix3d) : Json :=
  arr ((List.finRange 3).flatMap fun r => (List.finRange 3).map fun c => num (m r c))

end Json

namespace Config

open Json

/-! ### Blocks -/

/-- The `imu` block of `NavFromJson`. -/
def imuFromJson (j : Json) : Except String ImuNoiseModel := do
  return {
    accelNoiseDensity := ← j.readDouble "accel_noise_density" (3 / 1000)
    gyroNoiseDensity := ← j.readDouble "gyro_noise_density" (15 / 100000)
    accelRandomWalk := ← j.readDouble "accel_random_walk" (3 / 100000)
    gyroRandomWalk := ← j.readDouble "gyro_random_walk" (2 / 1000000) }

/-- The `imu` block of `NavToJson`. -/
def imuToJson (n : ImuNoiseModel) : Json := obj [
  ("accel_noise_density", num n.accelNoiseDensity),
  ("gyro_noise_density", num n.gyroNoiseDensity),
  ("accel_random_walk", num n.accelRandomWalk),
  ("gyro_random_walk", num n.gyroRandomWalk)]

/-- The `loosely_coupled` block of a GNSS receiver. -/
def looselyCoupledFromJson (lc : Json) : Except String GnssLooselyCoupledOptions := do
  return {
    positionSigmaM := ← lc.readOptDouble "position_sigma_m"
    velocitySigmaMps := ← lc.readOptDouble "velocity_sigma_mps"
    positionGate := ← lc.readDouble "position_gate" 0 }

/-- It is written with all its options. -/
def looselyCoupledToJson (lc : GnssLooselyCoupledOptions) : Json := obj [
  ("position_sigma_m", writeOptDouble lc.positionSigmaM),
  ("velocity_sigma_mps", writeOptDouble lc.velocitySigmaMps),
  ("position_gate", num lc.positionGate)]

/-- The `tightly_coupled` block of a GNSS receiver, without `min_satellites`. -/
def tightlyCoupledFromJson (tc : Json) : Except String GnssTightlyCoupledOptions := do
  return {
    basePseudorangeSigmaM := ← tc.readDouble "base_pseudorange_sigma_m" 3
    pseudorangeNoiseFloorM := ← tc.readDouble "pseudorange_noise_floor_m" (1 / 10)
    baseDopplerSigmaMps := ← tc.readDouble "base_doppler_sigma_mps" (1 / 2)
    innovationGateSigma := ← tc.readDouble "innovation_gate_sigma" 3 }

/-- `min_satellites` is not written. -/
def tightlyCoupledToJson (tc : GnssTightlyCoupledOptions) : Json := obj [
  ("base_pseudorange_sigma_m", num tc.basePseudorangeSigmaM),
  ("pseudorange_noise_floor_m", num tc.pseudorangeNoiseFloorM),
  ("base_doppler_sigma_mps", num tc.baseDopplerSigmaMps),
  ("innovation_gate_sigma", num tc.innovationGateSigma)]

/-- The `gnss` block; any mode but one text is loosely coupled. -/
def gnssFromJson (jg : Json) : Except String GnssSensorConfig := do
  let enabled ← jg.valueBool "enabled" false
  let mode ← jg.valueString "mode" "LooselyCoupled"
  return {
    enabled
    mode := if mode = "TightlyCoupled" then .tightlyCoupled else .looselyCoupled
    looselyCoupled := ← jg.member "loosely_coupled" {} looselyCoupledFromJson
    tightlyCoupled := ← jg.member "tightly_coupled" {} tightlyCoupledFromJson }

/-- The `gnss` block, with the blocks of both modes. -/
def gnssToJson (gnss : GnssSensorConfig) : Json := obj [
  ("enabled", bool gnss.enabled),
  ("mode", str (if gnss.mode = .tightlyCoupled then "TightlyCoupled" else "LooselyCoupled")),
  ("loosely_coupled", looselyCoupledToJson gnss.looselyCoupled),
  ("tightly_coupled", tightlyCoupledToJson gnss.tightlyCoupled)]

/-- The `barometer` block. -/
def barometerFromJson (jb : Json) : Except String (SensorConfig BarometerOptions) := do
  return {
    enabled := ← jb.valueBool "enabled" false
    options := {
      altitudeSigmaM := ← jb.readOptDouble "altitude_sigma_m"
      isaSeaLevelPressurePa := ← jb.valueDouble "isa_sea_level_pressure_pa" 101325
      innovationGate := ← jb.valueDouble "innovation_gate" 0 } }

/-- The `barometer` block, with all its options. -/
def barometerToJson (b : SensorConfig BarometerOptions) : Json := obj [
  ("enabled", bool b.enabled),
  ("altitude_sigma_m", writeOptDouble b.options.altitudeSigmaM),
  ("isa_sea_level_pressure_pa", num b.options.isaSeaLevelPressurePa),
  ("innovation_gate", num b.options.innovationGate)]

/-- The `magnetometer` block. -/
def magnetometerFromJson (jm : Json) : Except String (SensorConfig MagnetometerOptions) := do
  return {
    enabled := ← jm.valueBool "enabled" false
    options := {
      referenceFieldEnuTesla := ← jm.readVec3 "reference_field_enu_tesla"
        ![0, 2 / 100000, -43 / 1000000]
      sigmaTesla := ← jm.readOptDouble "sigma_tesla"
      innovationGate := ← jm.valueDouble "innovation_gate" 0 } }

/-- The `magnetometer` block, with all its options. -/
def magnetometerToJson (m : SensorConfig MagnetometerOptions) : Json := obj [
  ("enabled", bool m.enabled),
  ("reference_field_enu_tesla", writeVec3 m.options.referenceFieldEnuTesla),
  ("sigma_tesla", writeOptDouble m.options.sigmaTesla),
  ("innovation_gate", num m.options.innovationGate)]

/-- The `star_tracker` block, without the mounting. -/
def starTrackerFromJson (js : Json) : Except String (SensorConfig StarTrackerOptions) := do
  return {
    enabled := ← js.valueBool "enabled" false
    options := {
      sigmaYawRad := ← js.readDouble "sigma_yaw_rad" (1 / 1000)
      sigmaPitchRad := ← js.readDouble "sigma_pitch_rad" (1 / 1000)
      sigmaRollRad := ← js.readDouble "sigma_roll_rad" (1 / 1000)
      usePitchRoll := ← js.readBool "use_pitch_roll" true
      innovationGate := ← js.readDouble "innovation_gate" 0 } }

/-- The mounting of a star tracker is not written. -/
def starTrackerToJson (s : SensorConfig StarTrackerOptions) : Json := obj [
  ("enabled", bool s.enabled),
  ("sigma_yaw_rad", num s.options.sigmaYawRad),
  ("sigma_pitch_rad", num s.options.sigmaPitchRad),
  ("sigma_roll_rad", num s.options.sigmaRollRad),
  ("use_pitch_roll", bool s.options.usePitchRoll),
  ("innovation_gate", num s.options.innovationGate)]

/-- The `wheel_odometry` block, without the newest angular rate. -/
def wheelOdometryFromJson (jw : Json) : Except String (SensorConfig WheelOdometryOptions) := do
  return {
    enabled := ← jw.valueBool "enabled" false
    options := {
      sigmaLinearMps := ← jw.readDouble "sigma_linear_mps" (1 / 10)
      sigmaAngularRadps := ← jw.readDouble "sigma_angular_radps" (5 / 100)
      useAngularRate := ← jw.readBool "use_angular_rate" false
      innovationGate := ← jw.readDouble "innovation_gate" 0 } }

/-- The newest angular rate is not written. -/
def wheelOdometryToJson (w : SensorConfig WheelOdometryOptions) : Json := obj [
  ("enabled", bool w.enabled),
  ("sigma_linear_mps", num w.options.sigmaLinearMps),
  ("sigma_angular_radps", num w.options.sigmaAngularRadps),
  ("use_angular_rate", bool w.options.useAngularRate),
  ("innovation_gate", num w.options.innovationGate)]

/-- The `radar_altimeter` block: of its options the gate alone. -/
def radarAltimeterFromJson (jr : Json) : Except String (SensorConfig RadarAltimeterOptions) := do
  return {
    enabled := ← jr.valueBool "enabled" false
    options := { innovationGate := ← jr.readDouble "innovation_gate" 0 } }

/-- Neither the terrain elevation nor the deviation is written. -/
def radarAltimeterToJson (r : SensorConfig RadarAltimeterOptions) : Json := obj [
  ("enabled", bool r.enabled),
  ("innovation_gate", num r.options.innovationGate)]

/-- The `range_finder` block. -/
def rangeFinderFromJson (jr : Json) : Except String (SensorConfig RangeFinderOptions) := do
  return {
    enabled := ← jr.valueBool "enabled" false
    options := {
      expectedRangeM := ← jr.readDouble "expected_range_m" 0
      useAsAltitude := ← jr.readBool "use_as_altitude" true
      terrainElevationM := ← jr.readDouble "terrain_elevation_m" 0
      sigmaM := ← jr.readOptDouble "sigma_m"
      innovationGate := ← jr.readDouble "innovation_gate" 0 } }

/-- The `range_finder` block, with all its options. -/
def rangeFinderToJson (r : SensorConfig RangeFinderOptions) : Json := obj [
  ("enabled", bool r.enabled),
  ("expected_range_m", num r.options.expectedRangeM),
  ("use_as_altitude", bool r.options.useAsAltitude),
  ("terrain_elevation_m", num r.options.terrainElevationM),
  ("sigma_m", writeOptDouble r.options.sigmaM),
  ("innovation_gate", num r.options.innovationGate)]

/-- The `optical_flow` block. -/
def opticalFlowFromJson (jo : Json) : Except String (SensorConfig OpticalFlowOptions) := do
  return {
    enabled := ← jo.valueBool "enabled" false
    options := {
      fallbackAltitudeM := ← jo.readDouble "fallback_altitude_m" 10
      sigmaRadps := ← jo.readDouble "sigma_radps" (1 / 100)
      innovationGate := ← jo.readDouble "innovation_gate" 0 } }

/-- The `optical_flow` block, with all its options. -/
def opticalFlowToJson (o : SensorConfig OpticalFlowOptions) : Json := obj [
  ("enabled", bool o.enabled),
  ("fallback_altitude_m", num o.options.fallbackAltitudeM),
  ("sigma_radps", num o.options.sigmaRadps),
  ("innovation_gate", num o.options.innovationGate)]

/-- The `dvl` block. -/
def dvlFromJson (jd : Json) : Except String (SensorConfig DvlOptions) := do
  return {
    enabled := ← jd.valueBool "enabled" false
    options := {
      dvlToBodyRotation := ← jd.readMat3 "dvl_to_body_rotation"
      bottomTrackOnly := ← jd.readBool "bottom_track_only" false
      sigmaMps := ← jd.readOptDouble "sigma_mps"
      innovationGate := ← jd.readDouble "innovation_gate" 0 } }

/-- The `dvl` block, with all its options. -/
def dvlToJson (d : SensorConfig DvlOptions) : Json := obj [
  ("enabled", bool d.enabled),
  ("dvl_to_body_rotation", writeMat3 d.options.dvlToBodyRotation),
  ("bottom_track_only", bool d.options.bottomTrackOnly),
  ("sigma_mps", writeOptDouble d.options.sigmaMps),
  ("innovation_gate", num d.options.innovationGate)]

/-- The `echo_sounder` block. -/
def echoSounderFromJson (je : Json) : Except String (SensorConfig EchoSounderOptions) := do
  return {
    enabled := ← je.valueBool "enabled" false
    options := {
      soundSpeedMps := ← je.readDouble "sound_speed_mps" 1500
      depthOriginM := ← je.readDouble "depth_origin_m" 0
      sigmaM := ← je.readOptDouble "sigma_m"
      innovationGate := ← je.readDouble "innovation_gate" 0 } }

/-- The `echo_sounder` block, with all its options. -/
def echoSounderToJson (e : SensorConfig EchoSounderOptions) : Json := obj [
  ("enabled", bool e.enabled),
  ("sound_speed_mps", num e.options.soundSpeedMps),
  ("depth_origin_m", num e.options.depthOriginM),
  ("sigma_m", writeOptDouble e.options.sigmaM),
  ("innovation_gate", num e.options.innovationGate)]

/-- The `airspeed` block. -/
def airspeedFromJson (ja : Json) : Except String (SensorConfig AirspeedOptions) := do
  return {
    enabled := ← ja.valueBool "enabled" false
    options := {
      windEnuMps := ← ja.readVec3 "wind_enu_mps" ![0, 0, 0]
      sigmaMps := ← ja.readDouble "sigma_mps" (1 / 2)
      innovationGate := ← ja.readDouble "innovation_gate" 0 } }

/-- The `airspeed` block, with all its options. -/
def airspeedToJson (a : SensorConfig AirspeedOptions) : Json := obj [
  ("enabled", bool a.enabled),
  ("wind_enu_mps", writeVec3 a.options.windEnuMps),
  ("sigma_mps", num a.options.sigmaMps),
  ("innovation_gate", num a.options.innovationGate)]

/-- The `external_pose` block, without the deviations. -/
def externalPoseFromJson (je : Json) : Except String (SensorConfig ExternalPoseOptions) := do
  return {
    enabled := ← je.valueBool "enabled" false
    options := {
      usePosition := ← je.readBool "use_position" true
      useOrientation := ← je.readBool "use_orientation" true
      innovationGate := ← je.readDouble "innovation_gate" 0 } }

/-- The deviations of a pose are not written. -/
def externalPoseToJson (e : SensorConfig ExternalPoseOptions) : Json := obj [
  ("enabled", bool e.enabled),
  ("use_position", bool e.options.usePosition),
  ("use_orientation", bool e.options.useOrientation),
  ("innovation_gate", num e.options.innovationGate)]

/-- The `external_velocity` block, without the deviations and the angular rate. -/
def externalVelocityFromJson (je : Json) :
    Except String (SensorConfig ExternalVelocityOptions) := do
  return {
    enabled := ← je.valueBool "enabled" false
    options := {
      useAngularRate := ← je.readBool "use_angular_rate" false
      innovationGate := ← je.readDouble "innovation_gate" 0 } }

/-- Neither the deviations nor the angular rate are written. -/
def externalVelocityToJson (e : SensorConfig ExternalVelocityOptions) : Json := obj [
  ("enabled", bool e.enabled),
  ("use_angular_rate", bool e.options.useAngularRate),
  ("innovation_gate", num e.options.innovationGate)]

/-- The `external_odometry` block. -/
def externalOdometryFromJson (je : Json) :
    Except String (SensorConfig ExternalOdometryOptions) := do
  return {
    enabled := ← je.valueBool "enabled" false
    options := {
      usePosition := ← je.readBool "use_position" true
      useVelocity := ← je.readBool "use_velocity" true
      useOrientation := ← je.readBool "use_orientation" true
      positionSigmaM := ← je.readOptDouble "position_sigma_m"
      velocitySigmaMps := ← je.readOptDouble "velocity_sigma_mps"
      orientationSigmaRad := ← je.readOptDouble "orientation_sigma_rad"
      innovationGate := ← je.readDouble "innovation_gate" 0 } }

/-- The `external_odometry` block, with all its options. -/
def externalOdometryToJson (e : SensorConfig ExternalOdometryOptions) : Json := obj [
  ("enabled", bool e.enabled),
  ("use_position", bool e.options.usePosition),
  ("use_velocity", bool e.options.useVelocity),
  ("use_orientation", bool e.options.useOrientation),
  ("position_sigma_m", writeOptDouble e.options.positionSigmaM),
  ("velocity_sigma_mps", writeOptDouble e.options.velocitySigmaMps),
  ("orientation_sigma_rad", writeOptDouble e.options.orientationSigmaRad),
  ("innovation_gate", num e.options.innovationGate)]

/-- The `aiding_solution` block. -/
def aidingSolutionFromJson (ja : Json) : Except String (SensorConfig AidingSolutionOptions) := do
  return {
    enabled := ← ja.valueBool "enabled" false
    options := {
      minMatchScore := ← ja.readDouble "min_match_score" 0
      positionSigmaM := ← ja.readOptDouble "position_sigma_m"
      velocitySigmaMps := ← ja.readOptDouble "velocity_sigma_mps"
      attitudeSigmaRad := ← ja.readOptDouble "attitude_sigma_rad"
      innovationGate := ← ja.readDouble "innovation_gate" 0 } }

/-- The `aiding_solution` block, with all its options. -/
def aidingSolutionToJson (a : SensorConfig AidingSolutionOptions) : Json := obj [
  ("enabled", bool a.enabled),
  ("min_match_score", num a.options.minMatchScore),
  ("position_sigma_m", writeOptDouble a.options.positionSigmaM),
  ("velocity_sigma_mps", writeOptDouble a.options.velocitySigmaMps),
  ("attitude_sigma_rad", writeOptDouble a.options.attitudeSigmaRad),
  ("innovation_gate", num a.options.innovationGate)]

/-- The `ukf_sigma` block. -/
def ukfSigmaFromJson (ju : Json) : Except String MerweSigmaParams := do
  return {
    alpha := ← ju.readDouble "alpha" (1 / 1000)
    beta := ← ju.readDouble "beta" 2
    kappa := ← ju.readDouble "kappa" 0 }

/-- The `ukf_sigma` block, with all its members. -/
def ukfSigmaToJson (u : MerweSigmaParams) : Json := obj [
  ("alpha", num u.alpha),
  ("beta", num u.beta),
  ("kappa", num u.kappa)]

/-! ### The navigation block -/

/-- The backend; any other text is the EKF. -/
def backendFromJson (j : Json) : Except String EstimatorBackendChoice := do
  let b ← j.toStr
  return if b = "UKF" then .ukf else if b = "Ceres" then .ceres
    else if b = "GTSAM" then .gtsam else .ekf

@[inherit_doc backendFromJson]
def backendToJson : EstimatorBackendChoice → Json
  | .ukf => str "UKF"
  | .ceres => str "Ceres"
  | .gtsam => str "GTSAM"
  | .ekf => str "EKF"

/-- `NavFromJson`. -/
def navFromJson (j : Json) : Except String (NavigationSystemConfig Sensors) := do
  let backend ← j.member "backend" .ekf backendFromJson
  let deadReckoningThresholdS ← j.readDouble "dead_reckoning_threshold_s" 5
  let minImuDtS ← j.readDouble "min_imu_dt_s" (1 / 1000000)
  let maxImuDtS ← j.readDouble "max_imu_dt_s" (1 / 20)
  let imu ← j.member "imu" {} imuFromJson
  let gnss ← j.member "gnss" {} gnssFromJson
  let barometer ← j.member "barometer" { options := {} } barometerFromJson
  let magnetometer ← j.member "magnetometer" { options := {} } magnetometerFromJson
  let starTracker ← j.member "star_tracker" { options := {} } starTrackerFromJson
  let wheelOdometry ← j.member "wheel_odometry" { options := {} } wheelOdometryFromJson
  let radarAltimeter ← j.member "radar_altimeter" { options := {} } radarAltimeterFromJson
  let rangeFinder ← j.member "range_finder" { options := {} } rangeFinderFromJson
  let opticalFlow ← j.member "optical_flow" { options := {} } opticalFlowFromJson
  let dvl ← j.member "dvl" { options := {} } dvlFromJson
  let echoSounder ← j.member "echo_sounder" { options := {} } echoSounderFromJson
  let airspeed ← j.member "airspeed" { options := {} } airspeedFromJson
  let externalPose ← j.member "external_pose" { options := {} } externalPoseFromJson
  let externalVelocity ← j.member "external_velocity" { options := {} } externalVelocityFromJson
  let externalOdometry ← j.member "external_odometry" { options := {} } externalOdometryFromJson
  let aidingSolution ← j.member "aiding_solution" { options := {} } aidingSolutionFromJson
  let ukfSigmaParams ← j.member "ukf_sigma" {} ukfSigmaFromJson
  return {
    backend
    sensors := {
      imu, gnss, barometer, magnetometer, starTracker, wheelOdometry, radarAltimeter, rangeFinder,
      opticalFlow, dvl, echoSounder, airspeed, externalPose, externalVelocity, externalOdometry,
      aidingSolution, ukfSigmaParams, deadReckoningThresholdS, minImuDtS, maxImuDtS } }

/-- `NavToJson`. -/
def navToJson (cfg : NavigationSystemConfig Sensors) : Json := obj [
  ("backend", backendToJson cfg.backend),
  ("dead_reckoning_threshold_s", num cfg.sensors.deadReckoningThresholdS),
  ("min_imu_dt_s", num cfg.sensors.minImuDtS),
  ("max_imu_dt_s", num cfg.sensors.maxImuDtS),
  ("imu", imuToJson cfg.sensors.imu),
  ("gnss", gnssToJson cfg.sensors.gnss),
  ("barometer", barometerToJson cfg.sensors.barometer),
  ("magnetometer", magnetometerToJson cfg.sensors.magnetometer),
  ("star_tracker", starTrackerToJson cfg.sensors.starTracker),
  ("wheel_odometry", wheelOdometryToJson cfg.sensors.wheelOdometry),
  ("radar_altimeter", radarAltimeterToJson cfg.sensors.radarAltimeter),
  ("range_finder", rangeFinderToJson cfg.sensors.rangeFinder),
  ("optical_flow", opticalFlowToJson cfg.sensors.opticalFlow),
  ("dvl", dvlToJson cfg.sensors.dvl),
  ("echo_sounder", echoSounderToJson cfg.sensors.echoSounder),
  ("airspeed", airspeedToJson cfg.sensors.airspeed),
  ("external_pose", externalPoseToJson cfg.sensors.externalPose),
  ("external_velocity", externalVelocityToJson cfg.sensors.externalVelocity),
  ("external_odometry", externalOdometryToJson cfg.sensors.externalOdometry),
  ("aiding_solution", aidingSolutionToJson cfg.sensors.aidingSolution),
  ("ukf_sigma", ukfSigmaToJson cfg.sensors.ukfSigmaParams)]

end Config

namespace SessionConfig

open Json

/-- `ToJson`. -/
def toJson (c : SessionConfig Config.Sensors) : Json := obj [
  ("nav", Config.navToJson c.nav),
  ("dataset", obj [("type", str c.dataset.type), ("path", str c.dataset.path)]),
  ("ipc", obj [("socket_path", str c.ipc.socketPath), ("max_clients", int c.ipc.maxClients)]),
  ("ws", obj [("port", int c.ws.port.toNat), ("max_clients", int c.ws.maxClients),
    ("ui_path", str c.ws.uiPath)]),
  ("playback_speed", num c.playbackSpeed)]

end SessionConfig

end FalconGuide
