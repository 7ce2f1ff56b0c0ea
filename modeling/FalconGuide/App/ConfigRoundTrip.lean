import FalconGuide.App.ConfigJson
import Mathlib.Tactic.FinCases

namespace FalconGuide

/-!
# Saving and loading a configuration

What `FromJson` makes of the JSON value of `ToJson`.

* `Json.member_cons_self`, `Json.value_cons_self` — a member is read from its key;
* `Config.barometerFromJson_toJson`, … — what is loaded of a block;
* `SessionConfig.saved`, `SessionConfig.fromJson_toJson` — what is loaded of a configuration: the
  members that are not saved are at their defaults;
* `SessionConfig.fromJson_toJson_eq_iff` — the configurations that survive.
-/

namespace Json

variable {α : Type} {key key' : String} {v : Json} {fields : List (String × Json)}

/-! ### Members of an object -/

/-- The first member is found under its key. -/
theorem find?_cons_self : (obj ((key, v) :: fields)).find? key = some v := by
  simp [find?]

/-- A member under another key is passed over. -/
theorem find?_cons_of_ne (h : key ≠ key') :
    (obj ((key', v) :: fields)).find? key = (obj fields).find? key := by
  have hbeq : (key == key') = false := beq_eq_false_iff_ne.mpr h
  rw [find?, find?, List.lookup_cons, hbeq]

/-- A member is read from its key. -/
@[simp] theorem member_cons_self (x : α) (conv : Json → Except String α) :
    (obj ((key, v) :: fields)).member key x conv = conv v := by
  simp [member, contains, get, find?_cons_self]

/-- Members under other keys do not matter. -/
@[simp] theorem member_cons_of_ne (h : key ≠ key') (x : α) (conv : Json → Except String α) :
    (obj ((key', v) :: fields)).member key x conv = (obj fields).member key x conv := by
  rw [member, member, contains, contains, get, get, find?_cons_of_ne h]

@[simp] theorem value_cons_self (conv : Json → Except String α) (x : α) :
    (obj ((key, v) :: fields)).value conv key x = conv v := by
  simp [value]

@[simp] theorem value_cons_of_ne (h : key ≠ key') (conv : Json → Except String α) (x : α) :
    (obj ((key', v) :: fields)).value conv key x = (obj fields).value conv key x := by
  have hbeq : (key == key') = false := beq_eq_false_iff_ne.mpr h
  rw [value, value, List.lookup_cons, hbeq]

/-! ### Conversions -/

@[simp] theorem toBool_bool (b : Bool) : (bool b).toBool = .ok b := rfl

@[simp] theorem toDouble_num (x : ℚ) : (num x).toDouble = .ok x := rfl

@[simp] theorem toStr_str (s : String) : (str s).toStr = .ok s := rfl

@[simp] theorem toOptDouble_writeOptDouble (x : Option ℚ) :
    (writeOptDouble x).toOptDouble = .ok x := by
  cases x <;> rfl

@[simp] theorem toVec3_writeVec3 (d v : Config.Vector3d) : (writeVec3 v).toVec3 d = .ok v := by
  show Except.ok ![v 0, v 1, v 2] = Except.ok v
  congr 1
  funext i
  fin_cases i <;> rfl

/-- The entries of a matrix come back at their places. -/
@[simp] theorem toMat3_writeMat3 (m : Config.Matrix3d) : (writeMat3 m).toMat3 = .ok m := by
  show Except.ok _ = Except.ok m
  congr 1
  funext r c
  fin_cases r <;> fin_cases c <;> rfl

/-- An `int` is read back. -/
theorem toInt_int {n : ℤ} (hn : -2147483648 ≤ n ∧ n < 2147483648) :
    (int n).toInt = .ok n := by
  have hmod : Int.bmod n 4294967296 = n := by
    apply Int.bmod_eq_of_le <;> omega
  show Except.ok (Int.bmod n 4294967296) = _
  rw [hmod]

/-- A `uint16_t` is read back. -/
@[simp] theorem toUInt16_int (n : UInt16) : (int n.toNat).toUInt16 = .ok n := by
  show Except.ok (UInt16.ofInt n.toNat) = _
  have hlt := n.toNat_lt
  have hmod : ((n.toNat : ℤ) % 65536).toNat = n.toNat := by
    omega
  congr 1
  simp [UInt16.ofInt, hmod]

end Json

/-- The bind of a computation that does not throw. -/
theorem ok_bind {α β : Type} (a : α) (f : α → Except String β) : (Except.ok a >>= f) = f a := rfl

@[inherit_doc ok_bind]
theorem ok_map {α β : Type} (a : α) (f : α → β) :
    (f <$> (Except.ok a : Except String α)) = .ok (f a) := rfl

namespace Config

open Json

/-! ### Blocks -/

attribute [local simp] readDouble readBool readOptDouble readVec3 readMat3 valueBool valueDouble
  valueString ok_bind pure Except.pure

/-- The noise of the IMU is saved. -/
theorem imuFromJson_toJson (i : ImuNoiseModel) :
    imuFromJson (imuToJson i) = .ok i := by
  simp [imuFromJson, imuToJson]

/-- The loosely coupled options are saved. -/
theorem looselyCoupledFromJson_toJson (l : GnssLooselyCoupledOptions) :
    looselyCoupledFromJson (looselyCoupledToJson l) = .ok l := by
  simp [looselyCoupledFromJson, looselyCoupledToJson]

/-- The barometer is saved. -/
theorem barometerFromJson_toJson (b : SensorConfig BarometerOptions) :
    barometerFromJson (barometerToJson b) = .ok b := by
  simp [barometerFromJson, barometerToJson]

/-- The magnetometer is saved, with its reference field. -/
theorem magnetometerFromJson_toJson (m : SensorConfig MagnetometerOptions) :
    magnetometerFromJson (magnetometerToJson m) = .ok m := by
  simp [magnetometerFromJson, magnetometerToJson]

/-- The range finder is saved. -/
theorem rangeFinderFromJson_toJson (r : SensorConfig RangeFinderOptions) :
    rangeFinderFromJson (rangeFinderToJson r) = .ok r := by
  simp [rangeFinderFromJson, rangeFinderToJson]

/-- The optical flow is saved. -/
theorem opticalFlowFromJson_toJson (o : SensorConfig OpticalFlowOptions) :
    opticalFlowFromJson (opticalFlowToJson o) = .ok o := by
  simp [opticalFlowFromJson, opticalFlowToJson]

/-- The DVL is saved, with its mounting. -/
theorem dvlFromJson_toJson (d : SensorConfig DvlOptions) :
    dvlFromJson (dvlToJson d) = .ok d := by
  simp [dvlFromJson, dvlToJson]

/-- The echo sounder is saved. -/
theorem echoSounderFromJson_toJson (e : SensorConfig EchoSounderOptions) :
    echoSounderFromJson (echoSounderToJson e) = .ok e := by
  simp [echoSounderFromJson, echoSounderToJson]

/-- The airspeed sensor is saved, with the wind. -/
theorem airspeedFromJson_toJson (a : SensorConfig AirspeedOptions) :
    airspeedFromJson (airspeedToJson a) = .ok a := by
  simp [airspeedFromJson, airspeedToJson]

/-- External odometry is saved. -/
theorem externalOdometryFromJson_toJson (e : SensorConfig ExternalOdometryOptions) :
    externalOdometryFromJson (externalOdometryToJson e) = .ok e := by
  simp [externalOdometryFromJson, externalOdometryToJson]

/-- The aiding solution is saved. -/
theorem aidingSolutionFromJson_toJson (a : SensorConfig AidingSolutionOptions) :
    aidingSolutionFromJson (aidingSolutionToJson a) = .ok a := by
  simp [aidingSolutionFromJson, aidingSolutionToJson]

/-- The spread of the sigma points is saved. -/
theorem ukfSigmaFromJson_toJson (u : MerweSigmaParams) :
    ukfSigmaFromJson (ukfSigmaToJson u) = .ok u := by
  simp [ukfSigmaFromJson, ukfSigmaToJson]

/-- Of the tightly coupled options, the number of satellites is not saved. -/
theorem tightlyCoupledFromJson_toJson (t : GnssTightlyCoupledOptions) :
    tightlyCoupledFromJson (tightlyCoupledToJson t) = .ok { t with minSatellites := 4 } := by
  simp [tightlyCoupledFromJson, tightlyCoupledToJson]

/-- Of the GNSS block, nothing else is lost. -/
theorem gnssFromJson_toJson (g : GnssSensorConfig) :
    gnssFromJson (gnssToJson g)
      = .ok { g with tightlyCoupled := { g.tightlyCoupled with minSatellites := 4 } } := by
  obtain ⟨enabled, mode, looselyCoupled, tightlyCoupled⟩ := g
  simp [gnssFromJson, gnssToJson, looselyCoupledFromJson_toJson, tightlyCoupledFromJson_toJson]
  cases mode <;> rfl

/-- The mounting of the star tracker is not saved. -/
theorem starTrackerFromJson_toJson (s : SensorConfig StarTrackerOptions) :
    starTrackerFromJson (starTrackerToJson s)
      = .ok { s with options := { s.options with starTrackerToBody := {} } } := by
  simp [starTrackerFromJson, starTrackerToJson]

/-- The newest angular rate of the wheel odometry is not saved. -/
theorem wheelOdometryFromJson_toJson (w : SensorConfig WheelOdometryOptions) :
    wheelOdometryFromJson (wheelOdometryToJson w)
      = .ok { w with options := { w.options with latestGyroRadps := ![0, 0, 0] } } := by
  simp [wheelOdometryFromJson, wheelOdometryToJson]

/-- The terrain and the noise of the radar altimeter are not saved. -/
theorem radarAltimeterFromJson_toJson (r : SensorConfig RadarAltimeterOptions) :
    radarAltimeterFromJson (radarAltimeterToJson r)
      = .ok { r with options := { r.options with terrainElevationM := 0, sigmaM := none } } := by
  simp [radarAltimeterFromJson, radarAltimeterToJson]

/-- The noise of an external pose or velocity is not saved. -/
theorem externalPoseFromJson_toJson (e : SensorConfig ExternalPoseOptions) :
    externalPoseFromJson (externalPoseToJson e)
      = .ok { e with options :=
          { e.options with positionSigmaM := none, orientationSigmaRad := none } } := by
  simp [externalPoseFromJson, externalPoseToJson]

@[inherit_doc externalPoseFromJson_toJson]
theorem externalVelocityFromJson_toJson (e : SensorConfig ExternalVelocityOptions) :
    externalVelocityFromJson (externalVelocityToJson e)
      = .ok { e with options := { e.options with
          sigmaLinearMps := none
          sigmaAngularRadps := none
          latestGyroRadps := ![0, 0, 0] } } := by
  simp [externalVelocityFromJson, externalVelocityToJson]

/-- Every backend has a text of its own. -/
theorem backendFromJson_toJson (b : EstimatorBackendChoice) :
    backendFromJson (backendToJson b) = .ok b := by
  cases b <;> rfl

/-- What is loaded of the sensor blocks. -/
def Sensors.saved (s : Sensors) : Sensors :=
  { s with
    gnss := { s.gnss with tightlyCoupled := { s.gnss.tightlyCoupled with minSatellites := 4 } }
    starTracker := { s.starTracker with
      options := { s.starTracker.options with starTrackerToBody := {} } }
    wheelOdometry := { s.wheelOdometry with
      options := { s.wheelOdometry.options with latestGyroRadps := ![0, 0, 0] } }
    radarAltimeter := { s.radarAltimeter with
      options := { s.radarAltimeter.options with terrainElevationM := 0, sigmaM := none } }
    externalPose := { s.externalPose with
      options :=
        { s.externalPose.options with positionSigmaM := none, orientationSigmaRad := none } }
    externalVelocity := { s.externalVelocity with
      options := { s.externalVelocity.options with
        sigmaLinearMps := none
        sigmaAngularRadps := none
        latestGyroRadps := ![0, 0, 0] } } }

/-- **The navigation block** is loaded as it was saved, block by block. -/
theorem navFromJson_toJson (cfg : NavigationSystemConfig Sensors) :
    navFromJson (navToJson cfg) = .ok { cfg with sensors := cfg.sensors.saved } := by
  simp [navFromJson, navToJson, backendFromJson_toJson, imuFromJson_toJson, gnssFromJson_toJson,
    barometerFromJson_toJson, magnetometerFromJson_toJson, starTrackerFromJson_toJson,
    wheelOdometryFromJson_toJson, radarAltimeterFromJson_toJson, rangeFinderFromJson_toJson,
    opticalFlowFromJson_toJson, dvlFromJson_toJson, echoSounderFromJson_toJson,
    airspeedFromJson_toJson, externalPoseFromJson_toJson, externalVelocityFromJson_toJson,
    externalOdometryFromJson_toJson, aidingSolutionFromJson_toJson, ukfSigmaFromJson_toJson,
    Sensors.saved]

/-! ### What survives -/

/-- The members that are neither written nor read are at their defaults. -/
structure Sensors.Survives (s : Sensors) : Prop where
  minSatellites : s.gnss.tightlyCoupled.minSatellites = 4
  starTrackerToBody : s.starTracker.options.starTrackerToBody = {}
  wheelGyro : s.wheelOdometry.options.latestGyroRadps = ![0, 0, 0]
  radarTerrain : s.radarAltimeter.options.terrainElevationM = 0
  radarSigma : s.radarAltimeter.options.sigmaM = none
  posePositionSigma : s.externalPose.options.positionSigmaM = none
  poseOrientationSigma : s.externalPose.options.orientationSigmaRad = none
  velocityLinearSigma : s.externalVelocity.options.sigmaLinearMps = none
  velocityAngularSigma : s.externalVelocity.options.sigmaAngularRadps = none
  velocityGyro : s.externalVelocity.options.latestGyroRadps = ![0, 0, 0]

/-- Nothing else is changed. -/
theorem Sensors.saved_eq_iff (s : Sensors) : s.saved = s ↔ s.Survives := by
  constructor
  · intro h
    rw [← h]
    constructor <;> rfl
  · intro h
    have hpose : ∀ o : ExternalPoseOptions, o.positionSigmaM = none →
        o.orientationSigmaRad = none →
        { o with positionSigmaM := none, orientationSigmaRad := none } = o := by
      rintro ⟨⟩ ⟨⟩ ⟨⟩
      rfl
    have hvelocity : ∀ o : ExternalVelocityOptions, o.sigmaLinearMps = none →
        o.sigmaAngularRadps = none → o.latestGyroRadps = ![0, 0, 0] →
        { o with
          sigmaLinearMps := none
          sigmaAngularRadps := none
          latestGyroRadps := ![0, 0, 0] } = o := by
      rintro ⟨⟩ ⟨⟩ ⟨⟩ ⟨⟩
      rfl
    rw [saved, hpose _ h.posePositionSigma h.poseOrientationSigma,
      hvelocity _ h.velocityLinearSigma h.velocityAngularSigma h.velocityGyro, ← h.minSatellites,
      ← h.starTrackerToBody, ← h.wheelGyro, ← h.radarTerrain, ← h.radarSigma]

/-- A default constructed navigation block. -/
def navDefault : NavigationSystemConfig Sensors where
  sensors := {}

end Config

namespace SessionConfig

open Json Config

attribute [local simp] valueDouble valueString valueInt valueUInt16 contains Json.get
  find?_cons_self find?_cons_of_ne ok_bind ok_map pure Except.pure

/-- The range of `int`. -/
def IsInt (n : ℤ) : Prop := -2147483648 ≤ n ∧ n < 2147483648

instance (n : ℤ) : Decidable (IsInt n) := inferInstanceAs (Decidable (_ ∧ _))

/-- What is loaded of a configuration. -/
def saved (c : SessionConfig Sensors) : SessionConfig Sensors :=
  { c with nav := { c.nav with sensors := c.nav.sensors.saved } }

/-- **A configuration** is loaded as it was saved. -/
theorem fromJson_toJson (c : SessionConfig Sensors) (hipc : IsInt c.ipc.maxClients)
    (hws : IsInt c.ws.maxClients) : fromJson navDefault navFromJson c.toJson = .ok c.saved := by
  have hdataset : datasetFromJson c.toJson = .ok c.dataset := by
    simp [datasetFromJson, toJson]
  have hipc' : ipcFromJson c.toJson = .ok c.ipc := by
    simp [ipcFromJson, toJson, toInt_int hipc]
  have hws' : wsFromJson c.toJson = .ok c.ws := by
    simp [wsFromJson, toJson, toInt_int hws]
  have hspeed : c.toJson.valueDouble "playback_speed" 1 = .ok c.playbackSpeed := by
    simp [toJson]
  have hcontains : c.toJson.contains "nav" = true := by
    simp [toJson]
  have hget : c.toJson.get "nav" = navToJson c.nav := by
    simp [toJson]
  simp only [fromJson, hcontains, hget, navFromJson_toJson, hdataset, hipc', hws', hspeed]
  rfl

/-- **The configurations that survive** saving and loading are those with the members that are
    neither written nor read at their defaults. -/
theorem fromJson_toJson_eq_iff (c : SessionConfig Sensors) (hipc : IsInt c.ipc.maxClients)
    (hws : IsInt c.ws.maxClients) :
    fromJson navDefault navFromJson c.toJson = .ok c ↔ c.nav.sensors.Survives := by
  rw [fromJson_toJson c hipc hws, ← Sensors.saved_eq_iff]
  constructor
  · intro h
    have hsaved : c.saved = c := Except.ok.inj h
    exact congrArg (fun c => c.nav.sensors) hsaved
  · intro h
    rw [saved, h]

/-- A survey vessel: the unscented filter over pseudoranges, barometer, DVL and external poses, with
    options that are not the defaults. -/
def surveyConfig : SessionConfig Sensors where
  nav := {
    backend := .ukf
    sensors := {
      imu := { accelNoiseDensity := 1 / 500 }
      gnss := {
        enabled := true
        mode := .tightlyCoupled
        tightlyCoupled := { basePseudorangeSigmaM := 2, innovationGateSigma := 5 } }
      barometer := { enabled := true, options := { altitudeSigmaM := some (3 / 2) } }
      dvl := {
        enabled := true
        options := {
          dvlToBodyRotation := ![![0, 1, 0], ![-1, 0, 0], ![0, 0, 1]]
          sigmaMps := some (1 / 20) } }
      externalPose := { enabled := true, options := { useOrientation := false } }
      ukfSigmaParams := { alpha := 1 / 2 }
      maxImuDtS := 1 / 10 } }
  dataset := { path := "survey.csv" }
  ipc := { maxClients := 2 }
  ws := { port := 9000, uiPath := "ui/survey.html" }
  playbackSpeed := 5 / 2

/-- It survives. -/
theorem fromJson_toJson_eq_iff_survey :
    fromJson navDefault navFromJson surveyConfig.toJson = .ok surveyConfig :=
  (fromJson_toJson_eq_iff surveyConfig (by decide) (by decide)).mpr
    ⟨rfl, rfl, rfl, rfl, rfl, rfl, rfl, rfl, rfl, rfl⟩

/-- **Terrain lost.** A radar altimeter over terrain at 120 m is loaded with the terrain at
    zero. -/
theorem terrain_not_saved :
    ¬ ∀ c : SessionConfig Sensors, IsInt c.ipc.maxClients → IsInt c.ws.maxClients →
      fromJson navDefault navFromJson c.toJson = .ok c := by
  intro h
  let radar : SensorConfig RadarAltimeterOptions := {
    enabled := true
    options := { terrainElevationM := 120 } }
  let c : SessionConfig Sensors := { nav := { sensors := { radarAltimeter := radar } } }
  have hloaded := h c (by decide) (by decide)
  rw [fromJson_toJson c (by decide) (by decide)] at hloaded
  have hterrain : (0 : ℚ) = 120 := congrArg
    (fun c => c.nav.sensors.radarAltimeter.options.terrainElevationM) (Except.ok.inj hloaded)
  exact absurd hterrain (by decide)

end SessionConfig

end FalconGuide
