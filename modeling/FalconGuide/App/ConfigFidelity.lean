import FalconGuide.App.JsonFidelity

namespace FalconGuide

open Lib

/-!
# What a configuration keeps of its text

`FromJson` and then `ToJson`, compared with the input: every value is kept, except where the code
falls back on a default, converts without a check or rounds an integer to a `double`.

* `Config.IsFaithfulBarometer`, … — the condition on one block, and
  `Config.barometerFromJson_keeps_iff`, … — that it is exact;
* `SessionConfig.Faithful` — the condition on the input;
* `SessionConfig.keeps_iff` — that condition is exact.
-/

namespace Config

open Json

variable {j : Json}

/-! ### Blocks -/

/-- `imu` is an object, in which nothing is rounded. -/
def IsFaithfulImu (j : Json) : Prop :=
  j.IsObject ∧ j.ExactAt ["accel_noise_density", "gyro_noise_density", "accel_random_walk",
    "gyro_random_walk"]

/-- What is no object is read as the defaults. -/
theorem imuFromJson_keeps_iff {c : ImuNoiseModel} (h : imuFromJson j = .ok c) :
    Keeps j (imuToJson c) ↔ IsFaithfulImu j := by
  simp only [imuFromJson, bind_eq_ok, pure_eq_ok] at h
  obtain ⟨_, h0, _, h1, _, h2, _, h3, rfl⟩ := h
  simp [imuToJson, IsFaithfulImu, keeps_obj_iff, readDouble_keeps_iff h0, readDouble_keeps_iff h1,
    readDouble_keeps_iff h2, readDouble_keeps_iff h3]

/-- `loosely_coupled` is an object, in which nothing is rounded. -/
def IsFaithfulLooselyCoupled (j : Json) : Prop :=
  j.IsObject ∧ j.ExactAt ["position_sigma_m", "velocity_sigma_mps", "position_gate"]

@[inherit_doc imuFromJson_keeps_iff]
theorem looselyCoupledFromJson_keeps_iff {c : GnssLooselyCoupledOptions}
    (h : looselyCoupledFromJson j = .ok c) :
    Keeps j (looselyCoupledToJson c) ↔ IsFaithfulLooselyCoupled j := by
  simp only [looselyCoupledFromJson, bind_eq_ok, pure_eq_ok] at h
  obtain ⟨_, h0, _, h1, _, h2, rfl⟩ := h
  simp [looselyCoupledToJson, IsFaithfulLooselyCoupled, keeps_obj_iff, readOptDouble_keeps_iff h0,
    readOptDouble_keeps_iff h1, readDouble_keeps_iff h2]

/-- `tightly_coupled` is an object, in which nothing is rounded. -/
def IsFaithfulTightlyCoupled (j : Json) : Prop :=
  j.IsObject ∧ j.ExactAt ["base_pseudorange_sigma_m", "pseudorange_noise_floor_m",
    "base_doppler_sigma_mps", "innovation_gate_sigma"]

@[inherit_doc imuFromJson_keeps_iff]
theorem tightlyCoupledFromJson_keeps_iff {c : GnssTightlyCoupledOptions}
    (h : tightlyCoupledFromJson j = .ok c) :
    Keeps j (tightlyCoupledToJson c) ↔ IsFaithfulTightlyCoupled j := by
  simp only [tightlyCoupledFromJson, bind_eq_ok, pure_eq_ok] at h
  obtain ⟨_, h0, _, h1, _, h2, _, h3, rfl⟩ := h
  simp [tightlyCoupledToJson, IsFaithfulTightlyCoupled, keeps_obj_iff, readDouble_keeps_iff h0,
    readDouble_keeps_iff h1, readDouble_keeps_iff h2, readDouble_keeps_iff h3]

/-- Nothing in `barometer` is rounded. -/
def IsFaithfulBarometer (j : Json) : Prop :=
  j.ExactAt ["altitude_sigma_m", "isa_sea_level_pressure_pa", "innovation_gate"]

/-- `value` throws on what is no object. -/
theorem barometerFromJson_keeps_iff {c : SensorConfig BarometerOptions}
    (h : barometerFromJson j = .ok c) : Keeps j (barometerToJson c) ↔ IsFaithfulBarometer j := by
  simp only [barometerFromJson, bind_eq_ok, pure_eq_ok] at h
  obtain ⟨_, h0, _, h1, _, h2, _, h3, rfl⟩ := h
  simp [barometerToJson, IsFaithfulBarometer, keeps_obj_iff, isObject_of_value h0,
    valueBool_keeps h0, readOptDouble_keeps_iff h1, valueDouble_keeps_iff h2,
    valueDouble_keeps_iff h3]

/-- Nothing in `magnetometer` is rounded, and the vector has its length. -/
def IsFaithfulMagnetometer (j : Json) : Prop :=
  j.At "reference_field_enu_tesla" (IsArray 3) ∧ j.ExactAt ["sigma_tesla", "innovation_gate"]

/-- What is no array of three numbers is replaced or shortened. -/
theorem magnetometerFromJson_keeps_iff {c : SensorConfig MagnetometerOptions}
    (h : magnetometerFromJson j = .ok c) :
    Keeps j (magnetometerToJson c) ↔ IsFaithfulMagnetometer j := by
  simp only [magnetometerFromJson, bind_eq_ok, pure_eq_ok] at h
  obtain ⟨_, h0, _, h1, _, h2, _, h3, rfl⟩ := h
  simp [magnetometerToJson, IsFaithfulMagnetometer, keeps_obj_iff, isObject_of_value h0,
    valueBool_keeps h0, readVec3_keeps_iff h1, readOptDouble_keeps_iff h2, valueDouble_keeps_iff h3]

/-- Nothing in `star_tracker` is rounded. -/
def IsFaithfulStarTracker (j : Json) : Prop :=
  j.ExactAt ["sigma_yaw_rad", "sigma_pitch_rad", "sigma_roll_rad", "innovation_gate"]

@[inherit_doc barometerFromJson_keeps_iff]
theorem starTrackerFromJson_keeps_iff {c : SensorConfig StarTrackerOptions}
    (h : starTrackerFromJson j = .ok c) :
    Keeps j (starTrackerToJson c) ↔ IsFaithfulStarTracker j := by
  simp only [starTrackerFromJson, bind_eq_ok, pure_eq_ok] at h
  obtain ⟨_, h0, _, h1, _, h2, _, h3, _, h4, _, h5, rfl⟩ := h
  simp [starTrackerToJson, IsFaithfulStarTracker, keeps_obj_iff, isObject_of_value h0,
    valueBool_keeps h0, readDouble_keeps_iff h1, readDouble_keeps_iff h2, readDouble_keeps_iff h3,
    readBool_keeps h4, readDouble_keeps_iff h5]

/-- Nothing in `wheel_odometry` is rounded. -/
def IsFaithfulWheelOdometry (j : Json) : Prop :=
  j.ExactAt ["sigma_linear_mps", "sigma_angular_radps", "innovation_gate"]

@[inherit_doc barometerFromJson_keeps_iff]
theorem wheelOdometryFromJson_keeps_iff {c : SensorConfig WheelOdometryOptions}
    (h : wheelOdometryFromJson j = .ok c) :
    Keeps j (wheelOdometryToJson c) ↔ IsFaithfulWheelOdometry j := by
  simp only [wheelOdometryFromJson, bind_eq_ok, pure_eq_ok] at h
  obtain ⟨_, h0, _, h1, _, h2, _, h3, _, h4, rfl⟩ := h
  simp [wheelOdometryToJson, IsFaithfulWheelOdometry, keeps_obj_iff, isObject_of_value h0,
    valueBool_keeps h0, readDouble_keeps_iff h1, readDouble_keeps_iff h2, readBool_keeps h3,
    readDouble_keeps_iff h4]

/-- Nothing in `radar_altimeter` is rounded. -/
def IsFaithfulRadarAltimeter (j : Json) : Prop := j.ExactAt ["innovation_gate"]

@[inherit_doc barometerFromJson_keeps_iff]
theorem radarAltimeterFromJson_keeps_iff {c : SensorConfig RadarAltimeterOptions}
    (h : radarAltimeterFromJson j = .ok c) :
    Keeps j (radarAltimeterToJson c) ↔ IsFaithfulRadarAltimeter j := by
  simp only [radarAltimeterFromJson, bind_eq_ok, pure_eq_ok] at h
  obtain ⟨_, h0, _, h1, rfl⟩ := h
  simp [radarAltimeterToJson, IsFaithfulRadarAltimeter, keeps_obj_iff, isObject_of_value h0,
    valueBool_keeps h0, readDouble_keeps_iff h1]

/-- Nothing in `range_finder` is rounded. -/
def IsFaithfulRangeFinder (j : Json) : Prop :=
  j.ExactAt ["expected_range_m", "terrain_elevation_m", "sigma_m", "innovation_gate"]

@[inherit_doc barometerFromJson_keeps_iff]
theorem rangeFinderFromJson_keeps_iff {c : SensorConfig RangeFinderOptions}
    (h : rangeFinderFromJson j = .ok c) :
    Keeps j (rangeFinderToJson c) ↔ IsFaithfulRangeFinder j := by
  simp only [rangeFinderFromJson, bind_eq_ok, pure_eq_ok] at h
  obtain ⟨_, h0, _, h1, _, h2, _, h3, _, h4, _, h5, rfl⟩ := h
  simp [rangeFinderToJson, IsFaithfulRangeFinder, keeps_obj_iff, isObject_of_value h0,
    valueBool_keeps h0, readDouble_keeps_iff h1, readBool_keeps h2, readDouble_keeps_iff h3,
    readOptDouble_keeps_iff h4, readDouble_keeps_iff h5]

/-- Nothing in `optical_flow` is rounded. -/
def IsFaithfulOpticalFlow (j : Json) : Prop :=
  j.ExactAt ["fallback_altitude_m", "sigma_radps", "innovation_gate"]

@[inherit_doc barometerFromJson_keeps_iff]
theorem opticalFlowFromJson_keeps_iff {c : SensorConfig OpticalFlowOptions}
    (h : opticalFlowFromJson j = .ok c) :
    Keeps j (opticalFlowToJson c) ↔ IsFaithfulOpticalFlow j := by
  simp only [opticalFlowFromJson, bind_eq_ok, pure_eq_ok] at h
  obtain ⟨_, h0, _, h1, _, h2, _, h3, rfl⟩ := h
  simp [opticalFlowToJson, IsFaithfulOpticalFlow, keeps_obj_iff, isObject_of_value h0,
    valueBool_keeps h0, readDouble_keeps_iff h1, readDouble_keeps_iff h2, readDouble_keeps_iff h3]

/-- Nothing in `dvl` is rounded, and the matrix has its length. -/
def IsFaithfulDvl (j : Json) : Prop :=
  j.At "dvl_to_body_rotation" (IsArray 9) ∧ j.ExactAt ["sigma_mps", "innovation_gate"]

/-- What is no array of nine numbers is replaced or shortened. -/
theorem dvlFromJson_keeps_iff {c : SensorConfig DvlOptions} (h : dvlFromJson j = .ok c) :
    Keeps j (dvlToJson c) ↔ IsFaithfulDvl j := by
  simp only [dvlFromJson, bind_eq_ok, pure_eq_ok] at h
  obtain ⟨_, h0, _, h1, _, h2, _, h3, _, h4, rfl⟩ := h
  simp [dvlToJson, IsFaithfulDvl, keeps_obj_iff, isObject_of_value h0, valueBool_keeps h0,
    readMat3_keeps_iff h1, readBool_keeps h2, readOptDouble_keeps_iff h3, readDouble_keeps_iff h4]

/-- Nothing in `echo_sounder` is rounded. -/
def IsFaithfulEchoSounder (j : Json) : Prop :=
  j.ExactAt ["sound_speed_mps", "depth_origin_m", "sigma_m", "innovation_gate"]

@[inherit_doc barometerFromJson_keeps_iff]
theorem echoSounderFromJson_keeps_iff {c : SensorConfig EchoSounderOptions}
    (h : echoSounderFromJson j = .ok c) :
    Keeps j (echoSounderToJson c) ↔ IsFaithfulEchoSounder j := by
  simp only [echoSounderFromJson, bind_eq_ok, pure_eq_ok] at h
  obtain ⟨_, h0, _, h1, _, h2, _, h3, _, h4, rfl⟩ := h
  simp [echoSounderToJson, IsFaithfulEchoSounder, keeps_obj_iff, isObject_of_value h0,
    valueBool_keeps h0, readDouble_keeps_iff h1, readDouble_keeps_iff h2,
    readOptDouble_keeps_iff h3, readDouble_keeps_iff h4]

/-- Nothing in `airspeed` is rounded, and the vector has its length. -/
def IsFaithfulAirspeed (j : Json) : Prop :=
  j.At "wind_enu_mps" (IsArray 3) ∧ j.ExactAt ["sigma_mps", "innovation_gate"]

@[inherit_doc magnetometerFromJson_keeps_iff]
theorem airspeedFromJson_keeps_iff {c : SensorConfig AirspeedOptions}
    (h : airspeedFromJson j = .ok c) : Keeps j (airspeedToJson c) ↔ IsFaithfulAirspeed j := by
  simp only [airspeedFromJson, bind_eq_ok, pure_eq_ok] at h
  obtain ⟨_, h0, _, h1, _, h2, _, h3, rfl⟩ := h
  simp [airspeedToJson, IsFaithfulAirspeed, keeps_obj_iff, isObject_of_value h0, valueBool_keeps h0,
    readVec3_keeps_iff h1, readDouble_keeps_iff h2, readDouble_keeps_iff h3]

/-- Nothing in `external_pose` is rounded. -/
def IsFaithfulExternalPose (j : Json) : Prop := j.ExactAt ["innovation_gate"]

@[inherit_doc barometerFromJson_keeps_iff]
theorem externalPoseFromJson_keeps_iff {c : SensorConfig ExternalPoseOptions}
    (h : externalPoseFromJson j = .ok c) :
    Keeps j (externalPoseToJson c) ↔ IsFaithfulExternalPose j := by
  simp only [externalPoseFromJson, bind_eq_ok, pure_eq_ok] at h
  obtain ⟨_, h0, _, h1, _, h2, _, h3, rfl⟩ := h
  simp [externalPoseToJson, IsFaithfulExternalPose, keeps_obj_iff, isObject_of_value h0,
    valueBool_keeps h0, readBool_keeps h1, readBool_keeps h2, readDouble_keeps_iff h3]

/-- Nothing in `external_velocity` is rounded. -/
def IsFaithfulExternalVelocity (j : Json) : Prop := j.ExactAt ["innovation_gate"]

@[inherit_doc barometerFromJson_keeps_iff]
theorem externalVelocityFromJson_keeps_iff {c : SensorConfig ExternalVelocityOptions}
    (h : externalVelocityFromJson j = .ok c) :
    Keeps j (externalVelocityToJson c) ↔ IsFaithfulExternalVelocity j := by
  simp only [externalVelocityFromJson, bind_eq_ok, pure_eq_ok] at h
  obtain ⟨_, h0, _, h1, _, h2, rfl⟩ := h
  simp [externalVelocityToJson, IsFaithfulExternalVelocity, keeps_obj_iff, isObject_of_value h0,
    valueBool_keeps h0, readBool_keeps h1, readDouble_keeps_iff h2]

/-- Nothing in `external_odometry` is rounded. -/
def IsFaithfulExternalOdometry (j : Json) : Prop :=
  j.ExactAt ["position_sigma_m", "velocity_sigma_mps", "orientation_sigma_rad", "innovation_gate"]

@[inherit_doc barometerFromJson_keeps_iff]
theorem externalOdometryFromJson_keeps_iff {c : SensorConfig ExternalOdometryOptions}
    (h : externalOdometryFromJson j = .ok c) :
    Keeps j (externalOdometryToJson c) ↔ IsFaithfulExternalOdometry j := by
  simp only [externalOdometryFromJson, bind_eq_ok, pure_eq_ok] at h
  obtain ⟨_, h0, _, h1, _, h2, _, h3, _, h4, _, h5, _, h6, _, h7, rfl⟩ := h
  simp [externalOdometryToJson, IsFaithfulExternalOdometry, keeps_obj_iff, isObject_of_value h0,
    valueBool_keeps h0, readBool_keeps h1, readBool_keeps h2, readBool_keeps h3,
    readOptDouble_keeps_iff h4, readOptDouble_keeps_iff h5, readOptDouble_keeps_iff h6,
    readDouble_keeps_iff h7]

/-- Nothing in `aiding_solution` is rounded. -/
def IsFaithfulAidingSolution (j : Json) : Prop :=
  j.ExactAt ["min_match_score", "position_sigma_m", "velocity_sigma_mps", "attitude_sigma_rad",
    "innovation_gate"]

@[inherit_doc barometerFromJson_keeps_iff]
theorem aidingSolutionFromJson_keeps_iff {c : SensorConfig AidingSolutionOptions}
    (h : aidingSolutionFromJson j = .ok c) :
    Keeps j (aidingSolutionToJson c) ↔ IsFaithfulAidingSolution j := by
  simp only [aidingSolutionFromJson, bind_eq_ok, pure_eq_ok] at h
  obtain ⟨_, h0, _, h1, _, h2, _, h3, _, h4, _, h5, rfl⟩ := h
  simp [aidingSolutionToJson, IsFaithfulAidingSolution, keeps_obj_iff, isObject_of_value h0,
    valueBool_keeps h0, readDouble_keeps_iff h1, readOptDouble_keeps_iff h2,
    readOptDouble_keeps_iff h3, readOptDouble_keeps_iff h4, readDouble_keeps_iff h5]

/-- `ukf_sigma` is an object, in which nothing is rounded. -/
def IsFaithfulUkfSigma (j : Json) : Prop := j.IsObject ∧ j.ExactAt ["alpha", "beta", "kappa"]

@[inherit_doc imuFromJson_keeps_iff]
theorem ukfSigmaFromJson_keeps_iff {c : MerweSigmaParams} (h : ukfSigmaFromJson j = .ok c) :
    Keeps j (ukfSigmaToJson c) ↔ IsFaithfulUkfSigma j := by
  simp only [ukfSigmaFromJson, bind_eq_ok, pure_eq_ok] at h
  obtain ⟨_, h0, _, h1, _, h2, rfl⟩ := h
  simp [ukfSigmaToJson, IsFaithfulUkfSigma, keeps_obj_iff, readDouble_keeps_iff h0,
    readDouble_keeps_iff h1, readDouble_keeps_iff h2]

/-! ### The navigation block -/

/-- One of these texts. -/
def IsOneOf (texts : List String) (j : Json) : Prop := ∃ text ∈ texts, j = str text

/-- A `gnss` block with nothing in it that is replaced. -/
structure IsFaithfulGnss (gnss : Json) : Prop where
  mode : gnss.At "mode" (IsOneOf ["LooselyCoupled", "TightlyCoupled"])
  looselyCoupled : gnss.At "loosely_coupled" IsFaithfulLooselyCoupled
  tightlyCoupled : gnss.At "tightly_coupled" IsFaithfulTightlyCoupled

/-- A `nav` block with nothing in it that is replaced. -/
structure IsFaithfulNav (nav : Json) : Prop where
  object : nav.IsObject
  backend : nav.At "backend" (IsOneOf ["EKF", "UKF", "Ceres", "GTSAM"])
  times : nav.ExactAt ["dead_reckoning_threshold_s", "min_imu_dt_s", "max_imu_dt_s"]
  imu : nav.At "imu" IsFaithfulImu
  gnss : nav.At "gnss" IsFaithfulGnss
  barometer : nav.At "barometer" IsFaithfulBarometer
  magnetometer : nav.At "magnetometer" IsFaithfulMagnetometer
  starTracker : nav.At "star_tracker" IsFaithfulStarTracker
  wheelOdometry : nav.At "wheel_odometry" IsFaithfulWheelOdometry
  radarAltimeter : nav.At "radar_altimeter" IsFaithfulRadarAltimeter
  rangeFinder : nav.At "range_finder" IsFaithfulRangeFinder
  opticalFlow : nav.At "optical_flow" IsFaithfulOpticalFlow
  dvl : nav.At "dvl" IsFaithfulDvl
  echoSounder : nav.At "echo_sounder" IsFaithfulEchoSounder
  airspeed : nav.At "airspeed" IsFaithfulAirspeed
  externalPose : nav.At "external_pose" IsFaithfulExternalPose
  externalVelocity : nav.At "external_velocity" IsFaithfulExternalVelocity
  externalOdometry : nav.At "external_odometry" IsFaithfulExternalOdometry
  aidingSolution : nav.At "aiding_solution" IsFaithfulAidingSolution
  ukfSigma : nav.At "ukf_sigma" IsFaithfulUkfSigma

/-- A text is kept as what it selects if it is the name of it. -/
theorem str_eq_iff_isOneOf {text output : String} {texts : List String} (houtput : output ∈ texts)
    (htext : text ∈ texts → text = output) : str text = str output ↔ IsOneOf texts (str text) := by
  constructor
  · intro h
    cases h
    exact ⟨text, houtput, rfl⟩
  · rintro ⟨_, hmem, ⟨⟩⟩
    rw [htext hmem]

/-- A backend is kept when its text is one of those that are written. -/
theorem backendFromJson_keeps_iff {b : EstimatorBackendChoice} (h : backendFromJson j = .ok b) :
    Keeps j (backendToJson b) ↔ IsOneOf ["EKF", "UKF", "Ceres", "GTSAM"] j := by
  obtain ⟨text, htext, hb⟩ := bind_eq_ok.mp h
  cases pure_eq_ok.mp hb
  rw [toStr_eq_ok htext]
  split
  · rename_i hukf
    rw [hukf, backendToJson, keeps_str]
    exact str_eq_iff_isOneOf (by decide) fun _ => rfl
  · rename_i hukf
    split
    · rename_i hceres
      rw [hceres, backendToJson, keeps_str]
      exact str_eq_iff_isOneOf (by decide) fun _ => rfl
    · rename_i hceres
      split
      · rename_i hgtsam
        rw [hgtsam, backendToJson, keeps_str]
        exact str_eq_iff_isOneOf (by decide) fun _ => rfl
      · rename_i hgtsam
        rw [backendToJson, keeps_str]
        exact str_eq_iff_isOneOf (by decide) (by simp [hukf, hceres, hgtsam])

/-- The GNSS block is kept when its mode and its numbers are. -/
theorem gnssFromJson_keeps_iff {c : GnssSensorConfig} (h : gnssFromJson j = .ok c) :
    Keeps j (gnssToJson c) ↔ IsFaithfulGnss j := by
  simp only [gnssFromJson, bind_eq_ok, pure_eq_ok] at h
  obtain ⟨_, henabled, mode, hmode, _, hloosely, _, htightly, rfl⟩ := h
  have hname : j.KeepsMember "mode" (str (if (if mode = "TightlyCoupled" then
      GnssIntegrationMode.tightlyCoupled else .looselyCoupled) = .tightlyCoupled then
        "TightlyCoupled" else "LooselyCoupled")) ↔
      j.At "mode" (IsOneOf ["LooselyCoupled", "TightlyCoupled"]) := by
    refine keepsMember_of_value hmode fun v hv => ?_
    rw [toStr_eq_ok hv, keeps_str]
    by_cases htc : mode = "TightlyCoupled"
    · rw [if_pos htc, if_pos rfl]
      exact str_eq_iff_isOneOf (by decide) fun _ => htc
    · rw [if_neg htc, if_neg (by decide)]
      exact str_eq_iff_isOneOf (by decide) (by simp [htc])
  have hloosely' := keepsMember_of_member hloosely fun _ => looselyCoupledFromJson_keeps_iff
  have htightly' := keepsMember_of_member htightly fun _ => tightlyCoupledFromJson_keeps_iff
  rw [gnssToJson, keeps_obj_iff]
  constructor
  · rintro ⟨-, -, h1, h2, h3⟩
    exact ⟨hname.mp h1, hloosely'.mp h2, htightly'.mp h3⟩
  · rintro ⟨h1, h2, h3⟩
    exact ⟨isObject_of_value henabled, valueBool_keeps henabled, hname.mpr h1, hloosely'.mpr h2,
      htightly'.mpr h3⟩

/-- **The navigation block** is kept when all of its blocks are. -/
theorem navFromJson_keeps_iff {c : NavigationSystemConfig Sensors} (h : navFromJson j = .ok c) :
    Keeps j (navToJson c) ↔ IsFaithfulNav j := by
  simp only [navFromJson, bind_eq_ok, pure_eq_ok] at h
  obtain ⟨_, hbackend, _, hthreshold, _, hmin, _, hmax, _, himu, _, hgnss, _, hbarometer, _,
    hmagnetometer, _, hstar, _, hwheel, _, hradar, _, hrange, _, hflow, _, hdvl, _, hecho, _,
    hairspeed, _, hpose, _, hvelocity, _, hodometry, _, haiding, _, hukf, rfl⟩ := h
  have hbackend' := keepsMember_of_member hbackend fun _ => backendFromJson_keeps_iff
  have himu' := keepsMember_of_member himu fun _ => imuFromJson_keeps_iff
  have hgnss' := keepsMember_of_member hgnss fun _ => gnssFromJson_keeps_iff
  have hbarometer' := keepsMember_of_member hbarometer fun _ => barometerFromJson_keeps_iff
  have hmagnetometer' := keepsMember_of_member hmagnetometer fun _ => magnetometerFromJson_keeps_iff
  have hstar' := keepsMember_of_member hstar fun _ => starTrackerFromJson_keeps_iff
  have hwheel' := keepsMember_of_member hwheel fun _ => wheelOdometryFromJson_keeps_iff
  have hradar' := keepsMember_of_member hradar fun _ => radarAltimeterFromJson_keeps_iff
  have hrange' := keepsMember_of_member hrange fun _ => rangeFinderFromJson_keeps_iff
  have hflow' := keepsMember_of_member hflow fun _ => opticalFlowFromJson_keeps_iff
  have hdvl' := keepsMember_of_member hdvl fun _ => dvlFromJson_keeps_iff
  have hecho' := keepsMember_of_member hecho fun _ => echoSounderFromJson_keeps_iff
  have hairspeed' := keepsMember_of_member hairspeed fun _ => airspeedFromJson_keeps_iff
  have hpose' := keepsMember_of_member hpose fun _ => externalPoseFromJson_keeps_iff
  have hvelocity' := keepsMember_of_member hvelocity fun _ => externalVelocityFromJson_keeps_iff
  have hodometry' := keepsMember_of_member hodometry fun _ => externalOdometryFromJson_keeps_iff
  have haiding' := keepsMember_of_member haiding fun _ => aidingSolutionFromJson_keeps_iff
  have hukf' := keepsMember_of_member hukf fun _ => ukfSigmaFromJson_keeps_iff
  have hthreshold' := readDouble_keeps_iff hthreshold
  have hmin' := readDouble_keeps_iff hmin
  have hmax' := readDouble_keeps_iff hmax
  rw [navToJson, keeps_obj_iff]
  constructor
  · rintro ⟨hobject, h1, t1, t2, t3, h2, h3, h4, h5, h6, h7, h8, h9, h10, h11, h12, h13, h14, h15,
      h16, h17, h18⟩
    have htimes : j.ExactAt ["dead_reckoning_threshold_s", "min_imu_dt_s", "max_imu_dt_s"] := by
      simp [hthreshold'.mp t1, hmin'.mp t2, hmax'.mp t3]
    exact ⟨hobject, hbackend'.mp h1, htimes, himu'.mp h2, hgnss'.mp h3, hbarometer'.mp h4,
      hmagnetometer'.mp h5, hstar'.mp h6, hwheel'.mp h7, hradar'.mp h8, hrange'.mp h9,
      hflow'.mp h10, hdvl'.mp h11, hecho'.mp h12, hairspeed'.mp h13, hpose'.mp h14,
      hvelocity'.mp h15, hodometry'.mp h16, haiding'.mp h17, hukf'.mp h18⟩
  · rintro ⟨hobject, h1, htimes, h2, h3, h4, h5, h6, h7, h8, h9, h10, h11, h12, h13, h14, h15, h16,
      h17, h18⟩
    rw [exactAt_cons, exactAt_cons, exactAt_cons] at htimes
    obtain ⟨t1, t2, t3, -⟩ := htimes
    exact ⟨hobject, hbackend'.mpr h1, hthreshold'.mpr t1, hmin'.mpr t2, hmax'.mpr t3, himu'.mpr h2,
      hgnss'.mpr h3, hbarometer'.mpr h4, hmagnetometer'.mpr h5, hstar'.mpr h6, hwheel'.mpr h7,
      hradar'.mpr h8, hrange'.mpr h9, hflow'.mpr h10, hdvl'.mpr h11, hecho'.mpr h12,
      hairspeed'.mpr h13, hpose'.mpr h14, hvelocity'.mpr h15, hodometry'.mpr h16, haiding'.mpr h17,
      hukf'.mpr h18⟩

end Config

namespace SessionConfig

open Json Config

variable {j : Json}

/-- A configuration with nothing in it that is replaced, wrapped or cut. -/
structure Faithful (j : Json) : Prop where
  nav : j.At "nav" IsFaithfulNav
  ipcMaxClients : j.At "ipc" (At · "max_clients" (IsInteger (-2147483648) 2147483647))
  wsPort : j.At "ws" (At · "port" (IsInteger 0 65535))
  wsMaxClients : j.At "ws" (At · "max_clients" (IsInteger (-2147483648) 2147483647))
  playbackSpeed : j.ExactAt ["playback_speed"]

/-- The `dataset` block is kept, whatever it says. -/
theorem datasetFromJson_keeps {c : DatasetConfig} (h : datasetFromJson j = .ok c) :
    j.KeepsMember "dataset" (obj [("type", str c.type), ("path", str c.path)]) := by
  have hmember : j.member "dataset" {} (fun jd => do
      return { type := ← jd.valueString "type" "csv", path := ← jd.valueString "path" "" })
        = .ok c := h
  refine keepsMember_of_keeps hmember fun v hv => ?_
  simp only [bind_eq_ok, pure_eq_ok] at hv
  obtain ⟨_, h0, _, h1, rfl⟩ := hv
  exact keeps_obj_iff.mpr ⟨isObject_of_value h0, valueString_keeps h0, valueString_keeps h1⟩

/-- The `ipc` block is kept when the client limit is an `int`. -/
theorem ipcFromJson_keeps_iff {c : IpcConfig} (h : ipcFromJson j = .ok c) :
    j.KeepsMember "ipc" (obj [("socket_path", str c.socketPath), ("max_clients", int c.maxClients)])
      ↔ j.At "ipc" (At · "max_clients" (IsInteger (-2147483648) 2147483647)) := by
  have hmember : j.member "ipc" {} (fun ji => do
      return { socketPath := ← ji.valueString "socket_path" "/tmp/falconguide.sock",
               maxClients := ← ji.valueInt "max_clients" 8 }) = .ok c := h
  refine keepsMember_of_member hmember fun v hv => ?_
  simp only [bind_eq_ok, pure_eq_ok] at hv
  obtain ⟨_, h0, _, h1, rfl⟩ := hv
  rw [keeps_obj_iff, ← valueInt_keeps_iff h1]
  constructor
  · rintro ⟨-, -, h⟩
    exact h
  · intro h
    exact ⟨isObject_of_value h0, valueString_keeps h0, h⟩

/-- The `ws` block is kept when the port and the client limit are in range. -/
theorem wsFromJson_keeps_iff {c : WsConfig} (h : wsFromJson j = .ok c) :
    j.KeepsMember "ws" (obj [("port", int c.port.toNat), ("max_clients", int c.maxClients),
        ("ui_path", str c.uiPath)]) ↔
      j.At "ws" fun ws => ws.At "port" (IsInteger 0 65535) ∧
        ws.At "max_clients" (IsInteger (-2147483648) 2147483647) := by
  have hmember : j.member "ws" {} (fun jw => do
      return { port := ← jw.valueUInt16 "port" 8765, maxClients := ← jw.valueInt "max_clients" 16,
               uiPath := ← jw.valueString "ui_path" "ui/index.html" }) = .ok c := h
  refine keepsMember_of_member hmember fun v hv => ?_
  simp only [bind_eq_ok, pure_eq_ok] at hv
  obtain ⟨_, h0, _, h1, _, h2, rfl⟩ := hv
  rw [keeps_obj_iff, ← valueUInt16_keeps_iff h0, ← valueInt_keeps_iff h1]
  constructor
  · rintro ⟨-, hport, hclients, -⟩
    exact ⟨hport, hclients⟩
  · rintro ⟨hport, hclients⟩
    exact ⟨isObject_of_value h0, hport, hclients, valueString_keeps h2⟩

/-- The navigation block is a member like others. -/
theorem fromJson_eq (j : Json) : fromJson navDefault navFromJson j
    = Except.mapError ("SessionConfig::FromJson: " ++ ·) (do
        let nav ← j.member "nav" navDefault navFromJson
        return { nav, dataset := ← datasetFromJson j, ipc := ← ipcFromJson j,
                 ws := ← wsFromJson j, playbackSpeed := ← j.valueDouble "playback_speed" 1 }) := by
  rw [fromJson, member]
  cases j.contains "nav" <;> rfl

/-- **What is loaded is kept** exactly if nothing in it is replaced, wrapped or cut. -/
theorem keeps_iff {c : SessionConfig Sensors} (h : fromJson navDefault navFromJson j = .ok c) :
    Keeps j c.toJson ↔ Faithful j := by
  rw [fromJson_eq, mapError_eq_ok] at h
  simp only [bind_eq_ok, pure_eq_ok] at h
  obtain ⟨_, hnav, _, hdataset, _, hipc, _, hws, _, hspeed, rfl⟩ := h
  have hnav' := keepsMember_of_member hnav fun _ => navFromJson_keeps_iff
  have hipc' := ipcFromJson_keeps_iff hipc
  have hws' := wsFromJson_keeps_iff hws
  have hspeed' := valueDouble_keeps_iff hspeed
  rw [toJson, keeps_obj_iff]
  constructor
  · rintro ⟨-, h1, -, h2, h3, h4⟩
    exact ⟨hnav'.mp h1, hipc'.mp h2, fun ws hws => (hws'.mp h3 ws hws).1,
      fun ws hws => (hws'.mp h3 ws hws).2, exactAt_cons.mpr ⟨hspeed'.mp h4, exactAt_nil⟩⟩
  · rintro ⟨h1, h2, h3, h4, h5⟩
    exact ⟨isObject_of_value hspeed, hnav'.mpr h1, datasetFromJson_keeps hdataset, hipc'.mpr h2,
      hws'.mpr fun ws hws => ⟨h3 ws hws, h4 ws hws⟩, hspeed'.mpr (exactAt_cons.mp h5).1⟩

/-- The navigation block of a file, with integers, fractions and a vector. -/
def fileNavJson : Json := obj [
  ("backend", str "UKF"),
  ("max_imu_dt_s", num (1 / 8)),
  ("gnss", obj [("enabled", bool true), ("mode", str "TightlyCoupled")]),
  ("barometer", obj [("altitude_sigma_m", int 2)]),
  ("airspeed", obj [("enabled", bool true), ("wind_enu_mps", arr [int 5, num (-1 / 2), int 0])])]

/-- The file. -/
def fileJson : Json := obj [
  ("nav", fileNavJson),
  ("dataset", obj [("path", str "flight.csv")]),
  ("ws", obj [("port", int 9000)]),
  ("playback_speed", int 3)]

/-- What is loaded of a file is kept. -/
theorem keeps_iff_file : ∃ c, fromJson navDefault navFromJson fileJson = .ok c ∧
    Keeps fileJson c.toJson := by
  refine ⟨_, rfl, (keeps_iff rfl).mpr ?_⟩
  have hexact : ∀ n : ℤ, |n| < 2 ^ 53 → roundDouble (n : ℚ) = n := fun _ => roundDouble_intCast
  have h2 := hexact 2 (by norm_num)
  have h3 := hexact 3 (by norm_num)
  have h5 := hexact 5 (by norm_num)
  simp only [Int.cast_ofNat] at h2 h3 h5
  have hgnss : IsFaithfulGnss (obj [("enabled", bool true), ("mode", str "TightlyCoupled")]) := by
    constructor <;> simp [IsOneOf]
  have hnav : IsFaithfulNav fileNavJson := by
    constructor <;>
      simp [fileNavJson, IsObject, IsOneOf, hgnss, IsFaithfulBarometer, IsFaithfulAirspeed, IsArray,
        h2, h5]
  have hport : IsInteger 0 65535 (int 9000) := ⟨9000, rfl, by decide, by decide⟩
  constructor <;> simp [fileJson, hnav, hport, h3]

/-- The port `70000` is loaded as `4464`. -/
theorem not_keeps : ¬ ∀ (j : Json) (c : SessionConfig Sensors),
    fromJson navDefault navFromJson j = .ok c → Keeps j c.toJson := by
  intro h
  have hkeeps := h (obj [("ws", obj [("port", int 70000)])])
    { nav := navDefault, ws := { port := 4464 } } rfl
  obtain ⟨-, -, -, -, hws, -⟩ := keeps_obj_iff.mp hkeeps
  obtain ⟨-, hport, -⟩ := keeps_obj_iff.mp (hws _ rfl)
  have heq := keeps_int.mp (hport _ rfl)
  revert heq
  decide

end SessionConfig

end FalconGuide
