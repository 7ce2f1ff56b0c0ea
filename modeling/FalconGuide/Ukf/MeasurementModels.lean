import FalconGuide.Ukf.Estimator

namespace FalconGuide.Ukf

open Matrix

/-!
# The measurement models of the unscented filter

The fourteen models, each as its options and the functions of the interface.  Options with the
fields of those of the error-state filter are shared with it.

* altitude: `barometer`, `echoSounder`, `radarAltimeter`;
* body frame: `airspeed`, `dvl`, `externalVelocity`, `magnetometer`, `opticalFlow`,
  `wheelOdometry`;
* attitude: `starTracker`;
* ECEF: `aidingSolution`, `externalOdometry`, `externalPose`, `gnssLooselyCoupled`;
* `Shipped` — the models of this list; `Shipped.observe_eq_none` — each checks the validity.
-/

/-! ### Vectors and matrices -/

/-- `VectorXd::Constant(1, x)`. -/
def VectorXd.const (x : ℝ) : VectorXd := ⟨1, fun _ => x⟩

@[simp]
theorem VectorXd.head_const (x : ℝ) : (VectorXd.const x).head 1 = fun _ => x := head_mk _

/-- A vector in space. -/
def VectorXd.ofVec3 (v : Vec3) : VectorXd := ⟨3, v⟩

/-- Vectors in space, one after the other. -/
def VectorXd.stack (vs : List Vec3) : VectorXd where
  size := vs.length * 3
  val i := vs.getD (i.val / 3) 0 ⟨i.val % 3, Nat.mod_lt _ (by omega)⟩

/-- `MatrixXd::Constant(1, 1, x)`. -/
def MatrixXd.const (x : ℝ) : MatrixXd := ⟨1, fun _ _ => x⟩

@[simp]
theorem MatrixXd.corner_const (x : ℝ) : (MatrixXd.const x).corner 1 = x • 1 := by
  rw [const]
  refine (corner_mk _).trans ?_
  ext i j
  obtain rfl := Subsingleton.elim i j
  simp

/-- A 3 × 3 matrix. -/
def MatrixXd.ofMat3 (A : Mat3) : MatrixXd := ⟨3, A⟩

/-- 3 × 3 blocks on the diagonal. -/
def MatrixXd.blockDiagonal (As : List Mat3) : MatrixXd where
  size := As.length * 3
  val i j :=
    if i.val / 3 = j.val / 3 then
      As.getD (i.val / 3) 0 ⟨i.val % 3, Nat.mod_lt _ (by omega)⟩
        ⟨j.val % 3, Nat.mod_lt _ (by omega)⟩
    else 0

/-- `ctx.ltp ? ctx.ltp->ecef_to_enu_rotation() : Matrix3d::Identity()`. -/
noncomputable def rotationOf (ctx : UpdateContext) : Mat3 :=
  match ctx.ltp with
  | some ltp => ltp.ecefToEnuRotation
  | none => 1

/-- The velocity in the body frame. -/
def bodyVelocity (s : NominalState) : Vec3 :=
  (Quat.toRotationMatrix s.orientationBodyToEnu)ᵀ *ᵥ s.velocityEnuMps

/-! ### Altitude -/

/-- `UkfBarometer`. -/
noncomputable def barometer (options : BarometerOptions) : MeasurementModel where
  canHandle
    | .barometer _ => true
    | _ => false
  predict s _ := .const (s.positionEnuM 2)
  observe
    | .barometer baro, _ =>
      if baro.validity ≠ .valid then none
      else
        match baro.altitudeM with
        -- an altitude goes before a pressure
        | some altitude => some (.const altitude)
        | none =>
          if 0 < baro.pressurePa then
            some (.const (pressureToAltitude baro.pressurePa options.isaSeaLevelPressurePa))
          else none
    | _, _ => none
  noiseCovariance _ _ :=
    let s := options.altitudeSigmaM.getD 2
    .const (s * s)

/-- `UkfEchoSounder`. -/
noncomputable def echoSounder (options : EchoSounderOptions) : MeasurementModel where
  canHandle
    | .echoSounder _ => true
    | _ => false
  predict s _ := .const (-s.positionEnuM 2 + options.depthOriginM)
  observe
    | .echoSounder es, _ =>
      if es.validity ≠ .valid ∨ es.depthOrRangeM < 0 then none
      else
        let soundSpeed := es.soundSpeedMps.getD options.soundSpeedMps
        some (.const (es.depthOrRangeM * soundSpeed / options.soundSpeedMps))
    | _, _ => none
  noiseCovariance _ _ :=
    let s := options.sigmaM.getD 0.2
    .const (s * s)

/-- `UkfRadarAltimeter`. -/
noncomputable def radarAltimeter (options : RadarAltimeterOptions) : MeasurementModel where
  canHandle
    | .radarAltimeter _ => true
    | _ => false
  predict s _ := .const (s.positionEnuM 2 - options.terrainElevationM)
  observe
    | .radarAltimeter ralt, _ =>
      if ralt.validity = .valid ∧ ralt.surface ≠ .invalid ∧ 0 ≤ ralt.rangeM then
        some (.const ralt.rangeM)
      else none
    | _, _ => none
  noiseCovariance _ _ :=
    let s := options.sigmaM.getD 0.5
    .const (s * s)

/-! ### Body frame -/

/-- `UkfAirspeed`. -/
noncomputable def airspeed (options : AirspeedOptions) : MeasurementModel where
  canHandle
    | .airspeed _ => true
    | _ => false
  predict s _ :=
    let R := Quat.toRotationMatrix s.orientationBodyToEnu
    .const (euclideanNorm (Rᵀ *ᵥ (s.velocityEnuMps - options.windEnuMps)))
  observe
    | .airspeed asp, _ =>
      if asp.validity ≠ .valid ∨ asp.airspeedMps < 0 then none else some (.const asp.airspeedMps)
    | _, _ => none
  noiseCovariance _ _ := .const (options.sigmaMps * options.sigmaMps)

/-- `UkfDvl`. -/
noncomputable def dvl (options : DvlOptions) : MeasurementModel where
  canHandle
    | .dvl _ => true
    | _ => false
  predict s _ := .ofVec3 (options.dvlToBodyRotationᵀ *ᵥ bodyVelocity s)
  observe
    | .dvl dvl, _ =>
      if dvl.validity ≠ .valid then none
      else if options.bottomTrackOnly ∧ dvl.reference ≠ .bottomTrack then none
      else some (.ofVec3 dvl.velocityMps)
    | _, _ => none
  noiseCovariance
    | .dvl dvl, _ =>
      -- a covariance of zero stands for one that was not sent
      if 1e-12 < dvl.velocityCovarianceM2ps2.trace then .ofMat3 dvl.velocityCovarianceM2ps2
      else .ofMat3 (isotropicNoise 3 (options.sigmaMps.getD 0.05))
    | _, _ => .ofMat3 0

/-- `UkfMagnetometer`. -/
noncomputable def magnetometer (options : MagnetometerOptions) : MeasurementModel where
  canHandle
    | .magnetometer _ => true
    | _ => false
  predict s _ :=
    .ofVec3 ((Quat.toRotationMatrix s.orientationBodyToEnu)ᵀ *ᵥ options.referenceFieldEnuTesla)
  observe
    | .magnetometer mag, _ =>
      if mag.validity ≠ .valid then none else some (.ofVec3 mag.magneticFieldTesla)
    | _, _ => none
  noiseCovariance _ _ :=
    .ofMat3 (isotropicNoise 3
      (options.sigmaTesla.getD (euclideanNorm options.referenceFieldEnuTesla * 0.05)))

/-- `UkfOpticalFlow`. -/
noncomputable def opticalFlow (options : OpticalFlowOptions) : MeasurementModel where
  canHandle
    | .opticalFlow _ => true
    | _ => false
  predict s _ := ⟨2, ![bodyVelocity s 0, bodyVelocity s 1]⟩
  observe
    | .opticalFlow flow, _ =>
      if flow.validity ≠ .valid then none
      else
        match flow.integrationTimeS with
        | none => none
        | some dt =>
          let z := flow.groundDistanceM.getD options.fallbackAltitudeM
          -- the two checks of the EKF
          if dt < 1e-6 then none
          else if z < 0.1 then none
          else some ⟨2, ![flow.integratedFlowXRad / dt * z, flow.integratedFlowYRad / dt * z]⟩
    | _, _ => none
  noiseCovariance
    | .opticalFlow flow, _ =>
      let z := flow.groundDistanceM.getD options.fallbackAltitudeM
      -- the height is bounded from below here too, although `Observe` rejects it
      ⟨2, isotropicNoise 2 (options.sigmaRadps * max z 0.1)⟩
    | _, _ => ⟨2, 0⟩

/-- `UkfExternalVelocityOptions`. -/
structure ExternalVelocityOptions where
  sigmaLinearMps : Option ℝ := none

/-- `UkfExternalVelocity`. -/
noncomputable def externalVelocity (options : ExternalVelocityOptions) : MeasurementModel where
  canHandle
    | .externalVelocity _ => true
    | _ => false
  predict s _ := .ofVec3 (bodyVelocity s)
  observe
    | .externalVelocity ev, _ =>
      if ev.validity ≠ .valid then none else some (.ofVec3 ev.linearVelocityBodyMps)
    | _, _ => none
  noiseCovariance
    | .externalVelocity ev, _ =>
      let cov : Mat3 := block ev.covariance 0 0 3 3
      if 1e-12 < cov.trace then .ofMat3 cov
      else .ofMat3 (isotropicNoise 3 (options.sigmaLinearMps.getD 0.1))
    | _, _ => .ofMat3 0

/-- `UkfWheelOdometryOptions`. -/
structure WheelOdometryOptions where
  sigmaLinearMps : ℝ := 0.1

/-- `UkfWheelOdometry`. -/
noncomputable def wheelOdometry (options : WheelOdometryOptions) : MeasurementModel where
  canHandle
    | .wheelOdometry _ => true
    | _ => false
  predict s _ := .ofVec3 (bodyVelocity s)
  observe
    | .wheelOdometry odo, _ =>
      if odo.validity ≠ .valid then none else some (.ofVec3 odo.linearVelocityBodyMps)
    | _, _ => none
  noiseCovariance _ _ := .ofMat3 (isotropicNoise 3 options.sigmaLinearMps)

/-! ### Attitude -/

/-- `UkfStarTracker`.  With pitch and roll only the diagonal of the noise is assigned; the other
    entries are what `uninitialised` holds. -/
noncomputable def starTracker (options : StarTrackerOptions) (uninitialised : Mat3) :
    MeasurementModel where
  canHandle
    | .starTracker _ => true
    | _ => false
  predict s _ := .ofVec3 (logMapSo3 s.orientationBodyToEnu)
  observe
    | .starTracker st, _ =>
      if st.validity ≠ .valid then none
      else
        some (.ofVec3 (logMapSo3 (quaternionFromStarTracker st.longitudeRad st.latitudeRad
          st.yawRad options.starTrackerToBody)))
    | _, _ => none
  noiseCovariance
    | .starTracker st, _ =>
      let sYaw := options.sigmaYawRad * options.sigmaYawRad
      if options.usePitchRoll && st.pitchRad.isSome && st.rollRad.isSome then
        -- `R(0,0)`, `R(1,1)` and `R(2,2)` are assigned, and no other entry
        .ofMat3 fun i j =>
          if i = j then
            ![options.sigmaRollRad * options.sigmaRollRad,
              options.sigmaPitchRad * options.sigmaPitchRad, sYaw] i
          else uninitialised i j
      else .ofMat3 (diagonal ![1e6, 1e6, sYaw])
    | _, _ => .ofMat3 0
  innovation zObs zPred i := wrapAngleRad (zObs i - zPred i)

/-! ### ECEF -/

/-- The noise of a block of an aiding solution. -/
noncomputable def aidingNoise (sigma : Option ℝ) (R cov : Mat3) (fallback : ℝ) : Mat3 :=
  let s := sigma.getD 0
  if 0 < s then isotropicNoise 3 s
  else if (R * cov * Rᵀ).trace < 1e-12 then fallback • 1
  else R * cov * Rᵀ

/-- The observed attitude of a body-to-ECEF orientation, as a rotation vector. -/
noncomputable def observedAttitude (R : Mat3) (q : Quat) : Vec3 :=
  logMapSo3 (Quat.normalized (Quat.ofRotationMatrix R * q))

/-- `UkfAidingSolution`.  `Predict` gives all nine entries, whichever blocks are observed. -/
noncomputable def aidingSolution (options : AidingSolutionOptions) : MeasurementModel where
  canHandle
    | .aidingSolution _ => true
    | _ => false
  predict s _ :=
    .stack [s.positionEnuM, s.velocityEnuMps, logMapSo3 s.orientationBodyToEnu]
  observe
    | .aidingSolution aid, ctx =>
      if aid.validity ≠ .valid then none
      else if ∃ score ∈ aid.matchScore, score < options.minMatchScore then none
      else
        match ctx.ltp with
        | none => none
        | some ltp =>
          let R := ltp.ecefToEnuRotation
          -- an orientation without a valid axis counts as none
          let attitude := if aid.orientationValidity.any then aid.orientationBodyToEcef else none
          let z := (aid.positionEcefM.map ltp.ecefToEnu).toList
            ++ (aid.velocityEcefMps.map (R *ᵥ ·)).toList
            ++ (attitude.map (observedAttitude R)).toList
          if z.isEmpty then none else some (.stack z)
    | _, _ => none
  noiseCovariance
    | .aidingSolution aid, ctx =>
      let R := rotationOf ctx
      let attitude := if aid.orientationValidity.any then aid.orientationBodyToEcef else none
      .blockDiagonal
        ((aid.positionEcefM.map fun _ =>
            aidingNoise options.positionSigmaM R aid.positionCovarianceEcefM2 100).toList
          ++ (aid.velocityEcefMps.map fun _ =>
            aidingNoise options.velocitySigmaMps R aid.velocityCovarianceEcefMps2 1).toList
          ++ (attitude.map fun _ =>
            isotropicNoise 3 (options.attitudeSigmaRad.getD 0.05)).toList)
    | _, _ => .blockDiagonal []

/-- `UkfExternalOdometry`. -/
noncomputable def externalOdometry (options : ExternalOdometryOptions) : MeasurementModel where
  canHandle
    | .externalOdometry _ => true
    | _ => false
  predict s _ :=
    .stack ((if options.usePosition then [s.positionEnuM] else [])
      ++ (if options.useVelocity then [s.velocityEnuMps] else [])
      ++ (if options.useOrientation then [logMapSo3 s.orientationBodyToEnu] else []))
  observe
    | .externalOdometry eo, ctx =>
      if eo.validity ≠ .valid then none
      else
        match ctx.ltp with
        | none => none
        | some ltp =>
          let R := ltp.ecefToEnuRotation
          some (.stack ((if options.usePosition then [ltp.ecefToEnu eo.positionEcefM] else [])
            ++ (if options.useVelocity then [R *ᵥ eo.velocityEcefMps] else [])
            ++ (if options.useOrientation then [observedAttitude R eo.orientationBodyToEcef]
              else [])))
    | _, _ => none
  noiseCovariance _ _ :=
    .blockDiagonal
      ((if options.usePosition then [isotropicNoise 3 (options.positionSigmaM.getD 1)] else [])
        ++ (if options.useVelocity then [isotropicNoise 3 (options.velocitySigmaMps.getD 0.1)]
          else [])
        ++ (if options.useOrientation then
          [isotropicNoise 3 (options.orientationSigmaRad.getD 0.02)] else []))

/-- `UkfExternalPose`. -/
noncomputable def externalPose (options : ExternalPoseOptions) : MeasurementModel where
  canHandle
    | .externalPose _ => true
    | _ => false
  predict s _ :=
    .stack ((if options.usePosition then [s.positionEnuM] else [])
      ++ (if options.useOrientation then [logMapSo3 s.orientationBodyToEnu] else []))
  observe
    | .externalPose ep, ctx =>
      if ep.validity ≠ .valid then none
      else
        match ctx.ltp with
        | none => none
        | some ltp =>
          let R := ltp.ecefToEnuRotation
          some (.stack ((if options.usePosition then [ltp.ecefToEnu ep.positionEcefM] else [])
            ++ (if options.useOrientation then [observedAttitude R ep.orientationBodyToEcef]
              else [])))
    | _, _ => none
  noiseCovariance
    | .externalPose ep, ctx =>
      let position := blockNoise options.positionSigmaM (rotationOf ctx)
        (block ep.covariance 0 0 3 3) 2
      .blockDiagonal ((if options.usePosition then [position] else [])
        ++ (if options.useOrientation then
          [isotropicNoise 3 (options.orientationSigmaRad.getD 0.02)] else []))
    | _, _ => .blockDiagonal []

/-- `UkfGnssLooselyCoupledOptions`. -/
structure GnssLooselyCoupledOptions where
  positionSigmaM : Option ℝ := none
  velocitySigmaMps : Option ℝ := none

/-- `UkfGnssLooselyCoupled`. -/
noncomputable def gnssLooselyCoupled (options : GnssLooselyCoupledOptions) :
    MeasurementModel where
  canHandle
    | .gnssSolution _ => true
    | _ => false
  predict s _ := ⟨6, setSegment (setSegment 0 0 s.positionEnuM) 3 s.velocityEnuMps⟩
  observe
    | .gnssSolution gnss, ctx =>
      match ctx.ltp with
      | none => none
      -- the checks come after the one on the local frame
      | some ltp =>
        if gnss.fixType = .noFix then none
        else if gnss.validity ≠ .valid then none
        else
          let R := ltp.ecefToEnuRotation
          some ⟨6, setSegment (setSegment 0 0 (ltp.ecefToEnu gnss.positionEcefM)) 3
            (R *ᵥ gnss.velocityEcefMps)⟩
    | _, _ => none
  noiseCovariance
    | .gnssSolution gnss, ctx =>
      let R := rotationOf ctx
      let noise : Matrix (Fin 6) (Fin 6) ℝ :=
        setBlock 0 0 0 (gnssNoise options.positionSigmaM R gnss.positionCovarianceEcefM2)
      ⟨6, setBlock noise 3 3
        (gnssNoise options.velocitySigmaMps R gnss.velocityCovarianceEcefM2ps2)⟩
    | _, _ => ⟨6, 0⟩

/-- The models of the repository. -/
inductive Shipped : MeasurementModel → Prop
  | barometer (o : BarometerOptions) : Shipped (barometer o)
  | echoSounder (o : EchoSounderOptions) : Shipped (echoSounder o)
  | radarAltimeter (o : RadarAltimeterOptions) : Shipped (radarAltimeter o)
  | airspeed (o : AirspeedOptions) : Shipped (airspeed o)
  | dvl (o : DvlOptions) : Shipped (dvl o)
  | magnetometer (o : MagnetometerOptions) : Shipped (magnetometer o)
  | opticalFlow (o : OpticalFlowOptions) : Shipped (opticalFlow o)
  | externalVelocity (o : ExternalVelocityOptions) : Shipped (externalVelocity o)
  | wheelOdometry (o : WheelOdometryOptions) : Shipped (wheelOdometry o)
  | starTracker (o : StarTrackerOptions) (uninitialised : Mat3) :
      Shipped (starTracker o uninitialised)
  | aidingSolution (o : AidingSolutionOptions) : Shipped (aidingSolution o)
  | externalOdometry (o : ExternalOdometryOptions) : Shipped (externalOdometry o)
  | externalPose (o : ExternalPoseOptions) : Shipped (externalPose o)
  | gnssLooselyCoupled (o : GnssLooselyCoupledOptions) : Shipped (gnssLooselyCoupled o)

/-- Each of them checks the validity. -/
theorem Shipped.observe_eq_none {model : MeasurementModel} (hmodel : Shipped model)
    {m : SensorMeasurement} (ctx : UpdateContext) (h : m.validity ≠ .valid) :
    model.observe m ctx = none := by
  cases hmodel with
  | radarAltimeter o =>
    cases m with
    | radarAltimeter m => exact if_neg fun hvalid => h hvalid.1
    | _ => rfl
  | gnssLooselyCoupled o =>
    cases m with
    | gnssSolution m =>
      cases hltp : ctx.ltp with
      | none => simp only [Ukf.gnssLooselyCoupled, hltp]
      | some ltp =>
        simp only [Ukf.gnssLooselyCoupled, hltp]
        split
        · rfl
        · exact if_pos h
    | _ => rfl
  | _ =>
    -- the validity comes first, alone or as the first of two conditions
    cases m <;> first
      | rfl
      | exact if_pos h
      | exact if_pos (Or.inl h)

end FalconGuide.Ukf
