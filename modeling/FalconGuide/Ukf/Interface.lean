import FalconGuide.Ekf.Applied
import FalconGuide.Ukf.MeasurementModels

namespace FalconGuide.Ukf

open Lib Matrix

/-!
# What the filter expects of a measurement model

`ApplyMeasurementModel` gives `Z` the length of the observation and writes what `Predict` returns
into its columns, without looking at either.

* `ModelKind` — the fourteen models with their options; `ModelKind.measurementDim`;
* `ModelKind.Shows` — the measurement of a sensor without errors;
* `ModelKind.Honours` — lengths, meaning of the rows and noise, as the filter expects them;
* `ModelKind.honours_iff` — the main result: a star tracker never keeps to it, and an aiding
  solution only when it brings position, velocity and attitude.
-/

/-! ### Models -/

/-- A measurement model, by its options. -/
inductive ModelKind
  | aidingSolution (options : AidingSolutionOptions)
  | airspeed (options : AirspeedOptions)
  | barometer (options : BarometerOptions)
  | dvl (options : DvlOptions)
  | echoSounder (options : EchoSounderOptions)
  | externalOdometry (options : ExternalOdometryOptions)
  | externalPose (options : ExternalPoseOptions)
  | externalVelocity (options : ExternalVelocityOptions)
  | gnssLooselyCoupled (options : GnssLooselyCoupledOptions)
  | magnetometer (options : MagnetometerOptions)
  | opticalFlow (options : OpticalFlowOptions)
  | radarAltimeter (options : RadarAltimeterOptions)
  | starTracker (options : StarTrackerOptions)
  | wheelOdometry (options : WheelOdometryOptions)

namespace ModelKind

/-- The model; `uninitialised` is what the entries hold that no code assigns. -/
noncomputable def model (uninitialised : Mat3) : ModelKind → MeasurementModel
  | aidingSolution options => Ukf.aidingSolution options
  | airspeed options => Ukf.airspeed options
  | barometer options => Ukf.barometer options
  | dvl options => Ukf.dvl options
  | echoSounder options => Ukf.echoSounder options
  | externalOdometry options => Ukf.externalOdometry options
  | externalPose options => Ukf.externalPose options
  | externalVelocity options => Ukf.externalVelocity options
  | gnssLooselyCoupled options => Ukf.gnssLooselyCoupled options
  | magnetometer options => Ukf.magnetometer options
  | opticalFlow options => Ukf.opticalFlow options
  | radarAltimeter options => Ukf.radarAltimeter options
  | starTracker options => Ukf.starTracker options uninitialised
  | wheelOdometry options => Ukf.wheelOdometry options

/-- Three rows for a block that is there. -/
def blockRows (active : Bool) : ℕ := if active then 3 else 0

/-- `MeasurementDim`, on a measurement the model can handle. -/
def measurementDim : ModelKind → SensorMeasurement → ℕ
  | aidingSolution _, .aidingSolution aid =>
    blockRows aid.positionEcefM.isSome + blockRows aid.velocityEcefMps.isSome
      + blockRows (aid.orientationBodyToEcef.isSome && aid.orientationValidity.any)
  | airspeed _, .airspeed _ => 1
  | barometer _, .barometer _ => 1
  | dvl _, .dvl _ => 3
  | echoSounder _, .echoSounder _ => 1
  | externalOdometry options, .externalOdometry _ =>
    blockRows options.usePosition + blockRows options.useVelocity
      + blockRows options.useOrientation
  | externalPose options, .externalPose _ =>
    blockRows options.usePosition + blockRows options.useOrientation
  | externalVelocity _, .externalVelocity _ => 3
  | gnssLooselyCoupled _, .gnssSolution _ => 6
  | magnetometer _, .magnetometer _ => 3
  | opticalFlow _, .opticalFlow _ => 2
  | radarAltimeter _, .radarAltimeter _ => 1
  | starTracker options, .starTracker st =>
    if options.usePitchRoll && st.pitchRad.isSome && st.rollRad.isSome then 3 else 1
  | wheelOdometry _, .wheelOdometry _ => 3
  | _, _ => 0

/-! ### The meaning of the rows -/

/-- An observed attitude is that of the state. -/
def ShowsAttitude (R : Mat3) (q : Quat) (s : NominalState) : Prop :=
  Quat.normalized (Quat.ofRotationMatrix R * q) = s.orientationBodyToEnu

/-- The measurement is what a sensor without errors shows in the state `s`. -/
def Shows (s : NominalState) (ctx : UpdateContext) : ModelKind → SensorMeasurement → Prop
  | aidingSolution _, .aidingSolution aid => ∀ ltp ∈ ctx.ltp,
    (∀ p ∈ aid.positionEcefM, ltp.ecefToEnu p = s.positionEnuM) ∧
    (∀ v ∈ aid.velocityEcefMps, ltp.ecefToEnuRotation *ᵥ v = s.velocityEnuMps) ∧
    ∀ q ∈ aid.orientationBodyToEcef, ShowsAttitude ltp.ecefToEnuRotation q s
  | airspeed options, .airspeed asp =>
    let R := Quat.toRotationMatrix s.orientationBodyToEnu
    asp.airspeedMps = euclideanNorm (Rᵀ *ᵥ (s.velocityEnuMps - options.windEnuMps))
  | barometer options, .barometer baro =>
    baro.altitudeM.getD (pressureToAltitude baro.pressurePa options.isaSeaLevelPressurePa)
      = s.positionEnuM 2
  | dvl options, .dvl meas => meas.velocityMps = options.dvlToBodyRotationᵀ *ᵥ bodyVelocity s
  | echoSounder options, .echoSounder es =>
    es.depthOrRangeM * es.soundSpeedMps.getD options.soundSpeedMps / options.soundSpeedMps
      = -s.positionEnuM 2 + options.depthOriginM
  | externalOdometry _, .externalOdometry eo => ∀ ltp ∈ ctx.ltp,
    ltp.ecefToEnu eo.positionEcefM = s.positionEnuM ∧
    ltp.ecefToEnuRotation *ᵥ eo.velocityEcefMps = s.velocityEnuMps ∧
    ShowsAttitude ltp.ecefToEnuRotation eo.orientationBodyToEcef s
  | externalPose _, .externalPose ep => ∀ ltp ∈ ctx.ltp,
    ltp.ecefToEnu ep.positionEcefM = s.positionEnuM ∧
    ShowsAttitude ltp.ecefToEnuRotation ep.orientationBodyToEcef s
  | externalVelocity _, .externalVelocity ev => ev.linearVelocityBodyMps = bodyVelocity s
  | gnssLooselyCoupled _, .gnssSolution gnss => ∀ ltp ∈ ctx.ltp,
    ltp.ecefToEnu gnss.positionEcefM = s.positionEnuM ∧
    ltp.ecefToEnuRotation *ᵥ gnss.velocityEcefMps = s.velocityEnuMps
  | magnetometer options, .magnetometer mag =>
    mag.magneticFieldTesla
      = (Quat.toRotationMatrix s.orientationBodyToEnu)ᵀ *ᵥ options.referenceFieldEnuTesla
  | opticalFlow options, .opticalFlow flow => ∀ dt ∈ flow.integrationTimeS,
    let z := flow.groundDistanceM.getD options.fallbackAltitudeM
    flow.integratedFlowXRad / dt * z = bodyVelocity s 0 ∧
    flow.integratedFlowYRad / dt * z = bodyVelocity s 1
  | radarAltimeter options, .radarAltimeter ralt =>
    ralt.rangeM = s.positionEnuM 2 - options.terrainElevationM
  | starTracker options, .starTracker st =>
    quaternionFromStarTracker st.longitudeRad st.latitudeRad st.yawRad options.starTrackerToBody
      = s.orientationBodyToEnu
  | wheelOdometry _, .wheelOdometry odo => odo.linearVelocityBodyMps = bodyVelocity s
  | _, _ => False

/-! ### The interface -/

/-- The covariances that a measurement brings along are positive semidefinite. -/
def CovariancesPosSemidef : SensorMeasurement → Prop
  | .externalVelocity ev => ev.covariance.PosSemidef
  | m => m.CovariancesPosSemidef

/-- What `ApplyMeasurementModel` expects of a model that observes `z`, whatever the entries hold
    that no code assigns. -/
structure Honours (kind : ModelKind) (m : SensorMeasurement) (ctx : UpdateContext)
    (z : VectorXd) : Prop where
  /-- `Predict` has the length of the observation. -/
  predict_size : ∀ uninitialised s, ((kind.model uninitialised).predict s ctx).size = z.size
  /-- And its rows: without errors, what is observed is what is predicted. -/
  predict_rows : ∀ uninitialised s, kind.Shows s ctx m →
    (kind.model uninitialised).predict s ctx = z
  dim : kind.measurementDim m = z.size
  noise : ∀ uninitialised, ((kind.model uninitialised).noiseCovariance m ctx).val.PosSemidef
  noise_size : ∀ uninitialised, ((kind.model uninitialised).noiseCovariance m ctx).size = z.size

/-- The model is no star tracker, and an aiding solution brings position, velocity and an
    orientation with a valid axis. -/
def Suits : ModelKind → SensorMeasurement → Prop
  | starTracker _, _ => False
  | aidingSolution _, .aidingSolution aid =>
    aid.positionEcefM.isSome ∧ aid.velocityEcefMps.isSome ∧
      aid.orientationBodyToEcef.isSome ∧ aid.orientationValidity.any
  | _, _ => True

/-! ### Noise -/

/-- One variance, the square of a deviation. -/
theorem posSemidef_const (σ : ℝ) : (MatrixXd.const (σ * σ)).val.PosSemidef := by
  have heq : (MatrixXd.const (σ * σ)).val = (σ * σ) • (1 : Matrix (Fin 1) (Fin 1) ℝ) :=
    (MatrixXd.corner_mk _).symm.trans (MatrixXd.corner_const _)
  rw [heq]
  exact PosSemidef.one.smul (mul_self_nonneg σ)

/-- Where an index is, within the block `k` or outside of it. -/
def withinBlock (k : ℕ) {n : ℕ} (i : Fin n) : Fin 3 ⊕ Unit :=
  if i.val / 3 = k then .inl ⟨i.val % 3, Nat.mod_lt _ three_pos⟩ else .inr ()

/-- An index of the block. -/
theorem withinBlock_of_eq {k n : ℕ} {i : Fin n} (h : i.val / 3 = k) :
    withinBlock k i = .inl ⟨i.val % 3, Nat.mod_lt _ (by omega)⟩ := if_pos h

/-- An index outside it. -/
theorem withinBlock_of_ne {k n : ℕ} {i : Fin n} (h : i.val / 3 ≠ k) :
    withinBlock k i = .inr () := if_neg h

/-- The block `k` on the diagonal, and zeros elsewhere. -/
def diagonalBlock (n k : ℕ) (A : Mat3) : Matrix (Fin n) (Fin n) ℝ :=
  (fromBlocks A 0 0 (0 : Matrix Unit Unit ℝ)).submatrix (withinBlock k) (withinBlock k)

/-- Outside the block the matrix is zero. -/
theorem diagonalBlock_of_ne {n k : ℕ} {A : Mat3} {i j : Fin n}
    (h : ¬ (i.val / 3 = k ∧ j.val / 3 = k)) : diagonalBlock n k A i j = 0 := by
  rw [diagonalBlock, submatrix_apply]
  by_cases hi : i.val / 3 = k
  · have hj : j.val / 3 ≠ k := fun hj => h ⟨hi, hj⟩
    rw [withinBlock_of_eq hi, withinBlock_of_ne hj]
    rfl
  · rw [withinBlock_of_ne hi]
    by_cases hj : j.val / 3 = k
    · rw [withinBlock_of_eq hj]
      rfl
    · rw [withinBlock_of_ne hj]
      rfl

/-- Blocks on the diagonal, one at a time. -/
theorem blockDiagonal_eq_sum (As : List Mat3) :
    (MatrixXd.blockDiagonal As).val
      = ∑ k : Fin As.length, diagonalBlock (As.length * 3) k As[k] := by
  refine Matrix.ext fun (i j : Fin (As.length * 3)) => ?_
  show (if i.val / 3 = j.val / 3 then _ else (0 : ℝ)) = _
  rw [Matrix.sum_apply]
  have hrow : i.val / 3 < As.length := by omega
  by_cases hij : i.val / 3 = j.val / 3
  · rw [if_pos hij, Finset.sum_eq_single ⟨i.val / 3, hrow⟩]
    · have hget : As.getD (i.val / 3) 0 = As[i.val / 3] := by
        rw [List.getD_eq_getElem?_getD, List.getElem?_eq_getElem hrow, Option.getD_some]
      rw [diagonalBlock, submatrix_apply, withinBlock_of_eq rfl, withinBlock_of_eq hij.symm, hget]
      rfl
    · intro k _ hk
      refine diagonalBlock_of_ne fun h => hk (Fin.ext ?_)
      exact h.1.symm
    · intro hk
      exact absurd (Finset.mem_univ _) hk
  · rw [if_neg hij]
    refine (Finset.sum_eq_zero fun k _ => diagonalBlock_of_ne fun h => hij ?_).symm
    rw [h.1, h.2]

/-- A matrix of covariances without correlation. -/
theorem posSemidef_blockDiagonal {As : List Mat3} (h : ∀ A ∈ As, A.PosSemidef) :
    (MatrixXd.blockDiagonal As).val.PosSemidef := by
  rw [blockDiagonal_eq_sum]
  refine posSemidef_sum _ fun k _ => ?_
  exact (Kalman.posSemidef_fromBlocks (h _ (List.getElem_mem _)) .zero).submatrix _

/-- The noise of one block of an aiding solution. -/
theorem posSemidef_aidingNoise {R cov : Mat3} (h : cov.PosSemidef) (sigma : Option ℝ)
    {fallback : ℝ} (hfallback : 0 ≤ fallback) :
    (aidingNoise sigma R cov fallback).PosSemidef := by
  rw [aidingNoise]
  show (ite _ _ _ : Mat3).PosSemidef
  split
  · exact posSemidef_isotropicNoise 3 _
  · split
    · exact PosSemidef.one.smul hfallback
    · exact Kalman.posSemidef_congr h R

/-! ### Models that keep to the interface -/

section Honours

variable {kind : ModelKind} {m : SensorMeasurement} {ctx : UpdateContext}

/-- An observation of one row. -/
theorem honours_const {x σ : ℝ} {y : NominalState → ℝ}
    (hpredict : ∀ u s, (kind.model u).predict s ctx = .const (y s))
    (hrows : ∀ s, kind.Shows s ctx m → y s = x) (hdim : kind.measurementDim m = 1)
    (hnoise : ∀ u, (kind.model u).noiseCovariance m ctx = .const (σ * σ)) :
    kind.Honours m ctx (.const x) where
  predict_size u s := by rw [hpredict]; rfl
  predict_rows u s hs := by rw [hpredict, hrows s hs]
  dim := hdim
  noise_size u := by rw [hnoise]; rfl
  noise u := by
    rw [hnoise]
    exact posSemidef_const σ

/-- An observation of a vector in space. -/
theorem honours_ofVec3 {x : Vec3} {A : Mat3} {y : NominalState → Vec3}
    (hpredict : ∀ u s, (kind.model u).predict s ctx = .ofVec3 (y s))
    (hrows : ∀ s, kind.Shows s ctx m → y s = x) (hdim : kind.measurementDim m = 3)
    (hnoise : ∀ u, (kind.model u).noiseCovariance m ctx = .ofMat3 A) (hA : A.PosSemidef) :
    kind.Honours m ctx (.ofVec3 x) where
  predict_size u s := by rw [hpredict]; rfl
  predict_rows u s hs := by rw [hpredict, hrows s hs]
  dim := hdim
  noise_size u := by rw [hnoise]; rfl
  noise u := by
    rw [hnoise]
    exact hA

/-- A block that is there is one entry of the list, and three rows. -/
theorem length_optional {α : Type*} (active : Bool) (x : α) :
    (if active then [x] else []).length = active.toNat := by
  cases active with
  | true => rfl
  | false => rfl

/-- As a product. -/
theorem blockRows_eq (active : Bool) : blockRows active = active.toNat * 3 := by
  cases active with
  | true => rfl
  | false => rfl

/-- An observation of several vectors in space. -/
theorem honours_stack {xs : List Vec3} {As : List Mat3} {ys : NominalState → List Vec3}
    (hpredict : ∀ u s, (kind.model u).predict s ctx = .stack (ys s))
    (hlength : ∀ s, (ys s).length = xs.length) (hrows : ∀ s, kind.Shows s ctx m → ys s = xs)
    (hdim : kind.measurementDim m = xs.length * 3)
    (hnoise : ∀ u, (kind.model u).noiseCovariance m ctx = .blockDiagonal As)
    (hAs : As.length = xs.length) (hA : ∀ A ∈ As, A.PosSemidef) :
    kind.Honours m ctx (.stack xs) where
  predict_size u s := by
    rw [hpredict]
    exact congrArg (· * 3) (hlength s)
  predict_rows u s hs := by rw [hpredict, hrows s hs]
  dim := hdim
  noise_size u := by
    rw [hnoise]
    exact congrArg (· * 3) hAs
  noise u := by
    rw [hnoise]
    exact posSemidef_blockDiagonal hA

/-! ### One model after the other -/

variable {u : Mat3} {z : VectorXd}

/-- A barometer honours the interface. -/
theorem honours_barometer {o : BarometerOptions} {baro : BarometerMeasurement}
    (h : (Ukf.barometer o).observe (.barometer baro) ctx = some z) :
    (barometer o).Honours (.barometer baro) ctx z := by
  have hnoise : ∀ u, ((barometer o).model u).noiseCovariance (.barometer baro) ctx
      = .const (o.altitudeSigmaM.getD 2 * o.altitudeSigmaM.getD 2) := fun _ => rfl
  simp only [Ukf.barometer] at h
  split at h
  · cases h
  · split at h
    · rename_i altitude halt
      cases h
      refine honours_const (fun _ _ => rfl) (fun s hs => ?_) rfl hnoise
      have hshown : baro.altitudeM.getD _ = s.positionEnuM 2 := hs
      rw [← hshown, halt, Option.getD_some]
    · rename_i hnone
      split at h
      · cases h
        refine honours_const (fun _ _ => rfl) (fun s hs => ?_) rfl hnoise
        have hshown : baro.altitudeM.getD _ = s.positionEnuM 2 := hs
        rw [← hshown, hnone, Option.getD_none]
      · cases h

/-- An echo sounder honours the interface. -/
theorem honours_echoSounder {o : EchoSounderOptions} {es : EchoSounderMeasurement}
    (h : (Ukf.echoSounder o).observe (.echoSounder es) ctx = some z) :
    (echoSounder o).Honours (.echoSounder es) ctx z := by
  simp only [Ukf.echoSounder] at h
  split at h
  · cases h
  · cases h
    exact honours_const (fun _ _ => rfl) (fun s hs => hs.symm) rfl fun _ => rfl

/-- A radar altimeter honours the interface. -/
theorem honours_radarAltimeter {o : RadarAltimeterOptions} {ralt : RadarAltimeterMeasurement}
    (h : (Ukf.radarAltimeter o).observe (.radarAltimeter ralt) ctx = some z) :
    (radarAltimeter o).Honours (.radarAltimeter ralt) ctx z := by
  simp only [Ukf.radarAltimeter] at h
  split at h
  · cases h
    exact honours_const (fun _ _ => rfl) (fun s hs => hs.symm) rfl fun _ => rfl
  · cases h

/-- An airspeed sensor honours the interface. -/
theorem honours_airspeed {o : AirspeedOptions} {asp : AirspeedMeasurement}
    (h : (Ukf.airspeed o).observe (.airspeed asp) ctx = some z) :
    (airspeed o).Honours (.airspeed asp) ctx z := by
  simp only [Ukf.airspeed] at h
  split at h
  · cases h
  · cases h
    exact honours_const (fun _ _ => rfl) (fun s hs => hs.symm) rfl fun _ => rfl

/-- A DVL honours the interface. -/
theorem honours_dvl {o : DvlOptions} {dvl : DvlMeasurement}
    (hcov : dvl.velocityCovarianceM2ps2.PosSemidef)
    (h : (Ukf.dvl o).observe (.dvl dvl) ctx = some z) :
    (ModelKind.dvl o).Honours (.dvl dvl) ctx z := by
  simp only [Ukf.dvl] at h
  split at h
  · cases h
  · split at h
    · cases h
    · cases h
      by_cases htrace : 1e-12 < dvl.velocityCovarianceM2ps2.trace
      · exact honours_ofVec3 (fun _ _ => rfl) (fun s hs => hs.symm) rfl (fun _ => if_pos htrace)
          hcov
      · exact honours_ofVec3 (fun _ _ => rfl) (fun s hs => hs.symm) rfl (fun _ => if_neg htrace)
          (posSemidef_isotropicNoise 3 _)

/-- A magnetometer honours the interface. -/
theorem honours_magnetometer {o : MagnetometerOptions} {mag : MagnetometerMeasurement}
    (h : (Ukf.magnetometer o).observe (.magnetometer mag) ctx = some z) :
    (magnetometer o).Honours (.magnetometer mag) ctx z := by
  simp only [Ukf.magnetometer] at h
  split at h
  · cases h
  · cases h
    exact honours_ofVec3 (fun _ _ => rfl) (fun s hs => hs.symm) rfl (fun _ => rfl)
      (posSemidef_isotropicNoise 3 _)

/-- An external velocity honours the interface. -/
theorem honours_externalVelocity {o : ExternalVelocityOptions} {ev : ExternalVelocityMeasurement}
    (hcov : ev.covariance.PosSemidef)
    (h : (Ukf.externalVelocity o).observe (.externalVelocity ev) ctx = some z) :
    (externalVelocity o).Honours (.externalVelocity ev) ctx z := by
  simp only [Ukf.externalVelocity] at h
  split at h
  · cases h
  · cases h
    by_cases htrace : 1e-12 < (block ev.covariance 0 0 3 3).trace
    · exact honours_ofVec3 (fun _ _ => rfl) (fun s hs => hs.symm) rfl (fun _ => if_pos htrace)
        (posSemidef_block hcov (by omega))
    · exact honours_ofVec3 (fun _ _ => rfl) (fun s hs => hs.symm) rfl (fun _ => if_neg htrace)
        (posSemidef_isotropicNoise 3 _)

/-- Wheel odometry honours the interface. -/
theorem honours_wheelOdometry {o : WheelOdometryOptions} {odo : WheelOdometryMeasurement}
    (h : (Ukf.wheelOdometry o).observe (.wheelOdometry odo) ctx = some z) :
    (wheelOdometry o).Honours (.wheelOdometry odo) ctx z := by
  simp only [Ukf.wheelOdometry] at h
  split at h
  · cases h
  · cases h
    exact honours_ofVec3 (fun _ _ => rfl) (fun s hs => hs.symm) rfl (fun _ => rfl)
      (posSemidef_isotropicNoise 3 _)

/-- Optical flow honours the interface. -/
theorem honours_opticalFlow {o : OpticalFlowOptions} {flow : OpticalFlowMeasurement}
    (h : (Ukf.opticalFlow o).observe (.opticalFlow flow) ctx = some z) :
    (opticalFlow o).Honours (.opticalFlow flow) ctx z := by
  simp only [Ukf.opticalFlow] at h
  split at h
  · cases h
  · split at h
    · cases h
    · rename_i dt hdt
      split at h
      · cases h
      · split at h
        · cases h
        · cases h
          refine ⟨fun _ _ => rfl, fun _ s hs => ?_, rfl, fun _ => ?_, fun _ => rfl⟩
          · obtain ⟨hx, hy⟩ := hs dt hdt
            show VectorXd.mk 2 ![bodyVelocity s 0, bodyVelocity s 1] = _
            rw [← hx, ← hy]
          · exact posSemidef_isotropicNoise 2 _

/-- A loosely coupled fix honours the interface. -/
theorem honours_gnssLooselyCoupled {o : GnssLooselyCoupledOptions} {gnss : GnssSolution}
    (hcov : gnss.positionCovarianceEcefM2.PosSemidef ∧
      gnss.velocityCovarianceEcefM2ps2.PosSemidef)
    (h : (Ukf.gnssLooselyCoupled o).observe (.gnssSolution gnss) ctx = some z) :
    (gnssLooselyCoupled o).Honours (.gnssSolution gnss) ctx z := by
  simp only [Ukf.gnssLooselyCoupled] at h
  split at h
  · cases h
  · rename_i ltp hltp
    split at h
    · cases h
    · split at h
      · cases h
      · cases h
        refine ⟨fun _ _ => rfl, fun _ s hs => ?_, rfl, fun _ => ?_, fun _ => rfl⟩
        · obtain ⟨hpos, hvel⟩ := hs ltp hltp
          rw [hpos, hvel]
          rfl
        · exact posSemidef_twoBlocks (posSemidef_gnssNoise hcov.1 _)
            (posSemidef_gnssNoise hcov.2 _)

/-- External odometry honours the interface. -/
theorem honours_externalOdometry {o : ExternalOdometryOptions} {eo : ExternalOdometryMeasurement}
    (h : (Ukf.externalOdometry o).observe (.externalOdometry eo) ctx = some z) :
    (externalOdometry o).Honours (.externalOdometry eo) ctx z := by
  simp only [Ukf.externalOdometry] at h
  split at h
  · cases h
  · split at h
    · cases h
    · rename_i ltp hltp
      cases h
      refine honours_stack (fun _ _ => rfl) (fun s => ?_) (fun s hs => ?_) ?_ (fun _ => rfl) ?_ ?_
      · simp only [List.length_append, length_optional]
      · obtain ⟨hpos, hvel, hatt⟩ := hs ltp hltp
        rw [hpos, hvel, observedAttitude, hatt]
      · show blockRows _ + blockRows _ + blockRows _ = _
        simp only [List.length_append, length_optional, blockRows_eq, Nat.add_mul]
      · simp only [List.length_append, length_optional]
      · intro A hA
        simp only [List.mem_append, List.mem_ite_nil_right, List.mem_singleton] at hA
        rcases hA with (⟨-, rfl⟩ | ⟨-, rfl⟩) | ⟨-, rfl⟩
        · exact posSemidef_isotropicNoise 3 _
        · exact posSemidef_isotropicNoise 3 _
        · exact posSemidef_isotropicNoise 3 _

/-- An external pose honours the interface. -/
theorem honours_externalPose {o : ExternalPoseOptions} {ep : ExternalPoseMeasurement}
    (hcov : ep.covariance.PosSemidef)
    (h : (Ukf.externalPose o).observe (.externalPose ep) ctx = some z) :
    (externalPose o).Honours (.externalPose ep) ctx z := by
  simp only [Ukf.externalPose] at h
  split at h
  · cases h
  · split at h
    · cases h
    · rename_i ltp hltp
      cases h
      refine honours_stack (fun _ _ => rfl) (fun s => ?_) (fun s hs => ?_) ?_ (fun _ => rfl) ?_ ?_
      · simp only [List.length_append, length_optional]
      · obtain ⟨hpos, hatt⟩ := hs ltp hltp
        rw [hpos, observedAttitude, hatt]
      · show blockRows _ + blockRows _ = _
        simp only [List.length_append, length_optional, blockRows_eq, Nat.add_mul]
      · simp only [List.length_append, length_optional]
      · intro A hA
        simp only [List.mem_append, List.mem_ite_nil_right, List.mem_singleton] at hA
        rcases hA with ⟨-, rfl⟩ | ⟨-, rfl⟩
        · exact posSemidef_blockNoise (posSemidef_block hcov (by omega)) _ _
        · exact posSemidef_isotropicNoise 3 _

/-! ### Aiding solutions -/

/-- The orientation of an aiding solution, if one of its axes is valid. -/
def activeAttitude (aid : AidingSolution) : Option Quat :=
  if aid.orientationValidity.any then aid.orientationBodyToEcef else none

/-- The blocks that an aiding solution observes. -/
noncomputable def observedBlocks (ltp : LocalTangentPlane) (aid : AidingSolution) : List Vec3 :=
  (aid.positionEcefM.map ltp.ecefToEnu).toList
    ++ (aid.velocityEcefMps.map (ltp.ecefToEnuRotation *ᵥ ·)).toList
    ++ ((activeAttitude aid).map (observedAttitude ltp.ecefToEnuRotation)).toList

/-- An observation of an aiding solution stacks its blocks. -/
theorem observe_aidingSolution {o : AidingSolutionOptions} {aid : AidingSolution}
    (h : ((aidingSolution o).model u).observe (.aidingSolution aid) ctx = some z) :
    ∃ ltp, ctx.ltp = some ltp ∧ z = .stack (observedBlocks ltp aid) := by
  by_cases hvalid : aid.validity ≠ .valid
  · have hnone : ((aidingSolution o).model u).observe (.aidingSolution aid) ctx = none :=
      if_pos hvalid
    rw [hnone] at h
    cases h
  by_cases hscore : ∃ score ∈ aid.matchScore, score < o.minMatchScore
  · have hnone : ((aidingSolution o).model u).observe (.aidingSolution aid) ctx = none :=
      (if_neg hvalid).trans (if_pos hscore)
    rw [hnone] at h
    cases h
  have hmatch : ((aidingSolution o).model u).observe (.aidingSolution aid) ctx = _ :=
    (if_neg hvalid).trans (if_neg hscore)
  rw [hmatch] at h
  cases hltp : ctx.ltp with
  | none =>
    rw [hltp] at h
    cases h
  | some ltp =>
    rw [hltp] at h
    replace h : (if (observedBlocks ltp aid).isEmpty then none
      else some (VectorXd.stack (observedBlocks ltp aid))) = some z := h
    split at h
    · cases h
    · cases h
      exact ⟨ltp, rfl, rfl⟩

/-- All three blocks are there. -/
theorem suits_iff_length {o : AidingSolutionOptions} {aid : AidingSolution}
    (ltp : LocalTangentPlane) :
    (aidingSolution o).Suits (.aidingSolution aid) ↔ (observedBlocks ltp aid).length = 3 := by
  show (aid.positionEcefM.isSome = true ∧ aid.velocityEcefMps.isSome = true ∧
    aid.orientationBodyToEcef.isSome = true ∧ aid.orientationValidity.any = true) ↔ _
  rw [observedBlocks, activeAttitude]
  cases aid.positionEcefM <;> cases aid.velocityEcefMps <;> cases aid.orientationBodyToEcef <;>
    cases aid.orientationValidity.any <;> simp

/-- An aiding solution. -/
theorem honours_aidingSolution_iff {o : AidingSolutionOptions} {aid : AidingSolution}
    (hcov : aid.positionCovarianceEcefM2.PosSemidef ∧ aid.velocityCovarianceEcefMps2.PosSemidef)
    (h : ((aidingSolution o).model u).observe (.aidingSolution aid) ctx = some z) :
    (aidingSolution o).Honours (.aidingSolution aid) ctx z ↔
      (aidingSolution o).Suits (.aidingSolution aid) := by
  obtain ⟨ltp, hltp, rfl⟩ := observe_aidingSolution h
  constructor
  · intro hhonours
    -- `Predict` has three blocks, so the observation has three
    have hsize : 3 * 3 = (observedBlocks ltp aid).length * 3 := hhonours.predict_size 0 {}
    rw [suits_iff_length ltp]
    omega
  · rintro ⟨hpos, hvel, hatt, hany⟩
    obtain ⟨p, hp⟩ := Option.isSome_iff_exists.mp hpos
    obtain ⟨v, hv⟩ := Option.isSome_iff_exists.mp hvel
    obtain ⟨q, hq⟩ := Option.isSome_iff_exists.mp hatt
    have hactive : activeAttitude aid = some q := (if_pos hany).trans hq
    have hblocks : observedBlocks ltp aid
        = [ltp.ecefToEnu p, ltp.ecefToEnuRotation *ᵥ v,
          observedAttitude ltp.ecefToEnuRotation q] := by
      rw [observedBlocks, hp, hv, hactive]
      rfl
    have hnoise : ∀ u, ((aidingSolution o).model u).noiseCovariance (.aidingSolution aid) ctx
        = .blockDiagonal
          [aidingNoise o.positionSigmaM (rotationOf ctx) aid.positionCovarianceEcefM2 100,
            aidingNoise o.velocitySigmaMps (rotationOf ctx) aid.velocityCovarianceEcefMps2 1,
            isotropicNoise 3 (o.attitudeSigmaRad.getD 0.05)] := fun _ => by
      show MatrixXd.blockDiagonal (_ ++ _ ++ ((activeAttitude aid).map _).toList) = _
      rw [hp, hv, hactive]
      rfl
    rw [hblocks]
    refine honours_stack (fun _ _ => rfl) (fun _ => rfl) (fun s hs => ?_) ?_ hnoise rfl ?_
    · obtain ⟨hshownPos, hshownVel, hshownAtt⟩ := hs ltp hltp
      have hshown : Quat.normalized (Quat.ofRotationMatrix ltp.ecefToEnuRotation * q)
          = s.orientationBodyToEnu := hshownAtt q hq
      rw [hshownPos p hp, hshownVel v hv, observedAttitude, hshown]
    · show blockRows _ + blockRows _ + blockRows (_ && _) = _
      rw [hpos, hvel, hatt, hany]
      rfl
    · intro A hA
      simp only [List.mem_cons, List.not_mem_nil, or_false] at hA
      rcases hA with rfl | rfl | rfl
      · exact posSemidef_aidingNoise hcov.1 _ (by norm_num)
      · exact posSemidef_aidingNoise hcov.2 _ zero_le_one
      · exact posSemidef_isotropicNoise 3 _

/-! ### Star trackers -/

/-- With pitch and roll the noise is not symmetric for some values of the entries that are not
    assigned; without them `MeasurementDim` is not the length of the observation. -/
theorem not_honours_starTracker {o : StarTrackerOptions} {st : StarTrackerMeasurement}
    (h : (Ukf.starTracker o u).observe (.starTracker st) ctx = some z) :
    ¬ (starTracker o).Honours (.starTracker st) ctx z := by
  intro hhonours
  simp only [Ukf.starTracker] at h
  split at h
  · cases h
  cases h
  have hdim : (if o.usePitchRoll && st.pitchRad.isSome && st.rollRad.isSome then 3 else 1) = 3 :=
    hhonours.dim
  by_cases hfull : (o.usePitchRoll && st.pitchRad.isSome && st.rollRad.isSome) = true
  · let unassigned : Mat3 := !![0, 1, 0; 0, 0, 0; 0, 0, 0]
    have hnoise : ((starTracker o).model unassigned).noiseCovariance (.starTracker st) ctx
        = .ofMat3 fun i j =>
          if i = j then
            ![o.sigmaRollRad * o.sigmaRollRad, o.sigmaPitchRad * o.sigmaPitchRad,
              o.sigmaYawRad * o.sigmaYawRad] i
          else unassigned i j := if_pos hfull
    have hposSemidef := hhonours.noise unassigned
    rw [hnoise] at hposSemidef
    have hentry : (0 : ℝ) = 1 := by
      simpa [MatrixXd.ofMat3, unassigned] using
        hposSemidef.isHermitian.apply (0 : Fin 3) (1 : Fin 3)
    exact zero_ne_one hentry
  · rw [if_neg hfull] at hdim
    cases hdim

/-! ### The interface -/

/-- **Which models keep to the interface.** -/
theorem honours_iff (hcov : CovariancesPosSemidef m) (h : (kind.model u).observe m ctx = some z) :
    kind.Honours m ctx z ↔ kind.Suits m := by
  cases kind with
  | aidingSolution o =>
    cases m with
    | aidingSolution m => exact honours_aidingSolution_iff hcov h
    | _ => cases h
  | airspeed o =>
    cases m with
    | airspeed m => exact iff_of_true (honours_airspeed h) trivial
    | _ => cases h
  | barometer o =>
    cases m with
    | barometer m => exact iff_of_true (honours_barometer h) trivial
    | _ => cases h
  | dvl o =>
    cases m with
    | dvl m => exact iff_of_true (honours_dvl hcov h) trivial
    | _ => cases h
  | echoSounder o =>
    cases m with
    | echoSounder m => exact iff_of_true (honours_echoSounder h) trivial
    | _ => cases h
  | externalOdometry o =>
    cases m with
    | externalOdometry m => exact iff_of_true (honours_externalOdometry h) trivial
    | _ => cases h
  | externalPose o =>
    cases m with
    | externalPose m => exact iff_of_true (honours_externalPose hcov h) trivial
    | _ => cases h
  | externalVelocity o =>
    cases m with
    | externalVelocity m => exact iff_of_true (honours_externalVelocity hcov h) trivial
    | _ => cases h
  | gnssLooselyCoupled o =>
    cases m with
    | gnssSolution m => exact iff_of_true (honours_gnssLooselyCoupled hcov h) trivial
    | _ => cases h
  | magnetometer o =>
    cases m with
    | magnetometer m => exact iff_of_true (honours_magnetometer h) trivial
    | _ => cases h
  | opticalFlow o =>
    cases m with
    | opticalFlow m => exact iff_of_true (honours_opticalFlow h) trivial
    | _ => cases h
  | radarAltimeter o =>
    cases m with
    | radarAltimeter m => exact iff_of_true (honours_radarAltimeter h) trivial
    | _ => cases h
  | starTracker o =>
    cases m with
    | starTracker m => exact iff_of_false (not_honours_starTracker h) id
    | _ => cases h
  | wheelOdometry o =>
    cases m with
    | wheelOdometry m => exact iff_of_true (honours_wheelOdometry h) trivial
    | _ => cases h

/-- An altitude of ten metres. -/
theorem honours_iff_barometer :
    (barometer {}).Honours (.barometer { altitudeM := some 10 }) {} (.const 10) := by
  have hobserve : ((barometer {}).model 0).observe (.barometer { altitudeM := some 10 }) {}
      = some (.const 10) := by
    simp [model, Ukf.barometer]
  have hcov : CovariancesPosSemidef (.barometer { altitudeM := some 10 }) := trivial
  exact (honours_iff hcov hobserve).mpr trivial

/-- An aiding solution with a position alone is three rows, and `Predict` nine; a star tracker
    without pitch and roll has a `MeasurementDim` of one, and observes three rows. -/
theorem not_honours :
    let aid : SensorMeasurement := .aidingSolution { positionEcefM := some 0 }
    let ctx : UpdateContext := { ltp := some (.make {}) }
    let st : SensorMeasurement := .starTracker {}
    (CovariancesPosSemidef aid ∧ ∃ z, ((aidingSolution {}).model 0).observe aid ctx = some z ∧
      z.size = 3 ∧ (∀ s, (((aidingSolution {}).model 0).predict s ctx).size = 9) ∧
      ¬ (aidingSolution {}).Honours aid ctx z) ∧
    CovariancesPosSemidef st ∧ ∃ z, ((starTracker {}).model 0).observe st ctx = some z ∧
      z.size = 3 ∧ (starTracker {}).measurementDim st = 1 ∧
      ¬ (starTracker {}).Honours st ctx z := by
  intro aid ctx st
  refine ⟨⟨⟨.zero, .zero⟩, ?_⟩, trivial, ?_⟩
  · have hobserve : ((aidingSolution {}).model 0).observe aid ctx
        = some (.stack [(LocalTangentPlane.make {}).ecefToEnu 0]) := by
      simp [model, Ukf.aidingSolution, aid, ctx, OrientationValidity.any]
    refine ⟨_, hobserve, rfl, fun s => rfl, fun hhonours => ?_⟩
    have hsize : 9 = 3 := hhonours.predict_size 0 {}
    omega
  · have hobserve : ((starTracker {}).model 0).observe st ctx
        = some (.ofVec3 (logMapSo3 (quaternionFromStarTracker 0 0 0 1))) := by
      simp [model, Ukf.starTracker, st]
    exact ⟨_, hobserve, rfl, rfl, not_honours_starTracker hobserve⟩

end Honours

end ModelKind

end FalconGuide.Ukf
