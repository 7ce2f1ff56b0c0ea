import FalconGuide.Ekf.Blocks
import FalconGuide.Ekf.Estimator

namespace FalconGuide

open Lib Matrix

/-!
# What a measurement model does to the estimate

* `Applied` — an `Apply` keeps the covariance positive semidefinite, and changes nothing unless
  the measurement is accepted;
* `applied_ekfUpdate`, `Applied.block` — the update helpers do so;
* `MeasurementModel.apply_applied` — and fifteen of the sixteen models with them;
* `posSemidef_gnssTightlyCoupledApply` — the covariance half for the sixteenth.
-/

/-- The covariances that a measurement brings along are positive semidefinite. -/
def SensorMeasurement.CovariancesPosSemidef : SensorMeasurement → Prop
  | .gnssSolution m =>
    m.positionCovarianceEcefM2.PosSemidef ∧ m.velocityCovarianceEcefM2ps2.PosSemidef
  | .aidingSolution m =>
    m.positionCovarianceEcefM2.PosSemidef ∧ m.velocityCovarianceEcefMps2.PosSemidef
  | .externalPose m => m.covariance.PosSemidef
  | .dvl m => m.velocityCovarianceM2ps2.PosSemidef
  | _ => True

/-- `Applied ok est outcome`: `outcome` is what an `Apply` may make of `est`, for a measurement
    whose covariances are positive semidefinite if `ok`. -/
structure Applied {n : ℕ} (ok : Prop) (est : Estimate n)
    (outcome : Estimate n × EstimatorUpdateResult) : Prop where
  posSemidef : ok → est.covariance.PosSemidef → outcome.1.covariance.PosSemidef
  unchanged : outcome.2 ≠ .accepted → outcome.1 = est

variable {n m : ℕ} {ok : Prop} {est : Estimate n} {eigen : Eigen} {nominal : NominalState}
  {layout : StateLayout} {context : UpdateContext}

/-! ### The update helpers -/

/-- A measurement that is not used. -/
theorem Applied.unused (est : Estimate n) (result : EstimatorUpdateResult) :
    Applied ok est (est, result) where
  posSemidef _ hP := hP
  unchanged _ := rfl

/-- The covariance after a Joseph update with any gain. -/
theorem posSemidef_josephUpdate {P : Matrix (Fin n) (Fin n) ℝ} {R : Matrix (Fin m) (Fin m) ℝ}
    (hP : P.PosSemidef) (hR : R.PosSemidef) (H : Matrix (Fin m) (Fin n) ℝ)
    (K : Matrix (Fin n) (Fin m) ℝ) :
    (symmetrizeCovariance ((1 - K * H) * P * (1 - K * H)ᵀ + K * R * Kᵀ)).PosSemidef :=
  posSemidef_symmetrizeCovariance (Kalman.posSemidef_joseph hP hR H K)

/-- `EkfUpdate`, with a noise matrix that is a covariance. -/
theorem applied_ekfUpdate {H : Matrix (Fin m) (Fin n) ℝ} {dz : Fin m → ℝ}
    {R : Matrix (Fin m) (Fin m) ℝ} {gate : ℝ} (hR : ok → R.PosSemidef) :
    Applied ok est (ekfUpdate eigen est H dz R gate) := by
  rw [ekfUpdate]
  split
  · exact .unused est _
  · exact ⟨fun hok hP => posSemidef_josephUpdate hP (hR hok) H _, fun h => absurd rfl h⟩

/-- One more block of a measurement. -/
theorem Applied.block {outcome : Estimate n × EstimatorUpdateResult}
    {H : Matrix (Fin m) (Fin n) ℝ} {dz : Fin m → ℝ} {R : Matrix (Fin m) (Fin m) ℝ} {gate : ℝ}
    (h : Applied ok est outcome) (hR : ok → R.PosSemidef) :
    Applied ok est (blockUpdate eigen outcome H dz R gate) := by
  have hstep : Applied ok outcome.1 (ekfUpdate eigen outcome.1 H dz R gate) :=
    applied_ekfUpdate hR
  refine ⟨fun hok hP => hstep.posSemidef hok (h.posSemidef hok hP), fun hresult => ?_⟩
  have hnot : ¬ (if (ekfUpdate eigen outcome.1 H dz R gate).2 = .accepted then .accepted
      else outcome.2) = EstimatorUpdateResult.accepted := hresult
  show (ekfUpdate eigen outcome.1 H dz R gate).1 = est
  -- an accepted block makes the outcome accepted, so this one and those before it were not
  by_cases hacc : (ekfUpdate eigen outcome.1 H dz R gate).2 = .accepted
  · exact absurd (if_pos hacc) hnot
  · rw [if_neg hacc] at hnot
    exact (hstep.unchanged hacc).trans (h.unchanged hnot)

section Blocks

variable {outcome : Estimate n × EstimatorUpdateResult} {H : Matrix (Fin m) (Fin n) ℝ}
  {R : Matrix (Fin m) (Fin m) ℝ} {gate : ℝ}

/-- A block that an option may switch off. -/
theorem Applied.ifBlock {c : Prop} {_ : Decidable c} {dz : Fin m → ℝ} (h : Applied ok est outcome)
    (hR : ok → R.PosSemidef) :
    Applied ok est (if c then blockUpdate eigen outcome H dz R gate else outcome) := by
  split
  · exact h.block hR
  · exact h

/-- A block that a measurement may lack. -/
theorem Applied.optionBlock {α : Type} {value : Option α} {dz : α → Fin m → ℝ}
    (h : Applied ok est outcome) (hR : ok → R.PosSemidef) :
    Applied ok est (value.elim outcome fun x => blockUpdate eigen outcome H (dz x) R gate) := by
  cases value with
  | none => exact h
  | some x => exact h.block hR

/-- A block that a measurement may lack, or not vouch for. -/
theorem Applied.optionIfBlock {α : Type} {value : Option α} {c : Prop} {_ : Decidable c}
    {dz : α → Fin m → ℝ} (h : Applied ok est outcome) (hR : ok → R.PosSemidef) :
    Applied ok est
      (value.elim outcome fun x =>
        if c then blockUpdate eigen outcome H (dz x) R gate else outcome) := by
  cases value with
  | none => exact h
  | some x => exact h.ifBlock hR

end Blocks

/-! ### Noise matrices -/

/-- The noise of a position or a velocity. -/
theorem posSemidef_blockNoise {R cov : Mat3} (h : cov.PosSemidef) (override : Option ℝ)
    (fallback : ℝ) : (blockNoise override R cov fallback).PosSemidef := by
  unfold blockNoise
  split
  · exact posSemidef_isotropicNoise 3 _
  · split
    · exact posSemidef_isotropicNoise 3 fallback
    · exact Kalman.posSemidef_congr h R

/-- The noise of a GNSS block. -/
theorem posSemidef_gnssNoise {R cov : Mat3} (h : cov.PosSemidef) (override : Option ℝ) :
    (gnssNoise override R cov).PosSemidef := by
  unfold gnssNoise
  split
  · exact posSemidef_isotropicNoise 3 _
  · exact Kalman.posSemidef_congr h R

/-- Two blocks of three on the diagonal. -/
theorem posSemidef_twoBlocks {A B : Mat3} (hA : A.PosSemidef) (hB : B.PosSemidef) :
    (setBlock (setBlock (0 : Matrix (Fin 6) (Fin 6) ℝ) 0 0 A) 3 3 B).PosSemidef :=
  BlockDiagonal.posSemidef
    ((BlockDiagonal.zero.setBlock (by decide) hA).setBlock (by decide) hB)

/-! ### The models -/

theorem barometer_applied (options : BarometerOptions) (baro : BarometerMeasurement) :
    Applied ok est (barometerApply eigen options nominal est layout baro) := by
  unfold barometerApply
  split
  · exact .unused est _
  · split
    · exact .unused est _
    · exact applied_ekfUpdate fun _ => posSemidef_isotropicNoise 1 _

theorem echoSounder_applied (options : EchoSounderOptions) (es : EchoSounderMeasurement) :
    Applied ok est (echoSounderApply eigen options nominal est layout es) := by
  unfold echoSounderApply
  split
  · exact .unused est _
  · split
    · exact .unused est _
    · exact applied_ekfUpdate fun _ => posSemidef_isotropicNoise 1 _

theorem radarAltimeter_applied (options : RadarAltimeterOptions)
    (ralt : RadarAltimeterMeasurement) :
    Applied ok est (radarAltimeterApply eigen options nominal est layout ralt) := by
  unfold radarAltimeterApply
  split
  · exact .unused est _
  · split
    · exact .unused est _
    · split
      · exact .unused est _
      · exact applied_ekfUpdate fun _ => posSemidef_isotropicNoise 1 _

theorem rangeFinder_applied (options : RangeFinderOptions) (rf : RangeFinderMeasurement) :
    Applied ok est (rangeFinderApply eigen options nominal est layout rf) := by
  unfold rangeFinderApply
  split
  · exact .unused est _
  · split
    · exact .unused est _
    · split
      · exact .unused est _
      · exact applied_ekfUpdate fun _ => posSemidef_isotropicNoise 1 _

theorem airspeed_applied (options : AirspeedOptions) (asp : AirspeedMeasurement) :
    Applied ok est (airspeedApply eigen options nominal est layout asp) := by
  unfold airspeedApply
  split
  · exact .unused est _
  · split
    · exact .unused est _
    · show Applied ok est (ite _ _ _)
      split
      · exact .unused est _
      · exact applied_ekfUpdate fun _ => posSemidef_isotropicNoise 1 _

/-- A velocity log may bring its own covariance. -/
theorem dvl_applied (options : DvlOptions) (dvl : DvlMeasurement)
    (hok : ok → dvl.velocityCovarianceM2ps2.PosSemidef) :
    Applied ok est (dvlApply eigen options nominal est layout dvl) := by
  unfold dvlApply
  split
  · exact .unused est _
  · split
    · exact .unused est _
    · refine applied_ekfUpdate fun h => ?_
      split
      · exact hok h
      · exact posSemidef_isotropicNoise 3 _

theorem bodyVelocity_applied (vObs omegaObs latestGyro : Vec3) (useAngularRate : Bool)
    (sigmaLinear sigmaAngular gate : ℝ) :
    Applied ok est (bodyVelocityUpdate eigen nominal est layout vObs omegaObs latestGyro
      useAngularRate sigmaLinear sigmaAngular gate) := by
  unfold bodyVelocityUpdate
  cases useAngularRate with
  | false => exact applied_ekfUpdate fun _ => posSemidef_isotropicNoise 3 _
  | true =>
    exact applied_ekfUpdate fun _ =>
      posSemidef_twoBlocks (posSemidef_isotropicNoise 3 _) (posSemidef_isotropicNoise 3 _)

theorem externalVelocity_applied (options : ExternalVelocityOptions)
    (ev : ExternalVelocityMeasurement) :
    Applied ok est (externalVelocityApply eigen options nominal est layout ev) := by
  unfold externalVelocityApply
  split
  · exact .unused est _
  · exact bodyVelocity_applied _ _ _ _ _ _ _

theorem wheelOdometry_applied (options : WheelOdometryOptions) (odo : WheelOdometryMeasurement) :
    Applied ok est (wheelOdometryApply eigen options nominal est layout odo) := by
  unfold wheelOdometryApply
  split
  · exact .unused est _
  · exact bodyVelocity_applied _ _ _ _ _ _ _

theorem magnetometer_applied (options : MagnetometerOptions) (mag : MagnetometerMeasurement) :
    Applied ok est (magnetometerApply eigen options nominal est layout mag) := by
  unfold magnetometerApply
  split
  · exact .unused est _
  · exact applied_ekfUpdate fun _ => posSemidef_isotropicNoise 3 _

theorem opticalFlow_applied (options : OpticalFlowOptions) (flow : OpticalFlowMeasurement) :
    Applied ok est (opticalFlowApply eigen options nominal est layout flow) := by
  unfold opticalFlowApply
  split
  · exact .unused est _
  · split
    · exact .unused est _
    · show Applied ok est (ite _ _ _)
      split
      · exact .unused est _
      · split
        · exact .unused est _
        · exact applied_ekfUpdate fun _ => posSemidef_isotropicNoise 2 _

theorem starTracker_applied (options : StarTrackerOptions) (st : StarTrackerMeasurement) :
    Applied ok est (starTrackerApply eigen options nominal est layout st) := by
  unfold starTrackerApply
  split
  · exact .unused est _
  · show Applied ok est (ite _ _ _)
    split
    · refine applied_ekfUpdate fun _ => .diagonal fun i => ?_
      fin_cases i <;> exact mul_self_nonneg _
    · exact applied_ekfUpdate fun _ => posSemidef_isotropicNoise 1 _

/-- The blocks of an aiding solution are used one after the other. -/
theorem aidingSolution_applied (options : AidingSolutionOptions) (aid : AidingSolution)
    (hok : ok → aid.positionCovarianceEcefM2.PosSemidef ∧
      aid.velocityCovarianceEcefMps2.PosSemidef) :
    Applied ok est (aidingSolutionApply eigen options nominal est layout aid context) := by
  unfold aidingSolutionApply
  split
  · exact .unused est _
  · split
    · exact .unused est _
    · split
      · exact .unused est _
      · refine Applied.optionIfBlock ?velocity fun _ => posSemidef_isotropicNoise 3 _
        refine Applied.optionBlock ?position fun h => posSemidef_blockNoise (hok h).2 _ _
        exact (Applied.unused est _).optionBlock fun h => posSemidef_blockNoise (hok h).1 _ _

theorem externalOdometry_applied (options : ExternalOdometryOptions)
    (eo : ExternalOdometryMeasurement) :
    Applied ok est (externalOdometryApply eigen options nominal est layout eo context) := by
  unfold externalOdometryApply
  split
  · exact .unused est _
  · split
    · exact .unused est _
    · refine Applied.ifBlock ?velocity fun _ => posSemidef_isotropicNoise 3 _
      refine Applied.ifBlock ?position fun _ => posSemidef_isotropicNoise 3 _
      exact (Applied.unused est _).ifBlock fun _ => posSemidef_isotropicNoise 3 _

/-- Of the covariance of a pose only the position block is read. -/
theorem externalPose_applied (options : ExternalPoseOptions) (ep : ExternalPoseMeasurement)
    (hok : ok → ep.covariance.PosSemidef) :
    Applied ok est (externalPoseApply eigen options nominal est layout ep context) := by
  unfold externalPoseApply
  split
  · exact .unused est _
  · split
    · exact .unused est _
    · refine Applied.ifBlock ?position fun _ => posSemidef_isotropicNoise 3 _
      refine (Applied.unused est _).ifBlock fun h => ?_
      exact posSemidef_blockNoise (posSemidef_block (hok h) (by omega)) _ _

/-- `ApplySolution` is an update of its own, with its gate on the position alone. -/
theorem applySolution_applied (options : GnssLooselyCoupledOptions) (gnss : GnssSolution)
    (ltp : LocalTangentPlane)
    (hok : ok → gnss.positionCovarianceEcefM2.PosSemidef ∧
      gnss.velocityCovarianceEcefM2ps2.PosSemidef) :
    Applied ok est (applySolution eigen options nominal est layout gnss ltp) := by
  unfold applySolution
  show Applied ok est (ite _ _ _)
  split
  · exact .unused est _
  · refine ⟨fun h hP => posSemidef_josephUpdate hP ?_ _ _, fun h => absurd rfl h⟩
    exact posSemidef_twoBlocks (posSemidef_gnssNoise (hok h).1 _) (posSemidef_gnssNoise (hok h).2 _)

theorem gnssLooselyCoupled_applied (options : GnssLooselyCoupledOptions) (gnss : GnssSolution)
    (hok : ok → gnss.positionCovarianceEcefM2.PosSemidef ∧
      gnss.velocityCovarianceEcefM2ps2.PosSemidef) :
    Applied ok est (gnssLooselyCoupledApply eigen options nominal est layout gnss context) := by
  unfold gnssLooselyCoupledApply
  split
  · exact .unused est _
  · split
    · exact .unused est _
    · split
      · exact .unused est _
      · exact applySolution_applied options gnss _ hok

/-- **Fifteen models.** Whatever the measurement, a model other than the tightly coupled one keeps
    the covariance positive semidefinite and changes nothing unless it accepts. -/
theorem MeasurementModel.apply_applied {model : MeasurementModel}
    (hmodel : ∀ options, model ≠ .gnssTightlyCoupled options) (measurement : SensorMeasurement) :
    Applied measurement.CovariancesPosSemidef est
      (model.apply eigen nominal est layout context measurement) := by
  unfold MeasurementModel.apply
  split
  · exact aidingSolution_applied _ _ id
  · exact airspeed_applied _ _
  · exact barometer_applied _ _
  · exact dvl_applied _ _ id
  · exact echoSounder_applied _ _
  · exact externalOdometry_applied _ _
  · exact externalPose_applied _ _ id
  · exact externalVelocity_applied _ _
  · exact gnssLooselyCoupled_applied _ _ id
  · exact absurd rfl (hmodel _)
  · exact magnetometer_applied _ _
  · exact opticalFlow_applied _ _
  · exact radarAltimeter_applied _ _
  · exact rangeFinder_applied _ _
  · exact starTracker_applied _ _
  · exact wheelOdometry_applied _ _
  · exact .unused est _

/-! ### The tightly coupled model -/

/-- `ScalarUpdate`, used or not. -/
theorem posSemidef_scalarUpdate (gateSigma : ℝ) (hP : est.covariance.PosSemidef) (h : Fin n → ℝ)
    (innovation sigma : ℝ) :
    (scalarUpdate gateSigma est h innovation sigma).1.covariance.PosSemidef := by
  unfold scalarUpdate
  show (ite _ _ _ : Estimate n × Bool).1.covariance.PosSemidef
  split
  · exact hP
  · split
    · exact hP
    · have hjoseph := Kalman.posSemidef_scalarJoseph hP { h, innovation, sigma }
      simp only [Kalman.scalarJoseph, sq] at hjoseph
      exact posSemidef_symmetrizeCovariance (hjoseph _)

/-- One satellite. -/
theorem posSemidef_svUpdate (options : GnssTightlyCoupledOptions) (rcv : Receiver)
    (sv : GnssTightlyCoupledObservation) {state : Estimate n × ℕ}
    (hP : state.1.covariance.PosSemidef) :
    (svUpdate options rcv layout sv state).1.covariance.PosSemidef := by
  unfold svUpdate
  split
  · have hrange := posSemidef_scalarUpdate options.innovationGateSigma hP
    cases sv.raw.dopplerHz with
    | none => exact hrange _ _ _
    | some dopplerHz => exact posSemidef_scalarUpdate _ (hrange _ _ _) _ _ _
  · exact hP

/-- Any number of satellites. -/
theorem posSemidef_foldl_svUpdate (options : GnssTightlyCoupledOptions) (rcv : Receiver)
    (svs : List GnssTightlyCoupledObservation) {state : Estimate n × ℕ}
    (hP : state.1.covariance.PosSemidef) :
    (svs.foldl (fun state sv => svUpdate options rcv layout sv state)
      state).1.covariance.PosSemidef := by
  induction svs generalizing state with
  | nil => exact hP
  | cons sv svs ih => exact ih (posSemidef_svUpdate options rcv sv hP)

/-- An epoch, used in whole, in part or not at all. -/
theorem posSemidef_gnssTightlyCoupledApply (options : GnssTightlyCoupledOptions)
    (epoch : GnssTightlyCoupledEpoch) (hP : est.covariance.PosSemidef) :
    (gnssTightlyCoupledApply options nominal est layout epoch context).1.covariance.PosSemidef := by
  unfold gnssTightlyCoupledApply
  split
  · exact hP
  · split
    · exact hP
    · exact hP
    · split
      · exact hP
      · split
        · exact hP
        · exact posSemidef_foldl_svUpdate options _ _ hP

/-- **All models.** A measurement whose covariances are positive semidefinite keeps the covariance
    positive semidefinite, accepted or not. -/
theorem MeasurementModel.posSemidef_apply {measurement : SensorMeasurement}
    (hm : measurement.CovariancesPosSemidef) (hP : est.covariance.PosSemidef)
    (model : MeasurementModel) :
    (model.apply eigen nominal est layout context measurement).1.covariance.PosSemidef := by
  by_cases hmodel : ∃ options, model = .gnssTightlyCoupled options
  · obtain ⟨options, rfl⟩ := hmodel
    cases measurement with
    | gnssTightlyCoupledEpoch epoch => exact posSemidef_gnssTightlyCoupledApply options epoch hP
    | _ => exact hP
  · have hother : ∀ options, model ≠ .gnssTightlyCoupled options := fun options h =>
      hmodel ⟨options, h⟩
    exact (apply_applied hother measurement).posSemidef hm hP

end FalconGuide
