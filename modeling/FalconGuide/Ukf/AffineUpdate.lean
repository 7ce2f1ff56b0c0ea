import FalconGuide.Ekf.Estimator
import FalconGuide.Ukf.Update

namespace FalconGuide.Ukf

open Lib Matrix

/-!
# Affine measurement models

A model that observes position and velocity only is affine in the error state.  There the moments
of the sigma points are exact, and the update of the unscented filter is the Kalman update, which
the error-state filter makes in Joseph form.

* `applyMeasurementModel_of_affine` — the update of the unscented filter is the Kalman update;
* `NominalState.ofEkf`, `Counterpart` — the nominal states and the models of the two filters;
* `Observes`, `Counterpart.agree` — counterparts observe the same;
* `ekfStep`, `counterparts_agree` — one update of either filter, from the same prior.
-/

/-! ### The Kalman update -/

section Affine

variable {d : Decompositions} {p : MerweSigmaParams} {model : MeasurementModel}
  {measurement : SensorMeasurement} {ctx : UpdateContext} {s : UkfState} {zObs : VectorXd}
  {zNominal : Fin zObs.size → ℝ} {H : Matrix (Fin zObs.size) (Fin stateSize) ℝ}

/-- **The update at an affine model** is the Kalman update, whatever the weights. -/
theorem applyMeasurementModel_of_affine (hd : d.Exact) (hscale : 0 < p.scale)
    (hmodel : DefaultInnovation model) (hP : s.covariance.PosDef)
    (hobs : model.observe measurement ctx = some zObs)
    (hR : ((model.noiseCovariance measurement ctx).corner zObs.size).PosDef)
    (haffine : ∀ sigma, (model.predict (unpackSigmaPoint s.nominal sigma) ctx).head zObs.size
      = zNominal + H *ᵥ sigma) :
    let R := (model.noiseCovariance measurement ctx).corner zObs.size
    let dx := Kalman.gain s.covariance H R *ᵥ (zObs.val - zNominal)
    applyMeasurementModel d p model measurement ctx s
      = ({ nominal := correctedNominal s.nominal dx
           covariance := Kalman.posterior s.covariance H R
           sigmaPoints := (generateSigmaPoints d p s).sigmaPoints },
          { result := .accepted
            modelName := model.name
            correctionNorm := some (euclideanNorm dx) }) := by
  intro R dx
  let X := sigmaSet p hscale (factorOf d p s)
  have hcov : X.covariance = s.covariance :=
    covariance_sigmaSet hscale _ (factorOf_mul_transpose hd hscale hP)
  have hgen := generateSigmaPoints_eq hd hscale hP
  let z := predictedPoint model ctx (generateSigmaPoints d p s) zObs.size
  have hz : ∀ i, z i = zNominal + H *ᵥ X.point i := by
    intro i
    show predictedPoint model ctx (generateSigmaPoints d p s) zObs.size i = _
    rw [hgen]
    exact haffine _
  have hcentre : z X.centre = zNominal := by
    rw [hz, X.point_centre, mulVec_zero, add_zero]
  have hoffset : ∀ i, X.offset z i = H *ᵥ X.point i := by
    intro i
    rw [SigmaSet.offset, hcentre, hz, add_sub_cancel_left]
  -- the moments of the sigma points
  have hmean : predictedMean p model ctx (generateSigmaPoints d p s) zObs.size = zNominal := by
    rw [← hcentre]
    exact X.mean_affine hoffset
  have hS : innovationCovariance p model measurement ctx (generateSigmaPoints d p s) zObs.size
      = Kalman.innovationCov s.covariance H R := by
    rw [innovationCovariance_eq hscale (factorOf d p s) hmodel, Kalman.innovationCov, ← hcov]
    exact X.innovationCov_affine _ hoffset
  have hcross : crossCovariance p model ctx (generateSigmaPoints d p s) zObs.size
      = s.covariance * Hᵀ := by
    rw [crossCovariance_eq hscale (factorOf d p s) hmodel (by rw [hgen]), ← hcov]
    exact X.crossCov_affine hoffset
  have hSpos : (Kalman.innovationCov s.covariance H R).PosDef :=
    Kalman.posDef_innovationCov hP.posSemidef hR
  have hK : kalmanGain d p model measurement ctx (generateSigmaPoints d p s) zObs.size
      = Kalman.gain s.covariance H R := by
    rw [kalmanGain_eq hd (hS ▸ hSpos), hS, hcross, Kalman.gain]
  -- `P - K S Kᵀ` is the posterior
  have hpost := Kalman.posterior_eq_sub_congr (H := H) hP.posSemidef hR
  have hsymm : symmetrizeCovariance (Kalman.posterior s.covariance H R)
      = Kalman.posterior s.covariance H R :=
    Kalman.symmetrize_of_isSymm
      (Kalman.transpose_eq (Kalman.posSemidef_posterior hP.posSemidef hR))
  rw [applyMeasurementModel_of_some hobs, hmean, hS, hK, hmodel, hgen, ← hpost, hsymm]

end Affine

/-! ### Counterparts -/

/-- The nominal state of the error-state filter, without its clock. -/
def NominalState.ofEkf (nominal : FalconGuide.NominalState) : NominalState where
  timestamp := nominal.timestamp
  positionEnuM := nominal.positionEnuM
  velocityEnuMps := nominal.velocityEnuMps
  orientationBodyToEnu := nominal.orientationBodyToEnu
  accelBiasMps2 := nominal.accelBiasMps2
  gyroBiasRadps := nominal.gyroBiasRadps

/-- The affine models that both filters have, with equal options and without a gate. -/
inductive Counterpart : FalconGuide.MeasurementModel → MeasurementModel → Prop
  | gnssLooselyCoupled (o : FalconGuide.GnssLooselyCoupledOptions) (hgate : o.positionGate ≤ 0) :
      Counterpart (.gnssLooselyCoupled o)
        (gnssLooselyCoupled
          { positionSigmaM := o.positionSigmaM, velocitySigmaMps := o.velocitySigmaMps })
  | barometer (o : BarometerOptions) (hgate : o.innovationGate ≤ 0)
      (hsigma : o.altitudeSigmaM.isSome) : Counterpart (.barometer o) (barometer o)
  | echoSounder (o : EchoSounderOptions) (hgate : o.innovationGate ≤ 0) :
      Counterpart (.echoSounder o) (echoSounder o)
  | radarAltimeter (o : RadarAltimeterOptions) (hgate : o.innovationGate ≤ 0) :
      Counterpart (.radarAltimeter o) (radarAltimeter o)

/-- What counterparts make of a measurement that the model of the unscented filter observes as
    `zObs`: an affine prediction, and an update of the error state with the same innovation,
    Jacobian and noise. -/
structure Observes (ekf : FalconGuide.MeasurementModel) (ukf : MeasurementModel)
    (nominal : FalconGuide.NominalState) (measurement : SensorMeasurement) (ctx : UpdateContext)
    (zObs : VectorXd) (zNominal : Fin zObs.size → ℝ)
    (H : Matrix (Fin zObs.size) (Fin stateSize) ℝ) (gate : ℝ) : Prop where
  gate_off : gate ≤ 0
  observe : ukf.observe measurement ctx = some zObs
  predict : ∀ sigma, (ukf.predict (unpackSigmaPoint (.ofEkf nominal) sigma) ctx).head zObs.size
    = zNominal + H *ᵥ sigma
  apply : ∀ est : Estimate stateSize,
    ekf.apply .exact nominal est makeStandardLayout ctx measurement
      = ekfUpdate .exact est H (zObs.val - zNominal)
          ((ukf.noiseCovariance measurement ctx).corner zObs.size) gate

/-- Counterparts either both leave a measurement out, or observe the same. -/
def Agree (ekf : FalconGuide.MeasurementModel) (ukf : MeasurementModel)
    (nominal : FalconGuide.NominalState) (measurement : SensorMeasurement) (ctx : UpdateContext) :
    Prop :=
  (ukf.observe measurement ctx = none ∧ ∀ est : Estimate stateSize,
    (ekf.apply .exact nominal est makeStandardLayout ctx measurement).1 = est ∧
    (ekf.apply .exact nominal est makeStandardLayout ctx measurement).2 ≠ .accepted) ∨
  ∃ zObs zNominal H gate, Observes ekf ukf nominal measurement ctx zObs zNominal H gate

section Counterparts

variable {ekf : FalconGuide.MeasurementModel} {ukf : MeasurementModel}
  {nominal : FalconGuide.NominalState} {measurement : SensorMeasurement} {ctx : UpdateContext}

/-- The row of an altitude. -/
theorem altitudeRow_mulVec (x : ℝ) (sigma : StateVector) :
    (setEntry 0 0 2 x : Matrix (Fin 1) (Fin stateSize) ℝ) *ᵥ sigma = fun _ => x * sigma 2 := by
  funext i
  obtain rfl := Subsingleton.elim 0 i
  simp [mulVec, dotProduct, setEntry, setBlock, Fin.sum_univ_succ]

/-- The altitude of a sigma point. -/
theorem unpackSigmaPoint_altitude (mean : NominalState) (sigma : StateVector) :
    (unpackSigmaPoint mean sigma).positionEnuM 2 = mean.positionEnuM 2 + sigma 2 := rfl

/-- **An altitude** that is the third coordinate, up to a sign and an offset. -/
theorem agree_of_altitude (h x : ℝ) {z sigma gate : ℝ} (hgate : gate ≤ 0)
    (hobs : ukf.observe measurement ctx = some (.const z))
    (hnoise : ukf.noiseCovariance measurement ctx = .const (sigma * sigma))
    (hpredict : ∀ v, ukf.predict (unpackSigmaPoint (.ofEkf nominal) v) ctx
      = .const (h + x * v 2))
    (happly : ∀ est : Estimate stateSize,
      ekf.apply .exact nominal est makeStandardLayout ctx measurement
        = ekfUpdate .exact est (setEntry 0 0 2 x) (fun _ => z - h) (isotropicNoise 1 sigma) gate) :
    Agree ekf ukf nominal measurement ctx := by
  let zNominal : Fin 1 → ℝ := fun _ => h
  refine .inr ⟨.const z, zNominal, setEntry 0 0 2 x, gate, hgate, hobs, ?_, ?_⟩
  · intro v
    show VectorXd.head _ 1 = zNominal + (setEntry 0 0 2 x : Matrix (Fin 1) _ ℝ) *ᵥ v
    rw [altitudeRow_mulVec, hpredict, VectorXd.head_const]
    rfl
  · intro est
    rw [happly, hnoise]
    show _ = ekfUpdate _ _ _ _ ((MatrixXd.const (sigma * sigma)).corner 1) _
    rw [MatrixXd.corner_const]
    rfl

/-- The barometer observes the same altitude in both filters. -/
theorem barometer_observe (o : BarometerOptions) (baro : BarometerMeasurement) :
    (barometer o).observe (.barometer baro) ctx
      = if baro.validity ≠ .valid then none
        else (barometerObservation o baro).map fun z => .const z.1 := by
  unfold barometer barometerObservation
  by_cases hvalid : baro.validity = .valid
  · cases haltitude : baro.altitudeM with
    | some altitude => simp [hvalid, haltitude]
    | none => by_cases hpressure : 0 < baro.pressurePa <;> simp [hvalid, haltitude, hpressure]
  · simp [hvalid]

/-- With a deviation in the options, altitude and pressure have that one. -/
theorem barometerObservation_snd {o : BarometerOptions} {sigma : ℝ}
    (ho : o.altitudeSigmaM = some sigma) {baro : BarometerMeasurement} {z : ℝ × ℝ}
    (h : barometerObservation o baro = some z) : z.2 = sigma := by
  rw [barometerObservation, ho] at h
  split at h
  · cases h
    rfl
  · split at h
    · cases h
      rfl
    · cases h

/-- The barometers of the two filters, with a deviation in the options. -/
theorem agree_barometer (o : BarometerOptions) (hgate : o.innovationGate ≤ 0)
    (hsigma : o.altitudeSigmaM.isSome) :
    Agree (.barometer o) (barometer o) nominal measurement ctx := by
  -- with a deviation of its own, the EKF takes no other
  obtain ⟨sigma, ho⟩ := Option.isSome_iff_exists.mp hsigma
  cases measurement with
  | barometer baro =>
    have hobs : (barometer o).observe (.barometer baro) ctx = _ := barometer_observe o baro
    have happly : ∀ est : Estimate stateSize,
        (MeasurementModel.barometer o).apply .exact nominal est makeStandardLayout ctx
          (.barometer baro) = barometerApply .exact o nominal est makeStandardLayout baro :=
      fun _ => rfl
    unfold barometerApply at happly
    by_cases hvalid : baro.validity = .valid
    · cases hz : barometerObservation o baro with
      | some z =>
        obtain rfl := barometerObservation_snd ho hz
        rw [if_neg (not_not_intro hvalid), hz] at hobs
        apply agree_of_altitude (nominal.positionEnuM 2) 1 hgate hobs
        · show MatrixXd.const (o.altitudeSigmaM.getD 2 * o.altitudeSigmaM.getD 2) = _
          rw [ho, Option.getD_some]
        · intro v
          rw [one_mul]
          rfl
        · intro est
          rw [happly, if_neg (not_not_intro hvalid), hz]
          rfl
      | none =>
        rw [if_neg (not_not_intro hvalid), hz] at hobs
        refine .inl ⟨hobs, fun est => ?_⟩
        rw [happly, if_neg (not_not_intro hvalid), hz]
        exact ⟨rfl, by rintro ⟨⟩⟩
    · rw [if_pos hvalid] at hobs
      refine .inl ⟨hobs, fun est => ?_⟩
      rw [happly, if_pos hvalid]
      exact ⟨rfl, by rintro ⟨⟩⟩
  | _ => exact .inl ⟨rfl, fun _ => ⟨rfl, by rintro ⟨⟩⟩⟩

/-- The echo sounders of the two filters. -/
theorem agree_echoSounder (o : EchoSounderOptions) (hgate : o.innovationGate ≤ 0) :
    Agree (.echoSounder o) (echoSounder o) nominal measurement ctx := by
  cases measurement with
  | echoSounder es =>
    have hobs : (echoSounder o).observe (.echoSounder es) ctx
        = if es.validity ≠ .valid ∨ es.depthOrRangeM < 0 then none
          else some (.const
            (es.depthOrRangeM * es.soundSpeedMps.getD o.soundSpeedMps / o.soundSpeedMps)) := rfl
    have happly : ∀ est : Estimate stateSize,
        (MeasurementModel.echoSounder o).apply .exact nominal est makeStandardLayout ctx
          (.echoSounder es) = echoSounderApply .exact o nominal est makeStandardLayout es :=
      fun _ => rfl
    unfold echoSounderApply at happly
    by_cases hvalid : es.validity = .valid
    · by_cases hdepth : es.depthOrRangeM < 0
      · rw [if_pos (.inr hdepth)] at hobs
        refine .inl ⟨hobs, fun est => ?_⟩
        rw [happly, if_neg (not_not_intro hvalid), if_pos hdepth]
        exact ⟨rfl, by rintro ⟨⟩⟩
      · rw [if_neg (by simp [hvalid, not_lt.mp hdepth])] at hobs
        apply agree_of_altitude (-nominal.positionEnuM 2 + o.depthOriginM) (-1) hgate hobs rfl
        · intro v
          show VectorXd.const (-(unpackSigmaPoint _ v).positionEnuM 2 + o.depthOriginM) = _
          rw [unpackSigmaPoint_altitude, NominalState.ofEkf]
          congr 1
          ring
        · intro est
          rw [happly, if_neg (not_not_intro hvalid), if_neg hdepth]
          rfl
    · rw [if_pos (.inl hvalid)] at hobs
      refine .inl ⟨hobs, fun est => ?_⟩
      rw [happly, if_pos hvalid]
      exact ⟨rfl, by rintro ⟨⟩⟩
  | _ => exact .inl ⟨rfl, fun _ => ⟨rfl, by rintro ⟨⟩⟩⟩

/-- The radar altimeters of the two filters. -/
theorem agree_radarAltimeter (o : RadarAltimeterOptions) (hgate : o.innovationGate ≤ 0) :
    Agree (.radarAltimeter o) (radarAltimeter o) nominal measurement ctx := by
  cases measurement with
  | radarAltimeter ralt =>
    have hobs : (radarAltimeter o).observe (.radarAltimeter ralt) ctx
        = if ralt.validity = .valid ∧ ralt.surface ≠ .invalid ∧ 0 ≤ ralt.rangeM then
            some (.const ralt.rangeM)
          else none := rfl
    have happly : ∀ est : Estimate stateSize,
        (MeasurementModel.radarAltimeter o).apply .exact nominal est makeStandardLayout ctx
          (.radarAltimeter ralt)
          = radarAltimeterApply .exact o nominal est makeStandardLayout ralt := fun _ => rfl
    unfold radarAltimeterApply at happly
    by_cases hok : ralt.validity = .valid ∧ ralt.surface ≠ .invalid ∧ 0 ≤ ralt.rangeM
    · obtain ⟨hvalid, hsurface, hrange⟩ := hok
      rw [if_pos ⟨hvalid, hsurface, hrange⟩] at hobs
      apply agree_of_altitude (nominal.positionEnuM 2 - o.terrainElevationM) 1 hgate hobs rfl
      · intro v
        show VectorXd.const ((unpackSigmaPoint _ v).positionEnuM 2 - o.terrainElevationM) = _
        rw [unpackSigmaPoint_altitude, NominalState.ofEkf]
        congr 1
        ring
      · intro est
        rw [happly, if_neg (not_not_intro hvalid), if_neg hsurface, if_neg hrange.not_gt]
        rfl
    · rw [if_neg hok] at hobs
      refine .inl ⟨hobs, fun est => ?_⟩
      rw [happly]
      split_ifs with hvalid hsurface hrange
      · exact ⟨rfl, by rintro ⟨⟩⟩
      · exact ⟨rfl, by rintro ⟨⟩⟩
      · exact ⟨rfl, by rintro ⟨⟩⟩
      · exact absurd ⟨not_not.mp hvalid, hsurface, not_lt.mp hrange⟩ hok
  | _ => exact .inl ⟨rfl, fun _ => ⟨rfl, by rintro ⟨⟩⟩⟩

/-! ### The fix -/

/-- Position and velocity, one after the other. -/
def positionVelocity (position velocity : Vec3) : Fin 6 → ℝ :=
  setSegment (setSegment 0 0 position) 3 velocity

theorem positionVelocity_sub (p p' v v' : Vec3) :
    positionVelocity (p - p') (v - v') = positionVelocity p v - positionVelocity p' v' := by
  funext i
  fin_cases i <;> rfl

theorem positionVelocity_add (p p' v v' : Vec3) :
    positionVelocity (p + p') (v + v') = positionVelocity p v + positionVelocity p' v' := by
  funext i
  fin_cases i <;> rfl

/-- The rows of a fix. -/
theorem fixRows_mulVec (sigma : StateVector) :
    (setBlock (setBlock 0 0 0 (1 : Mat3)) 3 3 (1 : Mat3) : Matrix (Fin 6) (Fin stateSize) ℝ)
      *ᵥ sigma = positionVelocity (segment sigma 0 3) (segment sigma 3 3) := by
  -- row `i` reads entry `i`
  have hrow : ∀ i : Fin 6, (setBlock (setBlock 0 0 0 (1 : Mat3)) 3 3 (1 : Mat3) :
      Matrix (Fin 6) (Fin stateSize) ℝ) i = Pi.single (i.castLE (by decide)) 1 := by
    intro i
    funext j
    fin_cases i <;> fin_cases j <;> rfl
  funext i
  rw [mulVec, hrow, single_one_dotProduct]
  fin_cases i <;> rfl

/-- The loosely coupled fixes of the two filters. -/
theorem agree_gnssLooselyCoupled (o : FalconGuide.GnssLooselyCoupledOptions)
    (hgate : o.positionGate ≤ 0) :
    Agree (.gnssLooselyCoupled o)
      (gnssLooselyCoupled
        { positionSigmaM := o.positionSigmaM, velocitySigmaMps := o.velocitySigmaMps })
      nominal measurement ctx := by
  cases measurement with
  | gnssSolution gnss =>
    have happly : ∀ est : Estimate stateSize,
        (MeasurementModel.gnssLooselyCoupled o).apply .exact nominal est makeStandardLayout ctx
          (.gnssSolution gnss)
          = gnssLooselyCoupledApply .exact o nominal est makeStandardLayout gnss ctx :=
      fun _ => rfl
    unfold gnssLooselyCoupledApply at happly
    unfold gnssLooselyCoupled
    -- the checks are the same, in the same order
    cases hltp : ctx.ltp with
    | none =>
      refine .inl ⟨by simp only [hltp], fun est => ?_⟩
      rw [happly, hltp]
      exact ⟨rfl, by rintro ⟨⟩⟩
    | some ltp =>
      by_cases hfix : gnss.fixType = .noFix
      · refine .inl ⟨by simp only [hltp, if_pos hfix], fun est => ?_⟩
        rw [happly, hltp]
        simp [hfix]
      · by_cases hvalid : gnss.validity = .valid
        · let R := ltp.ecefToEnuRotation
          let zNominal := positionVelocity nominal.positionEnuM nominal.velocityEnuMps
          let zObs := positionVelocity (ltp.ecefToEnu gnss.positionEcefM)
            (R *ᵥ gnss.velocityEcefMps)
          refine .inr ⟨⟨6, zObs⟩, zNominal,
            setBlock (setBlock 0 0 0 (1 : Mat3)) 3 3 (1 : Mat3), o.positionGate, hgate, ?_, ?_, ?_⟩
          · simp only [hltp, if_neg hfix, if_neg (not_not_intro hvalid)]
            rfl
          · intro v
            rw [fixRows_mulVec]
            show VectorXd.head ⟨6, positionVelocity _ _⟩ 6 = _
            rw [VectorXd.head_mk]
            exact positionVelocity_add _ _ _ _
          · intro est
            rw [happly, hltp]
            simp only [if_neg hfix, if_neg (not_not_intro hvalid)]
            -- both filters turn the covariance of the fix into the local frame
            have hnoise : rotationOf ctx = R := by rw [rotationOf, hltp]
            rw [applySolution_of_gate_off hgate, hnoise, MatrixXd.corner_mk,
              ← positionVelocity_sub]
            rfl
        · refine .inl ⟨by simp only [hltp, if_neg hfix, if_pos hvalid], fun est => ?_⟩
          rw [happly, hltp]
          simp [hfix, hvalid]
  | _ => exact .inl ⟨rfl, fun _ => ⟨rfl, by rintro ⟨⟩⟩⟩

/-- No counterpart overrides `Innovation`. -/
theorem Counterpart.defaultInnovation (h : Counterpart ekf ukf) : DefaultInnovation ukf := by
  cases h with
  | gnssLooselyCoupled => exact fun _ _ => rfl
  | barometer => exact fun _ _ => rfl
  | echoSounder => exact fun _ _ => rfl
  | radarAltimeter => exact fun _ _ => rfl

/-- **Counterparts** observe the same. -/
theorem Counterpart.agree (h : Counterpart ekf ukf) : Agree ekf ukf nominal measurement ctx := by
  cases h with
  | gnssLooselyCoupled o hgate => exact agree_gnssLooselyCoupled o hgate
  | barometer o hgate hsigma => exact agree_barometer o hgate hsigma
  | echoSounder o hgate => exact agree_echoSounder o hgate
  | radarAltimeter o hgate => exact agree_radarAltimeter o hgate

end Counterparts

/-! ### One update of either filter -/

/-- The two filters came to the same: the decision, the nominal state, the covariance and the norm
    of the correction. -/
structure SameOutcome (ukf : UkfState × MeasurementUpdateReport)
    (ekf : EkfState makeStandardLayout × MeasurementUpdateReport) : Prop where
  accepted : ukf.2.result = .accepted ↔ ekf.2.result = .accepted
  nominal : ukf.1.nominal = .ofEkf ekf.1.nominal
  covariance : ukf.1.covariance = ekf.1.estimate.covariance
  correctionNorm : ukf.2.correctionNorm = ekf.2.correctionNorm

section Step

variable {ekf : FalconGuide.MeasurementModel} {ukf : MeasurementModel}
  {measurement : SensorMeasurement} {ctx : UpdateContext} {d : Decompositions}
  {p : MerweSigmaParams} {s : EkfState makeStandardLayout} {t : UkfState}

/-- **The two filters agree.** From the same prior, whatever the weights and the factor of the
    covariance, one update with counterparts comes to the same in both filters. -/
theorem counterparts_agree (hd : d.Exact)
    (hscale : 0 < p.alpha * p.alpha * (stateSize + p.kappa)) (hmodels : Counterpart ekf ukf)
    (herror : s.estimate.errorState = 0) (hnominal : t.nominal = .ofEkf s.nominal)
    (hcovariance : t.covariance = s.estimate.covariance) (hP : t.covariance.PosDef)
    (hR : ∀ zObs, ukf.observe measurement ctx = some zObs →
      ((ukf.noiseCovariance measurement ctx).corner zObs.size).PosDef) :
    SameOutcome (applyMeasurementModel d p ukf measurement ctx t)
      (ekfStep .exact ekf measurement ctx s) := by
  rw [← scale_eq] at hscale
  have hagree : Agree ekf ukf s.nominal measurement ctx := hmodels.agree
  let est : Estimate stateSize := s.estimate
  rcases hagree with ⟨hnone, hleft⟩ | ⟨zObs, zNominal, H, gate, hobs⟩
  · -- both leave the measurement out
    obtain ⟨hest, hres⟩ := hleft est
    have hukf : applyMeasurementModel d p ukf measurement ctx t
        = (t, { result := .rejected, modelName := ukf.name }) := by
      rw [applyMeasurementModel, hnone]
    rw [hukf, ekfStep_of_ne (Prod.ext hest rfl) hres]
    exact ⟨iff_of_false (by rintro ⟨⟩) hres, hnominal, hcovariance, rfl⟩
  · -- both make the Kalman update
    have hnoise := hR zObs hobs.observe
    have hP' : est.covariance.PosDef := hcovariance ▸ hP
    have herror' : est.errorState = 0 := herror
    have hekf := hobs.apply est
    rw [ekfUpdate_exact hobs.gate_off hP'.posSemidef hnoise, herror', zero_add] at hekf
    have hukf := applyMeasurementModel_of_affine hd hscale hmodels.defaultInnovation hP
      hobs.observe hnoise (hnominal ▸ hobs.predict)
    rw [hukf, ekfStep_of_accepted hekf, hnominal, hcovariance]
    exact ⟨Iff.rfl, rfl, rfl, rfl⟩

/-- A barometer, with the default parameters and unit covariance. -/
theorem counterparts_agree_barometer :
    SameOutcome
      (applyMeasurementModel .exact {} (barometer { altitudeSigmaM := some 1 })
        (.barometer { altitudeM := some 5 }) {} { covariance := 1 })
      (ekfStep .exact (.barometer { altitudeSigmaM := some 1 })
        (.barometer { altitudeM := some 5 }) {} { estimate := { covariance := 1 } }) := by
  have hR : ∀ zObs, (barometer { altitudeSigmaM := some 1 }).observe
      (.barometer { altitudeM := some 5 }) {} = some zObs →
      (((barometer { altitudeSigmaM := some 1 }).noiseCovariance
        (.barometer { altitudeM := some 5 }) {}).corner zObs.size).PosDef := by
    rintro zObs ⟨⟩
    show ((MatrixXd.const (1 * 1)).corner 1).PosDef
    rw [MatrixXd.corner_const, one_mul, one_smul]
    exact PosDef.one
  exact counterparts_agree Decompositions.exact_exact (by norm_num)
    (.barometer _ le_rfl rfl) rfl rfl rfl PosDef.one hR

end Step

end FalconGuide.Ukf
