import FalconGuide.Core.Sensors
import FalconGuide.Ekf.Update

namespace FalconGuide

open Lib Matrix

/-!
# Tightly coupled GNSS

`GnssTightlyCoupled` updates with one observation after the other: a pseudorange for each
satellite, and its Doppler shift where there is one.

* `pseudorangeRow` / `dopplerRow` — an observation as a row, an innovation and a deviation;
* `svUpdate` — the body of the loop over the satellites;
* `gnssTightlyCoupledApply` — `Apply`.
-/

/-- `GnssTightlyCoupledOptions`. -/
structure GnssTightlyCoupledOptions where
  basePseudorangeSigmaM : ℝ := 3
  pseudorangeNoiseFloorM : ℝ := 0.1
  baseDopplerSigmaMps : ℝ := 0.5
  innovationGateSigma : ℝ := 3
  minSatellites : ℕ := 4

/-- `kSpeedOfLightMps`. -/
noncomputable def speedOfLightMps : ℝ := 299792458

/-- `kEarthRotationRps`. -/
noncomputable def earthRotationRps : ℝ := 7.2921151467e-5

/-- `CarrierFrequencyHz`. -/
noncomputable def carrierFrequencyHz : GnssSignal → ℝ
  | .l1 => 1575.42e6
  | .l2 => 1227.60e6
  | .l5 => 1176.45e6
  | .e1 => 1575.42e6
  | .e5a => 1176.45e6
  | .e5b => 1207.14e6
  | .b1 => 1561.098e6
  | .b2 => 1207.14e6
  | .unknown => 1575.42e6

/-- `SagnacCorrectionM`. -/
noncomputable def sagnacCorrectionM (posSv posRcv : Vec3) : ℝ :=
  earthRotationRps / speedOfLightMps * (posSv 0 * posRcv 1 - posSv 1 * posRcv 0)

/-- The receiver as the nominal state has it, in ECEF. -/
structure Receiver where
  posEcef : Vec3
  velEcef : Vec3
  enuToEcef : Mat3
  clkBiasM : ℝ
  clkDriftMps : ℝ

/-- The receiver of a nominal state, with its clock. -/
def receiverOf (nominal : NominalState) (ltp : LocalTangentPlane) (clock : Fin 2 → ℝ) :
    Receiver where
  posEcef := ltp.enuToEcef nominal.positionEnuM
  velEcef := ltp.ecefToEnuRotationᵀ *ᵥ nominal.velocityEnuMps
  enuToEcef := ltp.ecefToEnuRotationᵀ
  clkBiasM := clock 0
  clkDriftMps := clock 1

section Rows

variable {n : ℕ} (options : GnssTightlyCoupledOptions) (rcv : Receiver) (layout : StateLayout)
  (sv : GnssTightlyCoupledObservation)

/-- The geometric range. -/
noncomputable def geometricRange : ℝ := euclideanNorm (sv.satellite.positionEcefM - rcv.posEcef)

/-- The unit vector from the receiver to the satellite. -/
noncomputable def lineOfSight : Vec3 :=
  (geometricRange rcv sv)⁻¹ • (sv.satellite.positionEcefM - rcv.posEcef)

/-- A row with the line of sight in one block and a one at a clock state. -/
noncomputable def lineOfSightH (id : StateSegmentId) (clock : ℕ) : Fin n → ℝ :=
  let h := setSegment 0 (layout.get id).offset (-(lineOfSight rcv sv ᵥ* rcv.enuToEcef))
  setSegment h ((layout.get .gnssClock).offset + clock) (fun _ : Fin 1 => 1)

/-- The deviation of a pseudorange, weighted with the carrier-to-noise density if there is
    one. -/
noncomputable def pseudorangeSigma : ℝ :=
  match sv.raw.carrierToNoiseDensityDbhz with
  | none => options.basePseudorangeSigmaM
  | some cn0 =>
    options.basePseudorangeSigmaM * (10 : ℝ) ^ (-cn0 / 40) + options.pseudorangeNoiseFloorM

/-- The pseudorange observation. -/
noncomputable def pseudorangeRow : Kalman.Row (Fin n) where
  h := lineOfSightH rcv layout sv .position 0
  innovation :=
    sv.raw.pseudorangeM -
      (geometricRange rcv sv + sagnacCorrectionM sv.satellite.positionEcefM rcv.posEcef +
        rcv.clkBiasM - sv.satellite.clockBiasS * speedOfLightMps +
        sv.satellite.ionosphericDelayM + sv.satellite.troposphericDelayM)
  sigma := pseudorangeSigma options sv

/-- The Doppler observation, as a range rate. -/
noncomputable def dopplerRow (dopplerHz : ℝ) : Kalman.Row (Fin n) where
  h := lineOfSightH rcv layout sv .velocity 1
  innovation :=
    -dopplerHz * speedOfLightMps / carrierFrequencyHz sv.raw.signal -
      (lineOfSight rcv sv ⬝ᵥ (sv.satellite.velocityEcefMps - rcv.velEcef) + rcv.clkDriftMps -
        sv.satellite.clockDriftSps * speedOfLightMps)
  sigma := options.baseDopplerSigmaMps

/-- The satellite is used: valid, healthy and not at the receiver. -/
def svUsable : Prop :=
  sv.raw.validity = .valid ∧ sv.satellite.healthy = true ∧ ¬ geometricRange rcv sv < 1e-3

noncomputable instance : Decidable (svUsable rcv sv) := inferInstanceAs (Decidable (_ ∧ _ ∧ _))

/-- An update with one row. -/
noncomputable def rowUpdate (est : Estimate n) (row : Kalman.Row (Fin n)) : Estimate n × Bool :=
  scalarUpdate options.innovationGateSigma est row.h row.innovation row.sigma

/-- The body of the loop over the satellites, on the estimate and the number of accepted
    pseudoranges. -/
noncomputable def svUpdate (state : Estimate n × ℕ) : Estimate n × ℕ :=
  if svUsable rcv sv then
    let (est, used) := rowUpdate options state.1 (pseudorangeRow options rcv layout sv)
    let accepted := if used then state.2 + 1 else state.2
    match sv.raw.dopplerHz with
    | none => (est, accepted)
    | some dopplerHz => ((rowUpdate options est (dopplerRow options rcv layout sv dopplerHz)).1,
        accepted)
  else state

end Rows

/-- `GnssTightlyCoupled::Apply`. -/
noncomputable def gnssTightlyCoupledApply {n : ℕ} (options : GnssTightlyCoupledOptions)
    (nominal : NominalState) (est : Estimate n) (layout : StateLayout)
    (epoch : GnssTightlyCoupledEpoch) (context : UpdateContext) :
    Estimate n × EstimatorUpdateResult :=
  if !layout.has .gnssClock then (est, .rejected)
  else
    match context.ltp, nominal.gnssClock with
    | none, _ => (est, .notInitialized)
    | some _, none => (est, .notInitialized)
    | some ltp, some clock =>
      if epoch.validity ≠ .valid then (est, .rejected)
      else if epoch.svObservations.isEmpty then (est, .rejected)
      else
        let rcv := receiverOf nominal ltp clock
        let (est, accepted) :=
          epoch.svObservations.foldl (fun state sv => svUpdate options rcv layout sv state) (est, 0)
        (est, if accepted < options.minSatellites then .rejected else .accepted)

end FalconGuide
