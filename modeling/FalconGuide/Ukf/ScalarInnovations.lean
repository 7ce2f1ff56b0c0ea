import FalconGuide.Ekf.ScalarInnovations
import FalconGuide.Ukf.AffineUpdate

namespace FalconGuide.Ukf

open Lib Matrix

/-!
# Innovations of one number in the unscented filter

The update solves with `S`, which for an altitude or an airspeed is one number.

* `exists_sigmaPoints_eq` — whatever the decomposition gives, the sigma points are symmetric;
* `spread_of_weights` — when the weight of the centre cannot make `S` smaller than the noise;
* `PositiveInnovation` — the noise and `S` are positive, and as the code rounds the noise too;
* `SafeModel` — the models, with options and weights that keep `S` positive;
* `SafeModel.positiveInnovation` — in every state.
-/

/-! ### Weights and points -/

section Weights

variable {p : MerweSigmaParams}

/-- The weights of all points but the centre. -/
theorem one_sub_weight_centre (hscale : 0 < p.scale) (L : StateCovariance) :
    1 - (sigmaSet p hscale L).weight (sigmaSet p hscale L).centre = stateSize / p.scale := by
  have hweight : (sigmaSet p hscale L).weight (sigmaSet p hscale L).centre
      = p.lambda / p.scale := by
    show symmetricWeight stateSize (p.lambda / p.scale) (1 / (2 * p.scale)) 0 = _
    exact if_pos rfl
  have hne : p.scale ≠ 0 := hscale.ne'
  rw [hweight]
  field_simp
  rw [MerweSigmaParams.scale]
  ring

/-- **How small `beta` may be:** the centre does not take off more than the other points spread. -/
theorem spread_of_weights (hscale : 0 < p.scale)
    (hbeta : 0 ≤ stateSize * p.beta + p.alpha * p.alpha * p.kappa) (L : StateCovariance) :
    (1 - (sigmaSet p hscale L).extra)
      * (1 - (sigmaSet p hscale L).weight (sigmaSet p hscale L).centre) ≤ 1 := by
  have hextra : (sigmaSet p hscale L).extra = 1 - p.alpha * p.alpha + p.beta := rfl
  rw [one_sub_weight_centre, hextra, ← mul_div_assoc, div_le_one hscale, scale_eq]
  linarith

/-- **Symmetric points**, of a covariance that has a decomposition or of any other. -/
theorem exists_sigmaPoints_eq (d : Decompositions) (p : MerweSigmaParams) (s : UkfState) :
    ∃ L : StateCovariance,
      (generateSigmaPoints d p s).sigmaPoints = fun r i => symmetricPoint L i r := by
  unfold generateSigmaPoints
  simp only
  split
  · exact ⟨_, rfl⟩
  · exact ⟨_, rfl⟩

end Weights

/-! ### One number -/

section Scalar

variable {p : MerweSigmaParams} {model : MeasurementModel} {m : SensorMeasurement}
  {ctx : UpdateContext} {s : UkfState}

/-- **Any function of the state** adds to the noise, with weights that allow it. -/
theorem posSemidef_innovationCovariance_sub (hscale : 0 < p.scale)
    (hbeta : 0 ≤ stateSize * p.beta + p.alpha * p.alpha * p.kappa)
    (hmodel : DefaultInnovation model) :
    (innovationCovariance p model m ctx s 1
      - (model.noiseCovariance m ctx).corner 1).PosSemidef := by
  rw [innovationCovariance_eq hscale 0 hmodel]
  exact SigmaSet.posSemidef_innovationCov_sub_of_spread _ (spread_of_weights hscale hbeta 0)

/-- **An altitude**, up to a sign and an offset, adds to it with any positive `n + lambda`. -/
theorem posSemidef_innovationCovariance_sub_of_altitude (hscale : 0 < p.scale)
    (hmodel : DefaultInnovation model) {L : StateCovariance}
    (hpoints : s.sigmaPoints = fun r i => symmetricPoint L i r) (h x : ℝ)
    (hpredict : ∀ sigma, model.predict (unpackSigmaPoint s.nominal sigma) ctx
      = .const (h + x * sigma 2)) :
    (innovationCovariance p model m ctx s 1
      - (model.noiseCovariance m ctx).corner 1).PosSemidef := by
  let X := sigmaSet p hscale L
  let z := predictedPoint model ctx s 1
  have hz : ∀ i, z i = fun _ => h + x * X.point i 2 := by
    intro i
    show (model.predict (unpackSigmaPoint s.nominal (s.sigmaPoints.col i)) ctx).head 1 = _
    rw [hpredict, VectorXd.head_const, hpoints]
    rfl
  -- the images are affine in the points, and the points have no mean
  have hoffset : ∀ i, X.offset z i
      = (setEntry 0 0 2 x : Matrix (Fin 1) (Fin stateSize) ℝ) *ᵥ X.point i := by
    intro i
    rw [SigmaSet.offset, hz, hz, X.point_centre, altitudeRow_mulVec]
    funext _
    simp
  rw [innovationCovariance_eq hscale L hmodel]
  exact X.posSemidef_innovationCov_sub_of_meanOffset (X.meanOffset_affine hoffset)

end Scalar

/-! ### The models -/

/-- The models of the repository that observe vectors. -/
inductive VectorModel : MeasurementModel → Prop
  | dvl (o : DvlOptions) : VectorModel (dvl o)
  | magnetometer (o : MagnetometerOptions) : VectorModel (magnetometer o)
  | opticalFlow (o : OpticalFlowOptions) : VectorModel (opticalFlow o)
  | externalVelocity (o : ExternalVelocityOptions) : VectorModel (externalVelocity o)
  | wheelOdometry (o : WheelOdometryOptions) : VectorModel (wheelOdometry o)
  | starTracker (o : StarTrackerOptions) (uninitialised : Mat3) :
      VectorModel (starTracker o uninitialised)
  | aidingSolution (o : AidingSolutionOptions) : VectorModel (aidingSolution o)
  | externalOdometry (o : ExternalOdometryOptions) : VectorModel (externalOdometry o)
  | externalPose (o : ExternalPoseOptions) : VectorModel (externalPose o)
  | gnssLooselyCoupled (o : GnssLooselyCoupledOptions) : VectorModel (gnssLooselyCoupled o)

/-- The models of the repository, with options that set no deviation of one number to a number that
    is not one; an airspeed, which is not affine, needs weights `p` that do not lower its
    variance. -/
inductive SafeModel (p : MerweSigmaParams) : MeasurementModel → Prop
  | barometer (o : BarometerOptions) (h : ∀ sigma ∈ o.altitudeSigmaM, IsDeviation sigma) :
      SafeModel p (barometer o)
  | echoSounder (o : EchoSounderOptions) (h : ∀ sigma ∈ o.sigmaM, IsDeviation sigma) :
      SafeModel p (echoSounder o)
  | radarAltimeter (o : RadarAltimeterOptions) (h : ∀ sigma ∈ o.sigmaM, IsDeviation sigma) :
      SafeModel p (radarAltimeter o)
  | airspeed (o : AirspeedOptions) (h : IsDeviation o.sigmaMps)
      (hbeta : 0 ≤ stateSize * p.beta + p.alpha * p.alpha * p.kappa) : SafeModel p (airspeed o)
  | vector {model : MeasurementModel} (h : VectorModel model) : SafeModel p model

/-- The noise and `S` of one number are positive, and both as doubles, where the noise is rounded
    before the images of the sigma points are added to it. -/
structure PositiveInnovation (p : MerweSigmaParams) (model : MeasurementModel)
    (m : SensorMeasurement) (ctx : UpdateContext) (s : UkfState) : Prop where
  noise : 0 < (model.noiseCovariance m ctx).corner 1 (Fin.last 0) (Fin.last 0)
  roundedNoise : 0 < roundDouble ((model.noiseCovariance m ctx).corner 1 (Fin.last 0) (Fin.last 0))
  variance : 0 < innovationCovariance p model m ctx s 1 (Fin.last 0) (Fin.last 0)
  roundedVariance :
    let R := (model.noiseCovariance m ctx).corner 1 (Fin.last 0) (Fin.last 0)
    0 < roundDouble (innovationCovariance p model m ctx s 1 (Fin.last 0) (Fin.last 0) - R
      + roundDouble R)

section SafeModel

variable {d : Decompositions} {p : MerweSigmaParams} {model : MeasurementModel}
  {m : SensorMeasurement} {ctx : UpdateContext} {s : UkfState} {z : ℝ}

/-- Images that add to the noise of one number. -/
theorem positiveInnovation_of_sub {sigma : ℝ} (hsigma : IsDeviation sigma)
    (hnoise : model.noiseCovariance m ctx = .const (sigma * sigma))
    (hsub : (innovationCovariance p model m ctx s 1
      - (model.noiseCovariance m ctx).corner 1).PosSemidef) :
    PositiveInnovation p model m ctx s := by
  have hdiag : 0 ≤ (innovationCovariance p model m ctx s 1
      - (model.noiseCovariance m ctx).corner 1) (Fin.last 0) (Fin.last 0) := hsub.diag_nonneg
  have hentry : (model.noiseCovariance m ctx).corner 1 (Fin.last 0) (Fin.last 0)
      = sigma * sigma := by
    rw [hnoise, MatrixXd.corner_const, Matrix.smul_apply, Matrix.one_apply_eq, smul_eq_mul, mul_one]
  have hsquare : 0 < sigma * sigma := mul_pos hsigma.1 hsigma.1
  rw [Matrix.sub_apply, hentry] at hdiag
  constructor
  · rwa [hentry]
  · rw [hentry]
    exact hsigma.roundDouble_pos
  · linarith
  · rw [hentry]
    exact roundDouble_add_pos hdiag hsigma.roundDouble_pos

/-- An altitude. -/
theorem positiveInnovation_of_altitude (hscale : 0 < p.scale)
    (hmodel : DefaultInnovation model) {sigma : ℝ} (hsigma : IsDeviation sigma)
    (hnoise : model.noiseCovariance m ctx = .const (sigma * sigma)) (h x : ℝ)
    (hpredict : ∀ v, model.predict (unpackSigmaPoint (generateSigmaPoints d p s).nominal v) ctx
      = .const (h + x * v 2)) :
    PositiveInnovation p model m ctx (generateSigmaPoints d p s) := by
  obtain ⟨L, hpoints⟩ := exists_sigmaPoints_eq d p s
  refine positiveInnovation_of_sub hsigma hnoise ?_
  exact posSemidef_innovationCovariance_sub_of_altitude hscale hmodel hpoints h x hpredict

/-- A vector of another size is not one number. -/
theorem VectorXd.ne_const_of_size {v : VectorXd} (hv : v.size ≠ 1) : some v ≠ some (.const z) := by
  intro h
  cases h
  exact hv rfl

/-- Nor are vectors in space. -/
theorem VectorXd.stack_ne_const (vs : List Vec3) : some (VectorXd.stack vs) ≠ some (.const z) := by
  apply VectorXd.ne_const_of_size
  show vs.length * 3 ≠ 1
  omega

/-- **Two, three or six numbers,** or several vectors in space. -/
theorem VectorModel.observe_ne_const (hmodel : VectorModel model) :
    model.observe m ctx ≠ some (.const z) := by
  intro hobs
  cases hmodel with
  | dvl o =>
    cases m with
    | dvl m =>
      -- once the checks have passed, what is returned has size three
      simp only [Ukf.dvl] at hobs
      split_ifs at hobs
      exact VectorXd.ne_const_of_size (show 3 ≠ 1 by decide) hobs
    | _ => cases hobs
  | magnetometer o =>
    cases m with
    | magnetometer m =>
      simp only [Ukf.magnetometer] at hobs
      split_ifs at hobs
      exact VectorXd.ne_const_of_size (show 3 ≠ 1 by decide) hobs
    | _ => cases hobs
  | opticalFlow o =>
    cases m with
    | opticalFlow m =>
      -- without an integration time there is no rate to compare
      cases hdt : m.integrationTimeS with
      | none =>
        simp only [Ukf.opticalFlow, hdt] at hobs
        split_ifs at hobs
      | some dt =>
        simp only [Ukf.opticalFlow, hdt] at hobs
        split_ifs at hobs
        exact VectorXd.ne_const_of_size (show 2 ≠ 1 by decide) hobs
    | _ => cases hobs
  | externalVelocity o =>
    cases m with
    | externalVelocity m =>
      simp only [Ukf.externalVelocity] at hobs
      split_ifs at hobs
      exact VectorXd.ne_const_of_size (show 3 ≠ 1 by decide) hobs
    | _ => cases hobs
  | wheelOdometry o =>
    cases m with
    | wheelOdometry m =>
      simp only [Ukf.wheelOdometry] at hobs
      split_ifs at hobs
      exact VectorXd.ne_const_of_size (show 3 ≠ 1 by decide) hobs
    | _ => cases hobs
  | starTracker o uninitialised =>
    cases m with
    | starTracker m =>
      simp only [Ukf.starTracker] at hobs
      split_ifs at hobs
      exact VectorXd.ne_const_of_size (show 3 ≠ 1 by decide) hobs
    | _ => cases hobs
  | aidingSolution o =>
    cases m with
    | aidingSolution m =>
      -- without a local origin nothing is observed
      cases hltp : ctx.ltp with
      | none =>
        simp only [Ukf.aidingSolution, hltp] at hobs
        split_ifs at hobs
      | some ltp =>
        simp only [Ukf.aidingSolution, hltp] at hobs
        split_ifs at hobs
        all_goals exact VectorXd.stack_ne_const _ hobs
    | _ => cases hobs
  | externalOdometry o =>
    cases m with
    | externalOdometry m =>
      cases hltp : ctx.ltp with
      | none =>
        simp only [Ukf.externalOdometry, hltp] at hobs
        split_ifs at hobs
      | some ltp =>
        simp only [Ukf.externalOdometry, hltp] at hobs
        split_ifs at hobs
        all_goals exact VectorXd.stack_ne_const _ hobs
    | _ => cases hobs
  | externalPose o =>
    cases m with
    | externalPose m =>
      cases hltp : ctx.ltp with
      | none =>
        simp only [Ukf.externalPose, hltp] at hobs
        split_ifs at hobs
      | some ltp =>
        simp only [Ukf.externalPose, hltp] at hobs
        split_ifs at hobs
        all_goals exact VectorXd.stack_ne_const _ hobs
    | _ => cases hobs
  | gnssLooselyCoupled o =>
    cases m with
    | gnssSolution m =>
      cases hltp : ctx.ltp with
      | none =>
        simp only [Ukf.gnssLooselyCoupled, hltp] at hobs
        cases hobs
      | some ltp =>
        simp only [Ukf.gnssLooselyCoupled, hltp] at hobs
        split_ifs at hobs
        exact VectorXd.ne_const_of_size (show 6 ≠ 1 by decide) hobs
    | _ => cases hobs

/-- **Every model that observes one number** has a noise with a positive variance, and a positive
    `S` in every state. -/
theorem SafeModel.positiveInnovation (hscale : 0 < p.scale) (hmodel : SafeModel p model)
    (hobs : model.observe m ctx = some (.const z)) :
    PositiveInnovation p model m ctx (generateSigmaPoints d p s) := by
  cases hmodel with
  | barometer o h =>
    apply positiveInnovation_of_altitude hscale (fun _ _ => rfl) (isDeviation_getD h (by norm_num))
      rfl ((generateSigmaPoints d p s).nominal.positionEnuM 2) 1
    intro v
    rw [one_mul, ← unpackSigmaPoint_altitude]
    rfl
  | echoSounder o h =>
    apply positiveInnovation_of_altitude hscale (fun _ _ => rfl) (isDeviation_getD h (by norm_num))
      rfl (-(generateSigmaPoints d p s).nominal.positionEnuM 2 + o.depthOriginM) (-1)
    intro v
    show VectorXd.const (-(unpackSigmaPoint _ v).positionEnuM 2 + o.depthOriginM) = _
    rw [unpackSigmaPoint_altitude]
    congr 1
    ring
  | radarAltimeter o h =>
    apply positiveInnovation_of_altitude hscale (fun _ _ => rfl) (isDeviation_getD h (by norm_num))
      rfl ((generateSigmaPoints d p s).nominal.positionEnuM 2 - o.terrainElevationM) 1
    intro v
    show VectorXd.const ((unpackSigmaPoint _ v).positionEnuM 2 - o.terrainElevationM) = _
    rw [unpackSigmaPoint_altitude]
    congr 1
    ring
  | airspeed o h hbeta =>
    refine positiveInnovation_of_sub h rfl ?_
    exact posSemidef_innovationCovariance_sub hscale hbeta fun _ _ => rfl
  | vector h => exact absurd hobs h.observe_ne_const

end SafeModel

end FalconGuide.Ukf
