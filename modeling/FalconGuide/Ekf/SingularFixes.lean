import FalconGuide.Core.Rotations
import FalconGuide.Core.Segments
import FalconGuide.Ekf.AcceptedUpdates
import FalconGuide.Ekf.Covariance
import FalconGuide.Ekf.DefiniteCovariance

namespace FalconGuide

open Lib Matrix

/-!
# Fixes without noise

`ApplySolution` inverts `S = H P Hᵀ + R`.  The covariances of a fix may be zero, and a fix without
noise leaves no variance of position and velocity in `P` for the next one.

* `isUnit_fixInnovationCov_iff` — when `S` can be inverted;
* `EkfEstimator.HandsOver` — a fix that reaches `ApplySolution`;
* `EkfEstimator.FixesMeet` — a condition on the fixes of a run, which has samples and fixes only;
* `EkfEstimator.nothingCertain_of_reachable` — what fixes with noise in every component leave;
* `EkfEstimator.fixes_invertible` — the main result: in every run whose fixes have noise in every
  component, or come to a filter that is certain of nothing, `S` can be inverted at each of them.
-/

/-! ### Certainty -/

section Informs

variable {n : ℕ}

/-- An error in position and velocity, as an error state. -/
def fixError (layout : StateLayout) (a b : Vec3) : Fin n → ℝ :=
  setSegment (setSegment 0 (layout.get .position).offset a) (layout.get .velocity).offset b

/-- No error in position and velocity, but the zero error, is without variance both under `P` and
    under the covariances of the fix. -/
def Informs (P : Matrix (Fin n) (Fin n) ℝ) (layout : StateLayout) (gnss : GnssSolution)
    (ltp : LocalTangentPlane) : Prop :=
  ∀ a b : Vec3, ¬ (a = 0 ∧ b = 0) →
    0 < Kalman.variance P (fixError layout a b) ∨
      0 < Kalman.variance gnss.positionCovarianceEcefM2 (ltp.ecefToEnuRotationᵀ *ᵥ a) ∨
      0 < Kalman.variance gnss.velocityCovarianceEcefM2ps2 (ltp.ecefToEnuRotationᵀ *ᵥ b)

variable {options : EkfOptions} {o : GnssLooselyCoupledOptions} {gnss : GnssSolution}
  {ltp : LocalTangentPlane} {P : Matrix (Fin n) (Fin n) ℝ}

/-- What `H` observes of an error state. -/
theorem fixH_transpose_mulVec (x : Fin 6 → ℝ) :
    (fixH options.buildLayout)ᵀ *ᵥ x
      = (fixError options.buildLayout (segment x 0 3) (segment x 3 3) : Fin n → ℝ) := by
  rw [fixH, fixError, EkfOptions.buildLayout_position, EkfOptions.buildLayout_velocity,
    transpose_setBlock, transpose_setBlock, transpose_zero, transpose_one, setBlock_mulVec,
    setBlock_zero_mulVec, one_mulVec, one_mulVec]
  · refine (setSegment_eq_add fun i hi => ?_).symm
    have hout : ¬ (0 ≤ i.val ∧ i.val < 0 + 3) := fun h => by
      have hle : 3 ≤ i.val := hi.1
      omega
    rw [setSegment_apply_of_outside hout, Pi.zero_apply]
  · intro i j hij
    simp (disch := omega) only [setBlock_apply_of_outside, Matrix.zero_apply]

/-- The noise of a fix, in position and in velocity. -/
theorem variance_fixNoise (hpos : o.positionSigmaM = none) (hvel : o.velocitySigmaMps = none)
    (x : Fin 6 → ℝ) :
    Kalman.variance (fixNoise o gnss ltp) x
      = Kalman.variance gnss.positionCovarianceEcefM2 (ltp.ecefToEnuRotationᵀ *ᵥ segment x 0 3)
        + Kalman.variance gnss.velocityCovarianceEcefM2ps2
          (ltp.ecefToEnuRotationᵀ *ᵥ segment x 3 3) := by
  rw [← Kalman.variance_congr, ← Kalman.variance_congr, fixNoise, hpos, hvel, Kalman.variance,
    setBlock_mulVec, setBlock_zero_mulVec, dotProduct_add, dotProduct_setSegment,
    dotProduct_setSegment]
  · rfl
  · intro i j hij
    simp (disch := omega) only [setBlock_apply_of_outside, Matrix.zero_apply]

theorem posSemidef_fixNoise (hpos : gnss.positionCovarianceEcefM2.PosSemidef)
    (hvel : gnss.velocityCovarianceEcefM2ps2.PosSemidef) : (fixNoise o gnss ltp).PosSemidef :=
  posSemidef_twoBlocks (posSemidef_gnssNoise hpos _) (posSemidef_gnssNoise hvel _)

/-- An observation of position and velocity is zero if both of its halves are. -/
theorem segments_eq_zero_iff (x : Fin 6 → ℝ) : segment x 0 3 = 0 ∧ segment x 3 3 = 0 ↔ x = 0 := by
  constructor
  · rintro ⟨hlow, hhigh⟩
    funext i
    by_cases hi : i.val < 3
    · have hentry := segment_sub_apply (v := x) (p := 3) (o := 0) (i := i) ⟨Nat.zero_le _, by omega⟩
      rw [← hentry, hlow]
      rfl
    · have hentry := segment_sub_apply (v := x) (p := 3) (o := 3) (i := i) ⟨by omega, by omega⟩
      rw [← hentry, hhigh]
      rfl
  · rintro rfl
    exact ⟨segment_zero _ _, segment_zero _ _⟩

/-- **Which fixes can be used.** -/
theorem isUnit_fixInnovationCov_iff (hP : P.PosSemidef)
    (hpos : gnss.positionCovarianceEcefM2.PosSemidef)
    (hvel : gnss.velocityCovarianceEcefM2ps2.PosSemidef) (hposSigma : o.positionSigmaM = none)
    (hvelSigma : o.velocitySigmaMps = none) :
    IsUnit (fixInnovationCov o P options.buildLayout gnss ltp) ↔
      Informs P options.buildLayout gnss ltp := by
  have hposNonneg := fun a => Kalman.variance_nonneg hpos (ltp.ecefToEnuRotationᵀ *ᵥ a)
  have hvelNonneg := fun b => Kalman.variance_nonneg hvel (ltp.ecefToEnuRotationᵀ *ᵥ b)
  rw [fixInnovationCov, Kalman.isUnit_innovationCov_iff hP (posSemidef_fixNoise hpos hvel)]
  simp only [fixH_transpose_mulVec, variance_fixNoise hposSigma hvelSigma]
  constructor
  · intro h a b hab
    let x : Fin 6 → ℝ := setSegment (setSegment 0 0 a) 3 b
    have hlow : segment x 0 3 = a := by
      rw [segment_setSegment_of_disjoint (by omega), segment_setSegment (by omega)]
    have hhigh : segment x 3 3 = b := segment_setSegment (by omega)
    have hx : x ≠ 0 := fun hzero => hab (by
      rw [← segments_eq_zero_iff, hlow, hhigh] at hzero
      exact hzero)
    have hor := h x hx
    rw [hlow, hhigh] at hor
    rcases hor with hfilter | hfix
    · exact .inl hfilter
    · by_cases hsmall : 0 < Kalman.variance gnss.positionCovarianceEcefM2
        (ltp.ecefToEnuRotationᵀ *ᵥ a)
      · exact .inr (.inl hsmall)
      · exact .inr (.inr (by linarith))
  · intro h x hx
    have hab : ¬ (segment x 0 3 = 0 ∧ segment x 3 3 = 0) := by rwa [segments_eq_zero_iff]
    have hposx := hposNonneg (segment x 0 3)
    have hvelx := hvelNonneg (segment x 3 3)
    rcases h _ _ hab with hfilter | hfix | hfix
    · exact .inl hfilter
    · exact .inr (by linarith)
    · exact .inr (by linarith)

/-- Any fix informs a filter that is certain of nothing. -/
theorem informs_of_nothingCertain (hn : 6 ≤ n) (hP : NothingCertain P) :
    Informs P options.buildLayout gnss ltp := by
  intro a b hab
  refine .inl (hP _ ?_ ?_)
  · intro hzero
    apply hab
    have hposition : segment (fixError options.buildLayout a b : Fin n → ℝ) 0 3 = a := by
      simp (disch := omega) only [fixError, EkfOptions.buildLayout_position,
        EkfOptions.buildLayout_velocity, segment_setSegment_of_disjoint, segment_setSegment]
    have hvelocity : segment (fixError options.buildLayout a b : Fin n → ℝ) 3 3 = b := by
      simp (disch := omega) only [fixError, EkfOptions.buildLayout_position,
        EkfOptions.buildLayout_velocity, segment_setSegment]
    rw [hzero, segment_zero] at hposition hvelocity
    exact ⟨hposition.symm, hvelocity.symm⟩
  · intro i hi
    simp (disch := omega) only [fixError, EkfOptions.buildLayout_position,
      EkfOptions.buildLayout_velocity, setSegment_apply_of_outside, Pi.zero_apply]

/-- The noise of a fix that has some in every component. -/
theorem posDef_fixNoise (hnoise : gnss.HasNoise)
    (hltp : ltp.ecefToEnuRotation * ltp.ecefToEnuRotationᵀ = 1)
    (hposSigma : o.positionSigmaM = none) (hvelSigma : o.velocitySigmaMps = none) :
    (fixNoise o gnss ltp).PosDef := by
  have hR : (fixNoise o gnss ltp).PosSemidef :=
    posSemidef_fixNoise hnoise.1.posSemidef hnoise.2.posSemidef
  have hturned : ∀ a : Vec3, a ≠ 0 → ltp.ecefToEnuRotationᵀ *ᵥ a ≠ 0 := by
    intro a ha hzero
    apply ha
    rw [← one_mulVec a, ← hltp, ← mulVec_mulVec, hzero, mulVec_zero]
  refine .of_dotProduct_mulVec_pos hR.isHermitian fun x hx => ?_
  show 0 < Kalman.variance (fixNoise o gnss ltp) x
  rw [variance_fixNoise hposSigma hvelSigma]
  by_cases hlow : segment x 0 3 = 0
  · have hhigh : segment x 3 3 ≠ 0 := fun hhigh => hx ((segments_eq_zero_iff x).mp ⟨hlow, hhigh⟩)
    exact add_pos_of_nonneg_of_pos (Kalman.variance_nonneg hnoise.1.posSemidef _)
      (hnoise.2.dotProduct_mulVec_pos (hturned _ hhigh))
  · exact add_pos_of_pos_of_nonneg (hnoise.1.dotProduct_mulVec_pos (hturned _ hlow))
      (Kalman.variance_nonneg hnoise.2.posSemidef _)

/-- **After a fix with noise in every component** nothing is certain that was not before. -/
theorem nothingCertain_applySolution {eigen : Eigen} {nominal : NominalState} {est : Estimate n}
    {layout : StateLayout} (hP : est.covariance.PosSemidef) (hR : (fixNoise o gnss ltp).PosDef)
    (h : NothingCertain est.covariance) :
    NothingCertain (applySolution eigen o nominal est layout gnss ltp).1.covariance := by
  unfold applySolution
  show NothingCertain (ite _ _ _ : Estimate n × _).1.covariance
  split
  · exact h
  · intro x hx hsupport
    show 0 < Kalman.variance (Kalman.symmetrize (Kalman.joseph est.covariance (fixH layout)
      (fixNoise o gnss ltp) _)) x
    rw [Kalman.variance_symmetrize]
    exact Kalman.variance_joseph_pos hP hR _ (h x hx hsupport)

/-! ### After a fix without noise -/

/-- A fix with zero covariances has no noise. -/
theorem fixNoise_eq_zero (hpos : gnss.positionCovarianceEcefM2 = 0)
    (hvel : gnss.velocityCovarianceEcefM2ps2 = 0) (hposSigma : o.positionSigmaM = none)
    (hvelSigma : o.velocitySigmaMps = none) : fixNoise o gnss ltp = 0 := by
  rw [fixNoise, hpos, hvel, hposSigma, hvelSigma]
  simp only [gnssNoise, Matrix.mul_zero, Matrix.zero_mul, setBlock_zero]

/-- The covariance after a fix that no gate looks at. -/
theorem applySolution_covariance {nominal : NominalState} {est : Estimate n} {layout : StateLayout}
    (hgate : o.positionGate ≤ 0) :
    let H : Matrix (Fin 6) (Fin n) ℝ := fixH layout
    let S := fixInnovationCov o est.covariance layout gnss ltp
    (applySolution .exact o nominal est layout gnss ltp).1.covariance
      = symmetrizeCovariance (Kalman.joseph est.covariance H (fixNoise o gnss ltp)
        (est.covariance * Hᵀ * S⁻¹)) := by
  intro H S
  have hoff : ∀ x : ℝ, ¬ (0 < o.positionGate ∧ o.positionGate < x) := fun _ h => hgate.not_gt h.1
  have hpassed : (applySolution .exact o nominal est layout gnss ltp).1 = _ :=
    congrArg Prod.fst (if_neg (hoff _))
  rw [hpassed]
  rfl

/-- What is certain under a matrix is certain under its symmetric part. -/
theorem congr_symmetrizeCovariance {m : ℕ} {A : Matrix (Fin n) (Fin n) ℝ}
    {H : Matrix (Fin m) (Fin n) ℝ} (h : H * A * Hᵀ = 0) :
    H * symmetrizeCovariance A * Hᵀ = 0 := by
  have htransposed : H * Aᵀ * Hᵀ = 0 := by
    have h' := congrArg Matrix.transpose h
    rwa [transpose_mul, transpose_mul, transpose_transpose, ← Matrix.mul_assoc,
      transpose_zero] at h'
  rw [symmetrizeCovariance, Matrix.mul_smul, Matrix.smul_mul, Matrix.mul_add, Matrix.add_mul, h,
    htransposed, add_zero, smul_zero]

/-- **Two fixes without noise.** After one that is accepted, `S` of the next is zero. -/
theorem fixInnovationCov_after_exact {nominal : NominalState} {est : Estimate n}
    {layout : StateLayout} (hgate : o.positionGate ≤ 0) (hnoise : fixNoise o gnss ltp = 0)
    (hS : IsUnit (fixInnovationCov o est.covariance layout gnss ltp)) :
    fixInnovationCov o (applySolution .exact o nominal est layout gnss ltp).1.covariance layout
      gnss ltp = 0 := by
  rw [applySolution_covariance hgate]
  simp only [fixInnovationCov, hnoise] at hS ⊢
  rw [Kalman.innovationCov, add_zero]
  exact congr_symmetrizeCovariance (Kalman.congr_joseph_of_exact hS)

end Informs

/-! ### Fixes of a run -/

/-- A fix that neither the initialisation nor the model refuses at once. -/
def GnssSolution.IsUsable (gnss : GnssSolution) : Prop :=
  gnss.fixType ≠ .noFix ∧ gnss.validity = .valid

/-- The model takes the noise of a fix from the fix. -/
def MeasurementModel.WithoutOverrides : MeasurementModel → Prop
  | .gnssLooselyCoupled o => o.positionSigmaM = none ∧ o.velocitySigmaMps = none
  | _ => True

namespace EkfEstimator

variable {eigen : Eigen} {options : EkfOptions} {e e' e₁ : EkfEstimator options}
  {gnss : GnssSolution} {o : GnssLooselyCoupledOptions} {ltp : LocalTangentPlane}

/-- `AddMeasurement` of a fix, from `e`, reaches `ApplySolution` in `e₁`. -/
structure HandsOver (e : EkfEstimator options) (gnss : GnssSolution)
    (o : GnssLooselyCoupledOptions) (ltp : LocalTangentPlane) (e₁ : EkfEstimator options) :
    Prop where
  initialised : e.initialised = true
  propagated : e.propagateTo gnss.timestamp = some e₁
  model : e₁.measurementModels.find? (·.canHandle (.gnssSolution gnss))
    = some (.gnssLooselyCoupled o)
  plane : e₁.localTangentPlane = some ltp
  usable : gnss.IsUsable

/-- So it does. -/
theorem HandsOver.applyModel (h : e.HandsOver gnss o ltp e₁) :
    e₁.applyModel eigen (.gnssLooselyCoupled o) (.gnssSolution gnss)
      = applySolution eigen o e₁.state.nominal e₁.state.estimate options.buildLayout gnss ltp := by
  have hvalid : ¬ gnss.validity ≠ .valid := not_not.mpr h.usable.2
  show gnssLooselyCoupledApply _ _ _ _ _ _ { ltp := e₁.localTangentPlane } = _
  rw [h.plane, gnssLooselyCoupledApply]
  exact (if_neg h.usable.1).trans (if_neg hvalid)

/-! ### What the fixes leave -/

/-- A run of samples and fixes: the fixes have covariances and meet `C` if they are used, and no
    model overrides their noise. -/
def FixesMeet (C : EkfEstimator options → GnssSolution → Prop) (e : EkfEstimator options) :
    Call → Prop
  | .registerMeasurementModel model => model.WithoutOverrides
  | .addMeasurement (.imu _) => True
  | .addMeasurement (.gnssSolution gnss) =>
    (SensorMeasurement.gnssSolution gnss).CovariancesPosSemidef ∧ (gnss.IsUsable → C e gnss)
  | .addMeasurement _ => False
  | .processUntil _ => True
  | .reset => True

/-- The fix has noise in every component, or initialises the filter with a position that is taken
    for one without a covariance. -/
def FixHasNoise (e : EkfEstimator options) (gnss : GnssSolution) : Prop :=
  gnss.HasNoise ∨ e.initialised = false ∧ gnss.positionCovarianceEcefM2 = 0

/-- The fix has noise in every component, or the filter, if it is initialised, is certain of
    nothing. -/
def FixIsInforming (e : EkfEstimator options) (gnss : GnssSolution) : Prop :=
  e.initialised = true → gnss.HasNoise ∨ NothingCertain e.state.estimate.covariance

/-- The tangent plane, where there is one, is that of a point, and no model overrides the noise of
    a fix. -/
structure Prepared (e : EkfEstimator options) : Prop where
  plane : ∀ ltp, e.localTangentPlane = some ltp → ∃ lla, ltp = .make lla
  models : ∀ model ∈ e.measurementModels, model.WithoutOverrides

section Meet

variable {C : EkfEstimator options → GnssSolution → Prop} {call : Call}
  {report : MeasurementUpdateReport} {model : MeasurementModel}

/-- Such a run has covariances. -/
theorem FixesMeet.covariancesPosSemidef (h : e.FixesMeet C call) :
    e.CovariancesPosSemidef call := by
  cases call with
  | addMeasurement m =>
    cases m with
    | imu imu => exact trivial
    | gnssSolution gnss => exact h.1
    | _ => exact h.elim
  | _ => exact trivial

theorem Prepared.of_sameSetup (he : e.Prepared) (h : e.SameSetup e') : e'.Prepared := by
  constructor
  · rw [h.localTangentPlane]
    exact he.plane
  · rw [h.measurementModels]
    exact he.models

/-- A dispatch changes neither. -/
theorem Prepared.of_dispatched {m : SensorMeasurement} (he : e.Prepared)
    (h : Dispatched eigen e m e' report) : e'.Prepared := by
  cases h with
  | unmatched => exact he
  | accepted => exact ⟨he.plane, he.models⟩
  | refused => exact ⟨he.plane, he.models⟩

theorem Prepared.of_step (he : e.Prepared) (hcall : e.FixesMeet C call)
    (h : Step eigen e call e') : e'.Prepared := by
  cases h with
  | registerMeasurementModel model =>
    refine ⟨he.plane, fun other hother => ?_⟩
    rcases List.mem_append.mp hother with hold | hnew
    · exact he.models other hold
    · rw [List.mem_singleton.mp hnew]
      exact hcall
  | addMeasurement _ m report hadd =>
    cases added_of_addMeasurement hadd with
    | buffered imu imuBuffer result => exact ⟨he.plane, he.models⟩
    | initialise fix modelName =>
      rcases tryInitialiseFromGnss_cases e fix with heq | ⟨ltp, nominal, rfl, heq⟩
      · rwa [heq]
      · rw [heq]
        refine ⟨?_, he.models⟩
        rintro _ ⟨⟩
        exact ⟨_, rfl⟩
    | early => exact he
    | dispatched _ e₁ _ _ hinit himu he₁ hdispatch =>
      exact (he.of_sameSetup (propagateTo_sameSetup he₁)).of_dispatched hdispatch
  | processUntil _ timestamp result hprocess =>
    rcases processUntil_cases hprocess with rfl | hpropagate
    · exact he
    · exact he.of_sameSetup (propagateTo_sameSetup hpropagate)
  | reset =>
    refine ⟨?_, he.models⟩
    rintro _ ⟨⟩

/-- In every run. -/
theorem prepared_of_reachable (h : ((system eigen options).guarded (FixesMeet C)).Reachable e) :
    e.Prepared := by
  refine h.invariant ?_ ?_
  · rintro e rfl
    exact ⟨nofun, nofun⟩
  · rintro e call e' - he ⟨hcall, hstep⟩
    exact he.of_step hcall hstep

theorem posSemidef_of_fixesMeet (h : ((system eigen options).guarded (FixesMeet C)).Reachable e) :
    e.state.estimate.covariance.PosSemidef :=
  posSemidef_of_reachable (h.guarded_mono fun _ _ => FixesMeet.covariancesPosSemidef)

/-- The noise of a fix that reaches `ApplySolution`. -/
theorem Prepared.posDef_fixNoise (he : e.Prepared) (h : e.HandsOver gnss o ltp e₁)
    (hnoise : gnss.HasNoise) : (fixNoise o gnss ltp).PosDef := by
  have he₁ : e₁.Prepared := he.of_sameSetup (propagateTo_sameSetup h.propagated)
  obtain ⟨hpos, hvel⟩ := he₁.models _ (List.mem_of_find?_eq_some h.model)
  obtain ⟨lla, rfl⟩ := he₁.plane ltp h.plane
  exact FalconGuide.posDef_fixNoise hnoise (ecefToEnuRotation_mul_transpose _ _) hpos hvel

/-- A model applied to a fix with noise in every component. -/
theorem Prepared.nothingCertain_applyModel (he : e.Prepared)
    (hfind : e.measurementModels.find? (·.canHandle (.gnssSolution gnss)) = some model)
    (hcovs : e.state.estimate.covariance.PosSemidef) (hnoise : gnss.IsUsable → gnss.HasNoise)
    (hP : NothingCertain e.state.estimate.covariance) :
    NothingCertain (e.applyModel eigen model (.gnssSolution gnss)).1.covariance := by
  have hhandles := List.find?_some hfind
  cases model with
  | gnssLooselyCoupled o =>
    obtain ⟨hpos, hvel⟩ := he.models _ (List.mem_of_find?_eq_some hfind)
    show NothingCertain (gnssLooselyCoupledApply eigen o e.state.nominal e.state.estimate
      options.buildLayout gnss { ltp := e.localTangentPlane }).1.covariance
    unfold gnssLooselyCoupledApply
    split
    · exact hP
    · rename_i ltp hltp
      obtain ⟨lla, rfl⟩ := he.plane ltp hltp
      split
      · exact hP
      · rename_i hfix
        split
        · exact hP
        · rename_i hvalid
          have hnoise' := hnoise ⟨hfix, not_not.mp hvalid⟩
          exact nothingCertain_applySolution hcovs (FalconGuide.posDef_fixNoise hnoise'
            (ecefToEnuRotation_mul_transpose _ _) hpos hvel) hP
  | _ => cases hhandles

/-- **One call.** -/
theorem nothingCertain_of_step (he : e.Prepared) (hcall : e.FixesMeet FixHasNoise call)
    (h : Step eigen e call e') (hcovs : e.state.estimate.covariance.PosSemidef)
    (hP : e.initialised = true → NothingCertain e.state.estimate.covariance) :
    e'.initialised = true → NothingCertain e'.state.estimate.covariance := by
  cases h with
  | registerMeasurementModel model => exact hP
  | addMeasurement _ m report hadd =>
    cases added_of_addMeasurement hadd with
    | buffered imu imuBuffer result => exact hP
    | initialise gnss modelName hinit =>
      intro hinit'
      by_cases husable : gnss.IsUsable
      · rcases tryInitialiseFromGnss_cases e gnss with heq | ⟨ltp, nominal, rfl, heq⟩
        · rw [heq, hinit] at hinit'
          cases hinit'
        · rw [heq]
          refine nothingCertain_initialCovariance (ecefToEnuRotation_mul_transpose _ _) ?_
          rcases hcall.2 husable with hnoise | ⟨-, hzero⟩
          · exact .inr hnoise
          · exact .inl hzero
      · rw [tryInitialiseFromGnss_of_unusable e husable, hinit] at hinit'
        cases hinit'
    | early m hinit => exact hP
    | dispatched _ e₁ _ _ hinit himu he₁ hdispatch =>
      intro _
      have he₁' : e₁.Prepared := he.of_sameSetup (propagateTo_sameSetup he₁)
      have hcovs₁ := posSemidef_propagateTo he₁ hcovs
      have hP₁ := nothingCertain_propagateTo he₁ (hP hinit)
      cases m with
      | imu imu => cases himu
      | gnssSolution gnss =>
        -- the filter is initialised, so the fix has noise
        have hnoise : gnss.IsUsable → gnss.HasNoise := fun husable =>
          (hcall.2 husable).resolve_right fun hfirst => by
            rw [hinit] at hfirst
            cases hfirst.1
        have hmodel : ∀ model, e₁.measurementModels.find? (·.canHandle (.gnssSolution gnss))
            = some model →
            NothingCertain (e₁.applyModel eigen model (.gnssSolution gnss)).1.covariance :=
          fun model hfind => he₁'.nothingCertain_applyModel hfind hcovs₁ hnoise hP₁
        cases hdispatch with
        | unmatched => exact hP₁
        | accepted model estimate hfind happly =>
          have happlied := hmodel model hfind
          rwa [happly] at happlied
        | refused model estimate result hfind happly =>
          have happlied := hmodel model hfind
          rwa [happly] at happlied
      | _ => exact hcall.elim
  | processUntil _ timestamp result hprocess =>
    rcases processUntil_cases hprocess with rfl | hpropagate
    · exact hP
    · intro hinit
      rw [(propagateTo_sameSetup hpropagate).initialised] at hinit
      exact nothingCertain_propagateTo hpropagate (hP hinit)
  | reset => nofun

/-- **What fixes with noise leave:** in a run whose fixes have noise in every component, the filter
    is certain of nothing from its initialisation on. -/
theorem nothingCertain_of_reachable
    (h : ((system eigen options).guarded (FixesMeet FixHasNoise)).Reachable e) :
    e.initialised = true → NothingCertain e.state.estimate.covariance := by
  induction h with
  | init hinit =>
    obtain rfl := hinit
    nofun
  | step hreach hstep ih =>
    exact nothingCertain_of_step (prepared_of_reachable hreach) hstep.1 hstep.2
      (posSemidef_of_fixesMeet hreach) ih

end Meet

/-! ### A run of fixes -/

/-- Without samples nothing is propagated. -/
theorem propagateTo_of_empty (h : e.imuBuffer.measurements = []) (target : Timestamp) :
    e.propagateTo target = some e := by
  obtain ⟨initialised, state, models, ⟨maxSize, allow, measurements⟩, aiding, plane⟩ := e
  obtain rfl : measurements = [] := h
  rfl

/-- An estimator with a loosely coupled model, after its initialisation and without samples. -/
structure Ready (e : EkfEstimator options) (ltp : LocalTangentPlane) : Prop where
  initialised : e.initialised = true
  models : e.measurementModels = [.gnssLooselyCoupled {}]
  plane : e.localTangentPlane = some ltp
  buffer : e.imuBuffer.measurements = []

theorem Ready.handsOver (h : e.Ready ltp) (husable : gnss.IsUsable) :
    e.HandsOver gnss {} ltp e where
  initialised := h.initialised
  propagated := propagateTo_of_empty h.buffer _
  model := by rw [h.models]; rfl
  plane := h.plane
  usable := husable

/-- The first fix. -/
theorem exists_ready (eigen : Eigen) (options : EkfOptions) (husable : gnss.IsUsable)
    {G : EkfEstimator options → Call → Prop}
    (hmodel : G {} (.registerMeasurementModel (.gnssLooselyCoupled {})))
    (hfix : ∀ e, e.initialised = false → G e (.addMeasurement (.gnssSolution gnss))) :
    ∃ (e : EkfEstimator options) (ltp : LocalTangentPlane),
      ((system eigen options).guarded G).Run {}
        [.registerMeasurementModel (.gnssLooselyCoupled {}), .addMeasurement (.gnssSolution gnss)]
        e ∧
      e.Ready ltp ∧
      e.state.estimate.covariance
        = initialCovariance options.buildLayout ltp.ecefToEnuRotation gnss := by
  let e₁ : EkfEstimator options := registerMeasurementModel {} (.gnssLooselyCoupled {})
  have hinit : e₁.tryInitialiseFromGnss gnss = _ :=
    (if_neg husable.1).trans (if_neg (not_not.mpr husable.2))
  have hadd : e₁.addMeasurement eigen (.gnssSolution gnss)
      = some ((e₁.tryInitialiseFromGnss gnss).1, _) := rfl
  refine ⟨(e₁.tryInitialiseFromGnss gnss).1, .make (ecefToLla gnss.positionEcefM), ?_, ?_, ?_⟩
  · exact .cons ⟨hmodel, .registerMeasurementModel _ _⟩
      (.cons ⟨hfix _ rfl, .addMeasurement _ _ _ _ hadd⟩ (.nil _))
  · rw [hinit]
    exact ⟨rfl, rfl, rfl, rfl⟩
  · rw [hinit]

/-- Another one. -/
theorem Ready.exists_step (h : e.Ready ltp) (eigen : Eigen) (husable : gnss.IsUsable) :
    ∃ e', Step eigen e (.addMeasurement (.gnssSolution gnss)) e' ∧ e'.Ready ltp ∧
      e'.state.estimate.covariance
        = (applySolution eigen {} e.state.nominal e.state.estimate options.buildLayout gnss
          ltp).1.covariance := by
  have hover : e.HandsOver gnss {} ltp e := h.handsOver husable
  have hadd : e.addMeasurement eigen (.gnssSolution gnss)
      = some (e.dispatch eigen (.gnssSolution gnss)) := by
    have hinit : ¬ (!e.initialised) = true := by simp [h.initialised]
    show (if (!e.initialised) = true then _ else (e.propagateTo gnss.timestamp).map _) = _
    rw [if_neg hinit, propagateTo_of_empty h.buffer]
    rfl
  have hdispatch := dispatched_dispatch eigen e (.gnssSolution gnss)
  generalize e.dispatch eigen (.gnssSolution gnss) = outcome at hadd hdispatch
  obtain ⟨e', report⟩ := outcome
  refine ⟨e', .addMeasurement _ _ _ _ hadd, ?_⟩
  have hmodel := hover.model
  have happlied := @HandsOver.applyModel eigen _ _ _ _ _ _ hover
  cases hdispatch with
  | unmatched hfind =>
    rw [hfind] at hmodel
    cases hmodel
  | accepted model estimate hfind happly =>
    rw [hfind] at hmodel
    cases hmodel
    rw [happlied] at happly
    rw [happly]
    exact ⟨⟨h.initialised, h.models, h.plane, h.buffer⟩, rfl⟩
  | refused model estimate result hfind happly hresult =>
    rw [hfind] at hmodel
    cases hmodel
    rw [happlied] at happly
    rw [happly]
    exact ⟨⟨h.initialised, h.models, h.plane, h.buffer⟩, rfl⟩

/-! ### Which fixes can be used -/

/-- A fix with noise in every component is an informing one. -/
theorem FixesMeet.informing {call : Call} (h : e.FixesMeet FixHasNoise call) :
    e.FixesMeet FixIsInforming call := by
  cases call with
  | addMeasurement m =>
    cases m with
    | imu imu => exact trivial
    | gnssSolution gnss =>
      refine ⟨h.1, fun husable hinit => ?_⟩
      rcases h.2 husable with hnoise | ⟨hfirst, -⟩
      · exact .inl hnoise
      · rw [hinit] at hfirst
        cases hfirst
    | _ => exact h.elim
  | _ => exact h

/-- **`S` can be inverted.** In every run of samples and fixes in which each fix has noise in every
    component, or comes to a filter that is certain of nothing, `S` can be inverted at each fix; and
    while the fixes have noise in every component, the filter is certain of nothing, so that any fix
    may come next. -/
theorem fixes_invertible (eigen : Eigen) (options : EkfOptions) :
    (∀ e, ((system eigen options).guarded (FixesMeet FixIsInforming)).Reachable e →
      ∀ gnss o ltp e₁, e.FixesMeet FixIsInforming (.addMeasurement (.gnssSolution gnss)) →
        e.HandsOver gnss o ltp e₁ →
        IsUnit (fixInnovationCov o e₁.state.estimate.covariance options.buildLayout gnss ltp)) ∧
    ∀ e, ((system eigen options).guarded (FixesMeet FixHasNoise)).Reachable e →
      ((system eigen options).guarded (FixesMeet FixIsInforming)).Reachable e ∧
      (e.initialised = true → NothingCertain e.state.estimate.covariance) := by
  constructor
  · intro e he gnss o ltp e₁ hfix hover
    have hprepared := prepared_of_reachable he
    have hP := posSemidef_propagateTo hover.propagated (posSemidef_of_fixesMeet he)
    rcases hfix.2 hover.usable hover.initialised with hnoise | hcertain
    · exact (Kalman.posDef_innovationCov hP (hprepared.posDef_fixNoise hover hnoise)).isUnit
    · have hprepared₁ := hprepared.of_sameSetup (propagateTo_sameSetup hover.propagated)
      obtain ⟨hpos, hvel⟩ := hprepared₁.models _ (List.mem_of_find?_eq_some hover.model)
      have hsize : 15 ≤ options.buildLayout.totalSize := le_totalSize
      rw [isUnit_fixInnovationCov_iff hP hfix.1.1 hfix.1.2 hpos hvel]
      exact informs_of_nothingCertain (by omega)
        (nothingCertain_propagateTo hover.propagated hcertain)
  · intro e he
    exact ⟨he.guarded_mono fun _ _ => FixesMeet.informing, nothingCertain_of_reachable he⟩

/-- A fix without noise initialises the filter, one of unit covariance follows, and then another one
    without noise. -/
theorem fixes_invertible_after_unit :
    let exact : GnssSolution := { fixType := .single }
    let unit : GnssSolution :=
      { fixType := .single, positionCovarianceEcefM2 := 1, velocityCovarianceEcefM2ps2 := 1 }
    ∃ (e : EkfEstimator {}) (ltp : LocalTangentPlane),
      ((system .exact {}).guarded (FixesMeet FixHasNoise)).Run {}
        [.registerMeasurementModel (.gnssLooselyCoupled {}), .addMeasurement (.gnssSolution exact),
          .addMeasurement (.gnssSolution unit)] e ∧
      e.HandsOver exact {} ltp e ∧
      IsUnit (fixInnovationCov {} e.state.estimate.covariance ({} : EkfOptions).buildLayout exact
        ltp) := by
  intro exact unit
  have hexact : exact.IsUsable := ⟨by decide, rfl⟩
  have hunit : unit.IsUsable := ⟨by decide, rfl⟩
  have hcovs : (SensorMeasurement.gnssSolution exact).CovariancesPosSemidef := ⟨.zero, .zero⟩
  have hfirst : ∀ e : EkfEstimator {}, e.initialised = false →
      e.FixesMeet FixHasNoise (.addMeasurement (.gnssSolution exact)) :=
    fun e hinit => ⟨hcovs, fun _ => .inr ⟨hinit, rfl⟩⟩
  obtain ⟨e, ltp, hrun, hready, -⟩ :=
    exists_ready .exact {} hexact (G := FixesMeet FixHasNoise) ⟨rfl, rfl⟩ hfirst
  obtain ⟨e', hstep, hready', -⟩ := hready.exists_step .exact hunit
  have hsecond : e.FixesMeet FixHasNoise (.addMeasurement (.gnssSolution unit)) :=
    ⟨⟨.one, .one⟩, fun _ => .inl ⟨.one, .one⟩⟩
  have hrun' := hrun.append (.cons ⟨hsecond, hstep⟩ (.nil _))
  obtain ⟨hreach, hcertain⟩ :=
    (fixes_invertible .exact {}).2 e' (System.Reachable.run (.init rfl) hrun')
  -- the filter is certain of nothing, so the last fix need not have noise
  have hlast : e'.FixesMeet FixIsInforming (.addMeasurement (.gnssSolution exact)) :=
    ⟨hcovs, fun _ hinit => .inr (hcertain hinit)⟩
  have hover : e'.HandsOver exact {} ltp e' := hready'.handsOver hexact
  exact ⟨e', ltp, hrun', hover, (fixes_invertible .exact {}).1 e' hreach _ _ _ _ hlast hover⟩

/-! ### Fixes without noise -/

/-- **Three fixes without noise**: the first initialises, the second leaves no variance, and the
    third cannot be used. -/
theorem exact_fixes_singular :
    let gnss : GnssSolution := { fixType := .single }
    ∃ (e : EkfEstimator {}) (ltp : LocalTangentPlane),
      ((system .exact {}).guarded CovariancesPosSemidef).Run {}
        [.registerMeasurementModel (.gnssLooselyCoupled {}), .addMeasurement (.gnssSolution gnss),
          .addMeasurement (.gnssSolution gnss)] e ∧
      e.HandsOver gnss {} ltp e ∧
      fixInnovationCov {} e.state.estimate.covariance ({} : EkfOptions).buildLayout gnss ltp = 0 ∧
      ¬ IsUnit (fixInnovationCov {} e.state.estimate.covariance ({} : EkfOptions).buildLayout gnss
        ltp) := by
  intro gnss
  have husable : gnss.IsUsable := ⟨by decide, rfl⟩
  have hcovs : (SensorMeasurement.gnssSolution gnss).CovariancesPosSemidef := ⟨.zero, .zero⟩
  have hfirst : ∀ e : EkfEstimator {}, e.initialised = false →
      e.FixesMeet FixHasNoise (.addMeasurement (.gnssSolution gnss)) :=
    fun e hinit => ⟨hcovs, fun _ => .inr ⟨hinit, rfl⟩⟩
  obtain ⟨e, ltp, hrun, hready, -⟩ :=
    exists_ready .exact {} husable (G := FixesMeet FixHasNoise) ⟨rfl, rfl⟩ hfirst
  have hreach := System.Reachable.run (.init rfl) hrun
  have hunit : IsUnit (fixInnovationCov {} e.state.estimate.covariance
      ({} : EkfOptions).buildLayout gnss ltp) := by
    -- after the first fix nothing is certain
    rw [isUnit_fixInnovationCov_iff (posSemidef_of_fixesMeet hreach) hcovs.1 hcovs.2 rfl rfl]
    have hcertain := nothingCertain_of_reachable hreach hready.initialised
    exact informs_of_nothingCertain (by decide) hcertain
  obtain ⟨e', hstep, hready', hcov'⟩ := hready.exists_step .exact husable
  -- it takes off all that a fix can see
  have hzero : fixInnovationCov {} e'.state.estimate.covariance ({} : EkfOptions).buildLayout gnss
      ltp = 0 := by
    rw [hcov']
    exact fixInnovationCov_after_exact le_rfl (fixNoise_eq_zero rfl rfl rfl rfl) hunit
  have hrun' := hrun.guarded_mono fun _ _ => FixesMeet.covariancesPosSemidef
  refine ⟨e', ltp, ?_, hready'.handsOver husable, hzero, ?_⟩
  · exact hrun'.append (.cons ⟨hcovs, hstep⟩ (.nil _))
  · rw [hzero]
    exact not_isUnit_zero

end EkfEstimator

end FalconGuide
