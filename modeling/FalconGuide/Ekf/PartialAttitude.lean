import FalconGuide.Ekf.Applied
import FalconGuide.Lib.RowSelection

namespace FalconGuide

open Lib Matrix

/-!
# Attitudes that are observed in part

`AidingSolution` zeroes the rows and the innovations of the axes that are not observed, and makes
an update with all three rows.

* `validAxes`, `validAxis` — the axes observed, and their enumeration;
* `observedRows_eq`, `observedAxes_eq` — the zeroed rows are those of the observed axes among zeros;
* `aidingSolutionApply_attitude` — the attitude is the last step of `Apply`;
* `attitude_valid_rows` — the main result: the update is that of the observed rows alone.
-/

variable {n : ℕ}

/-! ### The observed axes -/

/-- The axes that an orientation observes: roll, pitch, yaw in this order. -/
def validAxes (v : OrientationValidity) : Finset (Fin 3) :=
  Finset.univ.filter fun i => ![v.roll, v.pitch, v.yaw] i = true

/-- The observed axes, one after the other. -/
def validAxis (v : OrientationValidity) : Fin (validAxes v).card → Fin 3 :=
  (validAxes v).orderEmbOfFin rfl

theorem validAxis_injective (v : OrientationValidity) : Function.Injective (validAxis v) :=
  ((validAxes v).orderEmbOfFin rfl).injective

/-- An axis is enumerated if it is observed. -/
theorem mem_range_validAxis {v : OrientationValidity} {i : Fin 3} :
    i ∈ Set.range (validAxis v) ↔ ![v.roll, v.pitch, v.yaw] i = true := by
  have hrange : Set.range (validAxis v) = validAxes v := Finset.range_orderEmbOfFin _ rfl
  rw [hrange, Finset.mem_coe, validAxes, Finset.mem_filter]
  exact and_iff_right (Finset.mem_univ i)

/-- The zeroed matrix has the observed rows, among zeros. -/
theorem observedRows_eq (v : OrientationValidity) (H : Matrix (Fin 3) (Fin n) ℝ) :
    observedRows v H = (selection (validAxis v))ᵀ * H.submatrix (validAxis v) id := by
  have hsub : (observedRows v H).submatrix (validAxis v) id = H.submatrix (validAxis v) id := by
    ext a j
    have ha : ![v.roll, v.pitch, v.yaw] (validAxis v a) = true :=
      mem_range_validAxis.mp (Set.mem_range_self a)
    rw [submatrix_apply, submatrix_apply, observedRows, if_pos ha]
  rw [← hsub, transpose_selection_mul (validAxis_injective v)]
  intro i hi
  rw [mem_range_validAxis] at hi
  exact if_neg hi

/-- So has the innovation. -/
theorem observedAxes_eq (v : OrientationValidity) (dTheta : Vec3) :
    observedAxes v dTheta = (selection (validAxis v))ᵀ *ᵥ (dTheta ∘ validAxis v) := by
  have hcomp : observedAxes v dTheta ∘ validAxis v = dTheta ∘ validAxis v := by
    ext a
    have ha : ![v.roll, v.pitch, v.yaw] (validAxis v a) = true :=
      mem_range_validAxis.mp (Set.mem_range_self a)
    rw [Function.comp_apply, Function.comp_apply, observedAxes, if_pos ha]
  rw [← hcomp, transpose_selection_mulVec (validAxis_injective v)]
  intro i hi
  rw [mem_range_validAxis] at hi
  exact if_neg hi

/-! ### The step -/

/-- The attitude step of `Apply`, after the steps before it gave `outcome`. -/
noncomputable def attitudeStep (eigen : Eigen) (options : AidingSolutionOptions)
    (nominal : NominalState) (layout : StateLayout) (v : OrientationValidity) (R : Mat3) (q : Quat)
    (outcome : Estimate n × EstimatorUpdateResult) : Estimate n × EstimatorUpdateResult :=
  blockUpdate eigen outcome (observedRows v (segmentH layout .attitude))
    (observedAxes v (attitudeInnovation nominal R q))
    (isotropicNoise 3 (options.attitudeSigmaRad.getD 0.05)) options.innovationGate

/-- The step with the observed rows alone. -/
noncomputable def validRowsStep (eigen : Eigen) (options : AidingSolutionOptions)
    (nominal : NominalState) (layout : StateLayout) (v : OrientationValidity) (R : Mat3) (q : Quat)
    (outcome : Estimate n × EstimatorUpdateResult) : Estimate n × EstimatorUpdateResult :=
  blockUpdate eigen outcome ((segmentH layout .attitude).submatrix (validAxis v) id)
    (attitudeInnovation nominal R q ∘ validAxis v)
    (isotropicNoise _ (options.attitudeSigmaRad.getD 0.05)) options.innovationGate

/-- `Apply` makes the attitude step last, from what the same measurement leaves without its
    orientation. -/
theorem aidingSolutionApply_attitude (eigen : Eigen) (options : AidingSolutionOptions)
    (nominal : NominalState) (est : Estimate n) (layout : StateLayout) {aid : AidingSolution}
    {context : UpdateContext} {ltp : LocalTangentPlane} {q : Quat} (hvalid : aid.validity = .valid)
    (hscore : ¬ ∃ score ∈ aid.matchScore, score < options.minMatchScore)
    (hltp : context.ltp = some ltp) (hq : aid.orientationBodyToEcef = some q)
    (hany : aid.orientationValidity.any = true) :
    aidingSolutionApply eigen options nominal est layout aid context
      = attitudeStep eigen options nominal layout aid.orientationValidity ltp.ecefToEnuRotation q
          (aidingSolutionApply eigen options nominal est layout
            { aid with orientationBodyToEcef := none } context) := by
  unfold aidingSolutionApply
  rw [if_neg (not_not_intro hvalid), if_neg hscore, if_neg (not_not_intro hvalid), if_neg hscore,
    hltp]
  simp only [hq, Option.elim_some, Option.elim_none, hany, if_true]
  rfl

/-- The update with zeroed rows is the update with the observed rows. -/
theorem ekfUpdate_observedRows {est : Estimate n} (hP : est.covariance.PosSemidef)
    (H : Matrix (Fin 3) (Fin n) ℝ) (v : OrientationValidity) (dTheta : Vec3) {s : ℝ} (hs : 0 < s)
    (gate : ℝ) :
    ekfUpdate .exact est (observedRows v H) (observedAxes v dTheta) (isotropicNoise 3 s) gate
      = ekfUpdate .exact est (H.submatrix (validAxis v) id) (dTheta ∘ validAxis v)
          (isotropicNoise _ s) gate := by
  have hE := selection_mul_transpose (validAxis_injective v)
  have hR : isotropicNoise 3 s * (selection (validAxis v))ᵀ
      = (selection (validAxis v))ᵀ * isotropicNoise (validAxes v).card s := by
    simp [isotropicNoise]
  have hnoise : ∀ m, (isotropicNoise m s).PosDef := fun m => PosDef.one.smul (mul_pos hs hs)
  have hdist := Kalman.mahalanobis_embed (H := H.submatrix (validAxis v) id) hE hR hP (hnoise 3)
    (hnoise _) (dTheta ∘ validAxis v)
  rw [observedRows_eq, observedAxes_eq]
  -- the gate sees the same distance, and past it both are Kalman updates
  by_cases hgate : Gated gate est.covariance (H.submatrix (validAxis v) id)
      (dTheta ∘ validAxis v) (isotropicNoise _ s)
  · rw [ekfUpdate_of_gated hgate]
    apply ekfUpdate_of_gated
    rw [Gated, hdist]
    exact hgate
  · rw [ekfUpdate_of_not_gated hgate hP (hnoise _), ekfUpdate_of_not_gated _ hP (hnoise 3),
      Kalman.gain_mulVec_embed hE hR hP (hnoise 3) (hnoise _),
      Kalman.posterior_embed hE hR hP (hnoise 3) (hnoise _)]
    rw [Gated, hdist]
    exact hgate

/-- **An axis that is not observed does not matter.** From every prior, for every observation, mask
    and gate, the update with zeroed rows is the update with the observed rows alone, in exact
    arithmetic; so `Apply` makes the latter, from what the same measurement leaves without its
    orientation. -/
theorem attitude_valid_rows (est : Estimate n) (hP : est.covariance.PosSemidef)
    (layout : StateLayout) :
    (∀ (v : OrientationValidity) (dTheta : Vec3) (s gate : ℝ), 0 < s →
      ekfUpdate .exact est (observedRows v (segmentH layout .attitude)) (observedAxes v dTheta)
          (isotropicNoise 3 s) gate
        = ekfUpdate .exact est ((segmentH layout .attitude).submatrix (validAxis v) id)
            (dTheta ∘ validAxis v) (isotropicNoise _ s) gate) ∧
    (∀ (options : AidingSolutionOptions) (nominal : NominalState) (aid : AidingSolution)
      (ltp : LocalTangentPlane) (q : Quat), aid.validity = .valid →
      (¬ ∃ score ∈ aid.matchScore, score < options.minMatchScore) →
      (SensorMeasurement.aidingSolution aid).CovariancesPosSemidef →
      aid.orientationBodyToEcef = some q → aid.orientationValidity.any = true →
      0 < options.attitudeSigmaRad.getD 0.05 →
      aidingSolutionApply .exact options nominal est layout aid { ltp := some ltp }
        = validRowsStep .exact options nominal layout aid.orientationValidity
            ltp.ecefToEnuRotation q
            (aidingSolutionApply .exact options nominal est layout
              { aid with orientationBodyToEcef := none } { ltp := some ltp })) := by
  refine ⟨fun v dTheta s gate hs => ekfUpdate_observedRows hP _ v dTheta hs gate, ?_⟩
  intro options nominal aid ltp q hvalid hscore hcov hq hany hs
  rw [aidingSolutionApply_attitude .exact options nominal est layout hvalid hscore rfl hq hany]
  -- the steps before leave a covariance
  have hbefore : Applied (SensorMeasurement.aidingSolution aid).CovariancesPosSemidef est
      (aidingSolutionApply .exact options nominal est layout
        { aid with orientationBodyToEcef := none } { ltp := some ltp }) :=
    aidingSolution_applied options _ id
  rw [attitudeStep, validRowsStep, blockUpdate, blockUpdate,
    ekfUpdate_observedRows (hbefore.posSemidef hcov hP) _ _ _ hs]

/-- A heading, from the unit covariance and with unit noise. -/
theorem attitude_valid_rows_yaw :
    let est : Estimate 15 := { covariance := 1 }
    let v : OrientationValidity := { yaw := true }
    ekfUpdate .exact est (observedRows v (segmentH makeStandardLayout .attitude))
        (observedAxes v ![1, 1, 1]) (isotropicNoise 3 1) 0
      = ekfUpdate .exact est ((segmentH makeStandardLayout .attitude).submatrix (validAxis v) id)
          (![1, 1, 1] ∘ validAxis v) (isotropicNoise _ 1) 0 :=
  (attitude_valid_rows { covariance := 1 } PosSemidef.one makeStandardLayout).1 { yaw := true }
    ![1, 1, 1] 1 0 one_pos

end FalconGuide
