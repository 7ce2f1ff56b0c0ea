import FalconGuide.Ceres.FactorCovariance
import FalconGuide.Ceres.Mechanisation
import FalconGuide.Core.UnitQuaternions

namespace FalconGuide

open Lib Matrix ImuPreintegrator CeresSlidingWindowEstimator

/-!
# The prediction and the cost functions

`CreateKeyframe` predicts a keyframe in one way, and the cost functions of the window say in another
what it should be.  The two agree.

* `biasRandomWalkResidual` — `BiasRandomWalkCost`;
* `quatResidual_eq_zero_iff` — when the rotation residual vanishes;
* `Agrees` — the parameter blocks that stand for the predicted keyframe;
* `residual_eq_zero_iff` — they are those at which the new factors vanish;
* `predicted_residuals_iff` — the main result, for every run of the estimator.
-/

/-! ### Cost functions -/

/-- `BiasRandomWalkCost`. -/
noncomputable def biasRandomWalkResidual (accelSigma gyroSigma : ℝ) (i j : KeyframeBlocks) :
    Vec3 × Vec3 :=
  ((1 / accelSigma) • (j.accelBias - i.accelBias), (1 / gyroSigma) • (j.gyroBias - i.gyroBias))

/-- The residuals that `ImuPreintegrationCost` returns. -/
noncomputable def ImuPreintegration.scaledResidual (p : ImuPreintegration) (i j : KeyframeBlocks) :
    Vec3 × Vec3 × Vec3 :=
  p.infoScale • p.residual i j

/-! ### Rotations -/

namespace Quat

/-- A vector in the frame of a keyframe. -/
theorem transpose_mulVec_eq_iff {q : Quat} (h : Quaternion.normSq q = 1) (v w : Vec3) :
    (toRotationMatrix q)ᵀ *ᵥ v = w ↔ v = toRotationMatrix q *ᵥ w := by
  have hright := toRotationMatrix_mul_transpose h
  have hleft : (toRotationMatrix q)ᵀ * toRotationMatrix q = 1 := mul_eq_one_comm.mp hright
  constructor
  · intro heq
    rw [← heq, mulVec_mulVec, hright, one_mulVec]
  · intro heq
    rw [heq, mulVec_mulVec, hleft, one_mulVec]

end Quat

theorem quatResidual_eq_zero_iff (q : Quat) : quatResidual q = 0 ↔ Quat.vec q = 0 := by
  unfold quatResidual
  split
  · rw [smul_eq_zero_iff_right two_ne_zero]
  · rw [smul_eq_zero_iff_right (neg_ne_zero.mpr two_ne_zero)]

/-! ### The prediction -/

/-- The parameter blocks stand for the keyframe; a quaternion may have any length and sign. -/
structure Agrees (kf : WindowKeyframe) (blocks : KeyframeBlocks) : Prop where
  position : blocks.position = kf.position
  velocity : blocks.velocity = kf.velocity
  rotation : blocks.rotation.normalized = kf.rotation ∨ blocks.rotation.normalized = -kf.rotation
  accelBias : blocks.accelBias = kf.accelBias
  gyroBias : blocks.gyroBias = kf.gyroBias

/-- The factor is linearised at the biases of the keyframe, so that nothing is corrected. -/
structure LinearisedAt (p : ImuPreintegration) (kf : KeyframeBlocks) : Prop where
  accelBias : p.linearisationAccelBiasMps2 = kf.accelBias
  gyroBias : p.linearisationGyroBiasRadps = kf.gyroBias

section Prediction

variable {p : ImuPreintegration} {kf : WindowKeyframe}

theorem correctedDelta_eq (h : LinearisedAt p kf.toKeyframeBlocks) :
    p.correctedDeltaP kf.accelBias kf.gyroBias = p.deltaP ∧
      p.correctedDeltaV kf.accelBias kf.gyroBias = p.deltaV ∧
      p.correctedDeltaQ kf.gyroBias = p.deltaQ := by
  refine ⟨?_, ?_, ?_⟩
  · rw [ImuPreintegration.correctedDeltaP, h.accelBias, h.gyroBias, sub_self, sub_self,
      mulVec_zero, mulVec_zero, add_zero, add_zero]
  · rw [ImuPreintegration.correctedDeltaV, h.accelBias, h.gyroBias, sub_self, sub_self,
      mulVec_zero, mulVec_zero, add_zero, add_zero]
  · rw [ImuPreintegration.correctedDeltaQ, h.gyroBias, sub_self, mulVec_zero, expMap_zero, mul_one]

/-- **The cost function** of a factor vanishes at the keyframe that the factor predicts, and at no
    other. -/
theorem residual_eq_zero_iff (h : LinearisedAt p kf.toKeyframeBlocks) (hp : p.Sound)
    (hkf : 0 < Quaternion.normSq kf.rotation) {j : KeyframeBlocks}
    (hj : 0 < Quaternion.normSq j.rotation) (t : Timestamp) :
    p.residual kf.toKeyframeBlocks j = 0 ↔
      j.position = (predictedKeyframe kf p t).position ∧
      (j.rotation.normalized = (predictedKeyframe kf p t).rotation ∨
        j.rotation.normalized = -(predictedKeyframe kf p t).rotation) ∧
      j.velocity = (predictedKeyframe kf p t).velocity := by
  obtain ⟨hdp, hdv, hdq⟩ := correctedDelta_eq h
  have hQ : Quaternion.normSq kf.Q = 1 := Quat.normSq_normalized hkf
  have hpred : Quaternion.normSq (kf.Q * p.deltaQ) = 1 := by rw [map_mul, hQ, hp.unit, one_mul]
  have hrotation : (predictedKeyframe kf p t).rotation = kf.Q * p.deltaQ :=
    Quat.normalized_of_unit hpred
  have herror : star p.deltaQ * (star kf.Q * j.rotation.normalized)
      = star (kf.Q * p.deltaQ) * j.rotation.normalized := by
    rw [star_mul, mul_assoc]
  rw [Prod.ext_iff, Prod.ext_iff]
  refine and_congr ?_ (and_congr ?_ ?_)
  · show (Quat.toRotationMatrix kf.Q)ᵀ *ᵥ (j.position - kf.position
        - p.integrationTimeS • kf.velocity
        - (0.5 * p.integrationTimeS * p.integrationTimeS) • gravityEnu)
      - p.correctedDeltaP kf.accelBias kf.gyroBias = 0 ↔ _
    rw [hdp, sub_eq_zero, Quat.transpose_mulVec_eq_iff hQ, sub_eq_iff_eq_add', sub_eq_iff_eq_add',
      sub_eq_iff_eq_add', ← add_assoc, ← add_assoc]
    rfl
  · show quatResidual (star (p.correctedDeltaQ kf.gyroBias)
        * (star kf.Q * j.rotation.normalized)) = 0 ↔ _
    rw [hdq, herror, quatResidual_eq_zero_iff,
      Quat.vec_star_mul_eq_zero_iff hpred (Quat.normSq_normalized hj), hrotation]
  · show (Quat.toRotationMatrix kf.Q)ᵀ *ᵥ (j.velocity - kf.velocity
        - p.integrationTimeS • gravityEnu)
      - p.correctedDeltaV kf.accelBias kf.gyroBias = 0 ↔ _
    rw [hdv, sub_eq_zero, Quat.transpose_mulVec_eq_iff hQ, sub_eq_iff_eq_add', sub_eq_iff_eq_add',
      ← add_assoc]
    rfl

theorem scaledResidual_eq_zero_iff (p : ImuPreintegration) (i j : KeyframeBlocks) :
    p.scaledResidual i j = 0 ↔ p.residual i j = 0 :=
  smul_eq_zero_iff_right p.infoScale_mem.1.ne'

theorem biasRandomWalkResidual_eq_zero_iff {accelSigma gyroSigma : ℝ} (ha : accelSigma ≠ 0)
    (hg : gyroSigma ≠ 0) (i j : KeyframeBlocks) :
    biasRandomWalkResidual accelSigma gyroSigma i j = 0 ↔
      j.accelBias = i.accelBias ∧ j.gyroBias = i.gyroBias := by
  rw [Prod.ext_iff]
  refine and_congr ?_ ?_
  · exact (smul_eq_zero_iff_right (one_div_ne_zero ha)).trans sub_eq_zero
  · exact (smul_eq_zero_iff_right (one_div_ne_zero hg)).trans sub_eq_zero

end Prediction

/-! ### Runs -/

namespace CeresSlidingWindowEstimator

variable {options : CeresOptions} {e : CeresSlidingWindowEstimator options}

/-- Every run can be recorded. -/
theorem exists_recorded (h : (system options).Reachable e) :
    ∃ samples, (recorded options).Reachable { estimator := e, samples } := by
  induction h with
  | init hinit =>
    subst hinit
    exact ⟨[], .init rfl⟩
  | step _ hstep ih =>
    obtain ⟨samples, hreach⟩ := ih
    exact ⟨_, hreach.step ⟨hstep, rfl⟩⟩

/-- The running preintegration is linearised at the biases of the newest keyframe. -/
theorem linearisedAt_newest (h : (system options).Reachable e) (hinit : e.initialised = true)
    (t : Timestamp) : LinearisedAt (e.preint.finalize t) e.newest.toKeyframeBlocks := by
  obtain ⟨samples, hreach⟩ := exists_recorded h
  have hactive : e.preintActive = true := by
    rcases coherent_of_reachable h with hwaiting | ⟨_, hcoherent⟩
    · rw [hwaiting.initialised] at hinit
      exact absurd hinit Bool.false_ne_true
    · exact hcoherent.preint.1
  obtain ⟨s, t0, hpreint⟩ := Recorded.current hreach hactive
  obtain ⟨hba, hbg⟩ := integrateAll_bias (s.reset e.newest.accelBias e.newest.gyroBias t0) samples
  constructor
  · show e.preint.ba = _
    rw [hpreint]
    exact hba
  · show e.preint.bg = _
    rw [hpreint]
    exact hbg

end CeresSlidingWindowEstimator

/-- **Prediction and cost functions agree.** In every run of an estimator, whatever the solver
    wrote: the two factors between the newest keyframe and the next vanish together exactly at the
    keyframe that `CreateKeyframe` predicts, so that without the fix the solver would move
    nothing. -/
theorem predicted_residuals_iff {options : CeresOptions} {e : CeresSlidingWindowEstimator options}
    (h : (system options).Reachable e) (hinit : e.initialised = true)
    (hnewest : 0 < Quaternion.normSq e.newest.rotation) (t : Timestamp) (j : KeyframeBlocks)
    (hj : 0 < Quaternion.normSq j.rotation) :
    (e.preint.finalize t).scaledResidual e.newest.toKeyframeBlocks j = 0 ∧
        biasRandomWalkResidual 0.01 0.001 e.newest.toKeyframeBlocks j = 0 ↔
      Agrees (predictedKeyframe e.newest (e.preint.finalize t) t) j := by
  have hlinear := linearisedAt_newest h hinit t
  have hsound : (e.preint.finalize t).Sound := (factorsSound_of_reachable h).preint.finalize t
  rw [scaledResidual_eq_zero_iff, residual_eq_zero_iff hlinear hsound hnewest hj t,
    biasRandomWalkResidual_eq_zero_iff (by norm_num) (by norm_num)]
  constructor
  · rintro ⟨⟨hposition, hrotation, hvelocity⟩, haccel, hgyro⟩
    exact ⟨hposition, hvelocity, hrotation, haccel, hgyro⟩
  · intro hagrees
    exact ⟨⟨hagrees.position, hagrees.rotation, hagrees.velocity⟩, hagrees.accelBias,
      hagrees.gyroBias⟩

/-- The prediction after two samples. -/
theorem predicted_residuals_second :
    let e := (afterFirstFix {} 0).estimator
    let kf := predictedKeyframe e.newest (e.preint.finalize (fixAt 1000).timestamp)
      (fixAt 1000).timestamp
    (e.preint.finalize (fixAt 1000).timestamp).scaledResidual e.newest.toKeyframeBlocks
        kf.toKeyframeBlocks = 0 ∧
      biasRandomWalkResidual 0.01 0.001 e.newest.toKeyframeBlocks kf.toKeyframeBlocks = 0 := by
  intro e kf
  obtain ⟨hreach, hinit, _, _⟩ := afterFirstFix_eq {} 0
  have hsystem : (system {}).Reachable e := Recorded.reachable hreach.of_guarded
  have hnewest : Quaternion.normSq e.newest.rotation = 1 := by
    rw [newest_afterFirstFix, map_one]
  have hQ : Quaternion.normSq e.newest.Q = 1 := by
    rw [WindowKeyframe.Q, Quat.normalized_of_unit hnewest, hnewest]
  have hunit : Quaternion.normSq kf.rotation = 1 := by
    refine Quat.normSq_normalized ?_
    rw [map_mul, hQ, ((factorsSound_of_reachable hsystem).preint.finalize _).unit, one_mul]
    exact one_pos
  refine (predicted_residuals_iff hsystem hinit (by rw [hnewest]; exact one_pos) _ _
    (by rw [hunit]; exact one_pos)).mpr ⟨rfl, rfl, .inl ?_, rfl, rfl⟩
  exact Quat.normalized_of_unit hunit

end FalconGuide
