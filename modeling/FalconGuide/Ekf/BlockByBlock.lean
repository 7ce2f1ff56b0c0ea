import FalconGuide.Core.Segments
import FalconGuide.Ekf.Blocks
import FalconGuide.Ekf.GnssRows
import FalconGuide.Ekf.MeasurementModels
import FalconGuide.Lib.BlockUpdates

namespace FalconGuide

open Lib Matrix

/-!
# Block-by-block updates against one joint update

`AidingSolution`, `ExternalPose` and `ExternalOdometry` use a position, a velocity and an attitude
one after the other.  Their innovations are all taken against the nominal state, and none of them
accounts for the correction that the blocks before it have already put into the error state.

* `aidingSolutionBlocks`, `externalPoseBlocks`, `externalOdometryBlocks` — the active blocks;
* `blocksUpdate` / `blocksUpdate_eq` — without a gate they leave the joint covariance, and the sum
  of their gains times their innovations;
* `blocks_eq_joint_iff` — when that is the joint correction;
* `blocks_ne_joint` — a pose whose position is correlated with its attitude, where it is not.
-/

section Blocks

variable {n : ℕ}

/-! ### The active blocks -/

/-- The updates of `blocks`, in their order. -/
noncomputable def blocksUpdate (eigen : Eigen) (gate : ℝ)
    (outcome : Estimate n × EstimatorUpdateResult) (blocks : List (Kalman.Block (Fin n) (Fin 3))) :
    Estimate n × EstimatorUpdateResult :=
  blocks.foldl (fun outcome b => blockUpdate eigen outcome b.H b.innovation b.noise gate) outcome

section Active

variable (nominal : NominalState) (layout : StateLayout) (context : UpdateContext)

/-- The blocks that `AidingSolution::Apply` uses. -/
noncomputable def aidingSolutionBlocks (options : AidingSolutionOptions) (aid : AidingSolution) :
    List (Kalman.Block (Fin n) (Fin 3)) :=
  if aid.validity ≠ .valid then []
  else if ∃ score ∈ aid.matchScore, score < options.minMatchScore then []
  else
    context.ltp.elim [] fun ltp =>
      let R := ltp.ecefToEnuRotation
      (aid.positionEcefM.toList.map fun p =>
        { H := segmentH layout .position
          innovation := ltp.ecefToEnu p - nominal.positionEnuM
          noise := blockNoise options.positionSigmaM R aid.positionCovarianceEcefM2 10 })
      ++ (aid.velocityEcefMps.toList.map fun v =>
        { H := segmentH layout .velocity
          innovation := R *ᵥ v - nominal.velocityEnuMps
          noise := blockNoise options.velocitySigmaMps R aid.velocityCovarianceEcefMps2 1 })
      ++ if aid.orientationValidity.any then
          aid.orientationBodyToEcef.toList.map fun q =>
            { H := observedRows aid.orientationValidity (segmentH layout .attitude)
              innovation :=
                observedAxes aid.orientationValidity (attitudeInnovation nominal R q)
              noise := isotropicNoise 3 (options.attitudeSigmaRad.getD 0.05) }
        else []

/-- The blocks that `ExternalPose::Apply` uses. -/
noncomputable def externalPoseBlocks (options : ExternalPoseOptions)
    (ep : ExternalPoseMeasurement) : List (Kalman.Block (Fin n) (Fin 3)) :=
  if ep.validity ≠ .valid then []
  else
    context.ltp.elim [] fun ltp =>
      let R := ltp.ecefToEnuRotation
      (if options.usePosition then
        [{ H := segmentH layout .position
           innovation := ltp.ecefToEnu ep.positionEcefM - nominal.positionEnuM
           noise := blockNoise options.positionSigmaM R (block ep.covariance 0 0 3 3) 2 }]
      else [])
      ++ if options.useOrientation then
          [{ H := segmentH layout .attitude
             innovation := attitudeInnovation nominal R ep.orientationBodyToEcef
             noise := isotropicNoise 3 (options.orientationSigmaRad.getD 0.02) }]
        else []

/-- The blocks that `ExternalOdometry::Apply` uses. -/
noncomputable def externalOdometryBlocks (options : ExternalOdometryOptions)
    (eo : ExternalOdometryMeasurement) : List (Kalman.Block (Fin n) (Fin 3)) :=
  if eo.validity ≠ .valid then []
  else
    context.ltp.elim [] fun ltp =>
      let R := ltp.ecefToEnuRotation
      (if options.usePosition then
        [{ H := segmentH layout .position
           innovation := ltp.ecefToEnu eo.positionEcefM - nominal.positionEnuM
           noise := isotropicNoise 3 (options.positionSigmaM.getD 1) }]
      else [])
      ++ (if options.useVelocity then
        [{ H := segmentH layout .velocity
           innovation := R *ᵥ eo.velocityEcefMps - nominal.velocityEnuMps
           noise := isotropicNoise 3 (options.velocitySigmaMps.getD 0.1) }]
      else [])
      ++ if options.useOrientation then
          [{ H := segmentH layout .attitude
             innovation := attitudeInnovation nominal R eo.orientationBodyToEcef
             noise := isotropicNoise 3 (options.orientationSigmaRad.getD 0.02) }]
        else []

end Active

/-! ### The models use their blocks -/

section Apply

variable {nominal : NominalState} {layout : StateLayout} {context : UpdateContext}
  {eigen : Eigen} {est : Estimate n}

theorem aidingSolutionApply_fst (options : AidingSolutionOptions) (aid : AidingSolution) :
    (aidingSolutionApply eigen options nominal est layout aid context).1
      = (blocksUpdate eigen options.innovationGate (est, .rejected)
          (aidingSolutionBlocks nominal layout context options aid)).1 := by
  unfold aidingSolutionApply aidingSolutionBlocks
  split
  · rfl
  · split
    · rfl
    · cases context.ltp with
      | none => rfl
      | some ltp =>
        simp only [Option.elim_some]
        cases aid.positionEcefM <;> cases aid.velocityEcefMps <;>
          cases aid.orientationBodyToEcef <;> cases aid.orientationValidity.any <;> rfl

theorem externalPoseApply_fst (options : ExternalPoseOptions) (ep : ExternalPoseMeasurement) :
    (externalPoseApply eigen options nominal est layout ep context).1
      = (blocksUpdate eigen options.innovationGate (est, .rejected)
          (externalPoseBlocks nominal layout context options ep)).1 := by
  unfold externalPoseApply externalPoseBlocks
  split
  · rfl
  · cases context.ltp with
    | none => rfl
    | some ltp =>
      simp only [Option.elim_some]
      cases options.usePosition <;> cases options.useOrientation <;> rfl

theorem externalOdometryApply_fst (options : ExternalOdometryOptions)
    (eo : ExternalOdometryMeasurement) :
    (externalOdometryApply eigen options nominal est layout eo context).1
      = (blocksUpdate eigen options.innovationGate (est, .rejected)
          (externalOdometryBlocks nominal layout context options eo)).1 := by
  unfold externalOdometryApply externalOdometryBlocks
  split
  · rfl
  · cases context.ltp with
    | none => rfl
    | some ltp =>
      simp only [Option.elim_some]
      cases options.usePosition <;> cases options.useVelocity <;>
        cases options.useOrientation <;> rfl

end Apply

/-! ### Without a gate -/

/-- **Blocks in sequence.** Without a gate every block adds its gain times its own innovation, and
    the covariance ends up as the joint covariance. -/
theorem blocksUpdate_eq {gate : ℝ} (hgate : gate ≤ 0)
    {outcome : Estimate n × EstimatorUpdateResult} {blocks : List (Kalman.Block (Fin n) (Fin 3))}
    (hP : outcome.1.covariance.PosSemidef) (hblocks : Kalman.Noisy blocks) :
    (blocksUpdate .exact gate outcome blocks).1
      = { errorState :=
            outcome.1.errorState + Kalman.sumBlockGains outcome.1.covariance blocks
          covariance := Kalman.jointCov outcome.1.covariance blocks } := by
  induction blocks generalizing outcome with
  | nil =>
    rw [Kalman.jointCov_nil hP, Kalman.sumBlockGains, add_zero]
    rfl
  | cons b blocks ih =>
    obtain ⟨hb, hrest⟩ := Kalman.noisy_cons.mp hblocks
    have hfirst : (blockUpdate .exact outcome b.H b.innovation b.noise gate).1
        = { errorState :=
              outcome.1.errorState + Kalman.blockGain outcome.1.covariance b *ᵥ b.innovation
            covariance := Kalman.blockPosterior outcome.1.covariance b } := by
      rw [blockUpdate, ekfUpdate_exact hgate hP hb]
      rfl
    have hpost := Kalman.posSemidef_blockPosterior hP hb
    show (blocksUpdate .exact gate
      (blockUpdate .exact outcome b.H b.innovation b.noise gate) blocks).1 = _
    rw [ih (by rw [hfirst]; exact hpost) hrest, hfirst, Kalman.sumBlockGains,
      Kalman.jointCov_cons hP hb hrest, add_assoc]

/-! ### Against the joint update -/

/-- `after` is what one Kalman update of `est` with all blocks leaves. -/
def EqualsJoint (est after : Estimate n) (blocks : List (Kalman.Block (Fin n) (Fin 3))) : Prop :=
  after.errorState = Kalman.jointCorrection est.covariance blocks ∧
    after.covariance = Kalman.jointCov est.covariance blocks

/-- The blocks leave what the joint update leaves exactly if what their innovations leave out
    cancels; in another order they leave the same exactly if they leave out the same. -/
def JointWhenNothingLeftOut (gate : ℝ) (est after : Estimate n)
    (blocks : List (Kalman.Block (Fin n) (Fin 3))) : Prop :=
  (EqualsJoint est after blocks ↔ Kalman.leftOutBlocks est.covariance [] blocks = 0) ∧
  ∀ blocks' : List (Kalman.Block (Fin n) (Fin 3)), blocks'.Perm blocks →
    ((blocksUpdate .exact gate (est, .rejected) blocks').1 = after ↔
      Kalman.leftOutBlocks est.covariance [] blocks'
        = Kalman.leftOutBlocks est.covariance [] blocks)

variable {est : Estimate n}

theorem jointWhenNothingLeftOut_blocksUpdate {gate : ℝ} (hgate : gate ≤ 0)
    (hP : est.covariance.PosSemidef) (hx : est.errorState = 0)
    {blocks : List (Kalman.Block (Fin n) (Fin 3))} (hblocks : Kalman.Noisy blocks) :
    JointWhenNothingLeftOut gate est (blocksUpdate .exact gate (est, .rejected) blocks).1
      blocks := by
  have hafter : ∀ blocks' : List (Kalman.Block (Fin n) (Fin 3)), Kalman.Noisy blocks' →
      (blocksUpdate .exact gate (est, .rejected) blocks').1
        = { errorState := Kalman.jointCorrection est.covariance blocks'
              + Kalman.leftOutBlocks est.covariance [] blocks'
            covariance := Kalman.jointCov est.covariance blocks' } := by
    intro blocks' hblocks'
    have hsum := @blocksUpdate_eq n _ hgate (est, .rejected) blocks' hP hblocks'
    rw [hx, zero_add, Kalman.sumBlockGains_eq_add_leftOutBlocks hP hblocks'] at hsum
    exact hsum
  constructor
  · rw [EqualsJoint, hafter blocks hblocks]
    simp only [add_eq_left, and_true]
  · intro blocks' hperm
    have hblocks' : Kalman.Noisy blocks' := fun b hb => hblocks b (hperm.mem_iff.mp hb)
    obtain ⟨hcov, hcorrection⟩ := Kalman.joint_perm hperm hP hblocks'
    rw [hafter blocks' hblocks', hafter blocks hblocks, hcov, hcorrection]
    simp only [Estimate.mk.injEq, add_right_inj, and_true]

/-- **Block by block against joint.** Without a gate, from a prior without an error state and with
    positive definite noise on every active block, each of the three models leaves what one update
    with the stacked blocks leaves exactly if what the innovations leave out cancels, and the order
    of the blocks does not matter exactly if it does not change what they leave out. -/
theorem blocks_eq_joint_iff (nominal : NominalState) (layout : StateLayout)
    (context : UpdateContext) (hP : est.covariance.PosSemidef) (hx : est.errorState = 0) :
    (∀ (options : AidingSolutionOptions) (aid : AidingSolution), options.innovationGate ≤ 0 →
      Kalman.Noisy (aidingSolutionBlocks (n := n) nominal layout context options aid) →
      JointWhenNothingLeftOut options.innovationGate est
        (aidingSolutionApply .exact options nominal est layout aid context).1
        (aidingSolutionBlocks nominal layout context options aid)) ∧
    (∀ (options : ExternalPoseOptions) (ep : ExternalPoseMeasurement), options.innovationGate ≤ 0 →
      Kalman.Noisy (externalPoseBlocks (n := n) nominal layout context options ep) →
      JointWhenNothingLeftOut options.innovationGate est
        (externalPoseApply .exact options nominal est layout ep context).1
        (externalPoseBlocks nominal layout context options ep)) ∧
    (∀ (options : ExternalOdometryOptions) (eo : ExternalOdometryMeasurement),
      options.innovationGate ≤ 0 →
      Kalman.Noisy (externalOdometryBlocks (n := n) nominal layout context options eo) →
      JointWhenNothingLeftOut options.innovationGate est
        (externalOdometryApply .exact options nominal est layout eo context).1
        (externalOdometryBlocks nominal layout context options eo)) := by
  refine ⟨?_, ?_, ?_⟩
  · intro options aid hgate hblocks
    rw [aidingSolutionApply_fst]
    exact jointWhenNothingLeftOut_blocksUpdate hgate hP hx hblocks
  · intro options ep hgate hblocks
    rw [externalPoseApply_fst]
    exact jointWhenNothingLeftOut_blocksUpdate hgate hP hx hblocks
  · intro options eo hgate hblocks
    rw [externalOdometryApply_fst]
    exact jointWhenNothingLeftOut_blocksUpdate hgate hP hx hblocks

end Blocks

/-! ### Poses -/

/-- A pose at the origin of its tangent plane, one metre off on every axis. -/
noncomputable def offPose : ExternalPoseMeasurement where
  positionEcefM := equatorPlane.originEcefM

/-- The state it is compared with. -/
def offNominal : NominalState := { positionEnuM := -1 }

theorem offPose_innovation :
    equatorPlane.ecefToEnu offPose.positionEcefM - offNominal.positionEnuM = 1 := by
  show equatorPlane.ecefToEnuRotation *ᵥ (equatorPlane.originEcefM - equatorPlane.originEcefM)
    - (-1 : Vec3) = 1
  rw [sub_self, mulVec_zero, zero_sub, neg_neg]

/-- The position block of that pose. -/
noncomputable def offBlock : Kalman.Block (Fin 15) (Fin 3) where
  H := segmentH makeStandardLayout .position
  innovation := 1
  noise := isotropicNoise 3 1

/-- Its attitude block. -/
noncomputable def offAttitudeBlock : Kalman.Block (Fin 15) (Fin 3) where
  H := segmentH makeStandardLayout .attitude
  innovation := attitudeInnovation offNominal equatorPlane.ecefToEnuRotation 1
  noise := isotropicNoise 3 0.02

theorem externalPoseBlocks_offPose (useOrientation : Bool) :
    externalPoseBlocks offNominal makeStandardLayout { ltp := some equatorPlane }
        { positionSigmaM := some 1, useOrientation } offPose
      = offBlock :: if useOrientation then [offAttitudeBlock] else [] := by
  have hvalid : ¬ offPose.validity ≠ .valid := fun h => h rfl
  have hinnovation := offPose_innovation
  simp only [externalPoseBlocks, hvalid, if_false, if_true, Option.elim_some, hinnovation]
  rfl

theorem noisy_offPose (useOrientation : Bool) :
    Kalman.Noisy (offBlock :: if useOrientation then [offAttitudeBlock] else []) := by
  have hblock : offBlock.noise.PosDef := posDef_isotropicNoise one_ne_zero
  have hattitude : offAttitudeBlock.noise.PosDef := posDef_isotropicNoise (by norm_num)
  refine Kalman.noisy_cons.mpr ⟨hblock, ?_⟩
  cases useOrientation with
  | false => exact Kalman.noisy_nil
  | true => exact Kalman.noisy_cons.mpr ⟨hattitude, Kalman.noisy_nil⟩

/-- Two segments that do not meet do not see each other. -/
theorem segmentH_mul_transpose {n : ℕ} {layout : StateLayout} {id id' : StateSegmentId}
    (h : (layout.get id').offset + 3 ≤ (layout.get id).offset) :
    (segmentH layout id : Matrix (Fin 3) (Fin n) ℝ)
      * (segmentH layout id' : Matrix (Fin 3) (Fin n) ℝ)ᵀ = 0 := by
  ext i k
  rw [mul_apply]
  refine Finset.sum_eq_zero fun j _ => mul_eq_zero.mpr ?_
  rw [transpose_apply, segmentH, segmentH]
  by_cases hj : (layout.get id).offset ≤ j.val
  · exact .inr (setBlock_apply_of_outside (by omega))
  · exact .inl (setBlock_apply_of_outside (by omega))

/-- Where position and attitude are not correlated, a pose is two blocks that do not see each
    other, and the model does what the joint update does. -/
theorem blocks_eq_joint_iff_uncorrelated :
    EqualsJoint { covariance := 1 }
      (externalPoseApply .exact { positionSigmaM := some 1 } offNominal
        { covariance := 1 } makeStandardLayout offPose { ltp := some equatorPlane }).1
      [offBlock, offAttitudeBlock] := by
  have hblocks := externalPoseBlocks_offPose true
  have hlaw := (@blocks_eq_joint_iff 15 { covariance := 1 } offNominal makeStandardLayout
    { ltp := some equatorPlane } .one rfl).2.1 { positionSigmaM := some 1 } offPose le_rfl
    (by rw [hblocks]; exact noisy_offPose true)
  rw [hblocks] at hlaw
  refine hlaw.1.mpr ((Kalman.leftOutBlocks_pair_eq_zero_iff .one
    (posDef_isotropicNoise one_ne_zero) (posDef_isotropicNoise (by norm_num))).mpr ?_)
  have hcross : offAttitudeBlock.H * offBlock.Hᵀ = 0 := segmentH_mul_transpose (by decide)
  rw [Kalman.blockGain, Kalman.gain, Matrix.one_mul, mulVec_mulVec, ← Matrix.mul_assoc, hcross,
    Matrix.zero_mul, zero_mulVec]

/-- Every state of the filter moves with every other. -/
def correlatedEstimate : Estimate 15 := { covariance := vecMulVec 1 1 }

theorem posSemidef_correlatedEstimate : correlatedEstimate.covariance.PosSemidef := by
  have h := posSemidef_vecMulVec_self_star (1 : Fin 15 → ℝ)
  rwa [star_trivial] at h

/-- An identity block over three rows picks three states. -/
theorem segmentH_mulVec_one {n : ℕ} {layout : StateLayout} {id : StateSegmentId}
    (h : (layout.get id).offset + 3 ≤ n) :
    (segmentH layout id : Matrix (Fin 3) (Fin n) ℝ) *ᵥ 1 = 1 := by
  ext i
  have hentry : ∀ j : Fin n, segmentH layout id i j
      = if j = ⟨(layout.get id).offset + i.val, by omega⟩ then (1 : ℝ) else 0 := by
    intro j
    unfold segmentH setBlock
    by_cases hj : j = ⟨(layout.get id).offset + i.val, by omega⟩
    · have hval : j.val = (layout.get id).offset + i.val := congrArg Fin.val hj
      rw [if_pos hj, dif_pos (by omega), Matrix.one_apply, if_pos]
      exact Fin.ext (by simp only; omega)
    · have hval : j.val ≠ (layout.get id).offset + i.val := fun h => hj (Fin.ext h)
      rw [if_neg hj]
      split
      · rw [Matrix.one_apply, if_neg]
        intro heq
        have := congrArg Fin.val heq
        simp only at this
        omega
      · rfl
  simp only [mulVec, dotProduct, hentry, Pi.one_apply, mul_one, Finset.sum_ite_eq',
    Finset.mem_univ, if_true]

/-- The position of the pose corrects every state by three quarters of a metre. -/
theorem blockGain_offBlock :
    Kalman.blockGain correlatedEstimate.covariance offBlock *ᵥ offBlock.innovation
      = (3 / 4 : ℝ) • 1 := by
  have hone : offBlock.H *ᵥ (1 : Fin 15 → ℝ) = 1 := segmentH_mulVec_one (by decide)
  have hP : ∀ v : Fin 15 → ℝ, correlatedEstimate.covariance *ᵥ v = ((1 : Fin 15 → ℝ) ⬝ᵥ v) • 1 := by
    intro v
    show vecMulVec 1 1 *ᵥ v = _
    rw [vecMulVec_mulVec, op_smul_eq_smul]
  have hdot : (1 : Fin 15 → ℝ) ⬝ᵥ (offBlock.Hᵀ *ᵥ (1 : Fin 3 → ℝ)) = 3 := by
    rw [dotProduct_mulVec, vecMul_transpose, hone]
    simp
  -- the innovation is an eigenvector of its covariance
  have hS : Kalman.innovationCov correlatedEstimate.covariance offBlock.H offBlock.noise *ᵥ 1
      = (4 : ℝ) • 1 := by
    rw [Kalman.innovationCov, add_mulVec, ← mulVec_mulVec, ← mulVec_mulVec, hP, hdot, mulVec_smul,
      hone]
    show (3 : ℝ) • (1 : Fin 3 → ℝ) + ((1 * 1 : ℝ) • (1 : Mat3)) *ᵥ 1 = _
    rw [smul_mulVec, one_mulVec, ← add_smul]
    norm_num
  have hunit := (isUnit_iff_isUnit_det _).mp (Kalman.posDef_innovationCov (H := offBlock.H)
    posSemidef_correlatedEstimate (R := offBlock.noise) (posDef_isotropicNoise one_ne_zero)).isUnit
  have hSinv : (Kalman.innovationCov correlatedEstimate.covariance offBlock.H offBlock.noise)⁻¹ *ᵥ 1
      = (1 / 4 : ℝ) • (1 : Fin 3 → ℝ) := by
    have h := congrArg (fun v => (1 / 4 : ℝ) • ((Kalman.innovationCov correlatedEstimate.covariance
      offBlock.H offBlock.noise)⁻¹ *ᵥ v)) hS
    simp only [mulVec_mulVec, nonsing_inv_mul _ hunit, one_mulVec, mulVec_smul, smul_smul] at h
    rw [h]
    norm_num
  show Kalman.gain _ _ _ *ᵥ (1 : Fin 3 → ℝ) = _
  rw [Kalman.gain, ← mulVec_mulVec, ← mulVec_mulVec, hSinv, mulVec_smul, mulVec_smul, hP, hdot,
    smul_smul]
  norm_num

/-- **A position correlated with its attitude.** The attitude ignores what the position has already
    corrected of it. -/
theorem blocks_ne_joint :
    let options : ExternalPoseOptions := { positionSigmaM := some 1 }
    let context : UpdateContext := { ltp := some equatorPlane }
    options.innovationGate ≤ 0 ∧ correlatedEstimate.covariance.PosSemidef ∧
      correlatedEstimate.errorState = 0 ∧
      Kalman.Noisy (externalPoseBlocks (n := 15) offNominal makeStandardLayout context options
        offPose) ∧
      ¬ EqualsJoint correlatedEstimate
          (externalPoseApply .exact options offNominal correlatedEstimate makeStandardLayout
            offPose context).1
          (externalPoseBlocks offNominal makeStandardLayout context options offPose) := by
  intro options context
  have hblocks : externalPoseBlocks offNominal makeStandardLayout context options offPose
      = [offBlock, offAttitudeBlock] := externalPoseBlocks_offPose true
  have hnoisy : Kalman.Noisy [offBlock, offAttitudeBlock] := noisy_offPose true
  have hP := posSemidef_correlatedEstimate
  refine ⟨le_rfl, hP, rfl, hblocks ▸ hnoisy, ?_⟩
  intro hequal
  rw [externalPoseApply_fst, hblocks] at hequal
  have hzero := (jointWhenNothingLeftOut_blocksUpdate (le_refl 0) hP rfl hnoisy).1.mp hequal
  rw [Kalman.leftOutBlocks_pair_eq_zero_iff hP (hnoisy _ (by simp)) (hnoisy _ (by simp)),
    blockGain_offBlock, mulVec_smul] at hzero
  have hone : offAttitudeBlock.H *ᵥ (1 : Fin 15 → ℝ) = 1 := segmentH_mulVec_one (by decide)
  rw [hone] at hzero
  have hentry : (3 / 4 : ℝ) * 1 = 0 := congrFun hzero 0
  norm_num at hentry

end FalconGuide
