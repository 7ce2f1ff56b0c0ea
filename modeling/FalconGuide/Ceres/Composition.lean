import FalconGuide.Ceres.BiasCorrection
import FalconGuide.Core.SmallRotations

namespace FalconGuide

open Matrix

/-!
# Preintegration in parts

A list of samples that is cut at one of them, which belongs to both parts, gives the increments of
the parts, composed.

* `Deltas`, `Deltas.comp` — the increments of a factor, and how those of two factors compose;
* `ImuPreintegrator.Follows` — two integrators side by side: the first one has the increments of the
  second behind others;
* `Follows.integrate`, `Follows.integrateAll` — one sample keeps them so, and so do several;
* `preintegrated_comp` — the increments compose.
-/

/-! ### Quaternions -/

namespace Quat

/-- A rotation passes through `normalized()`. -/
theorem normalized_mul_of_unit {p : Quat} (hp : Quaternion.normSq p = 1) (q : Quat) :
    (p * q).normalized = p * q.normalized := by
  have hnormSq : Quaternion.normSq (p * q) = Quaternion.normSq q := by
    rw [map_mul, hp, one_mul]
  have hnorm : norm (p * q) = norm q := congrArg Real.sqrt hnormSq
  rw [normalized, normalized, hnormSq, hnorm]
  split
  · exact (Algebra.mul_smul_comm _ p q).symm
  · rfl

end Quat

/-! ### Increments -/

/-- What a factor says about the motion between two keyframes. -/
@[ext]
structure Deltas where
  deltaP : Vec3
  deltaV : Vec3
  deltaQ : Quat
  integrationTimeS : ℝ
  numSamples : ℕ

namespace Deltas

/-- No motion. -/
noncomputable def identity : Deltas where
  deltaP := 0
  deltaV := 0
  deltaQ := 1
  integrationTimeS := 0
  numSamples := 0

/-- One motion, and another one from where it ended. -/
noncomputable def comp (d d' : Deltas) : Deltas where
  deltaP := d.deltaP + d'.integrationTimeS • d.deltaV + Quat.toRotationMatrix d.deltaQ *ᵥ d'.deltaP
  deltaV := d.deltaV + Quat.toRotationMatrix d.deltaQ *ᵥ d'.deltaV
  deltaQ := d.deltaQ * d'.deltaQ
  integrationTimeS := d.integrationTimeS + d'.integrationTimeS
  numSamples := d.numSamples + d'.numSamples

theorem comp_identity (d : Deltas) : d.comp identity = d := by
  ext <;> simp [comp, identity]

end Deltas

/-- The increments of a factor. -/
def ImuPreintegration.deltas (p : ImuPreintegration) : Deltas where
  deltaP := p.deltaP
  deltaV := p.deltaV
  deltaQ := p.deltaQ
  integrationTimeS := p.integrationTimeS
  numSamples := p.numSamples

namespace ImuPreintegrator

/-- The increments so far. -/
def deltas (s : ImuPreintegrator) : Deltas where
  deltaP := s.deltaP
  deltaV := s.deltaV
  deltaQ := s.deltaQ
  integrationTimeS := s.deltaT
  numSamples := s.numSamples

theorem deltas_finalize (s : ImuPreintegrator) (t1 : Timestamp) :
    (s.finalize t1).deltas = s.deltas := rfl

/-- `ExpMap` never gives zero. -/
theorem normSq_expMap_pos (phi : Vec3) : 0 < Quaternion.normSq (expMap phi) := by
  rw [Quat.normSq_eq]
  by_cases hsmall : euclideanNorm phi < 1e-10
  · have hre : (expMap phi).re = 1 := congrArg QuaternionAlgebra.re (if_pos hsmall)
    have hvec := dotProduct_self_nonneg (Quat.vec (expMap phi))
    rw [hre]
    linarith
  · have hhalf : 0.5 * euclideanNorm phi = euclideanNorm phi / 2 := by ring
    have hre : (expMap phi).re = Real.cos (euclideanNorm phi / 2) := by
      rw [← hhalf]
      exact congrArg QuaternionAlgebra.re (if_neg hsmall)
    have hvec : Quat.vec (expMap phi)
        = (Real.sin (euclideanNorm phi / 2) * (euclideanNorm phi)⁻¹) • phi := by
      rw [← hhalf]
      refine (congrArg Quat.vec (if_neg hsmall)).trans ?_
      ext i
      fin_cases i <;> rfl
    have hunit := (halfAngle_of_angle (v := phi) (by linarith)).unit
    rw [hre, hvec, dotProduct_smul, smul_dotProduct, smul_eq_mul, smul_eq_mul, ← mul_assoc, ← sq,
      hunit]
    exact one_pos

/-- The rotation of an integrator is a unit quaternion after every step. -/
theorem normSq_nextDeltaQ {s : ImuPreintegrator} (h : Quaternion.normSq s.deltaQ = 1)
    (imu : ImuMeasurement) (dt : ℝ) : Quaternion.normSq (s.nextDeltaQ imu dt) = 1 := by
  apply Quat.normSq_normalized
  rw [map_mul, h, one_mul]
  exact normSq_expMap_pos _

/-- `s` stands where `s'` would stand behind the increments `d`. -/
structure Follows (d : Deltas) (s s' : ImuPreintegrator) : Prop where
  deltas : s.deltas = d.comp s'.deltas
  unit : Quaternion.normSq d.deltaQ = 1
  unit' : Quaternion.normSq s'.deltaQ = 1
  ba : s.ba = s'.ba
  bg : s.bg = s'.bg
  prevImu : s.prevImu = s'.prevImu
  remembers : s.Remembers
  remembers' : s'.Remembers

namespace Follows

variable {d : Deltas} {s s' : ImuPreintegrator}

theorem sampleDt (h : Follows d s s') (imu : ImuMeasurement) :
    s.sampleDt imu = s'.sampleDt imu := by
  rw [h.remembers.sampleDt, h.remembers'.sampleDt, h.prevImu]

theorem aMid (h : Follows d s s') (imu : ImuMeasurement) : s.aMid imu = s'.aMid imu := by
  rw [ImuPreintegrator.aMid, h.ba, h.prevImu, ImuPreintegrator.aMid]

theorem wMid (h : Follows d s s') (imu : ImuMeasurement) : s.wMid imu = s'.wMid imu := by
  rw [ImuPreintegrator.wMid, h.bg, h.prevImu, ImuPreintegrator.wMid]

/-- **One step** is made behind the same increments. -/
theorem step (h : Follows d s s') (imu : ImuMeasurement) (dt : ℝ) :
    (s.step imu dt).deltas = d.comp (s'.step imu dt).deltas := by
  have hp : s.deltaP = _ := congrArg Deltas.deltaP h.deltas
  have hv : s.deltaV = _ := congrArg Deltas.deltaV h.deltas
  have hq : s.deltaQ = d.deltaQ * s'.deltaQ := congrArg Deltas.deltaQ h.deltas
  have ht : s.deltaT = _ := congrArg Deltas.integrationTimeS h.deltas
  have hn : s.numSamples = _ := congrArg Deltas.numSamples h.deltas
  have hR : Quat.toRotationMatrix s.deltaQ
      = Quat.toRotationMatrix d.deltaQ * Quat.toRotationMatrix s'.deltaQ := by
    rw [hq, Quat.toRotationMatrix_mul h.unit h.unit']
  apply Deltas.ext
  · show s.deltaP + (dt • s.deltaV + (0.5 * dt * dt) • (_ *ᵥ s.aMid imu)) = _
    rw [hp, hv, hR, h.aMid, ← mulVec_mulVec]
    simp only [Deltas.comp, ImuPreintegrator.deltas, ImuPreintegrator.step, mulVec_add,
      mulVec_smul, smul_add, add_smul]
    abel
  · show s.deltaV + dt • (_ *ᵥ s.aMid imu) = _
    rw [hv, hR, h.aMid, ← mulVec_mulVec]
    simp only [Deltas.comp, ImuPreintegrator.deltas, ImuPreintegrator.step, mulVec_add,
      mulVec_smul]
    abel
  · show Quat.normalized (s.deltaQ * expMap (dt • s.wMid imu)) = _
    rw [hq, h.wMid, mul_assoc, Quat.normalized_mul_of_unit h.unit]
    rfl
  · show s.deltaT + dt = _
    rw [ht]
    exact add_assoc _ _ _
  · show s.numSamples + 1 = _
    rw [hn]
    exact Nat.add_assoc _ _ _

/-- **One sample**, whether it is integrated or only remembered. -/
theorem integrate (h : Follows d s s') (imu : ImuMeasurement) :
    Follows d (s.integrate imu) (s'.integrate imu) := by
  have hdt := h.sampleDt imu
  have hnext := remembers_integrate s imu
  have hnext' := remembers_integrate s' imu
  have hprev : (s.integrate imu).prevImu = (s'.integrate imu).prevImu := by
    rw [hnext.2, hnext'.2]
  by_cases hgap : s.sampleDt imu ≤ 0 ∨ 1 < s.sampleDt imu
  · have hgap' := hgap
    rw [hdt] at hgap'
    have hs := integrate_gap h.remembers.hasPrev hgap
    have hs' := integrate_gap h.remembers'.hasPrev hgap'
    refine ⟨?_, h.unit, ?_, ?_, ?_, hprev, hnext.1, hnext'.1⟩
    · rw [hs, hs']
      exact h.deltas
    · rw [hs']
      exact h.unit'
    · rw [hs, hs']
      exact h.ba
    · rw [hs, hs']
      exact h.bg
  · have hgap' := hgap
    rw [hdt] at hgap'
    have hs := integrate_step h.remembers.hasPrev hgap
    have hs' := integrate_step h.remembers'.hasPrev hgap'
    refine ⟨?_, h.unit, ?_, ?_, ?_, hprev, hnext.1, hnext'.1⟩
    · rw [hs, hs', hdt]
      exact h.step imu _
    · rw [hs']
      exact normSq_nextDeltaQ h.unit' imu _
    · rw [hs, hs']
      exact h.ba
    · rw [hs, hs']
      exact h.bg

/-- **Several samples.** -/
theorem integrateAll (h : Follows d s s') (imus : List ImuMeasurement) :
    Follows d (s.integrateAll imus) (s'.integrateAll imus) := by
  induction imus generalizing s s' with
  | nil => exact h
  | cons imu imus ih => exact ih (h.integrate imu)

end Follows

/-- The rotation stays a unit quaternion. -/
theorem normSq_integrateAll {s : ImuPreintegrator} (h : Quaternion.normSq s.deltaQ = 1)
    (imus : List ImuMeasurement) : Quaternion.normSq (s.integrateAll imus).deltaQ = 1 := by
  induction imus generalizing s with
  | nil => exact h
  | cons imu imus ih =>
    refine ih ?_
    unfold integrate
    split
    · exact h
    · split
      · exact h
      · exact normSq_nextDeltaQ h imu _

/-- And the biases stay. -/
theorem integrateAll_bias (s : ImuPreintegrator) (imus : List ImuMeasurement) :
    (s.integrateAll imus).ba = s.ba ∧ (s.integrateAll imus).bg = s.bg := by
  induction imus generalizing s with
  | nil => exact ⟨rfl, rfl⟩
  | cons imu imus ih =>
    have hstep : (s.integrate imu).ba = s.ba ∧ (s.integrate imu).bg = s.bg := by
      unfold integrate
      split
      · exact ⟨rfl, rfl⟩
      · split
        · exact ⟨rfl, rfl⟩
        · exact ⟨rfl, rfl⟩
    rw [← hstep.1, ← hstep.2]
    exact ih (s.integrate imu)

end ImuPreintegrator

open ImuPreintegrator

/-- **Preintegration composes.** Cut at any sample, the increments over a list are those over the
    part up to the sample, composed with those over the part that starts with it; also where
    samples follow each other too late or not at all. -/
theorem preintegrated_comp (s s' : ImuPreintegrator) (ba bg : Vec3) (t0 t1 t2 : Timestamp)
    (imus : List ImuMeasurement) (m : Fin imus.length) :
    (preintegrated s ba bg t0 t2 imus).deltas
      = (preintegrated s ba bg t0 t1 (imus.take (m + 1))).deltas.comp
          (preintegrated s' ba bg t1 t2 (imus.drop m)).deltas := by
  have hfirst : imus.take (m + 1) = imus.take m ++ [imus[m.val]] :=
    (List.take_append_getElem m.isLt).symm
  have hsecond : imus.drop m = imus[m.val] :: imus.drop (m + 1) := List.drop_eq_getElem_cons m.isLt
  let before := (s.reset ba bg t0).integrateAll (imus.take m)
  have htake : (s.reset ba bg t0).integrateAll (imus.take (m + 1))
      = before.integrate imus[m.val] := by
    rw [hfirst, ImuPreintegrator.integrateAll, List.foldl_append]
    rfl
  have hwhole : (s.reset ba bg t0).integrateAll imus
      = (before.integrate imus[m.val]).integrateAll (imus.drop (m + 1)) := by
    rw [← htake, ImuPreintegrator.integrateAll, ImuPreintegrator.integrateAll,
      ImuPreintegrator.integrateAll, ← List.foldl_append, List.take_append_drop]
  have hdrop : (s'.reset ba bg t1).integrateAll (imus.drop m)
      = ((s'.reset ba bg t1).integrate imus[m.val]).integrateAll (imus.drop (m + 1)) := by
    rw [hsecond]
    rfl
  -- at the cut the whole list stands where the first part ends, and where the second one begins
  have hcut : Follows (before.integrate imus[m.val]).deltas (before.integrate imus[m.val])
      ((s'.reset ba bg t1).integrate imus[m.val]) := by
    obtain ⟨hremembers, hprev⟩ := before.remembers_integrate imus[m.val]
    obtain ⟨hremembers', hprev'⟩ := (s'.reset ba bg t1).remembers_integrate imus[m.val]
    have hunit : Quaternion.normSq (before.integrate imus[m.val]).deltaQ = 1 := by
      rw [← htake]
      exact normSq_integrateAll (map_one _) _
    have hbias : (before.integrate imus[m.val]).ba = ba
        ∧ (before.integrate imus[m.val]).bg = bg := by
      rw [← htake]
      exact integrateAll_bias _ _
    exact ⟨(Deltas.comp_identity _).symm, hunit, map_one _, hbias.1, hbias.2, by rw [hprev, hprev'],
      hremembers, hremembers'⟩
  have hend := (hcut.integrateAll (imus.drop (m + 1))).deltas
  rw [preintegrated, preintegrated, preintegrated, deltas_finalize, deltas_finalize,
    deltas_finalize, hwhole, htake, hdrop]
  exact hend

end FalconGuide
