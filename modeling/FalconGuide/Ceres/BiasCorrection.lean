import FalconGuide.Ceres.ImuPreintegrator

namespace FalconGuide

open Matrix ImuPreintegrator

/-!
# The correction for a change of the accelerometer bias

The rotation does not depend on the accelerometer bias, so that the increments are affine in it.  A
larger bias takes from the increments what the Jacobians of `Integrate` add.

* `carried`, `drift` — the velocity and position that a constant acceleration comes to when it is
  turned along with the samples;
* `Shifted` — the integrations at two biases, side by side;
* `ExactCorrection` — the increments at the other bias are those that the Jacobians give;
* `exactCorrection_iff` — the main result: that is so exactly when the change drifts nowhere;
* `drift_still` — without rotation, that is when there is no change, or nothing was integrated;
* `not_exactCorrection` — two samples and a change of one unit.
-/

/-! ### What a constant acceleration comes to -/

/-- The attitude after the samples `prev` and `imu`, at the gyro bias `bg`. -/
noncomputable def turned (bg : Vec3) (prev imu : ImuMeasurement) (q : Quat) : Quat :=
  Quat.normalized (q * expMap (secondsBetween prev imu •
    ((0.5 : ℝ) • ((prev.angularRateRadps - bg) + (imu.angularRateRadps - bg)))))

/-- The velocity and position that `d` adds to `v` and `p` over the samples behind `prev`; a step
    that is not between 0 and 1 seconds long is left out. -/
noncomputable def carried (bg d : Vec3) : ImuMeasurement → Quat → Vec3 × Vec3 →
    List ImuMeasurement → Vec3 × Vec3
  | _, _, vp, [] => vp
  | prev, q, (v, p), imu :: imus =>
    let dt := secondsBetween prev imu
    if dt ≤ 0 ∨ 1 < dt then carried bg d imu q (v, p) imus
    else
      let a := Quat.toRotationMatrix q *ᵥ d
      carried bg d imu (turned bg prev imu q)
        (v + dt • a, p + (dt • v + (0.5 * dt * dt) • a)) imus

/-- The velocity and position that the constant acceleration `d` comes to. -/
noncomputable def drift (bg d : Vec3) : List ImuMeasurement → Vec3 × Vec3
  | [] => 0
  | first :: imus => carried bg d first 1 0 imus

/-! ### Two integrations side by side -/

/-- The integrations `s` and `s'` at biases that differ by `d`, while `d` has come to the velocity
    `v` and the position `p`. -/
structure Shifted (d v p : Vec3) (s s' : ImuPreintegrator) : Prop where
  ba : s'.ba = s.ba + d
  bg : s'.bg = s.bg
  prevImu : s'.prevImu = s.prevImu
  remembers : s.Remembers ∧ s'.Remembers
  deltaQ : s'.deltaQ = s.deltaQ
  /-- The Jacobians count in the wrong direction. -/
  jacobians : s.jDvDba *ᵥ d = v ∧ s.jDpDba *ᵥ d = p
  deltaV : s'.deltaV = s.deltaV - v
  deltaP : s'.deltaP = s.deltaP - p

namespace Shifted

variable {d v p : Vec3} {s s' : ImuPreintegrator} {imu : ImuMeasurement}

/-- The mean acceleration is smaller by `d`. -/
theorem aMid (h : Shifted d v p s s') (imu : ImuMeasurement) :
    s'.aMid imu = s.aMid imu - d := by
  rw [ImuPreintegrator.aMid, ImuPreintegrator.aMid, h.prevImu, h.ba]
  ext i
  simp only [Pi.smul_apply, Pi.add_apply, Pi.sub_apply, smul_eq_mul]
  ring

theorem nextDeltaQ (h : Shifted d v p s s') (imu : ImuMeasurement) :
    s'.nextDeltaQ imu (secondsBetween s.prevImu imu)
        = s.nextDeltaQ imu (secondsBetween s.prevImu imu) ∧
      s.nextDeltaQ imu (secondsBetween s.prevImu imu)
        = turned s.bg s.prevImu imu s.deltaQ := by
  have hw : s'.wMid imu = s.wMid imu := by
    rw [ImuPreintegrator.wMid, ImuPreintegrator.wMid, h.prevImu, h.bg]
  constructor
  · rw [ImuPreintegrator.nextDeltaQ, ImuPreintegrator.nextDeltaQ, hw, h.deltaQ]
  · rfl

/-- **One step** of both integrations. -/
theorem step (h : Shifted d v p s s') (imu : ImuMeasurement) :
    Shifted d (v + secondsBetween s.prevImu imu • (Quat.toRotationMatrix s.deltaQ *ᵥ d))
      (p + (secondsBetween s.prevImu imu • v +
        (0.5 * secondsBetween s.prevImu imu * secondsBetween s.prevImu imu) •
          (Quat.toRotationMatrix s.deltaQ *ᵥ d)))
      (s.step imu (secondsBetween s.prevImu imu))
      (s'.step imu (secondsBetween s.prevImu imu)) where
  ba := h.ba
  bg := h.bg
  prevImu := rfl
  remembers := ⟨⟨h.remembers.1.hasPrev, rfl⟩, h.remembers.2.hasPrev, rfl⟩
  deltaQ := (h.nextDeltaQ imu).1
  jacobians := by
    obtain ⟨hv, hp⟩ := h.jacobians
    constructor
    -- the Jacobian times the change is what the change has added so far
    · show (s.jDvDba + _ • Quat.toRotationMatrix s.deltaQ) *ᵥ d = _
      rw [add_mulVec, smul_mulVec, hv]
    · show (s.jDpDba + (_ • s.jDvDba + _ • Quat.toRotationMatrix s.deltaQ)) *ᵥ d = _
      rw [add_mulVec, add_mulVec, smul_mulVec, smul_mulVec, hv, hp]
  -- and that is what the second integration lacks
  deltaV := by
    show s'.deltaV + _ • (Quat.toRotationMatrix s'.deltaQ *ᵥ s'.aMid imu)
      = s.deltaV + _ • (Quat.toRotationMatrix s.deltaQ *ᵥ s.aMid imu) - _
    rw [h.aMid, h.deltaQ, h.deltaV, mulVec_sub, smul_sub]
    abel
  deltaP := by
    show s'.deltaP + (_ • s'.deltaV + _ • (Quat.toRotationMatrix s'.deltaQ *ᵥ s'.aMid imu))
      = s.deltaP + (_ • s.deltaV + _ • (Quat.toRotationMatrix s.deltaQ *ᵥ s.aMid imu)) - _
    rw [h.aMid, h.deltaQ, h.deltaV, h.deltaP, mulVec_sub, smul_sub, smul_sub]
    abel

/-- A sample that is only remembered. -/
theorem remember (h : Shifted d v p s s') (imu : ImuMeasurement) :
    Shifted d v p { s with prevTs := imu.timestamp, prevImu := imu }
      { s' with prevTs := imu.timestamp, prevImu := imu } :=
  { h with
    prevImu := rfl
    remembers := ⟨⟨h.remembers.1.hasPrev, rfl⟩, h.remembers.2.hasPrev, rfl⟩ }

/-- **The rest of the samples.** By induction on them; `d` goes on from `v` and `p`. -/
theorem integrateAll (h : Shifted d v p s s') (imus : List ImuMeasurement) :
    Shifted d (carried s.bg d s.prevImu s.deltaQ (v, p) imus).1
      (carried s.bg d s.prevImu s.deltaQ (v, p) imus).2
      (s.integrateAll imus) (s'.integrateAll imus) := by
  induction imus generalizing s s' v p with
  | nil => exact h
  | cons imu imus ih =>
    obtain ⟨hs, hs'⟩ := h.remembers
    have hdt := hs.sampleDt imu
    have hdt' := hs'.sampleDt imu
    rw [h.prevImu] at hdt'
    show Shifted d _ _ ((s.integrate imu).integrateAll imus) ((s'.integrate imu).integrateAll imus)
    unfold carried
    dsimp only
    -- both integrations meet the same gaps
    by_cases hgap : secondsBetween s.prevImu imu ≤ 0 ∨ 1 < secondsBetween s.prevImu imu
    · rw [if_pos hgap, integrate_gap hs.hasPrev (by rwa [hdt]),
        integrate_gap hs'.hasPrev (by rwa [hdt'])]
      exact ih (h.remember imu)
    · rw [if_neg hgap, integrate_step hs.hasPrev (by rwa [hdt]),
        integrate_step hs'.hasPrev (by rwa [hdt']), hdt, hdt',
        ← (h.nextDeltaQ imu).2]
      exact ih (h.step imu)

end Shifted

/-! ### The correction -/

/-- `Reset` at the biases `ba` and `bg`, the samples, and `Finalize`. -/
noncomputable def preintegrated (s : ImuPreintegrator) (ba bg : Vec3) (t0 t1 : Timestamp)
    (imus : List ImuMeasurement) : ImuPreintegration :=
  ((s.reset ba bg t0).integrateAll imus).finalize t1

/-- The increments `p'` at an accelerometer bias that is larger by `d` are those that the Jacobians
    of `p` give, and that the cost function takes. -/
structure ExactCorrection (p p' : ImuPreintegration) (d : Vec3) : Prop where
  deltaV : p'.deltaV = p.deltaV + block p.jacobianDpDba 6 0 3 3 *ᵥ d
  deltaP : p'.deltaP = p.deltaP + block p.jacobianDpDba 0 0 3 3 *ᵥ d
  correctedDeltaV : p.correctedDeltaV (p.linearisationAccelBiasMps2 + d)
    p.linearisationGyroBiasRadps = p'.deltaV
  correctedDeltaP : p.correctedDeltaP (p.linearisationAccelBiasMps2 + d)
    p.linearisationGyroBiasRadps = p'.deltaP

/-- The blocks of the packed Jacobian. -/
theorem block_jacobianDpDba (s : ImuPreintegrator) (t1 : Timestamp) :
    block (s.finalize t1).jacobianDpDba 0 0 3 3 = s.jDpDba ∧
      block (s.finalize t1).jacobianDpDba 6 0 3 3 = s.jDvDba := by
  constructor
  · ext i j
    fin_cases i <;> fin_cases j <;> simp [ImuPreintegrator.finalize, block, setBlock]
  · ext i j
    fin_cases i <;> fin_cases j <;> simp [ImuPreintegrator.finalize, block, setBlock]

variable {s : ImuPreintegrator} {ba bg d : Vec3} {t0 t1 : Timestamp} {imus : List ImuMeasurement}

/-- **Against the Jacobians.** The change drifts by what the Jacobians give, and the increments are
    smaller by that. -/
theorem preintegrated_shift (s : ImuPreintegrator) (ba bg d : Vec3) (t0 t1 : Timestamp)
    (imus : List ImuMeasurement) :
    (block (preintegrated s ba bg t0 t1 imus).jacobianDpDba 6 0 3 3 *ᵥ d = (drift bg d imus).1 ∧
      block (preintegrated s ba bg t0 t1 imus).jacobianDpDba 0 0 3 3 *ᵥ d = (drift bg d imus).2) ∧
    (preintegrated s (ba + d) bg t0 t1 imus).deltaV
        = (preintegrated s ba bg t0 t1 imus).deltaV - (drift bg d imus).1 ∧
      (preintegrated s (ba + d) bg t0 t1 imus).deltaP
        = (preintegrated s ba bg t0 t1 imus).deltaP - (drift bg d imus).2 := by
  unfold preintegrated
  rw [(block_jacobianDpDba _ t1).1, (block_jacobianDpDba _ t1).2]
  cases imus with
  | nil =>
    show ((0 : Mat3) *ᵥ d = 0 ∧ (0 : Mat3) *ᵥ d = 0) ∧ (0 : Vec3) = 0 - 0 ∧ (0 : Vec3) = 0 - 0
    rw [zero_mulVec, sub_zero]
    exact ⟨⟨rfl, rfl⟩, rfl, rfl⟩
  | cons first imus =>
    -- the first sample is only remembered
    have hstart : Shifted d 0 0 ((s.reset ba bg t0).integrate first)
        ((s.reset (ba + d) bg t0).integrate first) := by
      rw [integrate_first rfl, integrate_first rfl]
      exact ⟨rfl, rfl, rfl, ⟨⟨rfl, rfl⟩, rfl, rfl⟩, rfl, ⟨zero_mulVec d, zero_mulVec d⟩,
        (sub_zero _).symm, (sub_zero _).symm⟩
    have hend := hstart.integrateAll imus
    exact ⟨hend.jacobians, hend.deltaV, hend.deltaP⟩

/-- An exact correction does not drift. -/
theorem ExactCorrection.drift_eq_zero
    (h : ExactCorrection (preintegrated s ba bg t0 t1 imus) (preintegrated s (ba + d) bg t0 t1 imus)
      d) : drift bg d imus = 0 := by
  obtain ⟨⟨hjv, hjp⟩, hv, hp⟩ := preintegrated_shift s ba bg d t0 t1 imus
  -- what is taken away is what should be added
  have hzero : ∀ {a x : Vec3}, a - x = a + x → x = 0 := by
    intro a x hax
    ext i
    have hi := congrFun hax i
    simp only [Pi.sub_apply, Pi.add_apply, Pi.zero_apply] at hi ⊢
    linarith
  have hdv := h.deltaV
  have hdp := h.deltaP
  rw [hv, hjv] at hdv
  rw [hp, hjp] at hdp
  exact Prod.ext (hzero hdv) (hzero hdp)

/-- **The exact condition.** For every integration, bias and change, the correction is exact if and
    only if the change drifts to no velocity and to no position. -/
theorem exactCorrection_iff (s : ImuPreintegrator) (ba bg d : Vec3) (t0 t1 : Timestamp)
    (imus : List ImuMeasurement) :
    ExactCorrection (preintegrated s ba bg t0 t1 imus) (preintegrated s (ba + d) bg t0 t1 imus) d
      ↔ drift bg d imus = 0 := by
  refine ⟨fun h => h.drift_eq_zero, ?_⟩
  obtain ⟨⟨hjv, hjp⟩, hv, hp⟩ := preintegrated_shift s ba bg d t0 t1 imus
  intro h
  have hdv : (drift bg d imus).1 = 0 := congrArg Prod.fst h
  have hdp : (drift bg d imus).2 = 0 := congrArg Prod.snd h
  rw [hdv, sub_zero] at hv
  rw [hdp, sub_zero] at hp
  rw [hdv] at hjv
  rw [hdp] at hjp
  -- without a drift the two integrations agree, and the correction adds nothing
  refine ⟨by rw [hv, hjv, add_zero], by rw [hp, hjp, add_zero], ?_, ?_⟩
  · rw [ImuPreintegration.correctedDeltaV, add_sub_cancel_left, sub_self, hjv, hv, mulVec_zero,
      add_zero, add_zero]
  · rw [ImuPreintegration.correctedDeltaP, add_sub_cancel_left, sub_self, hjp, hp, mulVec_zero,
      add_zero, add_zero]

/-! ### Without rotation -/

/-- Without rotation, the attitude stays. -/
theorem turned_still {bg : Vec3} {prev imu : ImuMeasurement} (hprev : prev.angularRateRadps = bg)
    (himu : imu.angularRateRadps = bg) : turned bg prev imu 1 = 1 := by
  rw [turned, hprev, himu, sub_self, add_zero, smul_zero, smul_zero, expMap_zero, mul_one,
    Quat.normalized_one]

/-- Without rotation, the velocity is the acceleration times the integrated time. -/
theorem carried_still {bg d v p : Vec3} {prev : ImuMeasurement} {imus : List ImuMeasurement}
    (hprev : prev.angularRateRadps = bg) (himus : ∀ imu ∈ imus, imu.angularRateRadps = bg) :
    (carried bg d prev 1 (v, p) imus).1 = v + integratedSeconds prev imus • d := by
  induction imus generalizing prev v p with
  | nil => rw [carried, integratedSeconds, zero_smul, add_zero]
  | cons imu imus ih =>
    have himu := himus imu List.mem_cons_self
    have hrest := fun x hx => himus x (List.mem_cons_of_mem imu hx)
    unfold carried integratedSeconds
    dsimp only
    split
    · rw [ih himu hrest, zero_add]
    · rw [turned_still hprev himu, ih himu hrest, Quat.toRotationMatrix_one, one_mulVec, add_smul,
        add_assoc]

/-- When nothing is integrated, nothing is added. -/
theorem carried_of_integratedSeconds_eq_zero {bg d : Vec3} {q : Quat} {vp : Vec3 × Vec3}
    {prev : ImuMeasurement} {imus : List ImuMeasurement} (h : integratedSeconds prev imus = 0) :
    carried bg d prev q vp imus = vp := by
  induction imus generalizing prev q vp with
  | nil => rfl
  | cons imu imus ih =>
    have hrest := integratedSeconds_nonneg imu imus
    unfold integratedSeconds at h
    unfold carried
    dsimp only
    split at h
    · rename_i hgap
      rw [if_pos hgap]
      exact ih (by linarith)
    · rename_i hstep
      rw [not_or, not_le] at hstep
      linarith [hstep.1]

/-- **Without rotation** a change drifts nowhere only when there is none, or nothing was
    integrated. -/
theorem drift_still {bg d : Vec3} {first : ImuMeasurement} {imus : List ImuMeasurement}
    (h : ∀ imu ∈ first :: imus, imu.angularRateRadps = bg) :
    drift bg d (first :: imus) = 0 ↔ d = 0 ∨ integratedSeconds first imus = 0 := by
  have hvelocity : (drift bg d (first :: imus)).1 = integratedSeconds first imus • d := by
    have hcarried := carried_still (d := d) (v := 0) (p := 0) (h first List.mem_cons_self)
      fun x hx => h x (List.mem_cons_of_mem first hx)
    rw [zero_add] at hcarried
    exact hcarried
  constructor
  · intro hzero
    rw [hzero] at hvelocity
    rcases smul_eq_zero.mp hvelocity.symm with htime | hd
    · exact .inr htime
    · exact .inl hd
  · rintro (rfl | htime)
    · -- the drift is linear in the change
      have hlinear := (preintegrated_shift {} 0 bg 0 {} {} (first :: imus)).1
      rw [mulVec_zero, mulVec_zero] at hlinear
      exact Prod.ext hlinear.1.symm hlinear.2.symm
    · exact carried_of_integratedSeconds_eq_zero htime

/-- A sample of a vehicle at rest, of second `t`. -/
def stillSample (t : ℤ) : ImuMeasurement where
  timestamp := { steady := { nanosecondsSinceEpoch := t * 1000000000 }, hasSteady := true }

/-- **The wrong sign.** Two samples a second apart, and a bias that is larger by one unit. -/
theorem not_exactCorrection :
    ¬ ∀ (s : ImuPreintegrator) (ba bg d : Vec3) (t0 t1 : Timestamp) (imus : List ImuMeasurement),
      ExactCorrection (preintegrated s ba bg t0 t1 imus)
        (preintegrated s (ba + d) bg t0 t1 imus) d := by
  intro h
  have hdrift := (h {} 0 0 ![1, 0, 0] {} {} [stillSample 0, stillSample 1]).drift_eq_zero
  have hseconds : secondsBetween (stillSample 0) (stillSample 1) = 1 := by
    norm_num [secondsBetween, stillSample, MonotonicTime.sub, Duration.seconds]
  have htime : integratedSeconds (stillSample 0) [stillSample 1] = 1 := by
    norm_num [integratedSeconds, hseconds]
  have hstill : ∀ imu ∈ [stillSample 0, stillSample 1], imu.angularRateRadps = 0 := by
    simp [stillSample]
  rcases (drift_still hstill).mp hdrift with hd | hzero
  · have hx := congrFun hd 0
    norm_num at hx
  · rw [htime] at hzero
    norm_num at hzero

end FalconGuide
