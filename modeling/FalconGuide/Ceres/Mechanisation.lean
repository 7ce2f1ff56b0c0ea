import FalconGuide.Ceres.Composition
import FalconGuide.Ceres.KeyframeTimes
import FalconGuide.Ekf.Estimator

namespace FalconGuide

open Lib Matrix ImuPreintegrator CeresSlidingWindowEstimator

/-!
# Preintegration and the equations of the filter

Two backends integrate the same sensor with two different programs.  What `CreateKeyframe` predicts
from a preintegrated factor is what `PropagateImu` of the filter comes to, when it starts in the
newest keyframe and gets the mean of each two samples that follow each other.

* `midpointSample`, `mechanise` — the nominal state of the filter over a list of samples;
* `RegularTurn` — the two exponential maps treat the turn alike;
* `Mechanised`, `Mechanised.step`, `Mechanised.integrateAll` — both programs, side by side;
* `predictedKeyframe_eq` — the prediction from the samples of one factor;
* `Recorded.Current` — the preintegration starts at the biases of the newest keyframe, in every run;
* `mechanised_prediction` — the main result, for every run of the estimator.
-/

/-! ### The filter's equations -/

/-- The mean of two samples, at the time of the second. -/
noncomputable def midpointSample (prev imu : ImuMeasurement) : ImuMeasurement :=
  { imu with
    specificForceMps2 := (0.5 : ℝ) • (prev.specificForceMps2 + imu.specificForceMps2)
    angularRateRadps := (0.5 : ℝ) • (prev.angularRateRadps + imu.angularRateRadps) }

/-- The nominal state after the samples behind `prev`; a step that is not between 0 and 1 seconds
    long is left out. -/
noncomputable def mechanise : NominalState → ImuMeasurement → List ImuMeasurement → NominalState
  | nom, _, [] => nom
  | nom, prev, imu :: imus =>
    mechanise
      (if secondsBetween prev imu ≤ 0 ∨ 1 < secondsBetween prev imu then nom
        else propagateNominal nom (midpointSample prev imu) (secondsBetween prev imu)) imu imus

/-- The nominal state after all of the samples, the first of which only starts the clock. -/
noncomputable def mechaniseAll (nom : NominalState) : List ImuMeasurement → NominalState
  | [] => nom
  | first :: imus => mechanise nom first imus

/-- The keyframe as a nominal state. -/
noncomputable def WindowKeyframe.nominal (kf : WindowKeyframe) : NominalState where
  timestamp := kf.timestamp
  positionEnuM := kf.position
  velocityEnuMps := kf.velocity
  orientationBodyToEnu := kf.Q
  accelBiasMps2 := kf.accelBias
  gyroBiasRadps := kf.gyroBias

/-! ### The two exponential maps -/

/-- The step from `prev` to `imu` is left out, or turns by an angle that counts as zero for both
    exponential maps or for none. -/
def RegularTurn (gyroBias : Vec3) (prev imu : ImuMeasurement) : Prop :=
  let dt := secondsBetween prev imu
  let angle := euclideanNorm (dt • ((midpointSample prev imu).angularRateRadps - gyroBias))
  dt ≤ 0 ∨ 1 < dt ∨ angle < 1e-12 ∨ 1e-10 ≤ angle

/-- `ExpMap` is `ExpMapSo3`, once it is normalised. -/
theorem normalized_expMap {phi : Vec3}
    (h : euclideanNorm phi < 1e-12 ∨ 1e-10 ≤ euclideanNorm phi) :
    (expMap phi).normalized = expMapSo3 phi := by
  rcases h with hzero | hangle
  · have hsmall : euclideanNorm phi < 1e-10 := hzero.trans (by norm_num)
    let q : Quat := ⟨1, 1 / 2 * phi 0, 1 / 2 * phi 1, 1 / 2 * phi 2⟩
    have hexp : expMap phi = q := by
      refine (if_pos hsmall).trans ?_
      ext <;> norm_num [q]
    have hnorm : Quat.norm q ≠ 0 := by
      rw [← hexp]
      exact (Real.sqrt_pos.mpr (normSq_expMap_pos phi)).ne'
    rw [hexp]
    exact ((if_pos hzero).trans (if_neg hnorm)).symm
  · have hexp : expMap phi = expMapSo3 phi := by
      have hlarge : ¬ euclideanNorm phi < 1e-12 := by
        rw [not_lt]
        exact le_trans (by norm_num) hangle
      refine (if_neg (not_lt.mpr hangle)).trans (Eq.trans ?_ (if_neg hlarge).symm)
      have hhalf : 0.5 * euclideanNorm phi = euclideanNorm phi / 2 := by ring
      ext <;> simp [Quat.ofAngleAxis, hhalf, div_eq_mul_inv, mul_assoc]
    rw [hexp, Quat.normalized_of_unit (normSq_expMapSo3 phi)]

/-! ### Both programs -/

/-- The integrator `s` has come from the keyframe `kf` to where the filter has come from it. -/
structure Mechanised (kf : WindowKeyframe) (s : ImuPreintegrator) (nom : NominalState) : Prop where
  position : nom.positionEnuM = kf.position + s.deltaT • kf.velocity
    + (0.5 * s.deltaT * s.deltaT) • gravityEnu + Quat.toRotationMatrix kf.Q *ᵥ s.deltaP
  velocity : nom.velocityEnuMps = kf.velocity + s.deltaT • gravityEnu
    + Quat.toRotationMatrix kf.Q *ᵥ s.deltaV
  orientation : nom.orientationBodyToEnu = kf.Q * s.deltaQ
  unit : Quaternion.normSq kf.Q = 1
  unitDelta : Quaternion.normSq s.deltaQ = 1
  accelBias : nom.accelBiasMps2 = s.ba
  gyroBias : nom.gyroBiasRadps = s.bg
  remembers : s.Remembers

namespace Mechanised

variable {kf : WindowKeyframe} {s : ImuPreintegrator} {nom : NominalState}

/-- Both take the bias off the mean, the one before and the other afterwards. -/
theorem specificForce (h : Mechanised kf s nom) (imu : ImuMeasurement) :
    (midpointSample s.prevImu imu).specificForceMps2 - nom.accelBiasMps2 = s.aMid imu := by
  rw [h.accelBias, aMid, midpointSample]
  module

theorem angularRate (h : Mechanised kf s nom) (imu : ImuMeasurement) :
    (midpointSample s.prevImu imu).angularRateRadps - nom.gyroBiasRadps = s.wMid imu := by
  rw [h.gyroBias, wMid, midpointSample]
  module

/-- **One step** of both. -/
theorem step (h : Mechanised kf s nom) {imu : ImuMeasurement} {dt : ℝ}
    (hturn : euclideanNorm (dt • s.wMid imu) < 1e-12 ∨ 1e-10 ≤ euclideanNorm (dt • s.wMid imu)) :
    Mechanised kf (s.step imu dt) (propagateNominal nom (midpointSample s.prevImu imu) dt) := by
  have hR : Quat.toRotationMatrix nom.orientationBodyToEnu
      = Quat.toRotationMatrix kf.Q * Quat.toRotationMatrix s.deltaQ := by
    rw [h.orientation, Quat.toRotationMatrix_mul h.unit h.unitDelta]
  have hgravity : ![0, 0, -gravityMps2] = gravityEnu := rfl
  have hnormalized := normalized_expMap hturn
  constructor
  · show nom.positionEnuM + dt • nom.velocityEnuMps + (1 / 2 * dt * dt) •
        (Quat.toRotationMatrix nom.orientationBodyToEnu *ᵥ (_ - nom.accelBiasMps2) + _)
      = kf.position + (s.deltaT + dt) • kf.velocity
        + (0.5 * (s.deltaT + dt) * (s.deltaT + dt)) • gravityEnu
        + Quat.toRotationMatrix kf.Q *ᵥ (s.deltaP + (dt • s.deltaV
          + (0.5 * dt * dt) • (Quat.toRotationMatrix s.deltaQ *ᵥ s.aMid imu)))
    rw [h.specificForce, hR, hgravity, h.position, h.velocity, ← mulVec_mulVec]
    simp only [mulVec_add, mulVec_smul]
    module
  · show nom.velocityEnuMps + dt •
        (Quat.toRotationMatrix nom.orientationBodyToEnu *ᵥ (_ - nom.accelBiasMps2) + _)
      = kf.velocity + (s.deltaT + dt) • gravityEnu
        + Quat.toRotationMatrix kf.Q *ᵥ
          (s.deltaV + dt • (Quat.toRotationMatrix s.deltaQ *ᵥ s.aMid imu))
    rw [h.specificForce, hR, hgravity, h.velocity, ← mulVec_mulVec]
    simp only [mulVec_add, mulVec_smul]
    module
  · show Quat.normalized (nom.orientationBodyToEnu * expMapSo3 (dt • (_ - nom.gyroBiasRadps)))
      = kf.Q * Quat.normalized (s.deltaQ * expMap (dt • s.wMid imu))
    -- the keyframe and the increment are unit quaternions, and pass through `normalized()`
    rw [h.angularRate, h.orientation, mul_assoc, Quat.normalized_mul_of_unit h.unit,
      Quat.normalized_mul_of_unit h.unitDelta, Quat.normalized_mul_of_unit h.unitDelta,
      hnormalized, Quat.normalized_of_unit (normSq_expMapSo3 _)]
  · exact h.unit
  · exact normSq_nextDeltaQ h.unitDelta imu dt
  · exact h.accelBias
  · exact h.gyroBias
  · exact ⟨h.remembers.hasPrev, rfl⟩

/-- A sample that is only remembered. -/
theorem remember (h : Mechanised kf s nom) (imu : ImuMeasurement) :
    Mechanised kf { s with prevTs := imu.timestamp, prevImu := imu } nom :=
  { h with remembers := ⟨h.remembers.hasPrev, rfl⟩ }

/-- **The rest of the samples.** By induction on them; both leave out the same steps. -/
theorem integrateAll (h : Mechanised kf s nom) (imus : List ImuMeasurement)
    (hturns : (s.prevImu :: imus).IsChain (RegularTurn s.bg)) :
    Mechanised kf (s.integrateAll imus) (mechanise nom s.prevImu imus) := by
  induction imus generalizing s nom with
  | nil => exact h
  | cons imu imus ih =>
    obtain ⟨hturn, hrest⟩ := List.isChain_cons_cons.mp hturns
    have hdt := h.remembers.sampleDt imu
    show Mechanised kf ((s.integrate imu).integrateAll imus) (mechanise _ imu imus)
    by_cases hgap : secondsBetween s.prevImu imu ≤ 0 ∨ 1 < secondsBetween s.prevImu imu
    · rw [if_pos hgap, integrate_gap h.remembers.hasPrev (by rwa [hdt])]
      exact ih (h.remember imu) hrest
    · rw [if_neg hgap, integrate_step h.remembers.hasPrev (by rwa [hdt]), hdt]
      have hregular : euclideanNorm (secondsBetween s.prevImu imu • s.wMid imu) < 1e-12 ∨
          1e-10 ≤ euclideanNorm (secondsBetween s.prevImu imu • s.wMid imu) := by
        rw [← h.angularRate imu, h.gyroBias]
        rcases hturn with hneg | hlong | hangle
        · exact absurd (.inl hneg) hgap
        · exact absurd (.inr hlong) hgap
        · exact hangle
      exact ih (h.step hregular) hrest

end Mechanised

/-! ### The prediction -/

/-- The prediction is the state of the filter. -/
structure PredictsAs (kf : WindowKeyframe) (nom : NominalState) : Prop where
  position : kf.position = nom.positionEnuM
  velocity : kf.velocity = nom.velocityEnuMps
  rotation : kf.rotation = nom.orientationBodyToEnu

/-- **Prediction.** From the samples of one factor, at the biases of the keyframe. -/
theorem predictedKeyframe_eq (kf : WindowKeyframe) (hkf : 0 < Quaternion.normSq kf.rotation)
    (s : ImuPreintegrator) (t0 t1 : Timestamp) {samples : List ImuMeasurement}
    (hturns : samples.IsChain (RegularTurn kf.gyroBias)) :
    PredictsAs
      (predictedKeyframe kf
        (((s.reset kf.accelBias kf.gyroBias t0).integrateAll samples).finalize t1) t1)
      (mechaniseAll kf.nominal samples) := by
  have hunit : Quaternion.normSq kf.Q = 1 := Quat.normSq_normalized hkf
  have hone : Quat.normalized kf.Q = kf.Q := Quat.normalized_of_unit hunit
  cases samples with
  | nil =>
    -- nothing was integrated
    constructor
    · show kf.position + (0 : ℝ) • kf.velocity + (0.5 * (0 : ℝ) * 0) • gravityEnu
        + Quat.toRotationMatrix kf.Q *ᵥ 0 = kf.position
      rw [mulVec_zero]
      module
    · show kf.velocity + (0 : ℝ) • gravityEnu + Quat.toRotationMatrix kf.Q *ᵥ 0 = kf.velocity
      rw [mulVec_zero]
      module
    · show Quat.normalized (kf.Q * 1) = kf.Q
      rw [mul_one, hone]
  | cons first imus =>
    obtain ⟨hremembers, hprev⟩ :=
      (s.reset kf.accelBias kf.gyroBias t0).remembers_integrate first
    have hfirst : (s.reset kf.accelBias kf.gyroBias t0).integrate first = _ :=
      integrate_first rfl
    have hstart : Mechanised kf ((s.reset kf.accelBias kf.gyroBias t0).integrate first)
        kf.nominal := by
      rw [hfirst] at hremembers ⊢
      refine ⟨?_, ?_, ?_, hunit, map_one _, rfl, rfl, hremembers⟩
      · show kf.position = kf.position + (0 : ℝ) • kf.velocity + (0.5 * (0 : ℝ) * 0) • gravityEnu
          + Quat.toRotationMatrix kf.Q *ᵥ 0
        rw [mulVec_zero]
        module
      · show kf.velocity = kf.velocity + (0 : ℝ) • gravityEnu + Quat.toRotationMatrix kf.Q *ᵥ 0
        rw [mulVec_zero]
        module
      · exact (mul_one _).symm
    have hbg : ((s.reset kf.accelBias kf.gyroBias t0).integrate first).bg = kf.gyroBias := by
      rw [hfirst]
      rfl
    have hend := hstart.integrateAll imus (by rwa [hprev, hbg])
    rw [hprev] at hend
    refine ⟨hend.position.symm, hend.velocity.symm, ?_⟩
    show Quat.normalized (kf.Q *
      (((s.reset kf.accelBias kf.gyroBias t0).integrate first).integrateAll imus).deltaQ) = _
    rw [Quat.normalized_mul_of_unit hunit, Quat.normalized_of_unit hend.unitDelta]
    exact hend.orientation.symm

/-! ### Runs -/

namespace CeresSlidingWindowEstimator

variable {options : CeresOptions}

/-- The preintegration is that of the recorded samples, at the biases of the newest keyframe. -/
def Recorded.Current (r : Recorded options) : Prop :=
  r.estimator.preintActive = true → ∃ (s : ImuPreintegrator) (t0 : Timestamp),
    r.estimator.preint
      = (s.reset r.estimator.newest.accelBias r.estimator.newest.gyroBias t0).integrateAll r.samples

section Calls

variable (lib : CeresLibrary) (e : CeresSlidingWindowEstimator options) (gnss : GnssSolution)
  (posEnu : Vec3)

/-- The first keyframe has no biases. -/
theorem newest_bias_initFromGnss :
    (e.initFromGnss lib gnss).1.newest.accelBias = 0 ∧
      (e.initFromGnss lib gnss).1.newest.gyroBias = 0 := by
  have hnewest : (e.initFromGnss lib gnss).1.newest
      = { rotation := initialRotation lib e.imuBuffer, timestamp := gnss.timestamp } := by
    show (e.window ++ [_]).getLastD {} = _
    rw [List.getLastD_concat]
  rw [hnewest]
  exact ⟨rfl, rfl⟩

/-- An update leaves the biases as they are. -/
theorem newest_bias_updateLatestGnss :
    (e.updateLatestGnss lib gnss posEnu).1.newest.accelBias = e.newest.accelBias ∧
      (e.updateLatestGnss lib gnss posEnu).1.newest.gyroBias = e.newest.gyroBias := by
  rcases List.eq_nil_or_concat e.window with hnil | ⟨before, last, hwindow⟩
  · have hempty : (e.updateLatestGnss lib gnss posEnu).1.newest = e.newest := by
      show (e.window.set _ _).getLastD {} = e.window.getLastD {}
      rw [hnil]
      rfl
    rw [hempty]
    exact ⟨rfl, rfl⟩
  · rw [List.concat_eq_append] at hwindow
    have hset : (e.updateLatestGnss lib gnss posEnu).1.newest
        = { e.newest with
            velocity := (lib.solve { residualBlocks := e.gnssFactors gnss posEnu none 0,
                                     maxNumIterations := 5 }
              [e.newest.toKeyframeBlocks] 0).velocity } := by
      show (e.window.set (e.window.length - 1) _).getLastD {} = _
      have hlength : (before ++ [last]).length - 1 = before.length := by simp
      rw [hwindow, hlength, List.set_append_right _ _ (le_refl _), Nat.sub_self]
      exact List.getLastD_concat
    rw [hset]
    exact ⟨rfl, rfl⟩

end Calls

section Runs

variable {r r' : Recorded options} {call : Call}

/-- **One call.** -/
theorem Recorded.Current.step (h : r.Current) (hstep : (recorded options).step r call r') :
    r'.Current := by
  obtain ⟨hcall, hsamples⟩ := hstep
  obtain ⟨e', samples'⟩ := r'
  subst hsamples
  dsimp only at hcall
  intro hactive
  show ∃ s t0, e'.preint = _
  cases hcall with
  | addMeasurement lib m =>
    cases m with
    | imu imu =>
      have hactive' : r.estimator.preintActive = true := hactive
      obtain ⟨s, t0, hpreint⟩ := h hactive'
      refine ⟨s, t0, ?_⟩
      show (if r.estimator.preintActive then r.estimator.preint.integrate imu
        else r.estimator.preint) = ImuPreintegrator.integrateAll _
          (if r.estimator.preintActive then r.samples ++ [imu] else r.samples)
      rw [if_pos hactive', if_pos hactive', hpreint]
      exact (List.foldl_concat ..).symm
    | gnssSolution gnss =>
      have hgnss : ((r.estimator.addMeasurement lib (.gnssSolution gnss)).1)
          = (r.estimator.addGnss lib gnss).1 := rfl
      rw [hgnss] at hactive ⊢
      -- refused; initialises; makes a keyframe; too soon for one
      rcases addGnss_cases lib r.estimator gnss with
        ⟨hvalid, heq⟩ | ⟨hvalid, hinit, heq⟩ | ⟨hvalid, hinit, ⟨hstart, heq⟩ | ⟨hstart, heq⟩⟩
      · rw [heq] at hactive ⊢
        have hkeep : r.estimator.samplesAfter r.samples (.addMeasurement (.gnssSolution gnss))
            = r.samples := by
          simp [samplesAfter, Creates, hvalid]
        rw [hkeep]
        exact h hactive
      · rw [heq]
        have hreplay : r.estimator.samplesAfter r.samples (.addMeasurement (.gnssSolution gnss))
            = replayed r.estimator.imuBuffer gnss.timestamp := by
          simp [samplesAfter, Creates, hvalid, hinit]
        obtain ⟨ha, hg⟩ := newest_bias_initFromGnss lib r.estimator gnss
        dsimp only
        rw [hreplay, ha, hg]
        exact ⟨r.estimator.preint, gnss.timestamp, rfl⟩
      · rw [heq]
        have hnone : r.estimator.samplesAfter r.samples (.addMeasurement (.gnssSolution gnss))
            = [] := by
          simp [samplesAfter, Creates, hvalid, hinit, hstart]
        rw [hnone]
        exact ⟨_, gnss.timestamp, rfl⟩
      · rw [heq] at hactive ⊢
        have hkeep : r.estimator.samplesAfter r.samples (.addMeasurement (.gnssSolution gnss))
            = r.samples := by
          simp [samplesAfter, Creates, hvalid, hinit, hstart]
        obtain ⟨ha, hg⟩ := newest_bias_updateLatestGnss lib r.estimator gnss
          (r.estimator.plane.ecefToEnu gnss.positionEcefM)
        dsimp only
        rw [hkeep, ha, hg]
        exact h hactive
    | _ => exact h hactive
  | processUntil timestamp => exact h hactive
  | reset => exact absurd hactive Bool.false_ne_true

theorem Recorded.current (h : (recorded options).Reachable r) : r.Current := by
  induction h with
  | init hinit =>
    subst hinit
    intro hactive
    exact absurd hactive Bool.false_ne_true
  | step _ hstep ih => exact ih.step hstep

end Runs

end CeresSlidingWindowEstimator

/-- **Preintegration is the filter's mechanisation.** In every run of an estimator, whatever the
    solver wrote, the keyframe that the next fix predicts is where the filter's equations lead from
    the newest keyframe over the samples since then. -/
theorem mechanised_prediction {options : CeresOptions} {r : Recorded options}
    (h : (recorded options).Reachable r) (hinit : r.estimator.initialised = true)
    (hnewest : 0 < Quaternion.normSq r.estimator.newest.rotation)
    (hturns : r.samples.IsChain (RegularTurn r.estimator.newest.gyroBias)) (t : Timestamp) :
    PredictsAs (predictedKeyframe r.estimator.newest (r.estimator.preint.finalize t) t)
      (mechaniseAll r.estimator.newest.nominal r.samples) := by
  have hactive : r.estimator.preintActive = true := by
    rcases coherent_of_reachable (Recorded.reachable h) with hwaiting | ⟨_, hcoherent⟩
    · rw [hwaiting.initialised] at hinit
      exact absurd hinit Bool.false_ne_true
    · exact hcoherent.preint.1
  obtain ⟨s, t0, hpreint⟩ := Recorded.current h hactive
  rw [hpreint]
  exact predictedKeyframe_eq _ hnewest s t0 t hturns

theorem newest_afterFirstFix :
    (afterFirstFix {} 0).estimator.newest = { timestamp := (fixAt 0).timestamp } := by
  let first : Recorded {} := Recorded.next idleLibrary {} (.imu (sampleAt 0))
  have hfix : (first.estimator.addGnss idleLibrary (fixAt 0))
      = first.estimator.initFromGnss idleLibrary (fixAt 0) := addGnss_of_not_initialised rfl rfl
  show ((first.estimator.addGnss idleLibrary (fixAt 0)).1.window).getLastD {} = _
  rw [hfix]
  rfl

/-- Two samples, a second apart. -/
theorem mechanised_prediction_second :
    PredictsAs
      (predictedKeyframe (afterFirstFix {} 0).estimator.newest
        ((afterFirstFix {} 0).estimator.preint.finalize (fixAt 1000).timestamp)
        (fixAt 1000).timestamp)
      (mechaniseAll (afterFirstFix {} 0).estimator.newest.nominal
        (afterFirstFix {} 0).samples) := by
  obtain ⟨hreach, hinit, _, hsamples⟩ := afterFirstFix_eq {} 0
  refine mechanised_prediction hreach.of_guarded hinit ?_ ?_ _
  · rw [newest_afterFirstFix, map_one]
    exact one_pos
  · rw [hsamples, newest_afterFirstFix, if_neg (lt_irrefl 0)]
    refine List.isChain_pair.mpr (.inr (.inr (.inl ?_)))
    -- the samples do not turn
    have hstill : (midpointSample (sampleAt 0) (sampleAt 1000)).angularRateRadps = 0 := by
      simp [midpointSample, sampleAt]
    rw [hstill, sub_zero, smul_zero, euclideanNorm, zero_dotProduct, Real.sqrt_zero]
    norm_num

end FalconGuide
