import FalconGuide.Core.RotationVectors
import FalconGuide.Core.Segments
import FalconGuide.Estimation.PublishedStates

namespace FalconGuide.Ukf

open Lib Matrix

/-!
# Sigma points and nominal states

`UnpackSigmaPoint` turns an error into a nominal state and `PackSigmaPoint` turns it back, around
a mean that the filter has reached.

* `StateVector.ext_segments` — a state vector by its five segments;
* `packSigmaPoint_segments` — the segments that `PackSigmaPoint` writes;
* `Alike` — nominal states that differ in the sign of the quaternion only;
* `sigma_points_round_trip` — the main result: what survives either way, exactly.
-/

/-! ### Segments -/

theorem StateVector.ext_segments {v w : StateVector}
    (h : ∀ k : Fin 5, segment v (3 * k.val) 3 = segment w (3 * k.val) 3) : v = w := by
  funext i
  have hsize : i.val < 15 := i.isLt
  have hk : i.val / 3 < 5 := by omega
  have hi : 3 * (i.val / 3) ≤ i.val ∧ i.val < 3 * (i.val / 3) + 3 := by omega
  have hsegment := congrFun (h ⟨i.val / 3, hk⟩) ⟨i.val - 3 * (i.val / 3), by omega⟩
  rwa [segment_sub_apply hi, segment_sub_apply hi] at hsegment

/-- What is written is read back, at its place. -/
theorem packSigmaPoint_segments (mean s : NominalState) :
    segment (packSigmaPoint mean s) 0 3 = s.positionEnuM - mean.positionEnuM ∧
      segment (packSigmaPoint mean s) 3 3 = s.velocityEnuMps - mean.velocityEnuMps ∧
      segment (packSigmaPoint mean s) 6 3
        = logMapSo3 (star mean.orientationBodyToEnu * s.orientationBodyToEnu) ∧
      segment (packSigmaPoint mean s) 9 3 = s.accelBiasMps2 - mean.accelBiasMps2 ∧
      segment (packSigmaPoint mean s) 12 3 = s.gyroBiasRadps - mean.gyroBiasRadps := by
  unfold packSigmaPoint
  refine ⟨?_, ?_, ?_, ?_, ?_⟩
  · rw [segment_setSegment_of_disjoint (by omega), segment_setSegment_of_disjoint (by omega),
      segment_setSegment_of_disjoint (by omega), segment_setSegment_of_disjoint (by omega),
      segment_setSegment (by decide)]
  · rw [segment_setSegment_of_disjoint (by omega), segment_setSegment_of_disjoint (by omega),
      segment_setSegment_of_disjoint (by omega), segment_setSegment (by decide)]
  · rw [segment_setSegment_of_disjoint (by omega), segment_setSegment_of_disjoint (by omega),
      segment_setSegment (by decide)]
  · rw [segment_setSegment_of_disjoint (by omega), segment_setSegment (by decide)]
  · rw [segment_setSegment (by decide)]

/-! ### Attitudes -/

/-- The error of an attitude that was turned by `v`. -/
theorem star_mul_turned {q : Quat} (h : Quaternion.normSq q = 1) (v : Vec3) :
    star q * (q * expMapSo3 v).normalized = expMapSo3 v := by
  have hunit : Quaternion.normSq (q * expMapSo3 v) = 1 := by
    rw [map_mul, h, normSq_expMapSo3, one_mul]
  have hone : star q * q = 1 := by
    rw [Quaternion.star_mul_self, h, Quaternion.coe_one]
  rw [Quat.normalized_of_unit hunit, ← mul_assoc, hone, one_mul]

/-- And the attitude that an error was taken of. -/
theorem turned_eq_iff {q p e : Quat} (hq : Quaternion.normSq q = 1)
    (he : Quaternion.normSq e = 1) :
    ((q * e).normalized = p ∨ (q * e).normalized = -p) ↔ (e = star q * p ∨ e = -(star q * p)) := by
  have hunit : Quaternion.normSq (q * e) = 1 := by rw [map_mul, hq, he, one_mul]
  have hone : star q * q = 1 := by rw [Quaternion.star_mul_self, hq, Quaternion.coe_one]
  have hother : q * star q = 1 := by rw [Quaternion.self_mul_star, hq, Quaternion.coe_one]
  have hcancel : ∀ r : Quat, q * e = r ↔ e = star q * r := by
    intro r
    constructor
    · intro heq
      rw [← heq, ← mul_assoc, hone, one_mul]
    · intro heq
      rw [heq, ← mul_assoc, hother, one_mul]
  have hneg : star q * -p = -(star q * p) := mul_neg (star q) p
  rw [Quat.normalized_of_unit hunit, hcancel, hcancel, hneg]

/-- Nominal states of one position, velocity, attitude and biases; the two quaternions of an
    attitude are not told apart. -/
structure Alike (s t : NominalState) : Prop where
  position : s.positionEnuM = t.positionEnuM
  velocity : s.velocityEnuMps = t.velocityEnuMps
  orientation : s.orientationBodyToEnu = t.orientationBodyToEnu ∨
    s.orientationBodyToEnu = -t.orientationBodyToEnu
  accelBias : s.accelBiasMps2 = t.accelBiasMps2
  gyroBias : s.gyroBiasRadps = t.gyroBiasRadps

/-! ### Round trips -/

section RoundTrips

variable {mean : NominalState}

theorem packSigmaPoint_unpackSigmaPoint
    (hmean : Quaternion.normSq mean.orientationBodyToEnu = 1) (sigma : StateVector) :
    packSigmaPoint mean (unpackSigmaPoint mean sigma) = sigma ↔
      Resolved (segment sigma 6 3) ∧ euclideanNorm (segment sigma 6 3) ≤ Real.pi := by
  obtain ⟨hposition, hvelocity, hattitude, haccel, hgyro⟩ :=
    packSigmaPoint_segments mean (unpackSigmaPoint mean sigma)
  have herror : segment (packSigmaPoint mean (unpackSigmaPoint mean sigma)) 6 3
      = logMapSo3 (expMapSo3 (segment sigma 6 3)) := by
    rw [hattitude]
    exact congrArg logMapSo3 (star_mul_turned hmean _)
  rw [← logMapSo3_expMapSo3_iff, ← herror]
  constructor
  · intro heq
    rw [heq]
  · intro heq
    apply StateVector.ext_segments
    intro k
    fin_cases k
    · exact hposition.trans (add_sub_cancel_left _ _)
    · exact hvelocity.trans (add_sub_cancel_left _ _)
    · exact heq
    · exact haccel.trans (add_sub_cancel_left _ _)
    · exact hgyro.trans (add_sub_cancel_left _ _)

/-- Any other error that is no longer than half a turn is off by less than the bound. -/
theorem euclideanNorm_packSigmaPoint_sub
    (hmean : Quaternion.normSq mean.orientationBodyToEnu = 1) {sigma : StateVector}
    (hpi : euclideanNorm (segment sigma 6 3) ≤ Real.pi) :
    euclideanNorm (packSigmaPoint mean (unpackSigmaPoint mean sigma) - sigma) < 1e-12 := by
  let error : Vec3 := logMapSo3 (expMapSo3 (segment sigma 6 3)) - segment sigma 6 3
  obtain ⟨hposition, hvelocity, hattitude, haccel, hgyro⟩ :=
    packSigmaPoint_segments mean (unpackSigmaPoint mean sigma)
  let packed : StateVector := packSigmaPoint mean (unpackSigmaPoint mean sigma)
  -- the other segments come back
  have hother : ∀ {o : ℕ}, o + 3 ≤ 6 ∨ 6 + 3 ≤ o → segment packed o 3 = segment sigma o 3 →
      segment packed o 3 - segment sigma o 3
        = segment (setSegment (0 : StateVector) 6 error) o 3 := by
    intro o hdisjoint heq
    rw [heq, sub_self, segment_setSegment_of_disjoint hdisjoint, segment_zero]
  have hdiff : packed - sigma = setSegment 0 6 error := by
    apply StateVector.ext_segments
    intro k
    rw [segment_sub]
    fin_cases k
    · exact hother (by decide) (hposition.trans (add_sub_cancel_left _ _))
    · exact hother (by decide) (hvelocity.trans (add_sub_cancel_left _ _))
    · refine Eq.trans ?_ (segment_setSegment (by decide)).symm
      refine congrArg (fun v : Vec3 => v - segment sigma 6 3) (hattitude.trans ?_)
      exact congrArg logMapSo3 (star_mul_turned hmean _)
    · exact hother (by decide) (haccel.trans (add_sub_cancel_left _ _))
    · exact hother (by decide) (hgyro.trans (add_sub_cancel_left _ _))
  have hnorm : euclideanNorm (setSegment (0 : StateVector) 6 error) = euclideanNorm error := by
    rw [euclideanNorm, dotProduct_setSegment, segment_setSegment (by decide), euclideanNorm]
  show euclideanNorm (packed - sigma) < 1e-12
  rw [hdiff, hnorm]
  exact euclideanNorm_logMapSo3_sub hpi

theorem unpackSigmaPoint_packSigmaPoint
    (hmean : Quaternion.normSq mean.orientationBodyToEnu = 1) {s : NominalState}
    (hs : Quaternion.normSq s.orientationBodyToEnu = 1) :
    Alike (unpackSigmaPoint mean (packSigmaPoint mean s)) s ↔
      Resolved (logMapSo3 (star mean.orientationBodyToEnu * s.orientationBodyToEnu)) := by
  obtain ⟨hposition, hvelocity, hattitude, haccel, hgyro⟩ := packSigmaPoint_segments mean s
  have herror : Quaternion.normSq (star mean.orientationBodyToEnu * s.orientationBodyToEnu)
      = 1 := by
    rw [map_mul, Quaternion.normSq_star, hmean, hs, one_mul]
  rw [← expMapSo3_logMapSo3_iff _ herror, ← turned_eq_iff hmean (normSq_expMapSo3 _), ← hattitude]
  constructor
  · intro halike
    exact halike.orientation
  · intro horientation
    refine ⟨?_, ?_, horientation, ?_, ?_⟩
    · show mean.positionEnuM + segment (packSigmaPoint mean s) 0 3 = _
      rw [hposition, add_sub_cancel]
    · show mean.velocityEnuMps + segment (packSigmaPoint mean s) 3 3 = _
      rw [hvelocity, add_sub_cancel]
    · show mean.accelBiasMps2 + segment (packSigmaPoint mean s) 9 3 = _
      rw [haccel, add_sub_cancel]
    · show mean.gyroBiasRadps + segment (packSigmaPoint mean s) 12 3 = _
      rw [hgyro, add_sub_cancel]

end RoundTrips

/-- Steps of the gap between two samples, which are not calls. -/
noncomputable def propagateImus (d : Decompositions) (options : UkfOptions) (s : UkfState)
    (steps : List (ImuMeasurement × ℝ)) : UkfState :=
  steps.foldl (fun s step => propagateImu d options s step.1 step.2) s

/-- **The mean stays a unit quaternion**, in the midst of a gap too. -/
theorem normSq_propagateImus (d : Decompositions) (options : UkfOptions)
    (steps : List (ImuMeasurement × ℝ)) {s : UkfState}
    (hs : Quaternion.normSq s.nominal.orientationBodyToEnu = 1) :
    Quaternion.normSq (propagateImus d options s steps).nominal.orientationBodyToEnu = 1 := by
  induction steps generalizing s with
  | nil => exact hs
  | cons step steps ih => exact ih ((keeps_unit_ukf d options).propagateImu s step.1 step.2 hs)

/-- **Every mean that the filter reaches**, between its calls and between the steps of a gap.  An
    error comes back from its nominal state exactly when its rotation vector is resolved and no
    longer than half a turn, and is off by less than the bound when it is only not resolved; a
    nominal state comes back from its error exactly when its attitude is the mean's or far enough
    from it to be resolved.  All numbers are exact reals: nothing is rounded and nothing is a
    NaN. -/
theorem sigma_points_round_trip (d : Decompositions) (options : UkfOptions)
    (e : UkfEstimator options) (h : (UkfEstimator.system d options).Reachable e)
    (steps : List (ImuMeasurement × ℝ)) :
    (∀ sigma, packSigmaPoint (propagateImus d options e.state steps).nominal
        (unpackSigmaPoint (propagateImus d options e.state steps).nominal sigma) = sigma ↔
      Resolved (segment sigma 6 3) ∧ euclideanNorm (segment sigma 6 3) ≤ Real.pi) ∧
    (∀ sigma, euclideanNorm (segment sigma 6 3) ≤ Real.pi →
      euclideanNorm (packSigmaPoint (propagateImus d options e.state steps).nominal
        (unpackSigmaPoint (propagateImus d options e.state steps).nominal sigma) - sigma)
          < 1e-12) ∧
    ∀ s, Quaternion.normSq s.orientationBodyToEnu = 1 →
      (Alike (unpackSigmaPoint (propagateImus d options e.state steps).nominal
          (packSigmaPoint (propagateImus d options e.state steps).nominal s)) s ↔
        Resolved (logMapSo3
          (star (propagateImus d options e.state steps).nominal.orientationBodyToEnu
            * s.orientationBodyToEnu))) := by
  let E := UkfEstimator.embedding d options
  have hnew : ∀ s, (UkfEstimator.system d options).init s → E.toFilter s = {} := by
    intro s hs
    subst hs
    rfl
  have hreached := (E.anchored (keeps_unit_ukf d options) hnew h).state
  have hmean := normSq_propagateImus d options steps (s := e.state) hreached
  exact ⟨packSigmaPoint_unpackSigmaPoint hmean,
    fun sigma hpi => euclideanNorm_packSigmaPoint_sub hmean hpi,
    fun s hs => unpackSigmaPoint_packSigmaPoint hmean hs⟩

/-- A filter that has turned for a second: an error of half a radian, and a state that is turned by
    as much and elsewhere. -/
theorem sigma_points_round_trip_turned :
    let mean := (propagateImus .exact {} ({} : UkfEstimator {}).state
      [({ angularRateRadps := ![0, 0, 0.1] }, 1)]).nominal
    let v : Vec3 := ![1 / 2, 0, 0]
    let error : StateVector := setSegment (setSegment 0 0 ![1, 2, 3]) 6 v
    let s : NominalState :=
      { mean with
        positionEnuM := ![1, 2, 3]
        orientationBodyToEnu := (mean.orientationBodyToEnu * expMapSo3 v).normalized }
    packSigmaPoint mean (unpackSigmaPoint mean error) = error ∧
      Alike (unpackSigmaPoint mean (packSigmaPoint mean s)) s := by
  intro mean v error s
  have hlength : euclideanNorm v = 1 / 2 := by
    have hsquare : v ⬝ᵥ v = (1 / 2) ^ 2 := by
      rw [dotProduct, Fin.sum_univ_three]
      show (1 / 2 : ℝ) * (1 / 2) + 0 * 0 + 0 * 0 = (1 / 2) ^ 2
      norm_num
    rw [euclideanNorm, hsquare, Real.sqrt_sq (by norm_num)]
  have hresolved : Resolved v := .inr (by rw [hlength]; norm_num)
  have hpi : euclideanNorm v ≤ Real.pi := by
    have htwo := Real.two_le_pi
    rw [hlength]
    linarith
  have hreached : (UkfEstimator.system .exact {}).Reachable ({} : UkfEstimator {}) := .init rfl
  obtain ⟨herror, _, hnominal⟩ := sigma_points_round_trip .exact {} {} hreached
    [({ angularRateRadps := ![0, 0, 0.1] }, 1)]
  have hmean : Quaternion.normSq mean.orientationBodyToEnu = 1 :=
    normSq_propagateImus .exact {} _ (map_one _)
  have hturned : Quaternion.normSq (mean.orientationBodyToEnu * expMapSo3 v) = 1 := by
    rw [map_mul, hmean, normSq_expMapSo3, one_mul]
  constructor
  · refine (herror error).mpr ?_
    rw [segment_setSegment (by decide)]
    exact ⟨hresolved, hpi⟩
  · refine (hnominal s ?_).mpr ?_
    · show Quaternion.normSq (mean.orientationBodyToEnu * expMapSo3 v).normalized = 1
      rw [Quat.normalized_of_unit hturned]
      exact hturned
    · show Resolved (logMapSo3 (star mean.orientationBodyToEnu
        * (mean.orientationBodyToEnu * expMapSo3 v).normalized))
      rw [star_mul_turned hmean, (logMapSo3_expMapSo3_iff v).mpr ⟨hresolved, hpi⟩]
      exact hresolved

end FalconGuide.Ukf
