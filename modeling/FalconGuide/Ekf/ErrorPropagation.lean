import FalconGuide.Core.Rotations
import FalconGuide.Core.Segments
import FalconGuide.Ekf.Estimator
import FalconGuide.Lib.Expansions

namespace FalconGuide

open Asymptotics Lib Matrix
open scoped Topology

/-!
# Two descriptions of one propagation

`PropagateImu` moves the nominal state, and the covariance with `Φ = I + F dt`.  `F` says that the
clock bias grows with the clock drift; the nominal update leaves the clock as it is.

* `perturbedNominal`, `nominalDifference` — an error added to a nominal state, and the error
  between two nominal states;
* `transitionMatrix` — `Φ`, with its product segment by segment;
* `nominalDifference_propagate` — what the error after the step and `Φ` times the error before it
  differ by;
* `propagation_matches_iff` — the main result: the descriptions agree exactly if the clock does not
  drift.
-/

/-! ### Errors of the nominal state -/

/-- The nominal state with an error in position, velocity, accelerometer bias and clock. -/
noncomputable def perturbedNominal {n : ℕ} (layout : StateLayout) (nom : NominalState)
    (dx : Fin n → ℝ) : NominalState :=
  { nom with
    positionEnuM := nom.positionEnuM + segment dx (layout.get .position).offset 3
    velocityEnuMps := nom.velocityEnuMps + segment dx (layout.get .velocity).offset 3
    accelBiasMps2 := nom.accelBiasMps2 + segment dx (layout.get .accelBias).offset 3
    gnssClock :=
      if layout.has .gnssClock then
        nom.gnssClock.map (· + segment dx (layout.get .gnssClock).offset 2)
      else nom.gnssClock }

/-- The error of `a` against `b`, at the places of the layout. -/
noncomputable def nominalDifference (n : ℕ) (layout : StateLayout) (a b : NominalState) :
    Fin n → ℝ :=
  let dx := setSegment 0 (layout.get .position).offset (a.positionEnuM - b.positionEnuM)
  let dx := setSegment dx (layout.get .velocity).offset (a.velocityEnuMps - b.velocityEnuMps)
  let dx := setSegment dx (layout.get .attitude).offset
    (logMapSo3 (star b.orientationBodyToEnu * a.orientationBodyToEnu))
  let dx := setSegment dx (layout.get .accelBias).offset (a.accelBiasMps2 - b.accelBiasMps2)
  let dx := setSegment dx (layout.get .gyroBias).offset (a.gyroBiasRadps - b.gyroBiasRadps)
  if layout.has .gnssClock then
    setSegment dx (layout.get .gnssClock).offset (a.gnssClock.getD 0 - b.gnssClock.getD 0)
  else dx

/-- `Phi` of `PropagateImu`. -/
noncomputable def transitionMatrix (n : ℕ) (layout : StateLayout) (nom : NominalState)
    (imu : ImuMeasurement) (dt : ℝ) : Matrix (Fin n) (Fin n) ℝ :=
  1 + dt • errorDynamics layout (Quat.toRotationMatrix nom.orientationBodyToEnu)
    (imu.specificForceMps2 - nom.accelBiasMps2) (imu.angularRateRadps - nom.gyroBiasRadps)

/-- It is the matrix that the covariance is propagated with. -/
theorem propagateCovariance_eq {n : ℕ} (options : EkfOptions) (layout : StateLayout)
    (nom : NominalState) (P : Matrix (Fin n) (Fin n) ℝ) (imu : ImuMeasurement) (dt : ℝ) :
    let Phi := transitionMatrix n layout nom imu dt
    let G := noiseInput layout (Quat.toRotationMatrix nom.orientationBodyToEnu)
    propagateCovariance options layout nom P imu dt
      = symmetrizeCovariance
          (Phi * P * Phiᵀ + dt • (G * noiseDensity options.imuNoise * Gᵀ)) := rfl

/-! ### Segment by segment -/

section Segments

variable {options : EkfOptions}

/-- Vectors that agree on every segment of the layout are equal. -/
theorem eq_of_segments {x y : Fin options.buildLayout.totalSize → ℝ}
    (h : ∀ o ∈ [0, 3, 6, 9, 12], segment x o 3 = segment y o 3)
    (hclock : options.enableGnssClockState = true → segment x 15 2 = segment y 15 2)
    (hbaro : options.enableBaroBiasState = true →
      segment x (options.buildLayout.get .baroBias).offset 1
        = segment y (options.buildLayout.get .baroBias).offset 1) : x = y := by
  funext i
  have hi : i.val < 15 + (if options.enableGnssClockState then 2 else 0)
      + if options.enableBaroBiasState then 1 else 0 := by
    rw [← EkfOptions.buildLayout_totalSize]
    exact i.isLt
  have hread : ∀ {o p : ℕ}, o ≤ i.val ∧ i.val < o + p → segment x o p = segment y o p →
      x i = y i := by
    intro o p hin hxy
    have hx := segment_sub_apply (v := x) hin
    have hy := segment_sub_apply (v := y) hin
    rw [← hx, ← hy, hxy]
  -- five segments of three, then the clock and the bias of the barometer if present
  by_cases hsmall : i.val < 15
  · have hmem : 3 * (i.val / 3) ∈ [0, 3, 6, 9, 12] := by
      have hfive : i.val / 3 < 5 := by omega
      interval_cases i.val / 3 <;> decide
    exact hread (by omega) (h _ hmem)
  · by_cases hc : options.enableGnssClockState = true
    · rw [if_pos hc] at hi
      by_cases hlast : i.val < 17
      · exact hread (by omega) (hclock hc)
      · by_cases hb : options.enableBaroBiasState = true
        · refine hread ?_ (hbaro hb)
          rw [if_pos hb] at hi
          rw [EkfOptions.buildLayout_baroBias options hb, if_pos hc]
          exact ⟨not_lt.mp hlast, hi⟩
        · rw [if_neg hb] at hi
          omega
    · rw [if_neg hc] at hi
      by_cases hb : options.enableBaroBiasState = true
      · refine hread ?_ (hbaro hb)
        rw [if_pos hb] at hi
        rw [EkfOptions.buildLayout_baroBias options hb, if_neg hc]
        exact ⟨not_lt.mp hsmall, hi⟩
      · rw [if_neg hb] at hi
        omega

/-- There is room for the five segments that every layout has. -/
theorem le_totalSize : 15 ≤ options.buildLayout.totalSize := by
  rw [EkfOptions.buildLayout_totalSize]
  omega

/-- And for the clock, where there is one. -/
theorem le_totalSize_of_clock (h : options.enableGnssClockState = true) :
    17 ≤ options.buildLayout.totalSize := by
  rw [EkfOptions.buildLayout_totalSize, if_pos h]
  omega

/-- A vector that is zero but for the clock, where there is one. -/
noncomputable def clockPart (options : EkfOptions) {q : ℕ} (w : Fin q → ℝ) :
    Fin options.buildLayout.totalSize → ℝ :=
  if options.enableGnssClockState then setSegment 0 15 w else 0

theorem segment_clockPart {o p q : ℕ} {w : Fin q → ℝ} (h : o + p ≤ 15) :
    segment (clockPart options w) o p = 0 := by
  rw [clockPart]
  split
  · rw [segment_setSegment_of_disjoint (by omega), segment_zero]
  · exact segment_zero _ _

/-- The clock does not meet the bias of the barometer. -/
theorem segment_clockPart_baroBias {q : ℕ} {w : Fin q → ℝ} (hq : q ≤ 2)
    (hb : options.enableBaroBiasState = true) :
    segment (clockPart options w) (options.buildLayout.get .baroBias).offset 1 = 0 := by
  rw [EkfOptions.buildLayout_baroBias options hb, clockPart]
  by_cases hc : options.enableGnssClockState = true
  · rw [if_pos hc, if_pos hc, segment_setSegment_of_disjoint, segment_zero]
    show 15 + 2 + 1 ≤ 15 ∨ 15 + q ≤ 15 + 2
    omega
  · rw [if_neg hc]
    exact segment_zero _ _

theorem segment_clockPart_clock (hc : options.enableGnssClockState = true) {w : Fin 2 → ℝ} :
    segment (clockPart options w) 15 2 = w := by
  rw [clockPart, if_pos hc, segment_setSegment (le_totalSize_of_clock hc)]

/-- **`F`** takes each segment to where the blocks put it. -/
theorem errorDynamics_mulVec (R : Mat3) (f omega : Vec3)
    (x : Fin options.buildLayout.totalSize → ℝ) :
    errorDynamics options.buildLayout R f omega *ᵥ x
      = setSegment 0 0 (segment x 3 3) + setSegment 0 3 ((-R * skewSymmetric f) *ᵥ segment x 6 3)
        + setSegment 0 3 (-R *ᵥ segment x 9 3)
        + setSegment 0 6 (-skewSymmetric omega *ᵥ segment x 6 3)
        + setSegment 0 6 (-segment x 12 3)
        + clockPart options (segment x 16 1) := by
  have hone : ∀ y : Vec3, (-1 : Mat3) *ᵥ y = -y := fun y => by rw [neg_mulVec, one_mulVec]
  have hentry : ∀ y : Fin 1 → ℝ, (Matrix.of fun (_ _ : Fin 1) => (1 : ℝ)) *ᵥ y = y := by
    intro y
    ext i
    obtain rfl : i = 0 := Subsingleton.elim _ _
    simp [mulVec, dotProduct]
  have hblocks : errorDynamics options.buildLayout R f omega
      = let F := setBlock (0 : Matrix (Fin options.buildLayout.totalSize) (Fin _) ℝ) 0 3 (1 : Mat3)
        let F := setBlock F 3 6 (-R * skewSymmetric f)
        let F := setBlock F 3 9 (-R)
        let F := setBlock F 6 6 (-skewSymmetric omega)
        let F := setBlock F 6 12 (-1 : Mat3)
        if options.enableGnssClockState then setEntry F 15 16 1 else F := by
    simp only [errorDynamics, EkfOptions.buildLayout_position, EkfOptions.buildLayout_velocity,
      EkfOptions.buildLayout_attitude, EkfOptions.buildLayout_accelBias,
      EkfOptions.buildLayout_gyroBias, EkfOptions.buildLayout_has_gnssClock]
    by_cases hc : options.enableGnssClockState = true
    · rw [if_pos hc, if_pos hc, EkfOptions.buildLayout_gnssClock options hc]
    · rw [if_neg hc, if_neg hc]
  rw [hblocks]
  -- no block meets an earlier one
  by_cases hc : options.enableGnssClockState = true
  · simp only [hc, if_true, setEntry, clockPart]
    rw [setBlock_mulVec, setBlock_mulVec, setBlock_mulVec, setBlock_mulVec, setBlock_mulVec,
      setBlock_zero_mulVec, one_mulVec, hone, hentry]
    all_goals
      intro i j hij
      simp (disch := omega) only [setBlock_apply_of_outside, Matrix.zero_apply]
  · simp only [hc, Bool.false_eq_true, if_false, clockPart]
    rw [setBlock_mulVec, setBlock_mulVec, setBlock_mulVec, setBlock_mulVec,
      setBlock_zero_mulVec, one_mulVec, hone, add_zero]
    all_goals
      intro i j hij
      simp (disch := omega) only [setBlock_apply_of_outside, Matrix.zero_apply]

/-! ### One step -/

section Step

variable (nom : NominalState) (imu : ImuMeasurement)
  (dx : Fin options.buildLayout.totalSize → ℝ) (dt : ℝ)

/-- The error after the step, in position. -/
theorem position_difference :
    (propagateNominal (perturbedNominal options.buildLayout nom dx) imu dt).positionEnuM
        - (propagateNominal nom imu dt).positionEnuM
      = segment dx 0 3 + dt • segment dx 3 3
        - (1 / 2 * dt * dt)
          • (Quat.toRotationMatrix nom.orientationBodyToEnu *ᵥ segment dx 9 3) := by
  simp only [propagateNominal, perturbedNominal, EkfOptions.buildLayout_position,
    EkfOptions.buildLayout_velocity, EkfOptions.buildLayout_accelBias, sub_add_eq_sub_sub,
    mulVec_sub]
  module

/-- In velocity. -/
theorem velocity_difference :
    (propagateNominal (perturbedNominal options.buildLayout nom dx) imu dt).velocityEnuMps
        - (propagateNominal nom imu dt).velocityEnuMps
      = segment dx 3 3
        - dt • (Quat.toRotationMatrix nom.orientationBodyToEnu *ᵥ segment dx 9 3) := by
  simp only [propagateNominal, perturbedNominal, EkfOptions.buildLayout_velocity,
    EkfOptions.buildLayout_accelBias, sub_add_eq_sub_sub, mulVec_sub]
  module

/-- The clock keeps its error. -/
theorem clock_difference (hc : options.enableGnssClockState = true) :
    (propagateNominal (perturbedNominal options.buildLayout nom dx) imu dt).gnssClock.getD 0
        - (propagateNominal nom imu dt).gnssClock.getD 0
      = if nom.gnssClock = none then 0 else segment dx 15 2 := by
  simp only [propagateNominal, perturbedNominal, EkfOptions.buildLayout_has_gnssClock, hc, if_true,
    EkfOptions.buildLayout_gnssClock options hc]
  cases nom.gnssClock with
  | none => simp
  | some c => simp

end Step

/-- An error between nominal states, piece by piece. -/
theorem nominalDifference_eq (a b : NominalState) :
    nominalDifference options.buildLayout.totalSize options.buildLayout a b
      = setSegment 0 0 (a.positionEnuM - b.positionEnuM)
        + setSegment 0 3 (a.velocityEnuMps - b.velocityEnuMps)
        + setSegment 0 6 (logMapSo3 (star b.orientationBodyToEnu * a.orientationBodyToEnu))
        + setSegment 0 9 (a.accelBiasMps2 - b.accelBiasMps2)
        + setSegment 0 12 (a.gyroBiasRadps - b.gyroBiasRadps)
        + clockPart options (a.gnssClock.getD 0 - b.gnssClock.getD 0) := by
  simp only [nominalDifference, EkfOptions.buildLayout_position, EkfOptions.buildLayout_velocity,
    EkfOptions.buildLayout_attitude, EkfOptions.buildLayout_accelBias,
    EkfOptions.buildLayout_gyroBias, EkfOptions.buildLayout_has_gnssClock]
  by_cases hc : options.enableGnssClockState = true
  · simp only [hc, if_true, EkfOptions.buildLayout_gnssClock options hc, clockPart]
    rw [setSegment_eq_add, setSegment_eq_add, setSegment_eq_add, setSegment_eq_add,
      setSegment_eq_add]
    all_goals
      intro i hi
      simp (disch := omega) only [setSegment_apply_of_outside, Pi.zero_apply]
  · simp only [hc, Bool.false_eq_true, if_false, add_zero, clockPart]
    rw [setSegment_eq_add, setSegment_eq_add, setSegment_eq_add, setSegment_eq_add]
    all_goals
      intro i hi
      simp (disch := omega) only [setSegment_apply_of_outside, Pi.zero_apply]

/-- What the clock of the error state does in a unit of time and the nominal clock does not. -/
noncomputable def missedDrift (options : EkfOptions)
    (dx : Fin options.buildLayout.totalSize → ℝ) : Fin options.buildLayout.totalSize → ℝ :=
  clockPart options (segment dx 16 1)

/-- An error of the clock, in a nominal state that has none. -/
noncomputable def missedClock (options : EkfOptions) (nom : NominalState)
    (dx : Fin options.buildLayout.totalSize → ℝ) : Fin options.buildLayout.totalSize → ℝ :=
  clockPart options (if nom.gnssClock = none then segment dx 15 2 else 0)

/-- **The error after a step** against `Φ` times the error before it. -/
theorem nominalDifference_propagate {nom : NominalState} (imu : ImuMeasurement)
    {dx : Fin options.buildLayout.totalSize → ℝ} (hatt : segment dx 6 3 = 0)
    (hgyro : segment dx 12 3 = 0)
    (hbaro : options.enableBaroBiasState = true →
      segment dx (options.buildLayout.get .baroBias).offset 1 = 0) (dt : ℝ) :
    let R := Quat.toRotationMatrix nom.orientationBodyToEnu
    nominalDifference options.buildLayout.totalSize options.buildLayout
        (propagateNominal (perturbedNominal options.buildLayout nom dx) imu dt)
        (propagateNominal nom imu dt)
      - transitionMatrix _ options.buildLayout nom imu dt *ᵥ dx
      = dt ^ 2 • setSegment 0 0 (-(1 / 2 : ℝ) • (R *ᵥ segment dx 9 3)) - dt • missedDrift options dx
        - missedClock options nom dx := by
  intro R
  have hsize := @le_totalSize options
  let a := propagateNominal (perturbedNominal options.buildLayout nom dx) imu dt
  let b := propagateNominal nom imu dt
  have hpos : a.positionEnuM - b.positionEnuM = _ := position_difference nom imu dx dt
  have hvel : a.velocityEnuMps - b.velocityEnuMps = _ := velocity_difference nom imu dx dt
  have hrot : logMapSo3 (star b.orientationBodyToEnu * a.orientationBodyToEnu) = 0 :=
    logMapSo3_star_mul_self _
  have haba : a.accelBiasMps2 - b.accelBiasMps2 = segment dx 9 3 := by
    show nom.accelBiasMps2 + _ - nom.accelBiasMps2 = _
    rw [EkfOptions.buildLayout_accelBias, add_sub_cancel_left]
  have hgba : a.gyroBiasRadps - b.gyroBiasRadps = 0 := sub_self _
  rw [nominalDifference_eq, hpos, hvel, hrot, haba, hgba, transitionMatrix, add_mulVec, one_mulVec,
    smul_mulVec, errorDynamics_mulVec, hatt, hgyro, missedDrift, missedClock]
  apply eq_of_segments
  · intro o ho
    simp only [List.mem_cons, List.not_mem_nil, or_false] at ho
    rcases ho with rfl | rfl | rfl | rfl | rfl
    · simp (disch := omega) only [segment_sub, segment_add, segment_smul, segment_setSegment,
        segment_setSegment_of_disjoint, segment_zero, segment_clockPart]
      module
    · simp (disch := omega) only [segment_sub, segment_add, segment_smul, segment_setSegment,
        segment_setSegment_of_disjoint, segment_zero, segment_clockPart, mulVec_zero, neg_mulVec]
      module
    · simp (disch := omega) only [segment_sub, segment_add, segment_smul, segment_setSegment,
        segment_setSegment_of_disjoint, segment_zero, segment_clockPart, mulVec_zero, hatt]
      module
    · simp (disch := omega) only [segment_sub, segment_add, segment_smul, segment_setSegment,
        segment_setSegment_of_disjoint, segment_zero, segment_clockPart]
      module
    · simp (disch := omega) only [segment_sub, segment_add, segment_smul, segment_setSegment,
        segment_setSegment_of_disjoint, segment_zero, segment_clockPart, hgyro]
      module
  · intro hc
    rw [clock_difference nom imu dx dt hc]
    simp (disch := omega) only [segment_sub, segment_add, segment_smul, segment_zero,
      segment_setSegment_of_disjoint, segment_clockPart_clock hc]
    by_cases hnone : nom.gnssClock = none
    · rw [if_pos hnone, if_pos hnone]
      module
    · rw [if_neg hnone, if_neg hnone]
      module
  · intro hb
    have hoffset : 15 ≤ (options.buildLayout.get .baroBias).offset := by
      rw [EkfOptions.buildLayout_baroBias options hb]
      exact Nat.le_add_right _ _
    simp (disch := omega) only [segment_sub, segment_add, segment_smul, segment_zero,
      segment_setSegment_of_disjoint, segment_clockPart_baroBias, hbaro]
    module

/-! ### The two descriptions -/

/-- The nominal update is `Φ` up to terms of second order in the step, for the error `dx`; and the
    clock bias advances by the drift. -/
structure PropagationMatches (nom : NominalState) (imu : ImuMeasurement)
    (dx : Fin options.buildLayout.totalSize → ℝ) : Prop where
  linear :
    (fun dt : ℝ =>
      nominalDifference options.buildLayout.totalSize options.buildLayout
          (propagateNominal (perturbedNominal options.buildLayout nom dx) imu dt)
          (propagateNominal nom imu dt)
        - transitionMatrix _ options.buildLayout nom imu dt *ᵥ dx)
      =O[𝓝 0] fun dt => dt ^ 2
  clock : options.enableGnssClockState = true → ∀ c, nom.gnssClock = some c → ∀ dt : ℝ,
    (propagateNominal nom imu dt).gnssClock = some ![c 0 + dt * c 1, c 1]

theorem clockPart_eq_zero_iff (hc : options.enableGnssClockState = true) {q : ℕ} (hq : q ≤ 2)
    {w : Fin q → ℝ} : clockPart options w = 0 ↔ w = 0 := by
  have hsize := le_totalSize_of_clock hc
  have hw : segment (clockPart options w) 15 q = w := by
    rw [clockPart, if_pos hc, segment_setSegment (by omega)]
  constructor
  · intro h
    rw [← hw, h, segment_zero]
  · rintro rfl
    rw [clockPart, if_pos hc]
    funext i
    rw [setSegment]
    split
    · rfl
    · rfl

/-- The linear part, in terms of what the nominal clock misses. -/
theorem linear_iff {nom : NominalState} (imu : ImuMeasurement)
    {dx : Fin options.buildLayout.totalSize → ℝ} (hatt : segment dx 6 3 = 0)
    (hgyro : segment dx 12 3 = 0)
    (hbaro : options.enableBaroBiasState = true →
      segment dx (options.buildLayout.get .baroBias).offset 1 = 0) :
    ((fun dt : ℝ =>
        nominalDifference options.buildLayout.totalSize options.buildLayout
            (propagateNominal (perturbedNominal options.buildLayout nom dx) imu dt)
            (propagateNominal nom imu dt)
          - transitionMatrix _ options.buildLayout nom imu dt *ᵥ dx)
        =O[𝓝 0] fun dt => dt ^ 2) ↔
      missedDrift options dx = 0 ∧ missedClock options nom dx = 0 := by
  simp only [nominalDifference_propagate imu hatt hgyro hbaro]
  exact isBigO_sq_iff

/-- The nominal clock advances by its drift only if it has none. -/
theorem clock_advances_iff {nom : NominalState} (imu : ImuMeasurement) {c : Fin 2 → ℝ}
    (hc : nom.gnssClock = some c) :
    (∀ dt : ℝ, (propagateNominal nom imu dt).gnssClock = some ![c 0 + dt * c 1, c 1]) ↔
      c 1 = 0 := by
  have hkept : ∀ dt, (propagateNominal nom imu dt).gnssClock = some c := fun _ => hc
  simp only [hkept, Option.some_inj]
  constructor
  · intro h
    have h1 := congrFun (h 1) 0
    simpa using h1
  · intro h dt
    funext i
    fin_cases i
    · simp [h]
    · rfl

/-- **Nominal state and covariance** are propagated alike exactly if there is no clock, or it
    drifts neither in the nominal state nor by the error. -/
theorem propagation_matches_iff {options : EkfOptions} (nom : NominalState) (imu : ImuMeasurement)
    (dx : Fin options.buildLayout.totalSize → ℝ) (hatt : segment dx 6 3 = 0)
    (hgyro : segment dx 12 3 = 0)
    (hbaro : options.enableBaroBiasState = true →
      segment dx (options.buildLayout.get .baroBias).offset 1 = 0) :
    PropagationMatches nom imu dx ↔
      (options.enableGnssClockState = true →
        segment dx 16 1 = 0 ∧ (nom.gnssClock = none → segment dx 15 2 = 0) ∧
          ∀ c, nom.gnssClock = some c → c 1 = 0) := by
  by_cases henable : options.enableGnssClockState = true
  · have hdrift : missedDrift options dx = 0 ↔ segment dx 16 1 = 0 :=
      clockPart_eq_zero_iff henable (by omega)
    have hclock : missedClock options nom dx = 0 ↔
        (nom.gnssClock = none → segment dx 15 2 = 0) := by
      rw [missedClock, clockPart_eq_zero_iff henable le_rfl]
      simp
    constructor
    · rintro ⟨hlinear, hadvance⟩ -
      rw [linear_iff imu hatt hgyro hbaro, hdrift, hclock] at hlinear
      refine ⟨hlinear.1, hlinear.2, fun c hc => ?_⟩
      exact (clock_advances_iff imu hc).mp (hadvance henable c hc)
    · intro h
      obtain ⟨hzero, hnone, hsome⟩ := h henable
      constructor
      · rw [linear_iff imu hatt hgyro hbaro, hdrift, hclock]
        exact ⟨hzero, hnone⟩
      · intro _ c hc
        exact (clock_advances_iff imu hc).mpr (hsome c hc)
  · refine iff_of_true ⟨?_, fun h => absurd h henable⟩ fun h => absurd h henable
    rw [linear_iff imu hatt hgyro hbaro, missedDrift, missedClock, clockPart, clockPart,
      if_neg henable, if_neg henable]
    exact ⟨rfl, rfl⟩

/-- With a clock that does not drift, while the vehicle accelerates: errors of position, velocity,
    accelerometer bias and clock bias. -/
theorem propagation_matches_clock :
    @PropagationMatches { enableGnssClockState := true }
      { velocityEnuMps := ![10, 0, 0], gnssClock := some ![5, 0] }
      { specificForceMps2 := ![1, 0, 9.8], angularRateRadps := ![0, 0, 0.1] }
      (setSegment (setSegment (setSegment (setSegment 0 0 ![1, 2, 3]) 3 ![0.1, 0, -0.1])
        9 ![0.01, 0.02, 0.03]) 15 ![7]) := by
  have hzero : ∀ o p : ℕ, (6 ≤ o ∧ o + p ≤ 9 ∨ 12 ≤ o ∧ o + p ≤ 15 ∨ 16 ≤ o) →
      segment (setSegment (setSegment (setSegment (setSegment (0 : Fin 17 → ℝ) 0 ![1, 2, 3])
        3 ![0.1, 0, -0.1]) 9 ![0.01, 0.02, 0.03]) 15 ![7]) o p = 0 := by
    intro o p h
    rw [segment_setSegment_of_disjoint (by omega), segment_setSegment_of_disjoint (by omega),
      segment_setSegment_of_disjoint (by omega), segment_setSegment_of_disjoint (by omega),
      segment_zero]
  refine (@propagation_matches_iff { enableGnssClockState := true }
    { velocityEnuMps := ![10, 0, 0], gnssClock := some ![5, 0] } _ _ (hzero 6 3 (by omega))
    (hzero 12 3 (by omega)) fun h => by cases h).mpr ?_
  intro _
  refine ⟨hzero 16 1 (by omega), fun h => (Option.some_ne_none _ h).elim, fun c hc => ?_⟩
  cases hc
  rfl

/-- A clock that drifts by a metre each second stays where it is, while `Φ` moves its error on. -/
theorem not_propagation_matches :
    let options : EkfOptions := { enableGnssClockState := true }
    let nom : NominalState := { gnssClock := some ![0, 1] }
    let dx : Fin options.buildLayout.totalSize → ℝ := setSegment 0 16 fun _ : Fin 1 => 1
    segment dx 6 3 = 0 ∧ segment dx 12 3 = 0 ∧
      (propagateNominal nom {} 1).gnssClock = some ![0, 1] ∧
      segment (transitionMatrix options.buildLayout.totalSize options.buildLayout nom {} 1 *ᵥ dx)
        15 2 = ![1, 1] ∧
      ¬ PropagationMatches nom {} dx := by
  intro options nom dx
  have hatt : segment dx 6 3 = 0 := by
    rw [segment_setSegment_of_disjoint (by omega), segment_zero]
  have hgyro : segment dx 12 3 = 0 := by
    rw [segment_setSegment_of_disjoint (by omega), segment_zero]
  refine ⟨hatt, hgyro, rfl, ?_, ?_⟩
  · rw [transitionMatrix, add_mulVec, one_mulVec, one_smul, errorDynamics_mulVec, hatt, hgyro]
    simp (disch := omega) only [segment_add, segment_setSegment_of_disjoint, segment_zero, zero_add]
    funext i
    fin_cases i
    · show dx ⟨15, by decide⟩ + segment dx 16 1 0 = 1
      have hsize : 16 < options.buildLayout.totalSize := by decide
      simp [dx, setSegment, segment, hsize]
    · show dx ⟨16, by decide⟩ + 0 = 1
      simp [dx, setSegment]
  · rintro ⟨-, hadvance⟩
    have hzero := (clock_advances_iff {} rfl).mp (hadvance rfl _ rfl)
    exact one_ne_zero hzero

end Segments

end FalconGuide
