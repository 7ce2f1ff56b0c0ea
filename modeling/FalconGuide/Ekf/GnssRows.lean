import FalconGuide.Ekf.GnssTightlyCoupled

namespace FalconGuide

open Lib Matrix

/-!
# An epoch as a list of rows

* `svRows` / `epochRows` — the observations that an epoch brings in, in order;
* `gnssTightlyCoupledApply_fst` — `Apply` updates with one row after the other;
* `rowPasses` — the gate of one row;
* `rowUpdate_of_passes` — what a row that passes does.
-/

section Rows

variable {n : ℕ} (options : GnssTightlyCoupledOptions) (rcv : Receiver) (layout : StateLayout)

/-- The rows of a satellite: its pseudorange, and its Doppler shift where there is one. -/
noncomputable def svRows (sv : GnssTightlyCoupledObservation) : List (Kalman.Row (Fin n)) :=
  if svUsable rcv sv then
    pseudorangeRow options rcv layout sv ::
      (sv.raw.dopplerHz.map (dopplerRow options rcv layout sv)).toList
  else []

/-- One row after the other. -/
noncomputable def rowsUpdate (est : Estimate n) (rows : List (Kalman.Row (Fin n))) : Estimate n :=
  rows.foldl (fun est row => (rowUpdate options est row).1) est

/-- A satellite updates with its rows. -/
theorem svUpdate_fst (sv : GnssTightlyCoupledObservation) (state : Estimate n × ℕ) :
    (svUpdate options rcv layout sv state).1
      = rowsUpdate options state.1 (svRows options rcv layout sv) := by
  unfold svUpdate svRows
  by_cases h : svUsable rcv sv
  · rw [if_pos h, if_pos h]
    cases sv.raw.dopplerHz with
    | none => rfl
    | some dopplerHz => rfl
  · rw [if_neg h, if_neg h]
    rfl

/-- The satellites update with all their rows. -/
theorem foldl_svUpdate_fst (svs : List GnssTightlyCoupledObservation) (state : Estimate n × ℕ) :
    (svs.foldl (fun state sv => svUpdate options rcv layout sv state) state).1
      = rowsUpdate options state.1 (svs.flatMap (svRows options rcv layout)) := by
  induction svs generalizing state with
  | nil => rfl
  | cons sv svs ih =>
    rw [List.foldl_cons, ih, svUpdate_fst, List.flatMap_cons, rowsUpdate, rowsUpdate, rowsUpdate,
      List.foldl_append]

/-! ### One row -/

/-- A row passes: the variance of its innovation is positive, and the gate, unless it is switched
    off, lets the innovation through. -/
def rowPasses (P : Matrix (Fin n) (Fin n) ℝ) (row : Kalman.Row (Fin n)) : Prop :=
  0 < Kalman.scalarVar P row ∧
    (options.innovationGateSigma ≤ 0 ∨
      |row.innovation| ≤ options.innovationGateSigma * √(Kalman.scalarVar P row))

variable {options} {est : Estimate n} {row : Kalman.Row (Fin n)}

/-- A row that passes is used with its optimal gain. -/
theorem rowUpdate_of_passes (h : rowPasses options est.covariance row) :
    rowUpdate options est row
      = ({ errorState :=
             est.errorState + row.innovation • Kalman.scalarGain est.covariance row
           covariance := symmetrizeCovariance
             (Kalman.scalarJoseph est.covariance row (Kalman.scalarGain est.covariance row)) },
          true) := by
  have hvar : row.h ⬝ᵥ (est.covariance *ᵥ row.h) + row.sigma * row.sigma
      = Kalman.scalarVar est.covariance row := by rw [Kalman.scalarVar, sq]
  have hgate : ¬ (0 < options.innovationGateSigma ∧
      options.innovationGateSigma * √(Kalman.scalarVar est.covariance row) < |row.innovation|) := by
    rintro ⟨hpos, hlt⟩
    rcases h.2 with hoff | hle
    · exact absurd hpos (not_lt.mpr hoff)
    · exact absurd hlt (not_lt.mpr hle)
  unfold rowUpdate scalarUpdate
  simp only [hvar, not_le.mpr h.1, if_false, hgate]
  rw [Kalman.scalarJoseph, sq]
  rfl

/-- A row that does not pass changes nothing. -/
theorem rowUpdate_of_not_passes (h : ¬ rowPasses options est.covariance row) :
    rowUpdate options est row = (est, false) := by
  have hvar : row.h ⬝ᵥ (est.covariance *ᵥ row.h) + row.sigma * row.sigma
      = Kalman.scalarVar est.covariance row := by rw [Kalman.scalarVar, sq]
  unfold rowUpdate scalarUpdate
  simp only [hvar]
  by_cases hpos : Kalman.scalarVar est.covariance row ≤ 0
  · rw [if_pos hpos]
  · rw [if_neg hpos, if_pos]
    rw [rowPasses, not_and_or, not_or, not_le, not_le] at h
    exact h.resolve_left (not_not.mpr (not_le.mp hpos))

end Rows

/-- The rows that an epoch brings in: none unless its preconditions hold. -/
noncomputable def epochRows {n : ℕ} (options : GnssTightlyCoupledOptions) (nominal : NominalState)
    (layout : StateLayout) (epoch : GnssTightlyCoupledEpoch) (context : UpdateContext) :
    List (Kalman.Row (Fin n)) :=
  match context.ltp, nominal.gnssClock with
  | some ltp, some clock =>
    if layout.has .gnssClock ∧ epoch.validity = .valid then
      epoch.svObservations.flatMap (svRows options (receiverOf nominal ltp clock) layout)
    else []
  | _, _ => []

section Apply

variable {n : ℕ} {options : GnssTightlyCoupledOptions} {nominal : NominalState} {est : Estimate n}
  {layout : StateLayout} {epoch : GnssTightlyCoupledEpoch} {context : UpdateContext}

/-- **`Apply`.** The estimate after an epoch is the one after its rows. -/
theorem gnssTightlyCoupledApply_fst :
    (gnssTightlyCoupledApply options nominal est layout epoch context).1
      = rowsUpdate options est (epochRows options nominal layout epoch context) := by
  unfold gnssTightlyCoupledApply epochRows
  by_cases hclock : layout.has .gnssClock = true
  · rw [if_neg (by simp [hclock])]
    cases context.ltp with
    | none => rfl
    | some ltp =>
      cases nominal.gnssClock with
      | none => rfl
      | some clock =>
        by_cases hvalid : epoch.validity = .valid
        · simp only [hvalid, ne_eq, not_true_eq_false, if_false, hclock, and_self, if_true]
          cases hsvs : epoch.svObservations with
          | nil => rfl
          | cons sv svs => exact foldl_svUpdate_fst options _ layout _ _
        · simp only [hvalid, ne_eq, not_false_eq_true, if_true, and_false, if_false]
          rfl
  · have hnot : layout.has .gnssClock = false := by simpa using hclock
    rw [if_pos (by simp [hnot])]
    cases context.ltp with
    | none => rfl
    | some ltp =>
      cases nominal.gnssClock with
      | none => rfl
      | some clock =>
        simp only [hnot, Bool.false_eq_true, false_and, if_false]
        rfl

end Apply

/-! ### A satellite overhead -/

/-- The tangent plane where the equator meets the prime meridian. -/
noncomputable def equatorPlane : LocalTangentPlane := .make {}

/-- A pseudorange of a satellite 20000 km above that point. -/
noncomputable def satelliteOverhead (signal : GnssSignal) (pseudorangeM : ℝ) :
    GnssTightlyCoupledObservation where
  raw := { signal, pseudorangeM }
  satellite := { positionEcefM := ![26378137, 0, 0] }

section Overhead

variable {n : ℕ} (options : GnssTightlyCoupledOptions) (nominal : NominalState)
  (signal : GnssSignal) (pseudorangeM : ℝ)

theorem receiverOf_equatorPlane (hpos : nominal.positionEnuM = 0) (clock : Fin 2 → ℝ) :
    (receiverOf nominal equatorPlane clock).posEcef = ![6378137, 0, 0] := by
  show llaToEcef {} + _ *ᵥ nominal.positionEnuM = _
  rw [hpos, mulVec_zero, add_zero, llaToEcef_zero]

theorem geometricRange_overhead {rcv : Receiver} (hrcv : rcv.posEcef = ![6378137, 0, 0]) :
    geometricRange rcv (satelliteOverhead signal pseudorangeM) = 20000000 := by
  rw [geometricRange, euclideanNorm, hrcv, satelliteOverhead]
  rw [Real.sqrt_eq_iff_mul_self_eq_of_pos (by norm_num)]
  simp [dotProduct, Fin.sum_univ_three]
  norm_num

/-- It is used, with its pseudorange alone. -/
theorem svRows_overhead {rcv : Receiver} (hrcv : rcv.posEcef = ![6378137, 0, 0])
    (layout : StateLayout) :
    svRows options rcv layout (satelliteOverhead signal pseudorangeM)
      = [pseudorangeRow (n := n) options rcv layout (satelliteOverhead signal pseudorangeM)] := by
  have husable : svUsable rcv (satelliteOverhead signal pseudorangeM) := by
    refine ⟨rfl, rfl, ?_⟩
    rw [geometricRange_overhead signal pseudorangeM hrcv]
    norm_num
  rw [svRows, if_pos husable]
  rfl

/-- Without clock bias, its innovation is what its pseudorange exceeds the range by. -/
theorem innovation_overhead {rcv : Receiver} (hrcv : rcv.posEcef = ![6378137, 0, 0])
    (hclk : rcv.clkBiasM = 0) (layout : StateLayout) :
    (pseudorangeRow (n := n) options rcv layout
      (satelliteOverhead signal pseudorangeM)).innovation = pseudorangeM - 20000000 := by
  have hsagnac : sagnacCorrectionM ![26378137, 0, 0] rcv.posEcef = 0 := by
    simp [sagnacCorrectionM, hrcv]
  show pseudorangeM - (geometricRange rcv (satelliteOverhead signal pseudorangeM)
    + sagnacCorrectionM ![26378137, 0, 0] rcv.posEcef + rcv.clkBiasM - 0 * speedOfLightMps + 0 + 0)
    = _
  rw [geometricRange_overhead signal pseudorangeM hrcv, hsagnac, hclk]
  ring

end Overhead

/-- The row of a pseudorange has a one at the clock bias. -/
theorem pseudorangeRow_clock {n : ℕ} (options : GnssTightlyCoupledOptions) (rcv : Receiver)
    {layout : StateLayout} (sv : GnssTightlyCoupledObservation) {i : Fin n}
    (hi : i.val = (layout.get .gnssClock).offset) :
    (pseudorangeRow options rcv layout sv).h i = 1 := by
  show lineOfSightH rcv layout sv .position 0 i = 1
  unfold lineOfSightH setSegment
  rw [dif_pos (by omega)]

end FalconGuide
