import FalconGuide.Core.Segments
import FalconGuide.Ekf.GnssRows

namespace FalconGuide

open Lib Matrix

/-!
# Sequential updates against one batch update

The innovations of an epoch are all taken against the nominal state, and none of them accounts for
the correction that the rows before it have already put into the error state.

* `rowsUpdate_eq` — without a gate the rows leave the batch covariance, and the sum of their gains
  times their innovations;
* `sequential_eq_batch_iff` — when that is the batch correction;
* `sequential_ne_batch` — two signals of one satellite, where it is not.
-/

/-! ### Without a gate -/

section Sequential

variable {n : ℕ} {options : GnssTightlyCoupledOptions} {est : Estimate n}

/-- Without a gate a row with noise passes. -/
theorem rowPasses_of_gate_off (hgate : options.innovationGateSigma ≤ 0)
    {P : Matrix (Fin n) (Fin n) ℝ} (hP : P.PosSemidef) {row : Kalman.Row (Fin n)}
    (hσ : 0 < row.sigma) : rowPasses options P row :=
  ⟨Kalman.scalarVar_pos hP hσ, .inl hgate⟩

/-- **Rows in sequence.** Without a gate every row adds its gain times its own innovation, and the
    covariance ends up as the batch covariance. -/
theorem rowsUpdate_eq (hgate : options.innovationGateSigma ≤ 0)
    (hP : est.covariance.PosSemidef) {rows : List (Kalman.Row (Fin n))}
    (hσ : ∀ row ∈ rows, 0 < row.sigma) :
    rowsUpdate options est rows
      = { errorState := est.errorState + Kalman.sumGains est.covariance rows
          covariance := Kalman.batchCov est.covariance rows } := by
  induction rows generalizing est with
  | nil =>
    rw [Kalman.batchCov_nil hP, Kalman.sumGains, add_zero]
    rfl
  | cons row rows ih =>
    have hrow : 0 < row.sigma := hσ row (by simp)
    have hrows : ∀ row' ∈ rows, 0 < row'.sigma := fun row' h => hσ row' (by simp [h])
    have hpost := Kalman.posSemidef_scalarPosterior hP hrow
    have hfirst : (rowUpdate options est row).1
        = { errorState := est.errorState + row.innovation • Kalman.scalarGain est.covariance row
            covariance := Kalman.scalarPosterior est.covariance row } := by
      rw [rowUpdate_of_passes (rowPasses_of_gate_off hgate hP hrow),
        Kalman.scalarJoseph_gain hP hrow]
      exact congrArg _ (Kalman.symmetrize_of_isSymm (Kalman.transpose_eq hpost))
    show rowsUpdate options (rowUpdate options est row).1 rows = _
    rw [hfirst, ih hpost hrows, Kalman.sumGains, Kalman.batchCov_cons hP hrow hrows, add_assoc]

end Sequential

/-! ### Against the batch update -/

section Batch

variable {n : ℕ} (options : GnssTightlyCoupledOptions) (nominal : NominalState)
  (est : Estimate n) (layout : StateLayout) (epoch : GnssTightlyCoupledEpoch)
  (context : UpdateContext)

/-- An epoch leaves what one Kalman update with all its rows would leave. -/
def EqualsBatch : Prop :=
  (gnssTightlyCoupledApply options nominal est layout epoch context).1.errorState
      = Kalman.batchCorrection est.covariance
          (epochRows options nominal layout epoch context) ∧
    (gnssTightlyCoupledApply options nominal est layout epoch context).1.covariance
      = Kalman.batchCov est.covariance (epochRows options nominal layout epoch context)

/-- The parts of the earlier corrections that the innovations of an epoch leave out, times the
    gains. -/
noncomputable def leftOutOfEpoch : Fin n → ℝ :=
  Kalman.leftOut est.covariance [] (epochRows options nominal layout epoch context)

variable {options nominal est layout epoch context}

/-- The rows of the same satellites in another order. -/
theorem epochRows_perm {svs : List GnssTightlyCoupledObservation}
    (h : svs.Perm epoch.svObservations) :
    (epochRows (n := n) options nominal layout { epoch with svObservations := svs } context).Perm
      (epochRows options nominal layout epoch context) := by
  unfold epochRows
  cases context.ltp with
  | none => exact .refl _
  | some ltp =>
    cases nominal.gnssClock with
    | none => exact .refl _
    | some clock =>
      by_cases hpre : layout.has .gnssClock = true ∧ epoch.validity = .valid
      · simp only [hpre, and_self, if_true]
        exact h.flatMap_right _
      · simp only [hpre, if_false]
        exact .refl _

/-- **Sequential against batch.** Without a gate, and with noise on every row, an epoch leaves what
    one batch update with the same rows would leave exactly if what its innovations leave out
    cancels; and two orders of its satellites leave the same exactly if they leave out the same. -/
theorem sequential_eq_batch_iff (hgate : options.innovationGateSigma ≤ 0)
    (hP : est.covariance.PosSemidef) (hx : est.errorState = 0)
    (hσ : ∀ row ∈ epochRows (n := n) options nominal layout epoch context, 0 < row.sigma) :
    (EqualsBatch options nominal est layout epoch context ↔
      leftOutOfEpoch options nominal est layout epoch context = 0) ∧
    ∀ svs : List GnssTightlyCoupledObservation, svs.Perm epoch.svObservations →
      ((gnssTightlyCoupledApply options nominal est layout
            { epoch with svObservations := svs } context).1
          = (gnssTightlyCoupledApply options nominal est layout epoch context).1 ↔
        leftOutOfEpoch options nominal est layout { epoch with svObservations := svs } context
          = leftOutOfEpoch options nominal est layout epoch context) := by
  have happly : ∀ epoch' : GnssTightlyCoupledEpoch,
      (∀ row ∈ epochRows (n := n) options nominal layout epoch' context, 0 < row.sigma) →
      (gnssTightlyCoupledApply options nominal est layout epoch' context).1
        = { errorState :=
              Kalman.batchCorrection est.covariance
                (epochRows options nominal layout epoch' context)
              + leftOutOfEpoch options nominal est layout epoch' context
            covariance :=
              Kalman.batchCov est.covariance
                (epochRows options nominal layout epoch' context) } := by
    intro epoch' hσ'
    rw [gnssTightlyCoupledApply_fst, rowsUpdate_eq hgate hP hσ', hx, zero_add,
      Kalman.sumGains_eq_add_leftOut hP hσ', leftOutOfEpoch]
  constructor
  · rw [EqualsBatch, happly epoch hσ]
    simp only [add_eq_left, and_true]
  · intro svs hperm
    have hrows : (epochRows options nominal layout { epoch with svObservations := svs } context :
        List (Kalman.Row (Fin n))).Perm (epochRows options nominal layout epoch context) :=
      epochRows_perm hperm
    have hσ' : ∀ row ∈ epochRows (n := n) options nominal layout
        { epoch with svObservations := svs } context, 0 < row.sigma := fun row h =>
      hσ row (hrows.mem_iff.mp h)
    obtain ⟨hcov, hcorr⟩ := Kalman.batch_perm hrows hP hσ'
    rw [happly _ hσ', happly epoch hσ, hcov, hcorr]
    simp only [Estimate.mk.injEq, add_right_inj, and_true]

end Batch

/-! ### Two signals of one satellite -/

/-- The default model without a gate. -/
noncomputable def ungated : GnssTightlyCoupledOptions := { innovationGateSigma := 0 }

/-- A receiver that trusts its clock and its position to a metre. -/
def unitEstimate : Estimate 17 := { covariance := 1 }

/-- Pseudoranges of a satellite overhead, each 15 m longer than predicted. -/
noncomputable def overheadEpoch (signals : List GnssSignal) : GnssTightlyCoupledEpoch where
  svObservations := signals.map (satelliteOverhead · 20000015)

/-- The rows of that epoch are copies of one row, with noise and with an innovation. -/
theorem epochRows_overhead (signals : List GnssSignal) :
    ∃ row : Kalman.Row (Fin 17), 0 < row.sigma ∧ row.innovation ≠ 0 ∧ row.h ≠ 0 ∧
      epochRows ungated { gnssClock := some 0 } makeTightlyCoupledLayout (overheadEpoch signals)
        { ltp := some equatorPlane } = signals.map fun _ => row := by
  let rcv := receiverOf { gnssClock := some 0 } equatorPlane 0
  have hrcv : rcv.posEcef = ![6378137, 0, 0] := receiverOf_equatorPlane _ rfl 0
  let row : Kalman.Row (Fin 17) :=
    pseudorangeRow ungated rcv makeTightlyCoupledLayout (satelliteOverhead .l1 20000015)
  refine ⟨row, ?_, ?_, ?_, ?_⟩
  · show (0 : ℝ) < 3
    norm_num
  · have hy : row.innovation = 20000015 - 20000000 := innovation_overhead ungated .l1 _ hrcv rfl _
    rw [hy]
    norm_num
  · intro h0
    have hone : row.h 15 = 1 := pseudorangeRow_clock ungated rcv _ rfl
    rw [h0] at hone
    exact zero_ne_one hone
  · have hsv : ∀ signal, svRows ungated rcv makeTightlyCoupledLayout
        (satelliteOverhead signal 20000015) = [row] := fun signal =>
      svRows_overhead ungated signal _ hrcv _
    show (signals.map (satelliteOverhead · 20000015)).flatMap
      (svRows ungated rcv makeTightlyCoupledLayout) = _
    induction signals with
    | nil => rfl
    | cons signal signals ih => rw [List.map_cons, List.flatMap_cons, ih, hsv]; rfl

/-- The satellite overhead, with a Doppler shift too. -/
noncomputable def movingOverhead (pseudorangeM dopplerHz : ℝ) : GnssTightlyCoupledObservation :=
  { satelliteOverhead .l1 pseudorangeM with
    raw := { signal := .l1, pseudorangeM, dopplerHz := some dopplerHz } }

/-- An entry of a row outside its block and its clock state. -/
theorem lineOfSightH_eq_zero {n : ℕ} {layout : StateLayout} (rcv : Receiver)
    (sv : GnssTightlyCoupledObservation) {id : StateSegmentId} {clock : ℕ} {i : Fin n}
    (hblock : ¬ ((layout.get id).offset ≤ i.val ∧ i.val < (layout.get id).offset + 3))
    (hclock : i.val ≠ (layout.get .gnssClock).offset + clock) :
    lineOfSightH rcv layout sv id clock i = 0 := by
  rw [lineOfSightH, setSegment_apply_of_outside (by omega), setSegment_apply_of_outside hblock]
  rfl

/-- A pseudorange sees position and clock bias, a Doppler shift velocity and clock drift. -/
theorem dopplerRow_dot_pseudorangeRow (options : GnssTightlyCoupledOptions) (rcv : Receiver)
    (sv : GnssTightlyCoupledObservation) (dopplerHz : ℝ) :
    (dopplerRow (n := 17) options rcv makeTightlyCoupledLayout sv dopplerHz).h
      ⬝ᵥ (pseudorangeRow options rcv makeTightlyCoupledLayout sv).h = 0 := by
  refine Finset.sum_eq_zero fun i _ => mul_eq_zero.mpr ?_
  by_cases hi : i.val < 3 ∨ i.val = 15
  · refine .inl (lineOfSightH_eq_zero rcv sv ?_ ?_)
    · show ¬ (3 ≤ i.val ∧ i.val < 3 + 3)
      omega
    · show i.val ≠ 15 + 1
      omega
  · refine .inr (lineOfSightH_eq_zero rcv sv ?_ ?_)
    · show ¬ (0 ≤ i.val ∧ i.val < 0 + 3)
      omega
    · show i.val ≠ 15 + 0
      omega

/-- With the pseudorange and the Doppler shift of one satellite, which do not see each other, the
    model does what the batch update does. -/
theorem sequential_eq_batch_iff_doppler :
    let sv := movingOverhead 20000015 5
    (epochRows (n := 17) ungated { gnssClock := some 0 } makeTightlyCoupledLayout
      { svObservations := [sv] } { ltp := some equatorPlane }).length = 2 ∧
    EqualsBatch ungated { gnssClock := some 0 } unitEstimate makeTightlyCoupledLayout
      { svObservations := [sv] } { ltp := some equatorPlane } := by
  intro sv
  let rcv := receiverOf { gnssClock := some 0 } equatorPlane 0
  have hrcv : rcv.posEcef = ![6378137, 0, 0] := receiverOf_equatorPlane _ rfl 0
  have husable : svUsable rcv sv := by
    refine ⟨rfl, rfl, ?_⟩
    rw [show geometricRange rcv sv = 20000000 from geometricRange_overhead .l1 20000015 hrcv]
    norm_num
  have hrows : epochRows (n := 17) ungated { gnssClock := some 0 } makeTightlyCoupledLayout
      { svObservations := [sv] } { ltp := some equatorPlane }
      = [pseudorangeRow ungated rcv makeTightlyCoupledLayout sv,
         dopplerRow ungated rcv makeTightlyCoupledLayout sv 5] := by
    show [sv].flatMap (svRows ungated rcv makeTightlyCoupledLayout) = _
    rw [List.flatMap_singleton, svRows, if_pos husable]
    rfl
  have hpseudorange :
      0 < (pseudorangeRow (n := 17) ungated rcv makeTightlyCoupledLayout sv).sigma := by
    show (0 : ℝ) < 3
    norm_num
  refine ⟨by rw [hrows]; rfl, ?_⟩
  refine (sequential_eq_batch_iff (le_refl 0) .one rfl ?_).1.mpr ?_
  · rw [hrows]
    simp only [List.forall_mem_cons, List.not_mem_nil, false_imp_iff, implies_true, and_true]
    refine ⟨hpseudorange, ?_⟩
    show (0 : ℝ) < 0.5
    norm_num
  · rw [leftOutOfEpoch, hrows, show unitEstimate.covariance = 1 from rfl,
      Kalman.leftOut_pair .one hpseudorange, Kalman.scalarGain, one_mulVec, dotProduct_smul,
      dopplerRow_dot_pseudorangeRow, smul_zero, mul_zero, zero_smul]

/-- **The second signal.** Its innovation leaves out what the first has corrected. -/
theorem sequential_ne_batch :
    (∀ row ∈ epochRows (n := 17) ungated { gnssClock := some 0 } makeTightlyCoupledLayout
      (overheadEpoch [.l1, .l5]) { ltp := some equatorPlane }, 0 < row.sigma) ∧
    ungated.innovationGateSigma ≤ 0 ∧ unitEstimate.covariance.PosSemidef ∧
    unitEstimate.errorState = 0 ∧
    ¬ EqualsBatch ungated { gnssClock := some 0 } unitEstimate makeTightlyCoupledLayout
      (overheadEpoch [.l1, .l5]) { ltp := some equatorPlane } := by
  obtain ⟨row, hσ, hy, hh, hrows⟩ := epochRows_overhead [.l1, .l5]
  have hall : ∀ row' ∈ [row, row], 0 < row'.sigma := by simpa using hσ
  have hP : unitEstimate.covariance.PosSemidef := .one
  refine ⟨by rw [hrows]; exact hall, le_refl 0, hP, rfl, fun hequal => ?_⟩
  have hsum := hequal.1
  rw [gnssTightlyCoupledApply_fst, hrows, List.map_cons, List.map_cons, List.map_nil,
    rowsUpdate_eq (le_refl 0) hP hall] at hsum
  have hsum' : (0 : Fin 17 → ℝ) + Kalman.sumGains unitEstimate.covariance [row, row]
      = Kalman.batchCorrection unitEstimate.covariance [row, row] := hsum
  have hzero : Kalman.leftOut unitEstimate.covariance [] [row, row] = 0 :=
    (Kalman.sumGains_eq_iff hP hall).mp (by rwa [zero_add] at hsum')
  have hPh : unitEstimate.covariance *ᵥ row.h ≠ 0 := by
    show (1 : Matrix (Fin 17) (Fin 17) ℝ) *ᵥ row.h ≠ 0
    rwa [one_mulVec]
  exact Kalman.leftOut_pair_ne hP hσ hy hPh hzero

end FalconGuide
