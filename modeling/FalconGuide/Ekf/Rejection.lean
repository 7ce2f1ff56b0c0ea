import FalconGuide.Ekf.Covariance
import FalconGuide.Ekf.GnssRows

namespace FalconGuide

open Lib Matrix

/-!
# Rejected measurements

A measurement that is not accepted should leave the estimate as it found it.  One model breaks
this: `GnssTightlyCoupled` updates in place with every row that passes, and only afterwards counts
whether enough pseudoranges did.

* `epochPassed` — how many pseudoranges of an epoch pass, each at the covariance the rows before it
  leave;
* `AppliedInPart` — some row passes, but too few pseudoranges;
* `gnssTightlyCoupledApply_unchanged` — every other epoch that is not accepted changes nothing;
* `EkfEstimator.rejection_unchanged` — so it is in every run without epochs applied in part;
* `EkfEstimator.rejected_epoch_applied` — an epoch with one satellite.
-/

/-! ### Epochs applied in part -/

section Part

variable {n : ℕ} (options : GnssTightlyCoupledOptions) (rcv : Receiver) (layout : StateLayout)

open Classical in
/-- The covariance after a row. -/
noncomputable def rowCov (P : Matrix (Fin n) (Fin n) ℝ) (row : Kalman.Row (Fin n)) :
    Matrix (Fin n) (Fin n) ℝ :=
  if rowPasses options P row then
    symmetrizeCovariance (Kalman.scalarJoseph P row (Kalman.scalarGain P row))
  else P

open Classical in
/-- Whether the pseudorange of a satellite passes, as the number it adds to the count. -/
noncomputable def pseudorangePasses (P : Matrix (Fin n) (Fin n) ℝ)
    (sv : GnssTightlyCoupledObservation) : ℕ :=
  if svUsable rcv sv ∧ rowPasses options P (pseudorangeRow options rcv layout sv) then 1 else 0

/-- How many pseudoranges pass. -/
noncomputable def passedPseudoranges (P : Matrix (Fin n) (Fin n) ℝ) :
    List GnssTightlyCoupledObservation → ℕ
  | [] => 0
  | sv :: svs =>
    pseudorangePasses options rcv layout P sv
      + passedPseudoranges ((svRows options rcv layout sv).foldl (rowCov options) P) svs

variable {options rcv layout} {est : Estimate n}

/-- The covariance that `rowUpdate` leaves. -/
theorem rowUpdate_covariance (row : Kalman.Row (Fin n)) :
    (rowUpdate options est row).1.covariance = rowCov options est.covariance row := by
  by_cases h : rowPasses options est.covariance row
  · rw [rowUpdate_of_passes h, rowCov, if_pos h]
  · rw [rowUpdate_of_not_passes h, rowCov, if_neg h]

/-- The covariance that some rows leave. -/
theorem rowsUpdate_covariance (rows : List (Kalman.Row (Fin n))) :
    (rowsUpdate options est rows).covariance
      = rows.foldl (rowCov options) est.covariance := by
  induction rows generalizing est with
  | nil => rfl
  | cons row rows ih =>
    rw [List.foldl_cons, ← rowUpdate_covariance]
    exact ih

/-- The flag of `rowUpdate`. -/
theorem rowUpdate_snd (row : Kalman.Row (Fin n)) :
    (rowUpdate options est row).2 = true ↔ rowPasses options est.covariance row := by
  by_cases h : rowPasses options est.covariance row
  · simp [rowUpdate_of_passes h, h]
  · simp [rowUpdate_of_not_passes h, h]

/-- A satellite counts if its pseudorange passes. -/
theorem svUpdate_snd (sv : GnssTightlyCoupledObservation) (k : ℕ) :
    (svUpdate options rcv layout sv (est, k)).2
      = k + pseudorangePasses options rcv layout est.covariance sv := by
  unfold pseudorangePasses
  by_cases husable : svUsable rcv sv
  · have hcount : (svUpdate options rcv layout sv (est, k)).2
        = if (rowUpdate options est (pseudorangeRow options rcv layout sv)).2 then k + 1
          else k := by
      unfold svUpdate
      rw [if_pos husable]
      cases sv.raw.dopplerHz with
      | none => rfl
      | some dopplerHz => rfl
    have hflag : _ ↔ rowPasses options est.covariance _ :=
      rowUpdate_snd (pseudorangeRow options rcv layout sv)
    rw [hcount]
    by_cases hpass : rowPasses options est.covariance (pseudorangeRow options rcv layout sv)
    · rw [if_pos (hflag.mpr hpass), if_pos ⟨husable, hpass⟩]
    · rw [if_neg (fun h => hpass (hflag.mp h)), if_neg (fun h => hpass h.2)]
      rfl
  · unfold svUpdate
    rw [if_neg husable, if_neg (fun h => husable h.1)]
    rfl

/-- The count after all satellites. -/
theorem foldl_svUpdate_snd (svs : List GnssTightlyCoupledObservation) (k : ℕ) :
    (svs.foldl (fun state sv => svUpdate options rcv layout sv state) (est, k)).2
      = k + passedPseudoranges options rcv layout est.covariance svs := by
  induction svs generalizing est k with
  | nil => rfl
  | cons sv svs ih =>
    have hfst : (svUpdate options rcv layout sv (est, k)).1.covariance
        = (svRows options rcv layout sv).foldl (rowCov options) est.covariance := by
      rw [svUpdate_fst, rowsUpdate_covariance]
    rw [List.foldl_cons, ← Prod.mk.eta (p := svUpdate options rcv layout sv (est, k)), ih, hfst,
      svUpdate_snd, passedPseudoranges, add_assoc]

/-- No more pseudoranges pass than there are satellites. -/
theorem passedPseudoranges_le (P : Matrix (Fin n) (Fin n) ℝ)
    (svs : List GnssTightlyCoupledObservation) :
    passedPseudoranges options rcv layout P svs ≤ svs.length := by
  induction svs generalizing P with
  | nil => exact le_refl 0
  | cons sv svs ih =>
    have hrest := ih ((svRows options rcv layout sv).foldl (rowCov options) P)
    have hone : pseudorangePasses options rcv layout P sv ≤ 1 := by
      unfold pseudorangePasses
      split <;> omega
    rw [passedPseudoranges, List.length_cons]
    omega

/-- Rows of which none passes change nothing. -/
theorem rowsUpdate_of_not_passes {rows : List (Kalman.Row (Fin n))}
    (h : ∀ row ∈ rows, ¬ rowPasses options est.covariance row) :
    rowsUpdate options est rows = est := by
  induction rows with
  | nil => rfl
  | cons row rows ih =>
    have hrow : ¬ rowPasses options est.covariance row := h row (by simp)
    have hrows : ∀ row' ∈ rows, ¬ rowPasses options est.covariance row' := fun row' hmem =>
      h row' (by simp [hmem])
    show rowsUpdate options (rowUpdate options est row).1 rows = est
    rw [rowUpdate_of_not_passes hrow]
    exact ih hrows

end Part

section Epoch

variable {n : ℕ} (options : GnssTightlyCoupledOptions) (nominal : NominalState)
  (P : Matrix (Fin n) (Fin n) ℝ) (layout : StateLayout) (epoch : GnssTightlyCoupledEpoch)
  (context : UpdateContext)

/-- How many pseudoranges of an epoch pass. -/
noncomputable def epochPassed : ℕ :=
  match context.ltp, nominal.gnssClock with
  | some ltp, some clock =>
    passedPseudoranges options (receiverOf nominal ltp clock) layout P epoch.svObservations
  | _, _ => 0

/-- Some row of an epoch passes, but too few pseudoranges do. -/
def AppliedInPart : Prop :=
  (∃ row ∈ epochRows options nominal layout epoch context, rowPasses options P row) ∧
    epochPassed options nominal P layout epoch context < options.minSatellites

variable {options nominal P layout epoch context} {est : Estimate n}

/-- An epoch with rows is accepted if enough pseudoranges pass. -/
theorem gnssTightlyCoupledApply_snd
    (h : epochRows (n := n) options nominal layout epoch context ≠ []) :
    (gnssTightlyCoupledApply options nominal est layout epoch context).2
      = if epochPassed options nominal est.covariance layout epoch context < options.minSatellites
        then .rejected else .accepted := by
  unfold epochRows at h
  unfold gnssTightlyCoupledApply epochPassed
  cases hltp : context.ltp with
  | none => simp [hltp] at h
  | some ltp =>
    cases hclock : nominal.gnssClock with
    | none => simp [hltp, hclock] at h
    | some clock =>
      simp only [hltp, hclock, ne_eq, ite_eq_right_iff, not_forall] at h
      obtain ⟨⟨hhas, hvalid⟩, hrows⟩ := h
      have hsvs : epoch.svObservations ≠ [] := fun hnil => hrows (by rw [hnil]; rfl)
      simp only [hhas, hvalid, List.isEmpty_iff, hsvs, Bool.not_true, Bool.false_eq_true, if_false,
        ne_eq, not_true_eq_false]
      rw [foldl_svUpdate_snd, zero_add]

/-- **`GnssTightlyCoupled`.** An epoch that is not applied in part changes nothing unless it is
    accepted. -/
theorem gnssTightlyCoupledApply_unchanged
    (h : ¬ AppliedInPart options nominal est.covariance layout epoch context)
    (hresult : (gnssTightlyCoupledApply options nominal est layout epoch context).2 ≠ .accepted) :
    (gnssTightlyCoupledApply options nominal est layout epoch context).1 = est := by
  rw [gnssTightlyCoupledApply_fst]
  refine rowsUpdate_of_not_passes fun row hmem hpasses => ?_
  have hrows : epochRows (n := n) options nominal layout epoch context ≠ [] :=
    List.ne_nil_of_mem hmem
  have henough : ¬ epochPassed options nominal est.covariance layout epoch context
      < options.minSatellites := fun hlt => h ⟨⟨row, hmem, hpasses⟩, hlt⟩
  rw [gnssTightlyCoupledApply_snd hrows, if_neg henough] at hresult
  exact hresult rfl

end Epoch

/-- **Sixteen models.** A model other than `GnssTightlyCoupled`, or one that does not apply the
    epoch in part, changes nothing unless it accepts. -/
theorem apply_unchanged {n : ℕ} {eigen : Eigen} {nominal : NominalState} {est : Estimate n}
    {layout : StateLayout} {context : UpdateContext} {model : MeasurementModel}
    {m : SensorMeasurement}
    (hpart : ∀ o epoch, model = .gnssTightlyCoupled o → m = .gnssTightlyCoupledEpoch epoch →
      ¬ AppliedInPart o nominal est.covariance layout epoch context)
    (hresult : (model.apply eigen nominal est layout context m).2 ≠ .accepted) :
    (model.apply eigen nominal est layout context m).1 = est := by
  by_cases hmodel : ∃ o, model = .gnssTightlyCoupled o
  · obtain ⟨o, rfl⟩ := hmodel
    cases m with
    | gnssTightlyCoupledEpoch epoch =>
      exact gnssTightlyCoupledApply_unchanged (hpart o epoch rfl rfl) hresult
    | _ => rfl
  · have hother : ∀ o, model ≠ .gnssTightlyCoupled o := fun o h => hmodel ⟨o, h⟩
    exact (MeasurementModel.apply_applied hother m).unchanged hresult

/-! ### Runs -/

namespace EkfEstimator

variable {eigen : Eigen} {options : EkfOptions} {e e' : EkfEstimator options}

/-- A call that would apply an epoch in part: once the estimator has propagated to its time, it
    goes to a `GnssTightlyCoupled` model that does. -/
def PartialEpoch (e : EkfEstimator options) : Call → Prop
  | .addMeasurement (.gnssTightlyCoupledEpoch epoch) =>
    ∃ (e₁ : EkfEstimator options) (o : GnssTightlyCoupledOptions),
      e.initialised = true ∧ e.propagateTo epoch.timestamp = some e₁ ∧
      e.measurementModels.find? (·.canHandle (.gnssTightlyCoupledEpoch epoch))
        = some (.gnssTightlyCoupled o) ∧
      AppliedInPart o e₁.state.nominal e₁.state.estimate.covariance options.buildLayout epoch
        { ltp := e₁.localTangentPlane }
  | _ => False

/-- No correction is pending. -/
theorem keptByPropagation_errorState (layout : StateLayout) :
    KeptByPropagation options layout fun est => est.errorState = 0 :=
  fun _ _ _ _ h => h

/-- A dispatch that is not accepted leaves the estimator as it was. -/
theorem dispatched_unchanged {e₁ : EkfEstimator options} {m : SensorMeasurement}
    {report : MeasurementUpdateReport} (hpart : ¬ e.PartialEpoch (.addMeasurement m))
    (hinit : e.initialised = true) (hprop : e.propagateTo m.timestamp = some e₁)
    (h : Dispatched eigen e₁ m e' report) (hresult : report.result ≠ .accepted) : e' = e₁ := by
  have hsame := propagateTo_sameSetup hprop
  cases h with
  | unmatched => rfl
  | accepted => exact absurd rfl hresult
  | refused model estimate result hfind happly hne =>
    have hunchanged : (e₁.applyModel eigen model m).1 = e₁.state.estimate := by
      refine apply_unchanged ?_ (by rw [← applyModel, happly]; exact hne)
      rintro o epoch rfl rfl hin
      rw [hsame.measurementModels] at hfind
      exact hpart ⟨e₁, o, hinit, hprop, hfind, hin⟩
    rw [happly] at hunchanged
    have hestimate : estimate = e₁.state.estimate := hunchanged
    rw [hestimate]

/-- The error state after one call. -/
theorem errorState_of_step {call : Call} (h : Step eigen e call e')
    (hpart : ¬ e.PartialEpoch call) (hx : e.state.estimate.errorState = 0) :
    e'.state.estimate.errorState = 0 := by
  have hkept : KeptByPropagation options options.buildLayout fun est => est.errorState = 0 :=
    keptByPropagation_errorState _
  cases h with
  | registerMeasurementModel model => exact hx
  | addMeasurement _ m report hadd =>
    cases added_of_addMeasurement hadd with
    | buffered imu imuBuffer result => exact hx
    | initialise gnss modelName =>
      rcases tryInitialiseFromGnss_cases e gnss with heq | ⟨ltp, nominal, -, heq⟩
      · rwa [heq]
      · rw [heq]
    | early => exact hx
    | dispatched _ e₁ _ _ hinit himu hprop hdispatch =>
      have hx₁ : e₁.state.estimate.errorState = 0 := propagateTo_keeps hkept hprop hx
      by_cases hresult : report.result = .accepted
      · cases hdispatch with
        | unmatched => cases hresult
        | accepted => rfl
        | refused => exact absurd hresult ‹_›
      · rw [dispatched_unchanged hpart hinit hprop hdispatch hresult]
        exact hx₁
  | processUntil _ timestamp result hprocess =>
    rcases processUntil_cases hprocess with rfl | hprop
    · exact hx
    · exact propagateTo_keeps hkept hprop hx
  | reset => rfl

/-- **Rejections change nothing.** In a run without epochs applied in part, no correction is ever
    left pending in the error state, and a measurement that is not accepted leaves the estimator
    as `PropagateTo` left it.  No model but `GnssTightlyCoupled` depends on the condition. -/
theorem rejection_unchanged (eigen : Eigen) (options : EkfOptions) :
    (∀ e, ((system eigen options).guarded fun e call => ¬ e.PartialEpoch call).Reachable e →
      e.state.estimate.errorState = 0 ∧
      ∀ m e' report, e.initialised = true → m.isImu = false →
        ¬ e.PartialEpoch (.addMeasurement m) → e.addMeasurement eigen m = some (e', report) →
        report.result ≠ .accepted → e.propagateTo m.timestamp = some e') ∧
    (∀ (n : ℕ) (nominal : NominalState) (est : Estimate n) (layout : StateLayout)
      (context : UpdateContext) (model : MeasurementModel) (m : SensorMeasurement),
      (∀ o epoch, model = .gnssTightlyCoupled o → m = .gnssTightlyCoupledEpoch epoch →
        ¬ AppliedInPart o nominal est.covariance layout epoch context) →
      (model.apply eigen nominal est layout context m).2 ≠ .accepted →
      (model.apply eigen nominal est layout context m).1 = est) := by
  refine ⟨fun e he => ⟨?_, ?_⟩, ?_⟩
  · refine he.invariant (I := fun e => e.state.estimate.errorState = 0) ?_ ?_
    · rintro e rfl
      rfl
    · rintro e call e' - hx ⟨hpart, hstep⟩
      exact errorState_of_step hstep hpart hx
  · intro m e' report hinit himu hpart hadd hresult
    cases added_of_addMeasurement hadd with
    | buffered => cases himu
    | initialise _ _ hnot => simp [hinit] at hnot
    | early _ hnot => simp [hinit] at hnot
    | dispatched _ e₁ _ _ _ _ hprop hdispatch =>
      rw [dispatched_unchanged hpart hinit hprop hdispatch hresult]
      exact hprop
  · intro n nominal est layout context model m hpart hresult
    exact apply_unchanged hpart hresult

/-! ### An epoch with one satellite -/

/-- Options with a clock. -/
noncomputable def clockOptions : EkfOptions :=
  { deadReckoningThresholdS := 1, enableGnssClockState := true }

/-- A fix where the equator meets the prime meridian. -/
def equatorFix : GnssSolution := { positionEcefM := ![6378137, 0, 0], fixType := .single }

/-- An estimator with the default tightly coupled model, initialised by that fix. -/
noncomputable def tightEstimator : EkfEstimator clockOptions :=
  ((({} : EkfEstimator clockOptions).registerMeasurementModel
    (.gnssTightlyCoupled {})).tryInitialiseFromGnss equatorFix).1

/-- One pseudorange, 5 m longer than predicted. -/
noncomputable def loneEpoch : GnssTightlyCoupledEpoch where
  svObservations := [satelliteOverhead .l1 20000005]

/-- A variance that is decoupled from all others. -/
theorem mulVec_of_decoupled {n : ℕ} {P : Matrix (Fin n) (Fin n) ℝ} {i : Fin n}
    (h : Decoupled P i.val 1) (v : Fin n → ℝ) : (P *ᵥ v) i = P i i * v i := by
  rw [mulVec, dotProduct]
  refine Finset.sum_eq_single i (fun j _ hj => ?_) fun hi => absurd (Finset.mem_univ i) hi
  rw [h i j (by omega) (by omega), zero_mul]

/-- The initial variance of the clock bias. -/
theorem initialCovariance_clock {n : ℕ} {options : EkfOptions}
    (hclock : options.enableGnssClockState = true) (R : Mat3) (gnss : GnssSolution) {i : Fin n}
    (hi : i.val = 15) : initialCovariance options.buildLayout R gnss i i = 10000 := by
  unfold initialCovariance
  simp only [EkfOptions.buildLayout_has_gnssClock, hclock, if_true,
    EkfOptions.buildLayout_gnssClock options hclock, setEntry]
  rw [setBlock, dif_neg (by omega), setBlock, dif_pos (by omega)]
  norm_num

/-- The clock bias has an index. -/
theorem clock_lt : 15 < clockOptions.buildLayout.totalSize := by decide

theorem tightEstimator_nominal : tightEstimator.state.nominal.positionEnuM = 0 ∧
    tightEstimator.state.nominal.gnssClock = some 0 := ⟨rfl, rfl⟩

theorem tightEstimator_ltp : tightEstimator.localTangentPlane = some equatorPlane := by
  show some (LocalTangentPlane.make (ecefToLla ![6378137, 0, 0])) = _
  rw [ecefToLla_equator]
  rfl

theorem tightEstimator_covariance : tightEstimator.state.estimate.errorState = 0 ∧
    BlockDiagonal tightEstimator.state.estimate.covariance ∧
    tightEstimator.state.estimate.covariance ⟨15, clock_lt⟩ ⟨15, clock_lt⟩ = 10000 := by
  let R := (LocalTangentPlane.make (ecefToLla equatorFix.positionEcefM)).ecefToEnuRotation
  have hcov : tightEstimator.state.estimate.covariance
      = initialCovariance clockOptions.buildLayout R equatorFix := rfl
  rw [hcov]
  exact ⟨rfl, blockDiagonal_initialCovariance .zero .zero, initialCovariance_clock rfl R _ rfl⟩

/-- The one row of the epoch, which passes. -/
theorem loneEpoch_rows :
    ∃ row, epochRows {} tightEstimator.state.nominal clockOptions.buildLayout loneEpoch
        { ltp := tightEstimator.localTangentPlane } = [row] ∧
      row.h ⟨15, clock_lt⟩ = 1 ∧ row.innovation = 5 ∧
      rowPasses {} tightEstimator.state.estimate.covariance row := by
  obtain ⟨hpos, hclk⟩ := tightEstimator_nominal
  let rcv := receiverOf tightEstimator.state.nominal equatorPlane 0
  have hrcv : rcv.posEcef = ![6378137, 0, 0] := receiverOf_equatorPlane _ hpos 0
  have hP := tightEstimator_covariance.2.1.posSemidef
  refine ⟨pseudorangeRow {} rcv clockOptions.buildLayout (satelliteOverhead .l1 20000005),
    ?_, ?_, ?_, ?_⟩
  · unfold epochRows
    rw [tightEstimator_ltp, hclk]
    show List.flatMap (svRows {} rcv clockOptions.buildLayout) loneEpoch.svObservations = _
    rw [loneEpoch, List.flatMap_singleton]
    exact svRows_overhead {} .l1 20000005 hrcv _
  · exact pseudorangeRow_clock {} rcv _ rfl
  · rw [innovation_overhead {} .l1 20000005 hrcv rfl]
    norm_num
  · have hσ : (0 : ℝ) < 3 := by norm_num
    refine ⟨Kalman.scalarVar_pos hP hσ, .inr ?_⟩
    -- the variance is at least that of the noise, so the gate is at least 9 m
    rw [innovation_overhead {} .l1 20000005 hrcv rfl]
    have hquad : 0 ≤ (pseudorangeRow {} rcv clockOptions.buildLayout
        (satelliteOverhead .l1 20000005)).h ⬝ᵥ (tightEstimator.state.estimate.covariance *ᵥ
        (pseudorangeRow {} rcv clockOptions.buildLayout (satelliteOverhead .l1 20000005)).h) := by
      simpa using hP.dotProduct_mulVec_nonneg _
    have hvar : (3 : ℝ) ≤ √(Kalman.scalarVar tightEstimator.state.estimate.covariance
        (pseudorangeRow {} rcv clockOptions.buildLayout (satelliteOverhead .l1 20000005))) := by
      refine Real.le_sqrt_of_sq_le ?_
      show (3 : ℝ) ^ 2 ≤ _ + (3 : ℝ) ^ 2
      linarith
    show |(20000005 : ℝ) - 20000000| ≤ 3 * _
    rw [abs_of_nonneg (by norm_num)]
    linarith

/-- What `Apply` makes of the epoch: it rejects it, and moves the clock bias. -/
theorem loneEpoch_apply :
    (tightEstimator.applyModel .exact (.gnssTightlyCoupled {})
      (.gnssTightlyCoupledEpoch loneEpoch)).2 = .rejected ∧
    (tightEstimator.applyModel .exact (.gnssTightlyCoupled {})
      (.gnssTightlyCoupledEpoch loneEpoch)).1.errorState ⟨15, clock_lt⟩ ≠ 0 := by
  obtain ⟨row, hrows, hone, hy, hpass⟩ := loneEpoch_rows
  obtain ⟨hx, hblocks, hvar⟩ := tightEstimator_covariance
  constructor
  · show (gnssTightlyCoupledApply {} _ _ _ _ _).2 = _
    rw [gnssTightlyCoupledApply_snd (by rw [hrows]; simp), if_pos]
    refine lt_of_le_of_lt (b := 1) ?_ (by decide)
    unfold epochPassed
    rw [tightEstimator_ltp, tightEstimator_nominal.2]
    exact passedPseudoranges_le _ _
  · show (gnssTightlyCoupledApply {} _ _ _ _ _).1.errorState _ ≠ 0
    rw [gnssTightlyCoupledApply_fst, hrows]
    show (rowUpdate {} _ row).1.errorState _ ≠ 0
    rw [rowUpdate_of_passes hpass]
    have hdec : Decoupled tightEstimator.state.estimate.covariance 15 1 :=
      hblocks.decoupled (15, 1) (by decide)
    show (tightEstimator.state.estimate.errorState + row.innovation •
      (Kalman.scalarVar _ row)⁻¹ • (tightEstimator.state.estimate.covariance *ᵥ row.h))
        ⟨15, clock_lt⟩ ≠ 0
    rw [hx, zero_add, Pi.smul_apply, Pi.smul_apply, mulVec_of_decoupled hdec, hvar, hone, hy]
    have hS := hpass.1
    have hinv : (Kalman.scalarVar tightEstimator.state.estimate.covariance row)⁻¹ ≠ 0 :=
      inv_ne_zero hS.ne'
    simpa using hinv

/-- **A rejected epoch that is applied.** The lone pseudorange is used, the epoch is rejected, and
    the correction stays in the error state. -/
theorem rejected_epoch_applied :
    (system .exact clockOptions).Reachable tightEstimator ∧
    ∃ e' report,
      tightEstimator.addMeasurement .exact (.gnssTightlyCoupledEpoch loneEpoch)
        = some (e', report) ∧
      report.result = .rejected ∧ e'.state.estimate.errorState ≠ 0 := by
  constructor
  · refine .step (l := .addMeasurement (.gnssSolution equatorFix)) (.step (.init rfl)
      (.registerMeasurementModel _ (.gnssTightlyCoupled {}))) ?_
    exact .addMeasurement _ _ _ _ rfl
  · have hadd : tightEstimator.addMeasurement .exact (.gnssTightlyCoupledEpoch loneEpoch)
        = some (tightEstimator.dispatch .exact (.gnssTightlyCoupledEpoch loneEpoch)) := rfl
    have hfound : tightEstimator.measurementModels.find?
        (·.canHandle (.gnssTightlyCoupledEpoch loneEpoch)) = some (.gnssTightlyCoupled {}) := rfl
    have hcase := dispatched_dispatch .exact tightEstimator (.gnssTightlyCoupledEpoch loneEpoch)
    obtain ⟨hrejected, hmoved⟩ := loneEpoch_apply
    rcases hd : tightEstimator.dispatch .exact (.gnssTightlyCoupledEpoch loneEpoch)
      with ⟨e', report⟩
    rw [hd] at hadd hcase
    refine ⟨e', report, hadd, ?_⟩
    cases hcase with
    | unmatched hfind => simp [hfound] at hfind
    | accepted model estimate hfind happly =>
      cases hfound.symm.trans hfind
      rw [happly] at hrejected
      cases hrejected
    | refused model estimate result hfind happly =>
      cases hfound.symm.trans hfind
      rw [happly] at hrejected hmoved
      exact ⟨hrejected, fun h0 => hmoved (congrFun h0 _)⟩

end EkfEstimator

end FalconGuide
