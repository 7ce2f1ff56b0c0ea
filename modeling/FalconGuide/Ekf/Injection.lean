import FalconGuide.Core.Rotations
import FalconGuide.Core.Segments
import FalconGuide.Ekf.Estimator

namespace FalconGuide

open Lib Matrix

/-!
# What `InjectErrorAndReset` keeps of a correction

The error state is folded into the nominal state and set to zero.  The nominal state has no field
for the bias of the barometer, and its clock is optional.

* `TotalEstimate`, `EkfState.total` — nominal state and error state taken together, for every
  segment of the layout;
* `barometerAltitude` — the altitude that `Barometer::Apply` predicts;
* `injection_keeps_iff` — the main result: nothing is lost exactly if the error state has no
  correction for which there is no nominal field.
-/

/-! ### The total estimate -/

/-- What the filter estimates: a value for each segment of the layout. -/
@[ext]
structure TotalEstimate where
  position : Vec3
  velocity : Vec3
  attitude : Quat
  accelBias : Vec3
  gyroBias : Vec3
  gnssClock : Option (Fin 2 → ℝ)
  baroBias : Option ℝ

/-- Nominal state and error state taken together; what has no nominal value counts from zero. -/
noncomputable def EkfState.total {layout : StateLayout} (s : EkfState layout) : TotalEstimate where
  position := s.nominal.positionEnuM + segment s.estimate.errorState (layout.get .position).offset 3
  velocity :=
    s.nominal.velocityEnuMps + segment s.estimate.errorState (layout.get .velocity).offset 3
  attitude := Quat.normalized (s.nominal.orientationBodyToEnu
    * expMapSo3 (segment s.estimate.errorState (layout.get .attitude).offset 3))
  accelBias :=
    s.nominal.accelBiasMps2 + segment s.estimate.errorState (layout.get .accelBias).offset 3
  gyroBias :=
    s.nominal.gyroBiasRadps + segment s.estimate.errorState (layout.get .gyroBias).offset 3
  gnssClock :=
    if layout.has .gnssClock then
      some (s.nominal.gnssClock.getD 0
        + segment s.estimate.errorState (layout.get .gnssClock).offset 2)
    else none
  baroBias :=
    if layout.has .baroBias then
      some (segment s.estimate.errorState (layout.get .baroBias).offset 1 (Fin.last 0))
    else none

/-- `h_pred` of `Barometer::Apply`. -/
noncomputable def barometerAltitude {layout : StateLayout} (s : EkfState layout) : ℝ :=
  if layout.has .baroBias then
    s.nominal.positionEnuM 2
      + segment s.estimate.errorState (layout.get .baroBias).offset 1 (Fin.last 0)
  else s.nominal.positionEnuM 2

/-- `H` of `Barometer::Apply`. -/
def barometerRow (n : ℕ) (layout : StateLayout) : Matrix (Fin 1) (Fin n) ℝ :=
  let H : Matrix (Fin 1) (Fin n) ℝ := setEntry 0 0 ((layout.get .position).offset + 2) 1
  if layout.has .baroBias then setEntry H 0 (layout.get .baroBias).offset 1 else H

/-- The innovation of a barometer is taken against `barometerAltitude`. -/
theorem barometerApply_eq {layout : StateLayout} {s : EkfState layout} {eigen : Eigen}
    {options : BarometerOptions} {baro : BarometerMeasurement} {z sigma : ℝ}
    (hvalid : baro.validity = .valid) (hobs : barometerObservation options baro = some (z, sigma)) :
    barometerApply eigen options s.nominal s.estimate layout baro
      = ekfUpdate eigen s.estimate (barometerRow _ layout) (fun _ => z - barometerAltitude s)
          (isotropicNoise 1 sigma) options.innovationGate := by
  rw [barometerApply, if_neg (not_not_intro hvalid), hobs]
  rfl

/-! ### Segment by segment -/

section Segments

variable {options : EkfOptions} (s : EkfState options.buildLayout)

/-- Nothing is left of the error state, so the total is the nominal value. -/
theorem total_position_inject : (injectErrorAndReset s).total.position = s.total.position := by
  show (injectedNominal _ _ _).positionEnuM + segment 0 _ 3 = _
  rw [segment_zero, add_zero]
  rfl

theorem total_velocity_inject : (injectErrorAndReset s).total.velocity = s.total.velocity := by
  show (injectedNominal _ _ _).velocityEnuMps + segment 0 _ 3 = _
  rw [segment_zero, add_zero]
  rfl

theorem total_accelBias_inject : (injectErrorAndReset s).total.accelBias = s.total.accelBias := by
  show (injectedNominal _ _ _).accelBiasMps2 + segment 0 _ 3 = _
  rw [segment_zero, add_zero]
  rfl

theorem total_gyroBias_inject : (injectErrorAndReset s).total.gyroBias = s.total.gyroBias := by
  show (injectedNominal _ _ _).gyroBiasRadps + segment 0 _ 3 = _
  rw [segment_zero, add_zero]
  rfl

/-- The attitude is normalised twice. -/
theorem total_attitude_inject : (injectErrorAndReset s).total.attitude = s.total.attitude := by
  show Quat.normalized ((injectedNominal _ _ _).orientationBodyToEnu * expMapSo3 (segment 0 _ 3))
    = _
  rw [segment_zero, expMapSo3_zero, mul_one]
  exact Quat.normalized_normalized _

/-- The clock takes its correction over only where it has a nominal value. -/
theorem total_gnssClock_inject :
    (injectErrorAndReset s).total.gnssClock = s.total.gnssClock ↔
      (options.enableGnssClockState = true → s.nominal.gnssClock = none →
        segment s.estimate.errorState (options.buildLayout.get .gnssClock).offset 2 = 0) := by
  let dx := segment s.estimate.errorState (options.buildLayout.get .gnssClock).offset 2
  by_cases hclock : options.enableGnssClockState = true
  · have hhas : options.buildLayout.has .gnssClock = true := by
      rw [EkfOptions.buildLayout_has_gnssClock, hclock]
    have hbefore : s.total.gnssClock = some (s.nominal.gnssClock.getD 0 + dx) := if_pos hhas
    have hafter : (injectErrorAndReset s).total.gnssClock
        = some ((s.nominal.gnssClock.map (· + dx)).getD 0) := by
      refine (if_pos hhas).trans ?_
      show some ((injectedNominal _ _ _).gnssClock.getD 0 + segment 0 _ 2) = _
      rw [segment_zero, add_zero, injectedNominal, if_pos hhas]
    rw [hbefore, hafter, Option.some_inj]
    cases hnominal : s.nominal.gnssClock with
    | none => simp [hclock, eq_comm (a := (0 : Fin 2 → ℝ)), dx]
    | some clock => simp
  · have hhas : ¬ options.buildLayout.has .gnssClock = true := by
      rwa [EkfOptions.buildLayout_has_gnssClock]
    have hafter : (injectErrorAndReset s).total.gnssClock = none := if_neg hhas
    have hbefore : s.total.gnssClock = none := if_neg hhas
    simp [hafter, hbefore, hclock]

theorem total_baroBias (hbaro : options.enableBaroBiasState = true) :
    s.total.baroBias
      = some (segment s.estimate.errorState (options.buildLayout.get .baroBias).offset 1 0) :=
  if_pos (by rw [EkfOptions.buildLayout_has_baroBias, hbaro])

/-- The bias of the barometer is set to zero. -/
theorem total_baroBias_of_inject (hbaro : options.enableBaroBiasState = true) :
    (injectErrorAndReset s).total.baroBias = some 0 := by
  rw [total_baroBias _ hbaro]
  show some (segment 0 _ 1 0) = _
  rw [segment_zero, Pi.zero_apply]

/-- So it keeps its value only if that was zero. -/
theorem total_baroBias_inject :
    (injectErrorAndReset s).total.baroBias = s.total.baroBias ↔
      (options.enableBaroBiasState = true →
        segment s.estimate.errorState (options.buildLayout.get .baroBias).offset 1 0 = 0) := by
  by_cases hbaro : options.enableBaroBiasState = true
  · rw [total_baroBias_of_inject s hbaro, total_baroBias s hbaro, Option.some_inj]
    simp [hbaro, eq_comm]
  · have hhas : ¬ options.buildLayout.has .baroBias = true := by
      rwa [EkfOptions.buildLayout_has_baroBias]
    have hafter : (injectErrorAndReset s).total.baroBias = none := if_neg hhas
    have hbefore : s.total.baroBias = none := if_neg hhas
    simp [hafter, hbefore, hbaro]

/-- The altitude that a barometer is compared with after the injection. -/
theorem barometerAltitude_inject :
    barometerAltitude (injectErrorAndReset s)
      = s.nominal.positionEnuM 2 + segment s.estimate.errorState 0 3 2 := by
  have hinjected : (injectErrorAndReset s).nominal.positionEnuM 2
      = s.nominal.positionEnuM 2 + segment s.estimate.errorState 0 3 2 := by
    show (injectedNominal _ _ _).positionEnuM 2 = _
    rw [injectedNominal, EkfOptions.buildLayout_position]
    rfl
  rw [barometerAltitude]
  split
  · show _ + segment 0 _ 1 0 = _
    rw [hinjected, segment_zero, Pi.zero_apply, add_zero]
  · exact hinjected

/-! ### All segments -/

/-- `InjectErrorAndReset` loses nothing: the total estimate is the same, and with a bias in the
    layout the altitude a barometer is compared with has moved by the corrections of altitude and
    bias. -/
def InjectionKeeps : Prop :=
  (injectErrorAndReset s).total = s.total ∧
    (options.enableBaroBiasState = true →
      barometerAltitude (injectErrorAndReset s)
        = s.nominal.positionEnuM 2 + segment s.estimate.errorState 0 3 2
          + segment s.estimate.errorState (options.buildLayout.get .baroBias).offset 1 (Fin.last 0))

/-- **Nothing is lost** exactly if the error state has no correction of the barometer bias, and of
    the clock only where the nominal state has one. -/
theorem injection_keeps_iff {options : EkfOptions} (s : EkfState options.buildLayout) :
    InjectionKeeps s ↔
      (options.enableBaroBiasState = true →
        segment s.estimate.errorState (options.buildLayout.get .baroBias).offset 1 0 = 0) ∧
      (options.enableGnssClockState = true → s.nominal.gnssClock = none →
        segment s.estimate.errorState (options.buildLayout.get .gnssClock).offset 2 = 0) := by
  constructor
  · rintro ⟨htotal, -⟩
    constructor
    · rw [← total_baroBias_inject, htotal]
    · rw [← total_gnssClock_inject, htotal]
  · rintro ⟨hbaro, hclock⟩
    constructor
    · apply TotalEstimate.ext
      · exact total_position_inject s
      · exact total_velocity_inject s
      · exact total_attitude_inject s
      · exact total_accelBias_inject s
      · exact total_gyroBias_inject s
      · exact (total_gnssClock_inject s).mpr hclock
      · exact (total_baroBias_inject s).mpr hbaro
    · intro hhas
      have hbias : segment s.estimate.errorState (options.buildLayout.get .baroBias).offset 1
          (Fin.last 0) = 0 := hbaro hhas
      rw [barometerAltitude_inject, hbias, add_zero]

/-- A correction of the barometer bias by one metre is lost. -/
theorem injection_loses_baroBias :
    let s : EkfState { enableBaroBiasState := true : EkfOptions }.buildLayout :=
      { estimate := { errorState := setSegment 0 15 fun _ : Fin 1 => 1 } }
    ¬ InjectionKeeps s ∧ s.total.baroBias = some 1 ∧
      (injectErrorAndReset s).total.baroBias = some 0 ∧ barometerAltitude s = 1 ∧
      barometerAltitude (injectErrorAndReset s) = 0 := by
  intro s
  have hcorrection : segment s.estimate.errorState
      (({ enableBaroBiasState := true : EkfOptions }).buildLayout.get .baroBias).offset 1
        (Fin.last 0) = 1 := rfl
  have haltitude : segment s.estimate.errorState 0 3 2 = 0 := rfl
  refine ⟨?_, ?_, ?_, ?_, ?_⟩
  · rintro ⟨htotal, -⟩
    have hzero := (total_baroBias_inject s).mp (by rw [htotal]) rfl
    exact one_ne_zero (hcorrection.symm.trans hzero)
  · exact (total_baroBias s rfl).trans (congrArg some hcorrection)
  · exact total_baroBias_of_inject s rfl
  · rw [barometerAltitude, EkfOptions.buildLayout_has_baroBias, if_pos rfl, hcorrection]
    exact zero_add 1
  · rw [barometerAltitude_inject, haltitude]
    exact add_zero 0

end Segments

end FalconGuide
