import Mathlib.Analysis.SpecialFunctions.Trigonometric.Basic

namespace FalconGuide

/-!
# Degrees and radians

* `degToRad`, `radToDeg` — `DegToRad` and `RadToDeg`.
-/

/-- `DegToRad`. -/
noncomputable def degToRad (degrees : ℝ) : ℝ := degrees * Real.pi / 180

/-- `RadToDeg`. -/
noncomputable def radToDeg (radians : ℝ) : ℝ := radians * 180 / Real.pi

/-- Radians come back from degrees. -/
@[simp] theorem degToRad_radToDeg (radians : ℝ) : degToRad (radToDeg radians) = radians := by
  have hpi := Real.pi_ne_zero
  unfold degToRad radToDeg
  field_simp

/-- Degrees come back from radians. -/
@[simp] theorem radToDeg_degToRad (degrees : ℝ) : radToDeg (degToRad degrees) = degrees := by
  have hpi := Real.pi_ne_zero
  unfold degToRad radToDeg
  field_simp

end FalconGuide
