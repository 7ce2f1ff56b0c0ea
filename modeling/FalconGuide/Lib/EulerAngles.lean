import FalconGuide.Lib.Numerals
import Mathlib.Analysis.SpecialFunctions.Complex.Arg
import Mathlib.Analysis.SpecialFunctions.Trigonometric.Inverse
import Mathlib.LinearAlgebra.Matrix.Determinant.Basic
import Mathlib.LinearAlgebra.Matrix.NonsingularInverse
import Mathlib.Tactic.FinCases
import Mathlib.Tactic.LinearCombination

namespace FalconGuide.Lib

open Matrix

/-!
# Roll, pitch and yaw

A rotation of space as three rotations about its axes, and how they are read off its matrix.

* `rotX`, `rotY`, `rotZ`, `ofEulerAngles` — the rotation with given angles;
* `rollOf`, `pitchOf`, `yawOf` — the angles of a matrix, by its first column and last row;
* `IsRotation` — an orthogonal matrix of determinant one, with its entries by cofactors;
* `ofEulerAngles_anglesOf` — the angles give the matrix back, unless the pitch is a right angle;
* `anglesOf_locked` — there, roll and yaw are read as zero;
* `ofEulerAngles_anglesOf_iff` — the exact condition.
-/

/-- The rotation about the first axis. -/
noncomputable def rotX (a : ℝ) : Matrix (Fin 3) (Fin 3) ℝ :=
  !![1, 0, 0; 0, Real.cos a, -Real.sin a; 0, Real.sin a, Real.cos a]

/-- The rotation about the second axis. -/
noncomputable def rotY (a : ℝ) : Matrix (Fin 3) (Fin 3) ℝ :=
  !![Real.cos a, 0, Real.sin a; 0, 1, 0; -Real.sin a, 0, Real.cos a]

/-- The rotation about the third axis. -/
noncomputable def rotZ (a : ℝ) : Matrix (Fin 3) (Fin 3) ℝ :=
  !![Real.cos a, -Real.sin a, 0; Real.sin a, Real.cos a, 0; 0, 0, 1]

/-- About the first axis, then the second, then the third. -/
noncomputable def ofEulerAngles (roll pitch yaw : ℝ) : Matrix (Fin 3) (Fin 3) ℝ :=
  rotZ yaw * rotY pitch * rotX roll

/-- The product, entry by entry. -/
theorem ofEulerAngles_eq (r p y : ℝ) :
    ofEulerAngles r p y =
      !![Real.cos y * Real.cos p,
          Real.cos y * Real.sin p * Real.sin r - Real.sin y * Real.cos r,
          Real.cos y * Real.sin p * Real.cos r + Real.sin y * Real.sin r;
        Real.sin y * Real.cos p,
          Real.sin y * Real.sin p * Real.sin r + Real.cos y * Real.cos r,
          Real.sin y * Real.sin p * Real.cos r - Real.cos y * Real.sin r;
        -Real.sin p, Real.cos p * Real.sin r, Real.cos p * Real.cos r] := by
  ext i j
  fin_cases i <;> fin_cases j <;>
    simp [ofEulerAngles, rotX, rotY, rotZ, Matrix.mul_apply, Fin.sum_univ_three] <;> ring

/-! ### Angles of a matrix -/

variable {R : Matrix (Fin 3) (Fin 3) ℝ}

/-- The roll of a rotation. -/
noncomputable def rollOf (R : Matrix (Fin 3) (Fin 3) ℝ) : ℝ := Complex.arg ⟨R 2 2, R 2 1⟩

/-- The pitch of a rotation. -/
noncomputable def pitchOf (R : Matrix (Fin 3) (Fin 3) ℝ) : ℝ := Real.arcsin (-(R 2 0))

/-- The yaw of a rotation. -/
noncomputable def yawOf (R : Matrix (Fin 3) (Fin 3) ℝ) : ℝ := Complex.arg ⟨R 0 0, R 1 0⟩

/-- A point by its length and argument. -/
theorem length_mul_cos_arg {x y c : ℝ} (hc : 0 ≤ c) (h : x ^ 2 + y ^ 2 = c ^ 2) :
    c * Real.cos (Complex.arg ⟨x, y⟩) = x ∧ c * Real.sin (Complex.arg ⟨x, y⟩) = y := by
  have hnorm : ‖(⟨x, y⟩ : ℂ)‖ = c := by
    rw [Complex.norm_eq_sqrt_sq_add_sq, h, Real.sqrt_sq hc]
  constructor
  · rw [← hnorm]
    exact Complex.norm_mul_cos_arg ⟨x, y⟩
  · rw [← hnorm]
    exact Complex.norm_mul_sin_arg ⟨x, y⟩

/-- A rotation. -/
structure IsRotation (R : Matrix (Fin 3) (Fin 3) ℝ) : Prop where
  orthogonal : R * Rᵀ = 1
  det : R.det = 1

namespace IsRotation

/-- Its last row has length one. -/
theorem lastRow (h : IsRotation R) : R 2 0 ^ 2 + R 2 1 ^ 2 + R 2 2 ^ 2 = 1 := by
  have hentry := congrFun (congrFun h.orthogonal 2) 2
  rw [Matrix.mul_apply, Fin.sum_univ_three, one_apply_eq] at hentry
  simp only [transpose_apply] at hentry
  linear_combination hentry

/-- And so has its first column. -/
theorem firstColumn (h : IsRotation R) : R 0 0 ^ 2 + R 1 0 ^ 2 + R 2 0 ^ 2 = 1 := by
  have hleft : Rᵀ * R = 1 := mul_eq_one_comm.mp h.orthogonal
  have hentry := congrFun (congrFun hleft 0) 0
  rw [Matrix.mul_apply, Fin.sum_univ_three, one_apply_eq] at hentry
  simp only [transpose_apply] at hentry
  linear_combination hentry

/-- The inverse is the matrix of cofactors. -/
theorem adjugate_eq (h : IsRotation R) : R.adjugate = Rᵀ := by
  have hadj : R * R.adjugate = 1 := by rw [mul_adjugate, h.det, one_smul]
  calc R.adjugate = (Rᵀ * R) * R.adjugate := by rw [mul_eq_one_comm.mp h.orthogonal, one_mul]
    _ = Rᵀ := by rw [mul_assoc, hadj, mul_one]

/-- Four entries by the others. -/
theorem cofactors (h : IsRotation R) :
    R 0 1 = R 1 2 * R 2 0 - R 1 0 * R 2 2 ∧ R 0 2 = R 1 0 * R 2 1 - R 1 1 * R 2 0 ∧
      R 1 1 = R 0 0 * R 2 2 - R 0 2 * R 2 0 ∧ R 1 2 = R 0 1 * R 2 0 - R 0 0 * R 2 1 := by
  have hadj := h.adjugate_eq
  rw [adjugate_fin_three] at hadj
  have hentry : ∀ i j, _ = Rᵀ i j := fun i j => congrFun (congrFun hadj i) j
  have h10 := hentry 1 0
  have h20 := hentry 2 0
  have h11 := hentry 1 1
  have h21 := hentry 2 1
  simp only [of_apply, cons_val, transpose_apply] at h10 h20 h11 h21
  refine ⟨?_, ?_, ?_, ?_⟩
  · linear_combination -h10
  · linear_combination -h20
  · linear_combination -h11
  · linear_combination -h21

/-- The entry that the pitch is read off is not larger than one. -/
theorem sq_le_one (h : IsRotation R) : R 2 0 ^ 2 ≤ 1 := by
  linarith [h.lastRow, sq_nonneg (R 2 1), sq_nonneg (R 2 2)]

/-- The second row has unit length. -/
theorem secondRow (h : IsRotation R) : R 1 0 ^ 2 + R 1 1 ^ 2 + R 1 2 ^ 2 = 1 := by
  have hentry := congrFun (congrFun h.orthogonal 1) 1
  rw [Matrix.mul_apply, Fin.sum_univ_three, one_apply_eq] at hentry
  simp only [transpose_apply] at hentry
  linear_combination hentry

end IsRotation

/-! ### Both directions -/

section Angles

variable (h : IsRotation R)
include h

/-- The sine of the pitch. -/
theorem sin_pitchOf : Real.sin (pitchOf R) = -(R 2 0) := by
  have habs := abs_le.mp ((sq_le_one_iff_abs_le_one _).mp h.sq_le_one)
  exact Real.sin_arcsin (by linarith [habs.2]) (by linarith [habs.1])

/-- The cosine of the pitch, squared. -/
theorem cos_pitchOf_sq : Real.cos (pitchOf R) ^ 2 = 1 - R 2 0 ^ 2 := by
  rw [Real.cos_sq', sin_pitchOf h, neg_sq]

/-- The last row and the first column, by the angles. -/
theorem cos_pitchOf_mul :
    Real.cos (pitchOf R) * Real.cos (rollOf R) = R 2 2 ∧
      Real.cos (pitchOf R) * Real.sin (rollOf R) = R 2 1 ∧
      Real.cos (pitchOf R) * Real.cos (yawOf R) = R 0 0 ∧
      Real.cos (pitchOf R) * Real.sin (yawOf R) = R 1 0 := by
  have hnonneg : 0 ≤ Real.cos (pitchOf R) := Real.cos_arcsin_nonneg _
  have hsq := cos_pitchOf_sq h
  obtain ⟨hcr, hsr⟩ := length_mul_cos_arg (x := R 2 2) (y := R 2 1) hnonneg
    (by linarith [h.lastRow])
  obtain ⟨hcy, hsy⟩ := length_mul_cos_arg (x := R 0 0) (y := R 1 0) hnonneg
    (by linarith [h.firstColumn])
  exact ⟨hcr, hsr, hcy, hsy⟩

/-- **The angles give the rotation back**, unless the pitch is a right angle. -/
theorem ofEulerAngles_anglesOf (hpitch : R 2 0 ^ 2 ≠ 1) :
    ofEulerAngles (rollOf R) (pitchOf R) (yawOf R) = R := by
  obtain ⟨hcr, hsr, hcy, hsy⟩ := cos_pitchOf_mul h
  obtain ⟨k01, k02, k11, k12⟩ := h.cofactors
  have hsp := sin_pitchOf h
  have hsq := cos_pitchOf_sq h
  have hne : Real.cos (pitchOf R) ^ 2 ≠ 0 := by
    rw [hsq]
    intro hzero
    exact hpitch (by linarith)
  rw [ofEulerAngles_eq]
  generalize Real.cos (pitchOf R) = c at *
  generalize Real.sin (pitchOf R) = sp at *
  generalize Real.cos (rollOf R) = cr at *
  generalize Real.sin (rollOf R) = sr at *
  generalize Real.cos (yawOf R) = cy at *
  generalize Real.sin (yawOf R) = sy at *
  -- the entries of the first column and the last row first; of the others, `c ^ 2` times
  have h01 : cy * sp * sr - sy * cr = R 0 1 := by
    refine mul_left_cancel₀ hne ?_
    linear_combination (c * sr * sp) * hcy + (R 0 0 * sp) * hsr + (R 0 0 * R 2 1) * hsp
      - (c * cr) * hsy - R 1 0 * hcr - R 0 1 * hsq - k01 - R 2 0 * k12
  have h02 : cy * sp * cr + sy * sr = R 0 2 := by
    refine mul_left_cancel₀ hne ?_
    linear_combination (c * cr * sp) * hcy + (R 0 0 * sp) * hcr + (R 0 0 * R 2 2) * hsp
      + (c * sr) * hsy + R 1 0 * hsr - R 0 2 * hsq - k02 + R 2 0 * k11
  have h11 : sy * sp * sr + cy * cr = R 1 1 := by
    refine mul_left_cancel₀ hne ?_
    linear_combination (c * sr * sp) * hsy + (R 1 0 * sp) * hsr + (R 1 0 * R 2 1) * hsp
      + (c * cr) * hcy + R 0 0 * hcr - R 1 1 * hsq - k11 + R 2 0 * k02
  have h12 : sy * sp * cr - cy * sr = R 1 2 := by
    refine mul_left_cancel₀ hne ?_
    linear_combination (c * cr * sp) * hsy + (R 1 0 * sp) * hcr + (R 1 0 * R 2 2) * hsp
      - (c * sr) * hcy - R 0 0 * hsr - R 1 2 * hsq - k12 - R 2 0 * k01
  rw [h01, h02, h11, h12, mul_comm cy, mul_comm sy, hcy, hsy, hsr, hcr, hsp, neg_neg]
  ext i j
  fin_cases i <;> fin_cases j <;> rfl

/-- **Where the pitch is a right angle**, the other two angles are read as zero. -/
theorem anglesOf_locked (hpitch : R 2 0 ^ 2 = 1) : rollOf R = 0 ∧ yawOf R = 0 := by
  have hrow := h.lastRow
  have hcolumn := h.firstColumn
  have h21 : R 2 1 = 0 := by
    refine pow_eq_zero_iff two_ne_zero |>.mp (le_antisymm ?_ (sq_nonneg _))
    linarith [sq_nonneg (R 2 2)]
  have h22 : R 2 2 = 0 := by
    refine pow_eq_zero_iff two_ne_zero |>.mp (le_antisymm ?_ (sq_nonneg _))
    linarith [sq_nonneg (R 2 1)]
  have h00 : R 0 0 = 0 := by
    refine pow_eq_zero_iff two_ne_zero |>.mp (le_antisymm ?_ (sq_nonneg _))
    linarith [sq_nonneg (R 1 0)]
  have h10 : R 1 0 = 0 := by
    refine pow_eq_zero_iff two_ne_zero |>.mp (le_antisymm ?_ (sq_nonneg _))
    linarith [sq_nonneg (R 0 0)]
  constructor
  · rw [rollOf, h21, h22]
    exact Complex.arg_zero
  · rw [yawOf, h00, h10]
    exact Complex.arg_zero

/-- **The exact condition** under which the angles give the rotation back. -/
theorem ofEulerAngles_anglesOf_iff :
    ofEulerAngles (rollOf R) (pitchOf R) (yawOf R) = R ↔ R 2 0 ^ 2 ≠ 1 ∨ R 1 1 = 1 := by
  constructor
  · intro heq
    by_cases hpitch : R 2 0 ^ 2 = 1
    · obtain ⟨hroll, hyaw⟩ := anglesOf_locked h hpitch
      right
      rw [hroll, hyaw, ofEulerAngles_eq] at heq
      have hentry := congrFun (congrFun heq 1) 1
      simpa using hentry.symm
    · exact .inl hpitch
  · rintro (hpitch | hmiddle)
    · exact ofEulerAngles_anglesOf h hpitch
    · by_cases hpitch : R 2 0 ^ 2 = 1
      · obtain ⟨hroll, hyaw⟩ := anglesOf_locked h hpitch
        obtain ⟨k01, k02, k11, k12⟩ := h.cofactors
        obtain ⟨hcr, hsr, hcy, hsy⟩ := cos_pitchOf_mul h
        have hcos : Real.cos (pitchOf R) = 0 := by
          refine pow_eq_zero_iff two_ne_zero |>.mp ?_
          rw [cos_pitchOf_sq h, hpitch, sub_self]
        rw [hcos, zero_mul] at hcr hsr hcy hsy
        have h12 : R 1 2 = 0 := by
          refine pow_eq_zero_iff two_ne_zero |>.mp ?_
          linear_combination h.secondRow - (R 1 1 + 1) * hmiddle + R 1 0 * hsy
        have h01 : R 0 1 = 0 := by rw [k01, h12, ← hsy, zero_mul, zero_mul, sub_zero]
        have h02 : R 0 2 = -(R 2 0) := by rw [k02, hmiddle, ← hsy, zero_mul, one_mul, zero_sub]
        rw [hroll, hyaw, ofEulerAngles_eq, sin_pitchOf h, hcos]
        ext i j
        fin_cases i <;> fin_cases j <;>
          simp [← hcr, ← hsr, ← hcy, ← hsy, h12, h01, h02, hmiddle]
      · exact ofEulerAngles_anglesOf h hpitch

end Angles

/-- **The rotation gives the angles back**, when they are in their ranges. -/
theorem anglesOf_ofEulerAngles {r p y : ℝ} (hr : r ∈ Set.Ioc (-Real.pi) Real.pi)
    (hp : p ∈ Set.Ioo (-(Real.pi / 2)) (Real.pi / 2)) (hy : y ∈ Set.Ioc (-Real.pi) Real.pi) :
    rollOf (ofEulerAngles r p y) = r ∧ pitchOf (ofEulerAngles r p y) = p ∧
      yawOf (ofEulerAngles r p y) = y := by
  have hcos : 0 < Real.cos p := Real.cos_pos_of_mem_Ioo hp
  have harg : ∀ {a : ℝ}, a ∈ Set.Ioc (-Real.pi) Real.pi →
      Complex.arg ⟨Real.cos p * Real.cos a, Real.cos p * Real.sin a⟩ = a := by
    intro a ha
    have hpolar : (⟨Real.cos p * Real.cos a, Real.cos p * Real.sin a⟩ : ℂ)
        = (Real.cos p : ℂ) * (Complex.cos a + Complex.sin a * Complex.I) := by
      apply Complex.ext
      · simp [← Complex.ofReal_cos, ← Complex.ofReal_sin]
      · simp [← Complex.ofReal_cos, ← Complex.ofReal_sin]
    rw [hpolar]
    exact Complex.arg_mul_cos_add_sin_mul_I hcos ha
  rw [ofEulerAngles_eq]
  refine ⟨harg hr, ?_, ?_⟩
  · show Real.arcsin (- -Real.sin p) = p
    rw [neg_neg]
    exact Real.arcsin_sin hp.1.le hp.2.le
  · show Complex.arg ⟨Real.cos y * Real.cos p, Real.sin y * Real.cos p⟩ = y
    rw [mul_comm (Real.cos y), mul_comm (Real.sin y)]
    exact harg hy

end FalconGuide.Lib
