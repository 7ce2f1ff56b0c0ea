import Mathlib.Analysis.Calculus.Deriv.Mul
import Mathlib.Analysis.Matrix.Normed

namespace FalconGuide.Lib

open Asymptotics Filter
open scoped Topology

/-!
# Expansions at zero

* `smul_isLittleO_iff` — a linear function is of smaller order than its argument only if it is zero;
* `isBigO_sq_iff` — a polynomial is of second order exactly if it has no constant and no linear
  term;
* `isBigO_mulVec` — the order of a product of a matrix and a vector.
-/

variable {E : Type*} [NormedAddCommGroup E] [NormedSpace ℝ E]

/-- A linear function of smaller order than its argument. -/
theorem smul_isLittleO_iff {s : E} :
    (fun x : ℝ => x • s) =o[𝓝 0] (fun x : ℝ => x) ↔ s = 0 := by
  constructor
  · intro h
    have hzero : HasDerivAt (fun x : ℝ => x • s) 0 0 := by
      rw [hasDerivAt_iff_isLittleO]
      simpa using h
    have hlinear : HasDerivAt (fun x : ℝ => x • s) ((1 : ℝ) • s) 0 :=
      (hasDerivAt_id 0).smul_const s
    rw [one_smul] at hlinear
    exact hlinear.unique hzero
  · rintro rfl
    simp only [smul_zero]
    exact isLittleO_zero _ _

/-- **Terms of second order.** -/
theorem isBigO_sq_iff {r s t : E} :
    (fun x : ℝ => x ^ 2 • r - x • s - t) =O[𝓝 0] (fun x : ℝ => x ^ 2) ↔ s = 0 ∧ t = 0 := by
  have hsquare : (fun x : ℝ => x ^ 2 • r) =O[𝓝 0] (fun x : ℝ => x ^ 2) :=
    IsBigO.of_bound ‖r‖ (Eventually.of_forall fun x => by rw [norm_smul, mul_comm])
  constructor
  · intro h
    -- the value at zero is the constant term
    have ht : t = 0 := by
      obtain ⟨c, hc⟩ := h.bound
      have h0 := hc.self_of_nhds
      simpa using h0
    refine ⟨?_, ht⟩
    have hlinear : (fun x : ℝ => x • s) =O[𝓝 0] (fun x : ℝ => x ^ 2) := by
      have hsub := hsquare.sub h
      simpa [ht] using hsub
    have hsmaller : (fun x : ℝ => x ^ 2) =o[𝓝 0] fun x => x := isLittleO_pow_id one_lt_two
    exact smul_isLittleO_iff.mp (hlinear.trans_isLittleO hsmaller)
  · rintro ⟨rfl, rfl⟩
    simpa using hsquare

section Products

open scoped Matrix Matrix.Norms.Operator

variable {α : Type*} {l : Filter α} {m n : ℕ} {A : α → Matrix (Fin m) (Fin n) ℝ}
  {w : α → Fin n → ℝ} {f g : α → ℝ}

/-- The order of a product is that of its factors, taken together. -/
theorem isBigO_mulVec (hA : A =O[l] f) (hw : w =O[l] g) :
    (fun x => A x *ᵥ w x) =O[l] fun x => f x * g x := by
  have hproduct : (fun x => A x *ᵥ w x) =O[l] fun x => ‖A x‖ * ‖w x‖ :=
    IsBigO.of_norm_le fun x => Matrix.linfty_opNorm_mulVec _ _
  exact hproduct.trans (hA.norm_left.mul hw.norm_left)

theorem isBigO_const_mulVec (hw : w =O[l] g) (A : Matrix (Fin m) (Fin n) ℝ) :
    (fun x => A *ᵥ w x) =O[l] g := by
  simpa using isBigO_mulVec (isBigO_const_one ℝ A l) hw

theorem isBigO_mulVec_const (hA : A =O[l] f) (w : Fin n → ℝ) :
    (fun x => A x *ᵥ w) =O[l] f := by
  simpa using isBigO_mulVec hA (isBigO_const_one ℝ w l)

end Products

end FalconGuide.Lib
