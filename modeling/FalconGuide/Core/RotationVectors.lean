import FalconGuide.Core.UnitQuaternions
import Mathlib.LinearAlgebra.Matrix.DotProduct

namespace FalconGuide

open Lib Matrix

/-!
# Rotation vectors

How much of a rotation vector survives `ExpMapSo3` and `LogMapSo3`, in either order.

* `Resolved` — vectors that `ExpMapSo3` does not replace by their first order;
* `logMapSo3_of_vec` — the logarithm of a unit quaternion whose real part is not negative;
* `Polar`, `exists_polar` — such a quaternion by its half angle, for every attitude;
* `logMapSo3_expMapSo3_iff`, `expMapSo3_logMapSo3_iff` — which vectors and which attitudes come
  back, and `euclideanNorm_logMapSo3_sub` — how far off the others are.
-/

/-- A vector whose length `ExpMapSo3` does not take for zero, unless it is. -/
def Resolved (v : Vec3) : Prop := v = 0 ∨ 1e-12 ≤ euclideanNorm v

/-! ### Lengths -/

theorem euclideanNorm_eq_zero {v : Vec3} : euclideanNorm v = 0 ↔ v = 0 := by
  rw [euclideanNorm, Real.sqrt_eq_zero (dotProduct_self_nonneg v), dotProduct_self_eq_zero]

theorem euclideanNorm_nonneg (v : Vec3) : 0 ≤ euclideanNorm v := Real.sqrt_nonneg _

theorem euclideanNorm_smul (c : ℝ) (v : Vec3) : euclideanNorm (c • v) = |c| * euclideanNorm v := by
  have hscaled : (c • v) ⬝ᵥ (c • v) = c ^ 2 * (v ⬝ᵥ v) := by
    rw [dotProduct_smul, smul_dotProduct, smul_eq_mul, smul_eq_mul]
    ring
  rw [euclideanNorm, hscaled, Real.sqrt_mul (sq_nonneg c), Real.sqrt_sq_eq_abs, euclideanNorm]

theorem sq_euclideanNorm (v : Vec3) : euclideanNorm v ^ 2 = v ⬝ᵥ v :=
  Real.sq_sqrt (dotProduct_self_nonneg v)

/-! ### The logarithm -/

/-- The rotation that does nothing has no vector. -/
theorem logMapSo3_of_vec_eq_zero {q : Quat} (hq : Quaternion.normSq q = 1)
    (hvec : Quat.vec q = 0) : logMapSo3 q = 0 := by
  have hnorm : euclideanNorm (Quat.vec q) = 0 := euclideanNorm_eq_zero.mpr hvec
  simp only [logMapSo3, Quat.normalizeQuaternion_of_unit hq]
  exact if_pos hnorm

/-- The logarithm, by any vector along the axis. -/
theorem logMapSo3_of_vec {q : Quat} (hq : Quaternion.normSq q = 1) (hre : 0 ≤ q.re) {c : ℝ}
    {v : Vec3} (hc : 0 < c) (hv : v ≠ 0) (hvec : Quat.vec q = c • v) :
    logMapSo3 q = (2 * atan2 (c * euclideanNorm v) q.re * (euclideanNorm v)⁻¹) • v := by
  have hnorm : euclideanNorm (Quat.vec q) = c * euclideanNorm v := by
    rw [hvec, euclideanNorm_smul, abs_of_pos hc]
  have hlength : euclideanNorm v ≠ 0 := euclideanNorm_eq_zero.not.mpr hv
  have hne : euclideanNorm (Quat.vec q) ≠ 0 := by
    rw [hnorm]
    exact mul_ne_zero hc.ne' hlength
  simp only [logMapSo3, Quat.normalizeQuaternion_of_unit hq]
  rw [if_neg hne, if_neg (not_lt.mpr hre), hnorm, hvec, abs_of_nonneg hre, smul_smul, smul_smul]
  congr 1
  field_simp

/-- Only the attitude matters: with a negative real part, the other quaternion is taken. -/
theorem logMapSo3_neg {q : Quat} (hq : Quaternion.normSq q = 1) (hre : q.re < 0) :
    logMapSo3 (-q) = logMapSo3 q := by
  have hneg : Quaternion.normSq (-q) = 1 := by rw [Quaternion.normSq_neg, hq]
  have hvec : Quat.vec (-q) = -Quat.vec q := by
    ext i
    fin_cases i <;> rfl
  have hpos : ¬ -q.re < 0 := by linarith
  have hnorm : euclideanNorm (-Quat.vec q) = euclideanNorm (Quat.vec q) := by
    rw [← neg_one_smul ℝ, euclideanNorm_smul, abs_neg, abs_one, one_mul]
  simp only [logMapSo3, Quat.normalizeQuaternion_of_unit hneg, Quat.normalizeQuaternion_of_unit hq,
    hvec, hnorm, Quaternion.re_neg, abs_neg, if_pos hre, if_neg hpos, inv_neg, neg_smul, smul_neg]

/-- A unit quaternion by half its angle. -/
structure Polar (q : Quat) (halfAngle : ℝ) : Prop where
  pos : 0 < halfAngle
  le : halfAngle ≤ Real.pi / 2
  re : q.re = Real.cos halfAngle
  length : euclideanNorm (Quat.vec q) = Real.sin halfAngle
  log : logMapSo3 q = (2 * halfAngle * (Real.sin halfAngle)⁻¹) • Quat.vec q

/-- Of the two quaternions of an attitude, the one with the real part that is not negative. -/
theorem polar_of_re_nonneg {q : Quat} (hq : Quaternion.normSq q = 1) (hre : 0 ≤ q.re)
    (hvec : Quat.vec q ≠ 0) : Polar q (atan2 (euclideanNorm (Quat.vec q)) q.re) := by
  have hlength : 0 < euclideanNorm (Quat.vec q) :=
    (euclideanNorm_nonneg _).lt_of_ne' (euclideanNorm_eq_zero.not.mpr hvec)
  have hunit : q.re ^ 2 + euclideanNorm (Quat.vec q) ^ 2 = 1 ^ 2 := by
    rw [sq_euclideanNorm, one_pow]
    exact (Quat.normSq_eq q).symm.trans hq
  obtain ⟨hcos, hsin⟩ := length_mul_cos_arg zero_le_one hunit
  rw [one_mul] at hcos hsin
  have hangle : 0 ≤ atan2 (euclideanNorm (Quat.vec q)) q.re := Complex.arg_nonneg_iff.mpr hlength.le
  refine ⟨hangle.lt_of_ne' fun hzero => ?_, ?_, hcos.symm, hsin.symm, ?_⟩
  · rw [← atan2, hzero, Real.sin_zero] at hsin
    exact hlength.ne hsin
  · exact (le_abs_self _).trans (Complex.abs_arg_le_pi_div_two_iff.mpr hre)
  · rw [logMapSo3_of_vec hq hre one_pos hvec (one_smul ℝ _).symm, one_mul]
    exact congrArg (fun s : ℝ => (2 * atan2 (euclideanNorm (Quat.vec q)) q.re * s⁻¹) • Quat.vec q)
      hsin.symm

/-- **Every attitude** that is not the identity, as one of its two quaternions. -/
theorem exists_polar {q : Quat} (hq : Quaternion.normSq q = 1) (hvec : Quat.vec q ≠ 0) :
    ∃ p : Quat, (p = q ∨ p = -q) ∧ Quaternion.normSq p = 1 ∧ logMapSo3 q = logMapSo3 p ∧
      ∃ halfAngle, Polar p halfAngle := by
  by_cases hre : q.re < 0
  · have hneg : Quaternion.normSq (-q) = 1 := by rw [Quaternion.normSq_neg, hq]
    refine ⟨-q, .inr rfl, hneg, (logMapSo3_neg hq hre).symm, _,
      polar_of_re_nonneg hneg ?_ fun hzero => hvec ?_⟩
    · rw [Quaternion.re_neg]
      linarith
    · ext i
      have hentry := congrFun hzero i
      fin_cases i <;> exact neg_eq_zero.mp hentry
  · exact ⟨q, .inl rfl, hq, rfl, _, polar_of_re_nonneg hq (not_lt.mp hre) hvec⟩

theorem Polar.sin_pos {q : Quat} {t : ℝ} (h : Polar q t) : 0 < Real.sin t :=
  Real.sin_pos_of_pos_of_lt_pi h.pos (by linarith [h.le, Real.pi_pos])

/-- The length of the vector is the angle. -/
theorem Polar.euclideanNorm_log {q : Quat} {t : ℝ} (h : Polar q t) :
    euclideanNorm (logMapSo3 q) = 2 * t := by
  have hfactor : 0 ≤ 2 * t * (Real.sin t)⁻¹ :=
    mul_nonneg (mul_nonneg two_pos.le h.pos.le) (inv_nonneg.mpr h.sin_pos.le)
  rw [h.log, euclideanNorm_smul, abs_of_nonneg hfactor, h.length,
    inv_mul_cancel_right₀ h.sin_pos.ne']

/-- No vector is longer than half a turn. -/
theorem euclideanNorm_logMapSo3_le {q : Quat} (hq : Quaternion.normSq q = 1) :
    euclideanNorm (logMapSo3 q) ≤ Real.pi := by
  by_cases hvec : Quat.vec q = 0
  · rw [logMapSo3_of_vec_eq_zero hq hvec, euclideanNorm_eq_zero.mpr rfl]
    exact Real.pi_pos.le
  · obtain ⟨p, _, _, hlog, t, hpolar⟩ := exists_polar hq hvec
    rw [hlog, hpolar.euclideanNorm_log]
    linarith [hpolar.le]

/-! ### There and back -/

/-- What `ExpMapSo3` makes of a short vector: the tangent of the half angle is half the length. -/
theorem expMapSo3_of_short {v : Vec3} (h : euclideanNorm v < 1e-12) :
    ∃ s : ℝ, 0 < s ∧ (expMapSo3 v).re = s ∧ Quat.vec (expMapSo3 v) = (s / 2) • v := by
  let q : Quat := ⟨1, 1 / 2 * v 0, 1 / 2 * v 1, 1 / 2 * v 2⟩
  have hvec : Quat.vec q = (1 / 2 : ℝ) • v := by
    ext i
    fin_cases i <;> rfl
  have hpos : 0 < Quaternion.normSq q := by
    rw [Quat.normSq_eq]
    exact add_pos_of_pos_of_nonneg (by norm_num) (dotProduct_self_nonneg _)
  have hnorm : 0 < Quat.norm q := Real.sqrt_pos.mpr hpos
  have hexp : expMapSo3 v = (Quat.norm q)⁻¹ • q :=
    (if_pos h).trans ((if_neg hnorm.ne').trans (if_pos hpos))
  refine ⟨(Quat.norm q)⁻¹, inv_pos.mpr hnorm, ?_, ?_⟩
  · rw [hexp, Quaternion.re_smul, smul_eq_mul, mul_one]
  · rw [hexp, Quat.vec_smul, hvec, smul_smul, mul_one_div]

/-- And of any other. -/
theorem expMapSo3_of_long {v : Vec3} (h : 1e-12 ≤ euclideanNorm v) :
    (expMapSo3 v).re = Real.cos (euclideanNorm v / 2) ∧
      Quat.vec (expMapSo3 v)
        = (Real.sin (euclideanNorm v / 2) * (euclideanNorm v)⁻¹) • v := by
  have hexp : expMapSo3 v = Quat.ofAngleAxis (euclideanNorm v) ((euclideanNorm v)⁻¹ • v) :=
    if_neg (not_lt.mpr h)
  rw [hexp]
  refine ⟨rfl, ?_⟩
  ext i
  fin_cases i <;> simp [Quat.ofAngleAxis, Quat.vec, mul_assoc]

/-- A short vector comes back shorter. -/
theorem logMapSo3_expMapSo3_of_short {v : Vec3} (h : euclideanNorm v < 1e-12) (hv : v ≠ 0) :
    ∃ c : ℝ, 0 < c ∧ c < 1 ∧ logMapSo3 (expMapSo3 v) = c • v := by
  have hlength : 0 < euclideanNorm v :=
    (euclideanNorm_nonneg v).lt_of_ne' (euclideanNorm_eq_zero.not.mpr hv)
  obtain ⟨s, hs, hre, hvec⟩ := expMapSo3_of_short h
  have hlog := logMapSo3_of_vec (normSq_expMapSo3 v) (hre ▸ hs.le) (half_pos hs) hv hvec
  have htan : Real.tan (atan2 (s / 2 * euclideanNorm v) (expMapSo3 v).re)
      = euclideanNorm v / 2 := by
    rw [atan2, Complex.tan_arg, hre]
    field_simp
  have hnonneg : 0 ≤ atan2 (s / 2 * euclideanNorm v) (expMapSo3 v).re :=
    Complex.arg_nonneg_iff.mpr (by positivity)
  have hright : atan2 (s / 2 * euclideanNorm v) (expMapSo3 v).re < Real.pi / 2 :=
    (le_abs_self _).trans_lt (Complex.abs_arg_lt_pi_div_two_iff.mpr (.inl (hre ▸ hs)))
  have hpos : 0 < atan2 (s / 2 * euclideanNorm v) (expMapSo3 v).re := by
    refine hnonneg.lt_of_ne' fun hzero => ?_
    rw [hzero, Real.tan_zero] at htan
    linarith
  have hlt := Real.lt_tan hpos hright
  rw [htan] at hlt
  refine ⟨_, by positivity, ?_, hlog⟩
  rw [← div_eq_mul_inv, div_lt_one hlength]
  linarith

/-- Any other comes back when it is no longer than half a turn. -/
theorem logMapSo3_expMapSo3_of_long {v : Vec3} (h : 1e-12 ≤ euclideanNorm v)
    (hpi : euclideanNorm v ≤ Real.pi) : logMapSo3 (expMapSo3 v) = v := by
  have hlength : 0 < euclideanNorm v := lt_of_lt_of_le (by norm_num) h
  have hv : v ≠ 0 := euclideanNorm_eq_zero.not.mp hlength.ne'
  obtain ⟨hre, hvec⟩ := expMapSo3_of_long h
  have hcos : 0 ≤ Real.cos (euclideanNorm v / 2) :=
    Real.cos_nonneg_of_mem_Icc ⟨by linarith, by linarith⟩
  have hsin : 0 < Real.sin (euclideanNorm v / 2) :=
    Real.sin_pos_of_pos_of_lt_pi (by linarith) (by linarith)
  have hangle : atan2 (Real.sin (euclideanNorm v / 2)) (Real.cos (euclideanNorm v / 2))
      = euclideanNorm v / 2 := by
    have hpolar := Complex.arg_cos_add_sin_mul_I (θ := euclideanNorm v / 2)
      ⟨by linarith [Real.pi_pos], by linarith⟩
    rw [← Complex.ofReal_cos, ← Complex.ofReal_sin, ← Complex.mk_eq_add_mul_I] at hpolar
    exact hpolar
  rw [logMapSo3_of_vec (normSq_expMapSo3 v) (hre ▸ hcos) (mul_pos hsin (inv_pos.mpr hlength)) hv
    hvec, inv_mul_cancel_right₀ hlength.ne', hre, hangle, mul_div_cancel₀ _ two_ne_zero,
    mul_inv_cancel₀ hlength.ne', one_smul]

/-- **Rotation vectors come back** when they are no longer than half a turn, unless `ExpMapSo3` has
    replaced them by their first order. -/
theorem logMapSo3_expMapSo3_iff (v : Vec3) :
    logMapSo3 (expMapSo3 v) = v ↔ Resolved v ∧ euclideanNorm v ≤ Real.pi := by
  constructor
  · intro heq
    refine ⟨?_, heq ▸ euclideanNorm_logMapSo3_le (normSq_expMapSo3 v)⟩
    by_cases hv : v = 0
    · exact .inl hv
    · refine .inr (not_lt.mp fun hshort => ?_)
      obtain ⟨c, _, hlt, hlog⟩ := logMapSo3_expMapSo3_of_short hshort hv
      have hone : (c - 1) • v = 0 := by rw [sub_smul, one_smul, ← hlog, heq, sub_self]
      rcases smul_eq_zero.mp hone with hc | hzero
      · linarith
      · exact hv hzero
  · rintro ⟨hzero | hlong, hpi⟩
    · rw [hzero, expMapSo3_zero]
      exact logMapSo3_of_vec_eq_zero (map_one _) (by ext i; fin_cases i <;> rfl)
    · exact logMapSo3_expMapSo3_of_long hlong hpi

/-- The others are off by less than the bound. -/
theorem euclideanNorm_logMapSo3_sub {v : Vec3} (hpi : euclideanNorm v ≤ Real.pi) :
    euclideanNorm (logMapSo3 (expMapSo3 v) - v) < 1e-12 := by
  have hself : logMapSo3 (expMapSo3 v) = v → euclideanNorm (logMapSo3 (expMapSo3 v) - v) < 1e-12 :=
    fun heq => by
      rw [heq, sub_self, euclideanNorm_eq_zero.mpr rfl]
      norm_num
  by_cases hv : v = 0
  · exact hself ((logMapSo3_expMapSo3_iff v).mpr ⟨.inl hv, hpi⟩)
  by_cases hshort : euclideanNorm v < 1e-12
  · obtain ⟨c, hpos, hlt, hlog⟩ := logMapSo3_expMapSo3_of_short hshort hv
    have hdiff : logMapSo3 (expMapSo3 v) - v = (c - 1) • v := by rw [hlog, sub_smul, one_smul]
    rw [hdiff, euclideanNorm_smul, abs_of_neg (by linarith)]
    nlinarith [euclideanNorm_nonneg v]
  · exact hself ((logMapSo3_expMapSo3_iff v).mpr ⟨.inr (not_lt.mp hshort), hpi⟩)

/-- The quaternion of a logarithm, by the half angle. -/
theorem expMapSo3_logMapSo3_of_polar {q : Quat} {t : ℝ} (h : Polar q t) :
    (expMapSo3 (logMapSo3 q) = q ∨ expMapSo3 (logMapSo3 q) = -q) ↔ 1e-12 ≤ 2 * t := by
  have hsin := h.sin_pos
  have hnorm := h.euclideanNorm_log
  have hpair : ∀ p : Quat, p.re = q.re → Quat.vec p = Quat.vec q → p = q := by
    intro p hre hvec
    ext
    · exact hre
    · exact congrFun hvec 0
    · exact congrFun hvec 1
    · exact congrFun hvec 2
  constructor
  · intro heq
    by_contra hshort
    obtain ⟨s, hs, hre, hvec⟩ := expMapSo3_of_short (v := logMapSo3 q) (by linarith)
    have hright : t < Real.pi / 2 := by linarith [Real.two_le_pi]
    have hcos : 0 < Real.cos t := Real.cos_pos_of_mem_Ioo ⟨by linarith [h.pos], hright⟩
    have hlength : euclideanNorm (Quat.vec (expMapSo3 (logMapSo3 q))) = s * t := by
      rw [hvec, euclideanNorm_smul, hnorm, abs_of_pos (half_pos hs)]
      ring
    rcases heq with heq | heq
    · rw [heq] at hlength hre
      have htan := Real.lt_tan h.pos hright
      rw [Real.tan_eq_sin_div_cos, lt_div_iff₀ hcos, ← h.length, hlength, ← hre, h.re] at htan
      linarith
    · rw [heq, Quaternion.re_neg, h.re] at hre
      linarith
  · intro hlong
    left
    obtain ⟨hre, hvec⟩ := expMapSo3_of_long (v := logMapSo3 q) (hnorm ▸ hlong)
    rw [hnorm, mul_div_cancel_left₀ t two_ne_zero] at hre hvec
    refine hpair _ (hre.trans h.re.symm) (hvec.trans ?_)
    have hpos := h.pos
    rw [h.log, smul_smul]
    have hone : Real.sin t * (2 * t)⁻¹ * (2 * t * (Real.sin t)⁻¹) = 1 := by field_simp
    rw [hone, one_smul]

/-- **Attitudes come back**, as one of their two quaternions, unless their angle is below the
    bound. -/
theorem expMapSo3_logMapSo3_iff (q : Quat) (hq : Quaternion.normSq q = 1) :
    (expMapSo3 (logMapSo3 q) = q ∨ expMapSo3 (logMapSo3 q) = -q) ↔ Resolved (logMapSo3 q) := by
  by_cases hvec : Quat.vec q = 0
  · have hlog := logMapSo3_of_vec_eq_zero hq hvec
    rw [hlog, expMapSo3_zero]
    refine ⟨fun _ => .inl rfl, fun _ => ?_⟩
    rcases Quat.eq_one_or_eq_neg_one hq hvec with heq | heq
    · exact .inl heq.symm
    · exact .inr (by rw [heq, neg_neg])
  · obtain ⟨p, hp, _, hlog, t, hpolar⟩ := exists_polar hq hvec
    have hne : logMapSo3 p ≠ 0 := by
      refine euclideanNorm_eq_zero.not.mp ?_
      rw [hpolar.euclideanNorm_log]
      linarith [hpolar.pos]
    have hpair : (expMapSo3 (logMapSo3 p) = q ∨ expMapSo3 (logMapSo3 p) = -q) ↔
        (expMapSo3 (logMapSo3 p) = p ∨ expMapSo3 (logMapSo3 p) = -p) := by
      rcases hp with rfl | rfl
      · rfl
      · rw [neg_neg, or_comm]
    rw [hlog, hpair, expMapSo3_logMapSo3_of_polar hpolar, Resolved, hpolar.euclideanNorm_log]
    exact (or_iff_right hne).symm

end FalconGuide
