import FalconGuide.Ceres.PredictedResidual
import FalconGuide.Lib.FreeFall

namespace FalconGuide

open Lib Matrix ImuPreintegrator CeresSlidingWindowEstimator KeyframeBlocks

/-!
# Gauge freedom of the window

`Optimise` holds the pose and the velocity of the oldest keyframe constant.  Without that, the
factors of the inertial sensors would not tell one window from the same one in a frame that is
turned, shifted, moving and falling.

* `ResidualBlock.residuals` — what the cost function of each block returns;
* `Gauge`, `Gauge.moved` — the change of a keyframe to such a frame, at its time in the window;
* `residual_moved` — no factor notices it;
* `residual_determines` — a factor tells the end of its interval from the start;
* `gauge_freedom` — the main result, for every window of every run.
-/

/-! ### Cost functions -/

/-- `sqrt_info_` of `GnssPositionCost` and `GnssVelocityCost`; `llt` is `matrixL()` of the
    decomposition. -/
noncomputable def sqrtInfo (llt : Mat3 → Mat3) (cov : Mat3) : Mat3 := (llt cov⁻¹)ᵀ

namespace ResidualBlock

/-- What the cost function of a block returns, three numbers at a time. -/
noncomputable def residuals (llt : Mat3 → Mat3) (x : ℕ → KeyframeBlocks) :
    ResidualBlock → List Vec3
  | imuPreintegration factor i j =>
    let r := factor.scaledResidual (x i) (x j)
    [r.1, r.2.1, r.2.2]
  | biasRandomWalk accelSigma gyroSigma i j =>
    let r := biasRandomWalkResidual accelSigma gyroSigma (x i) (x j)
    [r.1, r.2]
  | gnssPosition measEnuM covM2 _ i => [sqrtInfo llt covM2 *ᵥ ((x i).position - measEnuM)]
  | gnssVelocity measEnuMps covM2ps2 _ i =>
    [sqrtInfo llt covM2ps2 *ᵥ ((x i).velocity - measEnuMps)]

/-- A block of the inertial sensors. -/
def Inertial : ResidualBlock → Prop
  | imuPreintegration _ _ _ | biasRandomWalk _ _ _ _ => True
  | gnssPosition _ _ _ _ | gnssVelocity _ _ _ _ => False

end ResidualBlock

/-! ### Motions -/

namespace KeyframeBlocks

/-- Where a keyframe is and how fast it moves. -/
def motion (kf : KeyframeBlocks) : Motion Vec3 := ⟨kf.position, kf.velocity⟩

/-- The matrix of its rotation, whatever length the quaternion has. -/
noncomputable def attitude (kf : KeyframeBlocks) : Mat3 :=
  Quat.toRotationMatrix kf.rotation.normalized

/-- The rotation from the attitude of one keyframe to that of another. -/
noncomputable def turn (i j : KeyframeBlocks) : Quat :=
  star i.rotation.normalized * j.rotation.normalized

theorem normSq_turn {i j : KeyframeBlocks} (hi : 0 < Quaternion.normSq i.rotation)
    (hj : 0 < Quaternion.normSq j.rotation) : Quaternion.normSq (i.turn j) = 1 := by
  rw [turn, map_mul, Quaternion.normSq_star, Quat.normSq_normalized hi, Quat.normSq_normalized hj,
    one_mul]

theorem toRotationMatrix_turn {i j : KeyframeBlocks} (hi : 0 < Quaternion.normSq i.rotation)
    (hj : 0 < Quaternion.normSq j.rotation) :
    Quat.toRotationMatrix (i.turn j) = i.attitudeᵀ * j.attitude := by
  rw [turn, Quat.toRotationMatrix_mul (by rw [Quaternion.normSq_star, Quat.normSq_normalized hi])
    (Quat.normSq_normalized hj), Quat.toRotationMatrix_star]
  rfl

/-- The same place, speed, attitude and biases; the quaternions may differ in length and sign. -/
structure Same (i j : KeyframeBlocks) : Prop where
  motion : i.motion = j.motion
  attitude : i.attitude = j.attitude
  accelBias : i.accelBias = j.accelBias
  gyroBias : i.gyroBias = j.gyroBias

end KeyframeBlocks

/-- The residuals as the distance from free fall, in the frame of the first keyframe. -/
theorem ImuPreintegration.residual_eq (p : ImuPreintegration) (i j : KeyframeBlocks) :
    p.residual i j =
      (i.attitudeᵀ *ᵥ i.motion.displacement gravityEnu p.integrationTimeS j.motion
          - p.correctedDeltaP i.accelBias i.gyroBias,
        quatResidual (star (p.correctedDeltaQ i.gyroBias) * i.turn j),
        i.attitudeᵀ *ᵥ i.motion.gain gravityEnu p.integrationTimeS j.motion
          - p.correctedDeltaV i.accelBias i.gyroBias) := by
  have hhalf : 0.5 * p.integrationTimeS * p.integrationTimeS
      = p.integrationTimeS * p.integrationTimeS / 2 := by ring
  rw [residual, hhalf]
  rfl

/-! ### Frames -/

/-- A frame that is turned, shifted and moving. -/
structure Gauge where
  rotation : Quat
  unit : Quaternion.normSq rotation = 1
  offset : Vec3
  velocity : Vec3

namespace Gauge

/-- It falls where it is turned against gravity. -/
noncomputable def frame (g : Gauge) : FallingFrame ℝ Vec3 where
  turn := (Quat.toRotationMatrix g.rotation).mulVecLin
  shift := g.offset
  speed := g.velocity

/-- A keyframe in the frame, at the time `t` of the window. -/
noncomputable def moved (g : Gauge) (t : ℝ) (kf : KeyframeBlocks) : KeyframeBlocks :=
  let m := g.frame.moved gravityEnu t kf.motion
  { kf with position := m.position, velocity := m.velocity, rotation := g.rotation * kf.rotation }

variable {g : Gauge} {p : ImuPreintegration} {i j : KeyframeBlocks} {t : ℝ}

theorem moved_motion : (g.moved t i).motion = g.frame.moved gravityEnu t i.motion := rfl

theorem moved_rotation : (g.moved t i).rotation.normalized = g.rotation * i.rotation.normalized :=
  Quat.normalized_mul_of_unit g.unit _

theorem attitude_moved (hi : 0 < Quaternion.normSq i.rotation) :
    (g.moved t i).attitude = Quat.toRotationMatrix g.rotation * i.attitude := by
  rw [KeyframeBlocks.attitude, moved_rotation,
    Quat.toRotationMatrix_mul g.unit (Quat.normSq_normalized hi)]
  rfl

/-- In the frame of a keyframe that is turned as well, the turn is not seen. -/
theorem transpose_mulVec_moved (hi : 0 < Quaternion.normSq i.rotation) (v : Vec3) :
    (g.moved t i).attitudeᵀ *ᵥ g.frame.turn v = i.attitudeᵀ *ᵥ v := by
  have horthogonal : (Quat.toRotationMatrix g.rotation)ᵀ * Quat.toRotationMatrix g.rotation = 1 :=
    mul_eq_one_comm.mp (Quat.toRotationMatrix_mul_transpose g.unit)
  rw [attitude_moved hi]
  show _ *ᵥ (Quat.toRotationMatrix g.rotation *ᵥ v) = _
  rw [transpose_mul, mulVec_mulVec, Matrix.mul_assoc, horthogonal, Matrix.mul_one]

/-- **Not noticed** by a factor. -/
theorem residual_moved (hi : 0 < Quaternion.normSq i.rotation) :
    p.residual (g.moved t i) (g.moved (t + p.integrationTimeS) j) = p.residual i j := by
  have hone : star g.rotation * g.rotation = 1 := by
    rw [Quaternion.star_mul_self, g.unit]
    rfl
  have hrotation : (g.moved t i).turn (g.moved (t + p.integrationTimeS) j) = i.turn j := by
    rw [KeyframeBlocks.turn, moved_rotation, moved_rotation, star_mul, mul_assoc,
      ← mul_assoc (star g.rotation), hone, one_mul]
    rfl
  rw [p.residual_eq, p.residual_eq, moved_motion, moved_motion, g.frame.displacement_moved,
    g.frame.gain_moved, transpose_mulVec_moved hi, transpose_mulVec_moved hi, hrotation]
  rfl

end Gauge

/-! ### What a factor tells -/

/-- A rotation residual tells the rotation, up to its sign. -/
theorem quatResidual_eq_imp {q q' : Quat} (hnorm : Quaternion.normSq q = Quaternion.normSq q')
    (h : quatResidual q = quatResidual q') : q = q' ∨ q = -q' := by
  -- the sign that makes the real part positive, or leaves it zero
  have hsigned : ∀ r : Quat, ∃ s : Quat, (r = s ∨ r = -s) ∧ 0 ≤ s.re ∧
      quatResidual r = (2 : ℝ) • Quat.vec s ∧ Quaternion.normSq s = Quaternion.normSq r := by
    intro r
    by_cases hre : 0 < r.re
    · exact ⟨r, .inl rfl, hre.le, if_pos hre, rfl⟩
    · refine ⟨-r, .inr (neg_neg r).symm, ?_, ?_, Quaternion.normSq_neg r⟩
      · rw [Quaternion.re_neg]
        exact neg_nonneg.mpr (not_lt.mp hre)
      · have hvec : Quat.vec (-r) = -Quat.vec r := by
          ext k
          fin_cases k <;> rfl
        rw [quatResidual, if_neg hre, hvec, smul_neg, neg_smul]
  obtain ⟨s, hs, hre, hres, hlength⟩ := hsigned q
  obtain ⟨s', hs', hre', hres', hlength'⟩ := hsigned q'
  have hvec : Quat.vec s = Quat.vec s' := by
    rw [hres, hres'] at h
    exact smul_right_injective _ two_ne_zero h
  have hre_eq : s.re = s'.re := by
    have hsq : s.re ^ 2 = s'.re ^ 2 := by
      have hsum : Quaternion.normSq s = Quaternion.normSq s' :=
        hlength.trans (hnorm.trans hlength'.symm)
      rw [Quat.normSq_eq, Quat.normSq_eq, hvec] at hsum
      exact add_right_cancel hsum
    exact (sq_eq_sq₀ hre hre').mp hsq
  have heq : s = s' := by
    ext
    · exact hre_eq
    · exact congrFun hvec 0
    · exact congrFun hvec 1
    · exact congrFun hvec 2
  subst heq
  rcases hs with rfl | rfl
  · exact hs'.imp Eq.symm fun h => neg_eq_iff_eq_neg.mp h.symm
  · rcases hs' with h | h
    · exact .inr (congrArg Neg.neg h.symm)
    · exact .inl h.symm

theorem quatResidual_mul_eq_imp {c q q' : Quat} (hc : c ≠ 0)
    (hnorm : Quaternion.normSq q = Quaternion.normSq q')
    (h : quatResidual (c * q) = quatResidual (c * q')) : q = q' ∨ q = -q' := by
  have hproduct : Quaternion.normSq (c * q) = Quaternion.normSq (c * q') := by
    rw [map_mul, map_mul, hnorm]
  refine (quatResidual_eq_imp hproduct h).imp (mul_left_cancel₀ hc) fun hneg => ?_
  exact mul_left_cancel₀ hc (hneg.trans (mul_neg c q').symm)

section Factor

variable {p : ImuPreintegration} {i i' j j' : KeyframeBlocks}

/-- **The end of the interval**, from its start: where the residuals of a factor are the same, so
    are the keyframes. -/
theorem residual_determines (hp : p.Sound) (hsame : i.Same i')
    (hi : 0 < Quaternion.normSq i.rotation) (hi' : 0 < Quaternion.normSq i'.rotation)
    (hj : 0 < Quaternion.normSq j.rotation) (hj' : 0 < Quaternion.normSq j'.rotation)
    (h : p.residual i j = p.residual i' j') :
    j.motion = j'.motion ∧ j.attitude = j'.attitude := by
  have horthogonal : i.attitude * i.attitudeᵀ = 1 :=
    Quat.toRotationMatrix_mul_transpose (Quat.normSq_normalized hi)
  rw [p.residual_eq, p.residual_eq, ← hsame.motion, ← hsame.attitude, ← hsame.accelBias,
    ← hsame.gyroBias, Prod.ext_iff, Prod.ext_iff] at h
  obtain ⟨hposition, hrotation, hvelocity⟩ := h
  have hcancel : ∀ v w : Vec3, i.attitudeᵀ *ᵥ v = i.attitudeᵀ *ᵥ w → v = w := by
    intro v w heq
    have hback := congrArg (i.attitude *ᵥ ·) heq
    simpa only [mulVec_mulVec, horthogonal, one_mulVec] using hback
  refine ⟨Motion.ext_of_fall (hcancel _ _ (sub_left_injective hposition))
    (hcancel _ _ (sub_left_injective hvelocity)), ?_⟩
  have hstar : star (p.correctedDeltaQ i.gyroBias) ≠ 0 := by
    have hpos : 0 < Quaternion.normSq (p.correctedDeltaQ i.gyroBias) := by
      rw [ImuPreintegration.correctedDeltaQ, map_mul, hp.unit, one_mul]
      exact normSq_expMap_pos _
    exact star_ne_zero.mpr (Quaternion.normSq_ne_zero.mp hpos.ne')
  -- the residual tells the turn from the one keyframe to the other, but for its sign
  have hsign : i.turn j = i'.turn j' ∨ i.turn j = -i'.turn j' :=
    quatResidual_mul_eq_imp hstar ((normSq_turn hi hj).trans (normSq_turn hi' hj').symm) hrotation
  have hmatrices : i.attitudeᵀ * j.attitude = i.attitudeᵀ * j'.attitude := by
    rw [← toRotationMatrix_turn hi hj,
      (Quat.toRotationMatrix_eq_iff (normSq_turn hi hj) (normSq_turn hi' hj')).mpr hsign,
      toRotationMatrix_turn hi' hj', hsame.attitude]
  have hback := congrArg (i.attitude * ·) hmatrices
  simpa only [← Matrix.mul_assoc, horthogonal, Matrix.one_mul] using hback

end Factor

/-! ### Windows -/

namespace CeresSlidingWindowEstimator

variable {options : CeresOptions} {e : CeresSlidingWindowEstimator options} {gnss : GnssSolution}
  {posEnu : Vec3} {llt : Mat3 → Mat3} {g : Gauge} {x y : ℕ → KeyframeBlocks}

/-- The blocks have a quaternion for every keyframe of the window. -/
def Oriented (e : CeresSlidingWindowEstimator options) (x : ℕ → KeyframeBlocks) : Prop :=
  ∀ k < e.window.length, 0 < Quaternion.normSq (x k).rotation

/-- The time that is integrated between the oldest keyframe and another one. -/
noncomputable def windowSeconds (e : CeresSlidingWindowEstimator options) (k : ℕ) : ℝ :=
  ((e.imuFactors.take k).map ImuPreintegration.integrationTimeS).sum

theorem windowSeconds_succ {k : ℕ} {p : ImuPreintegration} (h : e.imuFactors[k]? = some p) :
    e.windowSeconds (k + 1) = e.windowSeconds k + p.integrationTimeS := by
  rw [windowSeconds, List.take_add_one, h, List.map_append, List.sum_append]
  exact congrArg _ (add_zero _)

/-- All keyframes of the window, in a frame. -/
noncomputable def movedWindow (e : CeresSlidingWindowEstimator options) (g : Gauge)
    (x : ℕ → KeyframeBlocks) (k : ℕ) : KeyframeBlocks :=
  g.moved (e.windowSeconds k) (x k)

/-- The blocks of the inertial sensors are those between two neighbours. -/
theorem inertial_block {b : ResidualBlock} (hb : b ∈ (e.windowProblem gnss posEnu).residualBlocks)
    (hinertial : b.Inertial) :
    ∃ k, k + 1 < e.window.length ∧
      ((∃ p, e.imuFactors[k]? = some p ∧ b = .imuPreintegration p k (k + 1)) ∨
        b = .biasRandomWalk 0.01 0.001 k (k + 1)) := by
  rcases List.mem_append.mp hb with hb | hb
  · rcases List.mem_append.mp hb with hb | hb
    · obtain ⟨z, hz, rfl⟩ := List.mem_map.mp hb
      obtain ⟨m, hm⟩ := List.mem_iff_getElem?.mp hz
      obtain ⟨hrange, hfactor⟩ := List.getElem?_zip_eq_some.mp hm
      obtain ⟨hlt, hk⟩ := List.getElem?_eq_some_iff.mp hrange
      rw [List.length_range] at hlt
      rw [List.getElem_range] at hk
      subst hk
      exact ⟨z.1, by omega, .inl ⟨z.2, hfactor, rfl⟩⟩
    · obtain ⟨k, hk, rfl⟩ := List.mem_map.mp hb
      rw [List.mem_range] at hk
      exact ⟨k, by omega, .inr rfl⟩
  · rcases List.mem_cons.mp hb with rfl | hb
    · exact hinertial.elim
    · rw [List.mem_singleton.mp hb] at hinertial
      exact hinertial.elim

theorem imuPreintegration_mem {k : ℕ} {p : ImuPreintegration} (hk : k + 1 < e.window.length)
    (hp : e.imuFactors[k]? = some p) :
    .imuPreintegration p k (k + 1) ∈ (e.windowProblem gnss posEnu).residualBlocks := by
  refine List.mem_append_left _ (List.mem_append_left _ (List.mem_map.mpr ⟨(k, p), ?_, rfl⟩))
  refine List.mem_iff_getElem?.mpr ⟨k, List.getElem?_zip_eq_some.mpr ⟨?_, hp⟩⟩
  exact List.getElem?_range (by omega)

theorem biasRandomWalk_mem {k : ℕ} (hk : k + 1 < e.window.length) :
    .biasRandomWalk 0.01 0.001 k (k + 1) ∈ (e.windowProblem gnss posEnu).residualBlocks := by
  refine List.mem_append_left _ (List.mem_append_right _ (List.mem_map.mpr ⟨k, ?_, rfl⟩))
  exact List.mem_range.mpr (by omega)

/-- **No block of the inertial sensors** notices the frame. -/
theorem residuals_movedWindow (hx : e.Oriented x) {b : ResidualBlock}
    (hb : b ∈ (e.windowProblem gnss posEnu).residualBlocks) (hinertial : b.Inertial) :
    b.residuals llt (e.movedWindow g x) = b.residuals llt x := by
  obtain ⟨k, hk, ⟨p, hp, rfl⟩ | rfl⟩ := inertial_block hb hinertial
  · have hresidual : p.scaledResidual (e.movedWindow g x k) (e.movedWindow g x (k + 1))
        = p.scaledResidual (x k) (x (k + 1)) := by
      rw [movedWindow, movedWindow, windowSeconds_succ hp, ImuPreintegration.scaledResidual,
        Gauge.residual_moved (hx k (Nat.lt_of_succ_lt hk))]
      rfl
    rw [ResidualBlock.residuals, ResidualBlock.residuals, hresidual]
  · rfl

/-- In every run, there is a factor between any two neighbours. -/
theorem exists_factor (h : (system options).Reachable e) {k : ℕ} (hk : k + 1 < e.window.length) :
    ∃ p, e.imuFactors[k]? = some p ∧ p.Sound := by
  have hlength : k < e.imuFactors.length := by
    rcases coherent_of_reachable h with hwaiting | ⟨-, hcoherent⟩
    · rw [hwaiting.window] at hk
      exact absurd hk (Nat.not_lt_zero _)
    · rw [← length_factorSpans, hcoherent.spans, length_neighbours, length_windowTimes]
      omega
  refine ⟨_, List.getElem?_eq_getElem hlength, ?_⟩
  exact (factorsSound_of_reachable h).factors _ (List.getElem_mem hlength)

/-- What the two blocks between two neighbours tell of the second. -/
theorem same_next (h : (system options).Reachable e) (hx : e.Oriented x) (hy : e.Oriented y)
    (hresiduals : ∀ b ∈ (e.windowProblem gnss posEnu).residualBlocks, b.Inertial →
      b.residuals llt y = b.residuals llt x)
    {k : ℕ} (hk : k + 1 < e.window.length) (hsame : (x k).Same (y k)) :
    (x (k + 1)).Same (y (k + 1)) := by
  obtain ⟨p, hp, hsound⟩ := exists_factor h hk
  have hinertial := hresiduals _ (imuPreintegration_mem hk hp) trivial
  have hbias := hresiduals _ (biasRandomWalk_mem hk) trivial
  simp only [ResidualBlock.residuals, List.cons.injEq, and_true] at hinertial hbias
  have hscaled : p.scaledResidual (x k) (x (k + 1)) = p.scaledResidual (y k) (y (k + 1)) :=
    Prod.ext hinertial.1.symm (Prod.ext hinertial.2.1.symm hinertial.2.2.symm)
  have hresidual := smul_right_injective _ p.infoScale_mem.1.ne' hscaled
  obtain ⟨hmotion, hattitude⟩ := residual_determines hsound hsame
    (hx k (Nat.lt_of_succ_lt hk)) (hy k (Nat.lt_of_succ_lt hk)) (hx _ hk) (hy _ hk) hresidual
  refine ⟨hmotion, hattitude, ?_, ?_⟩
  · have hdifference := smul_right_injective Vec3 (by norm_num : (1 / 0.01 : ℝ) ≠ 0) hbias.1
    rw [← hsame.accelBias] at hdifference
    exact (sub_left_injective hdifference).symm
  · have hdifference := smul_right_injective Vec3 (by norm_num : (1 / 0.001 : ℝ) ≠ 0) hbias.2
    rw [← hsame.gyroBias] at hdifference
    exact (sub_left_injective hdifference).symm

/-- **The whole window** is told by its oldest keyframe. -/
theorem same_window (h : (system options).Reachable e) (hx : e.Oriented x) (hy : e.Oriented y)
    (hresiduals : ∀ b ∈ (e.windowProblem gnss posEnu).residualBlocks, b.Inertial →
      b.residuals llt y = b.residuals llt x)
    (holdest : (x 0).Same (y 0)) : ∀ k < e.window.length, (x k).Same (y k) := by
  intro k
  induction k with
  | zero => exact fun _ => holdest
  | succ k ih => exact fun hk => same_next h hx hy hresiduals hk (ih (Nat.lt_of_succ_lt hk))

/-! ### Frames that do what is asked -/

/-- A frame for every turn takes one keyframe to the motion of another. -/
theorem exists_gauge {rotation : Quat} (hunit : Quaternion.normSq rotation = 1) (t : ℝ)
    (i : KeyframeBlocks) (m : Motion Vec3) :
    ∃ g : Gauge, g.rotation = rotation ∧ (g.moved t i).motion = m := by
  obtain ⟨f, hturn, hmoved⟩ := FallingFrame.exists_moved (Quat.toRotationMatrix rotation).mulVecLin
    gravityEnu t i.motion m
  refine ⟨⟨rotation, hunit, f.shift, f.speed⟩, rfl, ?_⟩
  rw [Gauge.moved_motion, ← hmoved, Gauge.frame, ← hturn]

/-- A frame that takes the oldest keyframe to another one with its biases. -/
theorem exists_gauge_oldest (hx : e.Oriented x) (hy : e.Oriented y) (hne : e.window ≠ [])
    (haccel : (x 0).accelBias = (y 0).accelBias) (hgyro : (x 0).gyroBias = (y 0).gyroBias) :
    ∃ g : Gauge, (e.movedWindow g x 0).Same (y 0) := by
  have hlength : 0 < e.window.length := List.length_pos_iff.mpr hne
  have hunit := Quat.normSq_normalized (hx 0 hlength)
  have hunit' := Quat.normSq_normalized (hy 0 hlength)
  have hstar : Quaternion.normSq (star (x 0).rotation.normalized) = 1 := by
    rw [Quaternion.normSq_star, hunit]
  have hrotation : Quaternion.normSq ((y 0).rotation.normalized * star (x 0).rotation.normalized)
      = 1 := by
    rw [map_mul, hunit', hstar, one_mul]
  obtain ⟨g, hg, hmotion⟩ := exists_gauge hrotation (e.windowSeconds 0) (x 0) (y 0).motion
  refine ⟨g, hmotion, ?_, haccel, hgyro⟩
  have horthogonal : (x 0).attitudeᵀ * (x 0).attitude = 1 :=
    mul_eq_one_comm.mp (Quat.toRotationMatrix_mul_transpose hunit)
  rw [movedWindow, Gauge.attitude_moved (hx 0 hlength), hg, Quat.toRotationMatrix_mul hunit' hstar,
    Quat.toRotationMatrix_star]
  show (y 0).attitude * (x 0).attitudeᵀ * (x 0).attitude = _
  rw [Matrix.mul_assoc, horthogonal, Matrix.mul_one]

/-- A frame in which the newest keyframe meets the fix. -/
theorem exists_gauge_fix (e : CeresSlidingWindowEstimator options) (gnss : GnssSolution)
    (posEnu : Vec3) (llt : Mat3 → Mat3) (x : ℕ → KeyframeBlocks) :
    ∃ g : Gauge, ∀ b ∈ (e.windowProblem gnss posEnu).residualBlocks, ¬ b.Inertial →
      b.residuals llt (e.movedWindow g x) = [0] := by
  let newest := e.window.length - 1
  obtain ⟨g, -, hmotion⟩ := exists_gauge (map_one Quaternion.normSq) (e.windowSeconds newest)
    (x newest) ⟨posEnu, e.plane.ecefToEnuRotation *ᵥ gnss.velocityEcefMps⟩
  have hposition : (e.movedWindow g x newest).position = posEnu := congrArg Motion.position hmotion
  have hvelocity : (e.movedWindow g x newest).velocity
      = e.plane.ecefToEnuRotation *ᵥ gnss.velocityEcefMps := congrArg Motion.velocity hmotion
  refine ⟨g, fun b hb hinertial => ?_⟩
  rcases List.mem_append.mp hb with hb | hb
  · exfalso
    apply hinertial
    rcases List.mem_append.mp hb with hb | hb
    · obtain ⟨_, _, rfl⟩ := List.mem_map.mp hb
      trivial
    · obtain ⟨_, _, rfl⟩ := List.mem_map.mp hb
      trivial
  · rcases List.mem_cons.mp hb with rfl | hb
    · rw [ResidualBlock.residuals, hposition, sub_self, mulVec_zero]
    · rw [List.mem_singleton.mp hb, ResidualBlock.residuals, hvelocity, sub_self, mulVec_zero]

end CeresSlidingWindowEstimator

/-! ### Main result -/

/-- **Gauge freedom.** In every run of an estimator, of the problem of its window:
    no residual of the inertial sensors changes in any frame that is turned, shifted, moving and
    falling; two windows with equal ones, and equal biases of the oldest keyframe, differ by such a
    frame, and not at all where the oldest keyframe is held constant; and if it were not held, there
    would be a frame in which the fix is met exactly, at no cost. -/
theorem gauge_freedom {options : CeresOptions} {e : CeresSlidingWindowEstimator options}
    (h : (system options).Reachable e) (hne : e.window ≠ []) (gnss : GnssSolution) (posEnu : Vec3)
    (llt : Mat3 → Mat3) (x : ℕ → KeyframeBlocks) (hx : e.Oriented x) :
    let blocks := (e.windowProblem gnss posEnu).residualBlocks
    (∀ g, ∀ b ∈ blocks, b.Inertial → b.residuals llt (e.movedWindow g x) = b.residuals llt x) ∧
      (∀ y, e.Oriented y → (∀ b ∈ blocks, b.Inertial → b.residuals llt y = b.residuals llt x) →
        ((x 0).accelBias = (y 0).accelBias → (x 0).gyroBias = (y 0).gyroBias →
          ∃ g, ∀ k < e.window.length, (e.movedWindow g x k).Same (y k)) ∧
        ((x 0).Same (y 0) → ∀ k < e.window.length, (x k).Same (y k))) ∧
      ∃ g, ∀ b ∈ blocks, ¬ b.Inertial → b.residuals llt (e.movedWindow g x) = [0] := by
  intro blocks
  have hmoved : ∀ g, e.Oriented (e.movedWindow g x) := by
    intro g k hk
    show 0 < Quaternion.normSq (g.rotation * (x k).rotation)
    rw [map_mul, g.unit, one_mul]
    exact hx k hk
  refine ⟨fun g b hb hinertial => residuals_movedWindow hx hb hinertial, ?_,
    exists_gauge_fix e gnss posEnu llt x⟩
  intro y hy hresiduals
  refine ⟨fun haccel hgyro => ?_, same_window h hx hy hresiduals⟩
  obtain ⟨g, holdest⟩ := exists_gauge_oldest hx hy hne haccel hgyro
  have hequal : ∀ b ∈ blocks, b.Inertial →
      b.residuals llt y = b.residuals llt (e.movedWindow g x) := by
    intro b hb hinertial
    rw [hresiduals b hb hinertial, residuals_movedWindow hx hb hinertial]
  exact ⟨g, same_window h (hmoved g) hy hequal holdest⟩

/-- The window after two fixes. -/
theorem afterSecondFix_eq :
    (afterSecondFix 0).estimator.window.length = 2 ∧
      (afterSecondFix 0).estimator.imuFactors
        = [(afterFirstFix {} 0).estimator.preint.finalize (fixAt 1000).timestamp] := by
  obtain ⟨_, hinit, hlast, _⟩ := afterFirstFix_eq {} 0
  let first : Recorded {} := Recorded.next idleLibrary {} (.imu (sampleAt 0))
  have hfix : first.estimator.addGnss idleLibrary (fixAt 0)
      = first.estimator.initFromGnss idleLibrary (fixAt 0) := addGnss_of_not_initialised rfl rfl
  have hwindow : (afterFirstFix {} 0).estimator.window.length = 1 := by
    show (first.estimator.addGnss idleLibrary (fixAt 0)).1.window.length = 1
    rw [hfix]
    rfl
  have hfactors : (afterFirstFix {} 0).estimator.imuFactors = [] := by
    show (first.estimator.addGnss idleLibrary (fixAt 0)).1.imuFactors = []
    rw [hfix]
    rfl
  have hlimit : (1 + 1 - CeresOptions.windowLimit {}) = 0 := by decide
  have hsecond : (afterSecondFix 0).estimator = ((afterFirstFix {} 0).estimator.createKeyframe
      idleLibrary (fixAt 1000) _).1 := congrArg Prod.fst (addGnss_of_second idleLibrary hinit hlast)
  rw [hsecond]
  constructor
  · rw [← length_windowTimes, createKeyframe_times, hwindow, hlimit, List.drop_zero,
      List.length_append, length_windowTimes, hwindow]
    rfl
  · rw [createKeyframe_imuFactors, hwindow, hlimit, hfactors]
    rfl

theorem normSq_halfTurn : Quaternion.normSq (⟨0, 1, 0, 0⟩ : Quat) = 1 :=
  (Quaternion.normSq_def' _).trans (by norm_num)

/-- Two keyframes, upside down. -/
theorem gauge_freedom_second :
    let e := (afterSecondFix 0).estimator
    let p := (afterFirstFix {} 0).estimator.preint.finalize (fixAt 1000).timestamp
    let x : ℕ → KeyframeBlocks := fun _ => {}
    let g : Gauge := ⟨⟨0, 1, 0, 0⟩, normSq_halfTurn, ![1, 0, 0], ![0, 2, 0]⟩
    (ResidualBlock.imuPreintegration p 0 1).residuals id (e.movedWindow g x)
      = (ResidualBlock.imuPreintegration p 0 1).residuals id x := by
  intro e p x g
  have hfirst := (afterFirstFix_eq {} 0).1.of_guarded
  have hsecond := hfirst.step (Recorded.next_step idleLibrary _ (.gnssSolution (fixAt 1000)))
  have hreach : (system {}).Reachable e := Recorded.reachable hsecond
  have hlength : e.window.length = 2 := afterSecondFix_eq.1
  have hfactors : e.imuFactors = [p] := afterSecondFix_eq.2
  have hne : e.window ≠ [] := List.length_pos_iff.mp (by omega)
  have hx : e.Oriented x := by
    intro k _
    show 0 < Quaternion.normSq (1 : Quat)
    rw [map_one]
    exact one_pos
  have hp : e.imuFactors[0]? = some p := by
    rw [hfactors]
    rfl
  exact (gauge_freedom hreach hne (fixAt 1000) 0 id x hx).1 g _
    (imuPreintegration_mem (by omega) hp) trivial

end FalconGuide
