import FalconGuide.App.Json
import FalconGuide.Core.Coordinates
import FalconGuide.Core.EulerAngles
import FalconGuide.Core.NavigationState

namespace FalconGuide

open Lib Matrix

/-!
# The event of a navigation state

`IpcServer::NavStateJson`.  It computes over exact reals, and every number is rounded to a `double`
when it is put into the event; how is a parameter.

* `navRollDeg`, `navPitchDeg`, `navYawDeg` — the three angles;
* `navStateJson` — the event;
* `navRollDeg_eq`, `navPitchDeg_eq`, `navYawDeg_eq` — they are read off the rotation matrix, and
  `quaternionToEuler_eq_nav` — as `quaternionToEuler` reads them;
* `nav_angles` — the main result: when the angles give the attitude back.
-/

/-! ### The numbers -/

/-- `r2d`. -/
noncomputable def r2d : ℝ := 180 / Real.pi

/-- `roll_deg`. -/
noncomputable def navRollDeg (q : Quat) : ℝ :=
  atan2 (2 * (q.re * q.imI + q.imJ * q.imK)) (1 - 2 * (q.imI * q.imI + q.imJ * q.imJ)) * r2d

/-- `pitch_deg`, of an argument that is clamped. -/
noncomputable def navPitchDeg (q : Quat) : ℝ :=
  Real.arcsin (max (-1) (min (2 * (q.re * q.imJ - q.imK * q.imI)) 1)) * r2d

/-- `yaw_deg`. -/
noncomputable def navYawDeg (q : Quat) : ℝ :=
  atan2 (2 * (q.re * q.imK + q.imI * q.imJ)) (1 - 2 * (q.imJ * q.imJ + q.imK * q.imK)) * r2d

/-- `nav_status_str`. -/
def navStatusStr : NavigationStatus → String
  | .nominal => "nominal"
  | .deadReckoning => "dead_reckoning"
  | .degraded => "degraded"
  | .initializing => "initializing"
  | .fault => "fault"
  | _ => "unknown"

/-- `ts_ns`: zero without a monotonic time. -/
def navTimestampNs (t : Timestamp) : ℤ := if t.hasSteady then t.steady.nanosecondsSinceEpoch else 0

/-- `NavStateJson`. -/
noncomputable def navStateJson (round : ℝ → ℚ) (state : NavigationState) : Json :=
  let lla := ecefToLla state.positionEcefM
  let q := state.orientationBodyToEnu
  let cov := state.covariance
  let v := state.velocityEnuMps
  .obj [("event", .str "nav_state"),
    ("timestamp_ns", .int (navTimestampNs state.timestamp)),
    ("lat_deg", .num (round (lla.latitudeRad * r2d))),
    ("lon_deg", .num (round (lla.longitudeRad * r2d))),
    ("alt_m", .num (round lla.altitudeM)),
    ("vel_enu_mps", .arr [.num (round (v 0)), .num (round (v 1)), .num (round (v 2))]),
    ("roll_deg", .num (round (navRollDeg q))),
    ("pitch_deg", .num (round (navPitchDeg q))),
    ("yaw_deg", .num (round (navYawDeg q))),
    ("pos_std_h_m", .num (round √(max 0 ((cov 0 0 + cov 1 1) * 0.5)))),
    ("pos_std_v_m", .num (round √(max 0 (cov 2 2)))),
    ("vel_std_mps", .num (round √(max 0 ((cov 3 3 + cov 4 4 + cov 5 5) / 3)))),
    ("initialized", .bool state.quality.initialized),
    ("nav_status", .str (navStatusStr state.status))]

/-! ### The angles -/

theorem r2d_ne_zero : r2d ≠ 0 := div_ne_zero (by norm_num) Real.pi_ne_zero

theorem navRollDeg_eq (q : Quat) : navRollDeg q / r2d = rollOf (Quat.toRotationMatrix q) := by
  rw [navRollDeg, mul_div_cancel_right₀ _ r2d_ne_zero, rollOf, atan2]
  congr 2
  · simp only [Quat.toRotationMatrix, of_apply, cons_val]
    ring
  · simp only [Quat.toRotationMatrix, of_apply, cons_val]
    ring

theorem navYawDeg_eq (q : Quat) : navYawDeg q / r2d = yawOf (Quat.toRotationMatrix q) := by
  rw [navYawDeg, mul_div_cancel_right₀ _ r2d_ne_zero, yawOf, atan2]
  congr 2
  · simp only [Quat.toRotationMatrix, of_apply, cons_val]
    ring
  · simp only [Quat.toRotationMatrix, of_apply, cons_val]
    ring

/-- Of a rotation, nothing is clamped. -/
theorem navPitchDeg_eq {q : Quat} (h : Quaternion.normSq q = 1) :
    navPitchDeg q / r2d = pitchOf (Quat.toRotationMatrix q) := by
  have hentry : 2 * (q.re * q.imJ - q.imK * q.imI) = -(Quat.toRotationMatrix q 2 0) := by
    simp only [Quat.toRotationMatrix, of_apply, cons_val]
    ring
  obtain ⟨hlower, hupper⟩ :=
    abs_le.mp ((sq_le_one_iff_abs_le_one _).mp (Quat.isRotation h).sq_le_one)
  rw [navPitchDeg, mul_div_cancel_right₀ _ r2d_ne_zero, pitchOf, hentry,
    min_eq_left (by linarith), max_eq_right (by linarith)]

/-- They are what `quaternionToEuler` computes, in degrees. -/
theorem quaternionToEuler_eq_nav {q : Quat} (h : Quaternion.normSq q = 1) :
    quaternionToEuler q = ⟨navRollDeg q / r2d, navPitchDeg q / r2d, navYawDeg q / r2d⟩ := by
  rw [quaternionToEuler_eq, Quat.normalizeQuaternion_of_unit h, navRollDeg_eq, navPitchDeg_eq h,
    navYawDeg_eq]

/-- The published angles as a rotation. -/
noncomputable def navRotation (q : Quat) : Mat3 :=
  ofEulerAngles (navRollDeg q / r2d) (navPitchDeg q / r2d) (navYawDeg q / r2d)

/-- **The published angles**, of every unit attitude: they give it back exactly when the nose does
    not point straight up or down, or the attitude is a pure pitch; and when it does not, no other
    angles in their ranges would. -/
theorem nav_angles (q : Quat) (h : Quaternion.normSq q = 1) :
    (navRotation q = Quat.toRotationMatrix q ↔
      Quat.toRotationMatrix q 2 0 ^ 2 ≠ 1 ∨ Quat.toRotationMatrix q 1 1 = 1) ∧
    ∀ r p y : ℝ, r ∈ Set.Ioc (-Real.pi) Real.pi →
      p ∈ Set.Ioo (-(Real.pi / 2)) (Real.pi / 2) → y ∈ Set.Ioc (-Real.pi) Real.pi →
      ofEulerAngles r p y = Quat.toRotationMatrix q →
      navRollDeg q = r * r2d ∧ navPitchDeg q = p * r2d ∧ navYawDeg q = y * r2d := by
  constructor
  · rw [navRotation, navRollDeg_eq, navPitchDeg_eq h, navYawDeg_eq]
    exact ofEulerAngles_anglesOf_iff (Quat.isRotation h)
  · intro r p y hr hp hy hangles
    obtain ⟨hroll, hpitch, hyaw⟩ := anglesOf_ofEulerAngles hr hp hy
    rw [hangles] at hroll hpitch hyaw
    refine ⟨?_, ?_, ?_⟩
    · rw [← div_eq_iff r2d_ne_zero, navRollDeg_eq, hroll]
    · rw [← div_eq_iff r2d_ne_zero, navPitchDeg_eq h, hpitch]
    · rw [← div_eq_iff r2d_ne_zero, navYawDeg_eq, hyaw]

/-- A third of a turn about the diagonal: roll and yaw are right angles. -/
theorem nav_angles_diagonal :
    let q : Quat := ⟨1 / 2, 1 / 2, 1 / 2, 1 / 2⟩
    navRotation q = Quat.toRotationMatrix q ∧
      navRollDeg q = 90 ∧ navPitchDeg q = 0 ∧ navYawDeg q = 90 := by
  intro q
  have hmatrix : Quat.toRotationMatrix q = !![0, 0, 1; 1, 0, 0; 0, 1, 0] := by
    ext i j
    fin_cases i <;> fin_cases j <;> norm_num [Quat.toRotationMatrix, q]
  have hunit : Quaternion.normSq q = 1 := by
    rw [Quaternion.normSq_def']
    norm_num [q]
  obtain ⟨hrotation, hunique⟩ := nav_angles q hunit
  have hpi := Real.pi_pos
  have hangles : ofEulerAngles (Real.pi / 2) 0 (Real.pi / 2) = Quat.toRotationMatrix q := by
    rw [hmatrix, ofEulerAngles_eq]
    simp
  obtain ⟨hroll, hpitch, hyaw⟩ := hunique (Real.pi / 2) 0 (Real.pi / 2)
    ⟨by linarith, by linarith⟩ ⟨by linarith, by linarith⟩ ⟨by linarith, by linarith⟩ hangles
  have hninety : Real.pi / 2 * r2d = 90 := by
    rw [r2d]
    field_simp
    norm_num
  refine ⟨hrotation.mpr (.inl ?_), hroll.trans hninety, hpitch.trans (zero_mul _),
    hyaw.trans hninety⟩
  have hnose : Quat.toRotationMatrix q 2 0 = 0 := by
    rw [hmatrix]
    rfl
  rw [hnose]
  norm_num

end FalconGuide
