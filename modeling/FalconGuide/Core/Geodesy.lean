import FalconGuide.Core.Coordinates

namespace FalconGuide

open Matrix Wgs84

/-!
# Positions on the ellipsoid

For points of the WGS84 ellipsoid the formula of `ecefToLla` is exact, but it divides by the
cosine of the latitude.

* `OnEllipsoid` — the surface, which `llaToEcef` reaches at altitude zero;
* `latitudeRad_of_onEllipsoid` — the latitude that is found there;
* `ecefToLlaDivisors` — what is divided by;
* `surface_round_trip_iff` — positions on the surface come back, except the poles.
-/

/-! ### The constants -/

theorem semiMajorAxisM_pos : 0 < semiMajorAxisM := by
  rw [semiMajorAxisM]
  norm_num

theorem flattening_mem : 0 < flattening ∧ flattening < 1 := by
  rw [flattening]
  norm_num

theorem semiMinorAxisM_pos : 0 < semiMinorAxisM :=
  mul_pos semiMajorAxisM_pos (sub_pos.mpr flattening_mem.2)

/-- The axes of the ellipse and its eccentricity. -/
theorem one_sub_firstEccentricitySquared :
    1 - firstEccentricitySquared = (semiMinorAxisM / semiMajorAxisM) ^ 2 := by
  rw [semiMinorAxisM, mul_div_cancel_left₀ _ semiMajorAxisM_pos.ne', firstEccentricitySquared]
  ring

theorem one_sub_firstEccentricitySquared_pos : 0 < 1 - firstEccentricitySquared := by
  rw [one_sub_firstEccentricitySquared]
  exact pow_pos (div_pos semiMinorAxisM_pos semiMajorAxisM_pos) 2

theorem firstEccentricitySquared_nonneg : 0 ≤ firstEccentricitySquared := by
  have hpos := flattening_mem.1
  have hone := flattening_mem.2
  exact mul_nonneg hpos.le (by linarith)

/-- A fraction of the eccentricity leaves something of one. -/
theorem one_sub_firstEccentricitySquared_mul_pos {x : ℝ} (h : x ≤ 1) :
    0 < 1 - firstEccentricitySquared * x := by
  have hpos := one_sub_firstEccentricitySquared_pos
  have hle := mul_le_mul_of_nonneg_left h firstEccentricitySquared_nonneg
  linarith

/-- The root under which the radius is taken. -/
theorem sqrt_eccentricity_pos (θ : ℝ) :
    0 < √(1 - firstEccentricitySquared * Real.sin θ * Real.sin θ) := by
  apply Real.sqrt_pos.mpr
  rw [mul_assoc, ← sq]
  exact one_sub_firstEccentricitySquared_mul_pos (Real.sin_sq_le_one θ)

theorem primeVerticalRadius_pos (θ : ℝ) : 0 < primeVerticalRadius (Real.sin θ) :=
  div_pos semiMajorAxisM_pos (sqrt_eccentricity_pos θ)

/-- The radius is that of the ellipse. -/
theorem primeVerticalRadius_sq (θ : ℝ) :
    primeVerticalRadius (Real.sin θ) ^ 2 * (1 - firstEccentricitySquared * Real.sin θ ^ 2)
      = semiMajorAxisM ^ 2 := by
  have hroot := sqrt_eccentricity_pos θ
  have hsq := Real.sq_sqrt (Real.sqrt_pos.mp hroot).le
  rw [primeVerticalRadius, div_pow, hsq, mul_assoc, ← sq]
  rw [mul_assoc, ← sq] at hroot
  exact div_mul_cancel₀ _ (Real.sqrt_pos.mp hroot).ne'

/-! ### Directions -/

/-- `std::atan2` finds the angle of polar coordinates. -/
theorem atan2_mul_sin_cos {r θ : ℝ} (hr : 0 < r) (hlow : -Real.pi < θ) (hhigh : θ ≤ Real.pi) :
    atan2 (r * Real.sin θ) (r * Real.cos θ) = θ := by
  rw [atan2]
  convert Complex.arg_mul_cos_add_sin_mul_I hr ⟨hlow, hhigh⟩ using 2
  apply Complex.ext <;> simp [← Complex.ofReal_cos, ← Complex.ofReal_sin]

/-- It does not depend on the scale. -/
theorem atan2_mul_mul {r : ℝ} (hr : 0 < r) (y x : ℝ) : atan2 (r * y) (r * x) = atan2 y x := by
  rw [atan2, atan2, ← Complex.arg_real_mul ⟨x, y⟩ hr]
  congr 1
  apply Complex.ext <;> simp

/-- `hypot` is the length in the plane. -/
theorem norm_mk_eq_hypot (x y : ℝ) : ‖(⟨x, y⟩ : ℂ)‖ = hypot x y := by
  rw [Complex.norm_def, Complex.normSq_mk, hypot, sq, sq]

/-- The sine of the direction of a point. -/
theorem sin_atan2 (y x : ℝ) : Real.sin (atan2 y x) = y / hypot x y := by
  rw [atan2, Complex.sin_arg, norm_mk_eq_hypot]

/-- Its cosine, away from the origin. -/
theorem cos_atan2 {y x : ℝ} (h : hypot x y ≠ 0) : Real.cos (atan2 y x) = x / hypot x y := by
  have hne : (⟨x, y⟩ : ℂ) ≠ 0 := by
    rwa [← norm_ne_zero_iff, norm_mk_eq_hypot]
  rw [atan2, Complex.cos_arg hne, norm_mk_eq_hypot]

theorem hypot_sq (x y : ℝ) : hypot x y ^ 2 = x ^ 2 + y ^ 2 :=
  Real.sq_sqrt (add_nonneg (sq_nonneg x) (sq_nonneg y))

theorem hypot_eq_zero_iff {x y : ℝ} : hypot x y = 0 ↔ x = 0 ∧ y = 0 := by
  rw [hypot, Real.sqrt_eq_zero (add_nonneg (sq_nonneg x) (sq_nonneg y)),
    add_eq_zero_iff_of_nonneg (sq_nonneg x) (sq_nonneg y), sq_eq_zero_iff, sq_eq_zero_iff]

/-- Polar coordinates have their radius as length. -/
theorem hypot_mul_cos_sin {r : ℝ} (hr : 0 ≤ r) (θ : ℝ) :
    hypot (r * Real.cos θ) (r * Real.sin θ) = r := by
  rw [hypot, mul_pow, mul_pow, ← mul_add, Real.cos_sq_add_sin_sq, mul_one, Real.sqrt_sq hr]

/-! ### The surface -/

/-- The surface of the ellipsoid. -/
def OnEllipsoid (v : Vec3) : Prop :=
  (v 0 ^ 2 + v 1 ^ 2) / semiMajorAxisM ^ 2 + v 2 ^ 2 / semiMinorAxisM ^ 2 = 1

/-- The axis of the Earth, whose points have no longitude. -/
def OnAxis (v : Vec3) : Prop := v 0 = 0 ∧ v 1 = 0

theorem hypot_eq_zero_iff_onAxis (v : Vec3) : hypot (v 0) (v 1) = 0 ↔ OnAxis v :=
  hypot_eq_zero_iff

/-- The position on the surface at a latitude and a longitude. -/
noncomputable def surfacePoint (latitude longitude : ℝ) : Vec3 :=
  llaToEcef { latitudeRad := latitude, longitudeRad := longitude, altitudeM := 0 }

/-- A point of the surface, with its three coordinates written out. -/
theorem surfacePoint_eq (latitude longitude : ℝ) : surfacePoint latitude longitude
      = ![primeVerticalRadius (Real.sin latitude) * Real.cos latitude * Real.cos longitude,
          primeVerticalRadius (Real.sin latitude) * Real.cos latitude * Real.sin longitude,
          primeVerticalRadius (Real.sin latitude) * (1 - firstEccentricitySquared)
            * Real.sin latitude] := by
  rw [surfacePoint, llaToEcef]
  simp only [add_zero]

/-- Its distance from the axis. -/
theorem hypot_surfacePoint {latitude : ℝ} (h : 0 ≤ Real.cos latitude) (longitude : ℝ) :
    hypot (primeVerticalRadius (Real.sin latitude) * Real.cos latitude * Real.cos longitude)
        (primeVerticalRadius (Real.sin latitude) * Real.cos latitude * Real.sin longitude)
      = primeVerticalRadius (Real.sin latitude) * Real.cos latitude :=
  hypot_mul_cos_sin (mul_nonneg (primeVerticalRadius_pos latitude).le h) longitude

/-- Every latitude and longitude is on the ellipsoid. -/
theorem onEllipsoid_surfacePoint (latitude longitude : ℝ) :
    OnEllipsoid (surfacePoint latitude longitude) := by
  have hradius := primeVerticalRadius_sq latitude
  have hlat := Real.sin_sq_add_cos_sq latitude
  have hlon := Real.sin_sq_add_cos_sq longitude
  have ha := semiMajorAxisM_pos.ne'
  have hb := semiMinorAxisM_pos.ne'
  have haxes : semiMinorAxisM ^ 2 = semiMajorAxisM ^ 2 * (1 - firstEccentricitySquared) := by
    rw [one_sub_firstEccentricitySquared, div_pow, mul_div_cancel₀ _ (pow_ne_zero 2 ha)]
  have he := one_sub_firstEccentricitySquared_pos.ne'
  rw [OnEllipsoid, surfacePoint_eq, haxes]
  show ((_ * _ * _) ^ 2 + (_ * _ * _) ^ 2) / _ + (_ * _ * _) ^ 2 / _ = _
  rw [div_add_div _ _ (pow_ne_zero 2 ha) (mul_ne_zero (pow_ne_zero 2 ha) he),
    div_eq_one_iff_eq (mul_ne_zero (pow_ne_zero 2 ha) (mul_ne_zero (pow_ne_zero 2 ha) he))]
  linear_combination semiMajorAxisM ^ 2 * (1 - firstEccentricitySquared) * hradius
    + semiMajorAxisM ^ 2 * (1 - firstEccentricitySquared)
      * primeVerticalRadius (Real.sin latitude) ^ 2
      * (hlat + Real.cos latitude ^ 2 * hlon)

/-- On the surface the auxiliary angle is that of the parametric latitude. -/
theorem hypot_of_onEllipsoid {v : Vec3} (h : OnEllipsoid v) :
    hypot (hypot (v 0) (v 1) * semiMinorAxisM) (v 2 * semiMajorAxisM)
      = semiMajorAxisM * semiMinorAxisM := by
  have ha := semiMajorAxisM_pos
  have hb := semiMinorAxisM_pos
  rw [OnEllipsoid, ← hypot_sq, div_add_div _ _ (pow_ne_zero 2 ha.ne') (pow_ne_zero 2 hb.ne'),
    div_eq_one_iff_eq (mul_ne_zero (pow_ne_zero 2 ha.ne') (pow_ne_zero 2 hb.ne'))] at h
  rw [hypot, ← Real.sqrt_sq (mul_pos ha hb).le]
  congr 1
  linear_combination h

/-- Its sine and cosine are the coordinates in units of the axes. -/
theorem auxiliaryAngle_of_onEllipsoid {v : Vec3} (h : OnEllipsoid v) :
    Real.sin (atan2 (v 2 * semiMajorAxisM) (hypot (v 0) (v 1) * semiMinorAxisM))
        = v 2 / semiMinorAxisM ∧
      Real.cos (atan2 (v 2 * semiMajorAxisM) (hypot (v 0) (v 1) * semiMinorAxisM))
        = hypot (v 0) (v 1) / semiMajorAxisM := by
  have ha := semiMajorAxisM_pos.ne'
  have hb := semiMinorAxisM_pos.ne'
  have hnorm := hypot_of_onEllipsoid h
  have hne : hypot (hypot (v 0) (v 1) * semiMinorAxisM) (v 2 * semiMajorAxisM) ≠ 0 := by
    rw [hnorm]
    exact mul_ne_zero ha hb
  rw [sin_atan2, cos_atan2 hne, hnorm]
  constructor <;> field_simp

/-- The ellipse in the plane of the meridian. -/
theorem coordinates_of_onEllipsoid {v : Vec3} (h : OnEllipsoid v) :
    (hypot (v 0) (v 1) / semiMajorAxisM) ^ 2 + (v 2 / semiMinorAxisM) ^ 2 = 1 := by
  rw [div_pow, div_pow, hypot_sq]
  exact h

/-- **The latitude** found on the surface. -/
theorem latitudeRad_of_onEllipsoid {v : Vec3} (h : OnEllipsoid v) :
    (ecefToLla v).latitudeRad
      = atan2 (v 2) ((1 - firstEccentricitySquared) * hypot (v 0) (v 1)) := by
  obtain ⟨hsin, hcos⟩ := auxiliaryAngle_of_onEllipsoid h
  have hunit := coordinates_of_onEllipsoid h
  have ha := semiMajorAxisM_pos.ne'
  have hb := semiMinorAxisM_pos.ne'
  have he := one_sub_firstEccentricitySquared_pos
  -- Both arguments of the last `atan2` have the same positive factor.
  have hfactor : 0 < (1 - firstEccentricitySquared * (hypot (v 0) (v 1) / semiMajorAxisM) ^ 2)
      / (1 - firstEccentricitySquared) := by
    apply div_pos (one_sub_firstEccentricitySquared_mul_pos _) he
    linarith [sq_nonneg (v 2 / semiMinorAxisM)]
  rw [← atan2_mul_mul hfactor]
  simp only [ecefToLla, hsin, hcos]
  congr 1
  · rw [secondEccentricitySquared]
    have hsq : (v 2 / semiMinorAxisM) ^ 2 = 1 - (hypot (v 0) (v 1) / semiMajorAxisM) ^ 2 := by
      linarith
    have hcube : firstEccentricitySquared / (1 - firstEccentricitySquared) * semiMinorAxisM
        * (v 2 / semiMinorAxisM) * (v 2 / semiMinorAxisM) * (v 2 / semiMinorAxisM)
        = firstEccentricitySquared / (1 - firstEccentricitySquared)
          * (1 - (hypot (v 0) (v 1) / semiMajorAxisM) ^ 2) * v 2 := by
      rw [← hsq]
      field_simp
    rw [hcube]
    field_simp
    ring
  · field_simp

/-- No point of the surface is the centre. -/
theorem hypot_latitude_ne_zero {v : Vec3} (h : OnEllipsoid v) :
    hypot ((1 - firstEccentricitySquared) * hypot (v 0) (v 1)) (v 2) ≠ 0 := by
  intro hzero
  obtain ⟨hp, hz⟩ := hypot_eq_zero_iff.mp hzero
  have hunit := coordinates_of_onEllipsoid h
  rw [(mul_eq_zero.mp hp).resolve_left one_sub_firstEccentricitySquared_pos.ne', hz] at hunit
  norm_num at hunit

/-- The computed latitude is a right angle on the axis only. -/
theorem cos_latitudeRad_eq_zero_iff {v : Vec3} (h : OnEllipsoid v) :
    Real.cos (ecefToLla v).latitudeRad = 0 ↔ OnAxis v := by
  have hne := hypot_latitude_ne_zero h
  rw [latitudeRad_of_onEllipsoid h, cos_atan2 hne, div_eq_zero_iff, or_iff_left hne, mul_eq_zero,
    or_iff_right one_sub_firstEccentricitySquared_pos.ne', hypot_eq_zero_iff_onAxis]

/-! ### Divisions -/

/-- What `ecefToLla` and its constants divide by. -/
noncomputable def ecefToLlaDivisors (ecef : Vec3) : List ℝ :=
  let latitude := (ecefToLla ecef).latitudeRad
  let sinLat := Real.sin latitude
  [298.257223563, 1 - firstEccentricitySquared, Real.cos latitude,
    √(1 - firstEccentricitySquared * sinLat * sinLat)]

/-- No divisor is zero. -/
def DividesSafely (ecef : Vec3) : Prop := ∀ divisor ∈ ecefToLlaDivisors ecef, divisor ≠ 0

/-- Only the cosine of the latitude can be zero. -/
theorem dividesSafely_iff_cos (ecef : Vec3) :
    DividesSafely ecef ↔ Real.cos (ecefToLla ecef).latitudeRad ≠ 0 := by
  have hflattening : (298.257223563 : ℝ) ≠ 0 := by norm_num
  have heccentricity := one_sub_firstEccentricitySquared_pos.ne'
  have hroot := (sqrt_eccentricity_pos (ecefToLla ecef).latitudeRad).ne'
  simp only [DividesSafely, ecefToLlaDivisors, List.forall_mem_cons]
  exact ⟨fun h => h.2.2.1, fun h => ⟨hflattening, heccentricity, h, hroot, by simp⟩⟩

/-- **On the surface** only the cosine of the latitude can be zero, at the poles. -/
theorem dividesSafely_iff {v : Vec3} (h : OnEllipsoid v) : DividesSafely v ↔ ¬ OnAxis v := by
  rw [dividesSafely_iff_cos, ne_eq, cos_latitudeRad_eq_zero_iff h]

/-! ### Round trips -/

/-- The latitude comes back, at the poles too. -/
theorem latitudeRad_round_trip {latitude : ℝ} (hlow : -(Real.pi / 2) ≤ latitude)
    (hhigh : latitude ≤ Real.pi / 2) (longitude : ℝ) :
    (ecefToLla (surfacePoint latitude longitude)).latitudeRad = latitude := by
  have hpi := Real.pi_pos
  have hcos := Real.cos_nonneg_of_neg_pi_div_two_le_of_le hlow hhigh
  have hradius := mul_pos one_sub_firstEccentricitySquared_pos (primeVerticalRadius_pos latitude)
  rw [latitudeRad_of_onEllipsoid (onEllipsoid_surfacePoint latitude longitude), surfacePoint_eq]
  show atan2 (_ * _ * _) (_ * hypot (_ * _ * _) (_ * _ * _)) = latitude
  rw [hypot_surfacePoint hcos, ← mul_assoc, mul_comm (primeVerticalRadius _) (1 - _)]
  exact atan2_mul_sin_cos hradius (by linarith) (by linarith)

/-- The points on the axis are the poles. -/
theorem onAxis_surfacePoint_iff {latitude : ℝ} (hlow : -(Real.pi / 2) ≤ latitude)
    (hhigh : latitude ≤ Real.pi / 2) (longitude : ℝ) :
    OnAxis (surfacePoint latitude longitude) ↔ Real.cos latitude = 0 := by
  have hsurface := onEllipsoid_surfacePoint latitude longitude
  rw [← cos_latitudeRad_eq_zero_iff hsurface, latitudeRad_round_trip hlow hhigh]

/-- Among latitudes, those of the poles have no cosine. -/
theorem cos_eq_zero_iff_pole {latitude : ℝ} (hlow : -(Real.pi / 2) ≤ latitude)
    (hhigh : latitude ≤ Real.pi / 2) :
    Real.cos latitude = 0 ↔ latitude = -(Real.pi / 2) ∨ latitude = Real.pi / 2 := by
  refine ⟨fun h => ?_, ?_⟩
  · by_contra hne
    rw [not_or] at hne
    have hlow' := lt_of_le_of_ne hlow (Ne.symm hne.1)
    have hhigh' := lt_of_le_of_ne hhigh hne.2
    exact (Real.cos_pos_of_mem_Ioo ⟨hlow', hhigh'⟩).ne' h
  · rintro (rfl | rfl)
    · rw [Real.cos_neg, Real.cos_pi_div_two]
    · exact Real.cos_pi_div_two

/-- The longitude comes back off the poles. -/
theorem longitudeRad_round_trip {latitude longitude : ℝ} (h : 0 < Real.cos latitude)
    (hlow : -Real.pi < longitude) (hhigh : longitude ≤ Real.pi) :
    (ecefToLla (surfacePoint latitude longitude)).longitudeRad = longitude := by
  rw [surfacePoint_eq]
  exact atan2_mul_sin_cos (mul_pos (primeVerticalRadius_pos latitude) h) hlow hhigh

/-- The altitude is what the quotient has more than the radius. -/
theorem altitudeM_round_trip {latitude : ℝ} (hlow : -(Real.pi / 2) ≤ latitude)
    (hhigh : latitude ≤ Real.pi / 2) (longitude : ℝ) :
    (ecefToLla (surfacePoint latitude longitude)).altitudeM
      = primeVerticalRadius (Real.sin latitude) * Real.cos latitude / Real.cos latitude
        - primeVerticalRadius (Real.sin latitude) := by
  have hcos := Real.cos_nonneg_of_neg_pi_div_two_le_of_le hlow hhigh
  have hlatitude := latitudeRad_round_trip hlow hhigh longitude
  have haltitude : ∀ v : Vec3, (ecefToLla v).altitudeM
      = hypot (v 0) (v 1) / Real.cos (ecefToLla v).latitudeRad
        - primeVerticalRadius (Real.sin (ecefToLla v).latitudeRad) := fun v => rfl
  rw [haltitude, hlatitude, surfacePoint_eq]
  show hypot (_ * _ * _) (_ * _ * _) / _ - _ = _
  rw [hypot_surfacePoint hcos]

/-- What is promised of a position on the surface, there and back. -/
structure SurfaceRoundTrip (latitude longitude : ℝ) : Prop where
  altitudeM_eq : (ecefToLla (surfacePoint latitude longitude)).altitudeM = 0
  latitudeRad_eq : (ecefToLla (surfacePoint latitude longitude)).latitudeRad = latitude
  /-- The poles have every longitude. -/
  longitudeRad_eq : Real.cos latitude ≠ 0 →
    (ecefToLla (surfacePoint latitude longitude)).longitudeRad = longitude
  safe : DividesSafely (surfacePoint latitude longitude)

/-- The round trip succeeds where the latitude has a cosine. -/
theorem surfaceRoundTrip_iff_cos {latitude longitude : ℝ} (hlow : -(Real.pi / 2) ≤ latitude)
    (hhigh : latitude ≤ Real.pi / 2) (hwest : -Real.pi < longitude) (heast : longitude ≤ Real.pi) :
    SurfaceRoundTrip latitude longitude ↔ Real.cos latitude ≠ 0 := by
  have hcos := Real.cos_nonneg_of_neg_pi_div_two_le_of_le hlow hhigh
  have hsafe : DividesSafely (surfacePoint latitude longitude) ↔ Real.cos latitude ≠ 0 := by
    rw [dividesSafely_iff (onEllipsoid_surfacePoint latitude longitude), ne_eq,
      onAxis_surfacePoint_iff hlow hhigh]
  refine ⟨fun h => hsafe.mp h.safe, fun h => ⟨?_, ?_, fun _ => ?_, hsafe.mpr h⟩⟩
  · rw [altitudeM_round_trip hlow hhigh, mul_div_cancel_right₀ _ h, sub_self]
  · exact latitudeRad_round_trip hlow hhigh longitude
  · exact longitudeRad_round_trip (lt_of_le_of_ne hcos (Ne.symm h)) hwest heast

/-- **Positions on the surface come back** exactly when they are no poles, and of the points of
    the ellipsoid exactly those on the axis make `ecefToLla` divide by zero. -/
theorem surface_round_trip_iff {latitude longitude : ℝ} (hlow : -(Real.pi / 2) ≤ latitude)
    (hhigh : latitude ≤ Real.pi / 2) (hwest : -Real.pi < longitude) (heast : longitude ≤ Real.pi)
    {v : Vec3} (hv : OnEllipsoid v) :
    (SurfaceRoundTrip latitude longitude
      ↔ latitude ≠ -(Real.pi / 2) ∧ latitude ≠ Real.pi / 2) ∧
    (DividesSafely v ↔ v 0 ≠ 0 ∨ v 1 ≠ 0) := by
  constructor
  · rw [surfaceRoundTrip_iff_cos hlow hhigh hwest heast, ne_eq, cos_eq_zero_iff_pole hlow hhigh,
      not_or]
  · rw [dividesSafely_iff hv, OnAxis, not_and_or]

/-- A place in the north, and the point of the equator in the tests. -/
theorem surface_round_trip_quarter :
    (SurfaceRoundTrip (Real.pi / 4) (Real.pi / 3)
      ↔ Real.pi / 4 ≠ -(Real.pi / 2) ∧ Real.pi / 4 ≠ Real.pi / 2) ∧
    (DividesSafely ![semiMajorAxisM, 0, 0]
      ↔ (![semiMajorAxisM, 0, 0] : Vec3) 0 ≠ 0 ∨ (![semiMajorAxisM, 0, 0] : Vec3) 1 ≠ 0) := by
  have hpi := Real.pi_pos
  have hsurface : OnEllipsoid ![semiMajorAxisM, 0, 0] := by
    have ha := semiMajorAxisM_pos.ne'
    simp [OnEllipsoid, ha]
  exact surface_round_trip_iff (by linarith) (by linarith) (by linarith) (by linarith) hsurface

/-- At the north pole the altitude is that of the radius, below the ground, and the quotient in
    it is one by zero. -/
theorem north_pole_not_safe :
    OnEllipsoid (surfacePoint (Real.pi / 2) 0) ∧
    (ecefToLla (surfacePoint (Real.pi / 2) 0)).altitudeM ≠ 0 ∧
    ¬ DividesSafely (surfacePoint (Real.pi / 2) 0) := by
  have hpi := Real.pi_pos
  have hlow : -(Real.pi / 2) ≤ Real.pi / 2 := by linarith
  have hsurface := onEllipsoid_surfacePoint (Real.pi / 2) 0
  refine ⟨hsurface, ?_, ?_⟩
  · have hradius := primeVerticalRadius_pos (Real.pi / 2)
    rw [altitudeM_round_trip hlow le_rfl, Real.cos_pi_div_two, div_zero]
    linarith
  · rw [dividesSafely_iff hsurface, not_not, onAxis_surfacePoint_iff hlow le_rfl]
    exact Real.cos_pi_div_two

end FalconGuide
