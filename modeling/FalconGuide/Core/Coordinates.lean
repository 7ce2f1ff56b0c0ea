import FalconGuide.Core.Math
import Mathlib.Tactic.LinearCombination

namespace FalconGuide

open Matrix

/-!
# Geodetic coordinates and the local tangent plane

* `llaToEcef` / `ecefToLla` — WGS84 latitude, longitude and altitude, and ECEF positions;
* `LocalTangentPlane` — an ENU frame anchored at a point.
-/

/-- Geodetic latitude, longitude and altitude. -/
structure Lla where
  latitudeRad : ℝ := 0
  longitudeRad : ℝ := 0
  altitudeM : ℝ := 0

namespace Wgs84

/-- `kSemiMajorAxisM`. -/
noncomputable def semiMajorAxisM : ℝ := 6378137

/-- `kFlattening`. -/
noncomputable def flattening : ℝ := 1 / 298.257223563

/-- `kSemiMinorAxisM`. -/
noncomputable def semiMinorAxisM : ℝ := semiMajorAxisM * (1 - flattening)

/-- `kFirstEccentricitySquared`. -/
noncomputable def firstEccentricitySquared : ℝ := flattening * (2 - flattening)

/-- `kSecondEccentricitySquared`. -/
noncomputable def secondEccentricitySquared : ℝ :=
  firstEccentricitySquared / (1 - firstEccentricitySquared)

end Wgs84

open Wgs84

/-- The prime vertical radius at a latitude with sine `sinLat`. -/
noncomputable def primeVerticalRadius (sinLat : ℝ) : ℝ :=
  semiMajorAxisM / √(1 - firstEccentricitySquared * sinLat * sinLat)

/-- `LlaToEcef`. -/
noncomputable def llaToEcef (lla : Lla) : Vec3 :=
  let sinLat := Real.sin lla.latitudeRad
  let cosLat := Real.cos lla.latitudeRad
  let sinLon := Real.sin lla.longitudeRad
  let cosLon := Real.cos lla.longitudeRad
  let radius := primeVerticalRadius sinLat
  ![(radius + lla.altitudeM) * cosLat * cosLon,
    (radius + lla.altitudeM) * cosLat * sinLon,
    (radius * (1 - firstEccentricitySquared) + lla.altitudeM) * sinLat]

/-- `EcefToLla`. -/
noncomputable def ecefToLla (ecef : Vec3) : Lla :=
  let p := hypot (ecef 0) (ecef 1)
  let theta := atan2 (ecef 2 * semiMajorAxisM) (p * semiMinorAxisM)
  let sinTheta := Real.sin theta
  let cosTheta := Real.cos theta
  let latitude := atan2
    (ecef 2 + secondEccentricitySquared * semiMinorAxisM * sinTheta * sinTheta * sinTheta)
    (p - firstEccentricitySquared * semiMajorAxisM * cosTheta * cosTheta * cosTheta)
  let longitude := atan2 (ecef 1) (ecef 0)
  let altitude := p / Real.cos latitude - primeVerticalRadius (Real.sin latitude)
  { latitudeRad := latitude, longitudeRad := longitude, altitudeM := altitude }

/-- Where the equator meets the prime meridian. -/
theorem llaToEcef_zero : llaToEcef {} = ![6378137, 0, 0] := by
  simp [llaToEcef, primeVerticalRadius, semiMajorAxisM]

theorem ecefToLla_equator : ecefToLla ![6378137, 0, 0] = {} := by
  have hp : hypot 6378137 0 = 6378137 := by
    rw [hypot, sq (0 : ℝ), mul_zero, add_zero, Real.sqrt_sq (by norm_num)]
  have hatan : ∀ x : ℝ, 0 ≤ x → atan2 0 x = 0 := fun x hx => by
    rw [atan2]
    exact Complex.arg_ofReal_of_nonneg hx
  have haxis : (0 : ℝ) ≤ 6378137 * semiMinorAxisM := by
    rw [semiMinorAxisM, semiMajorAxisM, flattening]
    norm_num
  have hradius : (0 : ℝ) ≤ 6378137 - firstEccentricitySquared * 6378137 := by
    rw [firstEccentricitySquared, flattening]
    norm_num
  simp [ecefToLla, hp, hatan, haxis, hradius, primeVerticalRadius, semiMajorAxisM]

/-- `EcefToEnuRotation`. -/
noncomputable def ecefToEnuRotation (latitudeRad longitudeRad : ℝ) : Mat3 :=
  let sinLat := Real.sin latitudeRad
  let cosLat := Real.cos latitudeRad
  let sinLon := Real.sin longitudeRad
  let cosLon := Real.cos longitudeRad
  !![-sinLon, cosLon, 0;
     -sinLat * cosLon, -sinLat * sinLon, cosLat;
     cosLat * cosLon, cosLat * sinLon, sinLat]

/-- The rotation into a tangent plane is orthogonal. -/
theorem ecefToEnuRotation_mul_transpose (latitude longitude : ℝ) :
    ecefToEnuRotation latitude longitude * (ecefToEnuRotation latitude longitude)ᵀ = 1 := by
  have hlat := Real.sin_sq_add_cos_sq latitude
  have hlon := Real.sin_sq_add_cos_sq longitude
  ext i j
  rw [Matrix.mul_apply, Fin.sum_univ_three]
  fin_cases i <;> fin_cases j <;> simp [ecefToEnuRotation]
  · linear_combination hlon
  · ring
  · ring
  · ring
  · linear_combination Real.sin latitude ^ 2 * hlon + hlat
  · linear_combination -(Real.sin latitude * Real.cos latitude) * hlon
  · ring
  · linear_combination -(Real.sin latitude * Real.cos latitude) * hlon
  · linear_combination Real.cos latitude ^ 2 * hlon + hlat

/-- A local East-North-Up frame. -/
structure LocalTangentPlane where
  originLla : Lla
  originEcefM : Vec3
  ecefToEnuRotation : Mat3

namespace LocalTangentPlane

/-- The constructor. -/
noncomputable def make (originLla : Lla) : LocalTangentPlane where
  originLla
  originEcefM := llaToEcef originLla
  ecefToEnuRotation := FalconGuide.ecefToEnuRotation originLla.latitudeRad originLla.longitudeRad

/-- `EcefToEnu`. -/
def ecefToEnu (ltp : LocalTangentPlane) (point : Vec3) : Vec3 :=
  ltp.ecefToEnuRotation *ᵥ (point - ltp.originEcefM)

/-- `EnuToEcef`. -/
def enuToEcef (ltp : LocalTangentPlane) (point : Vec3) : Vec3 :=
  ltp.originEcefM + ltp.ecefToEnuRotationᵀ *ᵥ point

end LocalTangentPlane

end FalconGuide
