import FalconGuide.Io.NmeaParsing
import Mathlib.Tactic.Linarith

namespace FalconGuide

open Lib

/-!
# Ranges of the parsed angles

The position of a sentence that `ParseGga` or `ParseRmc` accepts.

* `IsOnAxis` — what is promised of an angle: its letter, its minutes, its range and its sign;
* `AcceptsPlaces` — so it is with both angles of every fix that is accepted;
* `IsGeographic` — the condition on the numbers that the texts are converted to;
* `acceptsPlaces_iff` — that condition is exact.
-/

/-! ### What is promised -/

/-- The letter of the angles that are not negative. -/
def positiveLetter (isLatitude : Bool) : List UInt8 := if isLatitude then ascii "N" else ascii "E"

/-- The letter of the angles that are not positive. -/
def negativeLetter (isLatitude : Bool) : List UInt8 := if isLatitude then ascii "S" else ascii "W"

/-- The largest angle, in degrees. -/
def largestAngle (isLatitude : Bool) : ℚ := if isLatitude then 90 else 180

/-- A field with the angle that is used for it. -/
structure IsOnAxis (value hemisphere : List UInt8) (isLatitude : Bool)
    (angle : Double ℚ) : Prop where
  letter : hemisphere = positiveLetter isLatitude ∨ hemisphere = negativeLetter isLatitude
  minutes : ∃ minutes, stod (value.drop (degreeDigits isLatitude)) = .ok (.finite minutes) ∧
    0 ≤ minutes ∧ minutes < 60
  range : ∃ x, angle = .finite x ∧ |x| ≤ largestAngle isLatitude ∧
    (hemisphere = positiveLetter isLatitude → 0 ≤ x) ∧
    (hemisphere = negativeLetter isLatitude → x ≤ 0)

/-- What is accepted has its place on Earth. -/
structure AcceptsPlaces (s : NmeaSentence) : Prop where
  gga : ∀ fix, parseGga s = .ok (some fix) →
    IsOnAxis (s.field 1) (s.field 2) true fix.latitudeDeg ∧
    IsOnAxis (s.field 3) (s.field 4) false fix.longitudeDeg
  rmc : ∀ fix, parseRmc s = .ok (some fix) →
    IsOnAxis (s.field 2) (s.field 3) true fix.latitudeDeg ∧
    IsOnAxis (s.field 4) (s.field 5) false fix.longitudeDeg

/-! ### When it holds -/

/-- Numbers that make an angle of this axis, with a letter of it. -/
structure IsGeographic (hemisphere : List UInt8) (isLatitude : Bool)
    (degrees minutes : Double ℚ) : Prop where
  letter : hemisphere = positiveLetter isLatitude ∨ hemisphere = negativeLetter isLatitude
  range : ∃ d m, degrees = .finite d ∧ minutes = .finite m ∧ 0 ≤ m ∧ m < 60 ∧
    0 ≤ d + m / 60 ∧ d + m / 60 ≤ largestAngle isLatitude

/-- The numbers of two fields that are both read as angles. -/
def PositionInRange (latitude northSouth longitude eastWest : List UInt8) : Prop :=
  ∀ d m d' m', IsAngle latitude northSouth true d m → IsAngle longitude eastWest false d' m' →
    IsGeographic northSouth true d m ∧ IsGeographic eastWest false d' m'

/-- The positions that are not refused are in range. -/
structure NmeaSentence.HasPlaces (s : NmeaSentence) : Prop where
  gga : s.IsGga → (∀ i ∈ [7, 8], s.field i ≠ [] → Converts (s.field i)) →
    PositionInRange (s.field 1) (s.field 2) (s.field 3) (s.field 4)
  rmc : s.IsRmc → PositionInRange (s.field 2) (s.field 3) (s.field 4) (s.field 5)

/-! ### One angle -/

section

variable {value hemisphere : List UInt8} {isLatitude : Bool} {degrees minutes : Double ℚ}

/-- The letters of the axes, as the parser tells them apart. -/
theorem letter_spec (isLatitude : Bool) :
    positiveLetter isLatitude ≠ negativeLetter isLatitude ∧
    ¬ (positiveLetter isLatitude = ascii "S" ∨ positiveLetter isLatitude = ascii "W") ∧
    (negativeLetter isLatitude = ascii "S" ∨ negativeLetter isLatitude = ascii "W") := by
  cases isLatitude <;> decide

/-- A sum is a number if both summands are. -/
theorem add_map_eq_finite {x : ℚ} (h : degrees.add (minutes.map (· / 60)) = .finite x) :
    ∃ d m, degrees = .finite d ∧ minutes = .finite m ∧ x = d + m / 60 := by
  cases degrees with
  | finite d =>
    cases minutes with
    | finite m => exact ⟨d, m, rfl, rfl, (Double.finite.inj h).symm⟩
    | infinite _ => cases h
    | nan => cases h
  | infinite n =>
    cases minutes with
    | finite m => cases h
    | infinite m =>
      rw [Double.map, Double.add] at h
      split at h <;> cases h
    | nan => cases h
  | nan => cases h

theorem neg_eq_finite {y : Double ℚ} {x : ℚ} (h : y.neg = .finite x) : y = .finite (-x) := by
  cases y with
  | finite y =>
    cases h
    rw [neg_neg]
  | infinite _ => cases h
  | nan => cases h

/-- An angle that is used is on its axis exactly if its numbers make such an angle. -/
theorem isOnAxis_iff (h : IsAngle value hemisphere isLatitude degrees minutes) :
    IsOnAxis value hemisphere isLatitude (onHemisphere hemisphere degrees minutes) ↔
      IsGeographic hemisphere isLatitude degrees minutes := by
  obtain ⟨hne, hpositive, hnegative⟩ := letter_spec isLatitude
  constructor
  · rintro ⟨hletter, ⟨m, hm, hm0, hm60⟩, ⟨x, hx, hrange, hpos, hneg⟩⟩
    refine ⟨hletter, ?_⟩
    cases Except.ok.inj (h.minutes.symm.trans hm)
    rcases hletter with rfl | rfl
    · rw [onHemisphere, if_neg hpositive] at hx
      obtain ⟨d, m', rfl, hm', rfl⟩ := add_map_eq_finite hx
      cases hm'
      exact ⟨d, m, rfl, rfl, hm0, hm60, hpos rfl, (le_abs_self _).trans hrange⟩
    · rw [onHemisphere, if_pos hnegative] at hx
      obtain ⟨d, m', rfl, hm', hsum⟩ := add_map_eq_finite (neg_eq_finite hx)
      cases hm'
      refine ⟨d, m, rfl, rfl, hm0, hm60, ?_, ?_⟩
      · rw [← hsum, neg_nonneg]
        exact hneg rfl
      · rw [← hsum]
        exact (neg_le_abs x).trans hrange
  · rintro ⟨hletter, ⟨d, m, rfl, rfl, hm0, hm60, hnonneg, hle⟩⟩
    refine ⟨hletter, ⟨m, h.minutes, hm0, hm60⟩, ?_⟩
    rcases hletter with rfl | rfl
    · refine ⟨d + m / 60, ?_, ?_, ?_, ?_⟩
      · rw [onHemisphere, if_neg hpositive]
        rfl
      · rw [abs_of_nonneg hnonneg]
        exact hle
      · exact fun _ => hnonneg
      · exact fun heq => absurd heq hne
    · refine ⟨-(d + m / 60), ?_, ?_, ?_, ?_⟩
      · rw [onHemisphere, if_pos hnegative]
        rfl
      · rw [abs_neg, abs_of_nonneg hnonneg]
        exact hle
      · exact fun heq => absurd heq hne.symm
      · exact fun _ => neg_nonpos.mpr hnonneg

end

/-! ### Sentences -/

/-- What holds of every fix of a position. -/
theorem forall_parsePosition_iff {α : Type} {latitude northSouth longitude eastWest : List UInt8}
    {f : Double ℚ → Double ℚ → Except ConversionError (Option α)} {p : α → Prop} :
    (∀ a, parsePosition latitude northSouth longitude eastWest f = .ok (some a) → p a) ↔
      ∀ d m d' m', IsAngle latitude northSouth true d m → IsAngle longitude eastWest false d' m' →
        ∀ a, f (onHemisphere northSouth d m) (onHemisphere eastWest d' m') = .ok (some a) →
          p a := by
  constructor
  · intro h d m d' m' hlatitude hlongitude a ha
    exact h a (parsePosition_eq_some.mpr ⟨_, _,
      parseNmeaLatitudeLongitude_eq_some.mpr ⟨d, m, hlatitude, rfl⟩,
      parseNmeaLatitudeLongitude_eq_some.mpr ⟨d', m', hlongitude, rfl⟩, ha⟩)
  · intro h a ha
    obtain ⟨x, y, hx, hy, ha⟩ := parsePosition_eq_some.mp ha
    obtain ⟨d, m, hlatitude, rfl⟩ := parseNmeaLatitudeLongitude_eq_some.mp hx
    obtain ⟨d', m', hlongitude, rfl⟩ := parseNmeaLatitudeLongitude_eq_some.mp hy
    exact h d m d' m' hlatitude hlongitude a ha

theorem acceptsGga_iff (s : NmeaSentence) :
    (∀ fix, parseGga s = .ok (some fix) →
        IsOnAxis (s.field 1) (s.field 2) true fix.latitudeDeg ∧
        IsOnAxis (s.field 3) (s.field 4) false fix.longitudeDeg) ↔
      (s.IsGga → (∀ i ∈ [7, 8], s.field i ≠ [] → Converts (s.field i)) →
        PositionInRange (s.field 1) (s.field 2) (s.field 3) (s.field 4)) := by
  by_cases h : s.IsGga
  · rw [parseGga_of_isGga h, forall_prop_of_true h, forall_parsePosition_iff]
    constructor
    · intro hplaces hconverts d m d' m' hlatitude hlongitude
      obtain ⟨altitude, haltitude⟩ := exists_parseOptional.mpr (hconverts 8 (by simp))
      obtain ⟨horizontalDop, hdop⟩ := exists_parseOptional.mpr (hconverts 7 (by simp))
      have hplace := hplaces d m d' m' hlatitude hlongitude _
        (ggaFix_eq_ok.mpr ⟨altitude, horizontalDop, haltitude, hdop, rfl⟩)
      exact ⟨(isOnAxis_iff hlatitude).mp hplace.1, (isOnAxis_iff hlongitude).mp hplace.2⟩
    · intro hrange d m d' m' hlatitude hlongitude fix hfix
      obtain ⟨altitude, horizontalDop, haltitude, hdop, hsome⟩ := ggaFix_eq_ok.mp hfix
      cases hsome
      have hconverts : ∀ i ∈ [7, 8], s.field i ≠ [] → Converts (s.field i) := by
        intro i hi
        rcases List.mem_pair.mp hi with rfl | rfl
        · exact exists_parseOptional.mp ⟨_, hdop⟩
        · exact exists_parseOptional.mp ⟨_, haltitude⟩
      have hplace := hrange hconverts d m d' m' hlatitude hlongitude
      exact ⟨(isOnAxis_iff hlatitude).mpr hplace.1, (isOnAxis_iff hlongitude).mpr hplace.2⟩
  · rw [parseGga_of_not_isGga h]
    constructor
    · intro _ hgga
      exact absurd hgga h
    · rintro - fix ⟨⟩

theorem acceptsRmc_iff (s : NmeaSentence) :
    (∀ fix, parseRmc s = .ok (some fix) →
        IsOnAxis (s.field 2) (s.field 3) true fix.latitudeDeg ∧
        IsOnAxis (s.field 4) (s.field 5) false fix.longitudeDeg) ↔
      (s.IsRmc → PositionInRange (s.field 2) (s.field 3) (s.field 4) (s.field 5)) := by
  by_cases h : s.IsRmc
  · rw [parseRmc_of_isRmc h, forall_prop_of_true h, forall_parsePosition_iff]
    constructor
    · intro hplaces d m d' m' hlatitude hlongitude
      have hplace := hplaces d m d' m' hlatitude hlongitude _ rfl
      exact ⟨(isOnAxis_iff hlatitude).mp hplace.1, (isOnAxis_iff hlongitude).mp hplace.2⟩
    · rintro hrange d m d' m' hlatitude hlongitude fix ⟨⟩
      have hplace := hrange d m d' m' hlatitude hlongitude
      exact ⟨(isOnAxis_iff hlatitude).mpr hplace.1, (isOnAxis_iff hlongitude).mpr hplace.2⟩
  · rw [parseRmc_of_not_isRmc h]
    constructor
    · intro _ hrmc
      exact absurd hrmc h
    · rintro - fix ⟨⟩

/-- **Only places on Earth are accepted** exactly if the letters and numbers of a position that is
    not refused make angles of their axes. -/
theorem acceptsPlaces_iff (s : NmeaSentence) : AcceptsPlaces s ↔ s.HasPlaces := by
  constructor
  · rintro ⟨hgga, hrmc⟩
    exact ⟨(acceptsGga_iff s).mp hgga, (acceptsRmc_iff s).mp hrmc⟩
  · rintro ⟨hgga, hrmc⟩
    exact ⟨(acceptsGga_iff s).mpr hgga, (acceptsRmc_iff s).mpr hrmc⟩

/-- A latitude of 99 degrees. -/
def beyondPole : NmeaSentence where
  talker := ascii "GP"
  formatter := ascii "GGA"
  fields := [[], ascii "9900.0000000", ascii "N", ascii "00830.0000000", ascii "E", ascii "1",
    [], [], [], [], [], [], [], []]

/-- A fix beyond the pole is accepted. -/
theorem not_acceptsPlaces : ¬ AcceptsPlaces beyondPole := by
  intro h
  have hfix : parseGga beyondPole = .ok (some {
      latitudeDeg := .finite 99
      longitudeDeg := .finite (17 / 2)
      fixType := .single
      validity := .valid }) := by
    decide +kernel
  obtain ⟨⟨-, -, x, hx, hrange, -⟩, -⟩ := h.gga _ hfix
  cases hx
  norm_num [largestAngle] at hrange

end FalconGuide
