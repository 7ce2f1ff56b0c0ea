import FalconGuide.Io.NmeaRmc
import FalconGuide.Io.NmeaVtg
import FalconGuide.Lib.Exceptions

namespace FalconGuide

open Lib

/-!
# What the parsers return

The three outcomes of a parser — a value, `nullopt`, an exception — from the texts it converts.

* `parseNmeaLatitudeLongitude_eq_some`, `exists_parseNmeaLatitudeLongitude` — an angle;
* `parseOptional_eq_ok` — a number that may be absent;
* `parsePosition` — what `ParseGga` and `ParseRmc` share;
* `parseGga_eq_some`, `parseRmc_eq_some`, `parseVtg_eq_some` — the sentences that are accepted.
-/

/-! ### Conversions -/

/-- `std::stod` does not throw. -/
def Converts (text : List UInt8) : Prop := ∃ x, stod text = .ok x

/-- An empty field is absent. -/
theorem parseOptional_nil : parseOptional [] = .ok none := rfl

/-- Any other field is converted. -/
theorem parseOptional_of_ne_nil {field : List UInt8} (h : field ≠ []) :
    parseOptional field = some <$> stod field := if_neg h

/-- A number that may be absent is read as what it converts to. -/
theorem parseOptional_eq_ok {field : List UInt8} {r : Option (Double ℚ)} :
    parseOptional field = .ok r ↔
      (field = [] ∧ r = none) ∨ (field ≠ [] ∧ ∃ x, stod field = .ok x ∧ r = some x) := by
  by_cases hfield : field = []
  · subst hfield
    rw [parseOptional_nil]
    simp [eq_comm]
  · rw [parseOptional_of_ne_nil hfield]
    cases stod field with
    | error e => simp [hfield]
    | ok x =>
      simp only [hfield, false_and, false_or, not_false_eq_true, true_and, ne_eq]
      constructor
      · rintro ⟨⟩
        exact ⟨x, rfl, rfl⟩
      · rintro ⟨_, ⟨⟩, rfl⟩
        rfl

/-- It is read unless there is a text that does not convert. -/
theorem exists_parseOptional {field : List UInt8} :
    (∃ r, parseOptional field = .ok r) ↔ (field ≠ [] → Converts field) := by
  constructor
  · rintro ⟨r, hr⟩ hfield
    obtain ⟨hnil, -⟩ | ⟨-, x, hx, -⟩ := parseOptional_eq_ok.mp hr
    · exact absurd hnil hfield
    · exact ⟨x, hx⟩
  · intro h
    by_cases hfield : field = []
    · exact ⟨none, parseOptional_eq_ok.mpr (.inl ⟨hfield, rfl⟩)⟩
    · obtain ⟨x, hx⟩ := h hfield
      exact ⟨some x, parseOptional_eq_ok.mpr (.inr ⟨hfield, x, hx, rfl⟩)⟩

/-! ### Angles -/

/-- The number of digits of the degrees. -/
def degreeDigits (isLatitude : Bool) : ℕ := if isLatitude then 2 else 3

/-- There is a hemisphere, and the field has minutes: both its numbers are converted. -/
def IsConverted (value hemisphere : List UInt8) (isLatitude : Bool) : Prop :=
  hemisphere ≠ [] ∧ degreeDigits isLatitude < value.length

/-- One of the four letters. -/
def IsHemisphere (hemisphere : List UInt8) : Prop :=
  hemisphere ∈ [ascii "N", ascii "S", ascii "E", ascii "W"]

instance (hemisphere : List UInt8) : Decidable (IsHemisphere hemisphere) :=
  inferInstanceAs (Decidable (_ ∈ _))

/-- The angle on a hemisphere. -/
def onHemisphere (hemisphere : List UInt8) (degrees minutes : Double ℚ) : Double ℚ :=
  let decimalDegrees := degrees.add (minutes.map (· / 60))
  if hemisphere = ascii "S" ∨ hemisphere = ascii "W" then decimalDegrees.neg else decimalDegrees

/-- A field that is read as these numbers. -/
structure IsAngle (value hemisphere : List UInt8) (isLatitude : Bool)
    (degrees minutes : Double ℚ) : Prop where
  converted : IsConverted value hemisphere isLatitude
  degrees : stod (value.take (degreeDigits isLatitude)) = .ok degrees
  minutes : stod (value.drop (degreeDigits isLatitude)) = .ok minutes
  hemisphere : IsHemisphere hemisphere

section

variable {value hemisphere : List UInt8} {isLatitude : Bool}

/-- An angle that is not converted is absent. -/
theorem parseNmeaLatitudeLongitude_of_not_isConverted
    (h : ¬ IsConverted value hemisphere isLatitude) :
    parseNmeaLatitudeLongitude value hemisphere isLatitude = .ok none := by
  rw [parseNmeaLatitudeLongitude]
  by_cases hempty : value = [] ∨ hemisphere = []
  · rw [if_pos hempty]
    rfl
  · rw [if_neg hempty]
    rw [not_or] at hempty
    have hshort : value.length ≤ degreeDigits isLatitude :=
      not_lt.mp fun hlong => h ⟨hempty.2, hlong⟩
    exact if_pos hshort

/-- What is made of an angle that is. -/
theorem parseNmeaLatitudeLongitude_of_isConverted
    (h : IsConverted value hemisphere isLatitude) :
    parseNmeaLatitudeLongitude value hemisphere isLatitude = (do
      let degrees ← stod (value.take (degreeDigits isLatitude))
      let minutes ← stod (value.drop (degreeDigits isLatitude))
      return if IsHemisphere hemisphere then some (onHemisphere hemisphere degrees minutes)
        else none) := by
  have hvalue : value ≠ [] := List.ne_nil_of_length_pos (Nat.zero_lt_of_lt h.2)
  rw [parseNmeaLatitudeLongitude, if_neg (not_or.mpr ⟨hvalue, h.1⟩)]
  show (if value.length ≤ degreeDigits isLatitude then _ else _) = _
  rw [if_neg (not_le.mpr h.2)]
  dsimp only [degreeDigits, onHemisphere]
  congr 1
  funext degrees
  congr 1
  funext minutes
  by_cases hsouth : hemisphere = ascii "S" ∨ hemisphere = ascii "W"
  · rw [if_pos hsouth, if_pos hsouth, if_pos (by rcases hsouth with rfl | rfl <;> decide)]
  · rw [if_neg hsouth, if_neg hsouth]
    rw [not_or] at hsouth
    by_cases hnorth : hemisphere = ascii "N" ∨ hemisphere = ascii "E"
    · rw [if_neg (not_not.mpr hnorth), if_pos (by rcases hnorth with rfl | rfl <;> decide)]
    · rw [if_pos hnorth, if_neg]
      rw [not_or] at hnorth
      simp [IsHemisphere, hsouth, hnorth]

/-- **What is read as an angle**: two numbers, and one of the four letters. -/
theorem parseNmeaLatitudeLongitude_eq_some {x : Double ℚ} :
    parseNmeaLatitudeLongitude value hemisphere isLatitude = .ok (some x) ↔
      ∃ degrees minutes, IsAngle value hemisphere isLatitude degrees minutes ∧
        x = onHemisphere hemisphere degrees minutes := by
  by_cases h : IsConverted value hemisphere isLatitude
  · rw [parseNmeaLatitudeLongitude_of_isConverted h, bind_eq_ok]
    constructor
    · rintro ⟨degrees, hdegrees, hrest⟩
      obtain ⟨minutes, hminutes, hx⟩ := bind_eq_ok.mp hrest
      have hx := pure_eq_ok.mp hx
      split at hx
      · rename_i hletter
        exact ⟨degrees, minutes, ⟨h, hdegrees, hminutes, hletter⟩, (Option.some.inj hx).symm⟩
      · cases hx
    · rintro ⟨degrees, minutes, hangle, rfl⟩
      refine ⟨degrees, hangle.degrees, bind_eq_ok.mpr ⟨minutes, hangle.minutes, ?_⟩⟩
      rw [if_pos hangle.hemisphere]
      rfl
  · rw [parseNmeaLatitudeLongitude_of_not_isConverted h]
    constructor
    · intro hx
      cases hx
    · rintro ⟨degrees, minutes, hangle, -⟩
      exact absurd hangle.converted h

/-- **It throws** if one of the numbers is converted and does not convert. -/
theorem exists_parseNmeaLatitudeLongitude :
    (∃ r, parseNmeaLatitudeLongitude value hemisphere isLatitude = .ok r) ↔
      (IsConverted value hemisphere isLatitude →
        Converts (value.take (degreeDigits isLatitude)) ∧
        Converts (value.drop (degreeDigits isLatitude))) := by
  by_cases h : IsConverted value hemisphere isLatitude
  · rw [parseNmeaLatitudeLongitude_of_isConverted h, exists_bind_eq_ok]
    constructor
    · rintro ⟨degrees, hdegrees, hrest⟩ -
      obtain ⟨minutes, hminutes, -⟩ := exists_bind_eq_ok.mp hrest
      exact ⟨⟨degrees, hdegrees⟩, ⟨minutes, hminutes⟩⟩
    · intro hconverts
      obtain ⟨⟨degrees, hdegrees⟩, ⟨minutes, hminutes⟩⟩ := hconverts h
      exact ⟨degrees, hdegrees, exists_bind_eq_ok.mpr ⟨minutes, hminutes, _, rfl⟩⟩
  · rw [parseNmeaLatitudeLongitude_of_not_isConverted h]
    exact ⟨fun _ hconverted => absurd hconverted h, fun _ => ⟨none, rfl⟩⟩

/-- An angle that does not throw is read if it is converted and has one of the four letters. -/
theorem exists_parseNmeaLatitudeLongitude_some
    (h : ∃ r, parseNmeaLatitudeLongitude value hemisphere isLatitude = .ok r) :
    (∃ x, parseNmeaLatitudeLongitude value hemisphere isLatitude = .ok (some x)) ↔
      IsConverted value hemisphere isLatitude ∧ IsHemisphere hemisphere := by
  constructor
  · rintro ⟨x, hx⟩
    obtain ⟨degrees, minutes, hangle, -⟩ := parseNmeaLatitudeLongitude_eq_some.mp hx
    exact ⟨hangle.converted, hangle.hemisphere⟩
  · rintro ⟨hconverted, hletter⟩
    obtain ⟨⟨degrees, hdegrees⟩, ⟨minutes, hminutes⟩⟩ :=
      exists_parseNmeaLatitudeLongitude.mp h hconverted
    exact ⟨_, parseNmeaLatitudeLongitude_eq_some.mpr
      ⟨degrees, minutes, ⟨hconverted, hdegrees, hminutes, hletter⟩, rfl⟩⟩

end

/-! ### Positions -/

section

variable {α : Type}

/-- Latitude and longitude, and what is made of them. -/
def parsePosition (latitude northSouth longitude eastWest : List UInt8)
    (f : Double ℚ → Double ℚ → Except ConversionError (Option α)) :
    Except ConversionError (Option α) := do
  let latitude ← parseNmeaLatitudeLongitude latitude northSouth true
  let longitude ← parseNmeaLatitudeLongitude longitude eastWest false
  match latitude, longitude with
  | some latitudeDeg, some longitudeDeg => f latitudeDeg longitudeDeg
  | _, _ => return none

variable {latitude northSouth longitude eastWest : List UInt8}
  {f : Double ℚ → Double ℚ → Except ConversionError (Option α)}

/-- Both angles are there, and so is what is made of them. -/
theorem parsePosition_eq_some {a : α} :
    parsePosition latitude northSouth longitude eastWest f = .ok (some a) ↔
      ∃ x y, parseNmeaLatitudeLongitude latitude northSouth true = .ok (some x) ∧
        parseNmeaLatitudeLongitude longitude eastWest false = .ok (some y) ∧
        f x y = .ok (some a) := by
  constructor
  · intro h
    obtain ⟨x, hx, h⟩ := bind_eq_ok.mp h
    obtain ⟨y, hy, h⟩ := bind_eq_ok.mp h
    cases x with
    | none => cases h
    | some x =>
      cases y with
      | none => cases h
      | some y => exact ⟨x, y, hx, hy, h⟩
  · rintro ⟨x, y, hx, hy, h⟩
    exact bind_eq_ok.mpr ⟨some x, hx, bind_eq_ok.mpr ⟨some y, hy, h⟩⟩

/-- A position returns if both angles do, and what is made of them. -/
theorem exists_parsePosition :
    (∃ r, parsePosition latitude northSouth longitude eastWest f = .ok r) ↔
      (∃ r, parseNmeaLatitudeLongitude latitude northSouth true = .ok r) ∧
      (∃ r, parseNmeaLatitudeLongitude longitude eastWest false = .ok r) ∧
      ∀ x y, parseNmeaLatitudeLongitude latitude northSouth true = .ok (some x) →
        parseNmeaLatitudeLongitude longitude eastWest false = .ok (some y) →
        ∃ r, f x y = .ok r := by
  unfold parsePosition
  rw [exists_bind_eq_ok]
  constructor
  · rintro ⟨x, hx, h⟩
    obtain ⟨y, hy, hrest⟩ := exists_bind_eq_ok.mp h
    refine ⟨⟨x, hx⟩, ⟨y, hy⟩, ?_⟩
    intro x' y' hx' hy'
    cases Except.ok.inj (hx.symm.trans hx')
    cases Except.ok.inj (hy.symm.trans hy')
    exact hrest
  · rintro ⟨⟨x, hx⟩, ⟨y, hy⟩, hrest⟩
    refine ⟨x, hx, exists_bind_eq_ok.mpr ⟨y, hy, ?_⟩⟩
    cases x with
    | none => exact ⟨none, rfl⟩
    | some x =>
      cases y with
      | none => exact ⟨none, rfl⟩
      | some y => exact hrest x y hx hy

end

/-! ### Sentences -/

/-- The sentences in which `ParseGga` looks for a position. -/
def NmeaSentence.IsGga (s : NmeaSentence) : Prop := s.formatter = ascii "GGA" ∧ 14 ≤ s.fields.length

/-- The sentences in which `ParseRmc` looks for a position. -/
def NmeaSentence.IsRmc (s : NmeaSentence) : Prop :=
  s.formatter = ascii "RMC" ∧ 10 ≤ s.fields.length ∧ s.field 1 = ascii "A"

/-- The sentences in which `ParseVtg` looks for numbers. -/
def NmeaSentence.IsVtg (s : NmeaSentence) : Prop :=
  s.formatter = ascii "VTG" ∧ 7 ≤ s.fields.length ∧
    ¬ (9 ≤ s.fields.length ∧ s.field 8 = ascii "N")

/-- What `ParseGga` makes of the angles. -/
def ggaFix (s : NmeaSentence) (latitudeDeg longitudeDeg : Double ℚ) :
    Except ConversionError (Option NmeaFix) := do
  let altitude ← parseOptional (s.field 8)
  let fixType := parseGgaFixType (s.field 5)
  let horizontalDop ← parseOptional (s.field 7)
  return some {
    latitudeDeg
    longitudeDeg
    altitudeM := altitude.getD (.finite 0)
    fixType
    horizontalDop
    validity := if fixType = .noFix then .unknown else .valid }

/-- What `ParseRmc` makes of the angles. -/
def rmcFix (latitudeDeg longitudeDeg : Double ℚ) : NmeaFix :=
  { latitudeDeg, longitudeDeg, fixType := .single, validity := .valid }

/-- A GGA sentence is read for its position. -/
theorem parseGga_of_isGga {s : NmeaSentence} (h : s.IsGga) :
    parseGga s = parsePosition (s.field 1) (s.field 2) (s.field 3) (s.field 4) (ggaFix s) :=
  if_neg (by simp [h.1, h.2])

/-- No other sentence is read. -/
theorem parseGga_of_not_isGga {s : NmeaSentence} (h : ¬ s.IsGga) : parseGga s = .ok none := by
  refine if_pos ?_
  by_contra hno
  simp only [not_or, not_not, not_lt] at hno
  exact h hno

/-- An RMC sentence is read for its position. -/
theorem parseRmc_of_isRmc {s : NmeaSentence} (h : s.IsRmc) :
    parseRmc s = parsePosition (s.field 2) (s.field 3) (s.field 4) (s.field 5)
      fun latitudeDeg longitudeDeg => .ok (some (rmcFix latitudeDeg longitudeDeg)) := by
  rw [parseRmc, if_neg (by simp [h.1, h.2.1]), if_neg (not_not.mpr h.2.2)]
  rfl

/-- No other sentence is read. -/
theorem parseRmc_of_not_isRmc {s : NmeaSentence} (h : ¬ s.IsRmc) : parseRmc s = .ok none := by
  unfold parseRmc
  split
  · rfl
  · rename_i hshape
    simp only [not_or, not_not, not_lt] at hshape
    exact if_pos fun hactive => h ⟨hshape.1, hshape.2, hactive⟩

/-- The fix, if the altitude and the precision are absent or convert. -/
theorem ggaFix_eq_ok {s : NmeaSentence} {x y : Double ℚ} {r : Option NmeaFix} :
    ggaFix s x y = .ok r ↔
      ∃ altitude horizontalDop, parseOptional (s.field 8) = .ok altitude ∧
        parseOptional (s.field 7) = .ok horizontalDop ∧
        r = some {
          latitudeDeg := x
          longitudeDeg := y
          altitudeM := altitude.getD (.finite 0)
          fixType := parseGgaFixType (s.field 5)
          horizontalDop
          validity := if parseGgaFixType (s.field 5) = .noFix then .unknown else .valid } := by
  constructor
  · intro h
    obtain ⟨altitude, haltitude, h⟩ := bind_eq_ok.mp h
    obtain ⟨horizontalDop, hdop, h⟩ := bind_eq_ok.mp h
    exact ⟨altitude, horizontalDop, haltitude, hdop, (pure_eq_ok.mp h).symm⟩
  · rintro ⟨altitude, horizontalDop, haltitude, hdop, rfl⟩
    exact bind_eq_ok.mpr ⟨altitude, haltitude, bind_eq_ok.mpr ⟨horizontalDop, hdop, rfl⟩⟩

/-- No sentence but VTG is read. -/
theorem parseVtg_of_not_isVtg {s : NmeaSentence} (h : ¬ s.IsVtg) : parseVtg s = .ok none := by
  unfold parseVtg
  split
  · rfl
  · rename_i hshape
    simp only [not_or, not_not, not_lt] at hshape
    exact if_pos (not_not.mp fun hmode => h ⟨hshape.1, hshape.2, hmode⟩)

/-- The data, if all three numbers are absent or convert. -/
theorem parseVtg_eq_ok {s : NmeaSentence} (h : s.IsVtg) {r : Option VtgData} :
    parseVtg s = .ok r ↔
      ∃ course knots kph, parseOptional (s.field 0) = .ok course ∧
        parseOptional (s.field 4) = .ok knots ∧ parseOptional (s.field 6) = .ok kph ∧
        r = some {
          courseTrueDeg := course.getD (.finite 0)
          speedKnots := knots.getD (.finite 0)
          speedKph := kph.getD (.finite 0) } := by
  rw [parseVtg, if_neg (by simp [h.1, h.2.1]), if_neg h.2.2]
  constructor
  · intro h
    obtain ⟨course, hcourse, h⟩ := bind_eq_ok.mp h
    obtain ⟨knots, hknots, h⟩ := bind_eq_ok.mp h
    obtain ⟨kph, hkph, h⟩ := bind_eq_ok.mp h
    exact ⟨course, knots, kph, hcourse, hknots, hkph, (pure_eq_ok.mp h).symm⟩
  · rintro ⟨course, knots, kph, hcourse, hknots, hkph, rfl⟩
    exact bind_eq_ok.mpr ⟨course, hcourse, bind_eq_ok.mpr ⟨knots, hknots,
      bind_eq_ok.mpr ⟨kph, hkph, rfl⟩⟩⟩

/-! ### Lines -/

/-- The sentence first, then its fields. -/
theorem parseGgaLine_eq (line : List UInt8) :
    parseGgaLine line = ((parseSentence line).map parseGga).getD (.ok none) := by
  rw [parseGgaLine]
  cases parseSentence line <;> rfl

/-- The sentence first, then its fields. -/
theorem parseRmcLine_eq (line : List UInt8) :
    parseRmcLine line = ((parseSentence line).map parseRmc).getD (.ok none) := by
  rw [parseRmcLine]
  cases parseSentence line <;> rfl

/-- The sentence first, then its fields. -/
theorem parseVtgLine_eq (line : List UInt8) :
    parseVtgLine line = ((parseSentence line).map parseVtg).getD (.ok none) := by
  rw [parseVtgLine]
  cases parseSentence line <;> rfl

end FalconGuide
