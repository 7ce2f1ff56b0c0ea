import FalconGuide.Io.NmeaParsing

namespace FalconGuide

open Lib

/-!
# Exceptions of the parsers

`ParseGgaLine`, `ParseRmcLine` and `ParseVtgLine` return an optional, and convert what other
software sent with `std::stod`, which throws.

* `Refuses` — a parser returns, and has no value for a sentence with bad numbers;
* `ParsesSafely` — so do all three, on one line;
* `NmeaSentence.Readable` — the condition on the texts that are converted;
* `parsesSafely_iff` — that condition is exact.

White space in front of a number counts as part of it, as it does for `std::stod`, and the value of
a decimal is exact: a `double` holds the nearest one.
-/

/-! ### Numbers -/

/-- A text that is entirely this number, with the white space in front of it.  A decimal has its
    exact value. -/
def Denotes (text : List UInt8) (x : ℚ) : Prop :=
  strtod text = some (.finite x, []) ∧ InRange (.finite x)

/-- A text that is a number, or one that is absent where an empty text counts as such. -/
def IsNumber (mayBeAbsent : Bool) (text : List UInt8) : Prop :=
  (∃ x, Denotes text x) ∨ (mayBeAbsent = true ∧ text = [])

/-- Degrees and minutes that are numbers, and an angle in its range. -/
def IsPlace (value : List UInt8) (isLatitude : Bool) : Prop :=
  ∃ degrees minutes, Denotes (value.take (degreeDigits isLatitude)) degrees ∧
    Denotes (value.drop (degreeDigits isLatitude)) minutes ∧
    |degrees + minutes / 60| ≤ if isLatitude then 90 else 180

theorem Denotes.stod_eq {text : List UInt8} {x : ℚ} (h : Denotes text x) :
    stod text = .ok (.finite x) := by
  rw [stod, h.1]
  exact if_pos h.2

/-- A number in a field converts. -/
theorem IsNumber.exists_parseOptional {mayBeAbsent : Bool} {field : List UInt8}
    (h : IsNumber mayBeAbsent field) : ∃ r, parseOptional field = .ok r := by
  refine FalconGuide.exists_parseOptional.mpr fun hfield => ?_
  obtain ⟨x, hx⟩ | ⟨-, hnil⟩ := h
  · exact ⟨.finite x, hx.stod_eq⟩
  · exact absurd hnil hfield

/-! ### What is promised -/

/-- A parser returns, and has no value unless the numbers are good. -/
def Refuses {α : Type} (outcome : Except ConversionError (Option α)) (good : Prop) : Prop :=
  (∃ r, outcome = .ok r) ∧ (¬ good → outcome = .ok none)

namespace NmeaSentence

variable (mayBeAbsent : Bool) (s : NmeaSentence)

/-- The numbers that `ParseGga` reads are good. -/
def GgaNumbers : Prop :=
  (IsPlace (s.field 1) true ∧ IsPlace (s.field 3) false) ∧
    IsNumber mayBeAbsent (s.field 8) ∧ IsNumber mayBeAbsent (s.field 7)

/-- The numbers that `ParseRmc` reads are good. -/
def RmcNumbers : Prop := IsPlace (s.field 2) true ∧ IsPlace (s.field 4) false

/-- The numbers that `ParseVtg` reads are good. -/
def VtgNumbers : Prop :=
  IsNumber mayBeAbsent (s.field 0) ∧ IsNumber mayBeAbsent (s.field 4) ∧
    IsNumber mayBeAbsent (s.field 6)

end NmeaSentence

/-- All three parsers return, and refuse a line whose numbers are not good. -/
structure ParsesSafely (mayBeAbsent : Bool) (line : List UInt8) : Prop where
  gga : Refuses (parseGgaLine line)
    (∀ s, parseSentence line = some s → s.GgaNumbers mayBeAbsent)
  rmc : Refuses (parseRmcLine line) (∀ s, parseSentence line = some s → s.RmcNumbers)
  vtg : Refuses (parseVtgLine line)
    (∀ s, parseSentence line = some s → s.VtgNumbers mayBeAbsent)

/-! ### When it holds -/

/-- Degrees and minutes convert, if they are converted at all. -/
def AngleConverts (value hemisphere : List UInt8) (isLatitude : Bool) : Prop :=
  IsConverted value hemisphere isLatitude →
    Converts (value.take (degreeDigits isLatitude)) ∧
    Converts (value.drop (degreeDigits isLatitude))

/-- The angles convert, and where both are read as angles, the numbers are good. -/
structure PositionConverts (latitude northSouth longitude eastWest : List UInt8)
    (good : Prop) : Prop where
  latitudeConverts : AngleConverts latitude northSouth true
  longitudeConverts : AngleConverts longitude eastWest false
  isGood : IsConverted latitude northSouth true ∧ IsHemisphere northSouth →
    IsConverted longitude eastWest false ∧ IsHemisphere eastWest → good

/-- Every text that is converted converts, and what is not refused is good. -/
structure NmeaSentence.Readable (mayBeAbsent : Bool) (s : NmeaSentence) : Prop where
  gga : s.IsGga → PositionConverts (s.field 1) (s.field 2) (s.field 3) (s.field 4)
    (s.GgaNumbers mayBeAbsent)
  rmc : s.IsRmc → PositionConverts (s.field 2) (s.field 3) (s.field 4) (s.field 5) s.RmcNumbers
  vtg : s.IsVtg → s.VtgNumbers mayBeAbsent

theorem refuses_none {α : Type} (good : Prop) :
    Refuses (.ok none : Except ConversionError (Option α)) good :=
  ⟨⟨none, rfl⟩, fun _ => rfl⟩

/-- A position that is not refused has a value, unless an exception is thrown. -/
theorem refuses_parsePosition_iff {α : Type} {latitude northSouth longitude eastWest : List UInt8}
    {f : Double ℚ → Double ℚ → Except ConversionError (Option α)} {good : Prop}
    (hf : ∀ x y, f x y ≠ .ok none) (hgood : good → ∀ x y, ∃ a, f x y = .ok (some a)) :
    Refuses (parsePosition latitude northSouth longitude eastWest f) good ↔
      PositionConverts latitude northSouth longitude eastWest good := by
  constructor
  · rintro ⟨hreturns, hrefuses⟩
    obtain ⟨hlatitude, hlongitude, hrest⟩ := exists_parsePosition.mp hreturns
    refine ⟨exists_parseNmeaLatitudeLongitude.mp hlatitude,
      exists_parseNmeaLatitudeLongitude.mp hlongitude, ?_⟩
    intro hx hy
    obtain ⟨x, hx⟩ := (exists_parseNmeaLatitudeLongitude_some hlatitude).mpr hx
    obtain ⟨y, hy⟩ := (exists_parseNmeaLatitudeLongitude_some hlongitude).mpr hy
    obtain ⟨r, hr⟩ := hrest x y hx hy
    cases r with
    | none => exact absurd hr (hf x y)
    | some a =>
      -- a value was returned, so it was not refused
      by_contra hbad
      have hsome := parsePosition_eq_some.mpr ⟨x, y, hx, hy, hr⟩
      rw [hrefuses hbad] at hsome
      cases hsome
  · intro h
    have hlatitude := exists_parseNmeaLatitudeLongitude.mpr h.latitudeConverts
    have hlongitude := exists_parseNmeaLatitudeLongitude.mpr h.longitudeConverts
    have hboth : ∀ x y, parseNmeaLatitudeLongitude latitude northSouth true = .ok (some x) →
        parseNmeaLatitudeLongitude longitude eastWest false = .ok (some y) → good := by
      intro x y hx hy
      exact h.isGood ((exists_parseNmeaLatitudeLongitude_some hlatitude).mp ⟨x, hx⟩)
        ((exists_parseNmeaLatitudeLongitude_some hlongitude).mp ⟨y, hy⟩)
    have hreturns : ∃ r, parsePosition latitude northSouth longitude eastWest f = .ok r := by
      refine exists_parsePosition.mpr ⟨hlatitude, hlongitude, ?_⟩
      intro x y hx hy
      obtain ⟨a, ha⟩ := hgood (hboth x y hx hy) x y
      exact ⟨some a, ha⟩
    refine ⟨hreturns, ?_⟩
    intro hbad
    obtain ⟨r, hr⟩ := hreturns
    cases r with
    | none => exact hr
    | some a =>
      obtain ⟨x, y, hx, hy, -⟩ := parsePosition_eq_some.mp hr
      exact absurd (hboth x y hx hy) hbad

section

variable (mayBeAbsent : Bool) (s : NmeaSentence)

theorem refuses_parseGga_iff :
    Refuses (parseGga s) (s.GgaNumbers mayBeAbsent) ↔
      (s.IsGga → PositionConverts (s.field 1) (s.field 2) (s.field 3) (s.field 4)
        (s.GgaNumbers mayBeAbsent)) := by
  by_cases h : s.IsGga
  · rw [parseGga_of_isGga h, forall_prop_of_true h]
    apply refuses_parsePosition_iff
    · intro x y hnone
      obtain ⟨_, _, _, _, hsome⟩ := ggaFix_eq_ok.mp hnone
      cases hsome
    · rintro ⟨-, haltitude, hdop⟩ x y
      obtain ⟨altitude, haltitude⟩ := haltitude.exists_parseOptional
      obtain ⟨horizontalDop, hdop⟩ := hdop.exists_parseOptional
      exact ⟨_, ggaFix_eq_ok.mpr ⟨altitude, horizontalDop, haltitude, hdop, rfl⟩⟩
  · rw [parseGga_of_not_isGga h]
    exact ⟨fun _ hgga => absurd hgga h, fun _ => refuses_none _⟩

theorem refuses_parseRmc_iff :
    Refuses (parseRmc s) s.RmcNumbers ↔
      (s.IsRmc → PositionConverts (s.field 2) (s.field 3) (s.field 4) (s.field 5)
        s.RmcNumbers) := by
  by_cases h : s.IsRmc
  · rw [parseRmc_of_isRmc h, forall_prop_of_true h]
    apply refuses_parsePosition_iff
    · intro x y hnone
      cases hnone
    · intro _ x y
      exact ⟨_, rfl⟩
  · rw [parseRmc_of_not_isRmc h]
    exact ⟨fun _ hrmc => absurd hrmc h, fun _ => refuses_none _⟩

theorem refuses_parseVtg_iff :
    Refuses (parseVtg s) (s.VtgNumbers mayBeAbsent) ↔
      (s.IsVtg → s.VtgNumbers mayBeAbsent) := by
  by_cases h : s.IsVtg
  · rw [forall_prop_of_true h]
    constructor
    · rintro ⟨⟨r, hr⟩, hrefuses⟩
      by_contra hbad
      obtain ⟨_, _, _, _, _, _, hsome⟩ := (parseVtg_eq_ok h).mp (hrefuses hbad)
      cases hsome
    · intro hgood
      obtain ⟨course, hcourse⟩ := hgood.1.exists_parseOptional
      obtain ⟨knots, hknots⟩ := hgood.2.1.exists_parseOptional
      obtain ⟨kph, hkph⟩ := hgood.2.2.exists_parseOptional
      exact ⟨⟨_, (parseVtg_eq_ok h).mpr ⟨course, knots, kph, hcourse, hknots, hkph, rfl⟩⟩,
        fun hbad => absurd hgood hbad⟩
  · rw [parseVtg_of_not_isVtg h]
    exact ⟨fun _ hvtg => absurd hvtg h, fun _ => refuses_none _⟩

end

/-- A line is refused, or it is parsed as its sentence. -/
theorem refuses_line_iff {α : Type} {parse : NmeaSentence → Except ConversionError (Option α)}
    {good readable : NmeaSentence → Prop} (h : ∀ s, Refuses (parse s) (good s) ↔ readable s)
    (line : List UInt8) :
    Refuses (((parseSentence line).map parse).getD (.ok none))
        (∀ s, parseSentence line = some s → good s) ↔
      ∀ s, parseSentence line = some s → readable s := by
  cases parseSentence line with
  | none =>
    constructor
    · rintro - s ⟨⟩
    · intro _
      exact refuses_none _
  | some s =>
    have hone : ∀ p : NmeaSentence → Prop, (∀ s', some s = some s' → p s') ↔ p s := by
      intro p
      exact ⟨fun hp => hp s rfl, fun hp s' hs' => Option.some.inj hs' ▸ hp⟩
    rw [hone, hone]
    exact h s

/-- **The parsers return and refuse bad numbers** exactly if every text that they convert does, and
    the sentences that they do not refuse have good numbers. -/
theorem parsesSafely_iff (mayBeAbsent : Bool) (line : List UInt8) :
    ParsesSafely mayBeAbsent line ↔
      ∀ s, parseSentence line = some s → s.Readable mayBeAbsent := by
  have hgga := refuses_line_iff (refuses_parseGga_iff mayBeAbsent) line
  have hrmc := refuses_line_iff refuses_parseRmc_iff line
  have hvtg := refuses_line_iff (refuses_parseVtg_iff mayBeAbsent) line
  rw [← parseGgaLine_eq] at hgga
  rw [← parseRmcLine_eq] at hrmc
  rw [← parseVtgLine_eq] at hvtg
  constructor
  · rintro ⟨h1, h2, h3⟩ s hs
    exact ⟨hgga.mp h1 s hs, hrmc.mp h2 s hs, hvtg.mp h3 s hs⟩
  · intro h
    exact ⟨hgga.mpr fun s hs => (h s hs).gga, hrmc.mpr fun s hs => (h s hs).rmc,
      hvtg.mpr fun s hs => (h s hs).vtg⟩

/-! ### A latitude of letters -/

/-- A fix with letters for its latitude. -/
def lettersSentence : NmeaSentence where
  talker := ascii "GP"
  formatter := ascii "GGA"
  fields := [ascii "120000.00", ascii "north", ascii "N", ascii "00830.0000000", ascii "E",
    ascii "1", ascii "08", ascii "1.0", ascii "500.00", ascii "M", ascii "0.00", ascii "M", [], []]

/-- The line, with its checksum. -/
def lettersLine : List UInt8 :=
  buildSentence lettersSentence.talker lettersSentence.formatter lettersSentence.fields

/-- `ParseGgaLine` throws, whether or not an empty text counts as absent. -/
theorem not_parsesSafely : ¬ ParsesSafely true lettersLine ∧ ¬ ParsesSafely false lettersLine := by
  have hplain : lettersSentence.IsPlain := ⟨by decide, by decide, by decide⟩
  have hparse := @NmeaSentence.IsPlain.parseSentence_eq _ hplain [] (by simp)
  rw [List.append_nil] at hparse
  have hthrows : parseGgaLine lettersLine = .error (.invalidArgument "stod") := by
    rw [parseGgaLine_eq, lettersLine, hparse]
    decide +kernel
  have hsafe : ∀ mayBeAbsent, ¬ ParsesSafely mayBeAbsent lettersLine := by
    intro mayBeAbsent h
    obtain ⟨r, hr⟩ := h.gga.1
    rw [hthrows] at hr
    cases hr
  exact ⟨hsafe true, hsafe false⟩

end FalconGuide
