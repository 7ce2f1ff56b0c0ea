import FalconGuide.Core.Angles
import FalconGuide.Core.Coordinates
import FalconGuide.Core.NavigationState
import FalconGuide.Core.Sensors
import FalconGuide.Io.NmeaSentence
import FalconGuide.Io.NumberPrinting

namespace FalconGuide

/-!
# GGA

`nmea_gga.hpp`: latitude and longitude as fields, and the sentence with a fix.

* `parseNmeaLatitudeLongitude`, `formatNmeaLatitudeLongitude` — an angle and its field;
* `NmeaFix` — what is parsed of a fix, before `LlaToEcef` makes a solution of it;
* `parseGga`, `parseGgaLine`, `writeGga`.
-/

/-! ### Latitude and longitude -/

/-- `ParseNmeaLatitudeLongitude`, in degrees: the conversion to radians that it ends in is left
    out. -/
def parseNmeaLatitudeLongitude (value hemisphere : List UInt8) (isLatitude : Bool) :
    Except ConversionError (Option (Double ℚ)) :=
  if value = [] ∨ hemisphere = [] then return none
  else
    let degreeDigits := if isLatitude then 2 else 3
    if value.length ≤ degreeDigits then return none
    else do
      let degrees ← stod (value.take degreeDigits)
      let minutes ← stod (value.drop degreeDigits)
      let decimalDegrees := degrees.add (minutes.map (· / 60))
      if hemisphere = ascii "S" ∨ hemisphere = ascii "W" then return some decimalDegrees.neg
      else if ¬ (hemisphere = ascii "N" ∨ hemisphere = ascii "E") then return none
      else return some decimalDegrees

/-- `FormatNmeaLatitudeLongitude`. -/
noncomputable def formatNmeaLatitudeLongitude (radians : ℝ) (isLatitude : Bool) : List UInt8 :=
  let absoluteDegrees := |radToDeg radians|
  let degrees := ⌊absoluteDegrees⌋₊
  let minutes := (absoluteDegrees - degrees) * 60
  let degreeWidth := if isLatitude then 2 else 3
  setWidth degreeWidth (decimal 1 degrees) ++ setWidth 10 (formatFixed 7 minutes)

/-! ### The fix -/

/-- `ParseGgaFixType`. -/
def parseGgaFixType (field : List UInt8) : GnssFixType :=
  if field = ascii "1" then .single
  else if field = ascii "2" then .differential
  else if field = ascii "4" then .rtkFixed
  else if field = ascii "5" then .rtkFloat
  else .noFix

/-- `FormatGgaFixType`. -/
def formatGgaFixType (status : NavigationStatus) : List UInt8 :=
  if status = .nominal ∨ status = .degraded ∨ status = .deadReckoning then ascii "1"
  else ascii "0"

/-- The `GnssSolution` of a sentence, with the arguments of `LlaToEcef` in place of the position. -/
structure NmeaFix where
  latitudeDeg : Double ℚ
  longitudeDeg : Double ℚ
  altitudeM : Double ℚ := .finite 0
  fixType : GnssFixType
  horizontalDop : Option (Double ℚ) := none
  validity : MeasurementValidity
  deriving DecidableEq

/-- A field. -/
def NmeaSentence.field (s : NmeaSentence) (i : ℕ) : List UInt8 := s.fields.getD i []

/-- A number, unless the field is empty. -/
def parseOptional (field : List UInt8) : Except ConversionError (Option (Double ℚ)) :=
  if field = [] then return none else return some (← stod field)

/-- `ParseGga`. -/
def parseGga (s : NmeaSentence) : Except ConversionError (Option NmeaFix) :=
  if s.formatter ≠ ascii "GGA" ∨ s.fields.length < 14 then return none
  else do
    let latitude ← parseNmeaLatitudeLongitude (s.field 1) (s.field 2) true
    let longitude ← parseNmeaLatitudeLongitude (s.field 3) (s.field 4) false
    match latitude, longitude with
    | some latitudeDeg, some longitudeDeg => do
      let altitude ← parseOptional (s.field 8)
      let fixType := parseGgaFixType (s.field 5)
      let horizontalDop ← parseOptional (s.field 7)
      return some {
        latitudeDeg
        longitudeDeg
        altitudeM := altitude.getD (.finite 0)
        fixType
        horizontalDop
        validity := if fixType = .noFix then .unknown else .valid }
    | _, _ => return none

/-- `ParseGgaLine`. -/
def parseGgaLine (line : List UInt8) : Except ConversionError (Option NmeaFix) :=
  match parseSentence line with
  | none => return none
  | some s => parseGga s

/-- The letter of a hemisphere. -/
noncomputable def hemisphere (angle : ℝ) (positive negative : String) : List UInt8 :=
  ascii (if 0 ≤ angle then positive else negative)

/-- The fields of `WriteGga`. -/
noncomputable def ggaFields (state : NavigationState) (utcTime : List UInt8) :
    List (List UInt8) :=
  let lla := ecefToLla state.positionEcefM
  [utcTime,
    formatNmeaLatitudeLongitude lla.latitudeRad true,
    hemisphere lla.latitudeRad "N" "S",
    formatNmeaLatitudeLongitude lla.longitudeRad false,
    hemisphere lla.longitudeRad "E" "W",
    formatGgaFixType state.status,
    ascii "00",
    (state.quality.horizontalAccuracyM.map (formatFixed 1)).getD [],
    formatFixed 2 lla.altitudeM,
    ascii "M",
    ascii "0.00",
    ascii "M",
    [],
    []]

/-- `WriteGga`. -/
noncomputable def writeGga (state : NavigationState) (utcTime : List UInt8) : List UInt8 :=
  buildSentence (ascii "FG") (ascii "GGA") (ggaFields state utcTime)

end FalconGuide
