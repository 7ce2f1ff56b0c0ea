import FalconGuide.Io.NmeaGga

namespace FalconGuide

/-!
# RMC

`nmea_rmc.hpp`.

* `rmcStatusChar` — active or void;
* `parseRmc`, `parseRmcLine`, `writeRmc`.
-/

/-- `RmcStatusChar`. -/
def rmcStatusChar : NavigationStatus → List UInt8
  | .nominal => ascii "A"
  | .degraded => ascii "A"
  | .deadReckoning => ascii "A"
  | _ => ascii "V"

/-- `ParseRmc`.  There is no altitude. -/
def parseRmc (s : NmeaSentence) : Except ConversionError (Option NmeaFix) :=
  if s.formatter ≠ ascii "RMC" ∨ s.fields.length < 10 then return none
  else if s.field 1 ≠ ascii "A" then return none
  else do
    let latitude ← parseNmeaLatitudeLongitude (s.field 2) (s.field 3) true
    let longitude ← parseNmeaLatitudeLongitude (s.field 4) (s.field 5) false
    match latitude, longitude with
    | some latitudeDeg, some longitudeDeg =>
      return some { latitudeDeg, longitudeDeg, fixType := .single, validity := .valid }
    | _, _ => return none

/-- `ParseRmcLine`. -/
def parseRmcLine (line : List UInt8) : Except ConversionError (Option NmeaFix) :=
  match parseSentence line with
  | none => return none
  | some s => parseRmc s

/-- The fields of `WriteRmc`. -/
noncomputable def rmcFields (state : NavigationState) (utcTime date : List UInt8) :
    List (List UInt8) :=
  let lla := ecefToLla state.positionEcefM
  let speedEnuMps := √(state.velocityEnuMps 0 * state.velocityEnuMps 0
    + state.velocityEnuMps 1 * state.velocityEnuMps 1)
  let mpsToKnots : ℝ := 1 / 0.514444
  let speedKnots := speedEnuMps * mpsToKnots
  -- from north, clockwise
  let courseDeg := radToDeg (atan2 (state.velocityEnuMps 0) (state.velocityEnuMps 1))
  let courseDeg := if courseDeg < 0 then courseDeg + 360 else courseDeg
  [utcTime,
    rmcStatusChar state.status,
    formatNmeaLatitudeLongitude lla.latitudeRad true,
    hemisphere lla.latitudeRad "N" "S",
    formatNmeaLatitudeLongitude lla.longitudeRad false,
    hemisphere lla.longitudeRad "E" "W",
    formatFixed 2 speedKnots,
    formatFixed 2 courseDeg,
    date,
    [],
    []]

/-- `WriteRmc`. -/
noncomputable def writeRmc (state : NavigationState) (utcTime date : List UInt8) : List UInt8 :=
  buildSentence (ascii "FG") (ascii "RMC") (rmcFields state utcTime date)

end FalconGuide
