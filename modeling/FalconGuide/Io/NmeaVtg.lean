import FalconGuide.Io.NmeaGga

namespace FalconGuide

/-!
# VTG

`nmea_vtg.hpp`.

* `VtgData`, `parseVtg`, `parseVtgLine`;
* `writeVtg`.
-/

/-- `VtgData`. -/
structure VtgData where
  courseTrueDeg : Double ℚ := .finite 0
  speedKnots : Double ℚ := .finite 0
  speedKph : Double ℚ := .finite 0
  deriving DecidableEq

/-- `ParseVtg`. -/
def parseVtg (s : NmeaSentence) : Except ConversionError (Option VtgData) :=
  if s.formatter ≠ ascii "VTG" ∨ s.fields.length < 7 then return none
  else if 9 ≤ s.fields.length ∧ s.field 8 = ascii "N" then return none
  else do
    let course ← parseOptional (s.field 0)
    let knots ← parseOptional (s.field 4)
    let kph ← parseOptional (s.field 6)
    return some {
      courseTrueDeg := course.getD (.finite 0)
      speedKnots := knots.getD (.finite 0)
      speedKph := kph.getD (.finite 0) }

/-- `ParseVtgLine`. -/
def parseVtgLine (line : List UInt8) : Except ConversionError (Option VtgData) :=
  match parseSentence line with
  | none => return none
  | some s => parseVtg s

/-- The fields of `WriteVtg`. -/
noncomputable def vtgFields (state : NavigationState) : List (List UInt8) :=
  let vn := state.velocityEnuMps 1
  let ve := state.velocityEnuMps 0
  let courseDeg := radToDeg (atan2 ve vn)
  let courseDeg := if courseDeg < 0 then courseDeg + 360 else courseDeg
  let speedMps := √(ve * ve + vn * vn)
  let mpsToKnots : ℝ := 1 / 0.514444
  let mpsToKph : ℝ := 3.6
  let valid := state.status = .nominal ∨ state.status = .degraded ∨ state.status = .deadReckoning
  [formatFixed 2 courseDeg,
    ascii "T",
    [],
    ascii "M",
    formatFixed 2 (speedMps * mpsToKnots),
    ascii "N",
    formatFixed 2 (speedMps * mpsToKph),
    ascii "K",
    if valid then ascii "A" else ascii "N"]

/-- `WriteVtg`. -/
noncomputable def writeVtg (state : NavigationState) : List UInt8 :=
  buildSentence (ascii "FG") (ascii "VTG") (vtgFields state)

end FalconGuide
