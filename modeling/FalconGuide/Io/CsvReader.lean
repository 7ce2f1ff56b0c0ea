import FalconGuide.Core.Angles
import FalconGuide.Core.Coordinates
import FalconGuide.Core.Sensors
import FalconGuide.Io.NumberText
import FalconGuide.Lib.Exceptions

namespace FalconGuide

open Lib Matrix

/-!
# The reader of CSV datasets

`CsvMeasurementReader`: lines of text, each a record of one of four kinds.

* `getlines` — `std::getline` in a loop, for the lines of a file and the tokens of a line;
* `CsvRecord` — what is read of a line, and the measurement it makes;
* `parseLine` — a line; an exception of a conversion becomes an error;
* `CsvMeasurementReader`, `next` — the records of a file, one after the other.
-/

/-! ### Lines -/

/-- What `std::getline` extracts until it fails.  It fails when nothing is left, so that there is no
    empty piece at the end. -/
def getlines (delim : UInt8) : List UInt8 → List (List UInt8)
  | [] => []
  | c :: text =>
    if c = delim then [] :: getlines delim text
    else match getlines delim text with
      | [] => [[c]]
      | token :: tokens => (c :: token) :: tokens

/-- `Split`. -/
def split (line : List UInt8) : List (List UInt8) := getlines Byte.comma line

/-! ### Records -/

/-- The four kinds of records. -/
inductive CsvKind
  | imu
  | gnss
  | baro
  | mag
  deriving DecidableEq

namespace CsvKind

/-- The first token. -/
def type : CsvKind → List UInt8
  | imu => ascii "IMU"
  | gnss => ascii "GNSS"
  | baro => ascii "BARO"
  | mag => ascii "MAG"

/-- The number of tokens that are read, with the type and the timestamp. -/
def tokenCount : CsvKind → ℕ
  | imu => 8
  | gnss => 10
  | baro => 4
  | mag => 5

end CsvKind

/-- A record: its timestamp in nanoseconds, and the numbers behind it. -/
structure CsvRecord where
  kind : CsvKind
  timestampNs : ℤ
  values : List (Double ℚ)
  deriving DecidableEq

namespace CsvRecord

/-- `MakeTimestamp`. -/
def timestamp (r : CsvRecord) : Timestamp := .ofSteady r.timestampNs

/-- The measurement of a record of finite numbers. -/
noncomputable def measurement (r : CsvRecord) : Option SensorMeasurement :=
  match r.kind, r.values with
  | .imu, [.finite ax, .finite ay, .finite az, .finite wx, .finite wy, .finite wz] =>
    some (.imu {
      timestamp := r.timestamp
      specificForceMps2 := ![(ax : ℝ), ay, az]
      angularRateRadps := ![(wx : ℝ), wy, wz]
      validity := .valid })
  | .gnss, [.finite latDeg, .finite lonDeg, .finite alt, .finite ve, .finite vn, .finite vu,
      .finite posSigma, .finite velSigma] =>
    let lla : Lla := {
      latitudeRad := degToRad latDeg
      longitudeRad := degToRad lonDeg
      altitudeM := alt }
    let ltp := LocalTangentPlane.make lla
    some (.gnssSolution {
      timestamp := r.timestamp
      positionEcefM := llaToEcef lla
      fixType := .single
      validity := .valid
      velocityEcefMps := ltp.ecefToEnuRotationᵀ *ᵥ ![(ve : ℝ), vn, vu]
      positionCovarianceEcefM2 := ((posSigma : ℝ) * posSigma) • (1 : Mat3)
      velocityCovarianceEcefM2ps2 := ((velSigma : ℝ) * velSigma) • (1 : Mat3) })
  | .baro, [.finite pressurePa, .finite altitudeM] =>
    some (.barometer {
      timestamp := r.timestamp
      pressurePa := pressurePa
      altitudeM := some altitudeM
      validity := .valid })
  | .mag, [.finite bx, .finite by', .finite bz] =>
    some (.magnetometer {
      timestamp := r.timestamp
      magneticFieldTesla := ![(bx : ℝ), by', bz]
      validity := .valid })
  | _, _ => none

end CsvRecord

/-! ### Parsing -/

/-- What `ParseLine` returns. -/
inductive CsvOutcome
  | ok (record : CsvRecord)
  | endOfData
  | error (message : String)
  deriving DecidableEq

/-- The kind of a line, by its first token and the number of tokens. -/
def recordKind (tokens : List (List UInt8)) : Option CsvKind :=
  let type := tokens.headD []
  if type = CsvKind.imu.type ∧ CsvKind.imu.tokenCount ≤ tokens.length then some .imu
  else if type = CsvKind.gnss.type ∧ CsvKind.gnss.tokenCount ≤ tokens.length then some .gnss
  else if type = CsvKind.baro.type ∧ CsvKind.baro.tokenCount ≤ tokens.length then some .baro
  else if type = CsvKind.mag.type ∧ CsvKind.mag.tokenCount ≤ tokens.length then some .mag
  else none

/-- The tokens behind the timestamp that are converted. -/
def valueTokens (kind : CsvKind) (tokens : List (List UInt8)) : List (List UInt8) :=
  (tokens.take kind.tokenCount).drop 2

/-- The conversions of `ParseLine`.  A GNSS record converts its timestamp last. -/
def readRecord (kind : CsvKind) (tokens : List (List UInt8)) :
    Except ConversionError CsvRecord :=
  if kind = .gnss then do
    let values ← (valueTokens kind tokens).mapM stod
    let timestampNs ← stoll (tokens.getD 1 [])
    return { kind, timestampNs, values }
  else do
    let timestampNs ← stoll (tokens.getD 1 [])
    let values ← (valueTokens kind tokens).mapM stod
    return { kind, timestampNs, values }

/-- `ParseLine`. -/
def parseLine (line : List UInt8) : CsvOutcome :=
  let tokens := split line
  if tokens = [] then .endOfData
  else match recordKind tokens with
    | none => .endOfData
    | some kind =>
      match readRecord kind tokens with
      | .ok record => .ok record
      | .error ex => .error ("parse error: " ++ ex.what)

/-! ### The reader -/

/-- The reader of a file. -/
structure CsvMeasurementReader where
  /-- The lines that are left, if the file is open. -/
  file : Option (List (List UInt8)) := none
  startTime : Option Timestamp := none
  endTime : Option Timestamp := none

namespace CsvMeasurementReader

/-- `Open`, of a file with this text. -/
def openFile (reader : CsvMeasurementReader) (text : List UInt8) : CsvMeasurementReader :=
  { reader with file := some (getlines Byte.lineFeed text) }

/-- The loop of `Next`. -/
def nextLine (reader : CsvMeasurementReader) :
    List (List UInt8) → CsvOutcome × CsvMeasurementReader
  | [] => (.endOfData, { reader with file := some [] })
  | line :: lines =>
    if line = [] ∨ line.head? = some Byte.hash then nextLine reader lines
    else match parseLine line with
      | .ok record =>
        (.ok record, {
          file := some lines
          startTime := some (reader.startTime.getD record.timestamp)
          endTime := some record.timestamp })
      | _ => nextLine reader lines

/-- `Next`. -/
def next (reader : CsvMeasurementReader) : CsvOutcome × CsvMeasurementReader :=
  match reader.file with
  | none => (.error "file not open", reader)
  | some lines => reader.nextLine lines

end CsvMeasurementReader

end FalconGuide
