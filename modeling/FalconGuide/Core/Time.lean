import FalconGuide.Core.MachineNumbers

namespace FalconGuide

/-!
# Time

Timestamps on one or two time bases.  Nanosecond counts and GPS weeks are integers, seconds are
rationals, which every finite `double` is.  A difference on the monotonic clock is that of the
integers; the code has it as long as it is one of 64 bits.

* `Timestamp` — a monotonic time, a GPS time, or both;
* `compareTimestamps` / `timeDifference` — ordering and difference on a common basis;
* `Timestamp.AtOrBefore` — comparable, and not after.
-/

/-- A signed duration in nanoseconds. -/
structure Duration where
  nanoseconds : ℤ := 0
  deriving DecidableEq

/-- `FromSeconds`: the cast of the product to an integer rounds towards zero.  The code has it as
    long as it is one of 64 bits. -/
def Duration.fromSeconds (seconds : ℚ) : Duration :=
  { nanoseconds := truncate (roundDouble (seconds * 1000000000)) }

/-- `seconds()`. -/
def Duration.seconds (d : Duration) : ℚ := d.nanoseconds / 1000000000

/-- A point on the monotonic clock. -/
structure MonotonicTime where
  nanosecondsSinceEpoch : ℤ := 0
  deriving DecidableEq

/-- `operator-`, as long as it does not overflow. -/
def MonotonicTime.sub (lhs rhs : MonotonicTime) : Duration :=
  { nanoseconds := lhs.nanosecondsSinceEpoch - rhs.nanosecondsSinceEpoch }

/-- A GPS week and the seconds within it. -/
structure GpsTime where
  week : ℤ := 0
  secondsOfWeek : ℚ := 0
  deriving DecidableEq

/-- A timestamp; a time basis without its flag carries no meaning. -/
structure Timestamp where
  steady : MonotonicTime := {}
  gps : GpsTime := {}
  hasSteady : Bool := false
  hasGps : Bool := false
  deriving DecidableEq

/-- A timestamp on the monotonic clock alone. -/
def Timestamp.ofSteady (nanoseconds : ℤ) : Timestamp :=
  { steady := { nanosecondsSinceEpoch := nanoseconds }, hasSteady := true }

/-- A timestamp on GPS time alone. -/
def Timestamp.ofGps (week : ℤ) (secondsOfWeek : ℚ) : Timestamp :=
  { gps := { week, secondsOfWeek }, hasGps := true }

/-- The result of comparing two timestamps. -/
inductive TimestampOrdering
  | before
  | equal
  | after
  | notComparable
  deriving DecidableEq

/-- `CompareGpsTime`. -/
def compareGpsTime (lhs rhs : GpsTime) : TimestampOrdering :=
  if lhs.week < rhs.week then .before
  else if rhs.week < lhs.week then .after
  else if lhs.secondsOfWeek < rhs.secondsOfWeek then .before
  else if rhs.secondsOfWeek < lhs.secondsOfWeek then .after
  else .equal

/-- `CompareTimestamps`: the monotonic clock first, then GPS time. -/
def compareTimestamps (lhs rhs : Timestamp) : TimestampOrdering :=
  if lhs.hasSteady && rhs.hasSteady then
    if lhs.steady.nanosecondsSinceEpoch < rhs.steady.nanosecondsSinceEpoch then .before
    else if rhs.steady.nanosecondsSinceEpoch < lhs.steady.nanosecondsSinceEpoch then .after
    else .equal
  else if lhs.hasGps && rhs.hasGps then compareGpsTime lhs.gps rhs.gps
  else .notComparable

/-- `t` is not after `u`, and the two can be compared. -/
def Timestamp.AtOrBefore (t u : Timestamp) : Prop :=
  compareTimestamps t u = .before ∨ compareTimestamps t u = .equal

instance (t u : Timestamp) : Decidable (t.AtOrBefore u) := inferInstanceAs (Decidable (_ ∨ _))

/-- `TimeDifference`: `lhs - rhs`, on GPS time only within one week. -/
def timeDifference (lhs rhs : Timestamp) : Option Duration :=
  if lhs.hasSteady && rhs.hasSteady then some (lhs.steady.sub rhs.steady)
  else if lhs.hasGps && rhs.hasGps && lhs.gps.week = rhs.gps.week then
    some (.fromSeconds (roundDouble (lhs.gps.secondsOfWeek - rhs.gps.secondsOfWeek)))
  else none

end FalconGuide
