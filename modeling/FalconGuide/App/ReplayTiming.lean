import FalconGuide.App.ConfigValidity
import FalconGuide.Io.CsvAcceptance
import FalconGuide.Io.NumberPrinting
import FalconGuide.Lib.BinaryRounding

namespace FalconGuide

open Lib

/-!
# The timing of a replay

Before it pushes a measurement, `ReplayLoop` sleeps for the time since the measurement before,
divided by the playback speed.  Nanoseconds are 64-bit integers, and the quotient is a `double`.

* `Double.div`, `Double.toInt64` — the division and the conversion;
* `wakeTime` — the time on the wall clock until which the loop sleeps, if every result is a 64-bit
  integer;
* `ReplayClock.step`, `replayTiming` — the timing of one measurement and of a whole dataset;
* `GapInRange` — the condition on one measurement and the next;
* `replayTiming_iff` — it is exact, for every dataset and every speed;
* `not_replayTiming` — legal datasets and speeds that leave the range.
-/

/-! ### Arithmetic of `double` -/

/-- The operation whose result is no 64-bit integer. -/
inductive TimingFault
  | difference
  | conversion
  | addition
  deriving DecidableEq

/-- A result of signed 64-bit arithmetic. -/
def inInt64 (fault : TimingFault) (n : ℤ) : Except TimingFault ℤ :=
  if IsInt64 n then .ok n else .error fault

namespace Double

/-- The result of an operation. -/
def ofExact (x : ℚ) : Double ℚ :=
  if |x| < doubleLimit then finite (roundDouble x) else infinite (x < 0)

/-- `x / y`, for a zero without a sign. -/
def div : Double ℚ → Double ℚ → Double ℚ
  | finite x, finite y =>
    if y ≠ 0 then ofExact (x / y) else if x ≠ 0 then infinite (x < 0) else nan
  | finite _, infinite _ => finite 0
  | infinite negative, finite y => infinite (negative != decide (y < 0))
  | infinite _, infinite _ => nan
  | nan, _ => nan
  | _, nan => nan

/-- `x > 0.0`. -/
def isPositive : Double ℚ → Bool
  | finite x => 0 < x
  | infinite negative => !negative
  | nan => false

/-- `static_cast<int64_t>`. -/
def toInt64 : Double ℚ → Except TimingFault ℤ
  | finite x => inInt64 .conversion (truncate x)
  | _ => .error .conversion

end Double

/-! ### The loop -/

/-- The time until which the loop sleeps. -/
def wakeTime (speed : Double ℚ) (prevMeasNs curNs prevWall : ℤ) : Except TimingFault ℤ := do
  let dtMeasNs ← inInt64 .difference (curNs - prevMeasNs)
  let sleepNs ← ((Double.finite (roundDouble (dtMeasNs : ℚ))).div speed).toInt64
  inInt64 .addition (prevWall + sleepNs)

/-- What the loop remembers. -/
structure ReplayClock where
  prevMeasNs : Option ℤ := none
  prevWall : Int64
  deriving DecidableEq

namespace ReplayClock

/-- The time until which it sleeps before a measurement, if it does. -/
def wake (speed : Double ℚ) (c : ReplayClock) (curNs : ℤ) : Except TimingFault (Option ℤ) :=
  match c.prevMeasNs with
  | none => .ok none
  | some prevMeasNs =>
    if prevMeasNs < curNs then some <$> wakeTime speed prevMeasNs curNs c.prevWall.toInt
    else .ok none

/-- The timing of a measurement.  The clock is read when the loop has slept. -/
def step (speed : Double ℚ) (c : ReplayClock) (m : Timestamp × Int64) :
    Except TimingFault ReplayClock :=
  let (ts, now) := m
  if speed.isPositive ∧ ts.hasSteady then do
    let curNs := ts.steady.nanosecondsSinceEpoch
    let _ ← c.wake speed curNs
    return { prevMeasNs := some curNs, prevWall := now }
  else .ok { c with prevWall := now }

/-- The timing of measurements, one after the other. -/
def run (speed : Double ℚ) (c : ReplayClock) (ms : List (Timestamp × Int64)) :
    Except TimingFault ReplayClock :=
  ms.foldlM (step speed) c

end ReplayClock

/-- The timing of a dataset: the loop reads the clock when it starts, and then once for each
    measurement.  With fewer readings than measurements the loop is stopped early. -/
def replayTiming (speed : Double ℚ) (text : List UInt8) (start : Int64) (readings : List Int64) :
    Except TimingFault ReplayClock :=
  ReplayClock.run speed { prevWall := start }
    (((acceptedRecords text).map (·.timestamp)).zip readings)

/-! ### When the results are in range -/

/-- What is left of the range after a reading of the clock, or of a sleep alone. -/
def sleepLimit (now : Int64) : ℤ := 2 ^ 63 - max now.toInt 0

/-- A measurement of the time `a.1`, after which the clock was read as `a.2`, and the next one: the
    time between them is a 64-bit integer and, divided by the speed, rounds below what is left. -/
def GapInRange (speed : Double ℚ) (a b : ℤ × Int64) : Prop :=
  speed.isPositive → a.1 < b.1 → b.1 - a.1 < 2 ^ 63 ∧ ∀ s, speed = .finite s →
    RoundsBelow 53 (sleepLimit a.2 : ℚ) (roundDouble ((b.1 - a.1 : ℤ) : ℚ) / s)

/-- The measurements of a dataset, with the readings behind them. -/
def timedMeasurements (text : List UInt8) (readings : List Int64) : List (ℤ × Int64) :=
  ((acceptedRecords text).map (·.timestampNs)).zip readings

theorem exists_inInt64_iff {fault : TimingFault} {n : ℤ} :
    (∃ m, inInt64 fault n = .ok m) ↔ IsInt64 n := by
  unfold inInt64
  split <;> simp [*]

theorem inInt64_eq_ok {fault : TimingFault} {n m : ℤ} :
    inInt64 fault n = .ok m ↔ IsInt64 n ∧ n = m := by
  unfold inInt64
  split <;> simp [*]

/-- What follows a result in range. -/
theorem exists_inInt64_bind_iff {α : Type} {fault : TimingFault} {n : ℤ}
    {f : ℤ → Except TimingFault α} :
    (∃ a, (inInt64 fault n >>= f) = .ok a) ↔ IsInt64 n ∧ ∃ a, f n = .ok a := by
  simp only [exists_bind_eq_ok, inInt64_eq_ok, and_assoc, exists_and_left, exists_eq_left']

theorem Double.toInt64_finite {x : ℚ} (hx : 0 ≤ x) :
    (Double.finite x).toInt64 = inInt64 .conversion ⌊x⌋ := by
  rw [toInt64, truncate_of_nonneg hx]

theorem sleepLimit_pos (now : Int64) : 0 < sleepLimit now := by
  have hlt := now.toInt_lt
  unfold sleepLimit
  omega

/-- What overflows is no 64-bit integer either. -/
theorem lt_doubleLimit_of_roundDouble_lt {x : ℚ} (h : roundDouble x < 2 ^ 63) :
    x < doubleLimit := by
  by_contra hge
  have hlimit : (2 : ℚ) ^ (63 : ℤ) ≤ doubleLimit := by
    have hten := ten_pow_lt_doubleLimit
    have hle : 2 ^ 63 ≤ doubleLimit := by
      exact (show 2 ^ 63 ≤ 10 ^ 255 by norm_num).trans hten.le
    exact_mod_cast hle
  have hround := zpow_le_roundBinary (p := 53) (e := -1074) (by decide) (by decide)
    (hlimit.trans (not_lt.mp hge))
  exact h.not_ge (by exact_mod_cast hround)

/-- **A quotient that is converted and added** to a time on the wall clock. -/
theorem exists_addition_iff {x : ℚ} (hx : 0 ≤ x) (now : Int64) :
    (∃ sleepNs, (Double.ofExact x).toInt64 = .ok sleepNs ∧
      ∃ t, inInt64 .addition (now.toInt + sleepNs) = .ok t) ↔
      RoundsBelow 53 (sleepLimit now : ℚ) x := by
  have hround := roundDouble_nonneg hx
  have hfloor : 0 ≤ ⌊roundDouble x⌋ := Int.floor_nonneg.mpr hround
  have hlower := now.le_toInt
  have hupper := now.toInt_lt
  rw [← roundDouble_lt_iff hx (sleepLimit_pos now), ← Int.floor_lt]
  simp only [exists_inInt64_iff]
  constructor
  · rintro ⟨sleepNs, hsleep, hsum⟩
    rw [Double.ofExact] at hsleep
    split at hsleep
    · rw [Double.toInt64_finite hround, inInt64_eq_ok] at hsleep
      obtain ⟨⟨-, hlt⟩, rfl⟩ := hsleep
      have hlt' := hsum.2
      unfold sleepLimit
      omega
    · cases hsleep
  · intro hlt
    unfold sleepLimit at hlt
    have hlimit : |x| < doubleLimit := by
      rw [abs_of_nonneg hx]
      have hsmall : ⌊roundDouble x⌋ < 2 ^ 63 := by omega
      exact lt_doubleLimit_of_roundDouble_lt (by exact_mod_cast Int.floor_lt.mp hsmall)
    refine ⟨⌊roundDouble x⌋, ?_, ?_⟩
    · rw [Double.ofExact, if_pos hlimit, Double.toInt64_finite hround, inInt64_eq_ok]
      exact ⟨⟨by omega, by omega⟩, rfl⟩
    · constructor <;> omega

/-- A quotient by an infinite speed is zero. -/
theorem exists_div_iff {speed : Double ℚ} (hspeed : speed.isPositive) {x : ℚ} (hx : 0 ≤ x)
    (now : Int64) :
    (∃ sleepNs, ((Double.finite x).div speed).toInt64 = .ok sleepNs ∧
      ∃ t, inInt64 .addition (now.toInt + sleepNs) = .ok t) ↔
      ∀ s, speed = .finite s → RoundsBelow 53 (sleepLimit now : ℚ) (x / s) := by
  cases speed with
  | finite s =>
    have hs : 0 < s := of_decide_eq_true hspeed
    simp only [Double.finite.injEq, forall_eq']
    rw [Double.div, if_pos hs.ne']
    exact exists_addition_iff (div_nonneg hx hs.le) now
  | infinite negative =>
    simp only [reduceCtorEq, false_implies, implies_true, iff_true]
    refine ⟨0, rfl, exists_inInt64_iff.mpr ?_⟩
    rw [add_zero]
    exact ⟨now.le_toInt, now.toInt_lt⟩
  | nan => cases hspeed

/-- **One sleep.** -/
theorem exists_wakeTime_iff {speed : Double ℚ} (hspeed : speed.isPositive) {a b : ℤ × Int64}
    (hlt : a.1 < b.1) :
    (∃ t, wakeTime speed a.1 b.1 a.2.toInt = .ok t) ↔ GapInRange speed a b := by
  have hgap : IsInt64 (b.1 - a.1) ↔ b.1 - a.1 < 2 ^ 63 := by
    refine and_iff_right ?_
    omega
  have hdt : 0 ≤ roundDouble ((b.1 - a.1 : ℤ) : ℚ) :=
    roundDouble_nonneg (by exact_mod_cast (sub_pos.mpr hlt).le)
  rw [wakeTime, exists_inInt64_bind_iff, hgap, exists_bind_eq_ok, exists_div_iff hspeed hdt]
  simp only [GapInRange, hspeed, hlt, forall_const]

/-- **One measurement**, after another. -/
theorem exists_wake_iff {speed : Double ℚ} (hspeed : speed.isPositive) (a b : ℤ × Int64) :
    (∃ t, ReplayClock.wake speed { prevMeasNs := some a.1, prevWall := a.2 } b.1 = .ok t) ↔
      GapInRange speed a b := by
  rw [ReplayClock.wake]
  dsimp only
  split
  · rename_i hlt
    rw [← exists_wakeTime_iff hspeed hlt, map_eq_pure_bind, exists_bind_eq_ok]
    exact exists_congr fun t => and_iff_left ⟨_, rfl⟩
  · rename_i hge
    exact iff_of_true ⟨_, rfl⟩ fun _ hlt => absurd hlt hge

/-- A measurement that is timed leaves its time behind. -/
theorem step_eq_ok {speed : Double ℚ} (hspeed : speed.isPositive) {c c' : ReplayClock} {n : ℤ}
    {now : Int64} :
    c.step speed (.ofSteady n, now) = .ok c' ↔
      (∃ t, c.wake speed n = .ok t) ∧ { prevMeasNs := some n, prevWall := now } = c' := by
  rw [ReplayClock.step, if_pos ⟨hspeed, rfl⟩]
  dsimp only
  simp only [bind_eq_ok, pure_eq_ok, ← exists_and_right]
  rfl

/-- The loop, from a measurement on. -/
theorem exists_run_iff {speed : Double ℚ} (hspeed : speed.isPositive) (a : ℤ × Int64)
    (ms : List (ℤ × Int64)) :
    (∃ c, ReplayClock.run speed { prevMeasNs := some a.1, prevWall := a.2 }
      (ms.map (Prod.map .ofSteady id)) = .ok c) ↔ (a :: ms).IsChain (GapInRange speed) := by
  induction ms generalizing a with
  | nil => exact iff_of_true ⟨_, rfl⟩ (List.isChain_singleton _)
  | cons b ms ih =>
    rw [List.isChain_cons_cons, ← ih b, ← exists_wake_iff hspeed a b, ReplayClock.run,
      List.map_cons, List.foldlM_cons, exists_bind_eq_ok]
    simp only [Prod.map, id, step_eq_ok hspeed, and_assoc, exists_and_left, exists_eq_left']
    rfl

/-- Without a positive speed there is no timing. -/
theorem exists_run_of_not_isPositive {speed : Double ℚ} (hspeed : ¬ speed.isPositive)
    (c : ReplayClock) (ms : List (Timestamp × Int64)) :
    ∃ c', ReplayClock.run speed c ms = .ok c' := by
  induction ms generalizing c with
  | nil => exact ⟨c, rfl⟩
  | cons m ms ih =>
    obtain ⟨c', hc'⟩ := ih { c with prevWall := m.2 }
    refine ⟨c', ?_⟩
    rw [ReplayClock.run, List.foldlM_cons, ReplayClock.step, if_neg fun h => hspeed h.1]
    exact hc'

/-- **The timing stays in range** exactly if every gap does: for every file, every speed, every
    reading of the clock and any number of measurements before the loop is stopped. -/
theorem replayTiming_iff (speed : Double ℚ) (text : List UInt8) (start : Int64)
    (readings : List Int64) :
    (∃ c, replayTiming speed text start readings = .ok c) ↔
      (timedMeasurements text readings).IsChain (GapInRange speed) := by
  have hmap : ((acceptedRecords text).map (·.timestamp)).zip readings
      = (timedMeasurements text readings).map (Prod.map .ofSteady id) := by
    rw [timedMeasurements, ← List.zip_map_left, List.map_map]
    rfl
  rw [replayTiming, hmap]
  by_cases hspeed : speed.isPositive
  · cases timedMeasurements text readings with
    | nil => exact iff_of_true ⟨_, rfl⟩ List.isChain_nil
    | cons a ms =>
      -- before the first measurement there is nothing to wait for
      rw [← exists_run_iff hspeed a ms, ReplayClock.run, List.map_cons, List.foldlM_cons,
        exists_bind_eq_ok]
      simp only [Prod.map, id, step_eq_ok hspeed, and_assoc, exists_and_left, exists_eq_left']
      exact and_iff_right ⟨none, rfl⟩
  · refine iff_of_true (exists_run_of_not_isPositive hspeed _ _) ?_
    exact List.isChain_iff_getElem.mpr fun _ _ h => absurd h hspeed

/-- A configuration with this speed. -/
def replayCfg (speed : ℚ) : SessionConfig Unit :=
  { nav := { sensors := () }, dataset := { path := "flight.csv" }, playbackSpeed := speed }

/-- **Out of range.** Two measurements a second apart, at a ten-billionth of real time; from the
    nanosecond before the epoch to the end of the range, at real time; and to almost the end of the
    range, a millisecond after the clock started. -/
theorem not_replayTiming :
    ((replayCfg (1 / 10 ^ 10)).validate = none ∧
      replayTiming (.finite (replayCfg (1 / 10 ^ 10)).playbackSpeed)
        (ascii "BARO,0,101325,100\nBARO,1000000000,101325,100") 0 [0, 0]
        = .error .conversion) ∧
    (replayCfg 1).validate = none ∧
      replayTiming (.finite (replayCfg 1).playbackSpeed)
        (ascii "BARO,-1,101325,100\nBARO,9223372036854775807,101325,100") 0 [0, 0]
        = .error .difference ∧
      replayTiming (.finite (replayCfg 1).playbackSpeed)
        (ascii "BARO,0,101325,100\nBARO,9223372036854774000,101325,100") 0 [1000000, 2000000]
        = .error .addition := by
  refine ⟨⟨?_, ?_⟩, ?_, ?_, ?_⟩
  all_goals decide +kernel

end FalconGuide
