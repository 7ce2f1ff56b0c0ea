import FalconGuide.Core.Time
import Mathlib.Tactic.Linarith

namespace FalconGuide

/-!
# Comparing and subtracting timestamps

`compareTimestamps` and `timeDifference` read the same two time bases, each in its own way: the
difference on GPS time is taken within one week only, and truncated to nanoseconds.  A difference
is a count of nanoseconds of 64 bits on either.

* `aboutNanosecond`, `InNanosecondRange` — the differences on GPS time that are not truncated to
  zero, and those that do not overflow;
* `DifferenceAgrees` — the difference of two timestamps exists if they can be compared, does not
  overflow and has the sign of their ordering;
* `differenceAgrees_iff` — on the monotonic clock it does unless it overflows; on GPS time, within
  one week, unless less than a nanosecond lies between the two or it overflows.
-/

/-! ### The conversion to nanoseconds -/

/-- Half a digit less than the `double` that is called `1e-9`: what is more is rounded to a
    nanosecond at least. -/
def aboutNanosecond : ℚ := (4835703278458517 - 1 / 2) / 2 ^ 82

/-- The seconds that are `2 ^ 63` nanoseconds at most on this side of zero, and less on that one. -/
def InNanosecondRange (seconds : ℚ) : Prop :=
  -((4835703278458517 + 1 / 2) / 2 ^ 19) < seconds ∧
    seconds ≤ (4835703278458517 - 1 / 2) / 2 ^ 19

instance (seconds : ℚ) : Decidable (InNanosecondRange seconds) :=
  inferInstanceAs (Decidable (_ ∧ _))

namespace Duration

variable {d : ℚ}

/-- The nanoseconds in a difference of seconds, not yet an integer. -/
def ofDifference (d : ℚ) : ℚ := roundDouble (roundDouble d * 1000000000)

theorem ofDifference_neg (d : ℚ) : ofDifference (-d) = -ofDifference d := by
  rw [ofDifference, roundDouble_neg, neg_mul, roundDouble_neg]
  rfl

theorem roundDouble_mul_nonneg (hd : 0 ≤ d) : 0 ≤ roundDouble d * 1000000000 :=
  mul_nonneg (roundDouble_nonneg hd) (by norm_num)

theorem ofDifference_nonneg (hd : 0 ≤ d) : 0 ≤ ofDifference d :=
  roundDouble_nonneg (roundDouble_mul_nonneg hd)

/-- A nanosecond. -/
theorem one_le_ofDifference_iff (hd : 0 ≤ d) : 1 ≤ ofDifference d ↔ aboutNanosecond < d := by
  have hproduct : ofDifference d < 1 ↔ roundDouble d < (1 - 1 / 2 ^ 54) / 1000000000 := by
    rw [ofDifference, lt_div_iff₀ (by norm_num),
      roundDouble_lt_iff_of_units (k := 0) (n := 2 ^ 53) (roundDouble_mul_nonneg hd)
        (by norm_num) (by norm_num) (by norm_num) (by norm_num) (by norm_num)]
    norm_num
  rw [← not_iff_not, not_le, not_lt, hproduct,
    roundDouble_lt_iff_of_units (k := -29) (n := 4835703278458517) hd
      (by norm_num) (by norm_num) (by norm_num) (by norm_num) (by norm_num),
    aboutNanosecond, le_iff_lt_or_eq]
  norm_num

/-- The last nanosecond of a positive `int64_t`. -/
theorem ofDifference_lt_iff (hd : 0 ≤ d) :
    ofDifference d < 2 ^ 63 ↔ d ≤ (4835703278458517 - 1 / 2) / 2 ^ 19 := by
  have hproduct : ofDifference d < 2 ^ 63 ↔
      roundDouble d < ((2 ^ 53 - 1 / 2) * 2 ^ 10) / 1000000000 := by
    rw [ofDifference, lt_div_iff₀ (by norm_num),
      roundDouble_lt_iff_of_units (k := 63) (n := 2 ^ 53) (roundDouble_mul_nonneg hd)
        (by norm_num) (by norm_num) (by norm_num) (by norm_num) (by norm_num)]
    norm_num
  rw [hproduct,
    roundDouble_lt_iff_of_units (k := 34) (n := 4835703278458517) hd
      (by norm_num) (by norm_num) (by norm_num) (by norm_num) (by norm_num), le_iff_lt_or_eq]
  norm_num

/-- And of a negative one, which has one more. -/
theorem ofDifference_lt_succ_iff (hd : 0 ≤ d) :
    ofDifference d < 2 ^ 63 + 1 ↔ d < (4835703278458517 + 1 / 2) / 2 ^ 19 := by
  have hproduct : ofDifference d < 2 ^ 63 + 1 ↔
      roundDouble d * 1000000000 ≤ (2 ^ 52 + 1 / 2) * 2 ^ 11 := by
    rw [ofDifference, le_iff_lt_or_eq,
      roundDouble_lt_iff_of_units (k := 64) (n := 2 ^ 52 + 1) (roundDouble_mul_nonneg hd)
        (by norm_num) (by norm_num) (by norm_num) (by norm_num) (by norm_num)]
    norm_num
  -- no `double` lies between the bound on the product and the next integer
  have hbelow : ∀ y : ℚ, (2 ^ 52 + 1 / 2) * 2 ^ 11 ≤ y → y ≤ (2 ^ 52 + 1 / 2) * 2 ^ 11 + 1 →
      (roundDouble d < y / 1000000000 ↔ d < (4835703278458517 + 1 / 2) / 2 ^ 19) := by
    intro y hlower hupper
    rw [roundDouble_lt_iff_of_units (k := 34) (n := 4835703278458518) hd (by norm_num)
      (by norm_num; linarith) (by norm_num; linarith) (by norm_num; linarith)
      (by norm_num; linarith)]
    norm_num
  rw [hproduct]
  constructor
  · intro hle
    refine (hbelow _ (by norm_num) le_rfl).mp ?_
    rw [lt_div_iff₀ (by norm_num)]
    linarith
  · intro hlt
    have hround := (hbelow _ le_rfl (by norm_num)).mpr hlt
    rw [lt_div_iff₀ (by norm_num)] at hround
    exact hround.le

theorem fromSeconds_zero : (fromSeconds (roundDouble 0)).nanoseconds = 0 := by
  simp [fromSeconds, truncate]

/-- **A difference ahead** has a positive count of nanoseconds. -/
theorem fromSeconds_pos_iff (hd : 0 < d) :
    IsInt64 (fromSeconds (roundDouble d)).nanoseconds ∧
        0 < (fromSeconds (roundDouble d)).nanoseconds ↔
      aboutNanosecond < |d| ∧ InNanosecondRange d := by
  have hns : (fromSeconds (roundDouble d)).nanoseconds = ⌊ofDifference d⌋ :=
    truncate_of_nonneg (ofDifference_nonneg hd.le)
  have hbehind : -((4835703278458517 + 1 / 2) / 2 ^ 19) < d := lt_trans (by norm_num) hd
  have hpos : 0 < ⌊ofDifference d⌋ ↔ aboutNanosecond < d := by
    rw [← one_le_ofDifference_iff hd.le, Int.floor_pos]
  have hlast : ⌊ofDifference d⌋ < 2 ^ 63 ↔ d ≤ (4835703278458517 - 1 / 2) / 2 ^ 19 := by
    rw [← ofDifference_lt_iff hd.le, Int.floor_lt]
    norm_num
  rw [hns, abs_of_pos hd, InNanosecondRange, IsInt64, and_iff_right hbehind, ← hpos, ← hlast]
  constructor
  · rintro ⟨⟨-, hlt⟩, hpos⟩
    exact ⟨hpos, hlt⟩
  · rintro ⟨hpos, hlt⟩
    exact ⟨⟨by omega, hlt⟩, hpos⟩

/-- **A difference behind** has a negative one. -/
theorem fromSeconds_neg_iff (hd : d < 0) :
    IsInt64 (fromSeconds (roundDouble d)).nanoseconds ∧
        (fromSeconds (roundDouble d)).nanoseconds < 0 ↔
      aboutNanosecond < |d| ∧ InNanosecondRange d := by
  have hd' : 0 < -d := neg_pos.mpr hd
  have hns : (fromSeconds (roundDouble d)).nanoseconds = -⌊ofDifference (-d)⌋ := by
    rw [← truncate_of_nonneg (ofDifference_nonneg hd'.le), ofDifference_neg, truncate_neg, neg_neg]
    rfl
  have hahead : d ≤ (4835703278458517 - 1 / 2) / 2 ^ 19 := hd.le.trans (by norm_num)
  have hpos : 0 < ⌊ofDifference (-d)⌋ ↔ aboutNanosecond < -d := by
    rw [← one_le_ofDifference_iff hd'.le, Int.floor_pos]
  have hlast : ⌊ofDifference (-d)⌋ < 2 ^ 63 + 1 ↔ -((4835703278458517 + 1 / 2) / 2 ^ 19) < d := by
    rw [neg_lt, ← ofDifference_lt_succ_iff hd'.le, Int.floor_lt]
    norm_num
  rw [hns, abs_of_neg hd, InNanosecondRange, IsInt64, and_iff_left hahead, ← hpos, ← hlast]
  constructor
  · rintro ⟨⟨hge, -⟩, hneg⟩
    exact ⟨by omega, by omega⟩
  · rintro ⟨hpos, hlt⟩
    exact ⟨⟨by omega, by omega⟩, by omega⟩

end Duration

/-! ### The two functions -/

/-- The difference is a count of nanoseconds that 64 bits hold, and of this sign. -/
def DifferenceIs (t u : Timestamp) (sign : ℤ → Prop) : Prop :=
  ∃ d, timeDifference t u = some d ∧ IsInt64 d.nanoseconds ∧ sign d.nanoseconds

/-- **The difference agrees with the ordering:** it exists if the timestamps can be compared, and
    does not overflow and has the sign that the ordering says. -/
def DifferenceAgrees (t u : Timestamp) : Prop :=
  match compareTimestamps t u with
  | .before => DifferenceIs t u (· < 0)
  | .equal => DifferenceIs t u (· = 0)
  | .after => DifferenceIs t u (0 < ·)
  | .notComparable => timeDifference t u = none

/-- The two are compared on the monotonic clock. -/
def OnMonotonicClock (t u : Timestamp) : Prop := t.hasSteady = true ∧ u.hasSteady = true

/-- The two are compared on GPS time. -/
def OnGpsTime (t u : Timestamp) : Prop :=
  ¬ OnMonotonicClock t u ∧ t.hasGps = true ∧ u.hasGps = true

/-- The two are of one week, and equal or a nanosecond apart, and no more than can be counted. -/
def GpsTime.Resolved (t u : GpsTime) : Prop :=
  t.week = u.week ∧
    (t.secondsOfWeek = u.secondsOfWeek ∨
      aboutNanosecond < |t.secondsOfWeek - u.secondsOfWeek| ∧
        InNanosecondRange (t.secondsOfWeek - u.secondsOfWeek))

variable {t u : Timestamp}

theorem compareTimestamps_of_gps (h : OnGpsTime t u) :
    compareTimestamps t u = compareGpsTime t.gps u.gps := by
  obtain ⟨hsteady, ht, hu⟩ := h
  rw [compareTimestamps, if_neg (by simpa [OnMonotonicClock] using hsteady), ht, hu]
  rfl

theorem timeDifference_of_gps (h : OnGpsTime t u) :
    timeDifference t u
      = if t.gps.week = u.gps.week then
          some (.fromSeconds (roundDouble (t.gps.secondsOfWeek - u.gps.secondsOfWeek)))
        else none := by
  obtain ⟨hsteady, ht, hu⟩ := h
  rw [timeDifference, if_neg (by simpa [OnMonotonicClock] using hsteady), ht, hu]
  simp

theorem differenceIs_iff {d : Duration} {sign : ℤ → Prop} (h : timeDifference t u = some d) :
    DifferenceIs t u sign ↔ IsInt64 d.nanoseconds ∧ sign d.nanoseconds := by
  simp only [DifferenceIs, h, Option.some.injEq, exists_eq_left']

/-- **On the monotonic clock** the two agree unless the difference overflows. -/
theorem differenceAgrees_iff_isInt64 (h : OnMonotonicClock t u) :
    DifferenceAgrees t u ↔
      IsInt64 (t.steady.nanosecondsSinceEpoch - u.steady.nanosecondsSinceEpoch) := by
  obtain ⟨ht, hu⟩ := h
  have hdiff : timeDifference t u = some (t.steady.sub u.steady) := by
    simp [timeDifference, ht, hu]
  rcases lt_trichotomy t.steady.nanosecondsSinceEpoch u.steady.nanosecondsSinceEpoch
    with h | h | h
  · have hcmp : compareTimestamps t u = .before := by simp [compareTimestamps, ht, hu, h]
    simp only [DifferenceAgrees, hcmp]
    exact (differenceIs_iff hdiff).trans (and_iff_left (sub_neg.mpr h))
  · have hcmp : compareTimestamps t u = .equal := by simp [compareTimestamps, ht, hu, h]
    simp only [DifferenceAgrees, hcmp]
    exact (differenceIs_iff hdiff).trans (and_iff_left (sub_eq_zero.mpr h))
  · have hcmp : compareTimestamps t u = .after := by simp [compareTimestamps, ht, hu, h, h.not_gt]
    simp only [DifferenceAgrees, hcmp]
    exact (differenceIs_iff hdiff).trans (and_iff_left (sub_pos.mpr h))

/-- Timestamps without a common time basis have no difference. -/
theorem differenceAgrees_of_notComparable (hsteady : ¬ OnMonotonicClock t u)
    (hgps : ¬ (t.hasGps = true ∧ u.hasGps = true)) : DifferenceAgrees t u := by
  have hsteady' : ¬ (t.hasSteady && u.hasSteady) = true := by
    simpa [OnMonotonicClock] using hsteady
  have hcmp : compareTimestamps t u = .notComparable := by
    rw [compareTimestamps, if_neg hsteady', if_neg (by simpa using hgps)]
  simp only [DifferenceAgrees, hcmp]
  rw [timeDifference, if_neg hsteady', if_neg]
  simp only [Bool.and_eq_true, not_and, decide_eq_true_eq]
  intro h
  exact absurd h hgps

/-- **On GPS time** they agree exactly if a nanosecond tells the two apart in one week, and they
    are not too far apart. -/
theorem differenceAgrees_iff_resolved (h : OnGpsTime t u) :
    DifferenceAgrees t u ↔ t.gps.Resolved u.gps := by
  have hcmp := compareTimestamps_of_gps h
  have hdiff := timeDifference_of_gps h
  by_cases hweek : t.gps.week = u.gps.week
  · rw [if_pos hweek] at hdiff
    have hone : compareGpsTime t.gps u.gps
        = if t.gps.secondsOfWeek < u.gps.secondsOfWeek then .before
          else if u.gps.secondsOfWeek < t.gps.secondsOfWeek then .after else .equal := by
      simp [compareGpsTime, hweek]
    rw [hone] at hcmp
    rw [GpsTime.Resolved, and_iff_right hweek]
    rcases lt_trichotomy t.gps.secondsOfWeek u.gps.secondsOfWeek with hlt | heq | hlt
    · rw [if_pos hlt] at hcmp
      simp only [DifferenceAgrees, hcmp]
      rw [differenceIs_iff hdiff, Duration.fromSeconds_neg_iff (sub_neg.mpr hlt),
        or_iff_right hlt.ne]
    · rw [heq, if_neg (lt_irrefl _), if_neg (lt_irrefl _)] at hcmp
      simp only [DifferenceAgrees, hcmp]
      rw [differenceIs_iff hdiff, heq, sub_self, Duration.fromSeconds_zero]
      exact iff_of_true ⟨by decide, rfl⟩ (.inl rfl)
    · rw [if_neg hlt.not_gt, if_pos hlt] at hcmp
      simp only [DifferenceAgrees, hcmp]
      rw [differenceIs_iff hdiff, Duration.fromSeconds_pos_iff (sub_pos.mpr hlt),
        or_iff_right hlt.ne']
  · rw [if_neg hweek] at hdiff
    have hnone : ∀ sign, ¬ DifferenceIs t u sign := by
      rintro sign ⟨d, hd, -⟩
      rw [hdiff] at hd
      cases hd
    refine iff_of_false ?_ fun hresolved => hweek hresolved.1
    -- another week is before or after, and has no difference
    rcases lt_or_gt_of_ne hweek with hlt | hlt
    · have hbefore : compareTimestamps t u = .before := by
        rw [hcmp]
        simp [compareGpsTime, hlt]
      simp only [DifferenceAgrees, hbefore]
      exact hnone _
    · have hafter : compareTimestamps t u = .after := by
        rw [hcmp]
        simp [compareGpsTime, hlt, hlt.not_gt]
      simp only [DifferenceAgrees, hafter]
      exact hnone _

/-- **When the two agree.** -/
theorem differenceAgrees_iff (t u : Timestamp) :
    DifferenceAgrees t u ↔
      (OnMonotonicClock t u →
        IsInt64 (t.steady.nanosecondsSinceEpoch - u.steady.nanosecondsSinceEpoch)) ∧
      (OnGpsTime t u → t.gps.Resolved u.gps) := by
  by_cases hsteady : OnMonotonicClock t u
  · rw [differenceAgrees_iff_isInt64 hsteady, forall_prop_of_true hsteady]
    exact (and_iff_left fun hgps => absurd hsteady hgps.1).symm
  · rw [forall_prop_of_false hsteady, true_and]
    by_cases hgps : t.hasGps = true ∧ u.hasGps = true
    · have honGps : OnGpsTime t u := ⟨hsteady, hgps⟩
      rw [differenceAgrees_iff_resolved honGps, forall_prop_of_true honGps]
    · exact iff_of_true (differenceAgrees_of_notComparable hsteady hgps)
        fun honGps => absurd honGps.2 hgps

end FalconGuide
