import FalconGuide.Core.Time
import Mathlib.Algebra.Order.Ring.Rat
import Mathlib.Data.Prod.Lex
import Mathlib.Order.Defs.LinearOrder

namespace FalconGuide

/-!
# Timestamps on one time basis

`compareTimestamps` prefers the monotonic clock, so timestamps that mix the two bases need not be
ordered at all.  On one basis they are ordered linearly, by a key.

* `TimeBasis` / `Timestamp.On` — the basis on which a timestamp is compared;
* `Timestamp.key` — its place in the linear order;
* `compareTimestamps_eq` / `Timestamp.atOrBefore_iff` — the comparison is that of the keys.
-/

/-- The two time bases. -/
inductive TimeBasis
  | steady
  | gps
  deriving DecidableEq

/-- `t` is compared on this basis: GPS time counts only without a monotonic time. -/
def Timestamp.On (basis : TimeBasis) (t : Timestamp) : Prop :=
  match basis with
  | .steady => t.hasSteady = true
  | .gps => t.hasSteady = false ∧ t.hasGps = true

instance (basis : TimeBasis) (t : Timestamp) : Decidable (t.On basis) :=
  match basis with
  | .steady => inferInstanceAs (Decidable (_ = _))
  | .gps => inferInstanceAs (Decidable (_ ∧ _))

/-- Nanoseconds on the monotonic clock; the week and then the seconds on GPS time. -/
def Timestamp.key (basis : TimeBasis) (t : Timestamp) : ℤ ×ₗ ℚ :=
  match basis with
  | .steady => toLex (t.steady.nanosecondsSinceEpoch, 0)
  | .gps => toLex (t.gps.week, t.gps.secondsOfWeek)

/-- The ordering that two keys stand in. -/
def TimestampOrdering.ofKeys (k l : ℤ ×ₗ ℚ) : TimestampOrdering :=
  if k < l then .before else if l < k then .after else .equal

namespace TimestampOrdering

variable {k l : ℤ ×ₗ ℚ}

theorem ofKeys_eq_before : ofKeys k l = .before ↔ k < l := by
  rcases lt_trichotomy k l with h | rfl | h
  · simp [ofKeys, h]
  · simp [ofKeys]
  · simp [ofKeys, h, h.not_gt]

theorem ofKeys_eq_equal : ofKeys k l = .equal ↔ k = l := by
  rcases lt_trichotomy k l with h | rfl | h
  · simp [ofKeys, h, h.ne]
  · simp [ofKeys]
  · simp [ofKeys, h, h.not_gt, h.ne']

theorem ofKeys_eq_after : ofKeys k l = .after ↔ l < k := by
  rcases lt_trichotomy k l with h | rfl | h
  · simp [ofKeys, h, h.not_gt]
  · simp [ofKeys]
  · simp [ofKeys, h, h.not_gt]

theorem ofKeys_ne_notComparable : ofKeys k l ≠ .notComparable := by
  rcases lt_trichotomy k l with h | rfl | h
  · simp [ofKeys, h]
  · simp [ofKeys]
  · simp [ofKeys, h, h.not_gt]

end TimestampOrdering

/-! ### The comparison of the source -/

/-- GPS times are ordered by week, and then by the second within it. -/
theorem compareGpsTime_eq (t u : GpsTime) :
    compareGpsTime t u
      = .ofKeys (toLex (t.week, t.secondsOfWeek)) (toLex (u.week, u.secondsOfWeek)) := by
  simp only [compareGpsTime, TimestampOrdering.ofKeys, Prod.Lex.toLex_lt_toLex]
  rcases lt_trichotomy t.week u.week with h | h | h
  · simp [h]
  · simp [h]
  · simp [h, h.not_gt, h.ne']

variable {basis : TimeBasis} {t u : Timestamp}

/-- **On one basis** the comparison is that of the keys. -/
theorem compareTimestamps_eq (ht : t.On basis) (hu : u.On basis) :
    compareTimestamps t u = .ofKeys (t.key basis) (u.key basis) := by
  cases basis with
  | steady =>
    have ht : t.hasSteady = true := ht
    have hu : u.hasSteady = true := hu
    simp [compareTimestamps, ht, hu, TimestampOrdering.ofKeys, Timestamp.key,
      Prod.Lex.toLex_lt_toLex]
  | gps =>
    obtain ⟨ht, ht'⟩ := ht
    obtain ⟨hu, hu'⟩ := hu
    simp only [compareTimestamps, ht, hu, ht', hu', Bool.and_self, Bool.false_eq_true, if_false,
      if_true]
    exact compareGpsTime_eq t.gps u.gps

/-- On one basis, before is the order of the keys. -/
theorem compareTimestamps_eq_before_iff (ht : t.On basis) (hu : u.On basis) :
    compareTimestamps t u = .before ↔ t.key basis < u.key basis := by
  rw [compareTimestamps_eq ht hu]
  exact TimestampOrdering.ofKeys_eq_before

/-- So is after. -/
theorem compareTimestamps_eq_after_iff (ht : t.On basis) (hu : u.On basis) :
    compareTimestamps t u = .after ↔ u.key basis < t.key basis := by
  rw [compareTimestamps_eq ht hu]
  exact TimestampOrdering.ofKeys_eq_after

/-- Timestamps of one basis can be compared. -/
theorem compareTimestamps_ne_notComparable (ht : t.On basis) (hu : u.On basis) :
    compareTimestamps t u ≠ .notComparable := by
  rw [compareTimestamps_eq ht hu]
  exact TimestampOrdering.ofKeys_ne_notComparable

/-- At or before is the order of the keys with equality. -/
theorem Timestamp.atOrBefore_iff (ht : t.On basis) (hu : u.On basis) :
    t.AtOrBefore u ↔ t.key basis ≤ u.key basis := by
  rw [Timestamp.AtOrBefore, compareTimestamps_eq ht hu, TimestampOrdering.ofKeys_eq_before,
    TimestampOrdering.ofKeys_eq_equal, le_iff_lt_or_eq]

end FalconGuide
