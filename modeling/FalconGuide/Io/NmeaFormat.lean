import FalconGuide.Io.NmeaParsing

namespace FalconGuide

open Lib

/-!
# Printed angles and courses

What `FormatNmeaLatitudeLongitude`, `WriteRmc` and `WriteVtg` print, and what it is read back as.

* `formatNmeaLatitudeLongitude_eq` — the field, digit by digit;
* `isAngle_digits` — digits with a point are read as an angle;
* `FormatsAngle`, `PrintsCourse` — what is promised of a field;
* `formatsAngle_iff` — it fails where the minutes or the course are rounded up to the next whole
  unit.
-/

/-! ### The field -/

/-- The minutes of `FormatNmeaLatitudeLongitude`. -/
noncomputable def angleMinutes (radians : ℝ) : ℝ :=
  (|radToDeg radians| - ⌊|radToDeg radians|⌋₊) * 60

/-- The printed minutes, in units of the last digit. -/
noncomputable def minuteUnits (radians : ℝ) : ℕ := fixedDigits 7 (angleMinutes radians)

/-- The digits in front of the point. -/
noncomputable def wholeDigits (radians : ℝ) (isLatitude : Bool) : List ℕ :=
  decimalDigits (degreeDigits isLatitude) ⌊|radToDeg radians|⌋₊ ++
    decimalDigits 2 (minuteUnits radians / 10 ^ 7)

/-- The digits behind the point. -/
noncomputable def fractionDigits (radians : ℝ) : List ℕ :=
  decimalDigits 7 (minuteUnits radians % 10 ^ 7)

theorem wholeDigits_lt (radians : ℝ) (isLatitude : Bool) :
    ∀ d ∈ wholeDigits radians isLatitude, d < 10 := by
  intro d hd
  rcases List.mem_append.mp hd with hd | hd
  · exact decimalDigits_lt hd
  · exact decimalDigits_lt hd

theorem fractionDigits_lt (radians : ℝ) : ∀ d ∈ fractionDigits radians, d < 10 :=
  fun _ => decimalDigits_lt

@[simp] theorem length_fractionDigits (radians : ℝ) : (fractionDigits radians).length = 7 :=
  length_decimalDigits (Nat.mod_lt _ (by positivity))

theorem angleMinutes_nonneg (radians : ℝ) : 0 ≤ angleMinutes radians :=
  mul_nonneg (sub_nonneg.mpr (Nat.floor_le (abs_nonneg _))) (by norm_num)

theorem angleMinutes_lt (radians : ℝ) : angleMinutes radians < 60 := by
  have hlt := Nat.lt_floor_add_one |radToDeg radians|
  unfold angleMinutes
  linarith

/-- Sixty minutes are printed at most. -/
theorem minuteUnits_le (radians : ℝ) : minuteUnits radians ≤ 600000000 := by
  have hlt := angleMinutes_lt radians
  have hunits : fixedDigits 7 (angleMinutes radians) < 600000002 := by
    rw [fixedDigits_lt_iff (by norm_num) (angleMinutes_nonneg radians)]
    push_cast
    linarith
  have heven : ¬ fixedDigits 7 (angleMinutes radians) = 600000001 := by
    intro heq
    have hnear := (abs_le.mp (abs_fixedDigits_sub_le 7 (angleMinutes radians))).2
    rw [heq, abs_of_nonneg (angleMinutes_nonneg radians)] at hnear
    push_cast at hnear
    linarith
  unfold minuteUnits
  omega

/-- Padding in front of what has its length already. -/
theorem setWidth_append (width : ℕ) (xs ys : List UInt8) :
    setWidth (width + ys.length) (xs ++ ys) = setWidth width xs ++ ys := by
  rw [setWidth, setWidth, List.length_append, Nat.add_sub_add_right, List.append_assoc]

/-- **The field**: degrees, and minutes with a point. -/
theorem formatNmeaLatitudeLongitude_eq (radians : ℝ) (isLatitude : Bool) :
    formatNmeaLatitudeLongitude radians isLatitude
      = (wholeDigits radians isLatitude).map digitByte ++
          Byte.point :: (fractionDigits radians).map digitByte := by
  have hsmall : ¬ doubleLimit * 10 ^ 7 ≤ fixedDigits 7 (angleMinutes radians) := by
    have hle : minuteUnits radians ≤ 10 ^ 9 := (minuteUnits_le radians).trans (by norm_num)
    have hten : 10 ^ 9 ≤ 10 ^ 255 := Nat.pow_le_pow_right (by decide) (by decide)
    exact Nat.not_le.mpr (lt_doubleLimit_mul (hle.trans hten) 7)
  have hminutes : formatFixed 7 (angleMinutes radians)
      = decimal 1 (minuteUnits radians / 10 ^ 7) ++
          Byte.point :: decimal 7 (minuteUnits radians % 10 ^ 7) := by
    unfold formatFixed
    dsimp only
    rw [if_neg (not_lt.mpr (angleMinutes_nonneg radians)), if_neg hsmall, List.nil_append]
    rfl
  have hpad : setWidth 10 (decimal 1 (minuteUnits radians / 10 ^ 7) ++
      Byte.point :: decimal 7 (minuteUnits radians % 10 ^ 7))
        = decimal 2 (minuteUnits radians / 10 ^ 7) ++
            Byte.point :: decimal 7 (minuteUnits radians % 10 ^ 7) := by
    have hlen : (Byte.point :: decimal 7 (minuteUnits radians % 10 ^ 7)).length = 8 := by
      rw [List.length_cons, decimal, List.length_map, ← fractionDigits, length_fractionDigits]
    have happend := setWidth_append 2 (decimal 1 (minuteUnits radians / 10 ^ 7))
      (Byte.point :: decimal 7 (minuteUnits radians % 10 ^ 7))
    rwa [hlen, setWidth_decimal (by decide)] at happend
  have hwidth : 1 ≤ degreeDigits isLatitude := by cases isLatitude <;> decide
  show setWidth (degreeDigits isLatitude) (decimal 1 ⌊|radToDeg radians|⌋₊) ++
    setWidth 10 (formatFixed 7 (angleMinutes radians)) = _
  rw [hminutes, hpad, setWidth_decimal hwidth, ← List.append_assoc]
  simp only [decimal, wholeDigits, fractionDigits, List.map_append]

/-! ### Reading it -/

/-- Digits alone are converted. -/
theorem stod_digits {ds : List ℕ} (hds : ∀ d ∈ ds, d < 10) (hne : ds ≠ [])
    (hlimit : fromDigits 10 ds < doubleLimit) :
    stod (ds.map digitByte) = .ok (.finite (fromDigits 10 ds)) := by
  have hread := @strtod_numeral false ds [] [] hds hne (by simp) rfl
  have hrange := @inRange_div (fromDigits 10 ds) 0 (by simpa using hlimit) (by decide) false
  simp only [Bool.false_eq_true, if_false, List.nil_append, List.append_nil, List.length_nil,
    pow_zero, div_one] at hread hrange
  rw [stod, hread]
  exact if_pos hrange

/-- **Digits with a point** are read as an angle, wherever its degrees end. -/
theorem isAngle_digits {ds fs : List ℕ} {hemisphere : List UInt8} (isLatitude : Bool)
    (hds : ∀ d ∈ ds, d < 10) (hfs : ∀ d ∈ fs, d < 10) (hlong : degreeDigits isLatitude < ds.length)
    (hlength : ds.length + fs.length ≤ 255) (hletter : IsHemisphere hemisphere) :
    IsAngle (ds.map digitByte ++ Byte.point :: fs.map digitByte) hemisphere isLatitude
      (.finite (fromDigits 10 (ds.take (degreeDigits isLatitude))))
      (.finite (fromDigits 10 (ds.drop (degreeDigits isLatitude) ++ fs) / 10 ^ fs.length)) := by
  have hsmall : ∀ es : List ℕ, (∀ d ∈ es, d < 10) → es.length ≤ 255 →
      fromDigits 10 es ≤ 10 ^ 255 := by
    intro es hes hlen
    exact (fromDigits_lt hes).le.trans (Nat.pow_le_pow_right (by decide) hlen)
  have htake : ∀ d ∈ ds.take (degreeDigits isLatitude), d < 10 :=
    fun d hd => hds d (List.mem_of_mem_take hd)
  have hdrop : ∀ d ∈ ds.drop (degreeDigits isLatitude), d < 10 :=
    fun d hd => hds d (List.mem_of_mem_drop hd)
  have hwidth : 0 < degreeDigits isLatitude := by cases isLatitude <;> decide
  have hvalue : (ds.map digitByte ++ Byte.point :: fs.map digitByte).take (degreeDigits isLatitude)
      = (ds.take (degreeDigits isLatitude)).map digitByte := by
    rw [List.take_append_of_le_length (by rw [List.length_map]; exact hlong.le), List.map_take]
  have hrest : (ds.map digitByte ++ Byte.point :: fs.map digitByte).drop (degreeDigits isLatitude)
      = (ds.drop (degreeDigits isLatitude)).map digitByte ++ Byte.point :: fs.map digitByte := by
    rw [List.drop_append_of_le_length (by rw [List.length_map]; exact hlong.le), List.map_drop]
  refine ⟨⟨?_, ?_⟩, ?_, ?_, hletter⟩
  · rintro rfl
    revert hletter
    decide
  · rw [List.length_append, List.length_map]
    omega
  · rw [hvalue]
    apply stod_digits htake
    · intro hnil
      have hlen := congrArg List.length hnil
      rw [List.length_take, List.length_nil] at hlen
      omega
    · apply (hsmall _ htake ?_).trans_lt ten_pow_lt_doubleLimit
      rw [List.length_take]
      omega
  · rw [hrest]
    have hread := stod_numeral false hdrop hfs ?_ ?_ ?_
    · exact hread
    · intro hnil
      have hlen := congrArg List.length hnil
      rw [List.length_drop, List.length_nil] at hlen
      omega
    · apply lt_doubleLimit_mul (hsmall _ ?_ ?_)
      · intro d hd
        rcases List.mem_append.mp hd with hd | hd
        · exact hdrop d hd
        · exact hfs d hd
      · rw [List.length_append, List.length_drop]
        omega
    · omega

/-! ### Angles in range -/

/-- The letter that the writers choose. -/
noncomputable def writtenLetter (radians : ℝ) (isLatitude : Bool) : List UInt8 :=
  hemisphere radians (if isLatitude then "N" else "E") (if isLatitude then "S" else "W")

/-- What is promised of a printed angle. -/
structure FormatsAngle (radians : ℝ) (isLatitude : Bool) : Prop where
  shape : ∃ degrees minutes decimals : List ℕ,
    (∀ d ∈ degrees ++ minutes ++ decimals, d < 10) ∧
    degrees.length = degreeDigits isLatitude ∧ minutes.length = 2 ∧ decimals.length = 7 ∧
    formatNmeaLatitudeLongitude radians isLatitude
      = (degrees ++ minutes).map digitByte ++ Byte.point :: decimals.map digitByte
  minutes : ∃ m, stod ((formatNmeaLatitudeLongitude radians isLatitude).drop
      (degreeDigits isLatitude)) = .ok (.finite m) ∧ m < 60
  parses : ∃ x : ℚ, parseNmeaLatitudeLongitude (formatNmeaLatitudeLongitude radians isLatitude)
      (writtenLetter radians isLatitude) isLatitude = .ok (some (.finite x)) ∧
    |(x : ℝ) - radToDeg radians| ≤ 1 / 2 / 10 ^ 7 / 60

section

variable {radians : ℝ} {isLatitude : Bool}

/-- An angle in range has two or three digits of degrees. -/
theorem floor_lt_of_range (h : |radToDeg radians| ≤ if isLatitude then 90 else 180) :
    ⌊|radToDeg radians|⌋₊ < 10 ^ degreeDigits isLatitude := by
  rw [Nat.floor_lt (abs_nonneg _)]
  refine h.trans_lt ?_
  cases isLatitude <;> norm_num [degreeDigits]

theorem isHemisphere_writtenLetter (radians : ℝ) (isLatitude : Bool) :
    IsHemisphere (writtenLetter radians isLatitude) := by
  unfold writtenLetter hemisphere
  cases isLatitude <;> by_cases hsign : 0 ≤ radians <;> simp only [hsign, if_true, if_false] <;>
    decide

/-- **What a printed angle is read as**: its degrees, and its minutes as printed. -/
theorem isAngle_format (h : ⌊|radToDeg radians|⌋₊ < 10 ^ degreeDigits isLatitude) :
    IsAngle (formatNmeaLatitudeLongitude radians isLatitude) (writtenLetter radians isLatitude)
      isLatitude (.finite ⌊|radToDeg radians|⌋₊) (.finite (minuteUnits radians / 10 ^ 7)) := by
  have hdegrees := length_decimalDigits h
  have hminutes : (decimalDigits 2 (minuteUnits radians / 10 ^ 7)).length = 2 := by
    apply length_decimalDigits
    have hle := minuteUnits_le radians
    omega
  have hwidth : degreeDigits isLatitude ≤ 3 := by cases isLatitude <;> decide
  have hangle := isAngle_digits isLatitude (wholeDigits_lt radians isLatitude)
    (fractionDigits_lt radians)
    (by rw [wholeDigits, List.length_append, hdegrees, hminutes]; omega)
    (by rw [wholeDigits, List.length_append, hdegrees, hminutes, length_fractionDigits]; omega)
    (isHemisphere_writtenLetter radians isLatitude)
  have htake : (wholeDigits radians isLatitude).take (degreeDigits isLatitude)
      = decimalDigits (degreeDigits isLatitude) ⌊|radToDeg radians|⌋₊ := by
    rw [wholeDigits, List.take_left' hdegrees]
  have hdrop : (wholeDigits radians isLatitude).drop (degreeDigits isLatitude)
      = decimalDigits 2 (minuteUnits radians / 10 ^ 7) := by
    rw [wholeDigits, List.drop_left' hdegrees]
  have hvalue : fromDigits 10 (decimalDigits 2 (minuteUnits radians / 10 ^ 7) ++
      fractionDigits radians) = minuteUnits radians := by
    rw [fromDigits_append, fromDigits_decimalDigits, length_fractionDigits, fractionDigits,
      fromDigits_decimalDigits]
    omega
  rw [htake, hdrop, hvalue, fromDigits_decimalDigits, length_fractionDigits] at hangle
  rw [formatNmeaLatitudeLongitude_eq]
  exact hangle

/-- The sign of an angle in degrees is that of its letter. -/
theorem onHemisphere_writtenLetter (radians : ℝ) (isLatitude : Bool) (degrees minutes : ℚ) :
    onHemisphere (writtenLetter radians isLatitude) (.finite degrees) (.finite minutes)
      = .finite (if 0 ≤ radians then degrees + minutes / 60 else -(degrees + minutes / 60)) := by
  unfold writtenLetter hemisphere
  by_cases hsign : 0 ≤ radians
  · simp only [hsign, if_true]
    rw [onHemisphere, if_neg (by cases isLatitude <;> decide)]
    rfl
  · simp only [hsign, if_false]
    rw [onHemisphere, if_pos (by cases isLatitude <;> decide)]
    rfl

/-- Degrees and printed minutes are within half a unit of the angle. -/
theorem abs_printed_sub_le (radians : ℝ) :
    |(⌊|radToDeg radians|⌋₊ : ℝ) + (minuteUnits radians : ℝ) / 10 ^ 7 / 60 - (|radToDeg radians|)|
      ≤ 1 / 2 / 10 ^ 7 / 60 := by
  have hnear := abs_fixedDigits_sub_le 7 (angleMinutes radians)
  rw [abs_of_nonneg (angleMinutes_nonneg radians), ← minuteUnits] at hnear
  have hdiff : (⌊|radToDeg radians|⌋₊ : ℝ) + (minuteUnits radians : ℝ) / 10 ^ 7 / 60
        - |radToDeg radians|
      = ((minuteUnits radians : ℝ) - angleMinutes radians * 10 ^ 7) / (10 ^ 7 * 60) := by
    rw [angleMinutes]
    ring
  rw [hdiff, abs_div, abs_of_pos (show (0 : ℝ) < 10 ^ 7 * 60 by norm_num),
    div_le_iff₀ (by norm_num)]
  linarith

theorem radToDeg_nonneg_iff : 0 ≤ radToDeg radians ↔ 0 ≤ radians := by
  have hpi := Real.pi_pos
  unfold radToDeg
  rw [le_div_iff₀ hpi, zero_mul]
  constructor <;> intro h <;> linarith

end

/-! ### Courses -/

/-- The course of `WriteRmc` and `WriteVtg`, from north, clockwise. -/
noncomputable def courseDeg (state : NavigationState) : ℝ :=
  let courseDeg := radToDeg (atan2 (state.velocityEnuMps 0) (state.velocityEnuMps 1))
  if courseDeg < 0 then courseDeg + 360 else courseDeg

theorem rmcFields_course (state : NavigationState) (utcTime date : List UInt8) :
    (rmcFields state utcTime date).getD 7 [] = formatFixed 2 (courseDeg state) := rfl

theorem vtgFields_course (state : NavigationState) :
    (vtgFields state).getD 0 [] = formatFixed 2 (courseDeg state) := rfl

theorem courseDeg_nonneg (state : NavigationState) : 0 ≤ courseDeg state := by
  have hpi := Real.pi_pos
  have harg := Complex.neg_pi_lt_arg ⟨state.velocityEnuMps 1, state.velocityEnuMps 0⟩
  unfold courseDeg
  dsimp only
  split
  · have hdeg : -180 ≤ radToDeg (atan2 (state.velocityEnuMps 0) (state.velocityEnuMps 1)) := by
      unfold radToDeg atan2
      rw [le_div_iff₀ hpi]
      linarith
    linarith
  · exact not_lt.mp ‹_›

/-- What is promised of a printed course. -/
structure PrintsCourse (state : NavigationState) (utcTime date : List UInt8) : Prop where
  rmc : ∃ x, stod ((rmcFields state utcTime date).getD 7 []) = .ok (.finite x) ∧ x < 360
  vtg : ∃ x, stod ((vtgFields state).getD 0 []) = .ok (.finite x) ∧ x < 360

/-- A number is printed below an even number of units if it is more than half a unit below. -/
theorem exists_stod_formatFixed_lt_iff {precision : ℕ} (hprecision : precision ≤ 255) {x : ℝ}
    (hx : 0 ≤ x) {n : ℕ} (hn : n * 10 ^ precision % 2 = 0) (hlimit : n ≤ doubleLimit) :
    (∃ y, stod (formatFixed precision x) = .ok (.finite y) ∧ y < n) ↔
      x * 10 ^ precision < (n * 10 ^ precision : ℕ) - 1 / 2 := by
  have hpos : (0 : ℚ) < 10 ^ precision := by positivity
  rw [stod_formatFixed hprecision, ← fixedDigits_lt_iff hn hx, printed]
  generalize fixedDigits precision x = units
  rw [if_neg (not_lt.mpr hx)]
  have hbelow : ((units : ℚ) / 10 ^ precision < n) ↔ units < n * 10 ^ precision := by
    rw [div_lt_iff₀ hpos]
    exact_mod_cast Iff.rfl
  have hless := Nat.mul_le_mul_right (10 ^ precision) hlimit
  by_cases hinf : doubleLimit * 10 ^ precision ≤ units
  · rw [if_pos hinf]
    constructor
    · rintro ⟨y, hy, -⟩
      cases hy
    · intro hlt
      exact absurd (hlt.trans_le (hless.trans hinf)) (lt_irrefl _)
  · rw [if_neg hinf]
    constructor
    · rintro ⟨y, hy, hlt⟩
      cases hy
      exact hbelow.mp hlt
    · intro hlt
      exact ⟨_, rfl, hbelow.mpr hlt⟩

theorem printsCourse_iff (state : NavigationState) (utcTime date : List UInt8) :
    PrintsCourse state utcTime date ↔ courseDeg state < 359.995 := by
  have hlimit : 360 ≤ doubleLimit := by
    have hten : 10 ^ 3 ≤ 10 ^ 255 := Nat.pow_le_pow_right (by decide) (by decide)
    exact (show 360 ≤ 10 ^ 3 by decide).trans (hten.trans ten_pow_lt_doubleLimit.le)
  have hcourse := exists_stod_formatFixed_lt_iff (show 2 ≤ 255 by decide)
    (courseDeg_nonneg state) (n := 360) (by decide) hlimit
  have hunits : courseDeg state * 10 ^ 2 < ((360 * 10 ^ 2 : ℕ) : ℝ) - 1 / 2 ↔
      courseDeg state < 359.995 := by
    push_cast
    constructor <;> intro h <;> norm_num at h ⊢ <;> linarith
  rw [hunits] at hcourse
  constructor
  · intro h
    have hrmc := h.rmc
    rw [rmcFields_course] at hrmc
    exact hcourse.mp hrmc
  · intro h
    constructor
    · rw [rmcFields_course]
      exact hcourse.mpr h
    · rw [vtgFields_course]
      exact hcourse.mpr h

/-! ### When it holds -/

section

variable {radians : ℝ} {isLatitude : Bool}

theorem angleMinutes_eq_fract (radians : ℝ) :
    angleMinutes radians = Int.fract |radToDeg radians| * 60 := by
  rw [angleMinutes, natCast_floor_eq_intCast_floor (abs_nonneg _)]
  rfl

/-- Minutes below 60 are printed unless they are rounded up. -/
theorem minuteUnits_lt_iff :
    minuteUnits radians < 600000000 ↔ Int.fract |radToDeg radians| * 60 < 59.99999995 := by
  rw [minuteUnits, fixedDigits_lt_iff (by norm_num) (angleMinutes_nonneg radians),
    angleMinutes_eq_fract]
  push_cast
  constructor <;> intro h <;> norm_num at h ⊢ <;> linarith

/-- A printed angle has all its digits. -/
theorem format_shape (h : ⌊|radToDeg radians|⌋₊ < 10 ^ degreeDigits isLatitude) :
    ∃ degrees minutes decimals : List ℕ,
      (∀ d ∈ degrees ++ minutes ++ decimals, d < 10) ∧
      degrees.length = degreeDigits isLatitude ∧ minutes.length = 2 ∧ decimals.length = 7 ∧
      formatNmeaLatitudeLongitude radians isLatitude
        = (degrees ++ minutes).map digitByte ++ Byte.point :: decimals.map digitByte := by
  have hle := minuteUnits_le radians
  refine ⟨decimalDigits (degreeDigits isLatitude) ⌊|radToDeg radians|⌋₊,
    decimalDigits 2 (minuteUnits radians / 10 ^ 7), fractionDigits radians, ?_,
    length_decimalDigits h, length_decimalDigits (by omega), length_fractionDigits radians,
    formatNmeaLatitudeLongitude_eq radians isLatitude⟩
  intro d hd
  rcases List.mem_append.mp hd with hd | hd
  · exact wholeDigits_lt radians isLatitude d hd
  · exact fractionDigits_lt radians d hd

/-- A printed angle is read back, within half a unit of the last digit. -/
theorem parse_format_near (h : ⌊|radToDeg radians|⌋₊ < 10 ^ degreeDigits isLatitude) :
    ∃ x : ℚ, parseNmeaLatitudeLongitude (formatNmeaLatitudeLongitude radians isLatitude)
        (writtenLetter radians isLatitude) isLatitude = .ok (some (.finite x)) ∧
      |(x : ℝ) - radToDeg radians| ≤ 1 / 2 / 10 ^ 7 / 60 := by
  have hnear := abs_printed_sub_le radians
  refine ⟨_, parseNmeaLatitudeLongitude_eq_some.mpr
    ⟨_, _, isAngle_format h, (onHemisphere_writtenLetter radians isLatitude _ _).symm⟩, ?_⟩
  by_cases hsign : 0 ≤ radians
  · rw [if_pos hsign]
    rw [abs_of_nonneg (radToDeg_nonneg_iff.mpr hsign)] at hnear ⊢
    push_cast
    exact hnear
  · have hneg : radToDeg radians < 0 := not_le.mp (mt radToDeg_nonneg_iff.mp hsign)
    rw [if_neg hsign, abs_of_neg hneg]
    rw [abs_of_neg hneg] at hnear
    push_cast
    rw [← abs_neg]
    refine le_trans (le_of_eq ?_) hnear
    congr 1
    ring

/-- **A printed angle** has minutes below 60 unless they are rounded up, and is read back. -/
theorem formatsAngle_iff (h : |radToDeg radians| ≤ if isLatitude then 90 else 180) :
    FormatsAngle radians isLatitude ↔ Int.fract |radToDeg radians| * 60 < 59.99999995 := by
  have hfloor := floor_lt_of_range h
  have hminutes := (isAngle_format hfloor).minutes
  have hbelow : ((minuteUnits radians : ℚ) / 10 ^ 7 < 60) ↔ minuteUnits radians < 600000000 := by
    rw [div_lt_iff₀ (by norm_num)]
    norm_num
  rw [← minuteUnits_lt_iff]
  constructor
  · rintro ⟨-, ⟨m, hm, hlt⟩, -⟩
    cases Except.ok.inj (hminutes.symm.trans hm)
    exact hbelow.mp hlt
  · intro hlt
    exact ⟨format_shape hfloor, ⟨_, hminutes, hbelow.mpr hlt⟩, parse_format_near hfloor⟩

end

/-- **Angles and courses are printed below the next whole unit** exactly if their minutes and the
    course are more than half a unit of the last digit below it. -/
theorem formats_below_iff {radians : ℝ} {isLatitude : Bool}
    (h : |radToDeg radians| ≤ if isLatitude then 90 else 180) (state : NavigationState)
    (utcTime date : List UInt8) :
    (FormatsAngle radians isLatitude ↔ Int.fract |radToDeg radians| * 60 < 59.99999995) ∧
      (PrintsCourse state utcTime date ↔ courseDeg state < 359.995) :=
  ⟨formatsAngle_iff h, printsCourse_iff state utcTime date⟩

/-- A latitude in the south, and a state that moves west with 2 m/s. -/
theorem formats_below_iff_west :
    let west : NavigationState := { velocityEnuMps := ![-2, 0, 0] }
    FormatsAngle (degToRad (-33.5)) true ∧ PrintsCourse west (ascii "120000.00") [] ∧
      courseDeg west = 270 := by
  intro west
  have hcourse : courseDeg west = 270 := by
    have hatan : atan2 (west.velocityEnuMps 0) (west.velocityEnuMps 1) = -(Real.pi / 2) :=
      Complex.arg_eq_neg_pi_div_two_iff.mpr ⟨rfl, by norm_num [west]⟩
    have hdeg : radToDeg (-(Real.pi / 2)) = -90 := by
      rw [radToDeg]
      field_simp [Real.pi_ne_zero]
      norm_num
    simp only [courseDeg, hatan, hdeg]
    norm_num
  have hrange : |radToDeg (degToRad (-33.5))| ≤ if true then 90 else 180 := by
    rw [radToDeg_degToRad, abs_of_neg (by norm_num)]
    norm_num
  have hformats := formats_below_iff hrange west (ascii "120000.00") []
  refine ⟨hformats.1.mpr ?_, hformats.2.mpr ?_, hcourse⟩
  · have hfract : Int.fract (-(-33.5) : ℝ) = 0.5 := by
      rw [Int.fract_eq_iff]
      exact ⟨by norm_num, by norm_num, 33, by norm_num⟩
    rw [radToDeg_degToRad, abs_of_neg (by norm_num), hfract]
    norm_num
  · rw [hcourse]
    norm_num

/-- A latitude of `0.999999999999` degrees is printed with sixty minutes. -/
theorem not_formatsAngle :
    |radToDeg (degToRad 0.999999999999)| ≤ 90 ∧ ¬ FormatsAngle (degToRad 0.999999999999) true := by
  have hrange : |radToDeg (degToRad 0.999999999999)| ≤ if true then 90 else 180 := by
    rw [radToDeg_degToRad, abs_of_nonneg (by norm_num)]
    norm_num
  refine ⟨hrange, ?_⟩
  rw [formatsAngle_iff hrange, radToDeg_degToRad, abs_of_nonneg (by norm_num),
    Int.fract_eq_self.mpr (by norm_num)]
  norm_num

end FalconGuide
