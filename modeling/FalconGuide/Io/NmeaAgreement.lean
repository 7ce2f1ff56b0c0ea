import FalconGuide.Io.NmeaFormat

namespace FalconGuide

open Lib

/-!
# The three sentences of a state

`NmeaWriter::WriteState` writes GGA, RMC and VTG of one state, with one time of day.

* `IsPlainText` — no separators; so is everything that is printed;
* `parseGgaLine_writeGga`, `parseRmcLine_writeRmc`, `parseVtgLine_writeVtg` — what each sentence
  is read as;
* `SentencesAgree`, `sentences_agree` — they agree with each other and with the status.
-/

/-! ### Texts without separators -/

/-- A text that can be a field. -/
def IsPlainText (text : List UInt8) : Prop := Byte.comma ∉ text ∧ Byte.asterisk ∉ text

instance (text : List UInt8) : Decidable (IsPlainText text) := inferInstanceAs (Decidable (_ ∧ _))

/-- Plain texts joined are plain, and only these. -/
theorem isPlainText_append {xs ys : List UInt8} :
    IsPlainText (xs ++ ys) ↔ IsPlainText xs ∧ IsPlainText ys := by
  simp only [IsPlainText, List.mem_append, not_or]
  exact and_and_and_comm

/-- Byte by byte. -/
theorem isPlainText_cons {c : UInt8} {text : List UInt8} :
    IsPlainText (c :: text) ↔ IsPlainText [c] ∧ IsPlainText text :=
  @isPlainText_append [c] text

/-- Digits are plain. -/
theorem isPlainText_digits {ds : List ℕ} (hds : ∀ d ∈ ds, d < 10) :
    IsPlainText (ds.map digitByte) := by
  have hall : ∀ d : Fin 10, digitByte d ≠ Byte.comma ∧ digitByte d ≠ Byte.asterisk := by decide
  simp only [IsPlainText, List.mem_map, not_exists, not_and]
  exact ⟨fun d hd => (hall ⟨d, hds d hd⟩).1, fun d hd => (hall ⟨d, hds d hd⟩).2⟩

/-- So is a whole number. -/
theorem isPlainText_decimal (width n : ℕ) : IsPlainText (decimal width n) :=
  isPlainText_digits fun _ => decimalDigits_lt

/-- So is a number with decimals. -/
theorem isPlainText_formatFixed (precision : ℕ) (x : ℝ) :
    IsPlainText (formatFixed precision x) := by
  unfold formatFixed
  dsimp only
  rw [isPlainText_append]
  constructor
  · split <;> decide
  · split
    · decide
    · rw [isPlainText_append, isPlainText_cons]
      exact ⟨isPlainText_decimal _ _, by decide, isPlainText_decimal _ _⟩

/-- So is an angle. -/
theorem isPlainText_formatNmeaLatitudeLongitude (radians : ℝ) (isLatitude : Bool) :
    IsPlainText (formatNmeaLatitudeLongitude radians isLatitude) := by
  rw [formatNmeaLatitudeLongitude_eq, isPlainText_append, isPlainText_cons]
  exact ⟨isPlainText_digits (wholeDigits_lt _ _), by decide,
    isPlainText_digits (fractionDigits_lt _)⟩

/-- So is the letter of a hemisphere. -/
theorem isPlainText_writtenLetter (radians : ℝ) (isLatitude : Bool) :
    IsPlainText (writtenLetter radians isLatitude) := by
  have hall : ∀ text ∈ [ascii "N", ascii "S", ascii "E", ascii "W"], IsPlainText text := by decide
  exact hall _ (isHemisphere_writtenLetter radians isLatitude)

/-! ### Printed angles and numbers -/

/-- What is printed is not empty, and converts. -/
theorem exists_parseOptional_formatFixed {precision : ℕ} (hprecision : precision ≤ 255) (x : ℝ) :
    ∃ y, parseOptional (formatFixed precision x) = .ok y :=
  exists_parseOptional.mpr fun _ => ⟨_, stod_formatFixed hprecision x⟩

/-- An angle of `atan2` has at most 180 degrees. -/
theorem floor_radToDeg_atan2_le (y x : ℝ) : ⌊|radToDeg (atan2 y x)|⌋₊ ≤ 180 := by
  have hpi := Real.pi_pos
  have harg := Complex.abs_arg_le_pi ⟨x, y⟩
  apply Nat.floor_le_of_le
  rw [radToDeg, abs_div, abs_mul, abs_of_pos hpi, abs_of_pos (show (0 : ℝ) < 180 by norm_num),
    div_le_iff₀ hpi]
  have hle : |atan2 y x| ≤ Real.pi := harg
  push_cast
  linarith

/-- **A printed angle is read**, also a latitude of three digits. -/
theorem exists_parse_format (radians : ℝ) (h : ⌊|radToDeg radians|⌋₊ ≤ 180) (isLatitude : Bool) :
    ∃ x, parseNmeaLatitudeLongitude (formatNmeaLatitudeLongitude radians isLatitude)
      (writtenLetter radians isLatitude) isLatitude = .ok (some x) := by
  have hlow := le_length_decimalDigits (degreeDigits isLatitude) ⌊|radToDeg radians|⌋₊
  have hlow' := le_length_decimalDigits 2 (minuteUnits radians / 10 ^ 7)
  have hhigh : (decimalDigits (degreeDigits isLatitude) ⌊|radToDeg radians|⌋₊).length ≤ 3 := by
    apply length_decimalDigits_le
    · cases isLatitude <;> decide
    · omega
  have hhigh' : (decimalDigits 2 (minuteUnits radians / 10 ^ 7)).length ≤ 2 := by
    have hle := minuteUnits_le radians
    apply length_decimalDigits_le (by decide)
    omega
  have hangle := isAngle_digits isLatitude (wholeDigits_lt radians isLatitude)
    (fractionDigits_lt radians)
    (by rw [wholeDigits, List.length_append]; omega)
    (by rw [wholeDigits, List.length_append, length_fractionDigits]; omega)
    (isHemisphere_writtenLetter radians isLatitude)
  rw [← formatNmeaLatitudeLongitude_eq] at hangle
  exact ⟨_, parseNmeaLatitudeLongitude_eq_some.mpr ⟨_, _, hangle, rfl⟩⟩

/-! ### The sentences -/

/-- The sentence of `WriteGga`. -/
noncomputable def ggaSentence (state : NavigationState) (utcTime : List UInt8) : NmeaSentence :=
  { talker := ascii "FG", formatter := ascii "GGA", fields := ggaFields state utcTime }

/-- The sentence of `WriteRmc`. -/
noncomputable def rmcSentence (state : NavigationState) (utcTime date : List UInt8) :
    NmeaSentence :=
  { talker := ascii "FG", formatter := ascii "RMC", fields := rmcFields state utcTime date }

/-- The sentence of `WriteVtg`. -/
noncomputable def vtgSentence (state : NavigationState) : NmeaSentence :=
  { talker := ascii "FG", formatter := ascii "VTG", fields := vtgFields state }

section

variable (state : NavigationState) {utcTime date newlines : List UInt8}

/-- What is parsed of a written GGA sentence. -/
theorem parseSentence_writeGga (hutc : IsPlainText utcTime)
    (hnew : ∀ c ∈ newlines, c = Byte.lineFeed ∨ c = Byte.carriageReturn) :
    parseSentence (writeGga state utcTime ++ newlines) = some (ggaSentence state utcTime) := by
  have hfix : IsPlainText (formatGgaFixType state.status) := by
    unfold formatGgaFixType
    split <;> decide
  have hdop : IsPlainText
      ((state.quality.horizontalAccuracyM.map (formatFixed 1)).getD []) := by
    cases state.quality.horizontalAccuracyM with
    | none => decide
    | some x => exact isPlainText_formatFixed 1 x
  have hplain : (ggaSentence state utcTime).IsPlain := by
    refine ⟨show (ascii "FG").length = 2 by decide, show 3 ≤ (ascii "GGA").length by decide, ?_⟩
    simp only [ggaSentence, ggaFields, List.forall_mem_cons]
    exact ⟨by decide, by decide, hutc, isPlainText_formatNmeaLatitudeLongitude _ _,
      isPlainText_writtenLetter _ true, isPlainText_formatNmeaLatitudeLongitude _ _,
      isPlainText_writtenLetter _ false, hfix, by decide, hdop, isPlainText_formatFixed _ _,
      by decide, by decide, by decide, by decide, by decide, by simp⟩
  exact hplain.parseSentence_eq hnew

/-- What is parsed of a written RMC sentence. -/
theorem parseSentence_writeRmc (hutc : IsPlainText utcTime) (hdate : IsPlainText date)
    (hnew : ∀ c ∈ newlines, c = Byte.lineFeed ∨ c = Byte.carriageReturn) :
    parseSentence (writeRmc state utcTime date ++ newlines)
      = some (rmcSentence state utcTime date) := by
  have hstatus : IsPlainText (rmcStatusChar state.status) := by
    cases state.status <;> decide
  have hplain : (rmcSentence state utcTime date).IsPlain := by
    refine ⟨show (ascii "FG").length = 2 by decide, show 3 ≤ (ascii "RMC").length by decide, ?_⟩
    simp only [rmcSentence, rmcFields, List.forall_mem_cons]
    exact ⟨by decide, by decide, hutc, hstatus, isPlainText_formatNmeaLatitudeLongitude _ _,
      isPlainText_writtenLetter _ true, isPlainText_formatNmeaLatitudeLongitude _ _,
      isPlainText_writtenLetter _ false, isPlainText_formatFixed _ _, isPlainText_formatFixed _ _,
      hdate, by decide, by decide, by simp⟩
  exact hplain.parseSentence_eq hnew

/-- What is parsed of a written VTG sentence. -/
theorem parseSentence_writeVtg
    (hnew : ∀ c ∈ newlines, c = Byte.lineFeed ∨ c = Byte.carriageReturn) :
    parseSentence (writeVtg state ++ newlines) = some (vtgSentence state) := by
  have hplain : (vtgSentence state).IsPlain := by
    refine ⟨show (ascii "FG").length = 2 by decide, show 3 ≤ (ascii "VTG").length by decide, ?_⟩
    simp only [vtgSentence, vtgFields, List.forall_mem_cons]
    refine ⟨by decide, by decide, isPlainText_formatFixed _ _, by decide, by decide, by decide,
      isPlainText_formatFixed _ _, by decide, isPlainText_formatFixed _ _, by decide, ?_, by simp⟩
    split <;> decide
  exact hplain.parseSentence_eq hnew

/-! ### What they are read as -/

/-- The status of a state with a fix. -/
def NavigationStatus.HasFix (status : NavigationStatus) : Prop :=
  status = .nominal ∨ status = .degraded ∨ status = .deadReckoning

instance (status : NavigationStatus) : Decidable status.HasFix :=
  inferInstanceAs (Decidable (_ ∨ _ ∨ _))

/-- The latitude and the longitude of a state, as they are printed and read. -/
def ReadsPosition (state : NavigationState) (latitudeDeg longitudeDeg : Double ℚ) : Prop :=
  parseNmeaLatitudeLongitude
      (formatNmeaLatitudeLongitude (ecefToLla state.positionEcefM).latitudeRad true)
      (writtenLetter (ecefToLla state.positionEcefM).latitudeRad true) true
    = .ok (some latitudeDeg) ∧
  parseNmeaLatitudeLongitude
      (formatNmeaLatitudeLongitude (ecefToLla state.positionEcefM).longitudeRad false)
      (writtenLetter (ecefToLla state.positionEcefM).longitudeRad false) false
    = .ok (some longitudeDeg)

/-- There are degrees that the written position is read as. -/
theorem exists_readsPosition :
    ∃ latitudeDeg longitudeDeg, ReadsPosition state latitudeDeg longitudeDeg := by
  obtain ⟨latitudeDeg, hlatitude⟩ := exists_parse_format
    (ecefToLla state.positionEcefM).latitudeRad (floor_radToDeg_atan2_le _ _) true
  obtain ⟨longitudeDeg, hlongitude⟩ := exists_parse_format
    (ecefToLla state.positionEcefM).longitudeRad (floor_radToDeg_atan2_le _ _) false
  exact ⟨latitudeDeg, longitudeDeg, hlatitude, hlongitude⟩

variable {state}

/-- GGA has a fix type that tells whether there is a fix. -/
theorem parseGga_ggaSentence (utcTime : List UInt8) {latitudeDeg longitudeDeg : Double ℚ}
    (h : ReadsPosition state latitudeDeg longitudeDeg) :
    ∃ fix, parseGga (ggaSentence state utcTime) = .ok (some fix) ∧
      fix.latitudeDeg = latitudeDeg ∧ fix.longitudeDeg = longitudeDeg ∧
      ((fix.validity = .valid ∧ fix.fixType ≠ .noFix) ↔ state.status.HasFix) := by
  have hgga : (ggaSentence state utcTime).IsGga := ⟨rfl, le_refl 14⟩
  obtain ⟨altitude, haltitude⟩ := exists_parseOptional_formatFixed (show 2 ≤ 255 by decide)
    (ecefToLla state.positionEcefM).altitudeM
  obtain ⟨horizontalDop, hdop⟩ : ∃ y, parseOptional
      ((state.quality.horizontalAccuracyM.map (formatFixed 1)).getD []) = .ok y := by
    cases state.quality.horizontalAccuracyM with
    | none => exact ⟨none, rfl⟩
    | some x => exact exists_parseOptional_formatFixed (by decide) x
  have hfix := (@ggaFix_eq_ok (ggaSentence state utcTime) latitudeDeg longitudeDeg _).mpr
    ⟨altitude, horizontalDop, haltitude, hdop, rfl⟩
  have hparse := parsePosition_eq_some.mpr ⟨_, _, h.1, h.2, hfix⟩
  have htype : parseGgaFixType (formatGgaFixType state.status)
      = if state.status.HasFix then .single else .noFix := by
    cases state.status <;> decide
  refine ⟨_, (parseGga_of_isGga hgga).trans hparse, rfl, rfl, ?_⟩
  show ((if parseGgaFixType (formatGgaFixType state.status) = .noFix then
    MeasurementValidity.unknown else .valid) = .valid ∧
      parseGgaFixType (formatGgaFixType state.status) ≠ .noFix) ↔ _
  rw [htype]
  by_cases hstatus : state.status.HasFix <;> simp [hstatus]

/-- RMC is void unless there is a fix. -/
theorem parseRmc_rmcSentence {latitudeDeg longitudeDeg : Double ℚ}
    (h : ReadsPosition state latitudeDeg longitudeDeg) :
    parseRmc (rmcSentence state utcTime date)
      = .ok (if state.status.HasFix then some (rmcFix latitudeDeg longitudeDeg) else none) := by
  have hactive : rmcStatusChar state.status = ascii "A" ↔ state.status.HasFix := by
    cases state.status <;> decide
  by_cases hstatus : state.status.HasFix
  · have hrmc : (rmcSentence state utcTime date).IsRmc :=
      ⟨rfl, (by decide : 10 ≤ 11), hactive.mpr hstatus⟩
    rw [if_pos hstatus, parseRmc_of_isRmc hrmc]
    exact parsePosition_eq_some.mpr ⟨_, _, h.1, h.2, rfl⟩
  · rw [if_neg hstatus]
    exact parseRmc_of_not_isRmc fun hrmc => hstatus (hactive.mp hrmc.2.2)

/-- VTG has the mode of no fix unless there is one. -/
theorem parseVtg_vtgSentence (state : NavigationState) :
    ∃ data, parseVtg (vtgSentence state) = .ok data ∧ (data.isSome ↔ state.status.HasFix) := by
  have hmode : (vtgSentence state).field 8 = ascii "N" ↔ ¬ state.status.HasFix := by
    show (if state.status.HasFix then ascii "A" else ascii "N") = ascii "N" ↔ _
    by_cases hstatus : state.status.HasFix
    · simp only [hstatus, if_true, not_true_eq_false, iff_false]
      decide
    · simp [hstatus]
  by_cases hstatus : state.status.HasFix
  · have hvtg : (vtgSentence state).IsVtg :=
      ⟨rfl, (by decide : 7 ≤ 9), fun hno => hmode.mp hno.2 hstatus⟩
    have hread := exists_parseOptional_formatFixed (show 2 ≤ 255 by decide)
    obtain ⟨course, hcourse⟩ : ∃ y, parseOptional ((vtgSentence state).field 0) = .ok y := hread _
    obtain ⟨knots, hknots⟩ : ∃ y, parseOptional ((vtgSentence state).field 4) = .ok y := hread _
    obtain ⟨kph, hkph⟩ : ∃ y, parseOptional ((vtgSentence state).field 6) = .ok y := hread _
    exact ⟨_, (parseVtg_eq_ok hvtg).mpr ⟨course, knots, kph, hcourse, hknots, hkph, rfl⟩,
      by simp [hstatus]⟩
  · refine ⟨none, parseVtg_of_not_isVtg fun hvtg => ?_, by simp [hstatus]⟩
    exact hvtg.2.2 ⟨le_refl 9, hmode.mpr hstatus⟩

end

/-! ### The lines of a state -/

/-- `NmeaWriter::WriteState`: the lines that it writes. -/
noncomputable def writeState (state : NavigationState) (utcTime utcDate : List UInt8) :
    List (List UInt8) :=
  [writeGga state utcTime ++ crlf,
    writeRmc state utcTime utcDate ++ crlf,
    writeVtg state ++ crlf]

/-- Three lines that agree with each other and with a state. -/
structure SentencesAgree (state : NavigationState) (gga rmc vtg : List UInt8) : Prop where
  /-- They are sentences of their kinds, which print one course and one speed. -/
  sentences : ∃ ggaSentence rmcSentence vtgSentence,
    parseSentence gga = some ggaSentence ∧ parseSentence rmc = some rmcSentence ∧
    parseSentence vtg = some vtgSentence ∧
    (ggaSentence.formatter = ascii "GGA" ∧ 14 ≤ ggaSentence.fields.length) ∧
    (rmcSentence.formatter = ascii "RMC" ∧ 10 ≤ rmcSentence.fields.length) ∧
    (vtgSentence.formatter = ascii "VTG" ∧ 7 ≤ vtgSentence.fields.length) ∧
    rmcSentence.field 6 = vtgSentence.field 4 ∧ rmcSentence.field 7 = vtgSentence.field 0
  /-- They are parsed without an exception, to one position, and to a fix with one status. -/
  parsed : ∃ fix rmcFix vtgData,
    parseGgaLine gga = .ok (some fix) ∧ parseRmcLine rmc = .ok rmcFix ∧
    parseVtgLine vtg = .ok vtgData ∧
    ((fix.validity = .valid ∧ fix.fixType ≠ .noFix) ↔ state.status.HasFix) ∧
    (rmcFix.isSome ↔ state.status.HasFix) ∧ (vtgData.isSome ↔ state.status.HasFix) ∧
    ∀ fix' ∈ rmcFix, fix'.latitudeDeg = fix.latitudeDeg ∧ fix'.longitudeDeg = fix.longitudeDeg

/-- **The sentences of a state agree.** -/
theorem sentences_agree {utcTime utcDate : List UInt8} (hutc : IsPlainText utcTime)
    (hdate : IsPlainText utcDate) (state : NavigationState) :
    ∃ gga rmc vtg, writeState state utcTime utcDate = [gga, rmc, vtg] ∧
      SentencesAgree state gga rmc vtg := by
  have hgga := parseSentence_writeGga state hutc eq_of_mem_crlf
  have hrmc := parseSentence_writeRmc state hutc hdate eq_of_mem_crlf
  have hvtg := parseSentence_writeVtg state eq_of_mem_crlf
  obtain ⟨latitudeDeg, longitudeDeg, hposition⟩ := exists_readsPosition state
  obtain ⟨fix, hfix, rfl, rfl, hvalid⟩ := parseGga_ggaSentence utcTime hposition
  obtain ⟨vtgData, hdata, hmode⟩ := parseVtg_vtgSentence state
  refine ⟨_, _, _, rfl, ⟨_, _, _, hgga, hrmc, hvtg, ⟨rfl, le_refl 14⟩,
    ⟨rfl, (by decide : 10 ≤ 11)⟩, ⟨rfl, (by decide : 7 ≤ 9)⟩, rfl, rfl⟩, ?_⟩
  have hggaLine : parseGgaLine (writeGga state utcTime ++ crlf) = .ok (some fix) := by
    rw [parseGgaLine_eq, hgga]
    exact hfix
  have hrmcLine : parseRmcLine (writeRmc state utcTime utcDate ++ crlf) = .ok
      (if state.status.HasFix then some (rmcFix fix.latitudeDeg fix.longitudeDeg) else none) := by
    rw [parseRmcLine_eq, hrmc]
    exact parseRmc_rmcSentence hposition
  have hvtgLine : parseVtgLine (writeVtg state ++ crlf) = .ok vtgData := by
    rw [parseVtgLine_eq, hvtg]
    exact hdata
  refine ⟨fix, _, vtgData, hggaLine, hrmcLine, hvtgLine, hvalid, ?_, hmode, ?_⟩
  · by_cases hstatus : state.status.HasFix <;> simp [hstatus]
  · intro fix' hfix'
    split at hfix'
    · cases hfix'
      exact ⟨rfl, rfl⟩
    · cases hfix'

/-- A nominal state in the south that moves west: all three sentences have its fix. -/
theorem sentences_agree_nominal :
    let state : NavigationState :=
      { positionEcefM := ![-4646000, 2553000, -3534000]
        velocityEnuMps := ![-2, 0, 0]
        status := .nominal }
    ∃ gga rmc vtg fix, writeState state (ascii "120000.00") (ascii "010126") = [gga, rmc, vtg] ∧
      SentencesAgree state gga rmc vtg ∧ parseRmcLine rmc = .ok (some fix) := by
  intro state
  obtain ⟨gga, rmc, vtg, hwrite, hagree⟩ :=
    @sentences_agree (ascii "120000.00") (ascii "010126") (by decide) (by decide) state
  obtain ⟨_, rmcFix, _, _, hrmc, _, _, hsome, _⟩ := hagree.parsed
  obtain ⟨fix, rfl⟩ := Option.isSome_iff_exists.mp (hsome.mpr (by decide))
  exact ⟨gga, rmc, vtg, fix, hwrite, hagree, hrmc⟩

end FalconGuide
