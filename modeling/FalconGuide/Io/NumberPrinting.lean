import FalconGuide.Io.NumberText
import FalconGuide.Lib.Rounding
import Mathlib.Data.Nat.Digits.Lemmas

namespace FalconGuide

open Lib

/-!
# Numbers printed to text

A `std::ostringstream` with `std::fixed`, `std::setprecision`, `std::setw` and
`std::setfill('0')`.  What is printed is the nearest decimal, the even one of two.

* `decimal`, `setWidth`, `formatFixed` — digits, padding, and a fixed number of decimals;
* `printed` — the number that the printed text stands for;
* `stod_formatFixed` — `std::stod` reads it back.
-/

/-! ### Printing -/

/-- The character of a decimal digit. -/
def digitByte (d : ℕ) : UInt8 := Byte.zero + d.toUInt8

/-- The decimal digits of a number, at least `width` of them. -/
def decimalDigits (width n : ℕ) : List ℕ := (Nat.digitsAppend 10 width n).reverse

/-- A number in decimal, with at least `width` digits. -/
def decimal (width n : ℕ) : List UInt8 := (decimalDigits width n).map digitByte

/-- `std::setw` with zeros to the left. -/
def setWidth (width : ℕ) (text : List UInt8) : List UInt8 :=
  List.replicate (width - text.length) Byte.zero ++ text

/-- So many digits are within the range. -/
theorem ten_pow_lt_doubleLimit : 10 ^ 255 < doubleLimit := by
  have hten : 10 ^ 255 ≤ 2 ^ 1020 := by
    calc 10 ^ 255 ≤ (2 ^ 4) ^ 255 := Nat.pow_le_pow_left (by norm_num) 255
      _ = 2 ^ 1020 := by rw [← pow_mul]
  have hsmall : 2 ^ 970 ≤ 2 ^ 1020 := pow_le_pow_right₀ (by decide) (by decide)
  have hlarge : 2 ^ 1024 = 2 ^ 4 * 2 ^ 1020 := by rw [← pow_add]
  have hsub : ∀ a b c d : ℕ, c ≤ a → b ≤ a → d = 2 ^ 4 * a → 0 < a → c < d - b := by
    intro a b c d
    omega
  rw [doubleLimit]
  apply hsub _ _ _ _ hten hsmall hlarge
  positivity

theorem lt_doubleLimit_mul {n : ℕ} (h : n ≤ 10 ^ 255) (precision : ℕ) :
    n < doubleLimit * 10 ^ precision :=
  (h.trans_lt ten_pow_lt_doubleLimit).trans_le (Nat.le_mul_of_pos_right _ (by positivity))

section

variable {K : Type} [Field K] [LinearOrder K] [FloorRing K]

/-- The digits that are printed of a number, as one number. -/
def fixedDigits (precision : ℕ) (x : K) : ℕ := (roundEven (|x| * 10 ^ precision)).toNat

/-- `std::fixed`, with at least one decimal.  What no `double` holds is an infinity. -/
def formatFixed (precision : ℕ) (x : K) : List UInt8 :=
  let n := fixedDigits precision x
  (if x < 0 then [Byte.minus] else []) ++
    if doubleLimit * 10 ^ precision ≤ n then ascii "inf"
    else decimal 1 (n / 10 ^ precision) ++ Byte.point :: decimal precision (n % 10 ^ precision)

/-- The number that is printed. -/
def printed (precision : ℕ) (x : K) : Double ℚ :=
  let n := fixedDigits precision x
  if doubleLimit * 10 ^ precision ≤ n then .infinite (x < 0)
  else .finite (if x < 0 then -(n / 10 ^ precision) else n / 10 ^ precision)

variable [IsStrictOrderedRing K]

theorem cast_fixedDigits (precision : ℕ) (x : K) :
    ((fixedDigits precision x : ℕ) : ℤ) = roundEven (|x| * 10 ^ precision) :=
  Int.toNat_of_nonneg (roundEven_nonneg (by positivity))

/-- What is printed is at most half a unit of the last digit away. -/
theorem abs_fixedDigits_sub_le (precision : ℕ) (x : K) :
    |(fixedDigits precision x : K) - |x| * 10 ^ precision| ≤ 1 / 2 := by
  have hcast : (fixedDigits precision x : K) = (roundEven (|x| * 10 ^ precision) : ℤ) := by
    exact_mod_cast congrArg (Int.cast : ℤ → K) (cast_fixedDigits precision x)
  rw [hcast]
  exact abs_roundEven_sub_le _

/-- Less than an even number of units is printed of what is more than half a unit less. -/
theorem fixedDigits_lt_iff {n : ℕ} (hn : n % 2 = 0) {x : K} (hx : 0 ≤ x) (precision : ℕ) :
    fixedDigits precision x < n ↔ x * 10 ^ precision < n - 1 / 2 := by
  have heven : (n : ℤ) % 2 = 0 := by omega
  have hround := roundEven_lt_iff_of_even heven (|x| * 10 ^ precision)
  rw [← cast_fixedDigits, abs_of_nonneg hx] at hround
  exact_mod_cast hround

end

/-! ### Digits -/

theorem decimalDigits_lt {width n d : ℕ} (h : d ∈ decimalDigits width n) : d < 10 :=
  Nat.lt_of_mem_digitsAppend (by decide) width d (List.mem_reverse.mp h)

@[simp] theorem fromDigits_decimalDigits (width n : ℕ) :
    fromDigits 10 (decimalDigits width n) = n := by
  rw [fromDigits, decimalDigits, List.reverse_reverse, Nat.digitsAppend,
    Nat.ofDigits_append_replicate_zero, Nat.ofDigits_digits]

/-- A number that fits has exactly `width` digits. -/
theorem length_decimalDigits {width n : ℕ} (h : n < 10 ^ width) :
    (decimalDigits width n).length = width := by
  rw [decimalDigits, List.length_reverse, Nat.length_digitsAppend (by decide) width h]

/-- At least `width` digits. -/
theorem le_length_decimalDigits (width n : ℕ) : width ≤ (decimalDigits width n).length := by
  rw [decimalDigits, List.length_reverse, Nat.digitsAppend, List.length_append,
    List.length_replicate]
  omega

/-- No more digits than the number or the width asks for. -/
theorem length_decimalDigits_le {width n k : ℕ} (hwidth : width ≤ k) (h : n < 10 ^ k) :
    (decimalDigits width n).length ≤ k := by
  have hdigits := (Nat.digits_length_le_iff (by decide) n).mpr h
  rw [decimalDigits, List.length_reverse, Nat.digitsAppend, List.length_append,
    List.length_replicate]
  omega

/-- A number of so many digits. -/
theorem fromDigits_lt {ds : List ℕ} (hds : ∀ d ∈ ds, d < 10) :
    fromDigits 10 ds < 10 ^ ds.length := by
  rw [fromDigits, ← List.length_reverse]
  exact Nat.ofDigits_lt_base_pow_length (by decide) fun d hd => hds d (List.mem_reverse.mp hd)

/-- Digits in front of digits. -/
theorem fromDigits_append (b : ℕ) (xs ys : List ℕ) :
    fromDigits b (xs ++ ys) = fromDigits b xs * b ^ ys.length + fromDigits b ys := by
  rw [fromDigits, List.reverse_append, Nat.ofDigits_append, List.length_reverse]
  simp only [fromDigits]
  ring

/-- Zeros to the left. -/
theorem decimal_eq (width n : ℕ) : decimal width n
    = List.replicate (width - (Nat.digits 10 n).length) Byte.zero
      ++ (Nat.digits 10 n).reverse.map digitByte := by
  have hzero : digitByte 0 = Byte.zero := by decide
  rw [decimal, decimalDigits, Nat.digitsAppend, List.reverse_append, List.map_append,
    List.reverse_replicate, List.map_replicate, hzero]

@[inherit_doc decimal_eq]
theorem setWidth_decimal {width : ℕ} (hwidth : 1 ≤ width) (n : ℕ) :
    setWidth width (decimal 1 n) = decimal width n := by
  rw [setWidth, decimal_eq, decimal_eq, ← List.append_assoc, List.replicate_append_replicate,
    List.length_append, List.length_replicate, List.length_map, List.length_reverse]
  congr 2
  omega

/-! ### Reading digits back -/

theorem digit?_digitByte {d : ℕ} (hd : d < 10) : digit? 10 (digitByte d) = some d := by
  have hall : ∀ d : Fin 10, digit? 10 (digitByte d) = some d.val := by decide
  exact hall ⟨d, hd⟩

/-- A digit begins no word, and is neither white space nor a sign. -/
theorem digitByte_spec {d : ℕ} (hd : d < 10) :
    isSpace (digitByte d) = false ∧ digitByte d ≠ Byte.minus ∧ digitByte d ≠ Byte.plus ∧
      lower (digitByte d) ≠ 0x69 ∧ lower (digitByte d) ≠ 0x6E ∧ lower (digitByte d) ≠ 0x78 := by
  have hall : ∀ d : Fin 10, isSpace (digitByte d) = false ∧ digitByte d ≠ Byte.minus ∧
      digitByte d ≠ Byte.plus ∧ lower (digitByte d) ≠ 0x69 ∧ lower (digitByte d) ≠ 0x6E ∧
      lower (digitByte d) ≠ 0x78 := by decide
  exact hall ⟨d, hd⟩

theorem takeDigits_append {ds : List ℕ} (hds : ∀ d ∈ ds, d < 10) {rest : List UInt8}
    (hrest : ∀ c, rest.head? = some c → digit? 10 c = none) :
    takeDigits 10 (ds.map digitByte ++ rest) = (ds, rest) := by
  induction ds with
  | nil =>
    cases rest with
    | nil => rfl
    | cons c rest =>
      show takeDigits 10 (c :: rest) = ([], c :: rest)
      rw [takeDigits, hrest c rfl]
  | cons d ds ih =>
    rw [List.map_cons, List.cons_append, takeDigits, digit?_digitByte (hds d List.mem_cons_self)]
    dsimp only
    rw [ih fun e he => hds e (List.mem_cons_of_mem d he)]

/-- A numeral: a sign, digits, and perhaps a point with more digits. -/
theorem strtod_numeral (negative : Bool) {ds fs : List ℕ} {tail : List UInt8}
    (hds : ∀ d ∈ ds, d < 10) (hne : ds ≠ []) (hpoint : ∀ c, tail.head? = some c → c = Byte.point)
    (hfraction : takeFraction 10 tail = (fs, [])) :
    strtod ((if negative then [Byte.minus] else []) ++ (ds.map digitByte ++ tail))
      = some (.finite (if negative then -(fromDigits 10 (ds ++ fs) / 10 ^ fs.length)
          else fromDigits 10 (ds ++ fs) / 10 ^ fs.length), []) := by
  have hdigits : takeDigits 10 (ds.map digitByte ++ tail) = (ds, tail) := by
    apply takeDigits_append hds
    intro c hc
    rw [hpoint c hc]
    decide
  have hmantissa : takeMantissa 10 (ds.map digitByte ++ tail)
      = some (fromDigits 10 (ds ++ fs), fs.length, []) := by
    rw [takeMantissa, hdigits]
    dsimp only
    rw [hfraction]
    exact if_neg fun h => hne h.1
  have hdecimal : takeDecimal (ds.map digitByte ++ tail)
      = some (.finite (fromDigits 10 (ds ++ fs) / 10 ^ fs.length), []) := by
    rw [takeDecimal, hmantissa]
    simp [takeExponent, div_eq_mul_inv]
  obtain ⟨d, ds', rfl⟩ := List.exists_cons_of_ne_nil hne
  obtain ⟨hspace, hminus, hplus, hi, hn, -⟩ := digitByte_spec (hds d List.mem_cons_self)
  rw [List.map_cons, List.cons_append] at hdecimal ⊢
  -- a digit begins no word, and no `x` follows it
  have hnext : ∀ c, (ds'.map digitByte ++ tail).head? = some c → lower c ≠ 0x78 := by
    intro c hc
    cases ds' with
    | nil =>
      rw [hpoint c hc]
      decide
    | cons e ds' =>
      cases hc
      exact (digitByte_spec (hds e (by simp))).2.2.2.2.2
  generalize digitByte d = c at *
  generalize ds'.map digitByte ++ tail = rest at *
  have hsign : takeSign (((if negative then [Byte.minus] else []) ++ c :: rest).dropWhile isSpace)
      = (negative, c :: rest) := by
    cases negative with
    | true =>
      have hminus' : isSpace Byte.minus = false := by decide
      show takeSign ((Byte.minus :: c :: rest).dropWhile isSpace) = _
      rw [List.dropWhile_cons_of_neg (by simp [hminus']), takeSign, if_pos rfl]
    | false =>
      show takeSign ((c :: rest).dropWhile isSpace) = _
      rw [List.dropWhile_cons_of_neg (by simp [hspace]), takeSign, if_neg hminus, if_neg hplus]
  have hinfinity : takeInfinity (c :: rest) = none := by
    have hword : ∀ word, stripWord (0x69 :: word) (c :: rest) = none := by
      intro word
      rw [stripWord, if_neg hi]
    have h1 : ascii "infinity" = 0x69 :: ascii "nfinity" := by decide
    have h2 : ascii "inf" = 0x69 :: ascii "nf" := by decide
    rw [takeInfinity, h1, h2, hword, hword]
    rfl
  have hnan : takeNan (c :: rest) = none := by
    have hword : ascii "nan" = 0x6E :: ascii "an" := by decide
    rw [takeNan, hword, stripWord, if_neg hn]
    rfl
  have hhex : takeHex (c :: rest) = none := by
    have hstrip : stripWord [0x30, 0x78] (c :: rest) = none := by
      rw [stripWord]
      split
      · cases rest with
        | nil => rfl
        | cons e rest => rw [stripWord, if_neg (hnext e rfl)]
      · rfl
    rw [takeHex, hstrip]
    rfl
  rw [strtod, hsign]
  dsimp only
  rw [hinfinity, hnan, hhex, hdecimal]
  cases negative <;> rfl

/-! ### Reading back what was printed -/

theorem cast_two_pow_sub {a b : ℕ} (h : b ≤ a) : ((2 ^ a - 2 ^ b : ℕ) : ℚ) = 2 ^ a - 2 ^ b := by
  rw [Nat.cast_sub (Nat.pow_le_pow_right (by decide) h)]
  push_cast
  rfl

/-- A decimal with few decimals is in the range of a `double`, if it is not too large. -/
theorem inRange_div {n precision : ℕ} (hn : n < doubleLimit * 10 ^ precision)
    (hprecision : precision ≤ 255) (negative : Bool) :
    InRange (.finite (if negative then -((n : ℚ) / 10 ^ precision) else n / 10 ^ precision)) := by
  have hpos : (0 : ℚ) < 10 ^ precision := by positivity
  have hnonneg : (0 : ℚ) ≤ n / 10 ^ precision := by positivity
  have habs : |if negative then -((n : ℚ) / 10 ^ precision) else n / 10 ^ precision|
      = n / 10 ^ precision := by
    split
    · rw [abs_neg, abs_of_nonneg hnonneg]
    · exact abs_of_nonneg hnonneg
  have hpow : (0 : ℚ) ≤ 2 ^ 1022 := by positivity
  refine ⟨?_, ?_⟩
  · have hlimit : ((doubleLimit : ℕ) : ℚ) = 2 ^ 1024 - 2 ^ 970 := by
      unfold doubleLimit
      exact @cast_two_pow_sub 1024 970 (by omega)
    rw [habs, ← hlimit, div_lt_iff₀ hpos]
    exact_mod_cast hn
  · rcases Nat.eq_zero_or_pos n with rfl | hn'
    · left
      simp
    · right
      left
      have hten : (10 : ℚ) ^ precision ≤ 2 ^ 1022 := by
        calc (10 : ℚ) ^ precision ≤ (2 ^ 4) ^ precision :=
              pow_le_pow_left₀ (by norm_num) (by norm_num) precision
          _ = 2 ^ (4 * precision) := (pow_mul 2 4 precision).symm
          _ ≤ 2 ^ 1022 := pow_le_pow_right₀ (by norm_num) (by omega)
      have hone : (1 : ℚ) ≤ n := by exact_mod_cast hn'
      rw [habs, div_mul_eq_mul_div, le_div_iff₀ hpos, one_mul]
      calc (10 : ℚ) ^ precision ≤ 2 ^ 1022 := hten
        _ = 1 * 2 ^ 1022 := (one_mul _).symm
        _ ≤ n * 2 ^ 1022 := mul_le_mul_of_nonneg_right hone hpow

/-- The tail of a numeral: a point and digits. -/
theorem takeFraction_point {fs : List ℕ} (hfs : ∀ d ∈ fs, d < 10) :
    takeFraction 10 (Byte.point :: fs.map digitByte) = (fs, []) := by
  have hdigits := @takeDigits_append fs hfs [] (by simp)
  rw [List.append_nil] at hdigits
  rw [takeFraction, if_pos rfl, hdigits]

/-- A numeral that is in range is converted. -/
theorem stod_numeral (negative : Bool) {ds fs : List ℕ} (hds : ∀ d ∈ ds, d < 10)
    (hfs : ∀ d ∈ fs, d < 10) (hne : ds ≠ [])
    (hlimit : fromDigits 10 (ds ++ fs) < doubleLimit * 10 ^ fs.length)
    (hprecision : fs.length ≤ 255) :
    stod ((if negative then [Byte.minus] else []) ++
        (ds.map digitByte ++ Byte.point :: fs.map digitByte))
      = .ok (.finite (if negative then -(fromDigits 10 (ds ++ fs) / 10 ^ fs.length)
          else fromDigits 10 (ds ++ fs) / 10 ^ fs.length)) := by
  have hpoint : ∀ c, (Byte.point :: fs.map digitByte).head? = some c → c = Byte.point := by
    intro c hc
    exact (Option.some.inj hc).symm
  rw [stod, strtod_numeral negative hds hne hpoint (takeFraction_point hfs)]
  exact if_pos (inRange_div hlimit hprecision negative)

section

variable {K : Type} [Field K] [LinearOrder K] [FloorRing K]

/-- **What is printed is read back.** -/
theorem stod_formatFixed {precision : ℕ} (hprecision : precision ≤ 255) (x : K) :
    stod (formatFixed precision x) = .ok (printed precision x) := by
  unfold formatFixed printed
  generalize fixedDigits precision x = n
  dsimp only
  have hsign : ∀ b : Bool, ((if x < 0 then [Byte.minus] else []) : List UInt8)
      = if decide (x < 0) then [Byte.minus] else [] := by
    intro _
    simp
  by_cases hlimit : doubleLimit * 10 ^ precision ≤ n
  · rw [if_pos hlimit, if_pos hlimit]
    by_cases hx : x < 0
    · simp only [hx, if_true, decide_true]
      rfl
    · simp only [hx, if_false, decide_false]
      rfl
  · have hlen : (decimalDigits precision (n % 10 ^ precision)).length = precision :=
      length_decimalDigits (Nat.mod_lt _ (by positivity))
    have hvalue : fromDigits 10
        (decimalDigits 1 (n / 10 ^ precision) ++ decimalDigits precision (n % 10 ^ precision))
          = n := by
      rw [fromDigits_append, hlen, fromDigits_decimalDigits, fromDigits_decimalDigits, mul_comm]
      exact Nat.div_add_mod n _
    have hne : decimalDigits 1 (n / 10 ^ precision) ≠ [] := by
      have hlen' := le_length_decimalDigits 1 (n / 10 ^ precision)
      intro hnil
      rw [hnil] at hlen'
      cases hlen'
    have hread := stod_numeral (decide (x < 0)) (fun _ => decimalDigits_lt)
      (fun _ => decimalDigits_lt) hne (by rw [hvalue, hlen]; omega) (by rw [hlen]; exact hprecision)
    rw [hvalue, hlen] at hread
    rw [if_neg hlimit, if_neg hlimit]
    simpa [decimal] using hread

end

end FalconGuide
