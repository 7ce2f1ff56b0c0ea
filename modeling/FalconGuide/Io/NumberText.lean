import FalconGuide.Core.Bytes
import FalconGuide.Core.MachineNumbers
import Mathlib.Data.Nat.Digits.Defs

namespace FalconGuide

/-!
# Numbers read from text

`std::stod` and `std::stoll` of the C++ library.  Both skip white space, convert the longest prefix
that is a number and ignore what follows; both throw when there is no such prefix, or when its
value is out of range.  What a `double` is read as is exact.

* `Double` — a finite number, an infinity, or not a number;
* `strtod`, `strtoll` — the prefix with its value, and what follows;
* `stod`, `stoll` — with the exceptions.
-/

/-- What a `double` holds. -/
inductive Double (K : Type)
  | finite (x : K)
  | infinite (negative : Bool)
  | nan
  deriving DecidableEq

namespace Double

variable {K L : Type}

/-- An increasing function of the number. -/
def map (f : K → L) : Double K → Double L
  | finite x => finite (f x)
  | infinite negative => infinite negative
  | nan => nan

/-- `-x`. -/
def neg [Neg K] : Double K → Double K
  | finite x => finite (-x)
  | infinite negative => infinite (!negative)
  | nan => nan

/-- `x + y`. -/
def add [Add K] : Double K → Double K → Double K
  | finite x, finite y => finite (x + y)
  | finite _, y => y
  | infinite negative, finite _ => infinite negative
  | infinite n, infinite m => if n = m then infinite n else nan
  | infinite _, nan => nan
  | nan, _ => nan

end Double

/-- An exception of a conversion. -/
inductive ConversionError
  | invalidArgument (what : String)
  | outOfRange (what : String)
  deriving DecidableEq

/-- `what()`. -/
def ConversionError.what : ConversionError → String
  | invalidArgument what => what
  | outOfRange what => what

/-! ### Digits -/

/-- `isspace`. -/
def isSpace (c : UInt8) : Bool := c = 0x20 || (0x09 ≤ c && c ≤ 0x0D)

/-- `tolower`. -/
def lower (c : UInt8) : UInt8 := if 0x41 ≤ c && c ≤ 0x5A then c + 0x20 else c

/-- The value of a digit to the base `b`. -/
def digit? (b : ℕ) (c : UInt8) : Option ℕ :=
  let d := if 0x30 ≤ c && c ≤ 0x39 then c.toNat - 0x30
    else if 0x61 ≤ lower c && lower c ≤ 0x66 then (lower c).toNat - 0x57
    else 16
  if d < b then some d else none

/-- The digits at the front of a text, and what follows. -/
def takeDigits (b : ℕ) : List UInt8 → List ℕ × List UInt8
  | [] => ([], [])
  | c :: text =>
    match digit? b c with
    | some d => (d :: (takeDigits b text).1, (takeDigits b text).2)
    | none => ([], c :: text)

/-- The number that digits stand for, the first one the most significant. -/
def fromDigits (b : ℕ) (digits : List ℕ) : ℕ := Nat.ofDigits b digits.reverse

/-- A sign, and whether it is a minus. -/
def takeSign : List UInt8 → Bool × List UInt8
  | [] => (false, [])
  | c :: text =>
    if c = Byte.minus then (true, text)
    else if c = Byte.plus then (false, text)
    else (false, c :: text)

/-! ### Floating point -/

/-- The digits behind a point, if there is one. -/
def takeFraction (b : ℕ) : List UInt8 → List ℕ × List UInt8
  | [] => ([], [])
  | c :: text => if c = Byte.point then takeDigits b text else ([], c :: text)

/-- Digits with a point among them: the number without the point, and the number of digits behind
    it. -/
def takeMantissa (b : ℕ) (text : List UInt8) : Option (ℕ × ℕ × List UInt8) :=
  let (whole, rest) := takeDigits b text
  let (fraction, rest) := takeFraction b rest
  if whole = [] ∧ fraction = [] then none
  else some (fromDigits b (whole ++ fraction), fraction.length, rest)

/-- An exponent behind `mark`; without digits, it is none. -/
def takeExponent (mark : UInt8) (text : List UInt8) : ℤ × List UInt8 :=
  match text with
  | [] => (0, [])
  | c :: rest =>
    if lower c = mark then
      let (negative, rest) := takeSign rest
      let (digits, rest) := takeDigits 10 rest
      if digits = [] then (0, text)
      else (if negative then -fromDigits 10 digits else fromDigits 10 digits, rest)
    else (0, text)

/-- What follows a word, in letters of either case. -/
def stripWord : List UInt8 → List UInt8 → Option (List UInt8)
  | [], text => some text
  | _ :: _, [] => none
  | w :: word, c :: text => if lower c = w then stripWord word text else none

/-- What follows `nan`: letters, digits and underscores in parentheses, if they are closed. -/
def dropNanPayload (text : List UInt8) : List UInt8 :=
  match text with
  | [] => []
  | c :: rest =>
    let isWord (c : UInt8) : Bool :=
      (digit? 10 c).isSome || (0x61 ≤ lower c && lower c ≤ 0x7A) || c = 0x5F
    if c = 0x28 then
      match rest.dropWhile isWord with
      | [] => text
      | d :: rest => if d = 0x29 then rest else text
    else text

/-- A decimal number. -/
def takeDecimal (text : List UInt8) : Option (Double ℚ × List UInt8) :=
  (takeMantissa 10 text).map fun (mantissa, fraction, rest) =>
    let (exponent, rest) := takeExponent 0x65 rest
    (.finite (mantissa * 10 ^ (exponent - fraction)), rest)

/-- A hexadecimal number, behind `0x`. -/
def takeHex (text : List UInt8) : Option (Double ℚ × List UInt8) :=
  (stripWord [0x30, 0x78] text).bind fun text =>
    (takeMantissa 16 text).map fun (mantissa, fraction, rest) =>
      let (exponent, rest) := takeExponent 0x70 rest
      (.finite (mantissa * 2 ^ (exponent - 4 * fraction)), rest)

/-- An infinity. -/
def takeInfinity (text : List UInt8) : Option (Double ℚ × List UInt8) :=
  (stripWord (ascii "infinity") text <|> stripWord (ascii "inf") text).map
    fun rest => (.infinite false, rest)

/-- What is not a number. -/
def takeNan (text : List UInt8) : Option (Double ℚ × List UInt8) :=
  (stripWord (ascii "nan") text).map fun rest => (.nan, dropNanPayload rest)

/-- `strtod`: the longest prefix that is a number, and what follows. -/
def strtod (text : List UInt8) : Option (Double ℚ × List UInt8) :=
  let (negative, text) := takeSign (text.dropWhile isSpace)
  (takeInfinity text <|> takeNan text <|> takeHex text <|> takeDecimal text).map
    fun (x, rest) => (if negative then x.neg else x, rest)

/-- The range of a `double`: below half a unit above the largest one, and zero, normal, or a
    multiple of the smallest one. -/
def InRange : Double ℚ → Prop
  | .finite x => |x| < 2 ^ 1024 - 2 ^ 970 ∧
      (x = 0 ∨ 1 ≤ |x| * 2 ^ 1022 ∨ (x * 2 ^ 1074).den = 1)
  | _ => True

instance : (x : Double ℚ) → Decidable (InRange x)
  | .finite _ => inferInstanceAs (Decidable (_ ∧ _))
  | .infinite _ => .isTrue trivial
  | .nan => .isTrue trivial

/-- `std::stod`. -/
def stod (text : List UInt8) : Except ConversionError (Double ℚ) :=
  match strtod text with
  | none => .error (.invalidArgument "stod")
  | some (x, _) => if InRange x then .ok x else .error (.outOfRange "stod")

/-! ### Integers -/

/-- `strtoll` to the base ten. -/
def strtoll (text : List UInt8) : Option (ℤ × List UInt8) :=
  let (negative, text) := takeSign (text.dropWhile isSpace)
  let (digits, rest) := takeDigits 10 text
  if digits = [] then none
  else some (if negative then -fromDigits 10 digits else fromDigits 10 digits, rest)

/-- `std::stoll`. -/
def stoll (text : List UInt8) : Except ConversionError ℤ :=
  match strtoll text with
  | none => .error (.invalidArgument "stoll")
  | some (n, _) => if IsInt64 n then .ok n else .error (.outOfRange "stoll")

end FalconGuide
