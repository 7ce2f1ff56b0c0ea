import FalconGuide.Core.MachineNumbers

namespace FalconGuide

/-!
# JSON values

The part of the JSON library that the session and its servers rely on.

* `Json` — a parsed value; a number is an integer or a `double`, which is a rational;
* `Json.contains`, `Json.valueString`, `Json.valueDouble`, … — `contains` and `value`, with the
  library's `what()` texts on a type error.
-/

/-- A JSON value. -/
inductive Json
  | null
  | bool (b : Bool)
  /-- A number without fraction and exponent, of 64 bits. -/
  | int (n : ℤ)
  /-- Any other number: a finite `double`. -/
  | num (x : ℚ)
  | str (s : String)
  | arr (elems : List Json)
  | obj (fields : List (String × Json))

namespace Json

/-- `type_name()`. -/
def typeName : Json → String
  | null => "null"
  | bool _ => "boolean"
  | int _ => "number"
  | num _ => "number"
  | str _ => "string"
  | arr _ => "array"
  | obj _ => "object"

/-- The value stored under `key`, if this is an object that has the key. -/
def find? (key : String) : Json → Option Json
  | obj fields => fields.lookup key
  | _ => none

/-- `contains`: false on anything that is not an object. -/
def contains (j : Json) (key : String) : Bool := (j.find? key).isSome

/-- `j[key]` on a key that `contains` found; a missing key reads as null. -/
def get (j : Json) (key : String) : Json := (j.find? key).getD null

/-- The type error for a value that is not a `wanted`. -/
def typeError (wanted : String) (j : Json) : String :=
  "[json.exception.type_error.302] type must be " ++ wanted ++ ", but is " ++ j.typeName

/-- `value(key, default)`, with `get` the conversion to the type of the default. -/
def value {α : Type} (conv : Json → Except String α) (j : Json) (key : String) (default : α) :
    Except String α :=
  match j with
  | obj fields =>
    match fields.lookup key with
    | some v => conv v
    | none => .ok default
  | other =>
    .error ("[json.exception.type_error.306] cannot use value() with " ++ other.typeName)

/-- Conversion to `std::string`. -/
def toStr : Json → Except String String
  | str s => .ok s
  | j => .error (typeError "string" j)

/-- Conversion to `double`, which rounds an integer: booleans are not numbers. -/
def toDouble : Json → Except String ℚ
  | int n => .ok (roundDouble n)
  | num x => .ok x
  | j => .error (typeError "number" j)

/-- The number a conversion to an integer type starts from: a boolean counts as 0 or 1. -/
def toInteger : Json → Except String ℤ
  | int n => .ok n
  | num x => .ok (truncate x)
  | bool b => .ok b.toNat
  | j => .error (typeError "number" j)

/-- Conversion to `int`, modulo 2^32. -/
def toInt (j : Json) : Except String ℤ := (j.toInteger).map (Int.bmod · 4294967296)

/-- Conversion to `uint16_t`. -/
def toUInt16 (j : Json) : Except String UInt16 := (j.toInteger).map (UInt16.ofInt ·)

/-- `value` with a string default. -/
def valueString (j : Json) (key : String) (default : String) : Except String String :=
  j.value toStr key default

/-- `value` with a `double` default. -/
def valueDouble (j : Json) (key : String) (default : ℚ) : Except String ℚ :=
  j.value toDouble key default

/-- `value` with an `int` default. -/
def valueInt (j : Json) (key : String) (default : ℤ) : Except String ℤ :=
  j.value toInt key default

/-- `value` with a `uint16_t` default. -/
def valueUInt16 (j : Json) (key : String) (default : UInt16) : Except String UInt16 :=
  j.value toUInt16 key default

end Json

end FalconGuide
