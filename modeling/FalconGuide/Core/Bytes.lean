import Mathlib.Data.Nat.Notation

namespace FalconGuide

/-!
# Texts as bytes

* `ascii`, `crlf` — the bytes of a text, and the line end;
* `Byte.comma`, … — single characters.
-/

/-- The bytes of a text. -/
def ascii (s : String) : List UInt8 := s.toList.map fun c => c.toNat.toUInt8

/-- The line end, and the blank line that ends the headers. -/
def crlf : List UInt8 := [13, 10]

namespace Byte

/-- The end of a line. -/
def lineFeed : UInt8 := 0x0A
/-- The byte in front of it in `crlf`. -/
def carriageReturn : UInt8 := 0x0D
/-- The byte of `#`. -/
def hash : UInt8 := 0x23
/-- The byte of `$`. -/
def dollar : UInt8 := 0x24
/-- The byte of `*`. -/
def asterisk : UInt8 := 0x2A
/-- The byte of `+`. -/
def plus : UInt8 := 0x2B
/-- The byte of `,`. -/
def comma : UInt8 := 0x2C
/-- The byte of `-`. -/
def minus : UInt8 := 0x2D
/-- The byte of `.`. -/
def point : UInt8 := 0x2E
/-- The byte of `0`. -/
def zero : UInt8 := 0x30

end Byte

end FalconGuide
