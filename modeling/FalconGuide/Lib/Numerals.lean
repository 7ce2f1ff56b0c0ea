import Mathlib.Algebra.NeZero
import Mathlib.Data.Nat.Cast.Defs

namespace FalconGuide.Lib

/-!
# Numerals

Named instances for the numerals that definitions in several modules use.
-/

instance atLeastTwo_two : Nat.AtLeastTwo 2 := ⟨by omega⟩

instance atLeastTwo_three : Nat.AtLeastTwo 3 := ⟨by omega⟩

instance atLeastTwo_ten : Nat.AtLeastTwo 10 := ⟨by omega⟩

instance atLeastTwo_sixty : Nat.AtLeastTwo 60 := ⟨by omega⟩

instance atLeastTwo_hundred : Nat.AtLeastTwo 100 := ⟨by omega⟩

/-- The degrees of half a circle. -/
instance atLeastTwo_halfCircle : Nat.AtLeastTwo 180 := ⟨by omega⟩

/-- The degrees of a circle. -/
instance atLeastTwo_circle : Nat.AtLeastTwo 360 := ⟨by omega⟩

/-- The semi-major axis of the WGS84 ellipsoid, in metres. -/
instance atLeastTwo_semiMajorAxis : Nat.AtLeastTwo 6378137 := ⟨by omega⟩

instance neZero_three : @NeZero ℕ Zero.ofOfNat0 3 := ⟨by omega⟩

/-- The rows of a published covariance. -/
instance neZero_fifteen : @NeZero ℕ Zero.ofOfNat0 15 := ⟨by omega⟩

end FalconGuide.Lib
