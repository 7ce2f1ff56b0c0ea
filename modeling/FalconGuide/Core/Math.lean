import FalconGuide.Lib.Numerals
import Mathlib.Algebra.Quaternion
import Mathlib.Analysis.SpecialFunctions.Complex.Arg
import Mathlib.Data.Matrix.Mul
import Mathlib.LinearAlgebra.Matrix.Notation
import Mathlib.LinearAlgebra.Matrix.Trace

namespace FalconGuide

open Matrix
open scoped BigOperators

/-!
# Vectors, blocks and rotations

Every `double` is a real number.  Vectors lose their frame tags, which the compiler checks and
no computation reads.

* `Vec3`, `euclideanNorm`, `frobeniusNorm`;
* `setBlock`, `setSegment` — assignment to a block of a matrix, or to a segment of a vector;
* `Quaternion` of the library with `toRotationMatrix`, `ofRotationMatrix`, `normalized`, as
  Eigen computes them;
* `expMapSo3`, `logMapSo3`, `skewSymmetric`, `symmetrizeCovariance`.
-/

/-- A vector in space. -/
abbrev Vec3 := Fin 3 → ℝ

/-- A 3 × 3 matrix. -/
abbrev Mat3 := Matrix (Fin 3) (Fin 3) ℝ

/-- `norm()` of a vector. -/
noncomputable def euclideanNorm {n : ℕ} (v : Fin n → ℝ) : ℝ := √(v ⬝ᵥ v)

/-- `normalized()` of a vector, which leaves the zero vector as it is. -/
noncomputable def normalizedVec {n : ℕ} (v : Fin n → ℝ) : Fin n → ℝ :=
  if 0 < v ⬝ᵥ v then (euclideanNorm v)⁻¹ • v else v

/-- `norm()` of a matrix. -/
noncomputable def frobeniusNorm {m n : ℕ} (A : Matrix (Fin m) (Fin n) ℝ) : ℝ :=
  √(∑ i, ∑ j, A i j ^ 2)

/-- `std::atan2`. -/
noncomputable def atan2 (y x : ℝ) : ℝ := Complex.arg ⟨x, y⟩

/-- `std::hypot`. -/
noncomputable def hypot (x y : ℝ) : ℝ := √(x ^ 2 + y ^ 2)

/-- `WrapAngleRad`. -/
noncomputable def wrapAngleRad (angle : ℝ) : ℝ := atan2 (Real.sin angle) (Real.cos angle)

/-- `kGravityMps2`, the same in every backend. -/
noncomputable def gravityMps2 : ℝ := 9.80665

/-! ### Blocks -/

/-- `A.block(row, col, p, q) = B`. -/
def setBlock {m n p q : ℕ} (A : Matrix (Fin m) (Fin n) ℝ) (row col : ℕ)
    (B : Matrix (Fin p) (Fin q) ℝ) : Matrix (Fin m) (Fin n) ℝ := fun i j =>
  if h : (row ≤ i.val ∧ i.val < row + p) ∧ (col ≤ j.val ∧ j.val < col + q) then
    B ⟨i.val - row, by omega⟩ ⟨j.val - col, by omega⟩
  else A i j

/-- `A.block(row, col, p, q)`; entries outside of `A` are never read. -/
def block {m n : ℕ} (A : Matrix (Fin m) (Fin n) ℝ) (row col p q : ℕ) :
    Matrix (Fin p) (Fin q) ℝ := fun i j =>
  if h : row + i.val < m ∧ col + j.val < n then A ⟨row + i.val, h.1⟩ ⟨col + j.val, h.2⟩ else 0

/-- `v.segment(offset, p) = w`. -/
def setSegment {n p : ℕ} (v : Fin n → ℝ) (offset : ℕ) (w : Fin p → ℝ) : Fin n → ℝ := fun i =>
  if h : offset ≤ i.val ∧ i.val < offset + p then w ⟨i.val - offset, by omega⟩ else v i

/-- `v.segment(offset, p)`; entries outside of `v` are never read. -/
def segment {n : ℕ} (v : Fin n → ℝ) (offset p : ℕ) : Fin p → ℝ := fun i =>
  if h : offset + i.val < n then v ⟨offset + i.val, h⟩ else 0

@[simp]
theorem block_self {n : ℕ} (A : Matrix (Fin n) (Fin n) ℝ) : block A 0 0 n n = A := by
  ext i j
  simp [block]

@[simp]
theorem segment_self {n : ℕ} (v : Fin n → ℝ) : segment v 0 n = v := by
  funext i
  simp [segment]

/-! ### Rotations -/

/-- `SkewSymmetric`. -/
def skewSymmetric (v : Vec3) : Mat3 := !![0, -v 2, v 1; v 2, 0, -v 0; -v 1, v 0, 0]

/-- `SymmetrizeCovariance`. -/
noncomputable def symmetrizeCovariance {n : ℕ} (A : Matrix (Fin n) (Fin n) ℝ) :
    Matrix (Fin n) (Fin n) ℝ :=
  (1 / 2 : ℝ) • (A + Aᵀ)

/-- `Eigen::Quaterniond`. -/
abbrev Quat := Quaternion ℝ

namespace Quat

/-- The vector part. -/
def vec (q : Quat) : Vec3 := ![q.imI, q.imJ, q.imK]

/-- `norm()`. -/
noncomputable def norm (q : Quat) : ℝ := √(Quaternion.normSq q)

/-- `normalized()`, which leaves the zero quaternion as it is. -/
noncomputable def normalized (q : Quat) : Quat :=
  if 0 < Quaternion.normSq q then (norm q)⁻¹ • q else q

/-- `toRotationMatrix()`. -/
def toRotationMatrix (q : Quat) : Mat3 :=
  let tx := 2 * q.imI
  let ty := 2 * q.imJ
  let tz := 2 * q.imK
  let twx := tx * q.re
  let twy := ty * q.re
  let twz := tz * q.re
  let txx := tx * q.imI
  let txy := ty * q.imI
  let txz := tz * q.imI
  let tyy := ty * q.imJ
  let tyz := tz * q.imJ
  let tzz := tz * q.imK
  !![1 - (tyy + tzz), txy - twz, txz + twy;
     txy + twz, 1 - (txx + tzz), tyz - twx;
     txz - twy, tyz + twx, 1 - (txx + tyy)]

/-- The rotation that does nothing. -/
@[simp]
theorem toRotationMatrix_one : toRotationMatrix 1 = 1 := by
  ext i j
  fin_cases i <;> fin_cases j <;>
    simp [toRotationMatrix, Quaternion.re_one, Quaternion.imI_one, Quaternion.imJ_one,
      Quaternion.imK_one]

theorem normalized_one : normalized 1 = 1 := by
  simp [normalized, norm]

/-- The quaternion of a rotation matrix. -/
noncomputable def ofRotationMatrix (m : Mat3) : Quat :=
  if 0 < m.trace then
    let t := √(m.trace + 1)
    let r := 1 / 2 / t
    ⟨1 / 2 * t, (m 2 1 - m 1 2) * r, (m 0 2 - m 2 0) * r, (m 1 0 - m 0 1) * r⟩
  else if m 1 1 ≤ m 0 0 ∧ m 2 2 ≤ m 0 0 then
    let t := √(m 0 0 - m 1 1 - m 2 2 + 1)
    let r := 1 / 2 / t
    ⟨(m 2 1 - m 1 2) * r, 1 / 2 * t, (m 1 0 + m 0 1) * r, (m 2 0 + m 0 2) * r⟩
  else if m 0 0 < m 1 1 ∧ m 2 2 ≤ m 1 1 then
    let t := √(m 1 1 - m 2 2 - m 0 0 + 1)
    let r := 1 / 2 / t
    ⟨(m 0 2 - m 2 0) * r, (m 0 1 + m 1 0) * r, 1 / 2 * t, (m 2 1 + m 1 2) * r⟩
  else
    let t := √(m 2 2 - m 0 0 - m 1 1 + 1)
    let r := 1 / 2 / t
    ⟨(m 1 0 - m 0 1) * r, (m 0 2 + m 2 0) * r, (m 1 2 + m 2 1) * r, 1 / 2 * t⟩

/-- The quaternion of an `Eigen::AngleAxisd`. -/
noncomputable def ofAngleAxis (angle : ℝ) (axis : Vec3) : Quat :=
  ⟨Real.cos (angle / 2), Real.sin (angle / 2) * axis 0, Real.sin (angle / 2) * axis 1,
    Real.sin (angle / 2) * axis 2⟩

end Quat

/-- `NormalizeQuaternion`. -/
noncomputable def normalizeQuaternion (q : Quat) : Quat :=
  if Quat.norm q = 0 then 1 else Quat.normalized q

/-- `ExpMapSo3`. -/
noncomputable def expMapSo3 (v : Vec3) : Quat :=
  let angle := euclideanNorm v
  if angle < 1e-12 then normalizeQuaternion ⟨1, 1 / 2 * v 0, 1 / 2 * v 1, 1 / 2 * v 2⟩
  else Quat.ofAngleAxis angle (angle⁻¹ • v)

/-- `LogMapSo3`: the angle of the `Eigen::AngleAxisd` of the quaternion times its axis. -/
noncomputable def logMapSo3 (q : Quat) : Vec3 :=
  let q := normalizeQuaternion q
  let n := euclideanNorm (Quat.vec q)
  if n = 0 then 0
  else
    let angle := 2 * atan2 n |q.re|
    let n := if q.re < 0 then -n else n
    angle • (n⁻¹ • Quat.vec q)

end FalconGuide
