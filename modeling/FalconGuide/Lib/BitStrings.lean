import Mathlib.Data.List.OfFn
import Mathlib.Data.List.GetD
import Mathlib.Data.Nat.Notation

namespace FalconGuide.Lib

/-!
# Bit strings

Strings of bits as standards write them, the most significant bit of a word first.

* `wordBits`, `wordAt` — the bits of a word, and the word that begins at a bit;
* `bitString`, `bitsOf` — the bits of some words, and of some bytes;
* `bigEndian`, `bitsOf_bigEndian` — the bytes of a word.
-/

/-- The bits of a word. -/
def wordBits {n : ℕ} (x : BitVec n) : List Bool := List.ofFn fun i : Fin n => x.getMsbD i

/-- The word of `n` bits at `offset`; there are zeros behind the end. -/
def wordAt (n : ℕ) (bits : List Bool) (offset : ℕ) : BitVec n :=
  (BitVec.ofBoolListBE ((List.range n).map fun i => bits.getD (offset + i) false)).setWidth n

/-- The bits of some words. -/
def bitString {n : ℕ} (words : List (BitVec n)) : List Bool := words.flatMap wordBits

/-- The bits of some bytes. -/
def bitsOf (bytes : List UInt8) : List Bool := bitString (bytes.map UInt8.toBitVec)

/-- The bytes of a word, the most significant first. -/
def bigEndian {n : ℕ} (count : ℕ) (x : BitVec n) : List UInt8 :=
  (List.range count).map fun i => ⟨(x >>> (8 * (count - 1 - i))).setWidth 8⟩

variable {n : ℕ}

/-- As many bits as the word is wide. -/
@[simp] theorem length_wordBits (x : BitVec n) : (wordBits x).length = n := List.length_ofFn

/-- The most significant bit is the first. -/
theorem getD_wordBits (x : BitVec n) (i : ℕ) : (wordBits x).getD i false = x.getMsbD i := by
  by_cases h : i < n
  · rw [List.getD_eq_getElem _ _ (by rwa [length_wordBits])]
    exact List.getElem_ofFn _
  · rw [List.getD_eq_default _ _ (by rwa [length_wordBits, ← not_lt]), BitVec.getMsbD_of_ge]
    omega

/-- The bits of a word that is read. -/
theorem getMsbD_wordAt (bits : List Bool) (offset : ℕ) {i : ℕ} (h : i < n) :
    (wordAt n bits offset).getMsbD i = bits.getD (offset + i) false := by
  simp [wordAt, BitVec.getMsbD_setWidth, h]

/-- The bits of a word are those of the word at their place. -/
theorem wordAt_eq_iff {x : BitVec n} {bits : List Bool} {offset : ℕ} :
    wordAt n bits offset = x ↔ ∀ i < n, bits.getD (offset + i) false = x.getMsbD i := by
  constructor
  · rintro rfl i hi
    exact (getMsbD_wordAt bits offset hi).symm
  · intro h
    apply BitVec.eq_of_getMsbD_eq
    intro i hi
    rw [getMsbD_wordAt bits offset hi, h i hi]

/-- The words, one after the other. -/
@[simp] theorem length_bitString (words : List (BitVec n)) :
    (bitString words).length = n * words.length := by
  induction words with
  | nil => rfl
  | cons x words ih =>
    rw [bitString, List.flatMap_cons, List.length_append, length_wordBits, List.length_cons,
      Nat.mul_succ, Nat.add_comm, ← ih]
    rfl

/-- An entry of pieces of one length. -/
theorem getD_flatMap {α β : Type} {f : α → List β} (hn : 0 < n) (hf : ∀ x, (f x).length = n)
    (xs : List α) (i : ℕ) (d : β) :
    (xs.flatMap f).getD i d = (xs[i / n]?.map fun x => (f x).getD (i % n) d).getD d := by
  induction xs generalizing i with
  | nil => rfl
  | cons x xs ih =>
    rw [List.flatMap_cons]
    by_cases h : i < n
    · rw [List.getD_append _ _ _ _ (by rwa [hf]), Nat.div_eq_of_lt h, Nat.mod_eq_of_lt h]
      rfl
    · have hle : n ≤ i := not_lt.mp h
      rw [List.getD_append_right _ _ _ _ (by rwa [hf]), hf, ih, Nat.div_eq_sub_div hn hle,
        Nat.mod_eq_sub_mod hle]
      rfl

/-- A bit of some words, and of the zeros behind them. -/
theorem getD_bitString (hn : 0 < n) (words : List (BitVec n)) (i : ℕ) :
    (bitString words).getD i false = (words.getD (i / n) 0).getMsbD (i % n) := by
  rw [bitString, getD_flatMap hn length_wordBits, List.getD_eq_getElem?_getD]
  cases words[i / n]? with
  | none => simp
  | some x => exact getD_wordBits x (i % n)

/-! ### Bytes -/

/-- A byte in front. -/
@[simp] theorem bitsOf_cons (b : UInt8) (bytes : List UInt8) :
    bitsOf (b :: bytes) = wordBits b.toBitVec ++ bitsOf bytes := rfl

/-- Joined bytes are joined bits. -/
@[simp] theorem bitsOf_append (xs ys : List UInt8) :
    bitsOf (xs ++ ys) = bitsOf xs ++ bitsOf ys := by
  rw [bitsOf, List.map_append]
  exact List.flatMap_append

/-- Eight bits to a byte. -/
@[simp] theorem length_bitsOf (bytes : List UInt8) : (bitsOf bytes).length = 8 * bytes.length := by
  rw [bitsOf, length_bitString, List.length_map]

/-- A bit is one of a byte. -/
theorem getD_bitsOf (bytes : List UInt8) (i : ℕ) :
    (bitsOf bytes).getD i false = (bytes.getD (i / 8) 0).toBitVec.getMsbD (i % 8) := by
  have hbyte : (bytes.map UInt8.toBitVec).getD (i / 8) 0 = (bytes.getD (i / 8) 0).toBitVec :=
    List.getD_map _ _ _
  rw [bitsOf, getD_bitString (by omega), hbyte]

/-- Bit strings are equal when they are as long and have the same bits. -/
theorem eq_of_getD {xs ys : List Bool} (hlength : xs.length = ys.length)
    (h : ∀ i < xs.length, xs.getD i false = ys.getD i false) : xs = ys := by
  apply List.ext_getElem hlength
  intro i hx hy
  have hi := h i hx
  rwa [List.getD_eq_getElem _ _ hx, List.getD_eq_getElem _ _ hy] at hi

/-- As many bytes as are asked for. -/
@[simp] theorem length_bigEndian (count : ℕ) (x : BitVec n) :
    (bigEndian count x).length = count := by
  rw [bigEndian, List.length_map, List.length_range]

/-- **The bytes of a word** have its bits. -/
theorem bitsOf_bigEndian (count : ℕ) (x : BitVec (8 * count)) :
    bitsOf (bigEndian count x) = wordBits x := by
  apply eq_of_getD
  · rw [length_bitsOf, length_bigEndian, length_wordBits]
  · intro i hi
    rw [length_bitsOf, length_bigEndian] at hi
    have hbyte : i / 8 < count := by omega
    rw [getD_bitsOf, getD_wordBits, bigEndian, List.getD_eq_getElem _ _ (by simpa using hbyte)]
    have hplace : 8 * (count - 1 - i / 8) + (8 - 1 - i % 8) = 8 * count - 1 - i := by omega
    have hlow : i % 8 < 8 := Nat.mod_lt i (by omega)
    have hbit : 8 - 1 - i % 8 < 8 := by omega
    simp only [List.getElem_map, List.getElem_range, BitVec.getMsbD_eq_getLsbD,
      BitVec.getLsbD_setWidth, BitVec.getLsbD_ushiftRight, hplace, hlow, hbit, hi, decide_true,
      Bool.true_and]

/-- A byte in a word. -/
theorem getMsbD_shiftLeft_byte (x : BitVec 8) (s i : ℕ) : (x.setWidth 32 <<< s).getMsbD i
    = if 24 ≤ i + s ∧ i + s < 32 then x.getMsbD (i + s - 24) else false := by
  rw [BitVec.getMsbD_shiftLeft, BitVec.getMsbD_setWidth]
  by_cases hlow : 24 ≤ i + s
  · by_cases hhigh : i + s < 32
    · simp [hlow, hhigh]
    · rw [if_neg (fun h => hhigh h.2), BitVec.getMsbD_of_ge _ _ (by omega), Bool.and_false]
  · simp [hlow]

/-- **Four bytes shifted together** are the word that they spell. -/
theorem wordAt_bitsOf (bytes : List UInt8) (k : ℕ) : wordAt 32 (bitsOf bytes) (8 * k)
    = ((bytes.getD k 0).toUInt32 <<< 24 ||| (bytes.getD (k + 1) 0).toUInt32 <<< 16 |||
        (bytes.getD (k + 2) 0).toUInt32 <<< 8 ||| (bytes.getD (k + 3) 0).toUInt32).toBitVec := by
  have hword : ∀ x y z u : UInt8,
      (x.toUInt32 <<< 24 ||| y.toUInt32 <<< 16 ||| z.toUInt32 <<< 8 ||| u.toUInt32).toBitVec
        = x.toBitVec.setWidth 32 <<< 24 ||| y.toBitVec.setWidth 32 <<< 16
          ||| z.toBitVec.setWidth 32 <<< 8 ||| u.toBitVec.setWidth 32 <<< 0 := fun x y z u => by
    rw [BitVec.shiftLeft_zero]
    rfl
  rw [wordAt_eq_iff, hword]
  intro i hi
  have hbyte : (8 * k + i) / 8 = k + i / 8 := by omega
  have hbit : (8 * k + i) % 8 = i % 8 := by omega
  rw [getD_bitsOf, hbyte, hbit]
  simp only [BitVec.getMsbD_or, getMsbD_shiftLeft_byte]
  -- one of the four bytes has the bit
  have hplace : i / 8 = 0 ∨ i / 8 = 1 ∨ i / 8 = 2 ∨ i / 8 = 3 := by omega
  rcases hplace with h | h | h | h
  · rw [h, if_pos (by omega), if_neg (by omega), if_neg (by omega), if_neg (by omega),
      show i + 24 - 24 = i % 8 by omega]
    simp
  · rw [h, if_neg (by omega), if_pos (by omega), if_neg (by omega), if_neg (by omega),
      show i + 16 - 24 = i % 8 by omega]
    simp
  · rw [h, if_neg (by omega), if_neg (by omega), if_pos (by omega), if_neg (by omega),
      show i + 8 - 24 = i % 8 by omega]
    simp
  · rw [h, if_neg (by omega), if_neg (by omega), if_neg (by omega), if_pos (by omega),
      show i + 0 - 24 = i % 8 by omega]
    simp

end FalconGuide.Lib
