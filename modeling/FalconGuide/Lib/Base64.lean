import FalconGuide.Lib.BitStrings

namespace FalconGuide.Lib.Base64

/-!
# Base 64

RFC 4648: the bits of some bytes in groups of six, each a character, filled up to a multiple of four
characters.

* `character`, `value` — the alphabet;
* `encode`, `decode` — the encoding and the decoding;
* `length_encode`, `decode_encode` — the length of a text, and its decoding.
-/

/-- The character of a value: letters, digits, `+` and `/`. -/
def character (v : BitVec 6) : UInt8 :=
  let n := v.toNat
  if n < 26 then UInt8.ofNat (0x41 + n)
  else if n < 52 then UInt8.ofNat (0x61 + (n - 26))
  else if n < 62 then UInt8.ofNat (0x30 + (n - 52))
  else if n = 62 then 0x2B
  else 0x2F

/-- The value of a character. -/
def value (c : UInt8) : Option (BitVec 6) :=
  if 0x41 ≤ c ∧ c ≤ 0x5A then some (BitVec.ofNat 6 (c.toNat - 0x41))
  else if 0x61 ≤ c ∧ c ≤ 0x7A then some (BitVec.ofNat 6 (c.toNat - 0x61 + 26))
  else if 0x30 ≤ c ∧ c ≤ 0x39 then some (BitVec.ofNat 6 (c.toNat - 0x30 + 52))
  else if c = 0x2B then some 62
  else if c = 0x2F then some 63
  else none

/-- The character `=`. -/
def padding : UInt8 := 0x3D

/-- The groups of six bits of `n` bytes, the last one filled with zeros. -/
def groups (n : ℕ) : ℕ := (8 * n + 5) / 6

/-- The text of some bytes. -/
def encode (bytes : List UInt8) : List UInt8 :=
  (List.range (groups bytes.length)).map (fun i => character (wordAt 6 (bitsOf bytes) (6 * i)))
    ++ List.replicate ((4 - groups bytes.length % 4) % 4) padding

/-- The whole bytes of some groups. -/
def bytesOf (values : List (BitVec 6)) : List UInt8 :=
  (List.range (6 * values.length / 8)).map fun i => ⟨wordAt 8 (bitString values) (8 * i)⟩

/-- The bytes of a text, if it is one: characters, filled up with padding. -/
def decode (text : List UInt8) : Option (List UInt8) :=
  let body := text.takeWhile (· ≠ padding)
  let fill := text.dropWhile (· ≠ padding)
  if text.length % 4 = 0 ∧ fill = List.replicate fill.length padding ∧ fill.length < 3 then
    (body.mapM value).map bytesOf
  else none

/-! ### The alphabet -/

theorem value_character : ∀ v : BitVec 6, value (character v) = some v := by decide

theorem character_ne_padding : ∀ v : BitVec 6, character v ≠ padding := by decide

/-! ### Texts -/

/-- **The length of a text** is four characters for every three bytes, begun or full. -/
theorem length_encode (bytes : List UInt8) :
    (encode bytes).length = 4 * ((bytes.length + 2) / 3) := by
  rw [encode, List.length_append, List.length_map, List.length_range, List.length_replicate,
    groups]
  omega

/-- A character of a text. -/
theorem getElem_encode (bytes : List UInt8) {i : ℕ} (h : i < (encode bytes).length) :
    (encode bytes)[i] = if i < groups bytes.length then
      character (wordAt 6 (bitsOf bytes) (6 * i)) else padding := by
  simp only [encode]
  by_cases hi : i < groups bytes.length
  · rw [List.getElem_append_left (by simpa using hi), if_pos hi]
    simp
  · rw [List.getElem_append_right (by simpa using hi), if_neg hi]
    simp

/-- The groups have the bits of the bytes. -/
theorem bytesOf_groups (bytes : List UInt8) :
    bytesOf ((List.range (groups bytes.length)).map fun i => wordAt 6 (bitsOf bytes) (6 * i))
      = bytes := by
  have hcount : 6 * groups bytes.length / 8 = bytes.length := by
    rw [groups]
    omega
  rw [bytesOf, List.length_map, List.length_range, hcount]
  apply List.ext_getElem
  · simp
  · intro i hi hi'
    rw [List.getElem_map, List.getElem_range]
    apply UInt8.toBitVec_inj.mp
    rw [wordAt_eq_iff]
    intro j hj
    have hi : i < bytes.length := hi'
    have hgroup : (8 * i + j) / 6 < groups bytes.length := by
      rw [groups]
      omega
    have hbit : (8 * i + j) % 6 < 6 := Nat.mod_lt _ (by omega)
    -- the bit is one of its group, and that is one of the bytes
    rw [getD_bitString (by omega), List.getD_eq_getElem _ _ (by simpa using hgroup),
      List.getElem_map, List.getElem_range, getMsbD_wordAt _ _ hbit, Nat.div_add_mod, getD_bitsOf,
      show (8 * i + j) / 8 = i by omega, show (8 * i + j) % 8 = j by omega,
      List.getD_eq_getElem _ _ hi]

theorem mapM_value_characters (values : List (BitVec 6)) :
    (values.map character).mapM value = some values := by
  have hvalue : value ∘ character = (pure <| · : BitVec 6 → Option (BitVec 6)) :=
    funext value_character
  rw [List.mapM_map, hvalue, List.mapM_pure, List.map_id']
  rfl

/-- **Decoding a text** gives the bytes. -/
theorem decode_encode (bytes : List UInt8) : decode (encode bytes) = some bytes := by
  have hlength : (encode bytes).length % 4 = 0 := by
    rw [length_encode]
    omega
  let values := (List.range (groups bytes.length)).map fun i => wordAt 6 (bitsOf bytes) (6 * i)
  let fill := List.replicate ((4 - groups bytes.length % 4) % 4) padding
  have htext : encode bytes = values.map character ++ fill := by
    rw [encode, List.map_map]
    rfl
  have hchars : ∀ c ∈ values.map character, decide (c ≠ padding) = true := by
    intro c hc
    obtain ⟨v, -, rfl⟩ := List.mem_map.mp hc
    exact decide_eq_true (character_ne_padding v)
  have hbody : (encode bytes).takeWhile (· ≠ padding) = values.map character := by
    rw [htext, List.takeWhile_append_of_pos hchars, List.takeWhile_replicate]
    simp
  have hrest : (encode bytes).dropWhile (· ≠ padding) = fill := by
    rw [htext, List.dropWhile_append_of_pos hchars, List.dropWhile_replicate]
    simp [fill]
  have hfill : fill = List.replicate fill.length padding ∧ fill.length < 3 := by
    rw [List.length_replicate, groups]
    exact ⟨rfl, by omega⟩
  rw [decode, hbody, hrest, if_pos ⟨hlength, hfill⟩, mapM_value_characters, Option.map_some,
    bytesOf_groups]

-- `Zm8=` for `fo`, a test of the standard.
example : encode [0x66, 0x6F] = [0x5A, 0x6D, 0x38, 0x3D] := by decide

end FalconGuide.Lib.Base64
