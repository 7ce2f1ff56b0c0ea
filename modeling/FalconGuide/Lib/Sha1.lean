import FalconGuide.Lib.BitStrings
import Mathlib.Tactic.Ring

namespace FalconGuide.Lib.Sha1

/-!
# The Secure Hash Algorithm 1

RFC 3174, on bit strings: the message is padded to blocks of 512 bits, which are processed one after
the other.

* `f`, `k`, `schedule` — the functions, the constants and the words of the eighty steps;
* `process` — one block;
* `pad`, `digest` — the padded message, and its digest of 160 bits.
-/

abbrev Word := BitVec 32

/-- `f(t;B,C,D)`. -/
def f (t : ℕ) (b c d : Word) : Word :=
  if t < 20 then (b &&& c) ||| (~~~b &&& d)
  else if t < 40 then b ^^^ c ^^^ d
  else if t < 60 then (b &&& c) ||| (b &&& d) ||| (c &&& d)
  else b ^^^ c ^^^ d

/-- `K(t)`. -/
def k (t : ℕ) : Word :=
  if t < 20 then 0x5A827999
  else if t < 40 then 0x6ED9EBA1
  else if t < 60 then 0x8F1BBCDC
  else 0xCA62C1D6

/-- `W(t)`, of a block whose words are `m`. -/
def schedule (m : ℕ → Word) (t : ℕ) : Word :=
  if t < 16 then m t
  else (schedule m (t - 3) ^^^ schedule m (t - 8) ^^^ schedule m (t - 14)
    ^^^ schedule m (t - 16)).rotateLeft 1

/-- `A`, `B`, `C`, `D`, `E`, or `H0`, …, `H4`. -/
@[ext] structure Registers where
  a : Word
  b : Word
  c : Word
  d : Word
  e : Word

/-- `H0`, …, `H4` at the start. -/
def initial : Registers where
  a := 0x67452301
  b := 0xEFCDAB89
  c := 0x98BADCFE
  d := 0x10325476
  e := 0xC3D2E1F0

/-- Step `t` with the word `W(t)`. -/
def step (r : Registers) (t : ℕ) (w : Word) : Registers where
  a := r.a.rotateLeft 5 + f t r.b r.c r.d + r.e + w + k t
  b := r.a
  c := r.b.rotateLeft 30
  d := r.c
  e := r.d

/-- A block with the words `m`. -/
def process (h : Registers) (m : ℕ → Word) : Registers :=
  let r := (List.range 80).foldl (fun r t => step r t (schedule m t)) h
  { a := h.a + r.a, b := h.b + r.b, c := h.c + r.c, d := h.d + r.d, e := h.e + r.e }

/-- The zeros in the padding of a message of `l` bits: they leave 64 bits of the last block. -/
def zeros (l : ℕ) : ℕ := (959 - l % 512) % 512

/-- The padded message: a one, zeros, and the length in 64 bits. -/
def pad (message : List Bool) : List Bool :=
  message ++ [true] ++ List.replicate (zeros message.length) false
    ++ wordBits (BitVec.ofNat 64 message.length)

/-- The words of a block. -/
def block (padded : List Bool) (i t : ℕ) : Word := wordAt 32 padded (512 * i + 32 * t)

/-- The message digest. -/
def digest (message : List Bool) : List Bool :=
  let padded := pad message
  let h := (List.range (padded.length / 512)).foldl (fun h i => process h (block padded i)) initial
  wordBits h.a ++ wordBits h.b ++ wordBits h.c ++ wordBits h.d ++ wordBits h.e

/-! ### Lengths -/

/-- **The blocks are full.** -/
theorem length_pad (message : List Bool) : (pad message).length % 512 = 0 := by
  simp only [pad, zeros, List.length_append, List.length_replicate, List.length_singleton,
    length_wordBits]
  omega

/-! ### Words of the steps -/

theorem schedule_of_lt {m : ℕ → Word} {t : ℕ} (h : t < 16) : schedule m t = m t := by
  rw [schedule, if_pos h]

theorem schedule_of_ge {m : ℕ → Word} {t : ℕ} (h : 16 ≤ t) : schedule m t
    = (schedule m (t - 3) ^^^ schedule m (t - 8) ^^^ schedule m (t - 14)
      ^^^ schedule m (t - 16)).rotateLeft 1 := by
  rw [schedule, if_neg h.not_gt]

end FalconGuide.Lib.Sha1
