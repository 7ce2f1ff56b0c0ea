import FalconGuide.App.WsDigest

namespace FalconGuide

open Lib

/-!
# The digest is SHA-1

`WsServer::Sha1` against the standard: the padding, the words and the rounds of a block, and the
chain of the blocks.

* `padZeros_eq`, `WsServer.bitsOf_padded` — the padded message;
* `WsServer.words_eq`, `WsServer.block_eq` — one block;
* `WsServer.bitsOf_sha1` — the digest.
-/

/-! ### Padding -/

/-- The loop stops, after the zeros that are missing. -/
theorem padZeros_eq (m : List UInt8) :
    padZeros m = m ++ List.replicate ((120 - m.length % 64) % 64) 0 := by
  induction m using padZeros.induct with
  | case1 m h =>
    rw [padZeros, if_pos h, h]
    exact (List.append_nil m).symm
  | case2 m h ih =>
    rw [padZeros, if_neg h, ih, List.append_assoc, List.singleton_append,
      ← List.replicate_succ, List.length_append, List.length_singleton]
    congr 2
    omega

theorem bitsOf_replicate_zero (n : ℕ) :
    bitsOf (List.replicate n 0) = List.replicate (8 * n) false := by
  induction n with
  | zero => rfl
  | succ n ih =>
    have hbyte : wordBits (0 : UInt8).toBitVec = List.replicate 8 false := by decide
    rw [List.replicate_succ, bitsOf_cons, ih, hbyte, List.replicate_append_replicate]
    congr 1
    omega

namespace WsServer

/-- The eight bytes at the end are those of the bit count. -/
theorem padded_eq (data : List UInt8) : padded data
    = padZeros (data ++ [0x80]) ++ bigEndian 8 (BitVec.ofNat 64 (8 * data.length)) := by
  have hcount : UInt64.ofNat data.length * 8 = ⟨BitVec.ofNat 64 (8 * data.length)⟩ := by
    apply UInt64.toBitVec_inj.mp
    rw [UInt64.toBitVec_mul, Nat.mul_comm, BitVec.ofNat_mul]
    rfl
  rw [padded, hcount]
  simp only [List.foldl_cons, List.foldl_nil, List.append_assoc]
  rfl

/-- **The padded message** is that of the standard. -/
theorem bitsOf_padded (data : List UInt8) : bitsOf (padded data) = Sha1.pad (bitsOf data) := by
  have hlast : bitsOf (bigEndian 8 (BitVec.ofNat 64 (8 * data.length)))
      = wordBits (BitVec.ofNat 64 (8 * data.length)) := bitsOf_bigEndian 8 _
  have hone : bitsOf [0x80] = [true] ++ List.replicate 7 false := by decide
  have hzeros : 7 + 8 * ((120 - (data ++ [0x80]).length % 64) % 64)
      = Sha1.zeros (8 * data.length) := by
    rw [List.length_append, List.length_singleton, Sha1.zeros]
    omega
  rw [padded_eq, padZeros_eq, bitsOf_append, bitsOf_append, bitsOf_append, hlast, hone,
    bitsOf_replicate_zero, Sha1.pad, length_bitsOf, ← hzeros, ← List.replicate_append_replicate]
  simp only [List.append_assoc]

/-- The blocks are full, since those of the standard are. -/
theorem length_padded (data : List UInt8) : (padded data).length % 64 = 0 := by
  have hbits := Sha1.length_pad (bitsOf data)
  rw [← bitsOf_padded, length_bitsOf] at hbits
  omega

/-! ### Words -/

/-- **The words of a block.** -/
theorem toBitVec_loadWord (m : List UInt8) (i j : ℕ) :
    (loadWord m i j).toBitVec = wordAt 32 (bitsOf m) (8 * (i + j * 4)) :=
  (wordAt_bitsOf m (i + j * 4)).symm

/-- The schedule, after some iterations of its loop. -/
theorem words_loop (m : ℕ → Sha1.Word) (w : List UInt32) (hlength : w.length = 16)
    (hw : ∀ t < 16, (w.getD t 0).toBitVec = m t) (n : ℕ) :
    let w := (List.range' 16 n).foldl
      (fun w j => w ++
        [r (w.getD (j - 3) 0 ^^^ w.getD (j - 8) 0 ^^^ w.getD (j - 14) 0 ^^^ w.getD (j - 16) 0) 1]) w
    w.length = 16 + n ∧ ∀ t < 16 + n, (w.getD t 0).toBitVec = Sha1.schedule m t := by
  induction n with
  | zero => exact ⟨hlength, fun t ht => (hw t ht).trans (Sha1.schedule_of_lt ht).symm⟩
  | succ n ih =>
    obtain ⟨hlen, hsched⟩ := ih
    rw [List.range'_concat, List.foldl_append, Nat.one_mul]
    refine ⟨by rw [List.foldl_cons, List.foldl_nil, List.length_append, hlen]; rfl, ?_⟩
    intro t ht
    rw [List.foldl_cons, List.foldl_nil]
    by_cases hold : t < 16 + n
    · rw [List.getD_append _ _ _ _ (hlen ▸ hold)]
      exact hsched t hold
    · obtain rfl : t = 16 + n := by omega
      rw [List.getD_append_right _ _ _ _ hlen.le, hlen, Nat.sub_self, List.getD_cons_zero,
        Sha1.schedule_of_ge (Nat.le_add_right 16 n), ← hsched _ (by omega), ← hsched _ (by omega),
        ← hsched _ (by omega), ← hsched _ (by omega)]
      rfl

theorem toBitVec_words (m : List UInt8) (i : ℕ) {t : ℕ} (ht : t < 80) :
    ((words m i).getD t 0).toBitVec
      = Sha1.schedule (fun t => wordAt 32 (bitsOf m) (8 * (i + t * 4))) t := by
  refine (words_loop _ _ ?_ (fun t ht => ?_) 64).2 t ht
  · rw [List.length_map, List.length_range]
  · rw [List.getD_eq_getElem _ _ (by simpa using ht), List.getElem_map, List.getElem_range]
    exact toBitVec_loadWord m i t

/-! ### Rounds -/

end WsServer

/-- The registers as words of the standard. -/
def Sha1Registers.toSpec (h : Sha1Registers) : Sha1.Registers where
  a := h.a.toBitVec
  b := h.b.toBitVec
  c := h.c.toBitVec
  d := h.d.toBitVec
  e := h.e.toBitVec

namespace WsServer

/-- The terms of a round, in the order of the standard. -/
theorem toBitVec_terms (x f e k w : UInt32) : (x + f + e + k + w).toBitVec
    = x.toBitVec + f.toBitVec + e.toBitVec + w.toBitVec + k.toBitVec := by
  rw [UInt32.add_assoc (x + f + e), UInt32.add_comm k w, ← UInt32.add_assoc]
  rfl

/-- **One round** is a step of the standard. -/
theorem toSpec_round (w : List UInt32) (s : Sha1Registers) (j : ℕ) :
    (round w s j).toSpec = Sha1.step s.toSpec j (w.getD j 0).toBitVec := by
  apply Sha1.Registers.ext
  · by_cases hfirst : j < 20
    · simp only [round, if_pos hfirst, Sha1Registers.toSpec, toBitVec_terms, Sha1.step, Sha1.f,
        Sha1.k]
      rfl
    · by_cases hsecond : j < 40
      · simp only [round, if_neg hfirst, if_pos hsecond, Sha1Registers.toSpec, toBitVec_terms,
          Sha1.step, Sha1.f, Sha1.k]
        rfl
      · by_cases hthird : j < 60
        · simp only [round, if_neg hfirst, if_neg hsecond, if_pos hthird, Sha1Registers.toSpec,
            toBitVec_terms, Sha1.step, Sha1.f, Sha1.k]
          rfl
        · simp only [round, if_neg hfirst, if_neg hsecond, if_neg hthird, Sha1Registers.toSpec,
            toBitVec_terms, Sha1.step, Sha1.f, Sha1.k]
          rfl
  · rfl
  · rfl
  · rfl
  · rfl

/-- Some rounds. -/
theorem toSpec_rounds (w : List UInt32) (m : ℕ → Sha1.Word) (h : Sha1Registers) (n : ℕ)
    (hw : ∀ t < n, (w.getD t 0).toBitVec = Sha1.schedule m t) :
    ((List.range n).foldl (round w) h).toSpec
      = (List.range n).foldl (fun r t => Sha1.step r t (Sha1.schedule m t)) h.toSpec := by
  induction n with
  | zero => rfl
  | succ n ih =>
    rw [List.range_succ, List.foldl_append, List.foldl_append,
      ← ih fun t ht => hw t (by omega), List.foldl_cons, List.foldl_nil, List.foldl_cons,
      List.foldl_nil, ← hw n (by omega)]
    exact toSpec_round w _ n

/-! ### Blocks -/

/-- **One block.** -/
theorem toSpec_block (m : List UInt8) (h : Sha1Registers) (q : ℕ) :
    (block m h (64 * q)).toSpec = Sha1.process h.toSpec (Sha1.block (bitsOf m) q) := by
  have hwords : ∀ t < 80, ((words m (64 * q)).getD t 0).toBitVec
      = Sha1.schedule (Sha1.block (bitsOf m) q) t := by
    intro t ht
    have hplace : (fun t => wordAt 32 (bitsOf m) (8 * (64 * q + t * 4)))
        = Sha1.block (bitsOf m) q := by
      funext t
      rw [Sha1.block]
      congr 1
      omega
    rw [toBitVec_words m (64 * q) ht, hplace]
  have hrounds := toSpec_rounds _ _ h 80 hwords
  rw [Sha1.process, ← hrounds]
  rfl

/-- **The loop over the blocks.** -/
theorem toSpec_blocks (m : List UInt8) (n : ℕ) (q : ℕ) (h : Sha1Registers)
    (hlength : m.length = 64 * (q + n)) :
    (blocks m (64 * q) h).toSpec = (List.range' q n).foldl
      (fun h i => Sha1.process h (Sha1.block (bitsOf m) i)) h.toSpec := by
  induction n generalizing q h with
  | zero =>
    rw [blocks, if_neg (by omega)]
    rfl
  | succ n ih =>
    rw [blocks, if_pos (by omega), List.range'_succ, List.foldl_cons, ← toSpec_block]
    exact ih (q + 1) _ (by omega)

/-! ### The digest -/

/-- What is written for a register. -/
theorem bitsOf_bytes (x : UInt32) :
    bitsOf [(x >>> 24).toUInt8, (x >>> 16).toUInt8, (x >>> 8).toUInt8, x.toUInt8]
      = wordBits x.toBitVec := by
  rw [← bitsOf_bigEndian 4 x.toBitVec]
  congr 1

/-- **`Sha1`** is the digest of the standard. -/
theorem bitsOf_sha1 (data : List UInt8) : bitsOf (sha1 data) = Sha1.digest (bitsOf data) := by
  obtain ⟨n, hn⟩ := Nat.dvd_of_mod_eq_zero (length_padded data)
  let h : Sha1Registers := blocks (padded data) 0
    { a := 0x67452301, b := 0xEFCDAB89, c := 0x98BADCFE, d := 0x10325476, e := 0xC3D2E1F0 }
  have hcount : (Sha1.pad (bitsOf data)).length / 512 = n := by
    rw [← bitsOf_padded, length_bitsOf, hn]
    omega
  have hblocks : h.toSpec = (List.range n).foldl
      (fun h i => Sha1.process h (Sha1.block (Sha1.pad (bitsOf data)) i)) Sha1.initial := by
    rw [← bitsOf_padded, List.range_eq_range']
    exact toSpec_blocks (padded data) n 0 _ (by rw [hn, Nat.zero_add])
  show bitsOf ([h.a, h.b, h.c, h.d, h.e].flatMap _) = _
  simp only [List.flatMap_cons, List.flatMap_nil, bitsOf_append, bitsOf_bytes, List.append_nil]
  simp only [Sha1.digest, hcount, ← hblocks, List.append_assoc]
  rfl

-- The first test of the standard.
example : sha1 (ascii "abc")
    = [0xA9, 0x99, 0x3E, 0x36, 0x47, 0x06, 0x81, 0x6A, 0xBA, 0x3E,
       0x25, 0x71, 0x78, 0x50, 0xC2, 0x6C, 0x9C, 0xD0, 0xD8, 0x9D] := by decide +kernel

end WsServer

/-! ### The copy of the client -/

namespace UiWsClient

theorem getD_drop (msg : List UInt8) (i k : ℕ) : (msg.drop i).getD k 0 = msg.getD (i + k) 0 := by
  rw [List.getD_eq_getElem?_getD, List.getD_eq_getElem?_getD, List.getElem?_drop]

/-- A pointer into the message is as good as an index. -/
theorem process_drop (msg : List UInt8) (h : Sha1Registers) (i : ℕ) :
    process h (msg.drop i) = WsServer.block msg h i := by
  have hwords : processWords (msg.drop i) = WsServer.words msg i := by
    simp only [processWords, getD_drop]
    rfl
  rw [process, hwords]
  rfl

theorem processBlocks_eq (msg : List UInt8) (i : ℕ) (h : Sha1Registers) :
    processBlocks msg i h = WsServer.blocks msg i h := by
  induction i, h using WsServer.blocks.induct msg with
  | case1 i h hi ih =>
    rw [processBlocks, WsServer.blocks, if_pos hi, if_pos hi, process_drop]
    exact ih
  | case2 i h hi => rw [processBlocks, WsServer.blocks, if_neg hi, if_neg hi]

/-- **The copies agree.** -/
theorem sha1_eq (data : List UInt8) : sha1 data = WsServer.sha1 data := by
  rw [sha1, processBlocks_eq]
  rfl

end UiWsClient

end FalconGuide
