import FalconGuide.App.WsFrames
import FalconGuide.App.WsSha1
import FalconGuide.Lib.Base64

namespace FalconGuide

open Lib

/-!
# The text of the digest is Base 64

* `WsServer.base64_eq`, `UiWsClient.base64_eq` — both copies of `Base64` encode as the standard
  does;
* `HandshakeDigests` — what is asked of `Sha1` and `Base64`;
* `handshakeDigests` — the main result.
-/

namespace WsServer

/-! ### A quantum -/

/-- The 24 bits of a quantum, with zeros behind the end. -/
def triple (d : List UInt8) (i : ℕ) : UInt32 :=
  (d.getD i 0).toUInt32 <<< 16 ||| (d.getD (i + 1) 0).toUInt32 <<< 8 ||| (d.getD (i + 2) 0).toUInt32

theorem quantum_eq (d : List UInt8) (i : ℕ) : quantum d i
    = [t.getD ((triple d i >>> 18) &&& 63).toNat 0,
        t.getD ((triple d i >>> 12) &&& 63).toNat 0,
        if i + 1 < d.length then t.getD ((triple d i >>> 6) &&& 63).toNat 0 else 0x3D,
        if i + 2 < d.length then t.getD (triple d i &&& 63).toNat 0 else 0x3D] := by
  have hend : ∀ k, ¬ k < d.length → (d.getD k 0).toUInt32 = 0 := by
    intro k hk
    rw [List.getD_eq_default _ _ (not_lt.mp hk)]
    rfl
  have hor : ∀ x : UInt32, x ||| (0 : UInt32) <<< 8 = x ∧ x ||| 0 = x :=
    fun x => ⟨UInt32.or_zero, UInt32.or_zero⟩
  by_cases hsecond : i + 1 < d.length
  · by_cases hthird : i + 2 < d.length
    · simp only [quantum, triple, if_pos hsecond, if_pos hthird]
    · simp only [quantum, triple, if_pos hsecond, if_neg hthird, hend _ hthird, hor]
  · have hthird : ¬ i + 2 < d.length := by omega
    simp only [quantum, triple, if_neg hsecond, if_neg hthird, hend _ hsecond, hend _ hthird, hor]

/-- The alphabet of the source. -/
theorem getD_t (x : UInt32) :
    t.getD (x &&& 63).toNat 0 = Base64.character (x.toBitVec.setWidth 6) := by
  have htable : ∀ v : BitVec 6, t.getD v.toNat 0 = Base64.character v := by decide
  have hlow : (x &&& 63).toNat = (x.toBitVec.setWidth 6).toNat := by
    rw [UInt32.toNat_and, BitVec.toNat_setWidth]
    exact Nat.and_two_pow_sub_one_eq_mod _ 6
  rw [hlow, htable]

/-- The bits of the bytes are those of the quanta. -/
theorem getMsbD_triple (d : List UInt8) (i : ℕ) {j : ℕ} (hj : j < 24) :
    (triple d i).toBitVec.getMsbD (8 + j) = (bitsOf d).getD (8 * i + j) false := by
  have hword : wordAt 32 (bitsOf (0 :: d.drop i)) (8 * 0) = (triple d i).toBitVec := by
    have hfirst : (0 : UInt8).toUInt32 <<< 24 = 0 := rfl
    rw [wordAt_bitsOf, triple]
    simp only [List.getD_cons_zero, List.getD_cons_succ, UiWsClient.getD_drop, Nat.add_zero,
      hfirst, UInt32.zero_or]
  rw [← hword, getMsbD_wordAt _ _ (by omega), getD_bitsOf, getD_bitsOf,
    show (8 * 0 + (8 + j)) / 8 = j / 8 + 1 by omega, show (8 * 0 + (8 + j)) % 8 = j % 8 by omega,
    List.getD_cons_succ, UiWsClient.getD_drop, show (8 * i + j) / 8 = i + j / 8 by omega,
    show (8 * i + j) % 8 = j % 8 by omega]

theorem setWidth_triple (d : List UInt8) (i : ℕ) {s : ℕ} (hs : s ≤ 18) :
    ((triple d i).toBitVec >>> s).setWidth 6 = wordAt 6 (bitsOf d) (8 * i + (18 - s)) := by
  symm
  rw [wordAt_eq_iff]
  intro j hj
  rw [Nat.add_assoc, ← getMsbD_triple d i (by omega)]
  have hplace : s + (6 - 1 - j) = 32 - 1 - (8 + (18 - s + j)) := by omega
  have hlow : 6 - 1 - j < 6 := by omega
  have hhigh : 8 + (18 - s + j) < 32 := by omega
  simp only [BitVec.getMsbD_eq_getLsbD, BitVec.getLsbD_setWidth, BitVec.getLsbD_ushiftRight,
    hplace, hj, hlow, hhigh, decide_true, Bool.true_and]

/-- **A quantum** has the characters of four groups, those behind the end replaced by padding. -/
theorem quantum_getD (d : List UInt8) {g : ℕ} (hg : 3 * g < d.length) {k : ℕ} (hk : k < 4) :
    (quantum d (3 * g)).getD k 0 = if 4 * g + k < Base64.groups d.length then
      Base64.character (wordAt 6 (bitsOf d) (6 * (4 * g + k))) else Base64.padding := by
  have hgroup : ∀ s : ℕ, s ≤ 18 → ∀ x : UInt32, x.toBitVec = (triple d (3 * g)).toBitVec >>> s →
      t.getD (x &&& 63).toNat 0
        = Base64.character (wordAt 6 (bitsOf d) (8 * (3 * g) + (18 - s))) := by
    intro s hs x hx
    rw [getD_t, hx, setWidth_triple d _ hs]
  have hbit : ∀ k s, s + 6 * k = 18 → 8 * (3 * g) + (18 - s) = 6 * (4 * g + k) := by
    intro k s h
    omega
  rw [quantum_eq, Base64.groups]
  have hcases : k = 0 ∨ k = 1 ∨ k = 2 ∨ k = 3 := by omega
  rcases hcases with rfl | rfl | rfl | rfl
  · show t.getD (triple d (3 * g) >>> 18 &&& 63).toNat 0 = _
    rw [if_pos (by omega), ← hbit 0 18 rfl]
    exact hgroup 18 le_rfl _ rfl
  · show t.getD (triple d (3 * g) >>> 12 &&& 63).toNat 0 = _
    rw [if_pos (by omega), ← hbit 1 12 rfl]
    exact hgroup 12 (by omega) _ rfl
  · show (if 3 * g + 1 < d.length then _ else _) = _
    by_cases hend : 3 * g + 1 < d.length
    · rw [if_pos hend, if_pos (by omega), ← hbit 2 6 rfl]
      exact hgroup 6 (by omega) _ rfl
    · rw [if_neg hend, if_neg (by omega)]
      rfl
  · show (if 3 * g + 2 < d.length then _ else _) = _
    by_cases hend : 3 * g + 2 < d.length
    · rw [if_pos hend, if_pos (by omega), ← hbit 3 0 rfl]
      exact hgroup 0 (by omega) _ rfl
    · rw [if_neg hend, if_neg (by omega)]
      rfl

/-! ### The text -/

/-- The loop appends the quanta that are left. -/
theorem quanta_eq (d : List UInt8) (n g : ℕ) (o : List UInt8)
    (hlength : g + n = (d.length + 2) / 3) :
    quanta d (3 * g) o = o ++ (List.range' g n).flatMap fun g => quantum d (3 * g) := by
  induction n generalizing g o with
  | zero =>
    rw [quanta, if_neg (by omega)]
    exact (List.append_nil o).symm
  | succ n ih =>
    rw [quanta, if_pos (by omega), List.range'_succ, List.flatMap_cons, ← List.append_assoc]
    exact ih (g + 1) _ (by omega)

/-- **`Base64`** is the encoding of the standard. -/
theorem base64_eq (d : List UInt8) : base64 d = Base64.encode d := by
  have hquanta : base64 d
      = (List.range ((d.length + 2) / 3)).flatMap fun g => quantum d (3 * g) := by
    rw [List.range_eq_range']
    exact quanta_eq d _ 0 [] (Nat.zero_add _)
  have hfour : ∀ g, (quantum d (3 * g)).length = 4 := fun g => rfl
  have hlength : (base64 d).length = 4 * ((d.length + 2) / 3) := by
    rw [hquanta, List.length_flatMap, List.map_congr_left fun g _ => hfour g]
    simp [Nat.mul_comm]
  apply List.ext_getElem
  · rw [hlength, Base64.length_encode]
  · intro i hi hi'
    have hg : i / 4 < (d.length + 2) / 3 := by omega
    rw [Base64.getElem_encode, ← List.getD_eq_getElem _ 0 hi, hquanta,
      getD_flatMap (by omega) hfour, List.getElem?_range hg]
    show (quantum d (3 * (i / 4))).getD (i % 4) 0 = _
    rw [quantum_getD d (by omega) (Nat.mod_lt i (by omega)), Nat.div_add_mod]

end WsServer

/-! ### The copy of the client -/

namespace UiWsClient

theorem base64Loop_eq (data : List UInt8) (i : ℕ) (out : List UInt8) :
    base64Loop data i out = WsServer.quanta data i out := by
  induction i, out using WsServer.quanta.induct data with
  | case1 i out hi ih =>
    rw [base64Loop, WsServer.quanta, if_pos hi, if_pos hi, ← ih]
    simp only [List.append_assoc]
    rfl
  | case2 i out hi => rw [base64Loop, WsServer.quanta, if_neg hi, if_neg hi]

theorem base64_eq (data : List UInt8) : base64 data = WsServer.base64 data :=
  base64Loop_eq data 0 []

end UiWsClient

/-! ### The bit count -/

/-- A byte of a number below `2 ^ 64`. -/
theorem byte_of_bitCount {x : ℕ} (h : x < 2 ^ 64) (k : ℕ) :
    (⟨(BitVec.ofNat 64 x >>> (8 * k)).setWidth 8⟩ : UInt8) = UInt8.ofNat (x / 256 ^ k) := by
  apply UInt8.toBitVec_inj.mp
  apply BitVec.eq_of_toNat_eq
  show ((BitVec.ofNat 64 x >>> (8 * k)).setWidth 8).toNat = (UInt8.ofNat (x / 256 ^ k)).toNat
  rw [BitVec.toNat_setWidth, BitVec.toNat_ushiftRight, BitVec.toNat_ofNat, Nat.mod_eq_of_lt h,
    Nat.shiftRight_eq_div_pow, Nat.pow_mul, UInt8.toNat_ofNat']

theorem bigEndian_eq_toBigEndian {x : ℕ} (h : x < 2 ^ 64) :
    bigEndian 8 (BitVec.ofNat 64 x) = toBigEndian 8 x := by
  simp only [toBigEndian, ← byte_of_bitCount h]
  rfl

/-- **A padded message:** whole blocks, the last of which ends with the number of bits. -/
def PaddedTo (data m : List UInt8) : Prop :=
  m.length % 64 = 0 ∧ fromBigEndian (m.drop (m.length - 8)) = 8 * data.length

theorem WsServer.paddedTo {data : List UInt8} (h : data.length < 2 ^ 61) :
    PaddedTo data (padded data) := by
  refine ⟨length_padded data, ?_⟩
  have hcount : 8 * data.length < 2 ^ 64 := by omega
  rw [padded_eq, List.length_append, length_bigEndian, Nat.add_sub_cancel, List.drop_left,
    bigEndian_eq_toBigEndian hcount]
  exact fromBigEndian_toBigEndian hcount

/-! ### The handshake -/

/-- **What is asked of `Sha1` and `Base64`,** in both copies. -/
structure HandshakeDigests (data : List UInt8) : Prop where
  server : bitsOf (WsServer.sha1 data) = Sha1.digest (bitsOf data)
  client : bitsOf (UiWsClient.sha1 data) = Sha1.digest (bitsOf data)
  padded : PaddedTo data (WsServer.padded data)
  paddedMsg : PaddedTo data (UiWsClient.paddedMsg data)
  serverText : WsServer.base64 data = Base64.encode data
  clientText : UiWsClient.base64 data = Base64.encode data
  length_text : (WsServer.base64 data).length = 4 * ((data.length + 2) / 3)
  decode_text : Base64.decode (WsServer.base64 data) = some data
  same_digest : UiWsClient.sha1 data = WsServer.sha1 data
  same_text : UiWsClient.base64 data = WsServer.base64 data

/-- **Both copies are right** for every message whose bits can be counted. -/
theorem handshakeDigests {data : List UInt8} (h : data.length < 2 ^ 61) :
    HandshakeDigests data where
  server := WsServer.bitsOf_sha1 data
  client := by rw [UiWsClient.sha1_eq, WsServer.bitsOf_sha1]
  padded := WsServer.paddedTo h
  paddedMsg := WsServer.paddedTo h
  serverText := WsServer.base64_eq data
  clientText := by rw [UiWsClient.base64_eq, WsServer.base64_eq]
  length_text := by rw [WsServer.base64_eq, Base64.length_encode]
  decode_text := by rw [WsServer.base64_eq, Base64.decode_encode]
  same_digest := UiWsClient.sha1_eq data
  same_text := UiWsClient.base64_eq data

/-- Three letters. -/
theorem handshakeDigests_abc : HandshakeDigests (ascii "abc") := handshakeDigests (by decide)

end FalconGuide
