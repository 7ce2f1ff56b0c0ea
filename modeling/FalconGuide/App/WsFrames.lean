import FalconGuide.Lib.StreamParser
import Mathlib.Tactic.Ring

namespace FalconGuide

open Lib

/-!
# WebSocket frames

`WsServer::RecvFrame` on the buffer of a client, and the frames a client sends.

* `WsClient` — a client of the server;
* `frameHeader`, `recvFrame` — the header at the front of a buffer, and `RecvFrame`;
* `WsFrame.encode` — a frame as the bytes that are sent for it;
* `recvFrame_encode`, `recvFrame_incomplete` — `RecvFrame` at a complete frame, and at a part of
  one.
-/

/-- `Client`, without its descriptor.  `handled` and `discarded` are history. -/
structure WsClient where
  buf : List UInt8 := []
  upgraded : Bool := false
  dead : Bool := false
  /-- The payloads passed to the command handler. -/
  handled : List (List UInt8) := []
  /-- What the buffer held behind the handshake when `DoUpgrade` cleared it. -/
  discarded : List UInt8 := []

/-! ### Receiving -/

/-- An unsigned integer in network byte order. -/
def fromBigEndian (bytes : List UInt8) : ℕ := bytes.foldl (fun n b => n <<< 8 ||| b.toNat) 0

/-- What the first bytes of a frame say. -/
structure FrameHeader where
  opcode : UInt8
  masked : Bool
  /-- The number of bytes of the extended payload length. -/
  ext : ℕ
  plen : ℕ

/-- `hdr`, the number of bytes before the payload. -/
def FrameHeader.hdr (h : FrameHeader) : ℕ := 2 + h.ext + if h.masked then 4 else 0

/-- The size of the extended payload length. -/
def extSize (len7 : ℕ) : ℕ := if len7 = 126 then 2 else if len7 = 127 then 8 else 0

/-- The header at the front of a buffer that holds the payload length. -/
def frameHeader : List UInt8 → Option FrameHeader
  | b0 :: b1 :: rest =>
    let len7 := (b1 &&& 0x7F).toNat
    if rest.length < extSize len7 then none
    else some {
      opcode := b0 &&& 0x0F
      masked := b1 &&& 0x80 ≠ 0
      ext := extSize len7
      plen := if extSize len7 = 0 then len7 else fromBigEndian (rest.take (extSize len7)) }
  | _ => none

/-- The payload, unmasked when the frame is masked. -/
def framePayload (h : FrameHeader) (buf : List UInt8) : List UInt8 :=
  let maskPos := 2 + h.ext
  ((buf.drop h.hdr).take h.plen).mapIdx fun i byte =>
    if h.masked then byte ^^^ buf.getD (maskPos + i % 4) 0 else byte

/-- `RecvFrame`: the client after it, and the payload when it returned true; `none` when the
    payload length is one that `resize` throws at.  Sums of lengths are of 64 bits. -/
def recvFrame (c : WsClient) : Option (WsClient × Option (List UInt8)) :=
  match frameHeader c.buf with
  | none => some (c, none)
  | some h =>
    let size := (h.hdr + h.plen) % 2 ^ 64
    if c.buf.length < size then some (c, none)
    else if h.opcode = 0x8 then some ({ c with buf := c.buf.drop size, dead := true }, none)
    else if 2 ^ 64 ≤ h.hdr + h.plen then none
    else some ({ c with buf := c.buf.drop size },
      if h.opcode = 0x1 then some (framePayload h c.buf) else none)

/-- A header stays what it is when more bytes arrive. -/
theorem frameHeader_append {xs : List UInt8} {h : FrameHeader} (hxs : frameHeader xs = some h)
    (ys : List UInt8) : frameHeader (xs ++ ys) = some h := by
  match xs with
  | [] => cases hxs
  | [_] => cases hxs
  | b0 :: b1 :: rest =>
    simp only [frameHeader] at hxs
    split at hxs
    · cases hxs
    · rename_i hlen
      -- the length bytes were all there before
      have hle : extSize (b1 &&& 0x7F).toNat ≤ rest.length := Nat.le_of_not_lt hlen
      have hlen' : ¬ (rest ++ ys).length < extSize (b1 &&& 0x7F).toNat := by
        rw [List.length_append]
        omega
      rw [List.cons_append, List.cons_append, frameHeader, if_neg hlen',
        List.take_append_of_le_length hle]
      exact hxs

/-- A header, and what `RecvFrame` takes off the buffer, are not empty. -/
theorem two_le_hdr (h : FrameHeader) : 2 ≤ h.hdr := by
  unfold FrameHeader.hdr
  omega

/-- When `RecvFrame` returns true, the buffer is shorter than before. -/
theorem recvFrame_shorter {c c' : WsClient} {payload : List UInt8}
    (h : recvFrame c = some (c', some payload)) : c'.buf.length < c.buf.length := by
  unfold recvFrame at h
  split at h
  · cases h
  · rename_i hd hhd
    have hnonempty : c.buf ≠ [] := by
      intro hnil
      rw [hnil] at hhd
      cases hhd
    have htwo := two_le_hdr hd
    have hpos := List.length_pos_iff.mpr hnonempty
    -- only the last branch returns true
    simp only at h
    split at h
    · cases h
    · split at h
      · cases h
      · split at h
        · cases h
        · rename_i hsize hclose hlen
          have hmod := Nat.mod_eq_of_lt (Nat.lt_of_not_le hlen)
          simp only [Option.some.injEq, Prod.mk.injEq] at h
          rw [← h.1, List.length_drop, hmod]
          omega

/-! ### Sending -/

/-- A number in network byte order, in `k` bytes. -/
def toBigEndian : ℕ → ℕ → List UInt8
  | 0, _ => []
  | k + 1, n => UInt8.ofNat (n / 256 ^ k) :: toBigEndian k n

/-- A frame of a client. -/
structure WsFrame where
  /-- `FIN`, the reserved bits and the opcode. -/
  head : UInt8
  mask : Option (Fin 4 → UInt8)
  payload : List UInt8

namespace WsFrame

/-- The opcode. -/
def opcode (f : WsFrame) : UInt8 := f.head &&& 0x0F

/-- A text frame. -/
def isText (f : WsFrame) : Bool := f.opcode = 0x1

/-- Text, binary, ping or pong, of a length that the protocol allows. -/
structure WellFormed (f : WsFrame) : Prop where
  opcode : f.opcode = 0x1 ∨ f.opcode = 0x2 ∨ f.opcode = 0x9 ∨ f.opcode = 0xA
  length : f.payload.length < 2 ^ 63

/-- The payload length, with the bit that says that the frame is masked. -/
def lengthBytes (f : WsFrame) : List UInt8 :=
  let bit : UInt8 := if f.mask.isSome then 0x80 else 0
  let n := f.payload.length
  if n < 126 then [bit ||| UInt8.ofNat n]
  else if n < 65536 then (bit ||| 126) :: toBigEndian 2 n
  else (bit ||| 127) :: toBigEndian 8 n

/-- The masking key. -/
def keyBytes (f : WsFrame) : List UInt8 := (f.mask.map List.ofFn).getD []

/-- The payload as it is sent. -/
def data (f : WsFrame) : List UInt8 :=
  match f.mask with
  | none => f.payload
  | some key => f.payload.mapIdx fun i byte => byte ^^^ key ⟨i % 4, by omega⟩

/-- The bytes that are sent for a frame. -/
def encode (f : WsFrame) : List UInt8 := f.head :: (f.lengthBytes ++ f.keyBytes ++ f.data)

end WsFrame

/-! ### Network byte order -/

theorem foldl_toBigEndian (k n acc : ℕ) :
    (toBigEndian k n).foldl (fun n b => n <<< 8 ||| b.toNat) acc
      = acc * 256 ^ k + n % 256 ^ k := by
  induction k generalizing acc with
  | zero => simp [toBigEndian, Nat.mod_one]
  | succ k ih =>
    have hbyte : (UInt8.ofNat (n / 256 ^ k)).toNat = n / 256 ^ k % 256 := UInt8.toNat_ofNat'
    have hor : acc <<< 8 ||| (n / 256 ^ k % 256) = acc * 256 + n / 256 ^ k % 256 := by
      rw [← Nat.shiftLeft_add_eq_or_of_lt (Nat.mod_lt _ (by decide)), Nat.shiftLeft_eq]
    rw [toBigEndian, List.foldl_cons, hbyte, hor, ih, Nat.pow_succ, Nat.mod_mul]
    ring

/-- Reading back what was written. -/
theorem fromBigEndian_toBigEndian {k n : ℕ} (h : n < 256 ^ k) :
    fromBigEndian (toBigEndian k n) = n := by
  rw [fromBigEndian, foldl_toBigEndian, Nat.mod_eq_of_lt h]
  omega

@[simp] theorem length_toBigEndian (k n : ℕ) : (toBigEndian k n).length = k := by
  induction k with
  | zero => rfl
  | succ k ih => rw [toBigEndian, List.length_cons, ih]

/-! ### What `RecvFrame` makes of a frame -/

namespace WsFrame

variable {f : WsFrame}

/-- The header of a frame. -/
def header (f : WsFrame) : FrameHeader where
  opcode := f.opcode
  masked := f.mask.isSome
  ext := f.lengthBytes.length - 1
  plen := f.payload.length

/-- The length byte of a short frame, and the marks of the longer ones. -/
theorem lengthByte (masked : Bool) (n : ℕ) (hn : n < 128) :
    (((if masked then 0x80 else 0 : UInt8) ||| UInt8.ofNat n) &&& 0x7F).toNat = n ∧
      (((if masked then 0x80 else 0 : UInt8) ||| UInt8.ofNat n) &&& 0x80 ≠ 0 ↔ masked = true) := by
  revert masked
  have hall : ∀ n : Fin 128, ∀ masked : Bool,
      (((if masked then 0x80 else 0 : UInt8) ||| UInt8.ofNat n) &&& 0x7F).toNat = n ∧
      (((if masked then 0x80 else 0 : UInt8) ||| UInt8.ofNat n) &&& 0x80 ≠ 0 ↔ masked = true) := by
    decide
  exact hall ⟨n, hn⟩

/-- The header of a buffer whose second byte is the length byte of `len7`. -/
theorem frameHeader_cons (head : UInt8) (masked : Bool) (len7 : ℕ) (hlen : len7 < 128)
    (ext : List UInt8) (hext : ext.length = extSize len7) (rest : List UInt8) :
    frameHeader (head :: ((if masked then 0x80 else 0) ||| UInt8.ofNat len7) :: (ext ++ rest))
      = some {
          opcode := head &&& 0x0F
          masked := masked
          ext := extSize len7
          plen := if extSize len7 = 0 then len7 else fromBigEndian ext } := by
  obtain ⟨hlow, hhigh⟩ := lengthByte masked len7 hlen
  have hle : ¬ (ext ++ rest).length < extSize len7 := by
    rw [List.length_append]
    omega
  rw [frameHeader, hlow, if_neg hle, ← hext, List.take_left]
  cases masked <;> simp_all

/-- **The header** at the front of an encoded frame is the header of the frame. -/
theorem frameHeader_encode (hf : f.WellFormed) : frameHeader f.encode = some f.header := by
  have hlen := hf.length
  rw [encode, header, lengthBytes]
  -- the payload length takes seven bits, two bytes or eight bytes
  by_cases h126 : f.payload.length < 126
  · have hext : extSize f.payload.length = 0 := by
      unfold extSize
      rw [if_neg (by omega), if_neg (by omega)]
    have hcons := frameHeader_cons f.head f.mask.isSome f.payload.length (by omega)
      [] hext.symm (f.keyBytes ++ f.data)
    rw [hext] at hcons
    simpa [h126, opcode] using hcons
  · by_cases h65536 : f.payload.length < 65536
    · have hcons := frameHeader_cons f.head f.mask.isSome 126 (by omega)
        (toBigEndian 2 f.payload.length) (length_toBigEndian _ _) (f.keyBytes ++ f.data)
      rw [fromBigEndian_toBigEndian (by omega)] at hcons
      simpa [h126, h65536, extSize, opcode] using hcons
    · have hcons := frameHeader_cons f.head f.mask.isSome 127 (by omega)
        (toBigEndian 8 f.payload.length) (length_toBigEndian _ _) (f.keyBytes ++ f.data)
      rw [fromBigEndian_toBigEndian (by omega)] at hcons
      simpa [h126, h65536, extSize, opcode] using hcons

@[simp] theorem length_keyBytes : f.keyBytes.length = if f.header.masked then 4 else 0 := by
  show _ = if f.mask.isSome then 4 else 0
  unfold keyBytes
  cases f.mask <;> rfl

@[simp] theorem length_data : f.data.length = f.payload.length := by
  unfold data
  split
  · rfl
  · rw [List.length_mapIdx]

/-- There is at least one length byte, and at most nine. -/
theorem length_lengthBytes : 1 ≤ f.lengthBytes.length ∧ f.lengthBytes.length ≤ 9 := by
  unfold lengthBytes
  by_cases h126 : f.payload.length < 126
  · simp [h126]
  · by_cases h65536 : f.payload.length < 65536
    · simp [h126, h65536]
    · simp [h126, h65536]

/-- The header says how long the frame is. -/
theorem length_encode : f.encode.length = f.header.hdr + f.header.plen := by
  have hpos : 1 ≤ f.lengthBytes.length := length_lengthBytes.1
  have hext : f.header.ext = f.lengthBytes.length - 1 := rfl
  have hplen : f.header.plen = f.payload.length := rfl
  simp only [encode, FrameHeader.hdr, List.length_cons, List.length_append, length_keyBytes,
    length_data]
  omega

/-- A frame is shorter than the sums of 64 bits reach. -/
theorem length_encode_lt (hf : f.WellFormed) : f.encode.length < 2 ^ 64 := by
  have hlen := hf.length
  have hbytes : f.lengthBytes.length ≤ 9 := length_lengthBytes.2
  have hkey : f.keyBytes.length ≤ 4 := by
    rw [length_keyBytes]
    split <;> omega
  simp only [encode, List.length_cons, List.length_append, length_data]
  omega

/-- Masking twice with one key gives the payload back. -/
theorem framePayload_encode (rest : List UInt8) :
    framePayload f.header (f.encode ++ rest) = f.payload := by
  have hpos : 1 ≤ f.lengthBytes.length := length_lengthBytes.1
  -- the header comes first, then the key, then the data
  have hparts : f.encode ++ rest
      = (f.head :: f.lengthBytes) ++ (f.keyBytes ++ (f.data ++ rest)) := by
    simp [encode]
  have hdrop : (f.encode ++ rest).drop f.header.hdr = f.data ++ rest := by
    have hlen : f.header.hdr = ((f.head :: f.lengthBytes) ++ f.keyBytes).length := by
      have hext : f.header.ext = f.lengthBytes.length - 1 := rfl
      simp only [FrameHeader.hdr, List.length_append, List.length_cons, length_keyBytes]
      omega
    rw [hparts, ← List.append_assoc, hlen, List.drop_left]
  have htake : (f.data ++ rest).take f.header.plen = f.data := by
    rw [header, ← length_data, List.take_left]
  rw [framePayload, hdrop, htake]
  cases hmask : f.mask with
  | none =>
    apply List.ext_getElem
    · simp [data, hmask]
    · simp [header, data, hmask]
  | some key =>
    have hpre : (f.head :: f.lengthBytes).length = 2 + f.header.ext := by
      simp only [header, List.length_cons]
      omega
    have hkeys : f.keyBytes = List.ofFn key := by
      simp [keyBytes, hmask]
    -- the key is read right behind the length bytes
    have hkey : ∀ i, (f.encode ++ rest).getD (2 + f.header.ext + i % 4) 0
        = key ⟨i % 4, by omega⟩ := by
      intro i
      have hlt : i % 4 < (List.ofFn key).length := by
        rw [List.length_ofFn]
        omega
      rw [hparts, ← hpre, List.getD_eq_getElem?_getD,
        List.getElem?_append_right (Nat.le_add_right _ _), Nat.add_sub_cancel_left, hkeys,
        List.getElem?_append_left hlt, List.getElem?_eq_getElem hlt, List.getElem_ofFn]
      rfl
    have hmasked : f.header.masked = true := by
      simp [header, hmask]
    apply List.ext_getElem
    · simp
    · intro i _ _
      simp only [List.getElem_mapIdx, hmasked, hkey]
      simp only [data, hmask, List.getElem_mapIdx, if_true]
      rw [UInt8.xor_assoc, UInt8.xor_self, UInt8.xor_zero]

/-- **A complete frame** is taken off the buffer, and its payload returned if it is text. -/
theorem recvFrame_encode (hf : f.WellFormed) (c : WsClient) (rest : List UInt8) :
    recvFrame { c with buf := f.encode ++ rest }
      = some ({ c with buf := rest }, if f.isText then some f.payload else none) := by
  have hheader := frameHeader_append (frameHeader_encode hf) rest
  -- the size of a frame that is well formed does not wrap around
  have hsize : (f.header.hdr + f.header.plen) % 2 ^ 64 = f.encode.length := by
    rw [← length_encode, Nat.mod_eq_of_lt (length_encode_lt hf)]
  have hopcode : f.header.opcode ≠ 0x8 := by
    show f.opcode ≠ 0x8
    rcases hf.opcode with h | h | h | h <;> rw [h] <;> decide
  have hlt := length_encode_lt hf
  rw [recvFrame, hheader]
  simp only [hsize]
  rw [if_neg (by rw [List.length_append]; omega), if_neg hopcode,
    if_neg (by rw [← length_encode]; omega), List.drop_left, framePayload_encode]
  by_cases htext : f.opcode = 0x1
  · simp [isText, header, htext]
  · simp [isText, header, htext]

/-- **A part of a frame** is left in the buffer. -/
theorem recvFrame_incomplete (hf : f.WellFormed) (c : WsClient) {xs more : List UInt8}
    (hxs : xs ++ more = f.encode) (hmore : more ≠ []) :
    recvFrame { c with buf := xs } = some ({ c with buf := xs }, none) := by
  rw [recvFrame]
  cases hheader : frameHeader xs with
  | none => rfl
  | some h =>
    -- the header of the part is that of the frame
    have hsame := frameHeader_append hheader more
    rw [hxs, frameHeader_encode hf] at hsame
    cases hsame
    have hsize : (f.header.hdr + f.header.plen) % 2 ^ 64 = f.encode.length := by
      rw [← length_encode, Nat.mod_eq_of_lt (length_encode_lt hf)]
    have hshort : xs.length < f.encode.length := by
      have hpos := List.length_pos_iff.mpr hmore
      rw [← hxs, List.length_append]
      omega
    simp only [hsize]
    rw [if_pos hshort]

end WsFrame

end FalconGuide
