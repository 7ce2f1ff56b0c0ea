import FalconGuide.App.WsWrites

namespace FalconGuide

/-!
# WebSocket frames between the server and its user interface

`WsClient::SendFrame` and `WsClient::RecvFrame` of the user interface against the frames that the
server reads and writes.

* `UiWsClient.sendFrame` — the bytes of `SendFrame`, with the mask that it draws;
* `UiWsClient.Socket`, `UiWsClient.recvFrame` — `RecvFrame`, byte by byte off the socket;
* `sendFrame_eq_encode`, `recvFrame_textFrame` — both agree with the frames of the server;
* `frames_round_trip` — what either side sends, the other one receives.
-/

namespace UiWsClient

/-! ### Sending -/

theorem maskIndex_lt (i : ℕ) : i % 4 < 4 := Nat.mod_lt i (by decide)

/-- `SendFrame`: the bytes for `payload`, masked with `mask`. -/
def sendFrame (mask : Fin 4 → UInt8) (payload : List UInt8) : List UInt8 :=
  let plen := payload.length
  let length : List UInt8 :=
    if plen ≤ 125 then [(plen ||| 0x80).toUInt8]
    else if plen ≤ 65535 then [0xFE, (plen >>> 8).toUInt8, plen.toUInt8]
    else 0xFF :: (List.range 8).reverse.map fun i => (plen >>> (i * 8)).toUInt8
  0x81 :: (length ++ List.ofFn mask
    ++ payload.mapIdx fun i byte => byte ^^^ mask ⟨i % 4, maskIndex_lt i⟩)

/-- The bit of a masked frame in the length byte of a short one. -/
theorem short_lengthByte {n : ℕ} (hn : n ≤ 125) :
    (n ||| 0x80).toUInt8 = (0x80 : UInt8) ||| UInt8.ofNat n := by
  have hall : ∀ n : Fin 126, (n.val ||| 0x80).toUInt8 = (0x80 : UInt8) ||| UInt8.ofNat n := by
    decide
  exact hall ⟨n, by omega⟩

/-- **The bytes of `SendFrame`** are those of a masked text frame. -/
theorem sendFrame_eq_encode (mask : Fin 4 → UInt8) (payload : List UInt8) :
    sendFrame mask payload = WsFrame.encode { head := 0x81, mask := some mask, payload } := by
  have hlow : (payload.length &&& 0xFF).toUInt8 = payload.length.toUInt8 := by
    have hmod : payload.length &&& 0xFF = payload.length % 256 :=
      Nat.and_two_pow_sub_one_eq_mod _ 8
    apply UInt8.toNat_inj.mp
    simp [hmod, Nat.toUInt8]
  simp only [sendFrame, WsFrame.encode, WsFrame.lengthBytes, WsFrame.keyBytes, WsFrame.data]
  congr 1
  -- the two sides draw the same borders between the three lengths
  by_cases hshort : payload.length < 126
  · have hle : payload.length ≤ 125 := by omega
    simp only [hshort, hle, if_true, short_lengthByte hle]
    rfl
  · have hle : ¬ payload.length ≤ 125 := by omega
    by_cases hmedium : payload.length < 65536
    · have hle' : payload.length ≤ 65535 := by omega
      have hmark : (0x80 : UInt8) ||| 126 = 0xFE := by decide
      simp [hshort, hle, hmedium, hle', toBigEndian_two, hlow, hmark]
    · have hle' : ¬ payload.length ≤ 65535 := by omega
      have hmark : (0x80 : UInt8) ||| 127 = 0xFF := by decide
      simp [hshort, hle, hmedium, hle', toBigEndian_eight, hmark]

/-! ### Receiving -/

/-- What reads from the socket: `none` when a byte does not come, or when `resize` throws. -/
abbrev Socket := StateT (List UInt8) Option

/-- `recv1`. -/
def recv1 : Socket UInt8
  | [] => none
  | b :: bs => some (b, bs)

/-- `n` bytes, one after the other. -/
def recvN : ℕ → Socket (List UInt8)
  | 0 => pure []
  | n + 1 => do
    let b ← recv1
    let bs ← recvN n
    pure (b :: bs)

/-- `plen`, from the low bits of the second byte. -/
def recvLength (len7 : ℕ) : Socket ℕ :=
  if len7 = 126 then fromBigEndian <$> recvN 2
  else if len7 = 127 then fromBigEndian <$> recvN 8
  else pure len7

/-- `mask`, which is zero when the frame has none. -/
def recvMask (masked : Bool) : Socket (List UInt8) :=
  if masked then recvN 4 else pure [0, 0, 0, 0]

/-- `RecvFrame`: the payload, `none` when it returns false. -/
def recvFrame : Socket (List UInt8) := do
  let h0 ← recv1
  let h1 ← recv1
  if h0 &&& 0x0F = 8 then failure
  else
    let masked : Bool := h1 &&& 0x80 ≠ 0
    let plen ← recvLength (h1 &&& 0x7F).toNat
    let mask ← recvMask masked
    if 2 ^ 63 ≤ plen then failure
    else
      let data ← recvN plen
      pure (data.mapIdx fun i b => if masked then b ^^^ mask.getD (i % 4) 0 else b)

/-- What comes after a read. -/
theorem bind_of_some {α β : Type} {x : Socket α} {f : α → Socket β} {bytes rest : List UInt8}
    {a : α} (h : x bytes = some (a, rest)) : (x >>= f) bytes = f a rest := by
  show (x bytes).bind (fun r => f r.1 r.2) = f a rest
  rw [h]
  rfl

theorem map_of_some {α β : Type} {x : Socket α} {f : α → β} {bytes rest : List UInt8} {a : α}
    (h : x bytes = some (a, rest)) : (f <$> x) bytes = some (f a, rest) := by
  show (x bytes).bind (fun r => some (f r.1, r.2)) = some (f a, rest)
  rw [h]
  rfl

theorem recvN_append {n : ℕ} {xs : List UInt8} (hxs : xs.length = n) (rest : List UInt8) :
    recvN n (xs ++ rest) = some (xs, rest) := by
  induction xs generalizing n with
  | nil =>
    subst hxs
    rfl
  | cons b xs ih =>
    subst hxs
    show (recvN xs.length (xs ++ rest)).bind (fun r => some (b :: r.1, r.2)) = _
    rw [ih rfl]
    rfl

theorem recvLength_append {len7 : ℕ} {ext : List UInt8} (hext : ext.length = extSize len7)
    (rest : List UInt8) :
    recvLength len7 (ext ++ rest)
      = some (if extSize len7 = 0 then len7 else fromBigEndian ext, rest) := by
  unfold recvLength extSize at *
  by_cases h126 : len7 = 126
  · rw [if_pos h126] at hext
    simp only [if_pos h126]
    exact map_of_some (recvN_append hext rest)
  · by_cases h127 : len7 = 127
    · rw [if_neg h126, if_pos h127] at hext
      simp only [if_neg h126, if_pos h127]
      exact map_of_some (recvN_append hext rest)
    · rw [if_neg h126, if_neg h127] at hext
      simp only [if_neg h126, if_neg h127]
      rw [List.length_eq_zero_iff.mp hext]
      rfl

/-- `RecvFrame` at an unmasked text frame, whatever its length takes. -/
theorem recvFrame_of_length {len7 : ℕ} (hlen7 : len7 < 128) {ext payload : List UInt8}
    (hext : ext.length = extSize len7)
    (hplen : (if extSize len7 = 0 then len7 else fromBigEndian ext) = payload.length)
    (hlen : payload.length < 2 ^ 63) (rest : List UInt8) :
    recvFrame (0x81 :: UInt8.ofNat len7 :: (ext ++ (payload ++ rest))) = some (payload, rest) := by
  obtain ⟨hlow, hhigh⟩ := WsFrame.lengthByte false len7 hlen7
  have hlow' : (UInt8.ofNat len7 &&& 0x7F).toNat = len7 := by simpa using hlow
  have hmask : UInt8.ofNat len7 &&& 0x80 = 0 := by simpa using hhigh
  have hlength := recvLength_append hext (payload ++ rest)
  rw [hplen, ← hlow'] at hlength
  have hnotMasked : decide (UInt8.ofNat len7 &&& 0x80 ≠ 0) = false := by simp [hmask]
  -- byte by byte, as `RecvFrame` reads them
  rw [recvFrame]
  refine (bind_of_some rfl).trans ((bind_of_some rfl).trans ?_)
  rw [if_neg (by decide), hnotMasked]
  refine (bind_of_some hlength).trans ((bind_of_some rfl).trans ?_)
  rw [if_neg (Nat.not_le_of_lt hlen)]
  refine (bind_of_some (recvN_append rfl rest)).trans ?_
  have hdata : payload.mapIdx (fun _ b => b) = payload := by
    apply List.ext_getElem
    · simp
    · simp
  exact congrArg (fun p => some (p, rest)) hdata

/-- **`RecvFrame`** at a frame of `SendText` takes this frame off the socket, and no more. -/
theorem recvFrame_textFrame {payload : List UInt8} (hlen : payload.length < 2 ^ 63)
    (rest : List UInt8) : recvFrame (textFrame payload ++ rest) = some (payload, rest) := by
  rw [textFrame_eq_encode]
  simp only [WsFrame.encode, WsFrame.lengthBytes, WsFrame.keyBytes, WsFrame.data]
  -- one length byte, three or nine
  by_cases hshort : payload.length < 126
  · have hext : extSize payload.length = 0 := by
      unfold extSize
      rw [if_neg (by omega), if_neg (by omega)]
    have hnil : ([] : List UInt8).length = extSize payload.length := hext.symm
    have hrecv := recvFrame_of_length (by omega) hnil (by rw [if_pos hext]) hlen rest
    simpa [hshort] using hrecv
  · by_cases hmedium : payload.length < 65536
    · have hplen := fromBigEndian_toBigEndian (k := 2) (n := payload.length) (by omega)
      have hrecv := recvFrame_of_length (show 126 < 128 by omega) (length_toBigEndian 2 _)
        (by rw [if_neg (by decide), hplen]) hlen rest
      simpa [hshort, hmedium] using hrecv
    · have hplen := fromBigEndian_toBigEndian (k := 8) (n := payload.length) (by omega)
      have hrecv := recvFrame_of_length (show 127 < 128 by omega) (length_toBigEndian 8 _)
        (by rw [if_neg (by decide), hplen]) hlen rest
      simpa [hshort, hmedium] using hrecv

end UiWsClient

/-! ### Both directions -/

/-- **What either side sends, the other one receives**: the payload, and the bytes behind the frame
    stay where they are. -/
theorem frames_round_trip (payload rest : List UInt8) (hlen : payload.length < 2 ^ 63) :
    (∀ (mask : Fin 4 → UInt8) (c : WsClient),
      recvFrame { c with buf := UiWsClient.sendFrame mask payload ++ rest }
        = some ({ c with buf := rest }, some payload)) ∧
    (payload ≠ [] → ∃ frame, sendText payload = [frame] ∧
      UiWsClient.recvFrame (frame ++ rest) = some (payload, rest)) := by
  constructor
  · intro mask c
    have hopcode : (0x81 : UInt8) &&& 0x0F = 0x1 := by decide
    have hformed : WsFrame.WellFormed { head := 0x81, mask := some mask, payload } :=
      ⟨.inl hopcode, hlen⟩
    rw [UiWsClient.sendFrame_eq_encode, WsFrame.recvFrame_encode hformed c rest]
    simp [WsFrame.isText, WsFrame.opcode, hopcode]
  · intro hpayload
    exact ⟨textFrame payload, if_neg hpayload, UiWsClient.recvFrame_textFrame hlen rest⟩

/-- Two letters, and the beginning of another frame. -/
theorem frames_round_trip_hi :
    recvFrame { buf := UiWsClient.sendFrame (fun i => UInt8.ofNat i) [104, 105] ++ [0x81] }
      = some ({ buf := [0x81] }, some [104, 105]) ∧
    UiWsClient.recvFrame [0x81, 2, 104, 105, 0x81] = some ([104, 105], [0x81]) := by
  obtain ⟨hserver, hclient⟩ := frames_round_trip [104, 105] [0x81] (by decide)
  refine ⟨hserver (fun i => UInt8.ofNat i) {}, ?_⟩
  obtain ⟨frame, hframe, hrecv⟩ := hclient (by decide)
  cases hframe
  exact hrecv

end FalconGuide
