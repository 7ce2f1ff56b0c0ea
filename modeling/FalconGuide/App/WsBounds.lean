import FalconGuide.App.WsFrames

namespace FalconGuide

/-!
# What `RecvFrame` touches

`WsServer::RecvFrame` with every access to the buffer, and with the exception of `resize`.  The
header says how long a frame is in 64 bits, and so does the sum that is compared with the bytes
that are there.

* `byteAt`, `eraseFront`, `checkSize` — the accesses, and what they can end in;
* `receive` — `RecvFrame`, access by access;
* `receive_eq` — without a fault it is `recvFrame`;
* `ReceivesSafely` — no fault, and only a complete frame is taken;
* `receivesSafely_iff` — the exact condition.
-/

/-! ### Accesses -/

/-- What an access can end in. -/
inductive RecvFault
  /-- A byte behind the end is read or erased. -/
  | outOfRange
  /-- `resize` throws `std::length_error`. -/
  | lengthError
  deriving DecidableEq

/-- `max_size()` of a `std::string`. -/
def maxSize : ℕ := 2 ^ 63 - 1

/-- `buf[i]`. -/
def byteAt (buf : List UInt8) (i : ℕ) : Except RecvFault UInt8 :=
  if i < buf.length then .ok (buf.getD i 0) else .error .outOfRange

/-- `buf.erase(0, n)`. -/
def eraseFront (buf : List UInt8) (n : ℕ) : Except RecvFault (List UInt8) :=
  if n ≤ buf.length then .ok (buf.drop n) else .error .outOfRange

/-- `payload.resize(n)`. -/
def checkSize (n : ℕ) : Except RecvFault Unit :=
  if n ≤ maxSize then .ok () else .error .lengthError

/-- What `RecvFrame` leaves and returns. -/
structure Received where
  client : WsClient
  /-- The payload, when it returned true. -/
  payload : Option (List UInt8) := none
  /-- `SendClose` was called. -/
  close : Bool := false

/-- The extended payload length, byte by byte. -/
def readLength (buf : List UInt8) (len7 : ℕ) : Except RecvFault ℕ :=
  if len7 = 126 then do
    let high ← byteAt buf 2
    let low ← byteAt buf 3
    return high.toNat <<< 8 ||| low.toNat
  else if len7 = 127 then
    (List.range 8).foldlM (fun plen i => do return plen <<< 8 ||| (← byteAt buf (2 + i)).toNat) 0
  else return len7

/-- One byte of the payload. -/
def readByte (buf : List UInt8) (maskPos dataPos : ℕ) (masked : Bool) (i : ℕ) :
    Except RecvFault UInt8 := do
  let byte ← byteAt buf (dataPos + i)
  if masked then return byte ^^^ (← byteAt buf (maskPos + i % 4)) else return byte

/-- `RecvFrame` from the comparison with `hdr + plen` on. -/
def takeFrame (c : WsClient) (h : FrameHeader) : Except RecvFault Received :=
  -- the sum of two 64-bit numbers
  let size := (h.hdr + h.plen) % 2 ^ 64
  if c.buf.length < size then return { client := c }
  else if h.opcode = 0x8 then do
    let buf ← eraseFront c.buf size
    return { client := { c with buf, dead := true }, close := true }
  else do
    let maskPos := 2 + h.ext
    let dataPos := maskPos + if h.masked then 4 else 0
    checkSize h.plen
    let payload ← (List.range h.plen).mapM (readByte c.buf maskPos dataPos h.masked)
    let buf ← eraseFront c.buf size
    return {
      client := { c with buf }
      payload := if h.opcode = 0x1 then some payload else none }

/-- `RecvFrame`, with its accesses to the buffer. -/
def receive (c : WsClient) : Except RecvFault Received :=
  if c.buf.length < 2 then return { client := c }
  else do
    let b0 ← byteAt c.buf 0
    let b1 ← byteAt c.buf 1
    let len7 := (b1 &&& 0x7F).toNat
    if c.buf.length < 2 + extSize len7 then return { client := c }
    else
      let plen ← readLength c.buf len7
      takeFrame c {
        opcode := b0 &&& 0x0F
        masked := b1 &&& 0x80 ≠ 0
        ext := extSize len7
        plen }

/-! ### Accesses that stay inside -/

theorem RecvFault.ok_bind {α β : Type} (a : α) (f : α → Except RecvFault β) :
    (Except.ok a >>= f) = f a := rfl

theorem byteAt_of_lt {buf : List UInt8} {i : ℕ} (h : i < buf.length) :
    byteAt buf i = .ok (buf.getD i 0) := if_pos h

theorem eraseFront_of_le {buf : List UInt8} {n : ℕ} (h : n ≤ buf.length) :
    eraseFront buf n = .ok (buf.drop n) := if_pos h

/-- A loop whose body has no fault. -/
theorem mapM_of_ok {α β : Type} {f : α → Except RecvFault β} {g : α → β} :
    ∀ {xs : List α}, (∀ x ∈ xs, f x = .ok (g x)) → xs.mapM f = .ok (xs.map g)
  | [], _ => rfl
  | x :: xs, h => by
    have hx := h x List.mem_cons_self
    have hxs : xs.mapM f = .ok (xs.map g) :=
      mapM_of_ok fun y hy => h y (List.mem_cons_of_mem x hy)
    rw [List.mapM_cons, hx, hxs]
    rfl

/-- The bytes of a length are read in network byte order. -/
theorem foldlM_byteAt {buf : List UInt8} {k : ℕ} (h : 2 + k ≤ buf.length) :
    (List.range k).foldlM
        (fun plen i => do return plen <<< 8 ||| (← byteAt buf (2 + i)).toNat) 0
      = (Except.ok (fromBigEndian ((buf.drop 2).take k)) : Except RecvFault ℕ) := by
  induction k with
  | zero => rfl
  | succ k ih =>
    have hlt : 2 + k < buf.length := by omega
    have hlt' : k < (buf.drop 2).length := by
      rw [List.length_drop]
      omega
    have hlast : (buf.drop 2)[k] = buf.getD (2 + k) 0 := by
      rw [List.getElem_drop, List.getD_eq_getElem?_getD, List.getElem?_eq_getElem hlt]
      rfl
    have hfold : fromBigEndian ((buf.drop 2).take (k + 1))
        = fromBigEndian ((buf.drop 2).take k) <<< 8 ||| (buf.getD (2 + k) 0).toNat := by
      rw [← List.take_append_getElem hlt', hlast, fromBigEndian, List.foldl_append]
      rfl
    rw [List.range_succ, List.foldlM_append, ih (by omega), hfold, RecvFault.ok_bind,
      List.foldlM_cons, byteAt_of_lt hlt]
    rfl

/-- The payload length that the header says. -/
theorem readLength_eq (b0 b1 : UInt8) {rest : List UInt8} {len7 : ℕ}
    (hlen : extSize len7 ≤ rest.length) :
    readLength (b0 :: b1 :: rest) len7
      = .ok (if extSize len7 = 0 then len7 else fromBigEndian (rest.take (extSize len7))) := by
  unfold readLength
  by_cases h126 : len7 = 126
  · subst h126
    obtain _ | ⟨b2, _ | ⟨b3, rest⟩⟩ := rest
    · simp [extSize] at hlen
    · simp [extSize] at hlen
    · have hhigh : 0 <<< 8 ||| b2.toNat = b2.toNat := by simp
      show Except.ok (b2.toNat <<< 8 ||| b3.toNat)
        = Except.ok ((0 <<< 8 ||| b2.toNat) <<< 8 ||| b3.toNat)
      rw [hhigh]
  · by_cases h127 : len7 = 127
    · subst h127
      have hread := @foldlM_byteAt (b0 :: b1 :: rest) 8
        (by simp only [List.length_cons]; simp [extSize] at hlen; omega)
      rw [if_neg h126, if_pos rfl, hread]
      rfl
    · have hext : extSize len7 = 0 := by
        rw [extSize, if_neg h126, if_neg h127]
      rw [if_neg h126, if_neg h127, if_pos hext]
      rfl

/-- The payload of a frame that is there. -/
theorem mapM_readByte {h : FrameHeader} {buf : List UInt8} (hsize : h.hdr + h.plen ≤ buf.length) :
    (List.range h.plen).mapM
        (readByte buf (2 + h.ext) (2 + h.ext + if h.masked then 4 else 0) h.masked)
      = .ok (framePayload h buf) := by
  have hhdr : 2 + h.ext + (if h.masked then 4 else 0) = h.hdr := rfl
  have hread : ∀ i ∈ List.range h.plen, readByte buf (2 + h.ext) h.hdr h.masked i
      = .ok (if h.masked then buf.getD (h.hdr + i) 0 ^^^ buf.getD (2 + h.ext + i % 4) 0
          else buf.getD (h.hdr + i) 0) := by
    intro i hi
    have hlt := List.mem_range.mp hi
    rw [readByte, byteAt_of_lt (by omega), RecvFault.ok_bind]
    by_cases hmasked : h.masked = true
    · have hkey : 2 + h.ext + i % 4 < buf.length := by
        rw [if_pos hmasked] at hhdr
        omega
      rw [if_pos hmasked, if_pos hmasked, byteAt_of_lt hkey]
      rfl
    · rw [if_neg hmasked, if_neg hmasked]
      rfl
  rw [hhdr, mapM_of_ok hread]
  congr 1
  -- byte by byte, the key in turn
  apply List.ext_getElem
  · simp only [List.length_map, List.length_range, framePayload, List.length_mapIdx,
      List.length_take, List.length_drop]
    omega
  · intro i hi _
    have hlt : i < h.plen := by simpa using hi
    simp [framePayload, List.getD_eq_getElem?_getD,
      List.getElem?_eq_getElem (show h.hdr + i < buf.length by omega)]

/-! ### `RecvFrame` by its header -/

variable {c : WsClient} {h : FrameHeader}

/-- Without the payload length, nothing happens. -/
theorem receive_of_none (hnone : frameHeader c.buf = none) : receive c = .ok { client := c } := by
  obtain ⟨buf, upgraded, dead, handled, discarded⟩ := c
  simp only at hnone
  obtain _ | ⟨b0, _ | ⟨b1, rest⟩⟩ := buf
  · rfl
  · rfl
  · rw [frameHeader] at hnone
    have hshort : rest.length < extSize (b1 &&& 0x7F).toNat := by
      by_contra hlong
      rw [if_neg hlong] at hnone
      cases hnone
    have hlen : (b0 :: b1 :: rest).length < 2 + extSize (b1 &&& 0x7F).toNat := by
      simp only [List.length_cons]
      omega
    have htwo : ¬ (b0 :: b1 :: rest).length < 2 := by simp
    simp only [receive]
    rw [if_neg htwo, byteAt_of_lt (by simp), RecvFault.ok_bind, byteAt_of_lt (by simp),
      RecvFault.ok_bind]
    exact if_pos hlen

/-- With it, the sum of 64 bits decides. -/
theorem receive_of_some (hsome : frameHeader c.buf = some h) : receive c = takeFrame c h := by
  obtain ⟨buf, upgraded, dead, handled, discarded⟩ := c
  simp only at hsome
  obtain _ | ⟨b0, _ | ⟨b1, rest⟩⟩ := buf
  · cases hsome
  · cases hsome
  · rw [frameHeader] at hsome
    have hlong : ¬ rest.length < extSize (b1 &&& 0x7F).toNat := by
      intro hshort
      rw [if_pos hshort] at hsome
      cases hsome
    rw [if_neg hlong] at hsome
    have hread := readLength_eq b0 b1 (Nat.le_of_not_lt hlong)
    have htwo : ¬ (b0 :: b1 :: rest).length < 2 := by simp
    have hlen : ¬ (b0 :: b1 :: rest).length < 2 + extSize (b1 &&& 0x7F).toNat := by
      simp only [List.length_cons]
      omega
    have h0 : byteAt (b0 :: b1 :: rest) 0 = .ok b0 := byteAt_of_lt (by simp)
    have h1 : byteAt (b0 :: b1 :: rest) 1 = .ok b1 := byteAt_of_lt (by simp)
    rw [receive, if_neg htwo, h0, RecvFault.ok_bind, h1, RecvFault.ok_bind]
    dsimp only
    rw [if_neg hlen, hread, RecvFault.ok_bind]
    cases hsome
    rfl

/-- Less than the sum: nothing happens. -/
theorem takeFrame_of_lt (hlt : c.buf.length < (h.hdr + h.plen) % 2 ^ 64) :
    takeFrame c h = .ok { client := c } := if_pos hlt

/-- A close frame is taken off. -/
theorem takeFrame_of_close (hle : (h.hdr + h.plen) % 2 ^ 64 ≤ c.buf.length)
    (hclose : h.opcode = 0x8) :
    takeFrame c h = .ok {
      client := { c with buf := c.buf.drop ((h.hdr + h.plen) % 2 ^ 64), dead := true }
      close := true } := by
  rw [takeFrame, if_neg (Nat.not_lt_of_le hle), if_pos hclose, eraseFront_of_le hle]
  rfl

/-- A sum that is more than 64 bits hold: `resize` throws. -/
theorem takeFrame_of_wraps (hle : (h.hdr + h.plen) % 2 ^ 64 ≤ c.buf.length)
    (hclose : h.opcode ≠ 0x8) (hhdr : h.hdr ≤ 14) (hwraps : 2 ^ 64 ≤ h.hdr + h.plen) :
    takeFrame c h = .error .lengthError := by
  have hsize : checkSize h.plen = .error .lengthError := by
    rw [checkSize, if_neg]
    unfold maxSize
    omega
  rw [takeFrame, if_neg (Nat.not_lt_of_le hle), if_neg hclose, hsize]
  rfl

/-- A frame that is there is taken off, and its payload returned if it is text. -/
theorem takeFrame_of_complete (hle : h.hdr + h.plen ≤ c.buf.length) (hclose : h.opcode ≠ 0x8)
    (hmax : c.buf.length ≤ maxSize) :
    takeFrame c h = .ok {
      client := { c with buf := c.buf.drop (h.hdr + h.plen) }
      payload := if h.opcode = 0x1 then some (framePayload h c.buf) else none } := by
  have hmod : (h.hdr + h.plen) % 2 ^ 64 = h.hdr + h.plen := by
    apply Nat.mod_eq_of_lt
    unfold maxSize at hmax
    omega
  have hsize : checkSize h.plen = .ok () := by
    rw [checkSize, if_pos (by omega)]
  rw [takeFrame, hmod, if_neg (Nat.not_lt_of_le hle), if_neg hclose, hsize]
  dsimp only
  rw [mapM_readByte hle, eraseFront_of_le hle]
  rfl

/-- Eight bytes of length at most, and a key. -/
theorem hdr_le {buf : List UInt8} (hsome : frameHeader buf = some h) : h.hdr ≤ 14 := by
  obtain _ | ⟨b0, _ | ⟨b1, rest⟩⟩ := buf
  · cases hsome
  · cases hsome
  · rw [frameHeader] at hsome
    split at hsome
    · cases hsome
    · cases hsome
      have hext : extSize (b1 &&& 0x7F).toNat ≤ 8 := by
        unfold extSize
        split
        · decide
        · split <;> decide
      unfold FrameHeader.hdr
      dsimp only
      split <;> omega

/-- **Access by access**, `RecvFrame` does what it does to the buffer as a whole, and where it
    throws, `resize` does. -/
theorem recvFrame_eq_receive (hmax : c.buf.length ≤ maxSize) :
    recvFrame c = (receive c).toOption.map fun r => (r.client, r.payload) := by
  cases hsome : frameHeader c.buf with
  | none =>
    rw [receive_of_none hsome, recvFrame, hsome]
    rfl
  | some h =>
    rw [receive_of_some hsome, recvFrame, hsome]
    dsimp only
    by_cases hlt : c.buf.length < (h.hdr + h.plen) % 2 ^ 64
    · rw [takeFrame_of_lt hlt, if_pos hlt]
      rfl
    · have hle := Nat.le_of_not_lt hlt
      rw [if_neg hlt]
      by_cases hclose : h.opcode = 0x8
      · rw [takeFrame_of_close hle hclose, if_pos hclose]
        rfl
      · rw [if_neg hclose]
        by_cases hwraps : 2 ^ 64 ≤ h.hdr + h.plen
        · rw [takeFrame_of_wraps hle hclose (hdr_le hsome) hwraps, if_pos hwraps]
          rfl
        · have hmod := Nat.mod_eq_of_lt (Nat.lt_of_not_le hwraps)
          rw [hmod] at hle
          rw [takeFrame_of_complete hle hclose hmax, if_neg hwraps, hmod]
          rfl

/-! ### Safety -/

/-- `RecvFrame` has no fault.  It takes a frame off the buffer that is there as a whole, or it
    does nothing. -/
def ReceivesSafely (c : WsClient) : Prop :=
  ∃ r, receive c = .ok r ∧
    ((r = { client := c } ∧ ∀ h, frameHeader c.buf = some h → c.buf.length < h.hdr + h.plen) ∨
      ∃ h, frameHeader c.buf = some h ∧ h.hdr + h.plen ≤ c.buf.length ∧
        r.client.buf = c.buf.drop (h.hdr + h.plen))

/-- The declared length and the size of the header add up to a number that 64 bits do not hold,
    and what they hold of it is no more than the bytes that are there. -/
def WrapsAround (buf : List UInt8) : Prop :=
  ∃ h, frameHeader buf = some h ∧ 2 ^ 64 ≤ h.hdr + h.plen ∧
    (h.hdr + h.plen) % 2 ^ 64 ≤ buf.length

/-- **`RecvFrame` is safe** at all buffers but those whose header wraps around. -/
theorem receivesSafely_iff (c : WsClient) (hmax : c.buf.length ≤ maxSize) :
    ReceivesSafely c ↔ ¬ WrapsAround c.buf := by
  constructor
  · rintro ⟨r, hr, hsafe⟩ ⟨h, hsome, hwraps, hle⟩
    have hlarge : c.buf.length < h.hdr + h.plen := by
      unfold maxSize at hmax
      omega
    rw [receive_of_some hsome] at hr
    by_cases hclose : h.opcode = 0x8
    · rw [takeFrame_of_close hle hclose] at hr
      cases hr
      -- a close frame is answered, whether it is there or not
      rcases hsafe with ⟨hsame, -⟩ | ⟨h', hsome', hle', -⟩
      · cases congrArg Received.close hsame
      · cases hsome.symm.trans hsome'
        omega
    · rw [takeFrame_of_wraps hle hclose (hdr_le hsome) hwraps] at hr
      cases hr
  · intro hnot
    cases hsome : frameHeader c.buf with
    | none =>
      refine ⟨_, receive_of_none hsome, .inl ⟨rfl, ?_⟩⟩
      intro h hh
      cases hsome.symm.trans hh
    | some h =>
      have hreceive := receive_of_some hsome
      by_cases hlt : c.buf.length < (h.hdr + h.plen) % 2 ^ 64
      · refine ⟨_, hreceive.trans (takeFrame_of_lt hlt), .inl ⟨rfl, ?_⟩⟩
        intro h' hh
        cases hsome.symm.trans hh
        exact Nat.lt_of_lt_of_le hlt (Nat.mod_le _ _)
      · have hle := Nat.le_of_not_lt hlt
        have hwraps : h.hdr + h.plen < 2 ^ 64 := by
          by_contra hge
          exact hnot ⟨h, hsome, Nat.le_of_not_lt hge, hle⟩
        have hmod := Nat.mod_eq_of_lt hwraps
        by_cases hclose : h.opcode = 0x8
        · refine ⟨_, hreceive.trans (takeFrame_of_close hle hclose), .inr ⟨h, hsome, ?_, ?_⟩⟩
          · rwa [hmod] at hle
          · rw [hmod]
        · rw [hmod] at hle
          exact ⟨_, hreceive.trans (takeFrame_of_complete hle hclose hmax),
            .inr ⟨h, hsome, hle, rfl⟩⟩

/-- Two letters in a frame. -/
theorem receivesSafely_iff_hi :
    (ReceivesSafely { buf := [0x81, 2, 104, 105] } ↔ ¬ WrapsAround [0x81, 2, 104, 105]) :=
  receivesSafely_iff { buf := [0x81, 2, 104, 105] } (by decide)

/-- **Ten bytes end the server.** A header that declares 2^64 - 1 bytes counts as complete. -/
theorem not_receivesSafely :
    ¬ ReceivesSafely { buf := [0x81, 127, 255, 255, 255, 255, 255, 255, 255, 255] } := by
  rintro ⟨r, hr, -⟩
  have hthrows : receive { buf := [0x81, 127, 255, 255, 255, 255, 255, 255, 255, 255] }
      = .error .lengthError := by
    rw [receive_of_some rfl]
    exact takeFrame_of_wraps (by decide) (by decide) (by decide) (by decide)
  cases hthrows.symm.trans hr

end FalconGuide
