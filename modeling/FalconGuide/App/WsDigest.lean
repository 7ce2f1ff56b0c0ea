import FalconGuide.Core.Bytes
import FalconGuide.Lib.Sha1

namespace FalconGuide

open Lib

/-!
# The digest of the handshake

`Sha1` and `Base64` of `WsServer` and of the `WsClient` of the user interface, which have them in
two copies.

* `padZeros` — the loop that pads a message;
* `WsServer.sha1`, `UiWsClient.sha1` — the digest;
* `WsServer.base64`, `UiWsClient.base64` — its text.
-/

/-- `while (m.size() % 64 != 56) m.push_back(0x00)`. -/
def padZeros (m : List UInt8) : List UInt8 :=
  if m.length % 64 = 56 then m else padZeros (m ++ [0x00])
termination_by (120 - m.length % 64) % 64
decreasing_by
  rw [List.length_append, List.length_singleton]
  omega

/-- `h`, or `a`, …, `e`. -/
@[ext] structure Sha1Registers where
  a : UInt32
  b : UInt32
  c : UInt32
  d : UInt32
  e : UInt32

namespace WsServer

/-! ### The server -/

/-- `R`. -/
def r (v s : UInt32) : UInt32 := (v <<< s) ||| (v >>> (32 - s))

/-- `m`, the message with its padding. -/
def padded (data : List UInt8) : List UInt8 :=
  let m := data ++ [0x80]
  let m := padZeros m
  let bl := UInt64.ofNat data.length * 8
  [7, 6, 5, 4, 3, 2, 1, 0].foldl (fun m (i : UInt64) => m ++ [(bl >>> (i * 8)).toUInt8]) m

/-- `w[j]` for `j < 16`, of the block at `i`. -/
def loadWord (m : List UInt8) (i j : ℕ) : UInt32 :=
  ((m.getD (i + j * 4) 0).toUInt32 <<< 24) ||| ((m.getD (i + j * 4 + 1) 0).toUInt32 <<< 16) |||
    ((m.getD (i + j * 4 + 2) 0).toUInt32 <<< 8) ||| (m.getD (i + j * 4 + 3) 0).toUInt32

/-- `w`. -/
def words (m : List UInt8) (i : ℕ) : List UInt32 :=
  (List.range' 16 64).foldl
    (fun w j => w ++
      [r (w.getD (j - 3) 0 ^^^ w.getD (j - 8) 0 ^^^ w.getD (j - 14) 0 ^^^ w.getD (j - 16) 0) 1])
    ((List.range 16).map (loadWord m i))

/-- One of the eighty rounds. -/
def round (w : List UInt32) (s : Sha1Registers) (j : ℕ) : Sha1Registers :=
  let (f, k) : UInt32 × UInt32 :=
    if j < 20 then ((s.b &&& s.c) ||| (~~~s.b &&& s.d), 0x5A827999)
    else if j < 40 then (s.b ^^^ s.c ^^^ s.d, 0x6ED9EBA1)
    else if j < 60 then ((s.b &&& s.c) ||| (s.b &&& s.d) ||| (s.c &&& s.d), 0x8F1BBCDC)
    else (s.b ^^^ s.c ^^^ s.d, 0xCA62C1D6)
  let t := r s.a 5 + f + s.e + k + w.getD j 0
  { a := t, b := s.a, c := r s.b 30, d := s.c, e := s.d }

/-- The body of the loop over the blocks. -/
def block (m : List UInt8) (h : Sha1Registers) (i : ℕ) : Sha1Registers :=
  let s := (List.range 80).foldl (round (words m i)) h
  { a := h.a + s.a, b := h.b + s.b, c := h.c + s.c, d := h.d + s.d, e := h.e + s.e }

/-- `for (std::size_t i = 0; i < m.size(); i += 64)`. -/
def blocks (m : List UInt8) (i : ℕ) (h : Sha1Registers) : Sha1Registers :=
  if i < m.length then blocks m (i + 64) (block m h i) else h
termination_by m.length - i

/-- `Sha1`. -/
def sha1 (data : List UInt8) : List UInt8 :=
  let h := blocks (padded data) 0
    { a := 0x67452301, b := 0xEFCDAB89, c := 0x98BADCFE, d := 0x10325476, e := 0xC3D2E1F0 }
  [h.a, h.b, h.c, h.d, h.e].flatMap fun (x : UInt32) =>
    [(x >>> 24).toUInt8, (x >>> 16).toUInt8, (x >>> 8).toUInt8, x.toUInt8]

/-- `T`. -/
def t : List UInt8 := ascii "ABCDEFGHIJKLMNOPQRSTUVWXYZabcdefghijklmnopqrstuvwxyz0123456789+/"

/-- What an iteration of `Base64` appends. -/
def quantum (d : List UInt8) (i : ℕ) : List UInt8 :=
  let n := d.length
  let v := (d.getD i 0).toUInt32 <<< 16
  let v := if i + 1 < n then v ||| (d.getD (i + 1) 0).toUInt32 <<< 8 else v
  let v := if i + 2 < n then v ||| (d.getD (i + 2) 0).toUInt32 else v
  [t.getD ((v >>> 18) &&& 63).toNat 0,
    t.getD ((v >>> 12) &&& 63).toNat 0,
    if i + 1 < n then t.getD ((v >>> 6) &&& 63).toNat 0 else 0x3D,
    if i + 2 < n then t.getD (v &&& 63).toNat 0 else 0x3D]

/-- The loop of `Base64`. -/
def quanta (d : List UInt8) (i : ℕ) (o : List UInt8) : List UInt8 :=
  if i < d.length then quanta d (i + 3) (o ++ quantum d i) else o
termination_by d.length - i

/-- `Base64`. -/
def base64 (d : List UInt8) : List UInt8 := quanta d 0 []

end WsServer

namespace UiWsClient

/-! ### The client -/

/-- `rol`. -/
def rol (v s : UInt32) : UInt32 := (v <<< s) ||| (v >>> (32 - s))

/-- `w` of `process`. -/
def processWords (blk : List UInt8) : List UInt32 :=
  (List.range' 16 64).foldl
    (fun w i => w ++
      [rol (w.getD (i - 3) 0 ^^^ w.getD (i - 8) 0 ^^^ w.getD (i - 14) 0 ^^^ w.getD (i - 16) 0) 1])
    ((List.range 16).map fun i =>
      ((blk.getD (i * 4) 0).toUInt32 <<< 24) ||| ((blk.getD (i * 4 + 1) 0).toUInt32 <<< 16) |||
        ((blk.getD (i * 4 + 2) 0).toUInt32 <<< 8) ||| (blk.getD (i * 4 + 3) 0).toUInt32)

/-- One of the eighty rounds of `process`. -/
def processRound (w : List UInt32) (s : Sha1Registers) (i : ℕ) : Sha1Registers :=
  let (f, k) : UInt32 × UInt32 :=
    if i < 20 then ((s.b &&& s.c) ||| (~~~s.b &&& s.d), 0x5A827999)
    else if i < 40 then (s.b ^^^ s.c ^^^ s.d, 0x6ED9EBA1)
    else if i < 60 then ((s.b &&& s.c) ||| (s.b &&& s.d) ||| (s.c &&& s.d), 0x8F1BBCDC)
    else (s.b ^^^ s.c ^^^ s.d, 0xCA62C1D6)
  let tmp := rol s.a 5 + f + s.e + k + w.getD i 0
  { a := tmp, b := s.a, c := rol s.b 30, d := s.c, e := s.d }

/-- `process`. -/
def process (h : Sha1Registers) (blk : List UInt8) : Sha1Registers :=
  let s := (List.range 80).foldl (processRound (processWords blk)) h
  { a := h.a + s.a, b := h.b + s.b, c := h.c + s.c, d := h.d + s.d, e := h.e + s.e }

/-- `msg`, with its padding. -/
def paddedMsg (data : List UInt8) : List UInt8 :=
  let bitLen := UInt64.ofNat data.length * 8
  let msg := padZeros (data ++ [0x80])
  [7, 6, 5, 4, 3, 2, 1, 0].foldl
    (fun msg (i : UInt64) => msg ++ [(bitLen >>> (i * 8)).toUInt8]) msg

/-- The loop over the blocks; `process` gets a pointer into the message. -/
def processBlocks (msg : List UInt8) (i : ℕ) (h : Sha1Registers) : Sha1Registers :=
  if i < msg.length then processBlocks msg (i + 64) (process h (msg.drop i)) else h
termination_by msg.length - i

/-- `Sha1`. -/
def sha1 (data : List UInt8) : List UInt8 :=
  let h := processBlocks (paddedMsg data) 0
    { a := 0x67452301, b := 0xEFCDAB89, c := 0x98BADCFE, d := 0x10325476, e := 0xC3D2E1F0 }
  [h.a, h.b, h.c, h.d, h.e].flatMap fun (x : UInt32) =>
    [(x >>> 24).toUInt8, (x >>> 16).toUInt8, (x >>> 8).toUInt8, x.toUInt8]

/-- `kAlph`. -/
def kAlph : List UInt8 := ascii "ABCDEFGHIJKLMNOPQRSTUVWXYZabcdefghijklmnopqrstuvwxyz0123456789+/"

/-- The loop of `Base64`. -/
def base64Loop (data : List UInt8) (i : ℕ) (out : List UInt8) : List UInt8 :=
  if i < data.length then
    let v := (data.getD i 0).toUInt32 <<< 16
    let v := if i + 1 < data.length then v ||| (data.getD (i + 1) 0).toUInt32 <<< 8 else v
    let v := if i + 2 < data.length then v ||| (data.getD (i + 2) 0).toUInt32 else v
    let out := out ++ [kAlph.getD ((v >>> 18) &&& 63).toNat 0]
    let out := out ++ [kAlph.getD ((v >>> 12) &&& 63).toNat 0]
    let out := out ++
      [if i + 1 < data.length then kAlph.getD ((v >>> 6) &&& 63).toNat 0 else 0x3D]
    let out := out ++ [if i + 2 < data.length then kAlph.getD (v &&& 63).toNat 0 else 0x3D]
    base64Loop data (i + 3) out
  else out
termination_by data.length - i

/-- `Base64`. -/
def base64 (data : List UInt8) : List UInt8 := base64Loop data 0 []

end UiWsClient

end FalconGuide
