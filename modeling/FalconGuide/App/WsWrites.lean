import FalconGuide.App.Json
import FalconGuide.App.WsClients
import FalconGuide.Lib.PartialWrites

namespace FalconGuide

open Lib

/-!
# What the WebSocket server writes

`WsServer::Broadcast` and the writes of `WsServer::HandleRead` over the runs of the server.  Every
`::write` is on a non-blocking socket: it takes any prefix of the message, or it fails; the result
is ignored.

* `textFrame`, `sendText`, `closeFrame` — the frames of `SendText` and `SendClose`;
* `handleReadMessages` — what `HandleRead` writes, message by message;
* `WsRun.WriteAction`, `WsRun.WriteStep` — the steps of a server with the results of its writes;
* `WsRun.writing` — the runs of a server with what was written.
-/

/-! ### Messages -/

/-- The frame of `SendText`. -/
def textFrame (text : List UInt8) : List UInt8 :=
  let plen := text.length
  let length : List UInt8 :=
    if plen < 126 then [plen.toUInt8]
    else if plen < 65536 then [126, (plen >>> 8).toUInt8, (plen &&& 0xFF).toUInt8]
    else 127 :: (List.range 8).reverse.map fun i => (plen >>> (i * 8)).toUInt8
  0x81 :: (length ++ text)

/-- `SendText`: an empty text is not sent. -/
def sendText (text : List UInt8) : List (List UInt8) := if text = [] then [] else [textFrame text]

/-- The frame of `SendClose`. -/
def closeFrame : List UInt8 := [0x88, 0x00]

/-- What is outside of the frames: `json::dump`, the value that `DoUpgrade` computes from the key,
    and the page of `ServeHttp`. -/
structure WsTexts where
  dump : Json → List UInt8
  accept : List UInt8 → List UInt8
  page : List UInt8

/-- The answer to a handshake with this key. -/
def WsTexts.upgradeAnswer (texts : WsTexts) (key : List UInt8) : List UInt8 :=
  ascii "HTTP/1.1 101 Switching Protocols\r\nUpgrade: websocket\r\n"
    ++ ascii "Connection: Upgrade\r\nSec-WebSocket-Accept: " ++ texts.accept key ++ crlf ++ crlf

/-- The answer to any other request. -/
def WsTexts.httpAnswer (texts : WsTexts) : List UInt8 :=
  ascii "HTTP/1.1 200 OK\r\nContent-Type: text/html; charset=utf-8\r\nContent-Length: "
    ++ ascii (toString texts.page.length) ++ ascii "\r\nConnection: close\r\n\r\n" ++ texts.page

/-- What the loop over the frames sends for a payload: `none` when the text is not JSON or the
    handler throws, else the reply of the handler. -/
def WsTexts.reply (texts : WsTexts) : Option Json → List (List UInt8)
  | none => sendText (ascii "\x7b\"event\":\"error\",\"message\":\"bad JSON\"\x7d")
  | some .null => []
  | some resp => sendText (texts.dump resp)

/-- The value of the key that `DoUpgrade` finds. -/
def upgradeKey (buf : List UInt8) : Option (List UInt8) :=
  (afterFirst (ascii "Sec-WebSocket-Key: ") buf).bind fun rest =>
    (afterFirst crlf rest).map fun behind => rest.take (rest.length - behind.length - 2)

/-- What `HandleRead` writes, when `replies` are the results of the handler. -/
def handleReadMessages (texts : WsTexts) (c : WsClient) (bytes : List UInt8)
    (replies : List (Option Json)) : List (List UInt8) :=
  let buf := c.buf ++ bytes
  if c.upgraded then
    -- the frames, and `SendClose` at a close frame
    (replies.map texts.reply).flatten
      ++ if (drainFrames { c with buf }).any (·.dead) then [closeFrame] else []
  else if (afterFirst (crlf ++ crlf) buf).isNone then []
  else if (afterFirst (ascii "Upgrade: websocket") buf).isSome
      || (afterFirst (ascii "Upgrade: WebSocket") buf).isSome then
    ((upgradeKey buf).map texts.upgradeAnswer).toList
  else [texts.httpAnswer]

/-- A message of the server: a frame without a mask, or an answer to a request. -/
inductive WsTexts.IsMessage (texts : WsTexts) : List UInt8 → Prop
  | frame (f : WsFrame) (hmask : f.mask = none) : IsMessage texts f.encode
  | upgradeAnswer (key : List UInt8) : IsMessage texts (texts.upgradeAnswer key)
  | httpAnswer : IsMessage texts texts.httpAnswer

/-! ### Frames -/

/-- The bytes of a length are those of network byte order. -/
theorem toBigEndian_two (n : ℕ) :
    toBigEndian 2 n = [(n >>> 8).toUInt8, (n &&& 0xFF).toUInt8] := by
  have hlow : n &&& 0xFF = n % 256 := Nat.and_two_pow_sub_one_eq_mod n 8
  have hmod : UInt8.ofNat (n % 256) = UInt8.ofNat n := by
    apply UInt8.toNat_inj.mp
    simp
  simp only [toBigEndian, hlow, Nat.shiftRight_eq_div_pow, Nat.toUInt8]
  rw [hmod]
  simp

@[inherit_doc toBigEndian_two]
theorem toBigEndian_eight (n : ℕ) :
    toBigEndian 8 n = (List.range 8).reverse.map fun i => (n >>> (i * 8)).toUInt8 := by
  simp [toBigEndian, List.range, List.range.loop, Nat.shiftRight_eq_div_pow, Nat.toUInt8]

/-- **A whole frame.** `SendText` sends the bytes of a text frame without a mask. -/
theorem textFrame_eq_encode (text : List UInt8) :
    textFrame text = WsFrame.encode { head := 0x81, mask := none, payload := text } := by
  simp only [textFrame, WsFrame.encode, WsFrame.lengthBytes, WsFrame.keyBytes, WsFrame.data]
  congr 1
  by_cases hshort : text.length < 126
  · simp [hshort, Nat.toUInt8]
  · by_cases hmedium : text.length < 65536
    · simp [hshort, hmedium, toBigEndian_two]
    · simp [hshort, hmedium, toBigEndian_eight]

theorem closeFrame_eq_encode :
    closeFrame = WsFrame.encode { head := 0x88, mask := none, payload := [] } := rfl

variable {texts : WsTexts}

theorem isMessage_sendText {text m : List UInt8} (h : m ∈ sendText text) : texts.IsMessage m := by
  unfold sendText at h
  split at h
  · cases h
  · rw [List.mem_singleton.mp h, textFrame_eq_encode]
    exact .frame _ rfl

/-- **What `HandleRead` writes** is made of messages. -/
theorem isMessage_handleReadMessages {c : WsClient} {bytes m : List UInt8}
    {replies : List (Option Json)} (h : m ∈ handleReadMessages texts c bytes replies) :
    texts.IsMessage m := by
  unfold handleReadMessages at h
  dsimp only at h
  split at h
  · rcases List.mem_append.mp h with h | h
    · obtain ⟨ms, hms, hm⟩ := List.mem_flatten.mp h
      obtain ⟨reply, -, rfl⟩ := List.mem_map.mp hms
      unfold WsTexts.reply at hm
      split at hm
      · exact isMessage_sendText hm
      · cases hm
      · exact isMessage_sendText hm
    · split at h
      · rw [List.mem_singleton.mp h, closeFrame_eq_encode]
        exact .frame _ rfl
      · cases h
  · split at h
    · cases h
    · split at h
      · obtain ⟨key, -, rfl⟩ := Option.map_eq_some_iff.mp (Option.mem_toList.mp h)
        exact .upgradeAnswer key
      · rw [List.mem_singleton.mp h]
        exact .httpAnswer

/-! ### Steps -/

namespace WsRun

/-- A step with the results of its writes; a write that fails takes nothing. -/
inductive WriteAction
  | other (a : Action)
  /-- `HandleRead`, with the results of the handler, and how much of every message was taken. -/
  | read (chunk : List UInt8) (stops : Bool) (replies : List (Option Json)) (accepted : List ℕ)
  /-- `Broadcast`, and how much was taken of the frame to each client. -/
  | broadcast (event : Json) (results : ℕ → ℕ)

/-- The client that is being read. -/
def readFrom (s : WsRun) : Option WsPeer :=
  match s.loop with
  | .reading _ k => s.clients[k]?
  | _ => none

/-- What is open under the descriptor of a client. -/
def connection (s : WsRun) (p : WsPeer) : Option ℕ := p.fd.bind s.fds.table

/-- What `HandleRead` writes to the client that is being read. -/
def messagesRead (texts : WsTexts) (s : WsRun) (chunk : List UInt8)
    (replies : List (Option Json)) : List (List UInt8) :=
  match s.readFrom with
  | none => []
  | some p => handleReadMessages texts p.client chunk replies

/-- The clients that `Broadcast` writes to. -/
def receivers (s : WsRun) : List WsPeer :=
  s.clients.filter fun p => !p.client.dead && p.client.upgraded && p.fd.isSome

/-- One step, with the results of its writes. -/
inductive WriteStep (texts : WsTexts) (maxClients : ℕ) : WsRun → WriteAction → WsRun → Prop
  /-- A step that writes nothing. -/
  | other (s a t) (ha : ∀ chunk stops, a ≠ .read chunk stops) (hst : Step maxClients s a t) :
      WriteStep texts maxClients s (.other a) t
  /-- The handler is called for every payload. -/
  | read (s t) (chunk stops replies accepted p) (hp : s.readFrom = some p)
      (hst : Step maxClients s (.read chunk stops) t)
      (hreplies : ∀ client, handleRead p.client chunk = some client →
        client.handled.length = p.client.handled.length + replies.length)
      (haccepted : List.Forall₂ (fun (m : List UInt8) n => n ≤ m.length)
        (s.messagesRead texts chunk replies) accepted) :
      WriteStep texts maxClients s (.read chunk stops replies accepted) t
  /-- `Broadcast`, the mutex free. -/
  | broadcast (s) (event results) (hk : ∀ rfds k, s.loop ≠ .reading rfds k)
      (hresults : ∀ fd, results fd ≤ (textFrame (texts.dump event)).length) :
      WriteStep texts maxClients s (.broadcast event results) s

/-- What a step writes to the connection `c`. -/
def writes (texts : WsTexts) (s : WsRun) : WriteAction → ℕ → List (Write UInt8)
  | .other _, _ => []
  | .read chunk _ replies accepted, c =>
    if s.readFrom.bind s.connection = some c then
      ((s.messagesRead texts chunk replies).zip accepted).map fun p => Write.mk p.1 p.2
    else []
  | .broadcast event results, c =>
    ((s.receivers.filter (s.connection · = some c)).map fun p =>
      (sendText (texts.dump event)).map fun m => Write.mk m ((p.fd.map results).getD 0)).flatten

variable {maxClients : ℕ} {s t : WsRun}

/-- With the results forgotten, it is a step of the server, or leaves it as it is. -/
theorem WriteStep.toStep {a : WriteAction} (h : WriteStep texts maxClients s a t) :
    t = s ∨ ∃ a', Step maxClients s a' t := by
  cases h with
  | other a _ ha hst => exact .inr ⟨a, hst⟩
  | read _ chunk stops replies accepted p hp hst hreplies haccepted => exact .inr ⟨_, hst⟩
  | broadcast event results hk hresults => exact .inl rfl

/-- Every message is one of the server. -/
theorem message_writes {a : WriteAction} {c : ℕ} {w : Write UInt8} (h : w ∈ s.writes texts a c) :
    texts.IsMessage w.message := by
  cases a with
  | other a => cases h
  | read chunk stops replies accepted =>
    rw [writes] at h
    split at h
    · have hm : w.message ∈ s.messagesRead texts chunk replies := by
        obtain ⟨⟨m, n⟩, hmem, rfl⟩ := List.mem_map.mp h
        exact (List.of_mem_zip hmem).1
      unfold messagesRead at hm
      split at hm
      · cases hm
      · exact isMessage_handleReadMessages hm
    · cases h
  | broadcast event results =>
    obtain ⟨ws, hws, hw⟩ := List.mem_flatten.mp h
    obtain ⟨p, -, rfl⟩ := List.mem_map.mp hws
    obtain ⟨m, hm, rfl⟩ := List.mem_map.mp hw
    exact isMessage_sendText hm

/-- The runs of a server with what it writes. -/
def writing (texts : WsTexts) (maxClients : ℕ) : System (Sending WsRun UInt8) WriteAction :=
  System.sending { init := fun s => s = {}, step := WriteStep texts maxClients } (writes texts)

/-- A run with what is written is a run of the server. -/
theorem reachable_of_writing {s : Sending WsRun UInt8}
    (h : (writing texts maxClients).Reachable s) : (system maxClients).Reachable s.state := by
  have hrun := h.of_sending
  generalize s.state = r at hrun
  induction hrun with
  | init hs => exact .init hs
  | step _ hst ih =>
    rcases WriteStep.toStep hst with rfl | ⟨a, hstep⟩
    · exact ih
    · exact ih.step hstep

/-- A run without a read writes nothing. -/
theorem writing_of_reachable {G : Sending WsRun UInt8 → WriteAction → Prop}
    (hG : ∀ s a, G { state := s } (.other a)) {s : WsRun}
    (h : ((system maxClients).guarded fun _ a => ∀ chunk stops, a ≠ .read chunk stops).Reachable
      s) : ((writing texts maxClients).guarded G).Reachable { state := s } := by
  induction h with
  | init hs => exact .init ⟨hs, rfl⟩
  | @step s t a _ hst ih => exact ih.step ⟨hG s a, .other s a t hst.1 hst.2, rfl⟩

end WsRun

end FalconGuide
