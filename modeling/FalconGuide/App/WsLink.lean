import FalconGuide.App.WsHandshake

namespace FalconGuide

open Lib

/-!
# The connection between the user interface and the server

`WsClient` of the user interface and `WsServer` over the two byte streams of one connection, from
the first byte of the handshake on.  `send` and `read` move any number of bytes, and the steps of
the two sides interleave in any order.

* `UiWsClient.Phase`, `UiWsClient.Phase.receive` — what the client does with the next byte;
* `WsLink`, `WsLink.Step` — the connection, and its steps;
* `WsLink.WholeWrites` — the condition that `::write` takes whole messages;
* `WsLink.Requesting`, `WsLink.Upgraded` — what holds before the upgrade, and after it;
* `link_reliable` — no command and no message is lost, changed or overtaken.
-/

/-! ### The steps -/

/-- What the client does with its socket. -/
inductive UiWsClient.Phase
  /-- `Handshake`, with the bytes of the answer that are there. -/
  | handshake (resp : List UInt8)
  /-- `RecvFrame`, with the bytes of the frame that are there. -/
  | connected (frame : List UInt8)
  | closed
  deriving DecidableEq

/-- The next byte off the socket: what the client does then, and the payload when `RecvFrame`
    returns one. -/
def UiWsClient.Phase.receive : Phase → UInt8 → Phase × List (List UInt8)
  | .handshake resp, b =>
    match recvAnswer (resp ++ [b]) with
    | none => (.handshake (resp ++ [b]), [])
    | some (accepted, _) => (if accepted then .connected [] else .closed, [])
  | .connected frame, b =>
    match UiWsClient.recvFrame (frame ++ [b]) with
    | none => (.connected (frame ++ [b]), [])
    | some (payload, _) => (.connected [], [payload])
  | .closed, _ => (.closed, [])

/-- One connection.  `sent`, `messages` and `received` are history. -/
structure WsLink where
  phase : UiWsClient.Phase := .handshake []
  /-- What `sock_send` of the client has still to send. -/
  unsent : List UInt8
  /-- The bytes on their way to the server. -/
  toServer : List UInt8 := []
  /-- The bytes on their way to the client. -/
  toClient : List UInt8 := []
  server : WsClient := {}
  /-- The payloads of `SendFrame`. -/
  sent : List (List UInt8) := []
  /-- The texts of `SendText`. -/
  messages : List (List UInt8) := []
  /-- The payloads that `RecvFrame` returned. -/
  received : List (List UInt8) := []

/-- The answer to a payload that is not JSON, or at which the handler throws. -/
def badJson : List UInt8 := ascii "\x7b\"event\":\"error\",\"message\":\"bad JSON\"\x7d"

/-- The texts that the loop over the frames sends for a payload. -/
def WsTexts.replyTexts (texts : WsTexts) : Option Json → List (List UInt8)
  | none => [badJson]
  | some .null => []
  | some resp => [texts.dump resp].filter (· ≠ [])

namespace WsLink

variable {texts : WsTexts}

/-- What a step does. -/
inductive Action
  /-- `send` takes `n` bytes from the client. -/
  | push (n : ℕ)
  | send (payload : List UInt8) (mask : Fin 4 → UInt8)
  /-- `recv` of one byte. -/
  | receive
  /-- The client closes its socket: `Disconnect`, or a byte does not come in time. -/
  | leave
  /-- `HandleRead`, with the results of the handler, and how much of every message was taken. -/
  | read (chunk : List UInt8) (replies : List (Option Json)) (accepted : List ℕ)
  /-- `Broadcast`, and how much of the frame was taken. -/
  | broadcast (event : Json) (accepted : ℕ)
  /-- `read` of the server fails, or finds the socket closed. -/
  | hangUp

/-- What `HandleRead` writes, and how much of every message is taken. -/
def written (texts : WsTexts) (l : WsLink) (chunk : List UInt8) (replies : List (Option Json))
    (accepted : List ℕ) : List (Write UInt8) :=
  ((handleReadMessages texts l.server chunk replies).zip accepted).map fun p => ⟨p.1, p.2⟩

/-- One step of either side.  A string is shorter than `2 ^ 63`. -/
inductive Step (texts : WsTexts) : WsLink → Action → WsLink → Prop
  | push (l n) (hphase : l.phase ≠ .closed) (hn : 0 < n ∧ n ≤ l.unsent.length) :
      Step texts l (.push n) { l with
        unsent := l.unsent.drop n
        toServer := l.toServer ++ l.unsent.take n }
  /-- `Send` when `connected_`; the last call has returned. -/
  | send (l frame payload mask) (hphase : l.phase = .connected frame) (hidle : l.unsent = [])
      (hlen : payload.length < 2 ^ 63) :
      Step texts l (.send payload mask) { l with
        unsent := UiWsClient.sendFrame mask payload
        sent := l.sent ++ [payload] }
  /-- `Handshake` reads when it has sent the request. -/
  | receive (l b rest) (hphase : l.phase ≠ .closed)
      (hrequest : ∀ resp, l.phase = .handshake resp → l.unsent = []) (hb : l.toClient = b :: rest) :
      Step texts l .receive { l with
        phase := (l.phase.receive b).1
        toClient := rest
        received := l.received ++ (l.phase.receive b).2 }
  | leave (l) : Step texts l .leave { l with phase := .closed }
  /-- The handler is called for every payload. -/
  | read (l chunk rest replies accepted server) (hopen : l.server.dead = false)
      (hchunk : l.toServer = chunk ++ rest) (hsize : chunk ≠ [] ∧ chunk.length ≤ 4096)
      (hserver : handleRead l.server chunk = some server)
      (hreplies : server.handled.length = l.server.handled.length + replies.length)
      (hlen : ∀ reply ∈ replies, ∀ text ∈ texts.replyTexts reply, text.length < 2 ^ 63) :
      Step texts l (.read chunk replies accepted) { l with
        toServer := rest
        server
        toClient := l.toClient ++ Lib.received (l.written texts chunk replies accepted)
        messages := l.messages ++ replies.flatMap texts.replyTexts }
  | broadcast (l event accepted) (hopen : l.server.dead = false)
      (hupgraded : l.server.upgraded = true) (hlen : (texts.dump event).length < 2 ^ 63) :
      Step texts l (.broadcast event accepted) { l with
        toClient := l.toClient
          ++ Lib.received ((sendText (texts.dump event)).map fun m => ⟨m, accepted⟩)
        messages := l.messages ++ [texts.dump event].filter (· ≠ []) }
  | hangUp (l) : Step texts l .hangUp { l with server := { l.server with dead := true } }

/-- A connection just accepted, the client about to send the request. -/
def system (texts : WsTexts) (request : List UInt8) : System WsLink Action where
  init l := l = { unsent := request }
  step := Step texts

/-- Every `::write` of the server takes the whole message. -/
def WholeWrites (texts : WsTexts) (l : WsLink) : Action → Prop
  | .read chunk replies accepted =>
    accepted = (handleReadMessages texts l.server chunk replies).map List.length
  | .broadcast event accepted => accepted = (textFrame (texts.dump event)).length
  | _ => True

/-! ### What is written -/

/-- The frame of a command. -/
def clientFrame (payload : List UInt8) (mask : Fin 4 → UInt8) : WsFrame :=
  { head := 0x81, mask := some mask, payload }

/-- The frame of a message. -/
def serverFrame (text : List UInt8) : WsFrame := { head := 0x81, mask := none, payload := text }

/-- A text frame, of a length that the protocol allows. -/
structure IsText (f : WsFrame) : Prop where
  wellFormed : f.WellFormed
  isText : f.isText = true

theorem isText_of_head {f : WsFrame} (hhead : f.head = 0x81) (hlen : f.payload.length < 2 ^ 63) :
    IsText f := by
  have hopcode : f.opcode = 0x1 := by
    rw [WsFrame.opcode, hhead]
    decide
  exact ⟨⟨.inl hopcode, hlen⟩, by simp [WsFrame.isText, hopcode]⟩

/-- Whole messages are taken. -/
theorem received_whole (messages : List (List UInt8)) :
    Lib.received ((messages.zip (messages.map List.length)).map fun p => (⟨p.1, p.2⟩ : Write UInt8))
      = messages.flatten := by
  induction messages with
  | nil => rfl
  | cons m messages ih =>
    rw [List.map_cons, List.zip_cons_cons, List.map_cons, received_cons, ih, List.flatten_cons]
    congr 1
    exact List.take_length

/-- The frames of some texts. -/
theorem flatten_textFrame (ms : List (List UInt8)) :
    (ms.map textFrame).flatten = encodeAll (ms.map serverFrame) := by
  rw [encodeAll, List.map_map]
  congr 1
  exact List.map_congr_left fun m _ => textFrame_eq_encode m

theorem sendText_eq (text : List UInt8) :
    sendText text = ([text].filter (· ≠ [])).map textFrame := by
  unfold sendText
  split
  · rename_i hnil
    simp [hnil]
  · rename_i hne
    simp [hne]

/-- `SendText` to a socket that takes the whole frame. -/
theorem received_sendText {text : List UInt8} {accepted : ℕ}
    (haccepted : accepted = (textFrame text).length) :
    Lib.received ((sendText text).map fun m => (⟨m, accepted⟩ : Write UInt8))
      = encodeAll (([text].filter (· ≠ [])).map serverFrame) := by
  rw [← flatten_textFrame, ← sendText_eq]
  unfold sendText
  split
  · rfl
  · rw [List.map_singleton, received_cons, received_nil, List.flatten_singleton, haccepted,
      List.append_nil]
    exact List.take_length

theorem reply_eq (reply : Option Json) :
    texts.reply reply = (texts.replyTexts reply).map textFrame := by
  cases reply with
  | none =>
    have hsend : sendText badJson = [textFrame badJson] := if_neg (List.cons_ne_nil _ _)
    exact hsend
  | some resp =>
    -- nothing is sent for `null`, the dump for every other value
    cases resp <;> first | rfl | exact sendText_eq _

/-- The loop over the frames writes one frame for every text. -/
theorem flatten_reply (replies : List (Option Json)) :
    ((replies.map texts.reply).flatten).flatten
      = encodeAll ((replies.flatMap texts.replyTexts).map serverFrame) := by
  rw [← flatten_textFrame, List.map_flatMap, List.flatMap_def]
  congr 2
  exact List.map_congr_left fun r _ => reply_eq r

/-! ### What is read -/

section Reading

variable {frames : List WsFrame} {c : WsClient} {chunk : List UInt8}

/-- The loop over the frames goes through all that are text. -/
theorem afterRound_texts (hframes : ∀ f ∈ frames, IsText f) :
    afterRound WsFrame.stopsDrain frames = [] := by
  induction frames with
  | nil => rfl
  | cons f frames ih =>
    have htext := (hframes f List.mem_cons_self).isText
    rw [afterRound, WsFrame.stopsDrain, htext]
    exact ih fun g hg => hframes g (List.mem_cons_of_mem f hg)

/-- **`HandleRead` at commands** handles those that are complete. -/
theorem handleRead_texts (hframes : ∀ f ∈ frames, IsText f) (hupgraded : c.upgraded = true)
    (hchunk : c.buf ++ chunk <+: encodeAll frames) :
    ∃ new later part, frames = new ++ later ∧ c.buf ++ chunk = encodeAll new ++ part ∧
      Incomplete part later ∧
      drainFrames { c with buf := c.buf ++ chunk } = handleRead c chunk ∧
      handleRead c chunk = some { c with
        buf := part
        handled := c.handled ++ textPayloads new } := by
  obtain ⟨hsplit, part, hpart, hinc, -⟩ := completed_spec hchunk
  generalize (completed frames (c.buf ++ chunk).length).1 = new at *
  generalize (completed frames (c.buf ++ chunk).length).2.1 = later at *
  subst hsplit
  have hnew : ∀ f ∈ new, IsText f := fun f hf => hframes f (List.mem_append_left _ hf)
  obtain ⟨handled, hdrain, hpayloads⟩ := drainFrames_encode (fun f hf => (hnew f hf).wellFormed)
    (fun f hf => (hframes f (List.mem_append_right _ hf)).wellFormed) hinc c
  rw [afterRound_texts hnew] at hdrain hpayloads
  have hread : handleRead c chunk = drainFrames { c with buf := c.buf ++ chunk } :=
    if_pos hupgraded
  refine ⟨new, later, part, rfl, hpart, hinc, hread.symm, ?_⟩
  rw [hread, hpart, hdrain, ← hpayloads]
  exact congrArg some (by simp [textPayloads])

theorem incomplete_nil (frames : List WsFrame) : Incomplete [] frames where
  isStart := List.nil_prefix
  short := fun _ _ => by simp [WsFrame.encode]

/-- More frames behind it do not complete a part of a frame. -/
theorem incomplete_append {xs : List UInt8} (hxs : Incomplete xs frames) (more : List WsFrame) :
    Incomplete xs (frames ++ more) := by
  cases frames with
  | nil =>
    obtain rfl : xs = [] := List.prefix_nil.mp hxs.isStart
    exact incomplete_nil more
  | cons f frames =>
    refine ⟨?_, hxs.short⟩
    rw [encodeAll_append]
    exact hxs.isStart.trans (List.prefix_append _ _)

/-- All bytes of the frames are there: no part of one is left. -/
theorem eq_nil_of_incomplete {xs : List UInt8} (hxs : Incomplete xs frames)
    (hall : xs = encodeAll frames) : frames = [] := by
  cases frames with
  | nil => rfl
  | cons f frames =>
    have hshort := hxs.short f rfl
    rw [hall, encodeAll_cons, List.length_append] at hshort
    omega

end Reading

end WsLink

namespace UiWsClient

/-- **The next byte** of what a reader returns for: it is the last one, or the reader goes on. -/
theorem Stable.byte {α : Type} {x : Socket α} (hx : Stable x) {item bytes rest more : List UInt8}
    {a : α} {b : UInt8} (hitem : x item = some (a, [])) (hshort : bytes.length < item.length)
    (hstream : bytes ++ b :: rest = item ++ more) :
    (x (bytes ++ [b]) = some (a, []) ∧ rest = more) ∨
      (x (bytes ++ [b]) = none ∧ (bytes ++ [b]).length < item.length
        ∧ (bytes ++ [b]) ++ rest = item ++ more) := by
  have hstream' : (bytes ++ [b]) ++ rest = item ++ more := by
    rw [← hstream]
    simp
  obtain ⟨tail, htail⟩ : bytes ++ [b] <+: item := by
    refine List.prefix_of_prefix_length_le ⟨rest, hstream'⟩ (List.prefix_append _ _) ?_
    rw [List.length_append, List.length_singleton]
    omega
  cases tail with
  | nil =>
    rw [List.append_nil] at htail
    left
    rw [htail] at hstream' ⊢
    exact ⟨hitem, List.append_cancel_left hstream'⟩
  | cons t tail =>
    right
    refine ⟨hx.eq_none (by rw [htail]; exact hitem) (List.cons_ne_nil t tail), ?_, hstream'⟩
    rw [← htail]
    simp only [List.length_append, List.length_cons]
    omega

end UiWsClient

namespace WsLink

variable {texts : WsTexts} {l l' : WsLink} {a : Action} {request answer : List UInt8}

/-! ### Before the upgrade -/

/-- The request is on its way. -/
structure Requesting (request : List UInt8) (l : WsLink) : Prop where
  notUpgraded : l.server.upgraded = false
  stream : l.server.buf ++ l.toServer ++ l.unsent = request
  part : l.server.buf.length < request.length
  toClient : l.toClient = []
  phase : l.phase = .handshake [] ∨ l.phase = .closed
  handled : l.server.handled = []
  discarded : l.server.discarded = []
  sent : l.sent = []
  messages : l.messages = []
  received : l.received = []

/-! ### After the upgrade -/

/-- The commands: those that are not handled are on their way. -/
def Commands (l : WsLink) : Prop :=
  ∃ frames, (∀ f ∈ frames, IsText f) ∧
    l.server.buf ++ l.toServer ++ l.unsent = encodeAll frames ∧
    l.sent = l.server.handled ++ textPayloads frames ∧ Incomplete l.server.buf frames

/-- The messages, behind the answer: those that are not received are on their way. -/
def Messages (answer : List UInt8) (l : WsLink) : Prop :=
  match l.phase with
  | .handshake resp => l.unsent = [] ∧ l.sent = [] ∧ l.received = [] ∧ resp.length < answer.length ∧
      resp ++ l.toClient = answer ++ encodeAll (l.messages.map serverFrame)
  | .connected frame => ∃ ms, l.messages = l.received ++ ms ∧
      frame ++ l.toClient = encodeAll (ms.map serverFrame) ∧
      Incomplete frame (ms.map serverFrame)
  | .closed => l.received <+: l.messages

/-- The server has sent the answer. -/
structure Upgraded (answer : List UInt8) (l : WsLink) : Prop where
  upgraded : l.server.upgraded = true
  discarded : l.server.discarded = []
  commands : l.Commands
  messages : l.Messages answer
  texts : ∀ text ∈ l.messages, text.length < 2 ^ 63

/-! ### The steps before the upgrade -/

/-- What `HandleRead` writes when the buffer holds a part of the request: nothing. -/
theorem handleReadMessages_part (hrequest : Handshake request) {c : WsClient}
    (hc : c.upgraded = false) {chunk more : List UInt8} (hbuf : (c.buf ++ chunk) ++ more = request)
    (hmore : more ≠ []) (replies : List (Option Json)) :
    handleReadMessages texts c chunk replies = [] := by
  simp [handleReadMessages, hc, afterFirst_part hrequest hbuf hmore]

/-- What it writes when the buffer holds the request: the answer. -/
theorem handleReadMessages_request (hrequest : Handshake request) {key : List UInt8}
    (hkey : upgradeKey request = some key) {c : WsClient} (hc : c.upgraded = false)
    {chunk : List UInt8} (hbuf : c.buf ++ chunk = request) (replies : List (Option Json)) :
    handleReadMessages texts c chunk replies = [texts.upgradeAnswer key] := by
  have hupgrade := hrequest.upgrade
  rw [← Bool.or_eq_true] at hupgrade
  simp only [handleReadMessages, hc, hbuf, hrequest.headers, hupgrade, hkey]
  rfl

/-- A read before the upgrade: the server waits, or it answers. -/
theorem Requesting.read (texts : WsTexts) (hrequest : Handshake request) {key : List UInt8}
    (hkey : upgradeKey request = some key) (h : l.Requesting request)
    {chunk rest : List UInt8} (hchunk : l.toServer = chunk ++ rest) :
    (handleRead l.server chunk = some { l.server with buf := l.server.buf ++ chunk } ∧
        (l.server.buf ++ chunk).length < request.length ∧
        ∀ replies, handleReadMessages texts l.server chunk replies = []) ∨
      (handleRead l.server chunk = some { l.server with upgraded := true, buf := [] } ∧
        rest = [] ∧ l.unsent = [] ∧
        ∀ replies,
          handleReadMessages texts l.server chunk replies = [texts.upgradeAnswer key]) := by
  have hstream : (l.server.buf ++ chunk) ++ (rest ++ l.unsent) = request := by
    rw [← h.stream, hchunk]
    simp
  by_cases hmore : rest ++ l.unsent = []
  · -- the request is complete
    right
    obtain ⟨hrest, hunsent⟩ := List.append_eq_nil_iff.mp hmore
    rw [hmore, List.append_nil] at hstream
    have hbuf : l.server.buf ++ chunk = request ++ [] := by rw [hstream, List.append_nil]
    refine ⟨?_, hrest, hunsent,
      handleReadMessages_request hrequest hkey h.notUpgraded hstream⟩
    rw [handleRead_handshake hrequest h.notUpgraded hbuf, List.append_nil]
  · left
    refine ⟨handleRead_part hrequest h.notUpgraded hstream hmore, ?_,
      handleReadMessages_part hrequest h.notUpgraded hstream hmore⟩
    have hpos := List.length_pos_iff.mpr hmore
    have hlength := congrArg List.length hstream
    simp only [List.length_append] at hlength hpos ⊢
    omega

/-- Every step before the upgrade keeps the request on its way, or is the upgrade. -/
theorem Requesting.step (hrequest : Handshake request) {key : List UInt8}
    (hkey : upgradeKey request = some key) (h : l.Requesting request)
    (hst : ((system texts request).guarded (WholeWrites texts)).step l a l') :
    l'.Requesting request ∨ l'.Upgraded (texts.upgradeAnswer key) := by
  obtain ⟨hwhole, hst⟩ := hst
  cases hst with
  | push n hphase hn =>
    refine .inl { h with stream := ?_ }
    rw [← h.stream]
    simp
  | send frame payload mask hphase hidle hlen =>
    rcases h.phase with hp | hp <;> rw [hp] at hphase <;> cases hphase
  | receive b rest hphase hreq hb =>
    rw [h.toClient] at hb
    cases hb
  | leave => exact .inl { h with phase := .inr rfl }
  | hangUp => exact .inl { h with }
  | broadcast event accepted hopen hupgraded hlen =>
    rw [h.notUpgraded] at hupgraded
    cases hupgraded
  | read chunk rest replies accepted server hopen hchunk hsize hserver hreplies hlen =>
    -- no payload is handled before the upgrade
    have hnone : ∀ c, handleRead l.server chunk = some c → c.handled = l.server.handled →
        replies = [] := by
      intro c hc hhandled
      rw [hserver, Option.some.injEq] at hc
      rw [hc, hhandled] at hreplies
      exact List.length_eq_zero_iff.mp (by omega)
    rcases h.read texts hrequest hkey hchunk with
      ⟨hread, hpart, hwritten⟩ | ⟨hread, hrest, hunsent, hwritten⟩
    · obtain rfl := hnone _ hread rfl
      obtain rfl := Option.some.inj (hserver.symm.trans hread)
      refine .inl { h with stream := ?_, part := hpart, toClient := ?_, messages := ?_ }
      · rw [← h.stream, hchunk]
        simp
      · rw [written, hwritten, h.toClient]
        rfl
      · rw [h.messages]
        rfl
    · obtain rfl := hnone _ hread rfl
      obtain rfl := Option.some.inj (hserver.symm.trans hread)
      have hanswer :
          Lib.received (l.written texts chunk [] accepted) = texts.upgradeAnswer key := by
        rw [hwhole, written, received_whole, hwritten]
        exact List.append_nil _
      refine .inr ⟨rfl, h.discarded, ⟨[], by simp, ?_, ?_, ?_⟩, ?_, ?_⟩
      · simp [hrest, hunsent]
      · simp [h.sent, h.handled, textPayloads]
      · exact incomplete_nil []
      · rcases h.phase with hp | hp
        · simp only [Messages, hp]
          refine ⟨hunsent, h.sent, h.received, List.length_pos_iff.mpr (List.cons_ne_nil _ _), ?_⟩
          rw [hanswer, h.toClient, h.messages]
          simp
        · simp only [Messages, hp, h.received]
          exact List.nil_prefix
      · simp [h.messages]

/-! ### The steps after the upgrade -/

/-- The client hands over more of a command. -/
theorem Commands.push (h : l.Commands) (n : ℕ) :
    Commands { l with
      unsent := l.unsent.drop n
      toServer := l.toServer ++ l.unsent.take n } := by
  obtain ⟨frames, htexts, hstream, hsent, hpart⟩ := h
  refine ⟨frames, htexts, ?_, hsent, hpart⟩
  rw [← hstream]
  simp

/-- The client begins a command, the last one sent. -/
theorem Commands.send (h : l.Commands) (hidle : l.unsent = []) {payload : List UInt8}
    (hlen : payload.length < 2 ^ 63) (mask : Fin 4 → UInt8) :
    Commands { l with
      unsent := UiWsClient.sendFrame mask payload
      sent := l.sent ++ [payload] } := by
  obtain ⟨frames, htexts, hstream, hsent, hpart⟩ := h
  rw [hidle, List.append_nil] at hstream
  have htext : IsText (clientFrame payload mask) := isText_of_head rfl hlen
  refine ⟨frames ++ [clientFrame payload mask], ?_, ?_, ?_, incomplete_append hpart _⟩
  · intro f hf
    rcases List.mem_append.mp hf with hf | hf
    · exact htexts f hf
    · rw [List.mem_singleton.mp hf]
      exact htext
  · rw [hstream, encodeAll_append, UiWsClient.sendFrame_eq_encode]
    simp [clientFrame]
  · rw [hsent, textPayloads_append, textPayloads_cons_of_text htext.isText, List.append_assoc]
    rfl

/-- The server handles the commands that a read completes. -/
theorem Commands.read (h : l.Commands) (hupgraded : l.server.upgraded = true)
    {chunk rest : List UInt8} (hchunk : l.toServer = chunk ++ rest) :
    ∃ part new, handleRead l.server chunk = some { l.server with
        buf := part
        handled := l.server.handled ++ new } ∧
      drainFrames { l.server with buf := l.server.buf ++ chunk } = handleRead l.server chunk ∧
      ∀ toClient messages, Commands { l with
        toServer := rest
        server := { l.server with buf := part, handled := l.server.handled ++ new }
        toClient, messages } := by
  obtain ⟨frames, htexts, hstream, hsent, hpart⟩ := h
  have hprefix : l.server.buf ++ chunk <+: encodeAll frames := by
    refine ⟨rest ++ l.unsent, ?_⟩
    rw [← hstream, hchunk]
    simp
  obtain ⟨new, later, part, rfl, hbuf, hinc, hdrain, hread⟩ :=
    handleRead_texts htexts hupgraded hprefix
  refine ⟨part, textPayloads new, hread, hdrain, fun toClient messages =>
    ⟨later, fun f hf => htexts f (List.mem_append_right _ hf), ?_, ?_, hinc⟩⟩
  · have hsplit : encodeAll new ++ (part ++ rest ++ l.unsent)
        = encodeAll new ++ encodeAll later := by
      rw [← encodeAll_append, ← hstream, hchunk, ← List.append_assoc l.server.buf, hbuf]
      simp
    exact List.append_cancel_left hsplit
  · rw [hsent, textPayloads_append, List.append_assoc]

/-- More messages behind those on their way. -/
theorem Messages.append (h : l.Messages answer) (new : List (List UInt8)) (toServer : List UInt8)
    (server : WsClient) :
    Messages answer { l with
      toServer
      server
      toClient := l.toClient ++ encodeAll (new.map serverFrame)
      messages := l.messages ++ new } := by
  unfold Messages at h ⊢
  dsimp only
  split at h
  · rename_i resp hphase
    obtain ⟨hunsent, hsent, hreceived, hshort, hstream⟩ := h
    refine ⟨hunsent, hsent, hreceived, hshort, ?_⟩
    rw [← List.append_assoc, hstream, List.map_append, encodeAll_append, List.append_assoc]
  · rename_i frame hphase
    obtain ⟨ms, hmessages, hstream, hpart⟩ := h
    refine ⟨ms ++ new, by rw [hmessages, List.append_assoc], ?_, ?_⟩
    · rw [← List.append_assoc, hstream, List.map_append, encodeAll_append]
    · rw [List.map_append]
      exact incomplete_append hpart _
  · exact h.trans (List.prefix_append _ _)

/-- **The next byte** of the answer or of a message. -/
theorem Messages.receive (h : l.Messages answer)
    (hanswer : UiWsClient.recvAnswer answer = some (true, []))
    (htexts : ∀ text ∈ l.messages, text.length < 2 ^ 63) {b : UInt8} {rest : List UInt8}
    (hb : l.toClient = b :: rest) :
    Messages answer { l with
      phase := (l.phase.receive b).1
      toClient := rest
      received := l.received ++ (l.phase.receive b).2 } := by
  unfold Messages at h
  split at h
  · rename_i resp hphase
    obtain ⟨hunsent, hsent, hreceived, hshort, hstream⟩ := h
    rw [hb] at hstream
    rcases UiWsClient.stable_recvAnswer.byte hanswer hshort hstream with
      ⟨hrecv, hrest⟩ | ⟨hrecv, hshort', hstream'⟩
    · -- the answer is complete
      simp only [Messages, hphase, UiWsClient.Phase.receive, hrecv, if_true]
      exact ⟨l.messages, by rw [hreceived]; rfl, hrest, incomplete_nil _⟩
    · simp only [Messages, hphase, UiWsClient.Phase.receive, hrecv]
      exact ⟨hunsent, hsent, by rw [hreceived]; rfl, hshort', hstream'⟩
  · rename_i frame hphase
    obtain ⟨ms, hmessages, hstream, hpart⟩ := h
    rw [hb] at hstream
    cases ms with
    | nil =>
      have hlen := congrArg List.length hstream
      simp at hlen
    | cons m ms =>
      have hlen : m.length < 2 ^ 63 := htexts m (by simp [hmessages])
      have hframe : UiWsClient.recvFrame (serverFrame m).encode = some (m, []) := by
        have hrecv := UiWsClient.recvFrame_textFrame hlen []
        rwa [List.append_nil, textFrame_eq_encode] at hrecv
      rcases UiWsClient.stable_recvFrame.byte hframe (hpart.short _ rfl) hstream with
        ⟨hrecv, hrest⟩ | ⟨hrecv, hshort', hstream'⟩
      · -- the message is complete
        simp only [Messages, hphase, UiWsClient.Phase.receive, hrecv]
        exact ⟨ms, by rw [hmessages, List.append_assoc]; rfl, hrest, incomplete_nil _⟩
      · simp only [Messages, hphase, UiWsClient.Phase.receive, hrecv, List.append_nil]
        refine ⟨m :: ms, hmessages, hstream', ⟨rest, hstream'⟩, ?_⟩
        intro f hf
        cases hf
        exact hshort'
  · rename_i hphase
    simp only [Messages, hphase, UiWsClient.Phase.receive, List.append_nil]
    exact h

/-- What is received was sent. -/
theorem Messages.received_prefix (h : l.Messages answer) : l.received <+: l.messages := by
  unfold Messages at h
  split at h
  · rw [h.2.2.1]
    exact List.nil_prefix
  · obtain ⟨ms, hmessages, -⟩ := h
    exact ⟨ms, hmessages.symm⟩
  · exact h

/-- With nothing on its way to the client, it is connected, and has all messages. -/
theorem Messages.idle (h : l.Messages answer) (hphase : l.phase ≠ .closed)
    (htoClient : l.toClient = []) : l.phase = .connected [] ∧ l.received = l.messages := by
  unfold Messages at h
  split at h
  · -- a part of the answer is missing, and not on its way
    obtain ⟨-, -, -, hshort, hstream⟩ := h
    have hlen := congrArg List.length hstream
    simp only [htoClient, List.append_nil, List.length_append] at hlen
    omega
  · rename_i frame hconnected
    obtain ⟨ms, hmessages, hstream, hpart⟩ := h
    rw [htoClient, List.append_nil] at hstream
    have hnil := eq_nil_of_incomplete hpart hstream
    rw [hnil, encodeAll_nil] at hstream
    rw [List.map_eq_nil_iff] at hnil
    exact ⟨by rw [hconnected, hstream], by rw [hmessages, hnil, List.append_nil]⟩
  · rename_i hclosed
    exact absurd hclosed hphase

/-- Every step after the upgrade keeps what is on its way. -/
theorem Upgraded.step (h : l.Upgraded answer)
    (hanswer : UiWsClient.recvAnswer answer = some (true, []))
    (hst : ((system texts request).guarded (WholeWrites texts)).step l a l') :
    l'.Upgraded answer := by
  obtain ⟨hwhole, hst⟩ := hst
  cases hst with
  | push n hphase hn =>
    refine { h with commands := h.commands.push n, messages := ?_ }
    have hmessages := h.messages
    unfold Messages at hmessages ⊢
    dsimp only
    split at hmessages
    · -- the request has been sent before the answer
      rw [hmessages.1, List.length_nil] at hn
      omega
    · exact hmessages
    · exact hmessages
  | send frame payload mask hphase hidle hlen =>
    refine { h with commands := h.commands.send hidle hlen mask, messages := ?_ }
    have hmessages := h.messages
    simp only [Messages, hphase] at hmessages ⊢
    exact hmessages
  | receive b rest hphase hreq hb =>
    exact { h with commands := h.commands, messages := h.messages.receive hanswer h.texts hb }
  | leave => exact { h with commands := h.commands, messages := h.messages.received_prefix }
  | hangUp => exact { h with commands := h.commands, messages := h.messages }
  | broadcast event accepted hopen hupgraded hlen =>
    rw [received_sendText hwhole]
    refine { h with
      commands := h.commands
      messages := h.messages.append _ _ _
      texts := fun text htext => ?_ }
    rcases List.mem_append.mp htext with htext | htext
    · exact h.texts text htext
    · rw [List.mem_singleton.mp (List.mem_of_mem_filter htext)]
      exact hlen
  | read chunk rest replies accepted server hopen hchunk hsize hserver hreplies hlen =>
    obtain ⟨part, new, hread, hdrain, hcommands⟩ := h.commands.read h.upgraded hchunk
    obtain rfl := Option.some.inj (hserver.symm.trans hread)
    -- no close frame is written: the client stays
    have hwritten : handleReadMessages texts l.server chunk replies
        = (replies.map texts.reply).flatten := by
      have hdead :
          (drainFrames { l.server with buf := l.server.buf ++ chunk }).any (·.dead) = false := by
        rw [hdrain, hread]
        exact hopen
      unfold handleReadMessages
      dsimp only
      rw [if_pos h.upgraded, hdead]
      exact List.append_nil _
    have hbytes : Lib.received (l.written texts chunk replies accepted)
        = encodeAll ((replies.flatMap texts.replyTexts).map serverFrame) := by
      rw [hwhole, written, received_whole, hwritten, flatten_reply]
    rw [hbytes]
    refine { h with
      commands := hcommands _ _
      messages := h.messages.append _ _ _
      texts := fun text htext => ?_ }
    rcases List.mem_append.mp htext with htext | htext
    · exact h.texts text htext
    · obtain ⟨reply, hreply, htext'⟩ := List.mem_flatMap.mp htext
      exact hlen reply hreply text htext'

/-! ### All runs -/

/-- What the connection keeps. -/
structure Reliable (l : WsLink) : Prop where
  /-- The handler gets the commands in their order, each once. -/
  commands : l.server.handled <+: l.sent
  /-- The client gets the messages in their order, each once. -/
  messages : l.received <+: l.messages
  /-- The buffer that the upgrade clears holds the request, and nothing else. -/
  discarded : l.server.discarded = []
  /-- No read throws, nor does one close the connection. -/
  reads : ∀ chunk rest, l.toServer = chunk ++ rest → ∃ server,
    handleRead l.server chunk = some server ∧ server.dead = l.server.dead ∧
      l.server.handled <+: server.handled
  /-- When no byte is on its way to the server, all commands have been handled. -/
  allCommands : l.unsent = [] → l.toServer = [] → l.server.handled = l.sent
  /-- When no byte is on its way to the client, it has all messages. -/
  allMessages : l.phase ≠ .closed → l.toClient = [] → l.received = l.messages
  /-- When nothing is on its way, neither side waits for the other one. -/
  connected : l.phase ≠ .closed → l.server.dead = false → l.unsent = [] → l.toServer = [] →
    l.toClient = [] → l.phase = .connected [] ∧ l.server.upgraded = true

theorem Requesting.reliable (hrequest : Handshake request) {key : List UInt8}
    (hkey : upgradeKey request = some key) (h : l.Requesting request) : l.Reliable where
  commands := by
    rw [h.handled]
    exact List.nil_prefix
  messages := by
    rw [h.received]
    exact List.nil_prefix
  discarded := h.discarded
  reads chunk rest hchunk := by
    rcases h.read ⟨fun _ => [], fun _ => [], []⟩ hrequest hkey hchunk with
      ⟨hread, -⟩ | ⟨hread, -⟩
    · exact ⟨_, hread, rfl, List.prefix_rfl⟩
    · exact ⟨_, hread, rfl, List.prefix_rfl⟩
  allCommands _ _ := by rw [h.handled, h.sent]
  allMessages _ _ := by rw [h.received, h.messages]
  connected _ _ hunsent htoServer _ := by
    -- the server has not got the whole request: it is somewhere
    have hstream := h.stream
    rw [hunsent, htoServer, List.append_nil, List.append_nil] at hstream
    exact absurd h.part (by rw [hstream]; exact Nat.lt_irrefl _)

theorem Upgraded.reliable (h : l.Upgraded answer) : l.Reliable where
  commands := by
    obtain ⟨frames, -, -, hsent, -⟩ := h.commands
    exact ⟨_, hsent.symm⟩
  messages := h.messages.received_prefix
  discarded := h.discarded
  reads chunk rest hchunk := by
    obtain ⟨part, new, hread, -⟩ := h.commands.read h.upgraded hchunk
    exact ⟨_, hread, rfl, List.prefix_append _ _⟩
  allCommands hunsent htoServer := by
    obtain ⟨frames, -, hstream, hsent, hpart⟩ := h.commands
    rw [hunsent, htoServer, List.append_nil, List.append_nil] at hstream
    rw [hsent, eq_nil_of_incomplete hpart hstream, textPayloads]
    simp
  allMessages hphase htoClient := (h.messages.idle hphase htoClient).2
  connected hphase _ _ _ htoClient := ⟨(h.messages.idle hphase htoClient).1, h.upgraded⟩

/-- **Every run** is before the upgrade or behind it. -/
theorem requesting_or_upgraded (hrequest : Handshake request) {key : List UInt8}
    (hkey : upgradeKey request = some key)
    (hanswer : UiWsClient.recvAnswer (texts.upgradeAnswer key) = some (true, []))
    (h : ((system texts request).guarded (WholeWrites texts)).Reachable l) :
    l.Requesting request ∨ l.Upgraded (texts.upgradeAnswer key) := by
  refine h.invariant (I := fun l => l.Requesting request ∨ l.Upgraded (texts.upgradeAnswer key))
    ?_ ?_
  · rintro _ rfl
    refine .inl ⟨rfl, rfl, ?_, rfl, .inl rfl, rfl, rfl, rfl, rfl, rfl⟩
    -- a request is not empty
    have hle := length_afterFirst hrequest.headers
    have hfour : (crlf ++ crlf).length = 4 := rfl
    show 0 < request.length
    omega
  · rintro _ _ _ - (hbefore | hafter) hst
    · exact hbefore.step hrequest hkey hst
    · exact .inr (hafter.step hanswer hst)

end WsLink

/-- The texts of the server, with the value that `DoUpgrade` computes. -/
def serverTexts (dump : Json → List UInt8) (page : List UInt8) : WsTexts :=
  { dump, accept := WsServer.accept, page }

section Request

variable {host : List UInt8} {port : UInt16} {keyBytes : List UInt8}

/-- The request of a client. -/
abbrev uiRequest (host : List UInt8) (port : UInt16) (keyBytes : List UInt8) : List UInt8 :=
  UiWsClient.request host port (UiWsClient.base64 keyBytes)

theorem plainText_uiKey : PlainText (UiWsClient.base64 keyBytes) := by
  rw [UiWsClient.base64_eq]
  exact plainText_base64 keyBytes

theorem uiRequest_handshake (hhost : PlainText host) : Handshake (uiRequest host port keyBytes) :=
  request_handshake hhost plainText_uiKey

theorem upgradeKey_uiRequest (hhost : PlainText host) :
    upgradeKey (uiRequest host port keyBytes) = some (UiWsClient.base64 keyBytes) :=
  upgradeKey_request hhost plainText_uiKey

theorem recvAnswer_serverTexts (dump : Json → List UInt8) (page key : List UInt8) :
    UiWsClient.recvAnswer ((serverTexts dump page).upgradeAnswer key) = some (true, []) := by
  have hanswer : UiWsClient.recvAnswer ((serverTexts dump page).upgradeAnswer key ++ []) =
      some (true, []) :=
    recvAnswer_upgradeAnswer (plainText_base64 _) (length_accept key) []
  rwa [List.append_nil] at hanswer

end Request

/-- The runs of a connection whose server's writes are taken whole. -/
abbrev uiLink (host : List UInt8) (port : UInt16) (keyBytes : List UInt8)
    (dump : Json → List UInt8) (page : List UInt8) : System WsLink WsLink.Action :=
  (WsLink.system (serverTexts dump page) (uiRequest host port keyBytes)).guarded
    (WsLink.WholeWrites (serverTexts dump page))

namespace WsLink

variable {host : List UInt8} {port : UInt16} {keyBytes : List UInt8} {dump : Json → List UInt8}
  {page : List UInt8} {l : WsLink}

theorem reachable_cases (hhost : PlainText host)
    (h : (uiLink host port keyBytes dump page).Reachable l) :
    l.Requesting (uiRequest host port keyBytes) ∨
      l.Upgraded ((serverTexts dump page).upgradeAnswer (UiWsClient.base64 keyBytes)) :=
  requesting_or_upgraded (uiRequest_handshake hhost) (upgradeKey_uiRequest hhost)
    (recvAnswer_serverTexts dump page _) h

theorem reachable_reliable (hhost : PlainText host)
    (h : (uiLink host port keyBytes dump page).Reachable l) : l.Reliable := by
  rcases reachable_cases hhost h with hbefore | hafter
  · exact hbefore.reliable (uiRequest_handshake hhost) (upgradeKey_uiRequest hhost)
  · exact hafter.reliable

end WsLink

/-- **The connection is reliable.** For every host name, port and key, and in every order of the
    steps of both sides, as long as the server's writes are taken whole. -/
theorem link_reliable (host : List UInt8) (hhost : PlainText host) (port : UInt16)
    (keyBytes : List UInt8) (dump : Json → List UInt8) (page : List UInt8) (l : WsLink)
    (h : (uiLink host port keyBytes dump page).Reachable l) : l.Reliable :=
  WsLink.reachable_reliable hhost h

theorem plainText_loopback : PlainText (ascii "127.0.0.1") := by
  have hbytes : ascii "127.0.0.1" = [49, 50, 55, 46, 48, 46, 48, 46, 49] := rfl
  simp [hbytes, PlainText]

/-- The first ten bytes of a request are on their way. -/
theorem link_reliable_ten :
    WsLink.Reliable {
      unsent := (uiRequest (ascii "127.0.0.1") 8765 []).drop 10
      toServer := (uiRequest (ascii "127.0.0.1") 8765 []).take 10 } := by
  refine link_reliable (ascii "127.0.0.1") plainText_loopback 8765 [] (fun _ => []) [] _
    ((System.Reachable.init rfl).step (l := .push 10) ⟨trivial, ?_⟩)
  refine .push { unsent := _ } 10 (by simp) ⟨by decide, ?_⟩
  have hfirst : 10 ≤ (ascii "GET / HTTP/1.1\r\nHost: ").length := by decide
  simp only [UiWsClient.request, List.length_append]
  omega

end FalconGuide
