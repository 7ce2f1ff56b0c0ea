import FalconGuide.App.IpcWrites
import FalconGuide.App.WsDescriptors
import FalconGuide.App.WsWrites

namespace FalconGuide

open Lib

/-!
# Whole messages

Both servers hand a message to one `::write` and drop what the socket does not take: the IPC server
compares the result with zero, the WebSocket server ignores it.  The next message then starts in the
middle of the last one.

* `IpcRun.ReceivesFramed`, `WsRun.ReceivesFramed` — clients have received whole messages and a part
  of one;
* `messages_framed` — the main result: so it is when no socket takes anything behind a message that
  it took in part;
* `message_starts_in_the_middle` — a socket that takes one byte, and then a whole line.
-/

/-- What every registered client has received: whole lines with an event each, in their order, and
    a part of one. -/
def IpcRun.ReceivesFramed (dump : Json → List UInt8) (s : Sending IpcRun UInt8) : Prop :=
  ∀ fd ∈ s.state.clients, ∀ c, s.state.fds.table fd = some c →
    (∀ w ∈ s.sent c, ∃ event, w.message = ipcMessage dump event) ∧
      Framed ((s.sent c).map Write.message) (Lib.received (s.sent c))

/-- What every client has received: whole messages, in their order, and a part of one. -/
def WsRun.ReceivesFramed (texts : WsTexts) (s : Sending WsRun UInt8) : Prop :=
  ∀ p ∈ s.state.clients, ∀ c, s.state.connection p = some c →
    (∀ w ∈ s.sent c, texts.IsMessage w.message) ∧
      Framed ((s.sent c).map Write.message) (Lib.received (s.sent c))

/-- **Whole messages.** In every run in which no socket takes anything behind a message that it took
    in part, the clients of both servers have received whole messages and a part of one. -/
theorem messages_framed (dump : Json → List UInt8) (texts : WsTexts) (maxIpc maxWs : ℕ)
    (s : Sending IpcRun UInt8) (t : Sending WsRun UInt8)
    (hs : ((IpcRun.writing dump maxIpc).guarded
      (Sending.Unbroken (IpcRun.writes dump))).Reachable s)
    (ht : ((WsRun.writing texts maxWs).guarded
      (Sending.Unbroken (WsRun.writes texts))).Reachable t) :
    IpcRun.ReceivesFramed dump s ∧ WsRun.ReceivesFramed texts t := by
  constructor
  · intro fd _ c _
    refine ⟨?_, hs.framed c⟩
    exact hs.of_guarded.messages (P := fun m => ∃ event, m = ipcMessage dump event)
      (fun _ _ _ _ _ _ hw => IpcRun.message_writes hw) c
  · intro p _ c _
    refine ⟨?_, ht.framed c⟩
    exact ht.of_guarded.messages (P := texts.IsMessage)
      (fun _ _ _ _ _ _ hw => WsRun.message_writes hw) c

/-! ### Runs -/

/-- The event of `BroadcastError`, and its text. -/
def exampleEvent : Json := .obj [("event", .str "error"), ("message", .str "x")]

@[inherit_doc exampleEvent]
def exampleDump : Json → List UInt8 := fun _ =>
  ascii "\x7b\"event\":\"error\",\"message\":\"x\"\x7d"

/-- A client at the descriptor 5, to which nothing was written. -/
theorem reachable_client {G : Sending IpcRun UInt8 → IpcRun.WriteAction → Prop}
    (hG : ∀ s a, G { state := s } (.other a)) :
    ((IpcRun.writing exampleDump 1).guarded G).Reachable
      { state := { IpcRun.started.connected 5 with loop := .head } } := by
  refine IpcRun.writing_of_reachable hG ?_
  have h : ((IpcRun.system 1).guarded fun _ a => ∀ dead, a ≠ .broadcast dead).Reachable
      IpcRun.started := IpcRun.reachable_started nofun
  exact IpcRun.reachable_connected (fun _ _ => nofun) 5 (fun _ _ _ => nofun) h rfl rfl rfl rfl rfl

/-- The state of `reachable_client`. -/
def oneClient : IpcRun := { IpcRun.started.connected 5 with loop := .head }

/-- A `Broadcast` to that client, of which `n` bytes are taken. -/
theorem reachable_broadcast {G : Sending IpcRun UInt8 → IpcRun.WriteAction → Prop}
    {sent : ℕ → List (Write UInt8)} {n : ℕ}
    (h : ((IpcRun.writing exampleDump 1).guarded G).Reachable { state := oneClient, sent })
    (hn : n ≤ (ipcMessage exampleDump exampleEvent).length)
    (hG : G { state := oneClient, sent } (.broadcast exampleEvent fun _ => some n)) :
    ((IpcRun.writing exampleDump 1).guarded G).Reachable
      { state := oneClient
        sent := fun c => sent c ++
          oneClient.writes exampleDump (.broadcast exampleEvent fun _ => some n) c } := by
  refine h.step ⟨hG, ?_, rfl⟩
  refine .broadcast oneClient exampleEvent _ rfl ?_
  intro fd k hk
  cases hk
  exact hn

/-- What it writes. -/
theorem writes_broadcast (n c : ℕ) :
    oneClient.writes exampleDump (.broadcast exampleEvent fun _ => some n) c
      = if c = 0 then [⟨ipcMessage exampleDump exampleEvent, n⟩] else [] := by
  by_cases hc : c = 0
  · subst hc
    rfl
  · have hne : ¬ oneClient.fds.table 5 = some c := fun h => hc (Option.some.inj h).symm
    have hnone : oneClient.clients.filter (oneClient.fds.table · = some c) = [] :=
      List.filter_cons_of_neg (by simpa using hne)
    rw [if_neg hc, IpcRun.writes, hnone]
    rfl

/-- Two writes, of which the first was not short. -/
theorem unbroken_pair {w v : Write UInt8} (h : ¬ w.Short) : Unbroken [w, v] := by
  refine List.pairwise_cons.mpr ⟨?_, List.pairwise_singleton _ _⟩
  intro _ _ hshort
  exact absurd hshort h

theorem unbroken_ite {p : Prop} [Decidable p] {ws : List (Write UInt8)} (h : Unbroken ws) :
    Unbroken (if p then ws else []) := by
  split
  · exact h
  · exact List.Pairwise.nil

/-- The texts of a WebSocket server around that event. -/
def exampleTexts : WsTexts := ⟨exampleDump, id, []⟩

/-- Its answer to `exampleHandshake`. -/
def exampleAnswer : List UInt8 := exampleTexts.upgradeAnswer (ascii "dGhlIA==")

/-- What it writes when it reads the handshake of its only client. -/
theorem messagesRead_exampleHandshake :
    WsRun.messagesRead exampleTexts (WsRun.connected {} (.reading [5] 0)) exampleHandshake []
      = [exampleAnswer] := by
  decide

@[inherit_doc messagesRead_exampleHandshake]
theorem writes_exampleHandshake (c : ℕ) :
    WsRun.writes exampleTexts (WsRun.connected {} (.reading [5] 0))
        (.read exampleHandshake false [] [exampleAnswer.length]) c
      = if c = 0 then [⟨exampleAnswer, exampleAnswer.length⟩] else [] := by
  rw [WsRun.writes, messagesRead_exampleHandshake]
  by_cases hc : c = 0
  · rw [if_pos (by rw [hc]; rfl), if_pos hc]
    rfl
  · have hne : ¬ (WsRun.connected {} (.reading [5] 0)).readFrom.bind
        (WsRun.connected {} (.reading [5] 0)).connection = some c :=
      fun h => hc (Option.some.inj h).symm
    rw [if_neg hne, if_neg hc]

/-- What a `Broadcast` writes to that client, once it is upgraded. -/
theorem writes_broadcast_upgraded (n c : ℕ) :
    WsRun.writes exampleTexts (WsRun.connected { upgraded := true } .head)
        (.broadcast exampleEvent fun _ => n) c
      = if c = 0 then [⟨textFrame (exampleDump exampleEvent), n⟩] else [] := by
  by_cases hc : c = 0
  · subst hc
    rfl
  · have hne : ¬ (WsRun.connected { upgraded := true } .head).connection
        { fd := some 5, client := { upgraded := true } } = some c :=
      fun h => hc (Option.some.inj h).symm
    have hnone : (WsRun.receivers (WsRun.connected { upgraded := true } .head)).filter
        (WsRun.connection (WsRun.connected { upgraded := true } .head) · = some c) = [] :=
      List.filter_cons_of_neg (by simpa using hne)
    rw [if_neg hc, WsRun.writes, hnone]
    rfl

/-- A WebSocket client that has taken the answer to its handshake and `n` bytes of an event. -/
theorem reachable_upgraded {n : ℕ} (hn : n ≤ (textFrame (exampleDump exampleEvent)).length) :
    ∃ t : Sending WsRun UInt8, ((WsRun.writing exampleTexts 1).guarded
        (Sending.Unbroken (WsRun.writes exampleTexts))).Reachable t ∧
      t.state = WsRun.connected { upgraded := true } .head ∧
      t.sent 0 = [⟨exampleAnswer, exampleAnswer.length⟩,
        ⟨textFrame (exampleDump exampleEvent), n⟩] := by
  have hsystem : ((WsRun.system 1).guarded
      fun _ a => ∀ chunk stops, a ≠ .read chunk stops).Reachable
      (WsRun.connected {} (.reading [5] 0)) :=
    WsRun.reachable_connected fun _ => ⟨nofun, nofun⟩
  have h₀ : ((WsRun.writing exampleTexts 1).guarded
      (Sending.Unbroken (WsRun.writes exampleTexts))).Reachable
      { state := WsRun.connected {} (.reading [5] 0) } :=
    WsRun.writing_of_reachable (fun _ _ _ => List.Pairwise.nil) hsystem
  have hreplies : ∀ client, handleRead {} exampleHandshake = some client →
      client.handled.length = 0 + 0 := by
    intro client hclient
    rw [handleRead_eq, WsRun.handleReadReturns_exampleHandshake] at hclient
    cases hclient
    rfl
  -- the answer to the handshake is taken, and then a part of the event
  have h₁ := h₀.sending_step (l := .read exampleHandshake false [] [exampleAnswer.length])
    (fun c => by rw [writes_exampleHandshake]; exact unbroken_ite (List.pairwise_singleton _ _))
    (.read _ _ _ _ _ _ _ rfl
      (.readTrue _ [5] 0 _ 5 exampleHandshake false { upgraded := true } rfl rfl
        ⟨rfl, rfl, List.mem_singleton_self 5⟩ (by decide) (by decide)
        WsRun.handleReadReturns_exampleHandshake nofun)
      hreplies (by rw [messagesRead_exampleHandshake]; exact .cons (Nat.le_refl _) .nil))
  have h₂ := h₁.sending_step (l := .other .loop)
    (fun c => by
      show Unbroken (([] ++ WsRun.writes _ _ _ c) ++ [])
      rw [writes_exampleHandshake, List.nil_append, List.append_nil]
      exact unbroken_ite (List.pairwise_singleton _ _))
    (.other _ .loop _ nofun (.erase _ [5] 1 rfl rfl))
  have h₃ := h₂.sending_step (l := .broadcast exampleEvent fun _ => n)
    (fun c => by
      show Unbroken ((([] ++ WsRun.writes _ _ _ c) ++ []) ++ WsRun.writes exampleTexts
        (WsRun.connected { upgraded := true } .head) _ c)
      rw [writes_exampleHandshake, writes_broadcast_upgraded]
      split
      · exact unbroken_pair fun hshort => Nat.lt_irrefl _ hshort.2
      · exact List.Pairwise.nil)
    (.broadcast (WsRun.connected { upgraded := true } .head) exampleEvent _ nofun fun _ => hn)
  refine ⟨_, h₃, rfl, ?_⟩
  show (([] ++ WsRun.writes _ _ _ 0) ++ []) ++ WsRun.writes exampleTexts
    (WsRun.connected { upgraded := true } .head) _ 0 = _
  rw [writes_exampleHandshake, writes_broadcast_upgraded]
  rfl

/-- An IPC client that has taken an event and one byte of the next, and a WebSocket client that has
    taken the answer to its handshake and three bytes of an event. -/
theorem messages_framed_short :
    ∃ (s : Sending IpcRun UInt8) (t : Sending WsRun UInt8),
      s.state.clients = [5] ∧ s.sent 0 = [⟨ipcMessage exampleDump exampleEvent,
          (ipcMessage exampleDump exampleEvent).length⟩, ⟨ipcMessage exampleDump exampleEvent, 1⟩] ∧
      t.state.clients = [{ fd := some 5, client := { upgraded := true } }] ∧
      t.sent 0 = [⟨exampleAnswer, exampleAnswer.length⟩,
        ⟨textFrame (exampleDump exampleEvent), 3⟩] ∧
      IpcRun.ReceivesFramed exampleDump s ∧ WsRun.ReceivesFramed exampleTexts t := by
  have h₁ := reachable_client (G := Sending.Unbroken (IpcRun.writes exampleDump))
    fun _ _ _ => List.Pairwise.nil
  have h₂ := reachable_broadcast (n := (ipcMessage exampleDump exampleEvent).length) h₁
    (Nat.le_refl _) fun c => by
      rw [writes_broadcast]
      exact unbroken_ite (List.pairwise_singleton _ _)
  have h₃ := reachable_broadcast (n := 1) h₂ (by decide) fun c => by
    show Unbroken (([] ++ oneClient.writes _ _ c) ++ oneClient.writes _ _ c)
    rw [writes_broadcast, writes_broadcast]
    split
    · exact unbroken_pair fun hshort => Nat.lt_irrefl _ hshort.2
    · exact List.Pairwise.nil
  obtain ⟨t, ht, hstate, hsent⟩ := reachable_upgraded (n := 3) (by decide)
  obtain ⟨hipc, hws⟩ := messages_framed exampleDump exampleTexts 1 1 _ t h₃ ht
  exact ⟨_, t, rfl, rfl, by rw [hstate]; rfl, hsent, hipc, hws⟩

/-- A byte and then a message are not the start of two messages. -/
theorem not_framed_middle {m : List UInt8} {b : UInt8} (hm : m.take 2 ≠ (b :: m).take 2)
    (hlen : 2 ≤ m.length) : ¬ Framed [m, m] (b :: m) := by
  generalize hxs : b :: m = xs at hm
  have hlength : xs.length = m.length + 1 := by
    rw [← hxs]
    rfl
  have hrep : [m, m] = List.replicate 2 m := rfl
  intro h
  cases h with
  | whole ms hms =>
    rw [hrep, List.sublist_replicate_iff] at hms
    obtain ⟨k, hk, rfl⟩ := hms
    -- the lengths do not match
    obtain rfl | rfl | rfl : k = 0 ∨ k = 1 ∨ k = 2 := by omega
    · simp only [List.replicate_zero, List.flatten_nil, List.length_nil] at hlength
      omega
    · simp only [List.replicate_one, List.flatten_singleton] at hlength
      omega
    · simp only [← hrep, List.flatten_cons, List.length_append] at hlength
      omega
  | part ms current part hms hpart =>
    rw [hrep, List.sublist_replicate_iff] at hms
    obtain ⟨k, hk, heq⟩ := hms
    cases ms with
    | nil =>
      cases k with
      | zero => cases heq
      | succ k =>
        -- a part of an event is not longer than the event
        obtain ⟨rfl, -⟩ := List.cons.inj heq
        have hle := hpart.length_le
        simp only [List.flatten_nil, List.nil_append] at hlength
        omega
    | cons first ms =>
      cases k with
      | zero => cases heq
      | succ k =>
        -- the second byte is not that of the event
        obtain ⟨rfl, -⟩ := List.cons.inj heq
        apply hm
        rw [List.flatten_cons, List.append_assoc, List.take_append_of_le_length hlen]

/-- **In the middle of an event.** The socket takes one byte of an event, and then a whole one. -/
theorem message_starts_in_the_middle :
    ∃ s : Sending IpcRun UInt8, (IpcRun.writing exampleDump 1).Reachable s ∧
      s.state.clients = [5] ∧
      Lib.received (s.sent 0) = 123 :: ipcMessage exampleDump exampleEvent ∧
      ¬ IpcRun.ReceivesFramed exampleDump s := by
  have h₁ := reachable_client (G := fun _ _ => True) fun _ _ => trivial
  have h₂ := reachable_broadcast (n := 1) h₁ (by decide) trivial
  have h₃ := reachable_broadcast (n := (ipcMessage exampleDump exampleEvent).length) h₂
    (Nat.le_refl _) trivial
  have hreceived : Lib.received [Write.mk (ipcMessage exampleDump exampleEvent) 1,
      ⟨ipcMessage exampleDump exampleEvent, (ipcMessage exampleDump exampleEvent).length⟩]
      = 123 :: ipcMessage exampleDump exampleEvent := by decide
  refine ⟨_, h₃.of_guarded, rfl, hreceived, ?_⟩
  intro h
  obtain ⟨-, hframed⟩ := h 5 (List.mem_singleton_self 5) 0 rfl
  have hmiddle : Framed [ipcMessage exampleDump exampleEvent, ipcMessage exampleDump exampleEvent]
      (123 :: ipcMessage exampleDump exampleEvent) := hreceived ▸ hframed
  exact not_framed_middle (by decide) (by decide) hmiddle

end FalconGuide
