import FalconGuide.App.WsClients

namespace FalconGuide

open Lib

/-!
# Descriptors of WebSocket clients are closed once

The loop closes the descriptor of a client when `HandleRead` returns false, and erases the clients
that are dead.  `RecvFrame` makes a client dead at a close frame, but `HandleRead` returns true
after the loop over the frames, so that such a client is erased with its descriptor open.

* `ReachesClose` — the bytes of a buffer hold a close frame behind text frames only;
* `drainFrames_dead` — that is when the loop over the frames leaves the client dead;
* `WsRun.ClosedOnce` — every accepted descriptor is closed once, and none is left open;
* `WsRun.Orderly` — no read completes a close frame, and no handler calls `Stop`;
* `WsRun.descriptors_closed_once` — the main result;
* `WsRun.close_frame_leaks` — a handshake and a close frame.
-/

/-! ### Close frames -/

/-- The buffer holds complete text frames, and behind them a complete close frame. -/
inductive ReachesClose : List UInt8 → Prop
  | close {buf : List UInt8} {h : FrameHeader} (hheader : frameHeader buf = some h)
      (hcomplete : (h.hdr + h.plen) % 2 ^ 64 ≤ buf.length) (hop : h.opcode = 0x8) :
      ReachesClose buf
  | text {buf : List UInt8} {h : FrameHeader} (hheader : frameHeader buf = some h)
      (hcomplete : h.hdr + h.plen ≤ buf.length) (hlt : h.hdr + h.plen < 2 ^ 64)
      (hop : h.opcode = 0x1) (hrest : ReachesClose (buf.drop (h.hdr + h.plen))) :
      ReachesClose buf

/-- `RecvFrame` leaves a client dead at a close frame only, and returns false there. -/
theorem recvFrame_false_dead {c c' : WsClient} (h : recvFrame c = some (c', none))
    (hc : c.dead = false) (hdead : c'.dead = true) : ReachesClose c.buf := by
  unfold recvFrame at h
  split at h
  · cases h
    rw [hc] at hdead
    cases hdead
  · rename_i hd hheader
    dsimp only at h
    split at h
    · cases h
      rw [hc] at hdead
      cases hdead
    · rename_i hsize
      split at h
      · rename_i hop
        exact .close hheader (Nat.le_of_not_lt hsize) hop
      · split at h
        · cases h
        · simp only [Option.some.injEq, Prod.mk.injEq] at h
          rw [← h.1] at hdead
          exact absurd hdead (by simp [hc])

/-- When `RecvFrame` returns true, it has taken a complete text frame off the buffer. -/
theorem recvFrame_true {c c' : WsClient} {payload : List UInt8}
    (h : recvFrame c = some (c', some payload)) :
    c'.dead = c.dead ∧ ∃ hd, frameHeader c.buf = some hd ∧ hd.hdr + hd.plen ≤ c.buf.length ∧
      hd.hdr + hd.plen < 2 ^ 64 ∧ hd.opcode = 0x1 ∧
      c'.buf = c.buf.drop (hd.hdr + hd.plen) := by
  unfold recvFrame at h
  split at h
  · cases h
  · rename_i hd hheader
    dsimp only at h
    split at h
    · cases h
    · rename_i hsize
      split at h
      · cases h
      · split at h
        · cases h
        · rename_i hlen
          have hlt : hd.hdr + hd.plen < 2 ^ 64 := Nat.lt_of_not_le hlen
          rw [Nat.mod_eq_of_lt hlt] at h hsize
          split at h
          · rename_i hop
            simp only [Option.some.injEq, Prod.mk.injEq] at h
            rw [← h.1]
            exact ⟨rfl, hd, hheader, Nat.le_of_not_lt hsize, hlt, hop, rfl⟩
          · simp at h

/-- **A client that the loop over the frames leaves dead** has sent a close frame. -/
theorem drainFrames_dead {c c' : WsClient} (h : drainFrames c = some c') (hc : c.dead = false)
    (hdead : c'.dead = true) : ReachesClose c.buf := by
  induction c using drainFrames.induct with
  | case1 c hrecv =>
    rw [drainFrames] at h
    split at h <;> simp_all
  | case2 c d hrecv =>
    rw [drainFrames_of_false hrecv] at h
    cases h
    exact recvFrame_false_dead hrecv hc hdead
  | case3 c d payload hrecv ih =>
    rw [drainFrames_of_true hrecv] at h
    obtain ⟨hd, header, hheader, hcomplete, hlt, hop, hbuf⟩ := recvFrame_true hrecv
    refine .text hheader hcomplete hlt hop ?_
    rw [← hbuf]
    exact ih h (hd.trans hc)

/-- `HandleRead` returns true for a client that is dead only at a close frame. -/
theorem handleReadReturns_dead {c c' : WsClient} {bytes : List UInt8}
    (h : handleReadReturns c bytes = some (c', true)) (hc : c.dead = false)
    (hdead : c'.dead = true) : c.upgraded = true ∧ ReachesClose (c.buf ++ bytes) := by
  unfold handleReadReturns at h
  dsimp only at h
  split at h
  · rename_i hup
    obtain ⟨d, hdrain, heq⟩ := Option.map_eq_some_iff.mp h
    cases heq
    exact ⟨hup, drainFrames_dead hdrain hc hdead⟩
  · split at h
    · cases h
      rw [hc] at hdead
      cases hdead
    · split at h
      · -- an upgrade that succeeds leaves the client alive
        simp only [Option.some.injEq, Prod.mk.injEq] at h
        obtain ⟨rfl, hup⟩ := h
        unfold doUpgrade at hup hdead
        split at hup <;> simp_all
        split at hup <;> simp_all
      · cases h

namespace WsRun

variable {s t : WsRun}

/-! ### The property -/

/-- The descriptors that `accept` has returned are closed once, and by nobody twice. -/
structure ClosedOnce (s : WsRun) : Prop where
  /-- What a `close` finds is open, and was returned by `accept`. -/
  hit : ∀ p ∈ s.fds.closes, ∃ c ∈ s.fds.accepted, p.2 = some c
  notYet : ∀ c ∈ s.fds.accepted, s.fds.IsOpen c → s.fds.closings c = 0
  once : ∀ c ∈ s.fds.accepted, ¬ s.fds.IsOpen c → s.fds.closings c = 1
  /-- Nothing is left open that is not a client's, or about to be. -/
  registered : ∀ fd c, s.fds.table fd = some c → c ∈ s.fds.accepted →
    (∃ p ∈ s.clients, p.fd = some fd) ∨ fd ∈ s.loop.accepted
  /-- Once `Stop` has returned, nothing is left open. -/
  stopped : s.control = .idle → s.running = false → ∀ c ∈ s.fds.accepted, ¬ s.fds.IsOpen c

/-- No read completes a close frame, and no handler calls `Stop`. -/
def Orderly (s : WsRun) : Action → Prop
  | .read chunk stops =>
    stops = false ∧ ∀ rfds k p, s.loop = .reading rfds k → s.clients[k]? = some p →
      p.client.upgraded = true → ¬ ReachesClose (p.client.buf ++ chunk)
  | _ => True

/-- Where `Stop` and the loop are, and which clients are dead. -/
structure Placed (s : WsRun) : Prop where
  owned : s.fds.Owned s.held
  dead : ∀ p ∈ s.clients, p.client.dead = true → p.fd = none
  idle : s.control = .idle → s.running = false → s.clients = [] ∧ s.loop = .notJoinable
  stopping : s.control ≠ .idle → s.running = false
  clearing : s.control = .clearing → s.loop = .notJoinable

/-! ### Steps -/

theorem placed_init : Placed {} where
  owned := Descriptors.owned_init
  dead := nofun
  idle _ _ := ⟨rfl, rfl⟩
  stopping h := absurd rfl h
  clearing _ := rfl

/-- A step of the loop, while there is one. -/
theorem Placed.loopStep (h : Placed s) (hl : s.loop ≠ .notJoinable) (hrun : t.running = s.running)
    (hctl : t.control = s.control) (howned : t.fds.Owned t.held)
    (hdead : ∀ p ∈ t.clients, p.client.dead = true → p.fd = none) : Placed t where
  owned := howned
  dead := hdead
  idle hidle hr := absurd (h.idle (hctl ▸ hidle) (hrun ▸ hr)).2 hl
  stopping hne := hrun ▸ h.stopping (hctl ▸ hne)
  clearing hclear := absurd (h.clearing (hctl ▸ hclear)) hl

/-- A step of the loop that only goes on. -/
theorem Placed.goto (h : Placed s) {loop : WsLoop} (hl : s.loop ≠ .notJoinable)
    (haccepted : loop.accepted = s.loop.accepted) : Placed { s with loop } := by
  refine h.loopStep hl rfl rfl ?_ h.dead
  have howned := h.owned
  unfold held at howned ⊢
  rw [haccepted]
  exact howned

/-- The client at an index, between those before and after it. -/
theorem exists_split {k : ℕ} {p : WsPeer} (hp : s.clients[k]? = some p) (q : WsPeer) :
    ∃ before after, s.clients = before ++ p :: after ∧
      s.clients.set k q = before ++ q :: after := by
  obtain ⟨hk, hpk⟩ := List.getElem?_eq_some_iff.mp hp
  refine ⟨s.clients.take k, s.clients.drop (k + 1), ?_, List.set_eq_take_append_cons_drop.trans ?_⟩
  · rw [← hpk, ← List.drop_eq_getElem_cons hk, List.take_append_drop]
  · rw [if_pos hk]

/-- A client that is kept. -/
theorem Placed.keep (h : Placed s) {rfds : List ℕ} {k : ℕ} {p : WsPeer} {client : WsClient}
    (hl : s.loop = .reading rfds k) (hp : s.clients[k]? = some p) (halive : client.dead = false) :
    Placed { s.keep k p client with loop := .reading rfds (k + 1) } := by
  obtain ⟨before, after, hclients, hset⟩ := exists_split hp { p with client }
  have howned := h.owned
  refine h.loopStep (by simp [hl]) rfl rfl ?_ ?_
  · unfold held at howned ⊢
    rw [hclients, hl] at howned
    show s.fds.Owned ((s.clients.set k _).filterMap (·.fd) ++ [])
    rw [hset]
    simpa [List.filterMap_append, List.filterMap_cons, WsLoop.accepted] using howned
  · show ∀ q ∈ s.clients.set k _, _
    rw [hset]
    intro q hq hdead
    rcases List.mem_append.mp hq with hq | hq
    · exact h.dead q (hclients ▸ List.mem_append_left _ hq) hdead
    · rcases List.mem_cons.mp hq with rfl | hq
      · rw [halive] at hdead
        cases hdead
      · exact h.dead q (hclients ▸ List.mem_append_right _ (List.mem_cons_of_mem p hq)) hdead

/-- A client that is closed. -/
theorem Placed.drop (h : Placed s) {rfds : List ℕ} {k fd : ℕ} {p : WsPeer} (client : WsClient)
    (hl : s.loop = .reading rfds k) (hp : s.clients[k]? = some p) (hfd : p.fd = some fd) :
    Placed { s.drop k fd client with loop := .reading rfds (k + 1) } := by
  obtain ⟨before, after, hclients, hset⟩ :=
    exists_split hp { fd := none, client := { client with dead := true } }
  have howned := h.owned
  refine h.loopStep (by simp [hl]) rfl rfl ?_ ?_
  · unfold held at howned ⊢
    rw [hclients, hl] at howned
    show (s.fds.closeFd fd).Owned ((s.clients.set k _).filterMap (·.fd) ++ [])
    rw [hset]
    simp only [List.filterMap_append, List.filterMap_cons, hfd, WsLoop.accepted,
      List.append_nil] at howned ⊢
    exact howned.closeFd_middle
  · show ∀ q ∈ s.clients.set k _, _
    rw [hset]
    intro q hq hdead
    rcases List.mem_append.mp hq with hq | hq
    · exact h.dead q (hclients ▸ List.mem_append_left _ hq) hdead
    · rcases List.mem_cons.mp hq with rfl | hq
      · rfl
      · exact h.dead q (hclients ▸ List.mem_append_right _ (List.mem_cons_of_mem p hq)) hdead

/-- Erasing clients without a descriptor leaves the descriptors held. -/
theorem filterMap_fd_filter {clients : List WsPeer}
    (h : ∀ p ∈ clients, p.client.dead = true → p.fd = none) :
    (clients.filter (!·.client.dead)).filterMap (·.fd) = clients.filterMap (·.fd) := by
  induction clients with
  | nil => rfl
  | cons p clients ih =>
    have hrest := ih fun q hq => h q (List.mem_cons_of_mem p hq)
    by_cases hdead : p.client.dead = true
    · rw [List.filter_cons_of_neg (by simp [hdead]), hrest,
        List.filterMap_cons_none (h p List.mem_cons_self hdead)]
    · rw [List.filter_cons_of_pos (by simpa using hdead), List.filterMap_cons, List.filterMap_cons,
        hrest]

/-- **One step** that completes no close frame keeps the descriptors in place. -/
theorem Placed.step {maxClients : ℕ} {a : Action} (h : Placed s) (ho : Orderly s a)
    (hst : Step maxClients s a t) : Placed t := by
  have howned := h.owned
  unfold held at howned
  cases hst with
  | start hc hr hl =>
    refine ⟨?_, h.dead, ?_, ?_, ?_⟩
    · unfold held
      rw [hl] at howned
      exact howned
    · intro _ hrun
      cases hrun
    · intro hne
      exact absurd hc hne
    · intro hclear
      rw [hc] at hclear
      cases hclear
  | stop hc hr =>
    exact ⟨h.owned, h.dead, nofun, fun _ => rfl, nofun⟩
  | stopListening hc =>
    exact ⟨h.owned, h.dead, nofun, fun _ => h.stopping (by simp [hc]), nofun⟩
  | stopJoin hc hl =>
    refine ⟨?_, h.dead, nofun, fun _ => h.stopping (by simp [hc]), fun _ => rfl⟩
    unfold held
    rw [hl] at howned
    exact howned
  | stopClients hc =>
    have hl := h.clearing hc
    simp only [hl, WsLoop.accepted, List.append_nil] at howned
    refine ⟨?_, nofun, fun _ _ => ⟨rfl, hl⟩, fun hne => absurd rfl hne, nofun⟩
    unfold held
    show (s.fds.closeFds (s.clients.filterMap (·.fd))).Owned ([] ++ s.loop.accepted)
    rw [hl]
    exact howned.closeFds
  | leave hl hr => exact h.goto (by simp [hl]) (by rw [hl]; rfl)
  | collect hl hr => exact h.goto (by simp [hl]) (by rw [hl]; rfl)
  | timeout rfds hl => exact h.goto (by simp [hl]) (by rw [hl]; rfl)
  | select rfds ready hl hready => exact h.goto (by simp [hl]) (by rw [hl]; rfl)
  | selectListen rfds ready hl hready => exact h.goto (by simp [hl]) (by rw [hl]; rfl)
  | acceptFailed rfds hl => exact h.goto (by simp [hl]) (by rw [hl]; rfl)
  | accept rfds cfd hl hlisten hfree =>
    refine h.loopStep (by simp [hl]) rfl rfl ?_ h.dead
    simp only [hl, WsLoop.accepted, List.append_nil] at howned
    exact howned.acceptFd hfree
  | register rfds cfd hl hroom =>
    refine h.loopStep (by simp [hl]) rfl rfl ?_ ?_
    · rw [hl] at howned
      unfold held
      simpa [List.filterMap_append, WsLoop.accepted] using howned
    · intro p hp hdead
      rcases List.mem_append.mp hp with hp | hp
      · exact h.dead p hp hdead
      · rw [List.mem_singleton.mp hp] at hdead
        cases hdead
  | refuse rfds cfd hl hfull =>
    refine h.loopStep (by simp [hl]) rfl rfl ?_ h.dead
    rw [hl] at howned
    exact howned.closeFd_middle
  | lock rfds hl => exact h.goto (by simp [hl]) (by rw [hl]; rfl)
  | skip rfds k p hl hp hskip => exact h.goto (by simp [hl]) (by rw [hl]; rfl)
  | readFailed rfds k p fd hl hp hreads => exact h.drop p.client hl hp hreads.2.1
  | readTrue rfds k p fd chunk stops client hl hp hreads hchunk hsize hread hstops =>
    obtain ⟨rfl, hclose⟩ := ho
    -- the client is alive: only a close frame makes it dead while `HandleRead` returns true
    have halive : client.dead = false := by
      by_contra hdead
      obtain ⟨hup, hreach⟩ := handleReadReturns_dead hread hreads.1 (by simpa using hdead)
      exact hclose rfds k p hl hp hup hreach
    exact h.keep hl hp halive
  | readFalse rfds k p fd chunk client hl hp hreads hchunk hsize hread =>
    exact h.drop client hl hp hreads.2.1
  | erase rfds k hl hk =>
    refine h.loopStep (by simp [hl]) rfl rfl ?_ ?_
    · rw [hl] at howned
      unfold held
      show s.fds.Owned ((s.clients.filter (!·.client.dead)).filterMap (·.fd) ++ [])
      rw [filterMap_fd_filter h.dead]
      exact howned
    · intro p hp
      exact h.dead p (List.mem_of_mem_filter hp)
  | otherOpen fd hfree =>
    exact ⟨h.owned.openFd hfree, h.dead, h.idle, h.stopping, h.clearing⟩
  | otherClose fd c hopen hc =>
    exact ⟨h.owned.forgetFd hopen hc, h.dead, h.idle, h.stopping, h.clearing⟩

/-- In its place, every descriptor is closed once. -/
theorem Placed.closedOnce (h : Placed s) : ClosedOnce s where
  hit := h.owned.hit
  notYet := h.owned.notYet
  once := h.owned.once
  registered fd c htable hc := by
    rcases List.mem_append.mp (h.owned.owned fd c htable hc) with hfd | hfd
    · exact .inl (List.mem_filterMap.mp hfd)
    · exact .inr hfd
  stopped hidle hr c hc := by
    rintro ⟨fd, htable⟩
    have hheld := h.owned.owned fd c htable hc
    obtain ⟨hclients, hloop⟩ := h.idle hidle hr
    rw [held, hclients, hloop] at hheld
    cases hheld

/-- **Once.** In every run in which no read completes a close frame and no handler calls `Stop`,
    every descriptor that `accept` returns is closed once by the time its client is erased or
    `Stop` has returned. -/
theorem descriptors_closed_once (maxClients : ℕ) (s : WsRun)
    (h : ((system maxClients).guarded Orderly).Reachable s) : ClosedOnce s := by
  have hplaced : Placed s := by
    refine System.Reachable.invariant ?_ ?_ h
    · rintro s rfl
      exact placed_init
    · rintro s a t - hs ⟨ho, hst⟩
      exact hs.step ho hst
  exact hplaced.closedOnce

/-! ### Runs -/

/-- A server with one client, at the descriptor 5. -/
def connected (client : WsClient) (loop : WsLoop) : WsRun where
  fds := Descriptors.acceptFd {} 5
  running := true
  listening := true
  clients := [{ fd := some 5, client }]
  loop := loop

section

variable {G : WsRun → Action → Prop} {client : WsClient}

/-- Behind its last client, the loop comes to the read of the client again. -/
theorem reachable_again (hG : ∀ s, G s .loop) (hdead : client.dead = false) {rfds : List ℕ}
    (h : ((system 1).guarded G).Reachable (connected client (.reading rfds 1))) :
    ((system 1).guarded G).Reachable (connected client (.reading [5] 0)) := by
  have hkept : [({ fd := some 5, client } : WsPeer)].filter (!·.client.dead)
      = [{ fd := some 5, client }] := by
    rw [List.filter_cons_of_pos (by simpa using hdead)]
    rfl
  have h₁ := h.step ⟨hG _, .erase _ rfds 1 rfl rfl⟩
  simp only [connected, hkept] at h₁
  have h₂ := h₁.step ⟨hG _, .collect _ rfl rfl⟩
  simp only [hkept] at h₂
  have h₃ := h₂.step ⟨hG _, .select _ [5] [5] rfl (List.Subset.refl _)⟩
  exact h₃.step ⟨hG _, .lock _ [5] rfl⟩

/-- A client connects, and its descriptor is ready. -/
theorem reachable_connected (hG : ∀ s, G s .control ∧ G s .loop) :
    ((system 1).guarded G).Reachable (connected {} (.reading [5] 0)) := by
  have h₀ : ((system 1).guarded G).Reachable {} := .init rfl
  have h₁ := h₀.step ⟨(hG _).1, .start _ rfl rfl rfl⟩
  have h₂ := h₁.step ⟨(hG _).2, .collect _ rfl rfl⟩
  have h₃ := h₂.step ⟨(hG _).2, .selectListen _ [] [] rfl (List.Subset.refl _)⟩
  have h₄ := h₃.step ⟨(hG _).2, .accept _ [] 5 rfl rfl rfl⟩
  have h₅ := h₄.step ⟨(hG _).2, .register _ [] 5 rfl Nat.one_pos⟩
  have h₆ := h₅.step ⟨(hG _).2, .lock _ [] rfl⟩
  have h₇ := h₆.step ⟨(hG _).2, .skip _ [] 0 _ rfl rfl fun fd hreads => nomatch hreads.2.2⟩
  exact reachable_again (fun s => (hG s).2) rfl h₇

end

/-- A client that disconnects. -/
theorem descriptors_closed_once_disconnect :
    ∃ s : WsRun, ((system 1).guarded Orderly).Reachable s ∧ s.clients = [] ∧
      s.fds.closes = [(5, some 0)] ∧ ClosedOnce s := by
  have h₁ : ((system 1).guarded Orderly).Reachable _ :=
    reachable_connected fun _ => ⟨trivial, trivial⟩
  have h₂ := h₁.step ⟨by trivial, .readFailed _ [5] 0 _ 5 rfl rfl
    ⟨rfl, rfl, List.mem_singleton_self 5⟩⟩
  have h₃ := h₂.step ⟨by trivial, .erase _ [5] 1 rfl rfl⟩
  exact ⟨_, h₃, rfl, rfl, descriptors_closed_once 1 _ h₃⟩

/-- The client after the handshake. -/
theorem handleReadReturns_exampleHandshake :
    handleReadReturns {} exampleHandshake = some ({ upgraded := true }, true) := by
  have hup : doUpgrade { buf := exampleHandshake } = { upgraded := true } := by
    rfl
  have hend : (afterFirst (crlf ++ crlf) exampleHandshake).isNone = false := by decide
  have hasks : (afterFirst (ascii "Upgrade: websocket") exampleHandshake).isSome = true := by
    decide
  simp only [handleReadReturns, List.nil_append, hend, hasks, hup]
  rfl

/-- A close frame without a payload. -/
theorem handleReadReturns_close :
    handleReadReturns { upgraded := true } [0x88, 0x00]
      = some ({ upgraded := true, dead := true }, true) := by
  have hrecv : recvFrame { upgraded := true, buf := [0x88, 0x00] }
      = some ({ upgraded := true, dead := true }, none) := by
    rfl
  show (drainFrames { upgraded := true, buf := [0x88, 0x00] }).map _ = _
  rw [drainFrames_of_false hrecv]
  rfl

/-- **Never closed.** A client that sends a handshake and a close frame is erased, and its
    descriptor stays open. -/
theorem close_frame_leaks :
    ∃ s : WsRun, (system 1).Reachable s ∧ s.clients = [] ∧ s.loop = .head ∧
      s.fds.accepted = [0] ∧ s.fds.closes = [] ∧ s.fds.table 5 = some 0 ∧ ¬ ClosedOnce s := by
  let G : WsRun → Action → Prop := fun _ _ => True
  have h₁ : ((system 1).guarded G).Reachable _ := reachable_connected fun _ => ⟨trivial, trivial⟩
  have h₂ := h₁.step ⟨trivial, .readTrue _ [5] 0 _ 5 exampleHandshake false _ rfl rfl
    ⟨rfl, rfl, List.mem_singleton_self 5⟩ (by decide) (by decide)
    handleReadReturns_exampleHandshake nofun⟩
  have h₃ := reachable_again (fun _ => trivial) rfl h₂
  have h₄ := h₃.step ⟨trivial, .readTrue _ [5] 0 _ 5 [0x88, 0x00] false _ rfl rfl
    ⟨rfl, rfl, List.mem_singleton_self 5⟩ (by decide) (by decide) handleReadReturns_close nofun⟩
  have h₅ := h₄.step ⟨trivial, .erase _ [5] 1 rfl rfl⟩
  refine ⟨_, h₅.of_guarded, rfl, rfl, rfl, rfl, rfl, ?_⟩
  intro h
  -- the descriptor is open, and no client's
  rcases h.registered 5 0 rfl (List.mem_singleton_self 0) with ⟨p, hp, -⟩ | hloop
  · cases hp
  · cases hloop

end WsRun

end FalconGuide
