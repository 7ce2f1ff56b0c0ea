import FalconGuide.App.IpcClients

namespace FalconGuide

open Lib

/-!
# Lines of different clients

The line buffers are kept under descriptor numbers, and only the read path of the loop erases them.
A client that `Broadcast` drops leaves its unterminated line behind, and the next client that gets
its number goes on with it.

* `IpcRun.linesOf`, `IpcRun.expectedLines` — what is dispatched for a connection, and what should
  be;
* `IpcRun.Clean` — no step starts a client on a buffer with something in it;
* `IpcRun.lines_isolated` — the main result.
-/

namespace IpcRun

/-- The lines dispatched for a connection. -/
def linesOf (s : IpcRun) (c : ℕ) : List (List UInt8) := (s.dispatched.filter (·.1 = c)).map (·.2)

/-- The lines of a text: its pieces between newlines without the last, which no newline ends, and
    without the empty ones. -/
def expectedLines (bytes : List UInt8) : List (List UInt8) :=
  (bytes.splitOn newline).dropLast.filter (· ≠ [])

/-- A number that was accepted has no buffer with something in it, and nor has a client that was
    left over when the server is started. -/
def Clean (s : IpcRun) : Action → Prop
  | .loop => ∀ fd ∈ s.loop.accepted, s.bufferOf fd = []
  | .control => s.control = .idle → s.running = false → ∀ fd ∈ s.clients, s.bufferOf fd = []
  | _ => True

/-- What the buffers hold. -/
structure LineInv (s : IpcRun) : Prop where
  lines : ∀ c, s.linesOf c = expectedLines (s.received c)
  /-- The buffer of a client is its unterminated line. -/
  tail : ∀ fd ∈ s.clients, ∀ c, s.fds.table fd = some c →
    s.bufferOf fd = ((lineParser newline).drain (s.received c)).2
  unread : ∀ c, s.fds.nextId ≤ c → s.received c = []
  inHand : ∀ fd ∈ s.loop.accepted, ∀ c, s.fds.table fd = some c → s.received c = []

theorem drain_nil : (lineParser newline).drain [] = ([], []) :=
  StreamParser.drain_of_none rfl

theorem lineInv_init : LineInv {} := by
  refine ⟨?_, nofun, fun _ _ => rfl, nofun⟩
  intro c
  show [] = expectedLines []
  rw [expectedLines, ← drain_lineParser, drain_nil]
  rfl

variable {s t : IpcRun}

/-- A step that reads nothing, and adds no client. -/
theorem LineInv.frame (h : LineInv s) (hd : t.dispatched = s.dispatched)
    (hr : t.received = s.received) (hid : s.fds.nextId ≤ t.fds.nextId)
    (htail : ∀ fd ∈ t.clients, fd ∈ s.clients ∧ t.bufferOf fd = s.bufferOf fd ∧
      ∀ c, t.fds.table fd = some c → s.fds.table fd = some c)
    (hhand : ∀ fd ∈ t.loop.accepted, ∀ c, t.fds.table fd = some c → s.received c = []) :
    LineInv t where
  lines c := by
    rw [linesOf, hd, hr]
    exact h.lines c
  tail fd hfd c hc := by
    obtain ⟨hmem, hbuf, htable⟩ := htail fd hfd
    rw [hbuf, hr]
    exact h.tail fd hmem c (htable c hc)
  unread c hc := by
    rw [hr]
    exact h.unread c (Nat.le_trans hid hc)
  inHand := by
    rw [hr]
    exact hhand

/-- A step that only moves the loop or the control thread. -/
theorem LineInv.move (h : LineInv s) (hd : t.dispatched = s.dispatched)
    (hr : t.received = s.received) (hfds : t.fds = s.fds) (hcl : t.clients = s.clients)
    (hbuf : t.buffers = s.buffers)
    (hhand : ∀ fd ∈ t.loop.accepted, fd ∈ s.loop.accepted) : LineInv t := by
  refine h.frame hd hr (Nat.le_of_eq (by rw [hfds])) ?_ ?_
  · intro fd hfd
    refine ⟨hcl ▸ hfd, by rw [bufferOf, hbuf, bufferOf], ?_⟩
    rw [hfds]
    exact fun _ => id
  · intro fd hfd c hc
    exact h.inHand fd (hhand fd hfd) c (hfds ▸ hc)

/-- Clients are dropped. -/
theorem LineInv.drop (h : LineInv s) (hreg : Registered s) (fds : List ℕ) :
    LineInv (s.dropClients fds) := by
  refine h.frame rfl rfl (Nat.le_of_eq (Descriptors.nextId_closeFds _ _).symm) ?_ ?_
  · intro fd hfd
    exact ⟨((mem_dropClients hreg.nodup).mp hfd).1, rfl, fun _ => Descriptors.table_of_closeFds⟩
  · intro fd hfd c hc
    exact h.inHand fd hfd c (Descriptors.table_of_closeFds hc)

/-- Something is opened under a free number. -/
theorem LineInv.opened (h : LineInv s) (hreg : Registered s) {fd : ℕ}
    (hfree : s.fds.table fd = none) : LineInv { s with fds := s.fds.openFd fd } := by
  have hold : ∀ fd' ∈ s.held, ∀ c, (s.fds.openFd fd).table fd' = some c →
      s.fds.table fd' = some c := by
    intro fd' hfd' c hc
    have hne : fd' ≠ fd := fun heq => hreg.not_mem_of_free hfree (heq ▸ hfd')
    rwa [Descriptors.table_openFd, if_neg hne] at hc
  refine h.frame rfl rfl (Nat.le_succ _) ?_ ?_
  · intro fd' hfd'
    exact ⟨hfd', rfl, hold fd' (List.mem_append_left _ hfd')⟩
  · intro fd' hfd' c hc
    exact h.inHand fd' hfd' c (hold fd' (List.mem_append_right _ hfd') c hc)

theorem readChunk_received (fd c : ℕ) (chunk : List UInt8) (d : ℕ) :
    (s.readChunk fd c chunk).received d
      = if d = c then s.received c ++ chunk else s.received d := by
  simp [readChunk, Function.update_apply]

theorem readChunk_bufferOf (fd c : ℕ) (chunk : List UInt8) (fd' : ℕ) :
    (s.readChunk fd c chunk).bufferOf fd'
      = if fd' = fd then ((lineParser newline).drain (s.bufferOf fd ++ chunk)).2
        else s.bufferOf fd' := by
  simp only [readChunk, bufferOf, Function.update_apply]
  split <;> rfl

theorem readChunk_linesOf (fd c : ℕ) (chunk : List UInt8) (d : ℕ) :
    (s.readChunk fd c chunk).linesOf d
      = s.linesOf d ++ if d = c then
          ((lineParser newline).drain (s.bufferOf fd ++ chunk)).1.filter (· ≠ []) else [] := by
  simp only [linesOf, readChunk, List.filter_append, List.map_append, List.filter_map,
    Function.comp_def]
  by_cases hd : d = c
  · simp [hd, Function.comp_def]
  · simp [hd, Ne.symm hd]

/-- **One read.** The lines it completes are the next lines of the connection. -/
theorem LineInv.read (h : LineInv s) (hreg : Registered s) {fd c : ℕ} {chunk : List UInt8}
    {loop : IpcLoop} (hmem : fd ∈ s.clients) (hopen : s.fds.table fd = some c)
    (hhand : loop.accepted = []) : LineInv { s.readChunk fd c chunk with loop } := by
  have hbuf := h.tail fd hmem c hopen
  -- the buffer and the chunk are drained as if the connection were read at once
  have hdrain := StreamParser.drain_append (p := lineParser newline) (s.received c) chunk
  rw [← hbuf] at hdrain
  refine ⟨?_, ?_, ?_, ?_⟩
  · intro d
    show (s.readChunk fd c chunk).linesOf d = expectedLines ((s.readChunk fd c chunk).received d)
    rw [readChunk_linesOf, readChunk_received, h.lines d]
    by_cases hd : d = c
    · subst hd
      rw [if_pos rfl, if_pos rfl, expectedLines, expectedLines, ← drain_lineParser,
        ← drain_lineParser, hdrain, List.filter_append]
    · rw [if_neg hd, if_neg hd, List.append_nil]
  · intro fd' hfd' d hd
    show (s.readChunk fd c chunk).bufferOf fd'
      = ((lineParser newline).drain ((s.readChunk fd c chunk).received d)).2
    rw [readChunk_bufferOf, readChunk_received]
    by_cases hfd : fd' = fd
    · subst hfd
      cases hopen.symm.trans hd
      rw [if_pos rfl, if_pos rfl, hdrain]
    · have hne : d ≠ c := by
        rintro rfl
        exact hfd (hreg.tracked.owned.injective fd' fd d hd hopen)
      rw [if_neg hfd, if_neg hne]
      exact h.tail fd' hfd' d hd
  · intro d hd
    have hne : d ≠ c := by
      rintro rfl
      exact absurd (hreg.tracked.owned.fresh fd d hopen) (Nat.not_lt.mpr hd)
    show (s.readChunk fd c chunk).received d = []
    rw [readChunk_received, if_neg hne]
    exact h.unread d hd
  · intro fd' hfd'
    change fd' ∈ loop.accepted at hfd'
    rw [hhand] at hfd'
    cases hfd'

/-- **One step**, of a run in which no client starts on somebody else's bytes. -/
theorem LineInv.step {maxClients : ℕ} {a : Action} (h : LineInv s) (hreg : Registered s)
    (hclean : s.Clean a) (hst : Step maxClients s a t) : LineInv t := by
  cases hst with
  | start hc hr hl =>
    -- the loop starts with the buffers that the last one left
    have hempty := hclean hc hr
    refine h.frame rfl rfl (Nat.le_refl _) ?_ nofun
    intro fd hfd
    exact ⟨hfd, (hempty fd hfd).symm, fun _ => id⟩
  | stop hc hr => exact h.move rfl rfl rfl rfl rfl (fun _ => id)
  | stopListening hc => exact h.move rfl rfl rfl rfl rfl (fun _ => id)
  | stopClients hc hk =>
    rw [closeAll_eq]
    exact (h.drop hreg s.clients).move rfl rfl rfl rfl rfl (fun _ => id)
  | stopJoin hc hl => exact h.move rfl rfl rfl rfl rfl nofun
  | leave hl hr => exact h.move rfl rfl rfl rfl rfl nofun
  | collect hl hr => exact h.move rfl rfl rfl rfl rfl nofun
  | timeout rfds hl => exact h.move rfl rfl rfl rfl rfl nofun
  | select rfds ready hl hready => exact h.move rfl rfl rfl rfl rfl nofun
  | selectListen rfds ready hl hready => exact h.move rfl rfl rfl rfl rfl nofun
  | acceptFailed rfds hl => exact h.move rfl rfl rfl rfl rfl nofun
  | accept rfds cfd hl hlisten hfree =>
    have hopen := h.opened hreg hfree
    refine ⟨hopen.lines, hopen.tail, hopen.unread, ?_⟩
    intro fd hfd c hc
    rw [List.mem_singleton.mp hfd] at hc
    -- the new client has not sent anything
    change (s.fds.openFd cfd).table cfd = some c at hc
    rw [Descriptors.table_openFd, if_pos rfl] at hc
    cases hc
    exact h.unread _ (Nat.le_refl _)
  | register rfds cfd hl hroom =>
    have hhand : cfd ∈ s.loop.accepted := by
      rw [hl]
      exact List.mem_singleton_self _
    have hempty := hclean cfd hhand
    refine ⟨h.lines, ?_, h.unread, nofun⟩
    intro fd hfd c hc
    simp only [bufferOf, Function.update_apply]
    by_cases hfd' : fd = cfd
    · -- the new client has not been read from, and its buffer is empty
      subst hfd'
      rw [if_pos rfl, h.inHand fd hhand c hc, drain_nil]
      exact hempty
    · rw [if_neg hfd']
      rcases List.mem_append.mp hfd with hmem | hmem
      · exact h.tail fd hmem c hc
      · exact absurd (List.mem_singleton.mp hmem) hfd'
  | refuse rfds cfd hl hfull =>
    have haccepted : cfd ∈ s.loop.accepted := by
      rw [hl]
      exact List.mem_singleton_self _
    have hnot := hreg.not_mem_clients haccepted
    have hsame : [cfd].foldl List.erase s.clients = s.clients := List.erase_of_not_mem hnot
    exact (h.drop hreg [cfd]).move rfl rfl rfl hsame.symm rfl nofun
  | lock rfds hl => exact h.move rfl rfl rfl rfl rfl nofun
  | skip rfds fd rest toRemove hl hset => exact h.move rfl rfl rfl rfl rfl nofun
  | readFailed rfds fd rest toRemove hl hset => exact h.move rfl rfl rfl rfl rfl nofun
  | read rfds fd rest toRemove c chunk hl hset hopen hchunk hsize =>
    -- only registered clients are read from
    have hmem : fd ∈ s.clients := (hreg.iterating _ _ _ hl).subset (by simp)
    exact h.read hreg hmem hopen rfl
  | unlock rfds toRemove hl => exact h.move rfl rfl rfl rfl rfl nofun
  | remove fd toRemove hl =>
    rw [removeClient_eq]
    refine (h.drop hreg [fd]).frame rfl rfl (Nat.le_refl _) ?_ nofun
    intro fd' hfd'
    have hne : fd' ≠ fd := by
      -- the others keep their buffers
      have hnot := ((mem_dropClients hreg.nodup).mp hfd').2
      simpa using hnot
    refine ⟨hfd', ?_, fun _ => id⟩
    simp only [bufferOf, Function.update_apply, if_neg hne]
    rfl
  | again hl => exact h.move rfl rfl rfl rfl rfl nofun
  | broadcast dead hdead hk =>
    rw [dropAll_eq]
    exact h.drop hreg dead
  | otherOpen fd hfree => exact h.opened hreg hfree
  | otherClose fd c hopen hc =>
    exact h.frame rfl rfl (Nat.le_refl _)
      (fun fd' hfd' => ⟨hfd', rfl, fun _ => Descriptors.table_of_forgetFd⟩)
      (fun fd' hfd' d hd => h.inHand fd' hfd' d (Descriptors.table_of_forgetFd hd))

/-- **Isolation.** In every run in which neither an accepted number nor a client left over at a
    `Start` has bytes kept under it, the lines dispatched for a connection are those of the bytes
    read from it. -/
theorem lines_isolated (maxClients : ℕ) (s : IpcRun)
    (h : ((system maxClients).guarded Clean).Reachable s) (c : ℕ) :
    s.linesOf c = expectedLines (s.received c) := by
  have hinv : LineInv s := by
    refine h.invariant ?_ ?_
    · rintro s rfl
      exact lineInv_init
    · rintro s a t hreach hline ⟨hclean, hst⟩
      exact hline.step (reachable_registered hreach.of_guarded) hclean hst
  exact hinv.lines c

/-- A client sends a byte and disconnects, and the next one gets its number and sends a line in two
    pieces. -/
theorem lines_isolated_reused :
    ∃ s : IpcRun, ((system 1).guarded Clean).Reachable s ∧ s.received 0 = [97] ∧
      s.received 1 = [98, 99, newline] ∧ s.linesOf 0 = [] ∧ s.linesOf 1 = [[98, 99]] := by
  have hG : ∀ t : IpcRun, t.loop.accepted = [] → Clean t .loop := by
    intro t ht fd hfd
    rw [ht] at hfd
    cases hfd
  have hGreg : ∀ s t : IpcRun, s.bufferOf 5 = [] → t.loop.accepted = [5] →
      t.buffers = s.buffers → Clean t .loop := by
    intro s t hempty ht hbuf fd hfd
    rw [ht, List.mem_singleton] at hfd
    rwa [hfd, bufferOf, hbuf]
  have h₁ : ((system 1).guarded Clean).Reachable started := reachable_started nofun
  have h₂ := reachable_connected hG 5 (fun t => hGreg _ t rfl) h₁ rfl rfl rfl rfl rfl
  have h₃ := reachable_read hG [97] h₂ rfl rfl rfl rfl (by decide) (by decide)
  have h₄ := reachable_reading hG h₃ rfl rfl rfl
  have h₅ := h₄.step ⟨hG _ rfl, .readFailed _ _ 5 [] [] rfl (List.mem_singleton_self _)⟩
  have h₆ := h₅.step ⟨hG _ rfl, .unlock _ _ _ rfl⟩
  have h₇ := h₆.step ⟨hG _ rfl, .remove _ 5 [] rfl⟩
  have h₈ := h₇.step ⟨hG _ rfl, .again _ rfl⟩
  have h₉ := reachable_connected hG 5 (fun t => hGreg _ t rfl) h₈ rfl rfl rfl rfl rfl
  have h₁₀ := reachable_read hG [98] h₉ rfl rfl rfl rfl (by decide) (by decide)
  have h₁₁ := reachable_read hG [99, newline] h₁₀ rfl rfl rfl rfl (by decide) (by decide)
  refine ⟨_, h₁₁, rfl, rfl, (lines_isolated 1 _ h₁₁ 0).trans ?_,
    (lines_isolated 1 _ h₁₁ 1).trans ?_⟩
  · show expectedLines [97] = []
    decide
  · show expectedLines [98, 99, newline] = [[98, 99]]
    decide

/-- **A command of two clients.** A client sends `ab` and is dropped by `Broadcast`; the next one
    gets its number and sends `c` and a newline.  The line dispatched for it is `abc`. -/
theorem lines_not_isolated :
    ∃ s : IpcRun, (system 1).Reachable s ∧ s.received 1 = [99, newline] ∧
      s.linesOf 1 = [[97, 98, 99]] ∧ s.linesOf 1 ≠ expectedLines (s.received 1) := by
  let G : IpcRun → Action → Prop := fun _ _ => True
  have hG : ∀ t : IpcRun, t.loop.accepted = [] → G t .loop := fun _ _ => trivial
  have h₁ : ((system 1).guarded G).Reachable started := reachable_started trivial
  have h₂ := reachable_connected hG 5 (fun _ _ _ => trivial) h₁ rfl rfl rfl rfl rfl
  have h₃ := reachable_read hG [97, 98] h₂ rfl rfl rfl rfl (by decide) (by decide)
  have h₄ := h₃.step ⟨trivial, .broadcast _ [5] (List.Sublist.refl _) rfl⟩
  have h₅ := reachable_connected hG 5 (fun _ _ _ => trivial) h₄ rfl rfl rfl rfl rfl
  have h₆ := reachable_read hG [99, newline] h₅ rfl rfl rfl rfl (by decide) (by decide)
  -- the first client leaves its bytes behind, and the second one completes the line
  have hkept : (lineParser newline).drain [97, 98] = ([], [97, 98]) :=
    StreamParser.drain_of_none rfl
  have hline : (lineParser newline).parse [97, 98, 99, newline] = some ([97, 98, 99], []) := rfl
  have hwhole : (lineParser newline).drain [97, 98, 99, newline] = ([[97, 98, 99]], []) := by
    rw [StreamParser.drain_of_some hline, drain_nil]
  have hown : (lineParser newline).parse [99, newline] = some ([99], []) := rfl
  have hexpected : expectedLines [99, newline] = [[99]] := by
    rw [expectedLines, ← drain_lineParser, StreamParser.drain_of_some hown, drain_nil]
    rfl
  have hlines : ∀ rest : IpcRun, rest.bufferOf 5 = [97, 98] → rest.linesOf 1 = [] →
      (rest.readChunk 5 1 [99, newline]).linesOf 1 = [[97, 98, 99]] := by
    intro rest hbuf hnone
    rw [readChunk_linesOf, hbuf, hnone]
    show [] ++ List.filter _ ((lineParser newline).drain [97, 98, 99, newline]).1 = _
    rw [hwhole]
    rfl
  suffices h : ∃ s : IpcRun, (system 1).Reachable s ∧ s.received 1 = [99, newline] ∧
      s.linesOf 1 = [[97, 98, 99]] by
    obtain ⟨s, hs, hreceived, hdispatched⟩ := h
    refine ⟨s, hs, hreceived, hdispatched, ?_⟩
    rw [hdispatched, hreceived, hexpected]
    decide
  refine ⟨_, h₆.of_guarded, rfl, hlines _ ?_ ?_⟩
  · show ((lineParser newline).drain [97, 98]).2 = _
    rw [hkept]
  · show (readChunk _ 5 0 [97, 98]).linesOf 1 = []
    rw [readChunk_linesOf]
    rfl

end IpcRun

end FalconGuide
