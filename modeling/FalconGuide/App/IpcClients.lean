import FalconGuide.Lib.Descriptors
import FalconGuide.Lib.StreamParser
import FalconGuide.Lib.TransitionSystem
import Mathlib.Data.List.Nodup

namespace FalconGuide

open Lib

/-!
# The clients of the IPC server

`IpcServer::ServerLoop` with the threads that call `Broadcast`, the thread that calls `Start` and
`Stop`, and an operating system that gives a closed descriptor number out again.  What holds
`clients_mutex_` is one step, but for the read path: it goes through the clients one by one, and
nobody else takes the mutex meanwhile.  A command handler is taken to return.  `Stop` sets
`listen_fd_` to -1 without the mutex: that the loop may come to `FD_SET` with it before it sees
`running_` is left out.

* `IpcRun` — the members of the server, the position of its loop, and the open descriptors;
* `IpcRun.removeClient`, `dropAll`, `closeAll` — the three paths that close a client;
* `IpcRun.readChunk` — one successful `read`, with the lines it completes;
* `IpcRun.system` — the runs of a server.
-/

/-- Where the loop is. -/
inductive IpcLoop
  /-- No thread to join. -/
  | notJoinable
  /-- At the loop condition. -/
  | head
  /-- `rfds` is built, about to `select`. -/
  | selecting (rfds : List ℕ)
  /-- `select` has left the ready descriptors in `rfds`; the listening socket is ready. -/
  | accepting (rfds : List ℕ)
  /-- `accept` returned `cfd`, about to take the mutex. -/
  | registering (rfds : List ℕ) (cfd : ℕ)
  /-- About to take the mutex and to read. -/
  | beforeRead (rfds : List ℕ)
  /-- Reading, the mutex held: the clients still to come, and `to_remove`. -/
  | reading (rfds rest toRemove : List ℕ)
  /-- The mutex released: what is left of `to_remove`. -/
  | removing (toRemove : List ℕ)
  | returned
  deriving DecidableEq

namespace IpcLoop

/-- The loop holds `clients_mutex_` between two steps. -/
def locks : IpcLoop → Bool
  | .reading _ _ _ => true
  | _ => false

/-- The descriptors the loop is going to close without asking whether they are registered. -/
def doomed : IpcLoop → List ℕ
  | .reading _ _ toRemove => toRemove
  | .removing toRemove => toRemove
  | _ => []

/-- The descriptor that was accepted and is not yet registered. -/
def accepted : IpcLoop → List ℕ
  | .registering _ cfd => [cfd]
  | _ => []

end IpcLoop

/-- Where the thread that calls `Start` and `Stop` is. -/
inductive IpcControl
  | idle
  /-- `Stop`, `running_` exchanged. -/
  | stopping
  /-- `Stop`, the listening socket closed. -/
  | closing
  /-- `Stop`, at the join. -/
  | joining
  deriving DecidableEq

/-- A server and the descriptors of the process.  `received` and `dispatched` are history. -/
structure IpcRun where
  fds : Descriptors := {}
  running : Bool := false
  /-- `listen_fd_` is open. -/
  listening : Bool := false
  clients : List ℕ := []
  /-- `buffers`, a variable of the loop. -/
  buffers : ℕ → Option (List UInt8) := fun _ => none
  loop : IpcLoop := .notJoinable
  control : IpcControl := .idle
  /-- The bytes read from a connection. -/
  received : ℕ → List UInt8 := fun _ => []
  /-- The lines that are not empty given to `HandleData`, with the connection they were read
      from. -/
  dispatched : List (ℕ × List UInt8) := []

namespace IpcRun

/-- The descriptors of the clients, and the one that is about to be a client's. -/
def held (s : IpcRun) : List ℕ := s.clients ++ s.loop.accepted

/-! ### The paths that close a client -/

/-- `RemoveClient`, and what `Broadcast` does with a client that it cannot write to. -/
def removeClient (s : IpcRun) (fd : ℕ) : IpcRun :=
  { s with fds := s.fds.closeFd fd, clients := s.clients.erase fd }

/-- The second loop of `Broadcast`. -/
def dropAll (s : IpcRun) (dead : List ℕ) : IpcRun := dead.foldl removeClient s

/-- The clients are closed and forgotten by `Stop`. -/
def closeAll (s : IpcRun) : IpcRun := { s with fds := s.fds.closeFds s.clients, clients := [] }

/-! ### Reading -/

/-- `buffers[fd]`, which inserts an empty buffer when there is none. -/
def bufferOf (s : IpcRun) (fd : ℕ) : List UInt8 := (s.buffers fd).getD []

/-- The newline. -/
def newline : UInt8 := 10

/-- `read` returned `chunk` from connection `c`, and the complete lines in the buffer are
    handled. -/
def readChunk (s : IpcRun) (fd c : ℕ) (chunk : List UInt8) : IpcRun :=
  let (lines, rest) := (lineParser newline).drain (s.bufferOf fd ++ chunk)
  { s with
    buffers := Function.update s.buffers fd (some rest)
    received := Function.update s.received c (s.received c ++ chunk)
    dispatched := s.dispatched ++ (lines.filter (· ≠ [])).map (c, ·) }

/-! ### Steps -/

/-- What the threads and the operating system can do. -/
inductive Action
  /-- The thread that calls `Start` and `Stop`. -/
  | control
  | loop
  /-- `Broadcast`, with the clients it could not write to. -/
  | broadcast (dead : List ℕ)
  /-- Another part of the process opens or closes a descriptor. -/
  | other

/-- One step, with `maxClients` clients at most. -/
inductive Step (maxClients : ℕ) : IpcRun → Action → IpcRun → Prop
  /-- `Start`, with a socket that can be bound. -/
  | start (s) (hc : s.control = .idle) (hr : s.running = false) (hl : s.loop = .notJoinable) :
      Step maxClients s .control
        { s with running := true, listening := true, loop := .head, buffers := fun _ => none }
  | stop (s) (hc : s.control = .idle) (hr : s.running = true) :
      Step maxClients s .control { s with running := false, control := .stopping }
  | stopListening (s) (hc : s.control = .stopping) :
      Step maxClients s .control { s with listening := false, control := .closing }
  | stopClients (s) (hc : s.control = .closing) (hk : s.loop.locks = false) :
      Step maxClients s .control { s.closeAll with control := .joining }
  /-- The join returns once the loop has. -/
  | stopJoin (s) (hc : s.control = .joining) (hl : s.loop = .returned) :
      Step maxClients s .control { s with loop := .notJoinable, control := .idle }
  | leave (s) (hl : s.loop = .head) (hr : s.running = false) :
      Step maxClients s .loop { s with loop := .returned }
  /-- The loop condition holds, and `rfds` is built under the mutex. -/
  | collect (s) (hl : s.loop = .head) (hr : s.running = true) :
      Step maxClients s .loop { s with loop := .selecting s.clients }
  /-- `select` returns nothing. -/
  | timeout (s) (rfds) (hl : s.loop = .selecting rfds) :
      Step maxClients s .loop { s with loop := .head }
  | select (s) (rfds ready) (hl : s.loop = .selecting rfds) (hready : ready ⊆ rfds) :
      Step maxClients s .loop { s with loop := .beforeRead ready }
  | selectListen (s) (rfds ready) (hl : s.loop = .selecting rfds) (hready : ready ⊆ rfds) :
      Step maxClients s .loop { s with loop := .accepting ready }
  /-- `accept` returns an error. -/
  | acceptFailed (s) (rfds) (hl : s.loop = .accepting rfds) :
      Step maxClients s .loop { s with loop := .beforeRead rfds }
  | accept (s) (rfds cfd) (hl : s.loop = .accepting rfds) (hlisten : s.listening = true)
      (hfree : s.fds.table cfd = none) :
      Step maxClients s .loop { s with fds := s.fds.acceptFd cfd, loop := .registering rfds cfd }
  | register (s) (rfds cfd) (hl : s.loop = .registering rfds cfd)
      (hroom : s.clients.length < maxClients) :
      Step maxClients s .loop
        { s with
          clients := s.clients ++ [cfd]
          buffers := Function.update s.buffers cfd (some (s.bufferOf cfd))
          loop := .beforeRead rfds }
  | refuse (s) (rfds cfd) (hl : s.loop = .registering rfds cfd)
      (hfull : maxClients ≤ s.clients.length) :
      Step maxClients s .loop { s with fds := s.fds.closeFd cfd, loop := .beforeRead rfds }
  /-- The mutex is taken for the read path. -/
  | lock (s) (rfds) (hl : s.loop = .beforeRead rfds) :
      Step maxClients s .loop { s with loop := .reading rfds s.clients [] }
  | skip (s) (rfds fd rest toRemove) (hl : s.loop = .reading rfds (fd :: rest) toRemove)
      (hset : fd ∉ rfds) :
      Step maxClients s .loop { s with loop := .reading rfds rest toRemove }
  /-- `read` returns nothing or an error. -/
  | readFailed (s) (rfds fd rest toRemove) (hl : s.loop = .reading rfds (fd :: rest) toRemove)
      (hset : fd ∈ rfds) :
      Step maxClients s .loop { s with loop := .reading rfds rest (toRemove ++ [fd]) }
  | read (s) (rfds fd rest toRemove c chunk) (hl : s.loop = .reading rfds (fd :: rest) toRemove)
      (hset : fd ∈ rfds) (hopen : s.fds.table fd = some c) (hchunk : chunk ≠ [])
      (hsize : chunk.length ≤ 4096) :
      Step maxClients s .loop
        { s.readChunk fd c chunk with loop := .reading rfds rest toRemove }
  | unlock (s) (rfds toRemove) (hl : s.loop = .reading rfds [] toRemove) :
      Step maxClients s .loop { s with loop := .removing toRemove }
  /-- `buffers.erase(fd)` and `RemoveClient(fd)`. -/
  | remove (s) (fd toRemove) (hl : s.loop = .removing (fd :: toRemove)) :
      Step maxClients s .loop
        { s.removeClient fd with
          buffers := Function.update s.buffers fd none
          loop := .removing toRemove }
  | again (s) (hl : s.loop = .removing []) : Step maxClients s .loop { s with loop := .head }
  /-- `Broadcast`: the clients it cannot write to, in their order. -/
  | broadcast (s) (dead) (hdead : dead.Sublist s.clients) (hk : s.loop.locks = false) :
      Step maxClients s (.broadcast dead) (s.dropAll dead)
  | otherOpen (s) (fd) (hfree : s.fds.table fd = none) :
      Step maxClients s .other { s with fds := s.fds.openFd fd }
  /-- Another part of the process closes what it has opened. -/
  | otherClose (s) (fd c) (hopen : s.fds.table fd = some c) (hc : c ∉ s.fds.accepted) :
      Step maxClients s .other { s with fds := s.fds.forgetFd fd }

/-- A server that was constructed, and its runs. -/
def system (maxClients : ℕ) : System IpcRun Action where
  init s := s = {}
  step := Step maxClients

/-! ### Closing several clients -/

/-- The clients in `fds` closed and forgotten: what every path that closes a client comes to. -/
def dropClients (s : IpcRun) (fds : List ℕ) : IpcRun :=
  { s with fds := s.fds.closeFds fds, clients := fds.foldl List.erase s.clients }

theorem removeClient_eq (s : IpcRun) (fd : ℕ) : s.removeClient fd = s.dropClients [fd] := rfl

/-- `Broadcast` drops the clients that it cannot write to. -/
theorem dropAll_eq (s : IpcRun) (dead : List ℕ) : s.dropAll dead = s.dropClients dead := by
  induction dead generalizing s with
  | nil => rfl
  | cons fd dead ih => exact ih (s.removeClient fd)

/-- `Stop` drops all clients. -/
theorem closeAll_eq (s : IpcRun) : s.closeAll = s.dropClients s.clients := by
  have hnil : ∀ fds : List ℕ, fds.foldl List.erase fds = [] := by
    intro fds
    induction fds with
    | nil => rfl
    | cons fd fds ih => rwa [List.foldl_cons, List.erase_cons_head]
  rw [dropClients, hnil]
  rfl

variable {s t : IpcRun} {fds : List ℕ}

theorem mem_dropClients (h : s.clients.Nodup) {fd : ℕ} :
    fd ∈ (s.dropClients fds).clients ↔ fd ∈ s.clients ∧ fd ∉ fds := by
  show fd ∈ fds.foldl List.erase s.clients ↔ _
  rw [← List.diff_eq_foldl]
  exact h.mem_sdiff_iff

/-! ### Registered clients are open -/

/-- What holds of the descriptors in every run: the server owns those that are registered, though
    it may close others, and the loop goes through clients. -/
structure Registered (s : IpcRun) : Prop where
  tracked : s.fds.Tracked s.held
  iterating : ∀ rfds rest toRemove, s.loop = .reading rfds rest toRemove →
    (toRemove ++ rest).Sublist s.clients

theorem registered_init : Registered {} where
  tracked := Descriptors.tracked_init
  iterating := nofun

theorem Registered.nodup (h : Registered s) : s.clients.Nodup :=
  (List.nodup_append.mp h.tracked.owned.nodup).1

/-- The descriptor that is about to be registered is no client's. -/
theorem Registered.not_mem_clients (h : Registered s) {fd : ℕ} (hfd : fd ∈ s.loop.accepted) :
    fd ∉ s.clients := fun hmem =>
  (List.nodup_append.mp h.tracked.owned.nodup).2.2 fd hmem fd hfd rfl

/-- A free number is not held. -/
theorem Registered.not_mem_of_free (h : Registered s) {fd : ℕ} (hfree : s.fds.table fd = none) :
    fd ∉ s.held := by
  intro hmem
  obtain ⟨c, -, hc⟩ := h.tracked.owned.isOpen fd hmem
  exact absurd (hfree.symm.trans hc) (by simp)

/-- A step that leaves descriptors and clients alone. -/
theorem Registered.move (h : Registered s) (hfds : t.fds = s.fds) (hheld : t.held = s.held)
    (hiter : ∀ rfds rest toRemove, t.loop = .reading rfds rest toRemove →
      (toRemove ++ rest).Sublist t.clients) : Registered t where
  tracked := by
    rw [hfds, hheld]
    exact h.tracked
  iterating := hiter

/-- A step of the loop to a position at which it does not hold the mutex. -/
theorem Registered.goto (h : Registered s) {loop : IpcLoop}
    (haccepted : loop.accepted = s.loop.accepted) (hlocks : loop.locks = false) :
    Registered { s with loop } := by
  refine h.move rfl (by rw [held, held, haccepted]) ?_
  rintro rfds rest toRemove rfl
  cases hlocks

/-- Clients are closed: what is held is the rest, and each `close` finds a client. -/
theorem Registered.drop (h : Registered s) {fds : List ℕ} (hk : s.loop.locks = false)
    (hsub : fds.Sublist s.clients) :
    Registered (s.dropClients fds) ∧ (s.dropClients fds).fds.misses = s.fds.misses := by
  obtain ⟨htracked, hmisses⟩ := h.tracked.closeFds_append hsub.subset (h.nodup.sublist hsub)
  refine ⟨⟨htracked, ?_⟩, hmisses⟩
  intro rfds rest toRemove hl
  rw [show s.loop = _ from hl] at hk
  cases hk

/-- One descriptor is closed, whether or not it is still a client's. -/
theorem Registered.remove (h : Registered s) (hk : s.loop.locks = false)
    (haccepted : s.loop.accepted = []) (fd : ℕ) : Registered (s.dropClients [fd]) := by
  have hheld : s.held = s.clients := by rw [held, haccepted, List.append_nil]
  by_cases hfd : fd ∈ s.clients
  · exact (h.drop hk (List.singleton_sublist.mpr hfd)).1
  · have htracked := (h.tracked.closeFd_other (hheld ▸ hfd)).1
    refine ⟨?_, ?_⟩
    · show (s.fds.closeFd fd).Tracked (s.clients.erase fd ++ s.loop.accepted)
      rw [List.erase_of_not_mem hfd]
      exact htracked
    · intro rfds rest toRemove hl
      rw [show s.loop = _ from hl] at hk
      cases hk

/-- **One step** keeps the registered clients open. -/
theorem Registered.step {maxClients : ℕ} {a : Action} (h : Registered s)
    (hst : Step maxClients s a t) : Registered t := by
  cases hst with
  | start hc hr hl => exact h.move rfl (by rw [held, held, hl]; rfl) nofun
  | stop hc hr => exact h.move rfl rfl h.iterating
  | stopListening hc => exact h.move rfl rfl h.iterating
  | stopClients hc hk =>
    -- `Stop` closes and forgets in one go what `clients_` holds
    rw [closeAll_eq]
    have hdrop := (h.drop hk (List.Sublist.refl s.clients)).1
    exact hdrop.move rfl rfl hdrop.iterating
  | stopJoin hc hl => exact h.move rfl (by rw [held, held, hl]; rfl) nofun
  | leave hl hr => exact h.goto (by rw [hl]; rfl) rfl
  | collect hl hr => exact h.goto (by rw [hl]; rfl) rfl
  | timeout rfds hl => exact h.goto (by rw [hl]; rfl) rfl
  | select rfds ready hl hready => exact h.goto (by rw [hl]; rfl) rfl
  | selectListen rfds ready hl hready => exact h.goto (by rw [hl]; rfl) rfl
  | acceptFailed rfds hl => exact h.goto (by rw [hl]; rfl) rfl
  | accept rfds cfd hl hlisten hfree =>
    have htracked := h.tracked.acceptFd hfree
    simp only [held, hl, IpcLoop.accepted, List.append_nil] at htracked
    exact ⟨htracked, nofun⟩
  | register rfds cfd hl hroom =>
    refine h.move rfl ?_ nofun
    rw [held, held, hl]
    exact List.append_nil _
  | refuse rfds cfd hl hfull =>
    have hmem : cfd ∈ s.loop.accepted := by
      rw [hl]
      exact List.mem_singleton_self cfd
    have htracked := (h.tracked.closeFd (List.mem_append_right _ hmem)).1
    rw [held, List.erase_append_right _ (h.not_mem_clients hmem), hl] at htracked
    exact ⟨by simpa [held, IpcLoop.accepted] using htracked, nofun⟩
  | lock rfds hl =>
    refine h.move rfl (by rw [held, held, hl]; rfl) ?_
    intro _ rest toRemove heq
    cases heq
    exact List.Sublist.refl _
  | skip rfds fd rest toRemove hl hset =>
    -- an unread descriptor leaves the list that is iterated over, never joins it
    have hiter := h.iterating _ _ _ hl
    refine h.move rfl (by rw [held, held, hl]; rfl) ?_
    intro _ _ _ heq
    cases heq
    exact (List.sublist_cons_self fd rest).append_left toRemove |>.trans hiter
  | readFailed rfds fd rest toRemove hl hset =>
    have hiter := h.iterating _ _ _ hl
    refine h.move rfl (by rw [held, held, hl]; rfl) ?_
    intro _ _ _ heq
    cases heq
    simpa using hiter
  | read rfds fd rest toRemove c chunk hl hset hopen hchunk hsize =>
    have hiter := h.iterating _ _ _ hl
    refine h.move rfl (by rw [held, held, hl]; rfl) ?_
    intro _ _ _ heq
    cases heq
    exact (List.sublist_cons_self fd rest).append_left toRemove |>.trans hiter
  | unlock rfds toRemove hl => exact h.goto (by rw [hl]; rfl) rfl
  | remove fd toRemove hl =>
    rw [removeClient_eq]
    have hdrop := h.remove (by rw [hl]; rfl) (by rw [hl]; rfl) fd
    exact hdrop.move rfl (by rw [held, held, show (s.dropClients [fd]).loop = _ from hl]; rfl)
      nofun
  | again hl => exact h.goto (by rw [hl]; rfl) rfl
  | broadcast dead hdead hk =>
    rw [dropAll_eq]
    exact (h.drop hk hdead).1
  | otherOpen fd hfree => exact ⟨h.tracked.openFd hfree, h.iterating⟩
  | otherClose fd c hopen hc => exact ⟨h.tracked.forgetFd hopen hc, h.iterating⟩

/-- In every run the registered clients are open. -/
theorem reachable_registered {maxClients : ℕ} (h : (system maxClients).Reachable s) :
    Registered s := by
  refine h.invariant ?_ (fun _ _ _ _ hs hst => hs.step hst)
  rintro s rfl
  exact registered_init

/-! ### One client -/

section OneClient

variable {maxClients : ℕ} {G : IpcRun → Action → Prop}

/-- A client that connects while there is no other. -/
def connected (s : IpcRun) (fd : ℕ) : IpcRun :=
  { s with
    fds := s.fds.acceptFd fd
    clients := [fd]
    buffers := Function.update s.buffers fd (some (s.bufferOf fd)) }

/-- The server after `Start`. -/
def started : IpcRun := { running := true, listening := true, loop := .head }

theorem reachable_started (hG : G {} .control) :
    ((system maxClients).guarded G).Reachable started :=
  .step (.init rfl) ⟨hG, .start _ rfl rfl rfl⟩

/-- One turn of the loop that accepts a client. -/
theorem reachable_connected (hG : ∀ t : IpcRun, t.loop.accepted = [] → G t .loop) (fd : ℕ)
    (hGreg : ∀ t : IpcRun, t.loop.accepted = [fd] → t.buffers = s.buffers → G t .loop)
    (h : ((system (maxClients + 1)).guarded G).Reachable s) (hl : s.loop = .head)
    (hr : s.running = true) (hlisten : s.listening = true) (hcl : s.clients = [])
    (hfree : s.fds.table fd = none) :
    ((system (maxClients + 1)).guarded G).Reachable { s.connected fd with loop := .head } := by
  have h₁ := h.step ⟨hG s (by rw [hl]; rfl), .collect s hl hr⟩
  have h₂ := h₁.step ⟨hG _ rfl, .selectListen _ _ [] rfl (List.nil_subset _)⟩
  have h₃ := h₂.step ⟨hG _ rfl, .accept _ _ fd rfl hlisten hfree⟩
  have h₄ := h₃.step ⟨hGreg _ rfl rfl, .register _ _ fd rfl (by simp [hcl])⟩
  have h₅ := h₄.step ⟨hG _ rfl, .lock _ _ rfl⟩
  simp only [hcl, List.nil_append] at h₅
  have h₆ := h₅.step ⟨hG _ rfl, .skip _ _ fd [] [] rfl List.not_mem_nil⟩
  have h₇ := h₆.step ⟨hG _ rfl, .unlock _ _ _ rfl⟩
  exact h₇.step ⟨hG _ rfl, .again _ rfl⟩

/-- A turn of the loop that comes to the read of the only client. -/
theorem reachable_reading (hG : ∀ t : IpcRun, t.loop.accepted = [] → G t .loop) {fd : ℕ}
    (h : ((system maxClients).guarded G).Reachable s) (hl : s.loop = .head)
    (hr : s.running = true) (hcl : s.clients = [fd]) :
    ((system maxClients).guarded G).Reachable { s with loop := .reading [fd] [fd] [] } := by
  have h₁ := h.step ⟨hG s (by rw [hl]; rfl), .collect s hl hr⟩
  have h₂ := h₁.step ⟨hG _ rfl, .select _ _ [fd] rfl (by rw [hcl]; exact List.Subset.refl _)⟩
  have h₃ := h₂.step ⟨hG _ rfl, .lock _ _ rfl⟩
  simpa only [hcl] using h₃

/-- A turn of the loop that reads from the only client. -/
theorem reachable_read (hG : ∀ t : IpcRun, t.loop.accepted = [] → G t .loop) {fd c : ℕ}
    (chunk : List UInt8) (h : ((system maxClients).guarded G).Reachable s) (hl : s.loop = .head)
    (hr : s.running = true) (hcl : s.clients = [fd]) (hopen : s.fds.table fd = some c)
    (hchunk : chunk ≠ []) (hsize : chunk.length ≤ 4096) :
    ((system maxClients).guarded G).Reachable { s.readChunk fd c chunk with loop := .head } := by
  have h₁ := reachable_reading hG h hl hr hcl
  have h₂ := h₁.step ⟨hG _ rfl, .read _ _ fd [] [] c chunk rfl (List.mem_singleton_self _) hopen
    hchunk hsize⟩
  have h₃ := h₂.step ⟨hG _ rfl, .unlock _ _ _ rfl⟩
  exact h₃.step ⟨hG _ rfl, .again _ rfl⟩

end OneClient

end IpcRun

end FalconGuide
