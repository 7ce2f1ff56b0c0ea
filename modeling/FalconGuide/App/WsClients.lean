import FalconGuide.App.WsStream
import FalconGuide.Lib.Descriptors
import FalconGuide.Lib.TransitionSystem

namespace FalconGuide

open Lib

/-!
# The clients of the WebSocket server

`WsServer::Loop` accepts and reads, and erases the clients that are dead; `Stop` closes those that
are left, once it has joined the loop.  The steps follow `select`, `accept`, `read` and the mutex;
`Broadcast` closes nothing and is left out.

* `handleReadReturns` — `HandleRead` with the value it returns;
* `WsLoop`, `WsControl`, `WsRun` — where the loop and `Stop` are, the clients and the descriptors;
* `WsRun.Step` — the steps of the loop, of `Start` and `Stop`, and of the rest of the process;
* `WsRun.system` — the runs of a server.
-/

/-! ### What `HandleRead` returns -/

/-- `HandleRead` with the bytes that `read` returned: the client after it, and the returned value;
    `none` when an exception leaves the thread.  After the loop over the frames it returns true,
    whatever the frames were. -/
def handleReadReturns (c : WsClient) (bytes : List UInt8) : Option (WsClient × Bool) :=
  let c := { c with buf := c.buf ++ bytes }
  if c.upgraded then (drainFrames c).map fun c => (c, true)
  else if (afterFirst (crlf ++ crlf) c.buf).isNone then some (c, true)
  else if (afterFirst (ascii "Upgrade: websocket") c.buf).isSome
      || (afterFirst (ascii "Upgrade: WebSocket") c.buf).isSome then
    some (doUpgrade c, (doUpgrade c).upgraded)
  else some (c, false)

/-- What the loop does with the returned value makes it `handleRead`. -/
theorem handleRead_eq (c : WsClient) (bytes : List UInt8) :
    handleRead c bytes
      = (handleReadReturns c bytes).map fun r =>
          if r.2 then r.1 else { r.1 with dead := true } := by
  unfold handleRead handleReadReturns
  dsimp only
  by_cases hup : c.upgraded = true
  · rw [if_pos hup, if_pos hup]
    cases drainFrames { c with buf := c.buf ++ bytes } with
    | none => rfl
    | some c => rfl
  · rw [if_neg hup, if_neg hup]
    split
    · rfl
    · split
      · simp only [Option.map_some, Option.some.injEq]
        unfold doUpgrade
        split
        · simp [hup]
        · split
          · simp [hup]
          · simp
      · rfl

/-! ### The state -/

/-- `Client`; `-1` is no descriptor. -/
structure WsPeer where
  fd : Option ℕ
  client : WsClient := {}

/-- Where the loop is. -/
inductive WsLoop
  /-- No thread to join. -/
  | notJoinable
  /-- At the loop condition. -/
  | head
  /-- `rfds` is built, about to `select`. -/
  | selecting (rfds : List ℕ)
  /-- `select` has left the ready descriptors in `rfds`; the listening socket is ready. -/
  | accepting (rfds : List ℕ)
  /-- `accept` returned `cfd`, about to take the mutex. -/
  | registering (rfds : List ℕ) (cfd : ℕ)
  /-- About to take the mutex and to read. -/
  | beforeRead (rfds : List ℕ)
  /-- Reading, the mutex held, at the client of this index. -/
  | reading (rfds : List ℕ) (k : ℕ)
  | returned
  deriving DecidableEq

/-- The descriptor that was accepted and is not yet registered. -/
def WsLoop.accepted : WsLoop → List ℕ
  | .registering _ cfd => [cfd]
  | _ => []

/-- Where the thread that calls `Start` and `Stop` is. -/
inductive WsControl
  | idle
  /-- `Stop`, `running_` exchanged. -/
  | stopping
  /-- `Stop`, the listening socket closed, at the join. -/
  | joining
  /-- `Stop`, about to take the mutex and to close the clients. -/
  | clearing
  deriving DecidableEq

/-- A server and the descriptors of the process. -/
structure WsRun where
  fds : Descriptors := {}
  running : Bool := false
  /-- `server_fd_` is open. -/
  listening : Bool := false
  clients : List WsPeer := []
  loop : WsLoop := .notJoinable
  control : WsControl := .idle

namespace WsRun

/-- The descriptors of the clients, and the one that is about to be a client's. -/
def held (s : WsRun) : List ℕ := s.clients.filterMap (·.fd) ++ s.loop.accepted

/-- A client that is read when its descriptor is ready. -/
def Reads (p : WsPeer) (rfds : List ℕ) (fd : ℕ) : Prop :=
  p.client.dead = false ∧ p.fd = some fd ∧ fd ∈ rfds

/-- The client at `k` after `HandleRead` returned true. -/
def keep (s : WsRun) (k : ℕ) (p : WsPeer) (client : WsClient) : WsRun :=
  { s with clients := s.clients.set k { p with client } }

/-- The client at `k` after `HandleRead` returned false: its descriptor is closed. -/
def drop (s : WsRun) (k fd : ℕ) (client : WsClient) : WsRun :=
  { s with
    fds := s.fds.closeFd fd
    clients := s.clients.set k { fd := none, client := { client with dead := true } } }

/-- What a handler that calls `Stop` leaves.  The loop cannot join itself: the exception of the join
    ends `Stop` before it comes to the clients, and `HandleRead` catches it. -/
def stoppedByHandler (s : WsRun) (stops : Bool) : WsRun :=
  if stops && s.running then { s with running := false, listening := false } else s

/-! ### Steps -/

/-- What the threads and the operating system can do. -/
inductive Action
  /-- The thread that calls `Start` and `Stop`. -/
  | control
  | loop
  /-- `HandleRead` with the bytes of a `read`; a command handler may call `Stop`. -/
  | read (chunk : List UInt8) (stops : Bool)
  /-- Another part of the process opens or closes a descriptor. -/
  | other

/-- One step, with `maxClients` clients at most. -/
inductive Step (maxClients : ℕ) : WsRun → Action → WsRun → Prop
  /-- `Start`, with a socket that can be bound. -/
  | start (s) (hc : s.control = .idle) (hr : s.running = false) (hl : s.loop = .notJoinable) :
      Step maxClients s .control { s with running := true, listening := true, loop := .head }
  | stop (s) (hc : s.control = .idle) (hr : s.running = true) :
      Step maxClients s .control { s with running := false, control := .stopping }
  | stopListening (s) (hc : s.control = .stopping) :
      Step maxClients s .control { s with listening := false, control := .joining }
  /-- The join returns once the loop has. -/
  | stopJoin (s) (hc : s.control = .joining) (hl : s.loop = .returned) :
      Step maxClients s .control { s with loop := .notJoinable, control := .clearing }
  | stopClients (s) (hc : s.control = .clearing) :
      Step maxClients s .control
        { s with
          fds := s.fds.closeFds (s.clients.filterMap (·.fd))
          clients := []
          control := .idle }
  | leave (s) (hl : s.loop = .head) (hr : s.running = false) :
      Step maxClients s .loop { s with loop := .returned }
  /-- The loop condition holds, and `rfds` is built under the mutex. -/
  | collect (s) (hl : s.loop = .head) (hr : s.running = true) :
      Step maxClients s .loop
        { s with
          loop := .selecting ((s.clients.filter (!·.client.dead)).filterMap (·.fd)) }
  /-- `select` returns nothing. -/
  | timeout (s) (rfds) (hl : s.loop = .selecting rfds) :
      Step maxClients s .loop { s with loop := .head }
  | select (s) (rfds ready) (hl : s.loop = .selecting rfds) (hready : ready ⊆ rfds) :
      Step maxClients s .loop { s with loop := .beforeRead ready }
  | selectListen (s) (rfds ready) (hl : s.loop = .selecting rfds) (hready : ready ⊆ rfds) :
      Step maxClients s .loop { s with loop := .accepting ready }
  /-- `accept` returns an error. -/
  | acceptFailed (s) (rfds) (hl : s.loop = .accepting rfds) :
      Step maxClients s .loop { s with loop := .beforeRead rfds }
  | accept (s) (rfds cfd) (hl : s.loop = .accepting rfds) (hlisten : s.listening = true)
      (hfree : s.fds.table cfd = none) :
      Step maxClients s .loop { s with fds := s.fds.acceptFd cfd, loop := .registering rfds cfd }
  | register (s) (rfds cfd) (hl : s.loop = .registering rfds cfd)
      (hroom : s.clients.length < maxClients) :
      Step maxClients s .loop
        { s with clients := s.clients ++ [{ fd := some cfd }], loop := .beforeRead rfds }
  | refuse (s) (rfds cfd) (hl : s.loop = .registering rfds cfd)
      (hfull : maxClients ≤ s.clients.length) :
      Step maxClients s .loop { s with fds := s.fds.closeFd cfd, loop := .beforeRead rfds }
  /-- The mutex is taken for the read path. -/
  | lock (s) (rfds) (hl : s.loop = .beforeRead rfds) :
      Step maxClients s .loop { s with loop := .reading rfds 0 }
  | skip (s) (rfds k p) (hl : s.loop = .reading rfds k) (hp : s.clients[k]? = some p)
      (hskip : ∀ fd, ¬ Reads p rfds fd) :
      Step maxClients s .loop { s with loop := .reading rfds (k + 1) }
  /-- `read` returns nothing or an error. -/
  | readFailed (s) (rfds k p fd) (hl : s.loop = .reading rfds k) (hp : s.clients[k]? = some p)
      (hreads : Reads p rfds fd) :
      Step maxClients s .loop { s.drop k fd p.client with loop := .reading rfds (k + 1) }
  /-- `HandleRead` returns true.  It calls a handler for every payload. -/
  | readTrue (s) (rfds k p fd chunk stops client) (hl : s.loop = .reading rfds k)
      (hp : s.clients[k]? = some p) (hreads : Reads p rfds fd) (hchunk : chunk ≠ [])
      (hsize : chunk.length ≤ 4096)
      (hread : handleReadReturns p.client chunk = some (client, true))
      (hstops : stops = true → client.handled ≠ p.client.handled) :
      Step maxClients s (.read chunk stops)
        { (s.keep k p client).stoppedByHandler stops with loop := .reading rfds (k + 1) }
  /-- `HandleRead` returns false. -/
  | readFalse (s) (rfds k p fd chunk client) (hl : s.loop = .reading rfds k)
      (hp : s.clients[k]? = some p) (hreads : Reads p rfds fd) (hchunk : chunk ≠ [])
      (hsize : chunk.length ≤ 4096)
      (hread : handleReadReturns p.client chunk = some (client, false)) :
      Step maxClients s (.read chunk false)
        { s.drop k fd client with loop := .reading rfds (k + 1) }
  /-- The dead clients are erased, and the mutex released. -/
  | erase (s) (rfds k) (hl : s.loop = .reading rfds k) (hk : s.clients[k]? = none) :
      Step maxClients s .loop
        { s with clients := s.clients.filter (!·.client.dead), loop := .head }
  | otherOpen (s) (fd) (hfree : s.fds.table fd = none) :
      Step maxClients s .other { s with fds := s.fds.openFd fd }
  /-- Another part of the process closes what it has opened. -/
  | otherClose (s) (fd c) (hopen : s.fds.table fd = some c) (hc : c ∉ s.fds.accepted) :
      Step maxClients s .other { s with fds := s.fds.forgetFd fd }

/-- A server that was constructed, and its runs. -/
def system (maxClients : ℕ) : System WsRun Action where
  init s := s = {}
  step := Step maxClients

end WsRun

end FalconGuide
