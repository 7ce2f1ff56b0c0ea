import FalconGuide.App.SessionThreads
import FalconGuide.Lib.WaitGraph

namespace FalconGuide

open Lib

/-!
# Commands over the WebSocket and the threads they wait for

The main thread in its `Start`, the loop of the WebSocket server with the commands it handles, the
replay thread, the estimator thread and the loop of the IPC server, from the call of `Start` on.
The mutexes that are held over more than one access, `mu_` and `clients_mutex_`, have an owner; the
sections of `pause_mutex_`, of the queue and of the error text are one step each.

* `Access` — what a command handler does after it has looked at the status, one access each;
* `WsThreads.Step` — one access of one thread;
* `WsThreads.waits` — who waits for whom;
* `WsThreads.Quiet` — the commands that join no thread, and no `stop` of a running session;
* `WsThreads.stop_never_idle` — what a `stop` over the WebSocket comes to;
* `WsThreads.no_wait_cycle` — the main result.
-/

/-- The mutexes that are held over more than one access. -/
inductive Mutex
  /-- `WsServer::mu_`. -/
  | mu
  /-- `IpcServer::clients_mutex_`. -/
  | clients
  deriving DecidableEq

/-- One access of a command handler. -/
inductive Access
  | setStatus (st : Status)
  | setRunning (running : Bool)
  | setPaused (paused : Bool)
  /-- A section of `clients_mutex_`: `IpcServer::Broadcast`, or the one in `IpcServer::Stop`. -/
  | lockClients
  | ipcStart (binds : Bool)
  | wsStart (binds : Bool)
  | pipelineStart
  | spawnReplay
  /-- `if (thread_.joinable()) thread_.join()`. -/
  | join (t : Thread)
  /-- The same in the destructor of `WsServer`, out of which an exception does not get. -/
  | joinNoexcept
  | pipelineStop
  | ipcStop
  | wsStop
  /-- The new `nav_system_` in place of the one that was stopped. -/
  | newPipeline
  | wsDestroy
  deriving DecidableEq

/-- The accesses that can make the loop thread wait. -/
def Access.waits : Access → Bool
  | .lockClients => true
  | .join _ => true
  | .joinNoexcept => true
  | _ => false

/-- The accesses that join no thread and end nothing. -/
def Access.quiet : Access → Bool
  | .setRunning running => running
  | .setStatus st => st ≠ .idle
  | .setPaused _ => true
  | .lockClients => true
  | .ipcStart _ => true
  | .wsStart _ => true
  | .pipelineStart => true
  | .spawnReplay => true
  | _ => false

/-- A command with what the outside makes of it: whether the dataset opens and the servers
    bind, and what of a configuration is accepted. -/
inductive WsCommand
  | start (opens ipcBinds wsBinds : Bool)
  | stop
  | pause
  | resume
  /-- `configure` with a `config`: it parses, its estimator can be built, and the type of its
      dataset is known. -/
  | configure (parses builds known : Bool)
  /-- A command that reads or sets what no other thread waits for. -/
  | other
  deriving DecidableEq

/-- Where the main thread is in its `Start`. -/
inductive MainAt
  | calling (todo : List Access)
  /-- The same, holding `clients_mutex_`. -/
  | inClients (todo : List Access)
  deriving DecidableEq

/-- Where the loop of the WebSocket server is. -/
inductive LoopAt
  | absent
  | top
  /-- About to lock `mu_`. -/
  | locking
  /-- Holding `mu_`, between two commands. -/
  | holding
  /-- Holding `mu_`, inside a command. -/
  | handling (todo : List Access)
  /-- Inside a command, holding `clients_mutex_` too. -/
  | inClients (todo : List Access)
  | returned
  deriving DecidableEq

/-- Where the replay thread is, with the broadcast at its end. -/
inductive ReplayAt (M : Type)
  | thread (rt : ReplayThread M)
  /-- About to broadcast that the replay is completed. -/
  | lockingClients
  | inClients
  deriving DecidableEq

/-- Where the estimator thread is. -/
inductive EstimatorAt
  | absent
  | popping
  /-- In `AddMeasurement`. -/
  | updating
  /-- About to broadcast a navigation state to the clients of the IPC server. -/
  | lockingClients
  | inClients
  /-- About to broadcast it to the clients of the WebSocket server. -/
  | lockingMu
  | inMu
  | returned
  deriving DecidableEq

/-- Where the loop of the IPC server is. -/
inductive IpcAt
  | absent
  | selecting
  | lockingClients
  | inClients
  | returned
  deriving DecidableEq

/-- The shared variables and the threads, as the constructor leaves them. -/
structure WsThreads (M : Type) where
  status : Status := .configured
  /-- `running_` of the session. -/
  running : Bool := false
  paused : Bool := false
  wsRunning : Bool := false
  ipcRunning : Bool := false
  pipelineRunning : Bool := false
  /-- The queue has been shut down. -/
  shutdown : Bool := false
  /-- The number of measurements in the queue. -/
  queued : ℕ := 0
  main : MainAt := .calling []
  loop : LoopAt := .absent
  replay : ReplayAt M := .thread .notJoinable
  estimator : EstimatorAt := .absent
  ipc : IpcAt := .absent
  /-- The owner of `mu_`. -/
  mu : Option Thread := none
  /-- The owner of `clients_mutex_`. -/
  clients : Option Thread := none
  crashed : Bool := false
  /-- The command being handled is a `stop` that found the session `Running`. -/
  stopping : Bool := false
  /-- The last command handled was one. -/
  stopHandled : Bool := false

namespace WsThreads

variable {M : Type}

/-! ### Commands -/

/-- `Start` from the check of the status on. -/
def startAccesses (s : WsThreads M) (opens ipcBinds wsBinds : Bool) : List Access :=
  match s.status with
  | .running => []
  | .paused => []
  | .error => []
  | _ =>
    if opens then
      [.ipcStart ipcBinds, .wsStart wsBinds, .pipelineStart, .setStatus .running, .lockClients,
        .setRunning true, .spawnReplay]
    else [.setStatus .error, .lockClients]

/-- `Stop` after the exchange on `running_`. -/
def stopAccesses : List Access :=
  [.setPaused false, .join .replay, .pipelineStop, .lockClients, .ipcStop, .wsStop,
    .setStatus .idle]

/-- `Reconfigure` gets to the replacement of `nav_system_`. -/
def replaces (s : WsThreads M) (parses builds : Bool) : Bool :=
  parses && builds && s.status ≠ .running && s.status ≠ .paused

/-- `Reconfigure` from the check of the status on; an unknown dataset type is found after the old
    `nav_system_` is gone. -/
def configureAccesses (s : WsThreads M) (parses builds known : Bool) : List Access :=
  if s.replaces parses builds then
    if known then [.pipelineStop, .newPipeline, .ipcStop, .wsDestroy, .setStatus .configured]
    else [.pipelineStop, .newPipeline]
  else []

/-- What a command will do, as far as its first access decides it. -/
def accesses (s : WsThreads M) : WsCommand → List Access
  | .start opens ipcBinds wsBinds => s.startAccesses opens ipcBinds wsBinds
  | .stop => if s.running then stopAccesses else []
  | .pause =>
    if s.status = .running then [.setPaused true, .setStatus .paused, .lockClients] else []
  | .resume =>
    if s.status = .paused then [.setPaused false, .setStatus .running, .lockClients] else []
  | .configure parses builds known => s.configureAccesses parses builds known
  | .other => []

/-- A command gets to its handler; the exchange of `stop` is its first access. -/
def dispatch (s : WsThreads M) (c : WsCommand) : WsThreads M :=
  { s with
    loop := .handling (s.accesses c)
    running := s.running && c ≠ .stop
    stopping := c = .stop && s.status = .running
    stopHandled := false }

/-- A command has been handled, or its handler threw and the exception was caught. -/
def handled (s : WsThreads M) : WsThreads M :=
  { s with loop := .holding, stopping := false, stopHandled := s.stopping }

/-- An access that waits for nobody: the state after it, and what comes before the rest. -/
def perform (s : WsThreads M) : Access → WsThreads M × List Access
  | .setStatus status => ({ s with status }, [])
  | .setRunning running => ({ s with running }, [])
  | .setPaused paused => ({ s with paused }, [])
  | .ipcStart binds =>
    if s.ipcRunning || !binds then (s, [])
    else if s.ipc = .absent then ({ s with ipcRunning := true, ipc := .selecting }, [])
    else ({ s with crashed := true }, [])
  | .wsStart binds =>
    if s.wsRunning || !binds then (s, [])
    else if s.loop = .absent then ({ s with wsRunning := true, loop := .top }, [])
    else ({ s with crashed := true }, [])
  | .pipelineStart =>
    if s.pipelineRunning then (s, [])
    else if s.estimator = .absent then
      ({ s with pipelineRunning := true, estimator := .popping }, [])
    else ({ s with crashed := true }, [])
  | .spawnReplay =>
    match s.replay with
    | .thread .notJoinable => ({ s with replay := .thread .loopHead }, [])
    | _ => ({ s with crashed := true }, [])
  | .pipelineStop =>
    if s.pipelineRunning then
      ({ s with pipelineRunning := false, shutdown := true }, [.join .estimator])
    else (s, [])
  | .ipcStop =>
    if s.ipcRunning then ({ s with ipcRunning := false }, [.lockClients, .join .ipc]) else (s, [])
  | .wsStop => if s.wsRunning then ({ s with wsRunning := false }, [.join .ws]) else (s, [])
  | .wsDestroy =>
    if s.wsRunning then ({ s with wsRunning := false }, [.joinNoexcept])
    else ({ s with crashed := true }, [])
  | .newPipeline => ({ s with shutdown := false, queued := 0 }, [])
  | .lockClients => (s, [])
  | .join _ => (s, [])
  | .joinNoexcept => (s, [])

/-! ### Who waits for whom -/

/-- The thread was created and has not returned. -/
def alive (s : WsThreads M) : Thread → Bool
  | .main => true
  | .ws => s.loop ≠ .absent && s.loop ≠ .returned
  | .replay =>
    match s.replay with
    | .thread rt => rt.looping
    | _ => true
  | .estimator => s.estimator ≠ .absent && s.estimator ≠ .returned
  | .ipc => s.ipc ≠ .absent && s.ipc ≠ .returned

/-- What the next access of a call waits for. -/
def todoWants : List Access → Option (Mutex ⊕ Thread)
  | .lockClients :: _ => some (.inl .clients)
  | .join t :: _ => some (.inr t)
  | .joinNoexcept :: _ => some (.inr .ws)
  | _ => none

/-- What the main thread waits for. -/
def mainWants : MainAt → Option (Mutex ⊕ Thread)
  | .calling todo => todoWants todo
  | .inClients _ => none

/-- What the loop of the WebSocket server waits for. -/
def loopWants : LoopAt → Option (Mutex ⊕ Thread)
  | .locking => some (.inl .mu)
  | .handling todo => todoWants todo
  | _ => none

/-- What each thread waits for. -/
def wants (s : WsThreads M) : Thread → Option (Mutex ⊕ Thread)
  | .main => mainWants s.main
  | .ws => loopWants s.loop
  | .replay =>
    match s.replay with
    | .lockingClients => some (.inl .clients)
    | _ => none
  | .estimator =>
    match s.estimator with
    | .lockingClients => some (.inl .clients)
    | .lockingMu => some (.inl .mu)
    | _ => none
  | .ipc => if s.ipc = .lockingClients then some (.inl .clients) else none

/-- The wait-for graph of a state. -/
def waits (s : WsThreads M) : WaitState Thread Mutex where
  wants := s.wants
  owner
    | .mu => s.mu
    | .clients => s.clients
  alive := s.alive

/-! ### Steps -/

/-- What the threads can do. -/
inductive Action (M : Type)
  /-- The loop thread gets a command to handle. -/
  | command (c : WsCommand)
  /-- The next access of a thread. -/
  | go (t : Thread)
  /-- The next access of the replay thread; `outcome` is what `Next` would return. -/
  | replay (outcome : ReadOutcome M)

/-- One access; a process that was terminated makes no more. -/
inductive Step (capacity : ℕ) : WsThreads M → Action M → WsThreads M → Prop
  | mainPerform (s : WsThreads M) (a : Access) (todo : List Access) (hx : s.crashed = false)
      (hm : s.main = .calling (a :: todo)) (ha : a.waits = false) :
      Step capacity s (.go .main)
        { (s.perform a).1 with main := .calling ((s.perform a).2 ++ todo) }
  | mainLockClients (s : WsThreads M) (todo : List Access) (hx : s.crashed = false)
      (hm : s.main = .calling (.lockClients :: todo)) (hc : s.clients = none) :
      Step capacity s (.go .main) { s with main := .inClients todo, clients := some .main }
  | mainUnlockClients (s : WsThreads M) (todo : List Access) (hx : s.crashed = false)
      (hm : s.main = .inClients todo) :
      Step capacity s (.go .main) { s with main := .calling todo, clients := none }
  | enter (s : WsThreads M) (hx : s.crashed = false) (hl : s.loop = .top)
      (hr : s.wsRunning = true) : Step capacity s (.go .ws) { s with loop := .locking }
  | leave (s : WsThreads M) (hx : s.crashed = false) (hl : s.loop = .top)
      (hr : s.wsRunning = false) : Step capacity s (.go .ws) { s with loop := .returned }
  | lock (s : WsThreads M) (hx : s.crashed = false) (hl : s.loop = .locking)
      (hm : s.mu = none) : Step capacity s (.go .ws) { s with loop := .holding, mu := some .ws }
  | unlock (s : WsThreads M) (hx : s.crashed = false) (hl : s.loop = .holding) :
      Step capacity s (.go .ws) { s with loop := .top, mu := none }
  | command (s : WsThreads M) (c : WsCommand) (hx : s.crashed = false) (hl : s.loop = .holding) :
      Step capacity s (.command c) (s.dispatch c)
  | handled (s : WsThreads M) (hx : s.crashed = false) (hl : s.loop = .handling []) :
      Step capacity s (.go .ws) s.handled
  | perform (s : WsThreads M) (a : Access) (todo : List Access) (hx : s.crashed = false)
      (hl : s.loop = .handling (a :: todo)) (ha : a.waits = false) :
      Step capacity s (.go .ws)
        { (s.perform a).1 with loop := .handling ((s.perform a).2 ++ todo) }
  | lockClients (s : WsThreads M) (todo : List Access) (hx : s.crashed = false)
      (hl : s.loop = .handling (.lockClients :: todo)) (hc : s.clients = none) :
      Step capacity s (.go .ws) { s with loop := .inClients todo, clients := some .ws }
  | unlockClients (s : WsThreads M) (todo : List Access) (hx : s.crashed = false)
      (hl : s.loop = .inClients todo) :
      Step capacity s (.go .ws) { s with loop := .handling todo, clients := none }
  /-- A thread is joined once it has returned. -/
  | joinReplay (s : WsThreads M) (todo : List Access) (hx : s.crashed = false)
      (hl : s.loop = .handling (.join .replay :: todo)) (ht : s.alive .replay = false) :
      Step capacity s (.go .ws) { s with loop := .handling todo, replay := .thread .notJoinable }
  | joinEstimator (s : WsThreads M) (todo : List Access) (hx : s.crashed = false)
      (hl : s.loop = .handling (.join .estimator :: todo)) (ht : s.alive .estimator = false) :
      Step capacity s (.go .ws) { s with loop := .handling todo, estimator := .absent }
  | joinIpc (s : WsThreads M) (todo : List Access) (hx : s.crashed = false)
      (hl : s.loop = .handling (.join .ipc :: todo)) (ht : s.alive .ipc = false) :
      Step capacity s (.go .ws) { s with loop := .handling todo, ipc := .absent }
  /-- `join` throws on the calling thread, and `HandleRead` catches the exception. -/
  | joinItself (s : WsThreads M) (todo : List Access) (hx : s.crashed = false)
      (hl : s.loop = .handling (.join .ws :: todo)) : Step capacity s (.go .ws) s.handled
  | joinNoexcept (s : WsThreads M) (todo : List Access) (hx : s.crashed = false)
      (hl : s.loop = .handling (.joinNoexcept :: todo)) :
      Step capacity s (.go .ws) { s with crashed := true }
  | replay (s : WsThreads M) (outcome : ReadOutcome M) (rt rt' : ReplayThread M)
      (hx : s.crashed = false) (hr : s.replay = .thread rt) (hc : rt ≠ .completing)
      (hp : ∀ m, rt ≠ .pushing m) (hn : rt.next s.running s.paused outcome = some rt') :
      Step capacity s (.replay outcome) { s with replay := .thread rt' }
  | push (s : WsThreads M) (m : M) (hx : s.crashed = false)
      (hr : s.replay = .thread (.pushing m)) (hp : s.pipelineRunning = true)
      (hd : s.shutdown = false) (hq : s.queued < capacity) :
      Step capacity s (.go .replay)
        { s with replay := .thread .loopHead, queued := s.queued + 1 }
  /-- The replay loop goes on, whatever `Push` returns. -/
  | pushRefused (s : WsThreads M) (m : M) (hx : s.crashed = false)
      (hr : s.replay = .thread (.pushing m))
      (hp : s.pipelineRunning = false ∨ s.shutdown = true ∨ capacity ≤ s.queued) :
      Step capacity s (.go .replay) { s with replay := .thread .loopHead }
  | setCompleted (s : WsThreads M) (hx : s.crashed = false)
      (hr : s.replay = .thread .completing) :
      Step capacity s (.go .replay) { s with status := .completed, replay := .lockingClients }
  | replayLock (s : WsThreads M) (hx : s.crashed = false) (hr : s.replay = .lockingClients)
      (hc : s.clients = none) :
      Step capacity s (.go .replay) { s with replay := .inClients, clients := some .replay }
  | replayUnlock (s : WsThreads M) (hx : s.crashed = false) (hr : s.replay = .inClients) :
      Step capacity s (.go .replay) { s with replay := .thread .returned, clients := none }
  | pop (s : WsThreads M) (hx : s.crashed = false) (he : s.estimator = .popping)
      (hq : 0 < s.queued) :
      Step capacity s (.go .estimator)
        { s with estimator := .updating, queued := s.queued - 1 }
  | popNothing (s : WsThreads M) (hx : s.crashed = false) (he : s.estimator = .popping)
      (hq : s.queued = 0) (hd : s.shutdown = true) :
      Step capacity s (.go .estimator) { s with estimator := .returned }
  | notAccepted (s : WsThreads M) (hx : s.crashed = false) (he : s.estimator = .updating) :
      Step capacity s (.go .estimator) { s with estimator := .popping }
  | accepted (s : WsThreads M) (hx : s.crashed = false) (he : s.estimator = .updating) :
      Step capacity s (.go .estimator) { s with estimator := .lockingClients }
  | estimatorLockClients (s : WsThreads M) (hx : s.crashed = false)
      (he : s.estimator = .lockingClients) (hc : s.clients = none) :
      Step capacity s (.go .estimator)
        { s with estimator := .inClients, clients := some .estimator }
  | estimatorUnlockClients (s : WsThreads M) (hx : s.crashed = false)
      (he : s.estimator = .inClients) :
      Step capacity s (.go .estimator) { s with estimator := .lockingMu, clients := none }
  | estimatorLockMu (s : WsThreads M) (hx : s.crashed = false) (he : s.estimator = .lockingMu)
      (hm : s.mu = none) :
      Step capacity s (.go .estimator) { s with estimator := .inMu, mu := some .estimator }
  | estimatorUnlockMu (s : WsThreads M) (hx : s.crashed = false) (he : s.estimator = .inMu) :
      Step capacity s (.go .estimator) { s with estimator := .popping, mu := none }
  | ipcEnter (s : WsThreads M) (hx : s.crashed = false) (hi : s.ipc = .selecting)
      (hr : s.ipcRunning = true) : Step capacity s (.go .ipc) { s with ipc := .lockingClients }
  | ipcLeave (s : WsThreads M) (hx : s.crashed = false) (hi : s.ipc = .selecting)
      (hr : s.ipcRunning = false) : Step capacity s (.go .ipc) { s with ipc := .returned }
  | ipcLock (s : WsThreads M) (hx : s.crashed = false) (hi : s.ipc = .lockingClients)
      (hc : s.clients = none) :
      Step capacity s (.go .ipc) { s with ipc := .inClients, clients := some .ipc }
  | ipcUnlock (s : WsThreads M) (hx : s.crashed = false) (hi : s.ipc = .inClients) :
      Step capacity s (.go .ipc) { s with ipc := .selecting, clients := none }

/-- A constructed session whose `Start` the main thread is about to make. -/
def starting (opens ipcBinds wsBinds : Bool) : WsThreads M :=
  { main := .calling (startAccesses ({} : WsThreads M) opens ipcBinds wsBinds) }

/-- A session that is started and its threads, with a queue of the given capacity. -/
def system (M : Type) (capacity : ℕ) : System (WsThreads M) (Action M) where
  init s := ∃ opens ipcBinds wsBinds, s = starting opens ipcBinds wsBinds
  step := Step capacity

/-- A `stop` gets to its handler while the server of its loop is running. -/
def StopsServer (s : WsThreads M) (a : Action M) : Prop := a = .command .stop → s.wsRunning = true

/-- The command joins no thread: no `stop` while the session is `Running` or `running_` is set, and
    no `configure` that gets to the replacement of `nav_system_`. -/
def Quiet (s : WsThreads M) : Action M → Prop
  | .command .stop => s.status ≠ .running ∧ s.running = false
  | .command (.configure parses builds _) => s.replaces parses builds = false
  | _ => True

/-! ### Owners -/

/-- The loop is inside a section of `mu_`. -/
@[grind] def holdsMu : LoopAt → Bool
  | .holding => true
  | .handling _ => true
  | .inClients _ => true
  | _ => false

/-- A mutex is owned by a thread that is inside one of its sections. -/
structure Owners (s : WsThreads M) : Prop where
  mu : ∀ t, s.mu = some t →
    (t = .ws ∧ holdsMu s.loop = true) ∨ (t = .estimator ∧ s.estimator = .inMu)
  clients : ∀ t, s.clients = some t →
    (t = .main ∧ ∃ todo, s.main = .inClients todo) ∨
      (t = .ws ∧ ∃ todo, s.loop = .inClients todo) ∨
      (t = .replay ∧ s.replay = .inClients) ∨ (t = .estimator ∧ s.estimator = .inClients) ∨
      (t = .ipc ∧ s.ipc = .inClients)

variable {capacity : ℕ} {s t : WsThreads M} {a : Action M}

/-- An access that waits for nobody touches no mutex and moves no thread out of a section. -/
theorem perform_frame (s : WsThreads M) (a : Access) :
    (s.perform a).1.mu = s.mu ∧ (s.perform a).1.clients = s.clients ∧
      (s.perform a).1.main = s.main ∧
      (holdsMu s.loop = true → (s.perform a).1.loop = s.loop) ∧
      (s.replay = .inClients → (s.perform a).1.replay = .inClients) ∧
      (s.estimator = .inMu ∨ s.estimator = .inClients →
        (s.perform a).1.estimator = s.estimator) ∧
      (s.ipc = .inClients → (s.perform a).1.ipc = .inClients) := by
  cases a <;> simp only [perform] <;> grind

/-- A thread that is inside a section has not returned. -/
theorem alive_of_section (s : WsThreads M) :
    (s.replay = .inClients → s.alive .replay = true) ∧
      (s.estimator = .inMu ∨ s.estimator = .inClients → s.alive .estimator = true) ∧
      (s.ipc = .inClients → s.alive .ipc = true) := by
  refine ⟨fun h => ?_, fun h => ?_, fun h => ?_⟩
  · simp [alive, h]
  · rcases h with h | h <;> simp [alive, h]
  · simp [alive, h]

/-- Every access keeps the owners inside their sections. -/
theorem Owners.step (h : Owners s) (hst : Step capacity s a t) : Owners t := by
  obtain ⟨hmu, hcl⟩ := h
  cases hst with
  | perform a todo hx hl ha | mainPerform a todo hx hl ha =>
    obtain ⟨h1, h2, h3, h4, h5, h6, h7⟩ := perform_frame s a
    constructor <;> grind
  | joinReplay | joinEstimator | joinIpc =>
    obtain ⟨h1, h2, h3⟩ := alive_of_section s
    constructor <;> grind
  | command c hx hl => constructor <;> grind [dispatch]
  | handled | joinItself => constructor <;> grind [WsThreads.handled]
  | _ => constructor <;> grind

/-- Owners are inside their sections in every state that any run reaches. -/
theorem reachable_owners (h : (system M capacity).Reachable s) : Owners s := by
  refine h.invariant ?_ ?_
  · rintro s ⟨opens, ipcBinds, wsBinds, rfl⟩
    constructor <;> simp [starting]
  · intro s a t _ hown hst
    exact hown.step hst

/-! ### Quiet accesses -/

/-- A quiet access that waits for nobody brings nothing else with it. -/
theorem perform_quiet (s : WsThreads M) {a : Access} (hq : a.quiet = true) :
    (s.perform a).2 = [] ∧ (s.perform a).1.stopping = s.stopping ∧
      (s.perform a).1.stopHandled = s.stopHandled := by
  cases a <;> simp only [Access.quiet, Bool.false_eq_true] at hq <;> simp only [perform] <;> grind

/-- What the main thread has yet to do of its `Start` is quiet. -/
def MainQuiet (s : WsThreads M) : Prop :=
  ∀ todo, s.main = .calling todo ∨ s.main = .inClients todo → ∀ a ∈ todo, a.quiet = true

/-- `Start` joins nobody and ends nothing. -/
theorem startAccesses_quiet (opens ipcBinds wsBinds : Bool) :
    ∀ a ∈ s.startAccesses opens ipcBinds wsBinds, a.quiet = true := by
  unfold startAccesses
  split <;> try simp
  split <;> simp [Access.quiet]

/-- Only the main thread goes on with its `Start`. -/
theorem MainQuiet.step (h : MainQuiet s) (hst : Step capacity s a t) : MainQuiet t := by
  cases hst with
  | mainPerform a todo hx hm ha =>
    obtain ⟨h1, -, -⟩ := perform_quiet s (h _ (.inl hm) a (by simp))
    rintro todo' (hm' | hm') b hb
    · have heq : todo = todo' := by simpa [h1] using hm'
      exact h _ (.inl hm) b (by simp [heq, hb])
    · cases hm'
  | mainLockClients todo hx hm =>
    rintro todo' (hm' | hm') b hb
    · cases hm'
    · cases hm'
      exact h _ (.inl hm) b (by simp [hb])
  | mainUnlockClients todo hx hm =>
    rintro todo' (hm' | hm') b hb
    · cases hm'
      exact h _ (.inr hm) b hb
    · cases hm'
  | perform a todo hx hl ha =>
    obtain ⟨-, -, h3, -⟩ := perform_frame s a
    intro todo' hm'
    exact h todo' (by simpa [h3] using hm')
  | _ => exact h

/-- The main thread is quiet in every state that any run reaches. -/
theorem reachable_mainQuiet (h : (system M capacity).Reachable s) : MainQuiet s := by
  refine h.invariant ?_ ?_
  · rintro s ⟨opens, ipcBinds, wsBinds, rfl⟩ todo (hm | hm) a ha
    · cases hm
      exact startAccesses_quiet opens ipcBinds wsBinds a ha
    · cases hm
  · intro s a t _ hmain hst
    exact hmain.step hst

/-! ### Runs that join no thread -/

/-- The command being handled joins no thread, and no `stop` of a running session was handled. -/
structure Calm (s : WsThreads M) : Prop where
  todo : ∀ todo, s.loop = .handling todo ∨ s.loop = .inClients todo → ∀ a ∈ todo, a.quiet = true
  stopping : s.stopping = false
  stopHandled : s.stopHandled = false

/-- A quiet command does only quiet accesses. -/
theorem accesses_quiet {c : WsCommand} (hq : Quiet s (.command c)) :
    ∀ a ∈ s.accesses c, a.quiet = true := by
  cases c with
  | start opens ipcBinds wsBinds => exact startAccesses_quiet opens ipcBinds wsBinds
  | stop => simp [accesses, hq.2]
  | pause => simp only [accesses]; split <;> simp [Access.quiet]
  | resume => simp only [accesses]; split <;> simp [Access.quiet]
  | configure parses builds known =>
    have hn : s.replaces parses builds = false := hq
    simp [accesses, configureAccesses, hn]
  | other => simp [accesses]

/-- Only the loop thread changes what the loop is to do, and the flags. -/
theorem Calm.frame (h : Calm s) (hloop : t.loop = s.loop) (hstopping : t.stopping = s.stopping)
    (hhandled : t.stopHandled = s.stopHandled) : Calm t where
  todo := hloop ▸ h.todo
  stopping := hstopping.trans h.stopping
  stopHandled := hhandled.trans h.stopHandled

/-- What `Start` does to the loop: nothing, or the loop is created. -/
theorem perform_loop (s : WsThreads M) (a : Access) :
    (s.perform a).1.loop = s.loop ∨ (s.perform a).1.loop = .top := by
  cases a <;> simp only [perform] <;> grind

/-- Every step of a quiet run keeps the loop calm. -/
theorem Calm.step (h : Calm s) (hmain : MainQuiet s) (hq : Quiet s a)
    (hst : Step capacity s a t) : Calm t := by
  obtain ⟨htodo, hs, hh⟩ := h
  cases hst with
  | mainPerform a todo hx hm ha =>
    obtain ⟨-, h2, h3⟩ := perform_quiet s (hmain _ (.inl hm) a (by simp))
    have hloop := perform_loop s a
    constructor <;> grind
  | command c hx hl =>
    have hacc := accesses_quiet hq
    have hstop : ¬ (c = .stop ∧ s.status = .running) := by
      rintro ⟨rfl, hrun⟩
      exact hq.1 hrun
    constructor <;> grind [dispatch]
  | perform a todo hx hl ha =>
    have hall := htodo _ (.inl hl)
    obtain ⟨h1, h2, h3⟩ := perform_quiet s (hall a (by simp))
    constructor <;> grind
  | handled | joinItself => constructor <;> grind [WsThreads.handled]
  | enter | leave | lock | unlock | lockClients | unlockClients | joinReplay | joinEstimator
  | joinIpc => constructor <;> grind
  -- the steps of the other threads
  | _ => exact Calm.frame ⟨htodo, hs, hh⟩ rfl rfl rfl

/-- The loop is calm in every state of a quiet run. -/
theorem reachable_calm (h : ((system M capacity).guarded Quiet).Reachable s) : Calm s := by
  refine h.invariant ?_ ?_
  · rintro s ⟨opens, ipcBinds, wsBinds, rfl⟩
    constructor <;> simp [starting]
  · rintro s a t hs hcalm ⟨hq, hst⟩
    exact hcalm.step (reachable_mainQuiet hs.of_guarded) hq hst

/-- Where a thread that waits stands: it waits for a broadcast, and the estimator thread for the
    loop thread too. -/
def level : Thread → ℕ
  | .estimator => 1
  | _ => 0

/-- The owner of `clients_mutex_` waits for nobody. -/
theorem Owners.wants_clients (h : Owners s) {u : Thread} (hu : s.clients = some u) :
    s.wants u = none := by
  rcases h.clients u hu with ⟨rfl, todo, hm⟩ | ⟨rfl, todo, hl⟩ | ⟨rfl, hl⟩ | ⟨rfl, hl⟩ | ⟨rfl, hl⟩
  · simp [wants, hm, mainWants]
  · simp [wants, hl, loopWants]
  · simp [wants, hl]
  · simp [wants, hl]
  · simp [wants, hl]

/-- The owner of `mu_` waits for nobody, or is the loop inside a command. -/
theorem Owners.wants_mu (h : Owners s) {u : Thread} (hu : s.mu = some u) :
    s.wants u = none ∨ u = .ws ∧ s.loop ≠ .locking := by
  rcases h.mu u hu with ⟨rfl, hl⟩ | ⟨rfl, hl⟩
  · exact .inr ⟨rfl, by rintro hlock; simp [hlock, holdsMu] at hl⟩
  · exact .inl (by simp [wants, hl])

/-- No access of a call waits for `mu_`. -/
theorem todoWants_ne_mu (todo : List Access) : todoWants todo ≠ some (.inl .mu) := by
  unfold todoWants
  split <;> simp

/-- A call waits for a thread only when it joins one. -/
theorem todoWants_thread {todo : List Access} {v : Thread} (h : todoWants todo = some (.inr v)) :
    ∃ a ∈ todo, a.quiet = false := by
  unfold todoWants at h
  split at h
  · simp at h
  · exact ⟨_, List.mem_cons_self, rfl⟩
  · exact ⟨_, List.mem_cons_self, rfl⟩
  · simp at h

/-- The loop waits for `mu_` only before a section of it. -/
theorem loopWants_mu {l : LoopAt} (h : loopWants l = some (.inl .mu)) : l = .locking := by
  cases l with
  | locking => rfl
  | handling todo => exact absurd h (todoWants_ne_mu todo)
  | _ => cases h

/-- Only the loop before a section and the estimator thread wait for `mu_`. -/
theorem wants_eq_mu {u : Thread} (h : s.wants u = some (.inl .mu)) :
    u = .ws ∧ s.loop = .locking ∨ u = .estimator := by
  cases u with
  | main =>
    have hmain : mainWants s.main = some (.inl .mu) := h
    cases hm : s.main with
    | calling todo =>
      rw [hm] at hmain
      exact absurd hmain (todoWants_ne_mu todo)
    | inClients todo =>
      rw [hm] at hmain
      cases hmain
  | ws => exact .inl ⟨rfl, loopWants_mu h⟩
  | estimator => exact .inr rfl
  | _ => grind [wants]

/-- In a quiet run nobody waits for a thread. -/
theorem Calm.wants_thread (h : Calm s) (hmain : MainQuiet s) {u v : Thread} :
    s.wants u ≠ some (.inr v) := by
  intro hu
  have hquiet : ∀ todo, (∀ a ∈ todo, a.quiet = true) → todoWants todo ≠ some (.inr v) := by
    intro todo hall hw
    obtain ⟨a, ha, hq⟩ := todoWants_thread hw
    exact absurd (hq.symm.trans (hall a ha)) Bool.false_ne_true
  cases u with
  | main =>
    have hw : mainWants s.main = some (.inr v) := hu
    cases hm : s.main with
    | calling todo =>
      rw [hm] at hw
      exact hquiet todo (hmain todo (.inl hm)) hw
    | inClients todo =>
      rw [hm] at hw
      cases hw
  | ws =>
    have hw : loopWants s.loop = some (.inr v) := hu
    cases hl : s.loop with
    | handling todo =>
      rw [hl] at hw
      exact hquiet todo (h.todo todo (.inl hl)) hw
    | _ =>
      rw [hl] at hw
      cases hw
  | _ => grind [wants]

/-- With the loop calm nobody waits in a circle. -/
theorem not_cyclic (ho : Owners s) (hc : Calm s) (hmain : MainQuiet s) : ¬ s.waits.Cyclic := by
  refine WaitState.not_cyclic_of_level level ?_
  rintro u v (⟨m, hw, hown⟩ | ⟨hw, -⟩) hv
  · cases m with
    | clients =>
      have hnone : s.wants v = none := ho.wants_clients hown
      simp [waits, hnone] at hv
    | mu =>
      rcases ho.wants_mu hown with hnone | ⟨rfl, hloop⟩
      · simp [waits, hnone] at hv
      · rcases wants_eq_mu hw with ⟨-, hlock⟩ | rfl
        · exact absurd hlock hloop
        · decide
  · exact absurd hw (hc.wants_thread hmain)

/-! ### No first `stop` reaches `Idle` -/

/-- Before the session would be set to `Idle`, the loop thread joins itself. -/
def JoinsFirst (wsRunning : Bool) : List Access → Prop
  | [] => True
  | .setStatus st :: todo => st ≠ .idle ∧ JoinsFirst wsRunning todo
  | .wsStop :: todo => wsRunning = true ∨ JoinsFirst wsRunning todo
  | .join t :: todo => t = .ws ∨ JoinsFirst wsRunning todo
  | .joinNoexcept :: _ => True
  | .wsDestroy :: _ => True
  | _ :: todo => JoinsFirst wsRunning todo

/-- A server that is started takes no join away. -/
theorem JoinsFirst.mono {b : Bool} {todo : List Access} (h : JoinsFirst b todo) :
    JoinsFirst true todo := by
  induction todo with
  | nil => trivial
  | cons a todo ih => cases a <;> simp only [JoinsFirst] at h ⊢ <;> grind

/-- The session is not `Idle`, and the command being handled joins the loop thread before it
    would be. -/
structure NotIdle (s : WsThreads M) : Prop where
  status : s.status ≠ .idle
  todo : s.crashed = false → ∀ todo, s.loop = .handling todo ∨ s.loop = .inClients todo →
    JoinsFirst s.wsRunning todo

/-- What is left of a command that is being handled decides. -/
theorem NotIdle.of_todo {todo : List Access} (hs : s.status ≠ .idle)
    (hl : s.loop = .handling todo ∨ s.loop = .inClients todo)
    (hj : JoinsFirst s.wsRunning todo) : NotIdle s := by
  refine ⟨hs, fun _ todo' hl' => ?_⟩
  have heq : todo = todo' := by
    rcases hl with hl | hl <;> rw [hl] at hl' <;> simpa using hl'
  rw [← heq]
  exact hj

/-- A command joins the loop thread before it sets the status to `Idle`. -/
theorem accesses_joinsFirst {c : WsCommand} (h : c = .stop → s.wsRunning = true) :
    JoinsFirst s.wsRunning (s.accesses c) := by
  cases c with
  | start opens ipcBinds wsBinds =>
    simp only [accesses, startAccesses]
    split <;> try trivial
    split <;> simp [JoinsFirst]
  | stop => simp only [accesses]; split <;> simp [JoinsFirst, stopAccesses, h rfl]
  | pause => simp only [accesses]; split <;> simp [JoinsFirst]
  | resume => simp only [accesses]; split <;> simp [JoinsFirst]
  | configure parses builds known =>
    simp only [accesses, configureAccesses]
    split <;> try trivial
    split <;> simp [JoinsFirst]
  | other => trivial

/-- An access keeps the join before the store, and does not set the status to `Idle` itself. -/
theorem perform_joinsFirst {a : Access} {todo : List Access} (hs : s.status ≠ .idle)
    (h : JoinsFirst s.wsRunning (a :: todo)) (ha : a.waits = false) :
    (s.perform a).1.status ≠ .idle ∧
      ((s.perform a).1.crashed = true ∨
        JoinsFirst (s.perform a).1.wsRunning ((s.perform a).2 ++ todo)) := by
  cases a <;> simp only [JoinsFirst] at h <;> simp only [perform] <;>
    grind [JoinsFirst, Access.waits, → JoinsFirst.mono]

/-- A quiet access does not set the status to `Idle`, and stops no server. -/
theorem perform_quiet_status {a : Access} (hq : a.quiet = true) (hs : s.status ≠ .idle) :
    (s.perform a).1.status ≠ .idle ∧
      ((s.perform a).1.wsRunning = s.wsRunning ∨ (s.perform a).1.wsRunning = true) ∧
      (s.crashed = true → (s.perform a).1.crashed = true) := by
  cases a <;> simp only [Access.quiet, Bool.false_eq_true] at hq <;> simp only [perform] <;> grind

/-- Every access keeps the session from `Idle`, as long as each `stop` finds the server of the
    loop running. -/
theorem NotIdle.step (h : NotIdle s) (hmain : MainQuiet s) (hg : StopsServer s a)
    (hst : Step capacity s a t) : NotIdle t := by
  obtain ⟨hs, htodo⟩ := h
  cases hst with
  | mainPerform a todo hx hm ha =>
    obtain ⟨h1, hws, -⟩ := perform_quiet_status (hmain _ (.inl hm) a (by simp)) hs
    refine ⟨h1, fun hx' todo' hl => ?_⟩
    have hl' : s.loop = .handling todo' ∨ s.loop = .inClients todo' := by
      rcases perform_loop s a with heq | heq
      · simpa [heq] using hl
      · simp [heq] at hl
    have hj := htodo hx todo' hl'
    rcases hws with heq | heq
    · rw [heq]
      exact hj
    · rw [heq]
      exact hj.mono
  | command c hx hl =>
    exact .of_todo hs (.inl rfl) (accesses_joinsFirst fun hc => hg (by rw [hc]))
  | perform a todo hx hl ha =>
    obtain ⟨h1, h2⟩ := perform_joinsFirst hs (htodo hx _ (.inl hl)) ha
    rcases h2 with hcrash | hj
    · exact ⟨h1, fun hx' => by simp [hcrash] at hx'⟩
    · exact .of_todo h1 (.inl rfl) hj
  | enter | leave | lock | unlock => exact ⟨hs, fun _ todo hl => by simp at hl⟩
  | handled | joinItself => exact ⟨hs, fun _ todo hl => by simp [WsThreads.handled] at hl⟩
  | joinNoexcept => exact ⟨hs, fun hx => by simp at hx⟩
  | lockClients todo hx hl =>
    have hj : JoinsFirst s.wsRunning (.lockClients :: todo) := htodo hx _ (.inl hl)
    exact .of_todo hs (.inr rfl) hj
  | unlockClients todo hx hl => exact .of_todo hs (.inl rfl) (htodo hx _ (.inr hl))
  | joinReplay todo hx hl =>
    have hj : Thread.replay = .ws ∨ JoinsFirst s.wsRunning todo := htodo hx _ (.inl hl)
    exact .of_todo hs (.inl rfl) (hj.resolve_left (by decide))
  | joinEstimator todo hx hl =>
    have hj : Thread.estimator = .ws ∨ JoinsFirst s.wsRunning todo := htodo hx _ (.inl hl)
    exact .of_todo hs (.inl rfl) (hj.resolve_left (by decide))
  | joinIpc todo hx hl =>
    have hj : Thread.ipc = .ws ∨ JoinsFirst s.wsRunning todo := htodo hx _ (.inl hl)
    exact .of_todo hs (.inl rfl) (hj.resolve_left (by decide))
  | setCompleted => exact ⟨by simp, htodo⟩
  | _ => exact ⟨hs, htodo⟩

/-- **The first `stop` never ends `Idle`.** While the server of the loop is running when a `stop`
    gets to the handler, no schedule ever sets the session to `Idle`. -/
theorem stop_never_idle (h : ((system M capacity).guarded StopsServer).Reachable s) :
    s.status ≠ .idle := by
  refine NotIdle.status (h.invariant ?_ ?_)
  · rintro s ⟨opens, ipcBinds, wsBinds, rfl⟩
    constructor <;> simp [starting]
  · rintro s a t hs hnot ⟨hg, hst⟩
    exact hnot.step (reachable_mainQuiet hs.of_guarded) hg hst

/-! ### Main result -/

/-- **No cycle of waits.** In every run in which no command joins a thread and no `stop` comes while
    the session is `Running`, no thread ever waits, over others or directly, for itself, and there
    is no `stop` that has not left the session idle.  A `stop` of a running session never does: of
    every run whose `stop`s find the server of the loop running, what a handled one leaves is not
    `Idle`. -/
theorem no_wait_cycle :
    (∀ s, ((system M capacity).guarded Quiet).Reachable s →
      ¬ s.waits.Cyclic ∧ (s.stopHandled = true → s.status = .idle)) ∧
    ∀ s, ((system M capacity).guarded StopsServer).Reachable s →
      s.stopHandled = true → s.status ≠ .idle := by
  constructor
  · intro s h
    have hcalm := reachable_calm h
    refine ⟨not_cyclic (reachable_owners h.of_guarded) hcalm (reachable_mainQuiet h.of_guarded),
      fun hs => ?_⟩
    rw [hcalm.stopHandled] at hs
    exact absurd hs Bool.false_ne_true
  · intro s h _
    exact stop_never_idle h

/-- The state that a `Start` leaves, before any thread has moved. -/
def started : WsThreads M :=
  { status := .running, running := true, wsRunning := true, ipcRunning := true,
    pipelineRunning := true, loop := .top, replay := .thread .loopHead, estimator := .popping,
    ipc := .selecting }

/-- A `Start` that is let alone. -/
theorem reachable_started {G : WsThreads M → Action M → Prop} (hG : ∀ s, G s (.go .main)) :
    ((system M capacity).guarded G).Reachable started := by
  have h0 : ((system M capacity).guarded G).Reachable (starting true true true) :=
    .init ⟨true, true, true, rfl⟩
  have h1 := h0.guarded_step (.mainPerform _ (.ipcStart true) _ rfl rfl rfl) (hG _)
  have h2 := h1.guarded_step (.mainPerform _ (.wsStart true) _ rfl rfl rfl) (hG _)
  have h3 := h2.guarded_step (.mainPerform _ .pipelineStart _ rfl rfl rfl) (hG _)
  have h4 := h3.guarded_step (.mainPerform _ (.setStatus .running) _ rfl rfl rfl) (hG _)
  have h5 := h4.guarded_step (.mainLockClients _ _ rfl rfl rfl) (hG _)
  have h6 := h5.guarded_step (.mainUnlockClients _ _ rfl rfl) (hG _)
  have h7 := h6.guarded_step (.mainPerform _ (.setRunning true) _ rfl rfl rfl) (hG _)
  exact h7.guarded_step (.mainPerform _ .spawnReplay _ rfl rfl rfl) (hG _)

/-- A `Start` up to the store of `running_`: a `stop` that comes now finds nothing to stop. -/
theorem reachable_announced {G : WsThreads M → Action M → Prop} (hG : ∀ s, G s (.go .main)) :
    ((system M capacity).guarded G).Reachable
      { (started : WsThreads M) with
        running := false, replay := .thread .notJoinable
        main := .calling [.setRunning true, .spawnReplay] } := by
  have h0 : ((system M capacity).guarded G).Reachable (starting true true true) :=
    .init ⟨true, true, true, rfl⟩
  have h1 := h0.guarded_step (.mainPerform _ (.ipcStart true) _ rfl rfl rfl) (hG _)
  have h2 := h1.guarded_step (.mainPerform _ (.wsStart true) _ rfl rfl rfl) (hG _)
  have h3 := h2.guarded_step (.mainPerform _ .pipelineStart _ rfl rfl rfl) (hG _)
  have h4 := h3.guarded_step (.mainPerform _ (.setStatus .running) _ rfl rfl rfl) (hG _)
  have h5 := h4.guarded_step (.mainLockClients _ _ rfl rfl rfl) (hG _)
  exact h5.guarded_step (.mainUnlockClients _ _ rfl rfl) (hG _)

/-- One measurement goes through: the estimator thread waits for `mu_`, which the loop holds
    inside a `pause`, and nobody waits in a circle.  And a `stop` that comes before `Start` has set
    `running_` is handled and leaves the session `Running`. -/
theorem no_wait_cycle_run :
    (∃ s : WsThreads ℕ, s.mu = some .ws ∧ s.wants .estimator = some (.inl .mu) ∧
      s.wants .ws = some (.inl .clients) ∧ ¬ s.waits.Cyclic) ∧
    ∃ s : WsThreads ℕ, s.stopHandled = true ∧ s.running = false ∧ s.status ≠ .idle := by
  constructor
  · have h0 : ((system ℕ 1).guarded Quiet).Reachable started := reachable_started fun _ => trivial
    have h1 := h0.guarded_step (.replay _ .endOfData _ .waiting rfl rfl (by decide) (by simp) rfl)
      trivial
    have h2 := h1.guarded_step (.replay _ .endOfData _ .woken rfl rfl (by decide) (by simp) rfl)
      trivial
    have h3 := h2.guarded_step (.replay _ .endOfData _ .reading rfl rfl (by decide) (by simp) rfl)
      trivial
    have h4 := h3.guarded_step (.replay _ (.ok 7) _ (.pushing 7) rfl rfl (by decide) (by simp) rfl)
      trivial
    have h5 := h4.guarded_step (.push _ 7 rfl rfl rfl rfl Nat.zero_lt_one) trivial
    have h6 := h5.guarded_step (.pop _ rfl rfl Nat.zero_lt_one) trivial
    have h7 := h6.guarded_step (.accepted _ rfl rfl) trivial
    have h8 := h7.guarded_step (.estimatorLockClients _ rfl rfl rfl) trivial
    have h9 := h8.guarded_step (.estimatorUnlockClients _ rfl rfl) trivial
    have h10 := h9.guarded_step (.enter _ rfl rfl rfl) trivial
    have h11 := h10.guarded_step (.lock _ rfl rfl rfl) trivial
    have h12 := h11.guarded_step (.command _ .pause rfl rfl) trivial
    have h13 := h12.guarded_step (.perform _ (.setPaused true) _ rfl rfl rfl) trivial
    have h14 := h13.guarded_step (.perform _ (.setStatus .paused) _ rfl rfl rfl) trivial
    exact ⟨_, rfl, rfl, rfl, (no_wait_cycle.1 _ h14).1⟩
  · have h0 : ((system ℕ 1).guarded StopsServer).Reachable _ := reachable_announced fun _ => nofun
    have h1 := h0.guarded_step (.enter _ rfl rfl rfl) nofun
    have h2 := h1.guarded_step (.lock _ rfl rfl rfl) nofun
    have h3 := h2.guarded_step (.command _ .stop rfl rfl) fun _ => rfl
    have h4 := h3.guarded_step (.handled _ rfl rfl) nofun
    exact ⟨_, rfl, rfl, no_wait_cycle.2 _ h4 rfl⟩

/-- The same in a run without a condition. -/
theorem reachable_run_started : (system M capacity).Reachable started :=
  System.Reachable.of_guarded (reachable_started (G := fun _ _ => True) fun _ => trivial)

/-- A `stop` over the WebSocket joins the estimator thread, which waits for `mu_`. -/
theorem stop_deadlocks : ∃ s : WsThreads ℕ, (system ℕ 1).Reachable s ∧ s.waits.Cyclic := by
  have h0 : (system ℕ 1).Reachable started := reachable_run_started
  have h1 := h0.step (.replay _ .endOfData _ .waiting rfl rfl (by decide) (by simp) rfl)
  have h2 := h1.step (.replay _ .endOfData _ .woken rfl rfl (by decide) (by simp) rfl)
  have h3 := h2.step (.replay _ .endOfData _ .reading rfl rfl (by decide) (by simp) rfl)
  have h4 := h3.step (.replay _ (.ok 7) _ (.pushing 7) rfl rfl (by decide) (by simp) rfl)
  have h5 := h4.step (.push _ 7 rfl rfl rfl rfl Nat.zero_lt_one)
  have h6 := h5.step (.pop _ rfl rfl Nat.zero_lt_one)
  have h7 := h6.step (.accepted _ rfl rfl)
  have h8 := h7.step (.estimatorLockClients _ rfl rfl rfl)
  have h9 := h8.step (.estimatorUnlockClients _ rfl rfl)
  have h10 := h9.step (.enter _ rfl rfl rfl)
  have h11 := h10.step (.lock _ rfl rfl rfl)
  have h12 := h11.step (.command _ .stop rfl rfl)
  have h13 := h12.step (.perform _ (.setPaused false) _ rfl rfl rfl)
  have h14 := h13.step (.replay _ .endOfData _ .ending rfl rfl (by decide) (by simp) rfl)
  have h15 := h14.step (.replay _ .endOfData _ .returned rfl rfl (by decide) (by simp) rfl)
  have h16 := h15.step (.joinReplay _ _ rfl rfl rfl)
  have h17 := h16.step (.perform _ .pipelineStop _ rfl rfl rfl)
  refine ⟨_, h17, WaitState.cyclic_of_pair (t := .ws) (u := .estimator) ?_ ?_⟩
  · exact .inr ⟨rfl, rfl⟩
  · exact .inl ⟨.mu, rfl, rfl⟩

/-- A `stop` over the WebSocket that gets past the estimator thread joins the loop thread itself:
    the exception is caught, and the session is still `Running`. -/
theorem stop_leaves_running : ∃ s : WsThreads ℕ, (system ℕ 1).Reachable s ∧
    s.stopHandled = true ∧ s.status = .running := by
  have h0 : (system ℕ 1).Reachable started := reachable_run_started
  have h1 := h0.step (.enter _ rfl rfl rfl)
  have h2 := h1.step (.lock _ rfl rfl rfl)
  have h3 := h2.step (.command _ .stop rfl rfl)
  have h4 := h3.step (.perform _ (.setPaused false) _ rfl rfl rfl)
  have h5 := h4.step (.replay _ .endOfData _ .ending rfl rfl (by decide) (by simp) rfl)
  have h6 := h5.step (.replay _ .endOfData _ .returned rfl rfl (by decide) (by simp) rfl)
  have h7 := h6.step (.joinReplay _ _ rfl rfl rfl)
  have h8 := h7.step (.perform _ .pipelineStop _ rfl rfl rfl)
  have h9 := h8.step (.popNothing _ rfl rfl rfl rfl)
  have h10 := h9.step (.joinEstimator _ _ rfl rfl rfl)
  have h11 := h10.step (.lockClients _ _ rfl rfl rfl)
  have h12 := h11.step (.unlockClients _ _ rfl rfl)
  have h13 := h12.step (.perform _ .ipcStop _ rfl rfl rfl)
  have h14 := h13.step (.lockClients _ _ rfl rfl rfl)
  have h15 := h14.step (.unlockClients _ _ rfl rfl)
  have h16 := h15.step (.ipcLeave _ rfl rfl rfl)
  have h17 := h16.step (.joinIpc _ _ rfl rfl rfl)
  have h18 := h17.step (.perform _ .wsStop _ rfl rfl rfl)
  have h19 := h18.step (.joinItself _ _ rfl rfl)
  exact ⟨_, h19, rfl, rfl⟩

/-- **A `stop` over the WebSocket fails.** It can wait for the estimator thread for ever, and
    when it does not, it leaves the session `Running`. -/
theorem wait_cycle_and_not_idle :
    (¬ ∀ s : WsThreads ℕ, (system ℕ 1).Reachable s → ¬ s.waits.Cyclic) ∧
    ¬ ∀ s : WsThreads ℕ, (system ℕ 1).Reachable s → s.stopHandled = true → s.status = .idle := by
  obtain ⟨s, hs, hcycle⟩ := stop_deadlocks
  obtain ⟨t, ht, hstop, hrun⟩ := stop_leaves_running
  refine ⟨fun h => h s hs hcycle, fun h => ?_⟩
  have hidle := h t ht hstop
  rw [hrun] at hidle
  cases hidle

end WsThreads

end FalconGuide
