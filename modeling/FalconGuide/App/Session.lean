import FalconGuide.App.Components

namespace FalconGuide

open Lib

/-!
# The session

`FalconGuideSession` as its member functions compute, each called on a given thread.

* `Session` — the members, and the events broadcast so far;
* `Session.start`, `stop`, `pause`, `resume`, `reconfigure` — the public calls;
* `Session.handleCommand` / `Session.handleWsCommand` — the two command handlers.

A mutex held by another thread is waited for, and a thread that is joined returns; only a
mutex that the calling thread holds itself, and a join of the calling thread, are failures.
-/

/-- The states of the session state machine. -/
inductive Status
  | idle
  | configured
  | running
  | paused
  | completed
  | error
  deriving DecidableEq, Repr

/-- `GetStatusString`. -/
def Status.toString : Status → String
  | .idle => "idle"
  | .configured => "configured"
  | .running => "running"
  | .paused => "paused"
  | .completed => "completed"
  | .error => "error"

/-- `replay_thread_`, and where in `ReplayLoop` it is. -/
inductive ReplayThread (M : Type)
  | notJoinable
  /-- At the loop condition. -/
  | loopHead
  /-- Waiting on `pause_cv_`. -/
  | waiting
  /-- Past the wait, about to load `running_`. -/
  | woken
  /-- About to call `Next`. -/
  | reading
  /-- About to call `Push`. -/
  | pushing (m : M)
  /-- Out of the loop, about to load `running_`. -/
  | ending
  /-- About to set the status to `Completed`. -/
  | completing
  /-- Returned, not joined. -/
  | returned
  deriving DecidableEq

/-- What the replay thread does next, given `running_`, `paused_` and what `Next` would return;
    `none` when it waits or there is no thread to run. -/
def ReplayThread.next {M : Type} (running paused : Bool) (outcome : ReadOutcome M) :
    ReplayThread M → Option (ReplayThread M)
  | .notJoinable => none
  | .loopHead => some (if running then .waiting else .ending)
  -- a stop wakes a paused loop as well
  | .waiting => if !paused || !running then some .woken else none
  | .woken => some (if running then .reading else .ending)
  | .reading =>
    match outcome with
    | .ok m => some (.pushing m)
    | .endOfData => some .ending
    -- a line that cannot be read is skipped
    | .error => some .loopHead
  | .pushing _ => some .loopHead
  | .ending => some (if running then .completing else .returned)
  | .completing => some .returned
  | .returned => none

/-- `replay_thread_.joinable()`. -/
def ReplayThread.joinable {M : Type} : ReplayThread M → Bool
  | .notJoinable => false
  | _ => true

/-- The members of `FalconGuideSession`. -/
structure Session (Ω M : Type) where
  cfg : SessionConfig Ω
  navSystem : NavigationSystem Ω
  datasetReader : CsvDatasetReader M
  ipcServer : IpcServer
  wsServer : Option WsServer := none
  status : Status := .idle
  error : String := ""
  replayThread : ReplayThread M := .notJoinable
  running : Bool := false
  paused : Bool := false
  /-- The identity of the next object to be constructed. -/
  nextId : ℕ := 0
  /-- The events given to `Broadcast`. -/
  broadcasts : List Json := []
  /-- The events written to one client of the IPC server. -/
  written : List (ℕ × Json) := []

namespace Session

variable {Ω M : Type}

/-! ### Broadcasts -/

/-- The status event. -/
def statusEvent (status : String) (measurementsRead : ℕ) : Json :=
  .obj [("event", .str "status"), ("status", .str status),
    ("measurements_read", .int measurementsRead)]

/-- The error event. -/
def errorEvent (message : String) : Json :=
  .obj [("event", .str "error"), ("message", .str message)]

/-- The schema event. -/
def schemaEvent (schema : Json) : Json :=
  .obj [("event", .str "schema"), ("schema", schema)]

/-- A member function of `ipc_server_`. -/
def onIpc {α : Type} (m : Program IpcServer α) : Program (Session Ω M) α :=
  Program.zoom (·.ipcServer) (fun v s => { s with ipcServer := v }) m

/-- A member function of `ws_server_`, skipped when there is none. -/
def onWs (m : Program WsServer PUnit) : Program (Session Ω M) PUnit := do
  match (← get).wsServer with
  | none => return
  | some w => Program.zoom (fun _ => w) (fun v s => { s with wsServer := some v }) m

/-- `IpcServer::Broadcast`. -/
def broadcast (t : Thread) (event : Json) : Program (Session Ω M) PUnit := do
  onIpc (IpcServer.lockClients t)
  modify fun s => { s with broadcasts := s.broadcasts ++ [event] }

/-- `BroadcastStatus`. -/
def broadcastStatus (t : Thread) (status : String) (measurementsRead : ℕ) :
    Program (Session Ω M) PUnit :=
  broadcast t (statusEvent status measurementsRead)

/-- `SetStatus`. -/
def setStatus (t : Thread) (st : Status) (error : String) : Program (Session Ω M) PUnit := do
  modify ({ · with status := st })
  if error ≠ "" then
    modify ({ · with error })
    broadcast t (errorEvent error)

/-! ### Construction -/

/-- The constructor: the exceptions of the component constructors leave it. -/
def make (env : Environment Ω M) (cfg : SessionConfig Ω) : Except Failure (Session Ω M) := do
  let nav ← NavigationSystem.make env 0 cfg.nav
  let reader ← CsvDatasetReader.make 1 cfg.dataset
  return {
    cfg
    navSystem := { nav with observed := true }
    datasetReader := reader
    ipcServer := { id := 2, config := cfg.ipc }
    wsServer := if 0 < cfg.ws.port then some { id := 3, config := cfg.ws } else none
    status := .configured
    nextId := 4 }

/-! ### Start / Stop / Pause / Resume -/

/-- Assigns a new thread to `replay_thread_`. -/
def spawnReplay : Program (Session Ω M) PUnit := do
  if (← get).replayThread.joinable then throw .terminated
  modify ({ · with replayThread := .loopHead })

/-- The part of `Start` that opens the dataset. -/
def openDataset (env : Environment Ω M) (t : Thread) : Program (Session Ω M) Bool := do
  let s ← get
  let (reader, isOpen) := s.datasetReader.openFile env
  modify ({ · with datasetReader := reader })
  if !isOpen then
    setStatus t .error ("Failed to open dataset: " ++ s.cfg.dataset.path)
  return isOpen

/-- The part of `Start` that starts the servers and the pipeline; a server that does not start
    is only logged. -/
def startServers (env : Environment Ω M) : Program (Session Ω M) PUnit := do
  let _ ← onIpc (IpcServer.start env.ipcBinds)
  Program.tryCatch (onWs (WsServer.start env.wsSocket env.wsBinds)) fun _ => return
  modify fun s =>
    { s with navSystem := { s.navSystem with pipeline := s.navSystem.pipeline.start } }

/-- The part of `Start` after the check of the status. -/
def startNow (env : Environment Ω M) (t : Thread) : Program (Session Ω M) Bool := do
  if !(← openDataset env t) then return false
  startServers env
  setStatus t .running ""
  broadcastStatus t "running" 0
  modify ({ · with running := true })
  spawnReplay
  return true

/-- `Start`. -/
def start (env : Environment Ω M) (t : Thread) : Program (Session Ω M) Bool := do
  match (← get).status with
  | .running => return true
  | .paused => return true
  | .error => return false
  | .idle => startNow env t
  | .configured => startNow env t
  | .completed => startNow env t

/-- The part of `Stop` after the exchange and up to the join: the paused thread is woken. -/
def stopSignal : Program (Session Ω M) PUnit :=
  modify ({ · with running := false, paused := false })

/-- The part of `Stop` from the join of the replay thread on. -/
def stopRest (t : Thread) : Program (Session Ω M) PUnit := do
  modify fun s =>
    { s with
      replayThread := .notJoinable
      navSystem := { s.navSystem with pipeline := s.navSystem.pipeline.stop }
      datasetReader := s.datasetReader.close }
  broadcastStatus t "idle" 0
  onIpc (IpcServer.stop t)
  onWs (WsServer.stop t)
  setStatus t .idle ""

/-- `Stop`. -/
def stop (t : Thread) : Program (Session Ω M) PUnit := do
  if !(← get).running then return
  stopSignal
  stopRest t

/-- The last part of `Pause`. -/
def pauseStore (t : Thread) : Program (Session Ω M) PUnit := do
  setStatus t .paused ""
  broadcastStatus t "paused" (← get).datasetReader.count

/-- `Pause`. -/
def pause (t : Thread) : Program (Session Ω M) PUnit := do
  if (← get).status ≠ .running then return
  modify ({ · with paused := true })
  pauseStore t

/-- The last part of `Resume`. -/
def resumeStore (t : Thread) : Program (Session Ω M) PUnit := do
  setStatus t .running ""
  broadcastStatus t "running" (← get).datasetReader.count

/-- `Resume`. -/
def resume (t : Thread) : Program (Session Ω M) PUnit := do
  if (← get).status ≠ .paused then return
  modify ({ · with paused := false })
  resumeStore t

/-! ### Reconfigure -/

/-- The result of a constructor, or its exception. -/
def constructed {α : Type} : Except Failure α → Program (Session Ω M) α
  | .ok a => return a
  | .error e => throw e

/-- `nav_system_ = std::make_unique<NavigationSystem>(cfg_.nav)`: the old pipeline is stopped
    once the new one is there. -/
def replaceNavSystem (env : Environment Ω M) : Program (Session Ω M) PUnit := do
  let s ← get
  let nav ← constructed (NavigationSystem.make env s.nextId s.cfg.nav)
  modify ({ · with navSystem := nav, nextId := s.nextId + 1 })

/-- `nav_system_->Pipeline().RegisterObserver(this)`. -/
def observeNavSystem : Program (Session Ω M) PUnit :=
  modify fun s => { s with navSystem := { s.navSystem with observed := true } }

/-- `dataset_reader_ = MakeDatasetReader(cfg_.dataset)`. -/
def replaceDatasetReader : Program (Session Ω M) PUnit := do
  let s ← get
  let reader ← constructed (CsvDatasetReader.make s.nextId s.cfg.dataset)
  modify ({ · with datasetReader := reader, nextId := s.nextId + 1 })

/-- `ipc_server_ = std::make_unique<IpcServer>(…)`: the old server is destroyed. -/
def replaceIpcServer (t : Thread) : Program (Session Ω M) PUnit := do
  let s ← get
  modify ({ · with ipcServer := { id := s.nextId, config := s.cfg.ipc }, nextId := s.nextId + 1 })
  Program.destroy (IpcServer.destructor t) s.ipcServer

/-- `ws_server_ = std::make_unique<WsServer>(…)` or `ws_server_.reset()`: the old server, if
    there is one, is destroyed. -/
def replaceWsServer (t : Thread) : Program (Session Ω M) PUnit := do
  let s ← get
  if 0 < s.cfg.ws.port then
    modify ({ · with
      wsServer := some { id := s.nextId, config := s.cfg.ws }, nextId := s.nextId + 1 })
  else
    modify ({ · with wsServer := none })
  match s.wsServer with
  | none => return
  | some w => Program.destroy (WsServer.destructor t) w

/-- `Reconfigure`. -/
def reconfigure (env : Environment Ω M) (t : Thread) (cfg : SessionConfig Ω) :
    Program (Session Ω M) Bool := do
  let s ← get
  if s.status = .running ∨ s.status = .paused then return false
  modify ({ · with cfg })
  replaceNavSystem env
  observeNavSystem
  replaceDatasetReader
  replaceIpcServer t
  replaceWsServer t
  setStatus t .configured ""
  return true

/-! ### The command handlers -/

/-- An exception of the JSON library. -/
def orThrow {α : Type} : Except String α → Program (Session Ω M) α
  | .ok a => return a
  | .error what => throw (.exception what)

/-- `cfg_.playback_speed = cmd.value("speed", cfg_.playback_speed)`. -/
def setSpeed (cmd : Json) : Program (Session Ω M) PUnit := do
  let speed ← orThrow (cmd.valueDouble "speed" (← get).cfg.playbackSpeed)
  modify fun s => { s with cfg := { s.cfg with playbackSpeed := speed } }

/-- `HandleCommand`, on the IPC thread. -/
def handleCommand (env : Environment Ω M) (cmd : Json) : Program (Session Ω M) PUnit := do
  let verb ← orThrow (cmd.valueString "cmd" "")
  if verb = "start" then
    let _ ← start env .ipc
  else if verb = "stop" then
    stop .ipc
  else if verb = "pause" then
    pause .ipc
  else if verb = "resume" then
    resume .ipc
  else if verb = "get_status" then
    let s ← get
    broadcastStatus .ipc s.status.toString s.datasetReader.count
  else if verb = "get_schema" then
    broadcast .ipc (schemaEvent env.schema)
  else if verb = "set_speed" then
    setSpeed cmd
  else if verb = "configure" then
    -- without a `config` nothing is sent at all
    if cmd.contains "config" then
      Program.tryCatch
        (do
          let cfg ← orThrow
            (SessionConfig.fromJson env.navDefault env.navFromJson (cmd.get "config"))
          let _ ← reconfigure env .ipc cfg
          broadcastStatus .ipc "configured" 0)
        fun what => broadcast .ipc (errorEvent ("configure failed: " ++ what))
  else
    broadcast .ipc (errorEvent ("unknown command: " ++ verb))

/-- The reply `{"event": "ack", "cmd": verb}`. -/
def ackReply (verb : String) : Json := .obj [("event", .str "ack"), ("cmd", .str verb)]

/-- The reply to an accepted `configure`. -/
def configuredReply : Json := .obj [("event", .str "status"), ("status", .str "configured")]

/-- The `configure` branch of `HandleWsCommand`. -/
def wsConfigure (env : Environment Ω M) (config : Json) : Program (Session Ω M) Json :=
  Program.tryCatch
    (do
      let cfg ← orThrow (SessionConfig.fromJson env.navDefault env.navFromJson config)
      let _ ← reconfigure env .ws cfg
      return configuredReply)
    fun what => return errorEvent ("configure failed: " ++ what)

/-- `HandleWsCommand`, on the WebSocket thread. -/
def handleWsCommand (env : Environment Ω M) (cmd : Json) : Program (Session Ω M) Json := do
  let verb ← orThrow (cmd.valueString "cmd" "")
  if verb = "start" then
    let _ ← start env .ws
    return ackReply verb
  else if verb = "stop" then
    stop .ws
    return ackReply verb
  else if verb = "pause" then
    pause .ws
    return ackReply verb
  else if verb = "resume" then
    resume .ws
    return ackReply verb
  else if verb = "set_speed" then
    setSpeed cmd
    return ackReply verb
  else if verb = "get_status" then
    let s ← get
    return statusEvent s.status.toString s.datasetReader.count
  else if verb = "get_schema" then
    return schemaEvent env.schema
  -- without a `config` it is acknowledged like any other verb
  else if verb = "configure" ∧ cmd.contains "config" then
    wsConfigure env (cmd.get "config")
  else
    return ackReply verb

/-! ### A concrete session -/

/-- A build without Ceres and GTSAM, two files, and the JSON text of two commands. -/
def plainEnv : Environment Unit ℕ where
  contents path :=
    if path = "flight.csv" then some [1, 2]
    else if path = "empty.csv" then some []
    else none
  ipcBinds _ := true
  wsSocket := true
  wsBinds _ := true
  haveCeres := false
  haveGtsam := false
  navDefault := { sensors := () }
  navFromJson _ := .ok { sensors := () }
  schema := .obj []
  parseJson line :=
    if line = "\x7b\"cmd\":\"get_status\"\x7d" then some (.obj [("cmd", .str "get_status")])
    else if line = "\x7b\"cmd\":\"pause\"\x7d" then some (.obj [("cmd", .str "pause")])
    else none

/-- A configured session with both servers listening, as the main thread leaves them. -/
def listening (path : String) : Session Unit ℕ where
  cfg := { nav := { sensors := () }, dataset := { path } }
  navSystem := { id := 0, config := { sensors := () }, observed := true }
  datasetReader := { id := 1, path }
  ipcServer := { id := 2, config := {}, running := true, joinable := true }
  wsServer := some { id := 3, config := {}, running := true, joinable := true }
  status := .configured
  nextId := 4

end Session

end FalconGuide
