import FalconGuide.App.SessionConfig
import FalconGuide.Estimation.PipelineLifecycle
import FalconGuide.Lib.Program

namespace FalconGuide

open Lib

/-!
# What a session owns

* `Environment` — what the session finds outside itself: files, ports, and how it was built;
* `CsvDatasetReader`, `NavigationSystem` — the reader and the estimation stack;
* `IpcServer`, `WsServer` — the two servers, each with its thread and the mutex its thread
  holds while it runs a command handler.

Every object carries an `id`, so that an object that was built again differs from the one it
replaces.
-/

/-- The threads of the process. -/
inductive Thread
  | main
  /-- `IpcServer::ServerLoop`. -/
  | ipc
  /-- `WsServer::Loop`. -/
  | ws
  /-- `FalconGuideSession::ReplayLoop`. -/
  | replay
  /-- `EstimatorPipeline::RunLoop`. -/
  | estimator
  deriving DecidableEq, Repr

/-- Files, sockets and build options. -/
structure Environment (Ω M : Type) where
  /-- The measurements in the file at a path, if it can be opened. -/
  contents : String → Option (List M)
  /-- `IpcServer::Start` can create, bind and listen on its socket. -/
  ipcBinds : IpcConfig → Bool
  /-- `WsServer::Start` can create its socket. -/
  wsSocket : Bool
  /-- `WsServer::Start` can bind its port. -/
  wsBinds : UInt16 → Bool
  haveCeres : Bool
  haveGtsam : Bool
  navDefault : NavigationSystemConfig Ω
  navFromJson : Json → Except String (NavigationSystemConfig Ω)
  /-- `SessionConfig::ToSchemaJson`. -/
  schema : Json
  /-- `json::parse`, which throws on a text that is not JSON. -/
  parseJson : String → Option Json

/-- What `std::thread::join` throws on the thread it would wait for. -/
def joinItself : Failure := .exception "Resource deadlock avoided"

/-! ### The dataset reader -/

/-- The `std::ifstream` of a reader. -/
inductive FileState (M : Type)
  | closed
  /-- Open, with these measurements left. -/
  | opened (rest : List M)
  /-- Opened while open: the stream failed and gives nothing more. -/
  | failed
  deriving DecidableEq

/-- The result of `Next`. -/
inductive ReadOutcome (M : Type)
  | ok (m : M)
  | endOfData
  | error
  deriving DecidableEq

/-- `CsvDatasetReader` with the reader it wraps. -/
structure CsvDatasetReader (M : Type) where
  id : ℕ
  path : String
  file : FileState M := .closed
  count : ℕ := 0
  deriving DecidableEq

namespace CsvDatasetReader

variable {Ω M : Type}

/-- `Open`: true when the stream is open afterwards. -/
def openFile (env : Environment Ω M) (r : CsvDatasetReader M) : CsvDatasetReader M × Bool :=
  match r.file with
  | .closed =>
    match env.contents r.path with
    | some ms => ({ r with file := .opened ms }, true)
    | none => (r, false)
  | .opened _ => ({ r with file := .failed }, true)
  | .failed => (r, true)

/-- A reader that does not open is as it was. -/
theorem openFile_failed {env : Environment Ω M} {r : CsvDatasetReader M}
    (h : (r.openFile env).2 = false) : (r.openFile env).1 = r := by
  unfold openFile at h ⊢
  cases hf : r.file with
  | closed => cases hc : env.contents r.path <;> simp_all
  | opened rest => simp [hf] at h
  | failed => simp [hf] at h

/-- A closed reader that opens is at the beginning of its file. -/
theorem openFile_of_closed {env : Environment Ω M} {r : CsvDatasetReader M}
    (hc : r.file = .closed) (h : (r.openFile env).2 = true) :
    ∃ ms, env.contents r.path = some ms ∧ (r.openFile env).1.file = .opened ms := by
  unfold openFile at h ⊢
  cases hms : env.contents r.path with
  | none => simp [hc, hms] at h
  | some ms => exact ⟨ms, rfl, by simp [hc]⟩

/-- `Close`. -/
def close (r : CsvDatasetReader M) : CsvDatasetReader M := { r with file := .closed }

/-- `Next`. -/
def next (r : CsvDatasetReader M) : CsvDatasetReader M × ReadOutcome M :=
  match r.file with
  | .closed => (r, .error)
  | .opened [] => (r, .endOfData)
  | .opened (m :: rest) => ({ r with file := .opened rest, count := r.count + 1 }, .ok m)
  | .failed => (r, .endOfData)

/-- `MakeDatasetReader`. -/
def make (id : ℕ) (cfg : DatasetConfig) : Except Failure (CsvDatasetReader M) :=
  if cfg.type = "csv" then .ok { id, path := cfg.path }
  else .error (.exception ("Unknown dataset type: " ++ cfg.type))

end CsvDatasetReader

/-! ### The navigation system -/

/-- `NavigationSystem`: the configuration its estimator was built from, its pipeline, and
    whether the session observes it. -/
structure NavigationSystem (Ω : Type) where
  id : ℕ
  config : NavigationSystemConfig Ω
  pipeline : PipelineState := {}
  observed : Bool := false
  deriving DecidableEq

namespace NavigationSystem

variable {Ω M : Type}

/-- The exception of the estimator constructor, for a backend that is not compiled in. -/
def buildError (env : Environment Ω M) (cfg : NavigationSystemConfig Ω) : Option String :=
  match cfg.backend with
  | .ekf => none
  | .ukf => none
  | .ceres =>
    if env.haveCeres then none
    else some ("CeresSlidingWindowEstimator: built without Ceres support. " ++
      "Enable FALCONGUIDE_ENABLE_CERES in CMake.")
  | .gtsam =>
    if env.haveGtsam then none
    else some ("GtsamFactorGraphEstimator: built without GTSAM support. " ++
      "Enable FALCONGUIDE_ENABLE_GTSAM in CMake.")

/-- The constructor. -/
def make (env : Environment Ω M) (id : ℕ) (cfg : NavigationSystemConfig Ω) :
    Except Failure (NavigationSystem Ω) :=
  match buildError env cfg with
  | none => .ok { id, config := cfg }
  | some what => .error (.exception what)

end NavigationSystem

/-! ### The servers -/

/-- `IpcServer`. -/
structure IpcServer where
  id : ℕ
  config : IpcConfig
  running : Bool := false
  /-- `thread_` is joinable. -/
  joinable : Bool := false
  /-- The holder of `clients_mutex_`, if it is one that can be asked for it again. -/
  clientsMutex : Option Thread := none
  deriving DecidableEq

namespace IpcServer

/-- A `lock_guard` on `clients_mutex_`, taken by `t`. -/
def lockClients (t : Thread) : Program IpcServer PUnit := do
  if (← get).clientsMutex = some t then throw .deadlock

/-- `Start`. -/
def start (binds : IpcConfig → Bool) : Program IpcServer Bool := do
  let v ← get
  if v.running then return true
  if !binds v.config then return false
  modify ({ · with running := true })
  -- assigning to a joinable thread terminates the process
  if v.joinable then throw .terminated
  modify ({ · with joinable := true })
  return true

/-- `Stop`, called by `t`. -/
def stop (t : Thread) : Program IpcServer PUnit := do
  let v ← get
  if !v.running then return
  modify ({ · with running := false })
  lockClients t
  if v.joinable then
    if t = .ipc then throw joinItself
    modify ({ · with joinable := false })

/-- The destructor: `Stop`, and after it the destructor of `thread_`. -/
def destructor (t : Thread) : Program IpcServer PUnit := do
  stop t
  if (← get).joinable then throw .terminated

end IpcServer

/-- `WsServer`. -/
structure WsServer where
  id : ℕ
  config : WsConfig
  running : Bool := false
  /-- `thread_` is joinable. -/
  joinable : Bool := false
  /-- The holder of `mu_`, if it is one that can be asked for it again. -/
  mu : Option Thread := none
  deriving DecidableEq

namespace WsServer

/-- A `lock_guard` on `mu_`, taken by `t`. -/
def lock (t : Thread) : Program WsServer PUnit := do
  if (← get).mu = some t then throw .deadlock

/-- `Start`. -/
def start (socket : Bool) (binds : UInt16 → Bool) : Program WsServer PUnit := do
  let v ← get
  if v.running then return
  if !socket then throw (.exception "WsServer: socket() failed")
  if !binds v.config.port then
    throw (.exception ("WsServer: bind() failed on port " ++ toString v.config.port.toNat))
  modify ({ · with running := true })
  if v.joinable then throw .terminated
  modify ({ · with joinable := true })

/-- `Stop`, called by `t`. -/
def stop (t : Thread) : Program WsServer PUnit := do
  let v ← get
  if !v.running then return
  modify ({ · with running := false })
  if v.joinable then
    if t = .ws then throw joinItself
    modify ({ · with joinable := false })
  lock t

/-- The destructor: `Stop`, and after it the destructor of `thread_`. -/
def destructor (t : Thread) : Program WsServer PUnit := do
  stop t
  if (← get).joinable then throw .terminated

end WsServer

end FalconGuide
