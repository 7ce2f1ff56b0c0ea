import FalconGuide.App.Json

namespace FalconGuide

/-!
# The session configuration

* `SessionConfig` — with the blocks it is made of; `Ω` holds the sensor options of the
  navigation block, which the session passes on without reading them;
* `SessionConfig.fromJson` — `SessionConfig::FromJson`, over the parser of the navigation block.
-/

/-- Backend selection exposed by `NavigationSystemConfig`. -/
inductive EstimatorBackendChoice
  | ekf
  | ukf
  | ceres
  | gtsam
  deriving DecidableEq, Repr

/-- The navigation block. -/
structure NavigationSystemConfig (Ω : Type) where
  sensors : Ω
  backend : EstimatorBackendChoice := .ekf
  deriving DecidableEq

/-- Dataset type and path. -/
structure DatasetConfig where
  type : String := "csv"
  path : String := ""
  deriving DecidableEq, Repr

/-- Socket path and client limit of the IPC server. -/
structure IpcConfig where
  socketPath : String := "/tmp/falconguide.sock"
  maxClients : ℤ := 8
  deriving DecidableEq, Repr

/-- Port, client limit and page of the WebSocket server. -/
structure WsConfig where
  port : UInt16 := 8765
  maxClients : ℤ := 16
  uiPath : String := "ui/index.html"
  deriving DecidableEq

/-- The top-level configuration. -/
structure SessionConfig (Ω : Type) where
  nav : NavigationSystemConfig Ω
  dataset : DatasetConfig := {}
  ipc : IpcConfig := {}
  ws : WsConfig := {}
  playbackSpeed : ℚ := 1
  deriving DecidableEq

namespace SessionConfig

variable {Ω : Type}

/-- The `dataset` block of `FromJson`. -/
def datasetFromJson (j : Json) : Except String DatasetConfig :=
  if j.contains "dataset" then do
    let jd := j.get "dataset"
    return { type := ← jd.valueString "type" "csv", path := ← jd.valueString "path" "" }
  else .ok {}

/-- The `ipc` block of `FromJson`. -/
def ipcFromJson (j : Json) : Except String IpcConfig :=
  if j.contains "ipc" then do
    let ji := j.get "ipc"
    return { socketPath := ← ji.valueString "socket_path" "/tmp/falconguide.sock",
             maxClients := ← ji.valueInt "max_clients" 8 }
  else .ok {}

/-- The `ws` block of `FromJson`. -/
def wsFromJson (j : Json) : Except String WsConfig :=
  if j.contains "ws" then do
    let jw := j.get "ws"
    return { port := ← jw.valueUInt16 "port" 8765, maxClients := ← jw.valueInt "max_clients" 16,
             uiPath := ← jw.valueString "ui_path" "ui/index.html" }
  else .ok {}

/-- `FromJson`, from the JSON value its argument is the text of: `navDefault` is a default
    constructed navigation block and `navFromJson` the parser of one.  Any exception is thrown
    again with a prefix. -/
def fromJson (navDefault : NavigationSystemConfig Ω)
    (navFromJson : Json → Except String (NavigationSystemConfig Ω)) (j : Json) :
    Except String (SessionConfig Ω) :=
  Except.mapError ("SessionConfig::FromJson: " ++ ·) do
    let nav ← if j.contains "nav" then navFromJson (j.get "nav") else .ok navDefault
    return { nav, dataset := ← datasetFromJson j, ipc := ← ipcFromJson j, ws := ← wsFromJson j,
             playbackSpeed := ← j.valueDouble "playback_speed" 1 }

end SessionConfig

end FalconGuide
