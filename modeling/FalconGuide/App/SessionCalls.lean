import FalconGuide.App.Configure

namespace FalconGuide

open Lib

/-!
# The calls on the main thread

What each public call of the session does when the main thread makes it and no command handler
is at work: then no lock can be one the caller holds, and every server that runs has its thread.

* `Session.ServersFree` — this condition on the two servers;
* `Session.run_start_opened`, `Session.run_stopRest`, … — the calls as equations;
* `Session.reconfigure_cases` — everything `Reconfigure` can do.
-/

namespace IpcServer

/-- No handler is at work, and the server has a thread exactly while it is running. -/
structure Free (v : IpcServer) : Prop where
  mutex : v.clientsMutex = none
  joinable : v.joinable = v.running

variable {v : IpcServer}

theorem Free.start (h : Free v) (binds : IpcConfig → Bool) :
    ∃ b u, Program.run (start binds) v = .ok b u ∧ Free u := by
  rcases hr : v.running with _ | _
  · rcases hb : binds v.config with _ | _
    · exact ⟨false, v, by simp [IpcServer.start, Program.run_bind, hr, hb], h⟩
    · refine ⟨true, { v with running := true, joinable := true }, ?_, h.mutex, rfl⟩
      simp [IpcServer.start, Program.run_bind, hr, hb, h.joinable]
  · exact ⟨true, v, by simp [IpcServer.start, Program.run_bind, hr], h⟩

theorem Free.stop (h : Free v) :
    ∃ u, Program.run (stop .main) v = .ok ⟨⟩ u ∧ Free u ∧ u.joinable = false := by
  rcases hr : v.running with _ | _
  · exact ⟨v, by simp [IpcServer.stop, Program.run_bind, hr], h, by rw [h.joinable, hr]⟩
  · refine ⟨{ v with running := false, joinable := false }, ?_, ⟨h.mutex, rfl⟩, rfl⟩
    simp [IpcServer.stop, lockClients, Program.run_bind, hr, h.mutex, h.joinable]

theorem Free.destructor (h : Free v) : Program.Returns (destructor .main) v := by
  obtain ⟨u, hu, -, hj⟩ := h.stop
  refine ⟨⟨⟩, u, ?_⟩
  rw [IpcServer.destructor, Program.run_bind_ok hu, Program.run_bind_ok (Program.run_get u), hj]
  rfl

end IpcServer

namespace WsServer

/-- No handler is at work, and the server has a thread exactly while it is running. -/
structure Free (w : WsServer) : Prop where
  mu : w.mu = none
  joinable : w.joinable = w.running

variable {w : WsServer}

theorem Free.start (h : Free w) (socket : Bool) (binds : UInt16 → Bool) :
    ∃ u, Free u ∧ (Program.run (start socket binds) w = .ok ⟨⟩ u ∨
      ∃ what, Program.run (start socket binds) w = .error (.exception what) u) := by
  rcases hr : w.running with _ | _
  · rcases socket with _ | _
    · exact ⟨w, h, .inr ⟨_, by simp [WsServer.start, Program.run_bind, hr]; rfl⟩⟩
    · rcases hb : binds w.config.port with _ | _
      · exact ⟨w, h, .inr ⟨_, by simp [WsServer.start, Program.run_bind, hr, hb]; rfl⟩⟩
      · refine ⟨{ w with running := true, joinable := true }, ⟨h.mu, rfl⟩, .inl ?_⟩
        simp [WsServer.start, Program.run_bind, hr, hb, h.joinable]
  · exact ⟨w, h, .inl (by simp [WsServer.start, Program.run_bind, hr])⟩

theorem Free.stop (h : Free w) :
    ∃ u, Program.run (stop .main) w = .ok ⟨⟩ u ∧ Free u ∧ u.joinable = false := by
  rcases hr : w.running with _ | _
  · exact ⟨w, by simp [WsServer.stop, Program.run_bind, hr], h, by rw [h.joinable, hr]⟩
  · refine ⟨{ w with running := false, joinable := false }, ?_, ⟨h.mu, rfl⟩, rfl⟩
    simp [WsServer.stop, lock, Program.run_bind, hr, h.mu, h.joinable]

theorem Free.destructor (h : Free w) : Program.Returns (destructor .main) w := by
  obtain ⟨u, hu, -, hj⟩ := h.stop
  refine ⟨⟨⟩, u, ?_⟩
  rw [WsServer.destructor, Program.run_bind_ok hu, Program.run_bind_ok (Program.run_get u), hj]
  rfl

end WsServer

namespace Session

variable {Ω M : Type} {s : Session Ω M}

/-- Both servers are free. -/
structure ServersFree (s : Session Ω M) : Prop where
  ipc : s.ipcServer.Free
  ws : ∀ w, s.wsServer = some w → w.Free

theorem ServersFree.of_eq {t : Session Ω M} (h : ServersFree s)
    (hipc : t.ipcServer = s.ipcServer) (hws : t.wsServer = s.wsServer) : ServersFree t :=
  ⟨hipc ▸ h.ipc, hws ▸ h.ws⟩

/-- A broadcast by a thread that does not hold the mutex. -/
theorem run_broadcast {t : Thread} (event : Json) (h : s.ipcServer.clientsMutex = none) :
    Program.run (broadcast t event) s
      = .ok ⟨⟩ { s with broadcasts := s.broadcasts ++ [event] } := by
  have hlock : Program.run (onIpc (IpcServer.lockClients t)) s = .ok ⟨⟩ s := by
    simp [onIpc, IpcServer.lockClients, Program.run_zoom, Program.run_bind, h]
  rw [broadcast, Program.run_bind_ok hlock]
  rfl

/-- A session without a WebSocket server skips its member functions. -/
theorem run_onWs_none {m : Program WsServer PUnit} (h : s.wsServer = none) :
    Program.run (onWs m) s = .ok ⟨⟩ s := by
  rw [onWs, Program.run_bind_ok (Program.run_get s), h]
  rfl

/-- A member function of the WebSocket server of the session. -/
theorem run_onWs_some {m : Program WsServer PUnit} {w : WsServer} (h : s.wsServer = some w) :
    Program.run (onWs m) s = match Program.run m w with
      | .ok a u => .ok a { s with wsServer := some u }
      | .error e u => .error e { s with wsServer := some u } := by
  rw [onWs, Program.run_bind_ok (Program.run_get s), h, Program.run_zoom]
  cases Program.run m w <;> rfl

/-- A session keeps its WebSocket server when it is given it again. -/
theorem with_wsServer {w : Option WsServer} (h : s.wsServer = w) :
    { s with wsServer := w } = s := by
  cases s
  cases h
  rfl

/-- Starting the WebSocket server, whether or not it throws. -/
theorem run_ws_start (h : ServersFree s) (env : Environment Ω M) :
    ∃ w, (∀ u, w = some u → u.Free) ∧
      Program.run (Program.tryCatch (onWs (WsServer.start env.wsSocket env.wsBinds))
        fun _ => return) s = .ok ⟨⟩ { s with wsServer := w } := by
  cases hw : s.wsServer with
  | none =>
    refine ⟨none, by simp, ?_⟩
    rw [Program.run_tryCatch, run_onWs_none hw, with_wsServer hw]
  | some w =>
    obtain ⟨u, hu, hr⟩ := (h.ws w hw).start env.wsSocket env.wsBinds
    refine ⟨some u, by rintro _ ⟨⟩; exact hu, ?_⟩
    rw [Program.run_tryCatch, run_onWs_some hw]
    rcases hr with hr | ⟨what, hr⟩ <;> rw [hr]
    rfl

/-- Stopping the WebSocket server. -/
theorem run_ws_stop (h : ServersFree s) :
    ∃ w, (∀ u, w = some u → u.Free) ∧
      Program.run (onWs (WsServer.stop .main)) s = .ok ⟨⟩ { s with wsServer := w } := by
  cases hw : s.wsServer with
  | none =>
    refine ⟨none, by simp, ?_⟩
    rw [run_onWs_none hw, with_wsServer hw]
  | some w =>
    obtain ⟨u, hu, hfree, -⟩ := (h.ws w hw).stop
    refine ⟨some u, by rintro _ ⟨⟩; exact hfree, ?_⟩
    rw [run_onWs_some hw, hu]

/-- Setting a status without an error text. -/
theorem run_setStatus (t : Thread) (st : Status) :
    Program.run (setStatus t st "") s = .ok ⟨⟩ { s with status := st } := rfl

/-- Setting a status with an error text, which is broadcast. -/
theorem run_setStatus_error {t : Thread} {st : Status} {error : String} (he : error ≠ "")
    (h : s.ipcServer.clientsMutex = none) :
    Program.run (setStatus t st error) s = .ok ⟨⟩
      { s with status := st, error, broadcasts := s.broadcasts ++ [errorEvent error] } := by
  rw [setStatus, Program.run_bind_ok (Program.run_modify _ s), if_pos he,
    Program.run_bind_ok (Program.run_modify _ _)]
  exact run_broadcast _ h

/-! ### Start and Stop -/

/-- Servers and pipeline are started. -/
theorem run_startServers (h : ServersFree s) (env : Environment Ω M) :
    ∃ v w, v.Free ∧ (∀ u, w = some u → u.Free) ∧
      Program.run (startServers env) s = .ok ⟨⟩
        { s with
          ipcServer := v, wsServer := w
          navSystem := { s.navSystem with pipeline := s.navSystem.pipeline.start } } := by
  obtain ⟨b, v, hv, hfree⟩ := h.ipc.start env.ipcBinds
  have hipc : Program.run (onIpc (IpcServer.start env.ipcBinds)) s
      = .ok b { s with ipcServer := v } := by
    rw [onIpc, Program.run_zoom, hv]
  have h' : ServersFree { s with ipcServer := v } := ⟨hfree, h.ws⟩
  obtain ⟨w, hw, hws⟩ := run_ws_start h' env
  refine ⟨v, w, hfree, hw, ?_⟩
  rw [startServers, Program.run_bind_ok hipc, Program.run_bind_ok hws]
  rfl

/-- A `Start` of a session that is running, paused or in error does nothing. -/
theorem run_start_refused (env : Environment Ω M) (t : Thread)
    (h : s.status = .running ∨ s.status = .paused ∨ s.status = .error) :
    ∃ b, Program.run (start env t) s = .ok b s := by
  rcases h with h | h | h <;>
    exact ⟨_, by rw [start, Program.run_bind_ok (Program.run_get s), h]; rfl⟩

/-- Any other `Start` goes past the check. -/
theorem run_start_now (env : Environment Ω M) (t : Thread)
    (h : ¬ (s.status = .running ∨ s.status = .paused ∨ s.status = .error)) :
    Program.run (start env t) s = Program.run (startNow env t) s := by
  rw [start, Program.run_bind_ok (Program.run_get s)]
  simp only [not_or] at h
  obtain ⟨hrun, hpaused, herror⟩ := h
  cases hst : s.status with
  | running => exact absurd hst hrun
  | paused => exact absurd hst hpaused
  | error => exact absurd hst herror
  | idle => rfl
  | configured => rfl
  | completed => rfl

/-- The session that a `Start` leaves whose dataset does not open. -/
def openFailed (s : Session Ω M) : Session Ω M :=
  { s with
    status := .error
    error := "Failed to open dataset: " ++ s.cfg.dataset.path
    broadcasts := s.broadcasts ++
      [errorEvent ("Failed to open dataset: " ++ s.cfg.dataset.path)] }

/-- A `Start` whose dataset does not open. -/
theorem run_startNow_failed (h : ServersFree s) (env : Environment Ω M)
    (ho : (s.datasetReader.openFile env).2 = false) :
    Program.run (startNow env .main) s = .ok false (openFailed s) := by
  have hsame := CsvDatasetReader.openFile_failed ho
  have herror : "Failed to open dataset: " ++ s.cfg.dataset.path ≠ "" := by simp
  have hopen : Program.run (openDataset env .main) s = .ok false (openFailed s) := by
    rw [openDataset, Program.run_bind_ok (Program.run_get s)]
    rcases hr : s.datasetReader.openFile env with ⟨reader, isOpen⟩
    rw [hr] at ho hsame
    obtain rfl : isOpen = false := ho
    obtain rfl : reader = s.datasetReader := hsame
    rw [Program.run_bind_ok (Program.run_modify _ s)]
    exact Program.run_bind_ok (run_setStatus_error herror h.ipc.mutex)
  rw [startNow, Program.run_bind_ok hopen]
  rfl

/-- A `Start` whose dataset opens, up to the creation of the replay thread. -/
theorem run_startNow_opened (h : ServersFree s) (env : Environment Ω M)
    (ho : (s.datasetReader.openFile env).2 = true) :
    ∃ v w, v.Free ∧ (∀ u, w = some u → u.Free) ∧
      Program.run (startNow env .main) s =
        Program.run (do
          spawnReplay
          return true)
          { s with
            datasetReader := (s.datasetReader.openFile env).1
            ipcServer := v, wsServer := w
            navSystem := { s.navSystem with pipeline := s.navSystem.pipeline.start }
            status := .running
            running := true
            broadcasts := s.broadcasts ++ [statusEvent "running" 0] } := by
  have hopen : Program.run (openDataset env .main) s = .ok true
      { s with datasetReader := (s.datasetReader.openFile env).1 } := by
    rw [openDataset, Program.run_bind_ok (Program.run_get s)]
    rcases hr : s.datasetReader.openFile env with ⟨reader, isOpen⟩
    rw [hr] at ho
    obtain rfl : isOpen = true := ho
    rfl
  have h' : ServersFree { s with datasetReader := (s.datasetReader.openFile env).1 } :=
    h.of_eq rfl rfl
  obtain ⟨v, w, hv, hw, hr⟩ := run_startServers h' env
  refine ⟨v, w, hv, hw, ?_⟩
  rw [startNow, Program.run_bind_ok hopen]
  simp only [Bool.not_true, Bool.false_eq_true, if_false]
  rw [Program.run_bind_ok hr, Program.run_bind_ok (run_setStatus _ _), broadcastStatus,
    Program.run_bind_ok (run_broadcast _ hv.mutex)]
  rfl

/-- A `Start` whose dataset opens assigns a new thread to a joinable one and terminates the
    process. -/
theorem run_start_joinable (h : ServersFree s) (env : Environment Ω M)
    (hst : ¬ (s.status = .running ∨ s.status = .paused ∨ s.status = .error))
    (ho : (s.datasetReader.openFile env).2 = true) (hj : s.replayThread.joinable = true) :
    ∃ u, Program.run (start env .main) s = .error .terminated u := by
  obtain ⟨v, w, -, -, hr⟩ := run_startNow_opened h env ho
  rw [run_start_now env .main hst, hr, Program.run_bind, spawnReplay,
    Program.run_bind_ok (Program.run_get _), if_pos hj]
  exact ⟨_, rfl⟩

/-- The session that a `Start` leaves when it creates the replay thread. -/
def started (env : Environment Ω M) (s : Session Ω M) (v : IpcServer) (w : Option WsServer) :
    Session Ω M :=
  { s with
    datasetReader := (s.datasetReader.openFile env).1
    ipcServer := v
    wsServer := w
    navSystem := { s.navSystem with pipeline := s.navSystem.pipeline.start }
    status := .running
    running := true
    replayThread := .loopHead
    broadcasts := s.broadcasts ++ [statusEvent "running" 0] }

/-- A `Start` whose dataset opens, and without a thread to join, creates the replay thread. -/
theorem run_start_spawned (h : ServersFree s) (env : Environment Ω M)
    (hst : ¬ (s.status = .running ∨ s.status = .paused ∨ s.status = .error))
    (ho : (s.datasetReader.openFile env).2 = true) (hj : s.replayThread = .notJoinable) :
    ∃ v w, v.Free ∧ (∀ u, w = some u → u.Free) ∧
      Program.run (start env .main) s = .ok true (started env s v w) := by
  obtain ⟨v, w, hv, hw, hr⟩ := run_startNow_opened h env ho
  refine ⟨v, w, hv, hw, ?_⟩
  rw [run_start_now env .main hst, hr, Program.run_bind, spawnReplay,
    Program.run_bind_ok (Program.run_get _), if_neg (by simp [hj, ReplayThread.joinable])]
  rfl

/-- The session that a `Stop` leaves after the join of the replay thread. -/
def stopped (s : Session Ω M) (v : IpcServer) (w : Option WsServer) : Session Ω M :=
  { s with
    datasetReader := s.datasetReader.close
    ipcServer := v
    wsServer := w
    navSystem := { s.navSystem with pipeline := s.navSystem.pipeline.stop }
    status := .idle
    replayThread := .notJoinable
    broadcasts := s.broadcasts ++ [statusEvent "idle" 0] }

/-- `Stop` from the join of the replay thread on. -/
theorem run_stopRest (h : ServersFree s) :
    ∃ v w, v.Free ∧ (∀ u, w = some u → u.Free) ∧
      Program.run (stopRest .main) s = .ok ⟨⟩ (stopped s v w) := by
  obtain ⟨v, hv, hfree, -⟩ := h.ipc.stop
  let joined : Session Ω M :=
    { s with
      replayThread := .notJoinable
      navSystem := { s.navSystem with pipeline := s.navSystem.pipeline.stop }
      datasetReader := s.datasetReader.close }
  have hidle : Program.run (broadcast .main (statusEvent "idle" 0)) joined = .ok ⟨⟩ _ :=
    run_broadcast _ h.ipc.mutex
  have hv' : Program.run (IpcServer.stop .main) joined.ipcServer = .ok ⟨⟩ v := hv
  have hipc : Program.run (onIpc (IpcServer.stop .main))
      { joined with broadcasts := s.broadcasts ++ [statusEvent "idle" 0] }
        = .ok ⟨⟩ { joined with
            ipcServer := v, broadcasts := s.broadcasts ++ [statusEvent "idle" 0] } := by
    rw [onIpc, Program.run_zoom, hv']
  have h' : ServersFree { joined with
      ipcServer := v, broadcasts := s.broadcasts ++ [statusEvent "idle" 0] } := ⟨hfree, h.ws⟩
  obtain ⟨w, hw, hws⟩ := run_ws_stop h'
  refine ⟨v, w, hfree, hw, ?_⟩
  rw [stopRest, Program.run_bind_ok (Program.run_modify _ s), broadcastStatus,
    Program.run_bind_ok hidle, Program.run_bind_ok hipc, Program.run_bind_ok hws]
  rfl

/-- The last part of `Pause`. -/
theorem run_pauseStore (h : ServersFree s) :
    Program.run (pauseStore .main) s = .ok ⟨⟩
      { s with
        status := .paused
        broadcasts := s.broadcasts ++ [statusEvent "paused" s.datasetReader.count] } := by
  rw [pauseStore, Program.run_bind_ok (run_setStatus _ _),
    Program.run_bind_ok (Program.run_get _)]
  exact run_broadcast _ h.ipc.mutex

/-- The last part of `Resume`. -/
theorem run_resumeStore (h : ServersFree s) :
    Program.run (resumeStore .main) s = .ok ⟨⟩
      { s with
        status := .running
        broadcasts := s.broadcasts ++ [statusEvent "running" s.datasetReader.count] } := by
  rw [resumeStore, Program.run_bind_ok (run_setStatus _ _),
    Program.run_bind_ok (Program.run_get _)]
  exact run_broadcast _ h.ipc.mutex

/-! ### Reconfigure -/

/-- **What `Reconfigure` does.** It refuses, or an exception leaves it with the configuration
    and perhaps the navigation system replaced, or every component is new. -/
theorem reconfigure_cases (h : ServersFree s) (env : Environment Ω M) (cfg : SessionConfig Ω) :
    ((s.status = .running ∨ s.status = .paused) ∧
      Program.run (reconfigure env .main cfg) s = .ok false s) ∨
    (¬ (s.status = .running ∨ s.status = .paused) ∧
      ((∃ what, Program.run (reconfigure env .main cfg) s
          = .error (.exception what) { s with cfg := cfg }) ∨
        (∃ what, Program.run (reconfigure env .main cfg) s
          = .error (.exception what) (withNavSystem s cfg)) ∨
        Program.run (reconfigure env .main cfg) s
          = .ok true { withWsServer s cfg with status := .configured })) := by
  by_cases hst : s.status = .running ∨ s.status = .paused
  · exact .inl ⟨hst, run_reconfigure_refused hst⟩
  refine .inr ⟨hst, ?_⟩
  cases hb : NavigationSystem.buildError env cfg.nav with
  | some what => exact .inl ⟨what, run_reconfigure_buildError hst hb⟩
  | none =>
    by_cases hd : cfg.dataset.type = "csv"
    · exact .inr (.inr (run_reconfigure_applied hst hb hd h.ipc.destructor
        fun w hw => (h.ws w hw).destructor))
    · exact .inr (.inl ⟨_, run_reconfigure_unknownDataset hst hb hd⟩)

end Session

end FalconGuide
