import FalconGuide.App.Configure
import FalconGuide.App.SessionLifecycle

namespace FalconGuide

open Lib

/-!
# The configuration stays valid

`SessionConfig::Validate` is called once, before the session is constructed.  Commands change the
configuration on two routes, `set_speed` and `configure`, each in both handlers, and neither calls
it again.

* `SessionConfig.validate` — `Validate`;
* `Session.commandedCfg` — the configuration that a command leaves, however its handler ends;
* `Session.KeepsValid` — the commands that leave a valid configuration;
* `CommandRun.system` — commands on both servers, with the calls of the main thread and the other
  threads at work;
* `CommandRun.cfg_valid` — the main result;
* `CommandRun.cfg_not_valid` — a `set_speed` with a negative number.
-/

/-- `Validate`: the error, if there is one. -/
def SessionConfig.validate {Ω : Type} (cfg : SessionConfig Ω) : Option String :=
  if cfg.dataset.path = "" then some "dataset.path is empty"
  else if cfg.ipc.socketPath = "" then some "ipc.socket_path is empty"
  else if cfg.ipc.maxClients < 1 then some "ipc.max_clients must be >= 1"
  else if cfg.playbackSpeed < 0 then
    some "playback_speed must be >= 0 (0 = as fast as possible)"
  else none

/-- What `Validate` checks. -/
theorem SessionConfig.validate_eq_none_iff {Ω : Type} {cfg : SessionConfig Ω} :
    cfg.validate = none ↔ cfg.dataset.path ≠ "" ∧ cfg.ipc.socketPath ≠ "" ∧
      1 ≤ cfg.ipc.maxClients ∧ 0 ≤ cfg.playbackSpeed := by
  unfold SessionConfig.validate
  split
  · simp [*]
  · split
    · simp [*]
    · split
      · simp only [reduceCtorEq, false_iff]
        rintro ⟨-, -, hclients, -⟩
        omega
      · split
        · rename_i hspeed
          simp only [reduceCtorEq, false_iff]
          rintro ⟨-, -, -, h⟩
          exact absurd hspeed (not_lt.mpr h)
        · rename_i hpath hsocket hclients hspeed
          simp only [true_iff]
          exact ⟨hpath, hsocket, by omega, not_lt.mp hspeed⟩

/-- A valid configuration with another speed. -/
theorem SessionConfig.validate_withSpeed {Ω : Type} {cfg : SessionConfig Ω}
    (h : cfg.validate = none) (speed : ℚ) :
    { cfg with playbackSpeed := speed }.validate = none ↔ 0 ≤ speed := by
  obtain ⟨hpath, hsocket, hclients, -⟩ := SessionConfig.validate_eq_none_iff.mp h
  rw [SessionConfig.validate_eq_none_iff]
  exact ⟨fun h => h.2.2.2, fun hspeed => ⟨hpath, hsocket, hclients, hspeed⟩⟩

namespace Session

variable {Ω M : Type}

/-! ### The calls that leave the configuration alone -/

theorem preserves_cfg_onIpc {α : Type} (m : Program IpcServer α) :
    Program.Preserves cfg (onIpc m : Program (Session Ω M) α) :=
  Program.preserves_zoom m fun _ _ => rfl

theorem preserves_cfg_onWs (m : Program WsServer PUnit) :
    Program.Preserves cfg (onWs m : Program (Session Ω M) PUnit) := by
  refine Program.preserves_bind_get fun s => ?_
  cases s.wsServer with
  | none => exact Program.preserves_pure _
  | some w => exact Program.preserves_zoom m fun _ _ => rfl

theorem preserves_cfg_broadcast (t : Thread) (event : Json) :
    Program.Preserves cfg (broadcast t event : Program (Session Ω M) PUnit) :=
  (preserves_cfg_onIpc _).bind fun _ => Program.preserves_modify fun _ => rfl

theorem preserves_cfg_setStatus (t : Thread) (st : Status) (error : String) :
    Program.Preserves cfg (setStatus t st error : Program (Session Ω M) PUnit) := by
  refine Program.Preserves.bind (Program.preserves_modify fun _ => rfl) fun _ => ?_
  split
  · exact Program.Preserves.bind (Program.preserves_modify fun _ => rfl)
      fun _ => preserves_cfg_broadcast t _
  · exact Program.preserves_pure _

theorem preserves_cfg_openDataset (env : Environment Ω M) (t : Thread) :
    Program.Preserves cfg (openDataset env t) := by
  refine Program.preserves_bind_get fun s => ?_
  dsimp only
  refine Program.Preserves.bind (Program.preserves_modify fun _ => rfl) fun _ => ?_
  split
  · exact (preserves_cfg_setStatus t _ _).bind fun _ => Program.preserves_pure _
  · exact Program.preserves_pure _

theorem preserves_cfg_startNow (env : Environment Ω M) (t : Thread) :
    Program.Preserves cfg (startNow env t) := by
  have hservers : Program.Preserves cfg (startServers env) := by
    refine (preserves_cfg_onIpc _).bind fun _ => ?_
    refine ((preserves_cfg_onWs _).tryCatch fun _ => Program.preserves_pure _).bind fun _ => ?_
    exact Program.preserves_modify fun _ => rfl
  refine (preserves_cfg_openDataset env t).bind fun isOpen => ?_
  split
  · exact Program.preserves_pure _
  · refine hservers.bind fun _ => ?_
    refine (preserves_cfg_setStatus t _ _).bind fun _ => ?_
    refine (preserves_cfg_broadcast t _).bind fun _ => ?_
    refine Program.Preserves.bind (Program.preserves_modify fun _ => rfl) fun _ => ?_
    have hspawn : Program.Preserves cfg (spawnReplay : Program (Session Ω M) PUnit) := by
      refine Program.preserves_bind_get fun s => ?_
      split
      · exact (Program.preserves_throw _).bind fun _ => Program.preserves_modify fun _ => rfl
      · exact Program.preserves_modify fun _ => rfl
    exact hspawn.bind fun _ => Program.preserves_pure _

theorem preserves_cfg_start (env : Environment Ω M) (t : Thread) :
    Program.Preserves cfg (start env t) := by
  refine Program.preserves_bind_get fun s => ?_
  cases s.status with
  | running => exact Program.preserves_pure _
  | paused => exact Program.preserves_pure _
  | error => exact Program.preserves_pure _
  | idle => exact preserves_cfg_startNow env t
  | configured => exact preserves_cfg_startNow env t
  | completed => exact preserves_cfg_startNow env t

theorem preserves_cfg_stop (t : Thread) :
    Program.Preserves cfg (stop t : Program (Session Ω M) PUnit) := by
  refine Program.preserves_bind_get fun s => ?_
  split
  · exact Program.preserves_pure _
  · refine Program.Preserves.bind (Program.preserves_modify fun _ => rfl) fun _ => ?_
    refine Program.Preserves.bind (Program.preserves_modify fun _ => rfl) fun _ => ?_
    refine (preserves_cfg_broadcast t _).bind fun _ => ?_
    refine (preserves_cfg_onIpc _).bind fun _ => ?_
    exact (preserves_cfg_onWs _).bind fun _ => preserves_cfg_setStatus t _ _

theorem preserves_cfg_pause (t : Thread) :
    Program.Preserves cfg (pause t : Program (Session Ω M) PUnit) := by
  refine Program.preserves_bind_get fun s => ?_
  split
  · exact Program.preserves_pure _
  · refine Program.Preserves.bind (Program.preserves_modify fun _ => rfl) fun _ => ?_
    refine (preserves_cfg_setStatus t _ _).bind fun _ => ?_
    exact Program.preserves_bind_get fun _ => preserves_cfg_broadcast t _

theorem preserves_cfg_resume (t : Thread) :
    Program.Preserves cfg (resume t : Program (Session Ω M) PUnit) := by
  refine Program.preserves_bind_get fun s => ?_
  split
  · exact Program.preserves_pure _
  · refine Program.Preserves.bind (Program.preserves_modify fun _ => rfl) fun _ => ?_
    refine (preserves_cfg_setStatus t _ _).bind fun _ => ?_
    exact Program.preserves_bind_get fun _ => preserves_cfg_broadcast t _

/-! ### The configuration that a command leaves -/

/-- The configuration after the command `cmd`, on either server and however its handler ends. -/
def commandedCfg (env : Environment Ω M) (s : Session Ω M) (cmd : Json) : SessionConfig Ω :=
  match cmd.valueString "cmd" "" with
  | .error _ => s.cfg
  | .ok verb =>
    if verb = "set_speed" then
      match cmd.valueDouble "speed" s.cfg.playbackSpeed with
      | .ok speed => { s.cfg with playbackSpeed := speed }
      | .error _ => s.cfg
    else if verb = "configure" ∧ cmd.contains "config" then
      if s.status = .running ∨ s.status = .paused then s.cfg
      else
        match parsedConfig env (cmd.get "config") with
        | .ok cfg => cfg
        | .error _ => s.cfg
    else s.cfg

/-- `Reconfigure` commits the configuration first, or refuses. -/
theorem cfg_reconfigure (env : Environment Ω M) (s : Session Ω M) (t : Thread)
    (c : SessionConfig Ω) :
    (Program.finalState (reconfigure env t c) s).cfg
      = if s.status = .running ∨ s.status = .paused then s.cfg else c := by
  split
  · rename_i hst
    rw [Program.finalState, run_reconfigure_refused hst]
  · rename_i hst
    rw [reconfigure, Program.finalState_bind_ok (Program.run_get s), if_neg hst,
      Program.finalState_bind_ok (Program.run_modify _ s)]
    -- what follows replaces the components
    have hnav : Program.Preserves cfg (replaceNavSystem env : Program (Session Ω M) PUnit) := by
      refine Program.preserves_bind_get fun s => ?_
      cases NavigationSystem.make env s.nextId s.cfg.nav with
      | error e =>
        exact (Program.preserves_throw e).bind fun _ => Program.preserves_modify fun _ => rfl
      | ok nav =>
        exact (Program.preserves_pure nav).bind fun _ => Program.preserves_modify fun _ => rfl
    have hreader : Program.Preserves cfg
        (replaceDatasetReader : Program (Session Ω M) PUnit) := by
      refine Program.preserves_bind_get fun s => ?_
      cases CsvDatasetReader.make s.nextId s.cfg.dataset with
      | error e =>
        exact (Program.preserves_throw e).bind fun _ => Program.preserves_modify fun _ => rfl
      | ok reader =>
        exact (Program.preserves_pure reader).bind fun _ => Program.preserves_modify fun _ => rfl
    have hipc : Program.Preserves cfg (replaceIpcServer t : Program (Session Ω M) PUnit) := by
      refine Program.preserves_bind_get fun s => ?_
      exact Program.Preserves.bind (Program.preserves_modify fun _ => rfl) fun _ =>
        Program.preserves_destroy _ _
    have hws : Program.Preserves cfg (replaceWsServer t : Program (Session Ω M) PUnit) := by
      refine Program.preserves_bind_get fun s => ?_
      dsimp only
      split
      all_goals
        -- the old server is destroyed after the new one is in place
        refine Program.Preserves.bind (Program.preserves_modify fun _ => rfl) fun _ => ?_
        split
        · exact Program.preserves_pure _
        · exact Program.preserves_destroy _ _
    refine hnav.bind (fun _ => ?_) _
    refine Program.Preserves.bind (Program.preserves_modify fun _ => rfl) fun _ => ?_
    refine hreader.bind fun _ => hipc.bind fun _ => hws.bind fun _ => ?_
    exact (preserves_cfg_setStatus t _ _).bind fun _ => Program.preserves_pure _

/-- `configure`, with whatever is sent when it is done. -/
theorem cfg_configure {α : Type} (env : Environment Ω M) (s : Session Ω M) (t : Thread)
    (config : Json) {rest : Program (Session Ω M) α} {failed : String → Program (Session Ω M) α}
    (hrest : Program.Preserves cfg rest) (hfailed : ∀ what, Program.Preserves cfg (failed what)) :
    (Program.finalState (Program.tryCatch (do
      let c ← orThrow (SessionConfig.fromJson env.navDefault env.navFromJson config)
      let _ ← reconfigure env t c
      rest) failed) s).cfg
      = if s.status = .running ∨ s.status = .paused then s.cfg
        else match parsedConfig env config with
          | .ok c => c
          | .error _ => s.cfg := by
  rw [Program.finalState_tryCatch cfg hfailed]
  show _ = if _ then _ else match SessionConfig.fromJson _ _ _ with
    | .ok c => c
    | .error _ => s.cfg
  cases hparse : SessionConfig.fromJson env.navDefault env.navFromJson config with
  | error what =>
    rw [ite_self]
    rfl
  | ok c =>
    rw [orThrow, Program.finalState_bind_ok (Program.run_pure c s),
      Program.finalState_bind cfg fun _ => hrest]
    exact cfg_reconfigure env s t c

theorem cfg_setSpeed (s : Session Ω M) (cmd : Json) :
    (Program.finalState (setSpeed cmd) s).cfg
      = match cmd.valueDouble "speed" s.cfg.playbackSpeed with
        | .ok speed => { s.cfg with playbackSpeed := speed }
        | .error _ => s.cfg := by
  rw [setSpeed, Program.finalState_bind_ok (Program.run_get s)]
  cases cmd.valueDouble "speed" s.cfg.playbackSpeed with
  | ok speed => rfl
  | error what => rfl

/-- The commands that change the configuration are `set_speed` and `configure`. -/
theorem commandedCfg_other (env : Environment Ω M) (s : Session Ω M) {cmd : Json} {verb : String}
    (hverb : cmd.valueString "cmd" "" = .ok verb) (hspeed : verb ≠ "set_speed")
    (hconfigure : verb ≠ "configure") : commandedCfg env s cmd = s.cfg := by
  unfold commandedCfg
  rw [hverb]
  dsimp only
  rw [if_neg hspeed, if_neg fun h => hconfigure h.1]

/-- The IPC handler. -/
theorem cfg_handleCommand (env : Environment Ω M) (s : Session Ω M) (cmd : Json) :
    (Program.finalState (handleCommand env cmd) s).cfg = commandedCfg env s cmd := by
  cases hverb : cmd.valueString "cmd" "" with
  | error what =>
    unfold handleCommand commandedCfg
    rw [hverb]
    rfl
  | ok verb =>
    have hother := commandedCfg_other env s hverb
    unfold handleCommand
    -- reading the verb changes nothing; then verb by verb
    rw [hverb, orThrow, Program.finalState_bind_ok (Program.run_pure verb s)]
    by_cases hstart : verb = "start"
    · rw [if_pos hstart, hother (by rw [hstart]; decide) (by rw [hstart]; decide)]
      exact ((preserves_cfg_start env .ipc).bind fun _ => Program.preserves_pure _) s
    rw [if_neg hstart]
    by_cases hstop : verb = "stop"
    · rw [if_pos hstop, hother (by rw [hstop]; decide) (by rw [hstop]; decide)]
      exact preserves_cfg_stop .ipc s
    rw [if_neg hstop]
    by_cases hpause : verb = "pause"
    · rw [if_pos hpause, hother (by rw [hpause]; decide) (by rw [hpause]; decide)]
      exact preserves_cfg_pause .ipc s
    rw [if_neg hpause]
    by_cases hresume : verb = "resume"
    · rw [if_pos hresume, hother (by rw [hresume]; decide) (by rw [hresume]; decide)]
      exact preserves_cfg_resume .ipc s
    rw [if_neg hresume]
    by_cases hstatus : verb = "get_status"
    · rw [if_pos hstatus, hother (by rw [hstatus]; decide) (by rw [hstatus]; decide)]
      exact preserves_cfg_broadcast .ipc _ s
    rw [if_neg hstatus]
    by_cases hschema : verb = "get_schema"
    · rw [if_pos hschema, hother (by rw [hschema]; decide) (by rw [hschema]; decide)]
      exact preserves_cfg_broadcast .ipc _ s
    rw [if_neg hschema]
    by_cases hspeed : verb = "set_speed"
    · rw [if_pos hspeed, cfg_setSpeed, commandedCfg, hverb]
      dsimp only
      rw [if_pos hspeed]
    rw [if_neg hspeed]
    by_cases hconfigure : verb = "configure"
    · rw [if_pos hconfigure, commandedCfg, hverb]
      dsimp only
      rw [if_neg hspeed]
      by_cases hconfig : cmd.contains "config" = true
      · rw [if_pos hconfig, if_pos ⟨hconfigure, hconfig⟩]
        exact cfg_configure env s .ipc _ (preserves_cfg_broadcast .ipc _)
          fun what => preserves_cfg_broadcast .ipc _
      · rw [if_neg hconfig, if_neg fun hboth => hconfig hboth.2]
        rfl
    -- an unknown verb is answered with an error
    · rw [if_neg hconfigure, hother hspeed hconfigure]
      exact preserves_cfg_broadcast .ipc _ s

/-- The WebSocket handler. -/
theorem cfg_handleWsCommand (env : Environment Ω M) (s : Session Ω M) (cmd : Json) :
    (Program.finalState (handleWsCommand env cmd) s).cfg = commandedCfg env s cmd := by
  cases hverb : cmd.valueString "cmd" "" with
  | error what =>
    unfold handleWsCommand commandedCfg
    rw [hverb]
    rfl
  | ok verb =>
    have hother := commandedCfg_other env s hverb
    unfold handleWsCommand
    -- the verbs come in another order than over IPC
    rw [hverb, orThrow, Program.finalState_bind_ok (Program.run_pure verb s)]
    by_cases hstart : verb = "start"
    · rw [if_pos hstart, hother (by rw [hstart]; decide) (by rw [hstart]; decide)]
      exact ((preserves_cfg_start env .ws).bind fun _ => Program.preserves_pure _) s
    rw [if_neg hstart]
    by_cases hstop : verb = "stop"
    · rw [if_pos hstop, hother (by rw [hstop]; decide) (by rw [hstop]; decide)]
      exact ((preserves_cfg_stop .ws).bind fun _ => Program.preserves_pure _) s
    rw [if_neg hstop]
    by_cases hpause : verb = "pause"
    · rw [if_pos hpause, hother (by rw [hpause]; decide) (by rw [hpause]; decide)]
      exact ((preserves_cfg_pause .ws).bind fun _ => Program.preserves_pure _) s
    rw [if_neg hpause]
    by_cases hresume : verb = "resume"
    · rw [if_pos hresume, hother (by rw [hresume]; decide) (by rw [hresume]; decide)]
      exact ((preserves_cfg_resume .ws).bind fun _ => Program.preserves_pure _) s
    rw [if_neg hresume]
    by_cases hspeed : verb = "set_speed"
    · have hset : (Program.finalState (do
            setSpeed cmd
            return ackReply verb) s).cfg = (Program.finalState (setSpeed cmd) s).cfg :=
        Program.finalState_bind cfg (fun _ => Program.preserves_pure _) s
      rw [if_pos hspeed, hset, cfg_setSpeed, commandedCfg, hverb]
      dsimp only
      rw [if_pos hspeed]
    rw [if_neg hspeed]
    by_cases hstatus : verb = "get_status"
    · rw [if_pos hstatus, hother hspeed (by rw [hstatus]; decide)]
      rfl
    rw [if_neg hstatus]
    by_cases hschema : verb = "get_schema"
    · rw [if_pos hschema, hother hspeed (by rw [hschema]; decide)]
      rfl
    rw [if_neg hschema, commandedCfg, hverb]
    dsimp only
    rw [if_neg hspeed]
    -- `configure` without a `config` is answered like an unknown verb
    by_cases hconfigure : verb = "configure" ∧ cmd.contains "config" = true
    · rw [if_pos hconfigure, if_pos hconfigure]
      exact cfg_configure env s .ws _ (Program.preserves_pure _)
        fun what => Program.preserves_pure _
    · rw [if_neg hconfigure, if_neg hconfigure]
      rfl

/-! ### Commands that leave a valid configuration -/

/-- A `set_speed` has no speed or one that is not negative, and a configuration that is accepted
    passes `Validate`. -/
def KeepsValid (env : Environment Ω M) (s : Session Ω M) (cmd : Json) : Prop :=
  ∀ verb, cmd.valueString "cmd" "" = .ok verb →
    (verb = "set_speed" → ∀ speed, cmd.valueDouble "speed" s.cfg.playbackSpeed = .ok speed →
      0 ≤ speed) ∧
    (verb = "configure" → cmd.contains "config" → s.status ≠ .running → s.status ≠ .paused →
      ∀ c, parsedConfig env (cmd.get "config") = .ok c → c.validate = none)

/-- **One command.** A valid configuration stays valid exactly when the command is one of these. -/
theorem validate_commandedCfg_iff (env : Environment Ω M) {s : Session Ω M}
    (h : s.cfg.validate = none) (cmd : Json) :
    (commandedCfg env s cmd).validate = none ↔ KeepsValid env s cmd := by
  unfold commandedCfg KeepsValid
  cases hverb : cmd.valueString "cmd" "" with
  | error what => simp [h]
  | ok verb =>
    simp only [Except.ok.injEq, forall_eq']
    by_cases hspeed : verb = "set_speed"
    · have hne : verb ≠ "configure" := by
        rw [hspeed]
        decide
      rw [if_pos hspeed]
      cases cmd.valueDouble "speed" s.cfg.playbackSpeed with
      | error what => simp [h, hne]
      | ok speed => simp [SessionConfig.validate_withSpeed h, hspeed]
    · rw [if_neg hspeed]
      by_cases hconfigure : verb = "configure" ∧ cmd.contains "config"
      · rw [if_pos hconfigure]
        split
        · rename_i hst
          refine iff_of_true h ⟨fun hs => absurd hs hspeed, fun _ _ hrun hpaused => ?_⟩
          rcases hst with hst | hst
          · exact absurd hst hrun
          · exact absurd hst hpaused
        · rename_i hst
          rw [not_or] at hst
          cases parsedConfig env (cmd.get "config") with
          | error what => simp [h, hspeed]
          | ok c => simp [hconfigure.1, hconfigure.2, hst.1, hst.2]
      · rw [if_neg hconfigure]
        refine iff_of_true h ⟨fun hs => absurd hs hspeed, fun hc hconfig => ?_⟩
        exact absurd ⟨hc, hconfig⟩ hconfigure

/-! ### Lines and payloads -/

/-- What the loop of the WebSocket server does with a payload: any exception is answered. -/
def handlePayload (env : Environment Ω M) (text : String) : Program (Session Ω M) PUnit :=
  match env.parseJson text with
  | none => return
  | some cmd =>
    Program.tryCatch (do
      let _ ← handleWsCommand env cmd
      return) fun _ => return

/-- A text that is JSON holds such a command. -/
def KeepsValidText (env : Environment Ω M) (s : Session Ω M) (text : String) : Prop :=
  ∀ cmd, env.parseJson text = some cmd → KeepsValid env s cmd

theorem validate_handleData (env : Environment Ω M) {s : Session Ω M}
    (h : s.cfg.validate = none) (fd : ℕ) {line : String} (hline : KeepsValidText env s line) :
    (Program.finalState (handleData env fd line) s).cfg.validate = none := by
  unfold handleData
  split
  · exact h
  · have hanswer : ∀ _ : String, Program.Preserves cfg
        (modify fun s => { s with written := s.written ++ [(fd, errorEvent "invalid JSON")] } :
          Program (Session Ω M) PUnit) :=
      fun _ => Program.preserves_modify fun _ => rfl
    rw [Program.finalState_tryCatch cfg hanswer]
    cases hparse : env.parseJson line with
    | none => exact h
    | some cmd =>
      show (Program.finalState (handleCommand env cmd) s).cfg.validate = none
      rw [cfg_handleCommand]
      exact (validate_commandedCfg_iff env h cmd).mpr (hline cmd hparse)

theorem validate_handlePayload (env : Environment Ω M) {s : Session Ω M}
    (h : s.cfg.validate = none) {text : String} (htext : KeepsValidText env s text) :
    (Program.finalState (handlePayload env text) s).cfg.validate = none := by
  unfold handlePayload
  cases hparse : env.parseJson text with
  | none => exact h
  | some cmd =>
    dsimp only
    rw [Program.finalState_tryCatch cfg fun _ => Program.preserves_pure _,
      Program.finalState_bind cfg fun _ => Program.preserves_pure _, cfg_handleWsCommand]
    exact (validate_commandedCfg_iff env h cmd).mpr (htext cmd hparse)

end Session

/-! ### Runs -/

/-- A session, and why a thread will not go on, if it will not. -/
structure CommandRun (Ω M : Type) where
  session : Session Ω M
  failed : Thread → Option Failure := fun _ => none

namespace CommandRun

variable {Ω M : Type}

/-- What the threads can do. -/
inductive Action (Ω M : Type)
  /-- `Start`, `Stop`, `Pause` and `Resume` on the main thread. -/
  | start (env : Environment Ω M)
  | stop
  | pause
  | resume
  /-- A line on the IPC socket. -/
  | line (env : Environment Ω M) (fd : ℕ) (text : String)
  /-- A text frame on a WebSocket. -/
  | payload (env : Environment Ω M) (text : String)
  | replay
  /-- The estimator thread broadcasts. -/
  | observe (event : Json)

/-- The thread can go on: the process was not terminated, and the thread is not blocked. -/
def Live (l : CommandRun Ω M) (t : Thread) : Prop :=
  l.failed t = none ∧ ∀ u, l.failed u ≠ some .terminated

/-- The run after `t` has run `m`, with `next` on a normal return. -/
def after {α : Type} (l : CommandRun Ω M) (t : Thread) (m : Program (Session Ω M) α)
    (s : Session Ω M) (next : Session Ω M → Session Ω M) : CommandRun Ω M :=
  match Program.run m s with
  | .ok _ u => { l with session := next u }
  | .error e u => { session := u, failed := Function.update l.failed t (some e) }

/-- The loop of the IPC server holds `clients_mutex_`, or gives it back. -/
def ipcHolds (t : Option Thread) (s : Session Ω M) : Session Ω M :=
  { s with ipcServer := { s.ipcServer with clientsMutex := t } }

/-- The loop of the WebSocket server holds `mu_`, or gives it back. -/
def wsHolds (t : Option Thread) (s : Session Ω M) : Session Ω M :=
  { s with wsServer := s.wsServer.map ({ · with mu := t }) }

/-- One step; a command is one, from the lock to its release. -/
inductive Step : CommandRun Ω M → Action Ω M → CommandRun Ω M → Prop
  | start (l) (env : Environment Ω M) (hlive : l.Live .main) :
      Step l (.start env) (l.after .main (Session.start env .main) l.session id)
  | stop (l) (hlive : l.Live .main) :
      Step l .stop (l.after .main (Session.stop .main) l.session id)
  | pause (l) (hlive : l.Live .main) :
      Step l .pause (l.after .main (Session.pause .main) l.session id)
  | resume (l) (hlive : l.Live .main) :
      Step l .resume (l.after .main (Session.resume .main) l.session id)
  | line (l) (env : Environment Ω M) (fd : ℕ) (text : String) (hlive : l.Live .ipc)
      (hthread : l.session.ipcServer.joinable = true)
      (hfree : l.session.ipcServer.clientsMutex = none) :
      Step l (.line env fd text)
        (l.after .ipc (Session.handleData env fd text) (ipcHolds (some .ipc) l.session)
          (ipcHolds none))
  | payload (l) (env : Environment Ω M) (text : String) (w : WsServer) (hlive : l.Live .ws)
      (hws : l.session.wsServer = some w) (hthread : w.joinable = true) (hfree : w.mu = none) :
      Step l (.payload env text)
        (l.after .ws (Session.handlePayload env text) (wsHolds (some .ws) l.session)
          (wsHolds none))
  | replay (l) (rt : ReplayThread M) (hlive : l.Live .replay)
      (hnext : l.session.replayThread.next l.session.running l.session.paused
        l.session.datasetReader.next.2 = some rt) :
      Step l .replay { l with session := l.session.replayed rt }
  | observe (l) (event : Json) (hlive : l.Live .estimator)
      (hfree : l.session.ipcServer.clientsMutex = none) :
      Step l (.observe event)
        { l with session := { l.session with broadcasts := l.session.broadcasts ++ [event] } }

/-- A session that was constructed with a valid configuration, and its runs. -/
def system (Ω M : Type) : System (CommandRun Ω M) (Action Ω M) where
  init l := ∃ env cfg s, cfg.validate = none ∧ Session.make env cfg = .ok s ∧ l = { session := s }
  step := Step

/-- Every command leaves a valid configuration. -/
def KeepsValid (l : CommandRun Ω M) : Action Ω M → Prop
  | .line env _ text => l.session.KeepsValidText env text
  | .payload env text => l.session.KeepsValidText env text
  | _ => True

/-- A thread that leaves a valid configuration behind, however its call ends. -/
theorem validate_after {α : Type} {l : CommandRun Ω M} {t : Thread}
    {m : Program (Session Ω M) α} {s : Session Ω M} {next : Session Ω M → Session Ω M}
    (h : (Program.finalState m s).cfg.validate = none) (hnext : ∀ u, (next u).cfg = u.cfg) :
    (l.after t m s next).session.cfg.validate = none := by
  unfold Program.finalState at h
  unfold after
  revert h
  cases Program.run m s with
  | ok a u =>
    intro h
    show (next u).cfg.validate = none
    rw [hnext u]
    exact h
  | error e u => exact id

/-- The constructor keeps the configuration. -/
theorem cfg_make {env : Environment Ω M} {cfg : SessionConfig Ω} {s : Session Ω M}
    (h : Session.make env cfg = .ok s) : s.cfg = cfg := by
  unfold Session.make at h
  cases hnav : NavigationSystem.make env 0 cfg.nav with
  | error e =>
    rw [hnav] at h
    cases h
  | ok nav =>
    rw [hnav] at h
    cases hreader : CsvDatasetReader.make (M := M) 1 cfg.dataset with
    | error e =>
      rw [hreader] at h
      cases h
    | ok reader =>
      rw [hreader] at h
      cases h
      rfl

/-- One step of a run whose commands leave a valid configuration. -/
theorem validate_step {l k : CommandRun Ω M} {a : Action Ω M}
    (h : l.session.cfg.validate = none) (ha : KeepsValid l a) (hst : Step l a k) :
    k.session.cfg.validate = none := by
  have hkept : ∀ {α : Type} {m : Program (Session Ω M) α}, Program.Preserves Session.cfg m →
      (Program.finalState m l.session).cfg.validate = none := by
    intro α m hm
    rw [hm l.session]
    exact h
  cases hst with
  | start env hlive =>
    exact validate_after (hkept (Session.preserves_cfg_start env .main)) fun _ => rfl
  | stop hlive => exact validate_after (hkept (Session.preserves_cfg_stop .main)) fun _ => rfl
  | pause hlive => exact validate_after (hkept (Session.preserves_cfg_pause .main)) fun _ => rfl
  | resume hlive => exact validate_after (hkept (Session.preserves_cfg_resume .main)) fun _ => rfl
  | line env fd text hlive hthread hfree =>
    refine validate_after (Session.validate_handleData env ?_ fd ?_) fun _ => rfl
    · exact h
    · exact ha
  | payload env text w hlive hws hthread hfree =>
    refine validate_after (Session.validate_handlePayload env ?_ ?_) fun _ => rfl
    · exact h
    · exact ha
  | replay rt hlive hnext =>
    have hcfg : (l.session.replayed rt).cfg = l.session.cfg := by
      unfold Session.replayed
      split <;> rfl
    show (l.session.replayed rt).cfg.validate = none
    rw [hcfg]
    exact h
  | observe event hlive hfree => exact h

/-- **Validity.** A command leaves a valid configuration exactly when its speed is not negative,
    or when the configuration it brings is refused or valid.  Hence every session that was
    constructed with a valid configuration keeps one in every run whose commands are such. -/
theorem cfg_valid (Ω M : Type) :
    (∀ (env : Environment Ω M) (s : Session Ω M) (cmd : Json), s.cfg.validate = none →
      ((Program.finalState (Session.handleCommand env cmd) s).cfg.validate = none
        ↔ s.KeepsValid env cmd) ∧
      ((Program.finalState (Session.handleWsCommand env cmd) s).cfg.validate = none
        ↔ s.KeepsValid env cmd)) ∧
    ∀ l : CommandRun Ω M, ((system Ω M).guarded KeepsValid).Reachable l →
      l.session.cfg.validate = none := by
  refine ⟨fun env s cmd h => ⟨?_, ?_⟩, fun l hl => ?_⟩
  · rw [Session.cfg_handleCommand]
    exact Session.validate_commandedCfg_iff env h cmd
  · rw [Session.cfg_handleWsCommand]
    exact Session.validate_commandedCfg_iff env h cmd
  · refine hl.invariant (I := fun l => l.session.cfg.validate = none) ?_ ?_
    · rintro l ⟨env, cfg, s, hvalid, hmake, rfl⟩
      show s.cfg.validate = none
      rw [cfg_make hmake]
      exact hvalid
    · intro s a t _ hs hst
      exact validate_step hs hst.1 hst.2

/-- A `set_speed` command. -/
def speedCommand (speed : ℚ) : Json := .obj [("cmd", .str "set_speed"), ("speed", .num speed)]

/-- The environment of the examples, with the texts of two such commands. -/
def speedEnv : Environment Unit ℕ :=
  { Session.plainEnv with
    parseJson := fun line =>
      if line = "\x7b\"cmd\":\"set_speed\",\"speed\":2\x7d" then some (speedCommand 2)
      else if line = "\x7b\"cmd\":\"set_speed\",\"speed\":-1\x7d" then some (speedCommand (-1))
      else none }

/-- The session of the examples, started by the main thread. -/
theorem reachable_started {G : CommandRun Unit ℕ → Action Unit ℕ → Prop}
    (hG : ∀ l, G l (.start speedEnv)) :
    ((system Unit ℕ).guarded G).Reachable
      (after { session := SessionRun.configured "flight.csv" } .main
        (Session.start speedEnv .main) (SessionRun.configured "flight.csv") id) := by
  have hinit : ((system Unit ℕ).guarded G).Reachable
      { session := SessionRun.configured "flight.csv" } :=
    .init ⟨speedEnv, SessionRun.replaying "flight.csv", _, by decide, rfl, rfl⟩
  exact hinit.step ⟨hG _, .start _ speedEnv ⟨rfl, nofun⟩⟩

/-- A session that is told to replay twice as fast. -/
theorem cfg_valid_faster :
    ∃ l : CommandRun Unit ℕ, ((system Unit ℕ).guarded KeepsValid).Reachable l ∧
      l.session.cfg.playbackSpeed = 2 ∧ l.session.cfg.validate = none := by
  have h₁ := reachable_started (G := KeepsValid) fun _ => trivial
  have h₂ := h₁.step ⟨?_, .line _ speedEnv 7 "\x7b\"cmd\":\"set_speed\",\"speed\":2\x7d"
    ⟨rfl, nofun⟩ rfl rfl⟩
  · exact ⟨_, h₂, rfl, (cfg_valid Unit ℕ).2 _ h₂⟩
  · intro cmd hcmd verb hverb
    cases hcmd
    cases hverb
    refine ⟨fun _ speed hspeed => ?_, fun hconfigure => absurd hconfigure (by decide)⟩
    cases hspeed
    decide

/-- **Negative.** A client asks for the speed -1. -/
theorem cfg_not_valid :
    ∃ l : CommandRun Unit ℕ, (system Unit ℕ).Reachable l ∧ l.session.status = .running ∧
      l.session.cfg.playbackSpeed = -1 ∧ l.session.cfg.validate ≠ none := by
  have h₁ := reachable_started (G := fun _ _ => True) fun _ => trivial
  have h₂ := h₁.step ⟨trivial, .line _ speedEnv 7 "\x7b\"cmd\":\"set_speed\",\"speed\":-1\x7d"
    ⟨rfl, nofun⟩ rfl rfl⟩
  exact ⟨_, h₂.of_guarded, rfl, rfl, by decide⟩

end CommandRun

end FalconGuide
