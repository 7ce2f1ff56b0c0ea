import FalconGuide.App.IpcDispatch

namespace FalconGuide

open Lib

/-!
# The `configure` command

What a `configure` command is meant to do is all or nothing, and truthfully answered
(`Session.AllOrNothing`).  `Reconfigure` commits the members one after another, its refusal is
a return value that both command handlers drop, and it destroys the server whose thread it
runs on.

* `Session.wsConfigure_allOrNothing_iff` — the commands for which the WebSocket handler does
  what it is meant to;
* `Session.reconfigure_applies` — on a thread that is no server's, `Reconfigure` applies the
  whole configuration once every constructor succeeds.
-/

namespace Session

variable {Ω M : Type}

/-- The configuration that a `configure` command carries. -/
def parsedConfig (env : Environment Ω M) (config : Json) : Except String (SessionConfig Ω) :=
  SessionConfig.fromJson env.navDefault env.navFromJson config

/-- `t` is `s` with the whole configuration applied: every component was constructed anew, from
    its block of the configuration. -/
structure Applied (s : Session Ω M) (cfg : SessionConfig Ω) (t : Session Ω M) : Prop where
  cfg_eq : t.cfg = cfg
  navSystem : t.navSystem.config = cfg.nav ∧ s.nextId ≤ t.navSystem.id
  datasetReader : t.datasetReader.path = cfg.dataset.path ∧ s.nextId ≤ t.datasetReader.id
  ipcServer : t.ipcServer.config = cfg.ipc ∧ s.nextId ≤ t.ipcServer.id
  wsServer : if 0 < cfg.ws.port then ∃ w, t.wsServer = some w ∧ w.config = cfg.ws ∧ s.nextId ≤ w.id
    else t.wsServer = none
  status : t.status = .configured

/-- `t` is the session `s` as it was: no member differs and no component was constructed. -/
structure Unchanged (s t : Session Ω M) : Prop where
  cfg : t.cfg = s.cfg
  navSystem : t.navSystem = s.navSystem
  datasetReader : t.datasetReader = s.datasetReader
  ipcServer : t.ipcServer = s.ipcServer
  wsServer : t.wsServer = s.wsServer
  status : t.status = s.status
  nextId : t.nextId = s.nextId

/-- **All or nothing.** The command ends with the whole configuration applied and the reply
    `configured`, or with the session as it was and an error reply. -/
def AllOrNothing (env : Environment Ω M) (s : Session Ω M) (config : Json) (configured : Json)
    (t : Session Ω M) (reply : Json) : Prop :=
  (∃ cfg, parsedConfig env config = .ok cfg ∧ Applied s cfg t ∧ reply = configured) ∨
  (Unchanged s t ∧ ∃ message, reply = errorEvent message)

/-- The IPC handler answers with a broadcast. -/
def IpcAllOrNothing (env : Environment Ω M) (s : Session Ω M) (cmd : Json) : Prop :=
  ∃ t reply, Program.run (handleCommand env cmd) s = .ok ⟨⟩ t ∧
    t.broadcasts = s.broadcasts ++ [reply] ∧
    AllOrNothing env s (cmd.get "config") (statusEvent "configured" 0) t reply

/-- The WebSocket handler returns its reply. -/
def WsAllOrNothing (env : Environment Ω M) (s : Session Ω M) (cmd : Json) : Prop :=
  ∃ t reply, Program.run (handleWsCommand env cmd) s = .ok reply t ∧
    AllOrNothing env s (cmd.get "config") configuredReply t reply

/-- The WebSocket thread is inside a command handler: it runs on the thread of `ws_server_`,
    which has not been joined. -/
def WsDispatching (s : Session Ω M) : Prop :=
  ∃ w, s.wsServer = some w ∧ w.mu = some .ws ∧ w.joinable = true

/-- The configuration does not parse, or it is the current one, the session would accept it and
    its estimator cannot be constructed. -/
def Rejects (env : Environment Ω M) (s : Session Ω M) (config : Json) : Prop :=
  (∃ what, parsedConfig env config = .error what) ∨
  (parsedConfig env config = .ok s.cfg ∧ s.status ≠ .running ∧ s.status ≠ .paused ∧
    ∃ what, NavigationSystem.buildError env s.cfg.nav = some what)

/-! ### `Reconfigure` in the order in which it commits -/

section Reconfigure

variable {env : Environment Ω M} {s : Session Ω M} {cfg : SessionConfig Ω} {t : Thread}

/-- A running or paused session refuses and stays as it is. -/
theorem run_reconfigure_refused (h : s.status = .running ∨ s.status = .paused) :
    Program.run (reconfigure env t cfg) s = .ok false s := by
  rw [reconfigure, Program.run_bind_ok (Program.run_get s), if_pos h]
  rfl

/-- An estimator that cannot be constructed leaves the configuration committed and all else as
    it was. -/
theorem run_reconfigure_buildError (h : ¬ (s.status = .running ∨ s.status = .paused))
    {what : String} (hb : NavigationSystem.buildError env cfg.nav = some what) :
    Program.run (reconfigure env t cfg) s = .error (.exception what) { s with cfg := cfg } := by
  rw [reconfigure, Program.run_bind_ok (Program.run_get s), if_neg h,
    Program.run_bind_ok (Program.run_modify _ s)]
  refine Program.run_bind_error ?_
  rw [replaceNavSystem, Program.run_bind_ok (Program.run_get _), NavigationSystem.make]
  simp only [hb]
  rfl

/-- The session between the construction of the navigation system and that of the reader. -/
def withNavSystem (s : Session Ω M) (cfg : SessionConfig Ω) : Session Ω M :=
  { s with
    cfg := cfg
    navSystem := { id := s.nextId, config := cfg.nav, observed := true }
    nextId := s.nextId + 1 }

/-- The rest of `Reconfigure`, from the construction of the reader on. -/
theorem run_reconfigure_built (h : ¬ (s.status = .running ∨ s.status = .paused))
    (hb : NavigationSystem.buildError env cfg.nav = none) :
    Program.run (reconfigure env t cfg) s =
      Program.run (do
        replaceDatasetReader
        replaceIpcServer t
        replaceWsServer t
        setStatus t .configured ""
        return true) (withNavSystem s cfg) := by
  rw [reconfigure, Program.run_bind_ok (Program.run_get s), if_neg h,
    Program.run_bind_ok (Program.run_modify _ s)]
  have hnav : Program.run (replaceNavSystem env) { s with cfg := cfg } = .ok ⟨⟩
      { s with cfg := cfg, navSystem := { id := s.nextId, config := cfg.nav },
               nextId := s.nextId + 1 } := by
    rw [replaceNavSystem, Program.run_bind_ok (Program.run_get _), NavigationSystem.make]
    simp only [hb]
    rfl
  rw [Program.run_bind_ok hnav]
  rfl

/-- A dataset type that is not known leaves the configuration and the navigation system
    committed. -/
theorem run_reconfigure_unknownDataset (h : ¬ (s.status = .running ∨ s.status = .paused))
    (hb : NavigationSystem.buildError env cfg.nav = none) (hd : cfg.dataset.type ≠ "csv") :
    Program.run (reconfigure env t cfg) s =
      .error (.exception ("Unknown dataset type: " ++ cfg.dataset.type))
        (withNavSystem s cfg) := by
  rw [run_reconfigure_built h hb]
  refine Program.run_bind_error ?_
  have hmake : CsvDatasetReader.make (M := M) (withNavSystem s cfg).nextId
      (withNavSystem s cfg).cfg.dataset
        = .error (.exception ("Unknown dataset type: " ++ cfg.dataset.type)) := if_neg hd
  rw [replaceDatasetReader, Program.run_bind_ok (Program.run_get _), hmake]
  rfl

/-- The session with a new reader and a new IPC server as well, before the old server is
    destroyed. -/
def withIpcServer (s : Session Ω M) (cfg : SessionConfig Ω) : Session Ω M :=
  { withNavSystem s cfg with
    datasetReader := { id := s.nextId + 1, path := cfg.dataset.path }
    ipcServer := { id := s.nextId + 2, config := cfg.ipc }
    nextId := s.nextId + 3 }

/-- With every constructor succeeding, what is left is to destroy the two old servers. -/
theorem run_reconfigure_constructed (h : ¬ (s.status = .running ∨ s.status = .paused))
    (hb : NavigationSystem.buildError env cfg.nav = none) (hd : cfg.dataset.type = "csv") :
    Program.run (reconfigure env t cfg) s =
      Program.run (do
        Program.destroy (IpcServer.destructor t) s.ipcServer
        replaceWsServer t
        setStatus t .configured ""
        return true) (withIpcServer s cfg) := by
  rw [run_reconfigure_built h hb]
  have hmake : CsvDatasetReader.make (M := M) (withNavSystem s cfg).nextId
      (withNavSystem s cfg).cfg.dataset
        = .ok { id := s.nextId + 1, path := cfg.dataset.path } := if_pos hd
  have hreader : Program.run replaceDatasetReader (withNavSystem s cfg) = .ok ⟨⟩
      { withNavSystem s cfg with
        datasetReader := { id := s.nextId + 1, path := cfg.dataset.path },
        nextId := s.nextId + 2 } := by
    rw [replaceDatasetReader, Program.run_bind_ok (Program.run_get _), hmake]
    rfl
  rw [Program.run_bind_ok hreader]
  rfl

/-- The session with every component constructed anew. -/
def withWsServer (s : Session Ω M) (cfg : SessionConfig Ω) : Session Ω M :=
  if 0 < cfg.ws.port then
    { withIpcServer s cfg with
      wsServer := some { id := s.nextId + 3, config := cfg.ws }, nextId := s.nextId + 4 }
  else { withIpcServer s cfg with wsServer := none }

/-- Replacing the WebSocket server takes no more than destroying the old one. -/
theorem run_replaceWsServer :
    Program.run (replaceWsServer t) (withIpcServer s cfg) =
      Program.run (match s.wsServer with
        | none => return
        | some w => Program.destroy (WsServer.destructor t) w) (withWsServer s cfg) := by
  rw [replaceWsServer, Program.run_bind_ok (Program.run_get _), withWsServer]
  by_cases hp : 0 < cfg.ws.port
  · have hp' : 0 < (withIpcServer s cfg).cfg.ws.port := hp
    rw [if_pos hp, if_pos hp']
    rfl
  · have hp' : ¬ 0 < (withIpcServer s cfg).cfg.ws.port := hp
    rw [if_neg hp, if_neg hp']
    rfl

/-- With every constructor succeeding, and on a thread on which both old servers can be
    destroyed, `Reconfigure` gets to its end. -/
theorem run_reconfigure_applied (h : ¬ (s.status = .running ∨ s.status = .paused))
    (hb : NavigationSystem.buildError env cfg.nav = none) (hd : cfg.dataset.type = "csv")
    (hipc : Program.Returns (IpcServer.destructor t) s.ipcServer)
    (hws : ∀ w, s.wsServer = some w → Program.Returns (WsServer.destructor t) w) :
    Program.run (reconfigure env t cfg) s =
      .ok true { withWsServer s cfg with status := .configured } := by
  obtain ⟨_, _, hipc⟩ := hipc
  have hdestroy : Program.run (Program.destroy (IpcServer.destructor t) s.ipcServer)
      (withIpcServer s cfg) = .ok ⟨⟩ (withIpcServer s cfg) := by
    rw [Program.run_destroy, hipc]
  have hreplace : Program.run (replaceWsServer t) (withIpcServer s cfg)
      = .ok ⟨⟩ (withWsServer s cfg) := by
    rw [run_replaceWsServer]
    cases hw : s.wsServer with
    | none => rfl
    | some w =>
      obtain ⟨_, _, hr⟩ := hws w hw
      show Program.run (Program.destroy _ w) _ = _
      rw [Program.run_destroy, hr]
  rw [run_reconfigure_constructed h hb hd, Program.run_bind_ok hdestroy,
    Program.run_bind_ok hreplace]
  rfl

/-- Every component of the session that `Reconfigure` ends with was constructed anew. -/
theorem applied_withWsServer (s : Session Ω M) (cfg : SessionConfig Ω) :
    Applied s cfg { withWsServer s cfg with status := .configured } := by
  unfold withWsServer
  split <;> rename_i hp
  · refine ⟨rfl, ⟨rfl, le_rfl⟩, ⟨rfl, Nat.le_add_right _ _⟩, ⟨rfl, Nat.le_add_right _ _⟩, ?_, rfl⟩
    rw [if_pos hp]
    exact ⟨_, rfl, rfl, Nat.le_add_right _ _⟩
  · refine ⟨rfl, ⟨rfl, le_rfl⟩, ⟨rfl, Nat.le_add_right _ _⟩, ⟨rfl, Nat.le_add_right _ _⟩, ?_, rfl⟩
    rw [if_neg hp]

/-- On a thread on which both old servers can be destroyed, `Reconfigure` applies the whole
    configuration once every constructor succeeds. -/
theorem reconfigure_applies (h : ¬ (s.status = .running ∨ s.status = .paused))
    (hb : NavigationSystem.buildError env cfg.nav = none) (hd : cfg.dataset.type = "csv")
    (hipc : Program.Returns (IpcServer.destructor t) s.ipcServer)
    (hws : ∀ w, s.wsServer = some w → Program.Returns (WsServer.destructor t) w) :
    ∃ u, Program.run (reconfigure env t cfg) s = .ok true u ∧ Applied s cfg u :=
  ⟨_, run_reconfigure_applied h hb hd hipc hws, applied_withWsServer s cfg⟩

/-- On a thread on which the old WebSocket server cannot be destroyed, it never gets to an
    end. -/
theorem stuck_reconfigure_constructed (h : ¬ (s.status = .running ∨ s.status = .paused))
    (hb : NavigationSystem.buildError env cfg.nav = none) (hd : cfg.dataset.type = "csv")
    {w : WsServer} (hw : s.wsServer = some w)
    (hws : ¬ Program.Returns (WsServer.destructor t) w) :
    Program.Stuck (· = s) (reconfigure env t cfg) := by
  rintro _ rfl
  rw [run_reconfigure_constructed h hb hd]
  refine Program.Stuck.bind (Q := fun _ u => u = withIpcServer _ cfg) Program.ensures_destroy
    (fun _ => Program.Stuck.bind_left ?_) _ rfl
  rintro _ rfl
  rw [run_replaceWsServer, hw]
  exact Program.stuck_destroy (P := fun _ => True) hws _ trivial

end Reconfigure

/-! ### The two handlers -/

/-- The destructor of the WebSocket server does not return on the server's own thread. -/
theorem not_returns_wsDestructor {w : WsServer} (hj : w.joinable = true) :
    ¬ Program.Returns (WsServer.destructor .ws) w := by
  rintro ⟨_, t, hr⟩
  rcases hrun : w.running <;>
    simp [WsServer.destructor, WsServer.stop, Program.run_bind, hrun, hj, joinItself] at hr

/-- A `configure` command with a configuration reaches the `configure` branch. -/
theorem run_handleWsCommand_configure (env : Environment Ω M) (s : Session Ω M) {cmd : Json}
    (hverb : cmd.valueString "cmd" "" = .ok "configure")
    (hconfig : cmd.contains "config" = true) :
    Program.run (handleWsCommand env cmd) s
      = Program.run (wsConfigure env (cmd.get "config")) s := by
  rw [handleWsCommand, Program.run_bind_ok (run_orThrow_ok hverb s)]
  simp [hconfig]

/-- What the `configure` branch makes of a `Reconfigure`. -/
theorem run_wsConfigure_ok {env : Environment Ω M} {s : Session Ω M} {config : Json}
    {cfg : SessionConfig Ω} (hp : parsedConfig env config = .ok cfg) :
    Program.run (wsConfigure env config) s = match Program.run (reconfigure env .ws cfg) s with
      | .ok _ t => .ok configuredReply t
      | .error (.exception what) t => .ok (errorEvent ("configure failed: " ++ what)) t
      | .error e t => .error e t := by
  have hthrow : Program.run
      (orThrow (SessionConfig.fromJson env.navDefault env.navFromJson config)) s = .ok cfg s :=
    run_orThrow_ok hp s
  rw [wsConfigure, Program.run_tryCatch, Program.run_bind_ok hthrow, Program.run_bind]
  rcases Program.run (reconfigure env .ws cfg) s with ⟨_, _⟩ | ⟨e, _⟩
  · rfl
  · cases e <;> rfl

theorem configuredReply_ne_errorEvent (message : String) :
    configuredReply ≠ errorEvent message := by
  simp [configuredReply, errorEvent]

/-- Over IPC the reply is never sent: the thread blocks before. -/
theorem not_ipcAllOrNothing (env : Environment Ω M) {s : Session Ω M} {cmd : Json}
    (hverb : cmd.valueString "cmd" "" = .ok "configure")
    (hconfig : cmd.contains "config" = true) (hs : Dispatching s) :
    ¬ IpcAllOrNothing env s cmd := by
  rintro ⟨t, _, hr, -⟩
  refine (stuck_handleCommand env hs hverb ?_).not_returns rfl ⟨⟨⟩, t, hr⟩
  simp [QuietCommand, hconfig]

/-- Over WebSocket, case by case on what `Reconfigure` does. -/
theorem wsAllOrNothing_iff (env : Environment Ω M) {s : Session Ω M} {cmd : Json}
    (hverb : cmd.valueString "cmd" "" = .ok "configure")
    (hconfig : cmd.contains "config" = true) (hs : WsDispatching s) :
    WsAllOrNothing env s cmd ↔ Rejects env s (cmd.get "config") := by
  unfold WsAllOrNothing Rejects AllOrNothing
  rw [run_handleWsCommand_configure env s hverb hconfig]
  cases hp : parsedConfig env (cmd.get "config") with
  | error what =>
    -- nothing was touched before the exception
    refine iff_of_true ⟨s, errorEvent ("configure failed: " ++ what), ?_, .inr ⟨?_, _, rfl⟩⟩
      (.inl ⟨what, rfl⟩)
    · have hthrow : Program.run (orThrow (SessionConfig.fromJson env.navDefault env.navFromJson
          (cmd.get "config"))) s = .error (.exception what) s := by
        rw [show SessionConfig.fromJson _ _ _ = _ from hp]
        rfl
      rw [wsConfigure, Program.run_tryCatch, Program.run_bind_error hthrow]
      rfl
    · exact ⟨rfl, rfl, rfl, rfl, rfl, rfl, rfl⟩
  | ok cfg =>
    rw [run_wsConfigure_ok hp]
    by_cases h : s.status = .running ∨ s.status = .paused
    · -- the refusal is answered with `configured`
      rw [run_reconfigure_refused h]
      refine iff_of_false ?_ ?_
      · rintro ⟨_, _, hr, ⟨_, -, happ, -⟩ | ⟨-, message, hm⟩⟩ <;> cases hr
        · have := happ.status
          rcases h with h | h <;> simp [h] at this
        · exact configuredReply_ne_errorEvent message hm
      · rintro (⟨_, hr⟩ | ⟨-, hrun, hpaused, -⟩)
        · cases hr
        · exact h.elim hrun hpaused
    cases hb : NavigationSystem.buildError env cfg.nav with
    | some what =>
      -- `cfg` has been stored by then, so it must have been the one in force
      rw [run_reconfigure_buildError h hb]
      constructor
      · rintro ⟨_, _, hr, ⟨_, -, -, hm⟩ | ⟨hsame, -⟩⟩ <;> cases hr
        · exact absurd hm.symm (configuredReply_ne_errorEvent _)
        · obtain rfl : cfg = s.cfg := hsame.cfg
          exact .inr ⟨rfl, fun hr => h (.inl hr), fun hr => h (.inr hr), what, hb⟩
      · rintro (⟨_, hr⟩ | ⟨hr, -⟩) <;> cases hr
        exact ⟨_, _, rfl, .inr ⟨⟨rfl, rfl, rfl, rfl, rfl, rfl, rfl⟩, _, rfl⟩⟩
    | none =>
      -- the old servers are gone, and nothing answers with an error
      refine iff_of_false ?_ ?_
      swap
      · rintro (⟨_, hr⟩ | ⟨hr, -, -, _, hb'⟩) <;> cases hr
        rw [hb] at hb'
        cases hb'
      by_cases hd : cfg.dataset.type = "csv"
      -- the server that reads the command would have to join its own thread
      · obtain ⟨w, hw, -, hj⟩ := hs
        have hstuck := stuck_reconfigure_constructed h hb hd hw (not_returns_wsDestructor hj) s rfl
        rintro ⟨_, _, hr, -⟩
        revert hstuck hr
        rcases Program.run (reconfigure env .ws cfg) s with ⟨_, _⟩ | ⟨e, _⟩
        · exact fun hF => hF.elim
        · cases e with
          | exception what => exact fun hF => hF.elim
          | terminated => exact fun _ hr => by cases hr
          | deadlock => exact fun _ hr => by cases hr
      · -- the navigation system was rebuilt before the reader could not be
        rw [run_reconfigure_unknownDataset h hb hd]
        rintro ⟨_, _, hr, ⟨_, -, -, hm⟩ | ⟨hsame, -⟩⟩ <;> cases hr
        · exact absurd hm.symm (configuredReply_ne_errorEvent _)
        · exact absurd hsame.nextId (Nat.succ_ne_self _)

/-- **Configure.** Over IPC a `configure` command is never all or nothing and truthfully
    answered.  Over WebSocket it is exactly when the configuration does not parse, or when it is
    the current one, the session would accept it and its estimator cannot be constructed. -/
theorem configure_allOrNothing_iff (env : Environment Ω M) (s : Session Ω M) (cmd : Json)
    (hverb : cmd.valueString "cmd" "" = .ok "configure")
    (hconfig : cmd.contains "config" = true) :
    (Dispatching s → ¬ IpcAllOrNothing env s cmd) ∧
    (WsDispatching s → (WsAllOrNothing env s cmd ↔ Rejects env s (cmd.get "config"))) :=
  ⟨not_ipcAllOrNothing env hverb hconfig, wsAllOrNothing_iff env hverb hconfig⟩

/-- The command `configure` with the given dataset type. -/
def configureCommand (type : String) : Json :=
  .obj [("cmd", .str "configure"), ("config", .obj [("dataset", .obj [("type", .str type)])])]

/-- The listening session while its WebSocket thread runs a handler. -/
def wsHandling (status : Status) : Session Unit ℕ :=
  { listening "flight.csv" with
    status
    wsServer := some { id := 3, config := {}, running := true, joinable := true, mu := some .ws } }

/-- `configure_allOrNothing_iff` at a configuration that is not an object. -/
theorem configure_rejected :
    WsAllOrNothing plainEnv (wsHandling .configured)
      (.obj [("cmd", .str "configure"), ("config", .null)]) :=
  ((configure_allOrNothing_iff plainEnv (wsHandling .configured) _ rfl rfl).2
    ⟨_, rfl, rfl, rfl⟩).mpr (.inl ⟨_, rfl⟩)

/-- A running session answers `configured` and stays as it is; a configured one answers an
    unknown dataset type with an error after its configuration and its navigation system were
    replaced. -/
theorem configure_not_allOrNothing :
    (WsDispatching (wsHandling .running) ∧
      Program.run (handleWsCommand plainEnv (configureCommand "csv")) (wsHandling .running)
        = .ok configuredReply (wsHandling .running)) ∧
    (WsDispatching (wsHandling .configured) ∧
      ∃ t, Program.run (handleWsCommand plainEnv (configureCommand "rosbag"))
          (wsHandling .configured)
        = .ok (errorEvent "configure failed: Unknown dataset type: rosbag") t ∧
        t.cfg.dataset.type = "rosbag" ∧ t.datasetReader.path = "flight.csv" ∧
        t.navSystem ≠ (wsHandling .configured).navSystem) ∧
    ¬ WsAllOrNothing plainEnv (wsHandling .running) (configureCommand "csv") ∧
    ¬ WsAllOrNothing plainEnv (wsHandling .configured) (configureCommand "rosbag") := by
  have hws : ∀ st, WsDispatching (wsHandling st) := fun _ => ⟨_, rfl, rfl, rfl⟩
  have hparsed : ∀ type, parsedConfig plainEnv ((configureCommand type).get "config")
      = .ok { nav := { sensors := () }, dataset := { type } } := fun _ => rfl
  refine ⟨⟨hws _, ?_⟩, ⟨hws _, ?_⟩, fun h => ?_, fun h => ?_⟩
  · rw [run_handleWsCommand_configure _ _ rfl rfl, run_wsConfigure_ok (hparsed _),
      run_reconfigure_refused (.inl rfl)]
  · refine ⟨withNavSystem (wsHandling .configured)
      { nav := { sensors := () }, dataset := { type := "rosbag" } }, ?_, rfl, rfl, by decide⟩
    rw [run_handleWsCommand_configure _ _ rfl rfl, run_wsConfigure_ok (hparsed _),
      run_reconfigure_unknownDataset (by decide) rfl (by decide)]
    rfl
  · rcases (wsAllOrNothing_iff _ rfl rfl (hws _)).mp h with ⟨_, hp⟩ | ⟨-, hst, -⟩
    · rw [hparsed] at hp
      cases hp
    · exact hst rfl
  · rcases (wsAllOrNothing_iff _ rfl rfl (hws _)).mp h with ⟨_, hp⟩ | ⟨-, -, -, _, hb⟩
    · rw [hparsed] at hp
      cases hp
    · cases hb

end Session

end FalconGuide
