import FalconGuide.App.Session
import FalconGuide.Lib.TransitionSystem

namespace FalconGuide

open Lib

/-!
# Command lines on the IPC thread

`IpcServer::ServerLoop` calls `HandleData`, and through it the session's command handler, while
it holds `clients_mutex_`; `Broadcast` and the destructor of the server take that mutex again.

* `Session.handleData` — one line;
* `Session.Quiet` — the lines whose handling broadcasts nothing;
* `Session.handleData_of_quiet` / `Session.stuck_handleData` — these are the lines that are
  handled to completion;
* `ServerLoop` — the loop, over any number of clients and with the other threads at work.
-/

namespace Session

variable {Ω M : Type}

/-- `HandleData`: any exception is answered with an error to the client. -/
def handleData (env : Environment Ω M) (fd : ℕ) (line : String) : Program (Session Ω M) PUnit := do
  if line = "" then return
  Program.tryCatch
    (do
      match env.parseJson line with
      | none => throw (.exception "parse error")
      | some cmd => handleCommand env cmd)
    fun _ => modify fun s => { s with written := s.written ++ [(fd, errorEvent "invalid JSON")] }

/-- A command the handler completes without broadcasting. -/
def QuietCommand (s : Session Ω M) (cmd : Json) (verb : String) : Prop :=
  verb = "set_speed" ∨
  (verb = "start" ∧ (s.status = .running ∨ s.status = .paused ∨ s.status = .error)) ∨
  (verb = "stop" ∧ s.running = false) ∨
  (verb = "pause" ∧ s.status ≠ .running) ∨
  (verb = "resume" ∧ s.status ≠ .paused) ∨
  (verb = "configure" ∧ cmd.contains "config" = false)

/-- A line that is empty, is not JSON, has no command of type string where one is expected, or
    holds a quiet command. -/
def Quiet (env : Environment Ω M) (s : Session Ω M) (line : String) : Prop :=
  line = "" ∨ ∀ cmd, env.parseJson line = some cmd →
    ∀ verb, cmd.valueString "cmd" "" = .ok verb → QuietCommand s cmd verb

/-- The IPC thread is inside a command handler. -/
structure Dispatching (s : Session Ω M) : Prop where
  /-- It holds `clients_mutex_`. -/
  holds : s.ipcServer.clientsMutex = some .ipc
  /-- It has not been joined. -/
  joinable : s.ipcServer.joinable = true

theorem Dispatching.of_ipcServer {s t : Session Ω M} (h : Dispatching s)
    (heq : t.ipcServer = s.ipcServer) : Dispatching t :=
  ⟨heq ▸ h.holds, heq ▸ h.joinable⟩

/-! ### What a broadcast on the IPC thread does -/

theorem stuck_onIpc_lock : Program.Stuck (Dispatching (Ω := Ω) (M := M))
    (onIpc (IpcServer.lockClients .ipc)) := by
  intro s hs
  simp [onIpc, IpcServer.lockClients, Program.run_zoom, Program.run_bind, hs.holds]

theorem stuck_broadcast (event : Json) :
    Program.Stuck (Dispatching (Ω := Ω) (M := M)) (broadcast .ipc event) :=
  Program.Stuck.bind_left stuck_onIpc_lock

theorem stuck_broadcastStatus (status : String) (n : ℕ) :
    Program.Stuck (Dispatching (Ω := Ω) (M := M)) (broadcastStatus .ipc status n) :=
  stuck_broadcast _

/-- A state change outside the IPC server. -/
theorem ensures_modify_dispatching {g : Session Ω M → Session Ω M} {E : String → Session Ω M → Prop}
    (hg : ∀ s, (g s).ipcServer = s.ipcServer) :
    Program.Ensures Dispatching (modify g) (fun _ => Dispatching) E :=
  Program.ensures_modify fun s hs => hs.of_ipcServer (hg s)

/-- Setting a status without an error text broadcasts nothing. -/
theorem ensures_setStatus (t : Thread) (st : Status) {E : String → Session Ω M → Prop} :
    Program.Ensures Dispatching (setStatus t st "") (fun _ => Dispatching) E := by
  unfold setStatus
  refine Program.Ensures.bind (ensures_modify_dispatching fun _ => rfl) fun _ => ?_
  exact Program.ensures_pure fun _ h => h

theorem stuck_setStatus_error {error : String} (h : error ≠ "") :
    Program.Stuck (Dispatching (Ω := Ω) (M := M)) (setStatus .ipc .error error) := by
  unfold setStatus
  refine Program.Stuck.bind (ensures_modify_dispatching fun _ => rfl) fun _ => ?_
  rw [if_pos h]
  exact Program.Stuck.bind (ensures_modify_dispatching fun _ => rfl) fun _ => stuck_broadcast _

/-! ### The calls that broadcast -/

/-- Starting the IPC server from its own thread changes neither the mutex nor the thread. -/
theorem ensures_ipcServer_start (binds : IpcConfig → Bool) :
    Program.Ensures Dispatching (onIpc (IpcServer.start binds) : Program (Session Ω M) Bool)
      (fun _ => Dispatching) (fun _ _ => False) := by
  intro s hs
  rcases hr : s.ipcServer.running <;> rcases hb : binds s.ipcServer.config <;>
    simp [onIpc, IpcServer.start, Program.run_zoom, Program.run_bind, hr, hb, hs.joinable] <;>
    exact hs

/-- Starting the WebSocket server does not touch the IPC server. -/
theorem ensures_onWs (m : Program WsServer PUnit) :
    Program.Ensures Dispatching (onWs m : Program (Session Ω M) PUnit) (fun _ => Dispatching)
      (fun _ => Dispatching) := by
  refine Program.Ensures.bind_get fun s hs => ?_
  cases s.wsServer with
  | none => exact Program.ensures_pure fun t ht => ht ▸ hs
  | some w =>
    refine Program.Ensures.zoom (p := fun _ => True) (q := fun _ _ => True) (e := fun _ _ => True)
      (m := m) ?_ (fun _ _ => trivial) ?_ ?_
    · intro v _
      split <;> trivial
    · rintro t rfl _ _ _
      exact hs.of_ipcServer rfl
    · rintro t rfl _ _ _
      exact hs.of_ipcServer rfl

/-- Opening the dataset broadcasts when it fails. -/
theorem ensures_openDataset (env : Environment Ω M) :
    Program.Ensures Dispatching (openDataset env .ipc)
      (fun isOpen s => isOpen = true ∧ Dispatching s) (fun _ _ => False) := by
  unfold openDataset
  refine Program.Ensures.bind_get fun s hs => ?_
  obtain ⟨reader, isOpen⟩ := s.datasetReader.openFile env
  refine Program.Ensures.bind (Q := fun _ => Dispatching)
    (Program.ensures_modify fun t ht => (ht ▸ hs : Dispatching t).of_ipcServer rfl) fun _ => ?_
  cases isOpen with
  | false =>
    exact (Program.Stuck.bind_left (stuck_setStatus_error (by simp))).mono (fun _ h => h)
      (fun _ _ h => h.elim) (fun _ _ h => h)
  | true => exact Program.ensures_pure fun _ h => ⟨rfl, h⟩

/-- Starting servers and pipeline changes neither the mutex nor the thread. -/
theorem ensures_startServers (env : Environment Ω M) :
    Program.Ensures Dispatching (startServers env) (fun _ => Dispatching) (fun _ _ => False) := by
  unfold startServers
  refine Program.Ensures.bind (ensures_ipcServer_start env.ipcBinds) fun _ => ?_
  refine Program.Ensures.bind
    (Program.Ensures.tryCatch (ensures_onWs _) fun _ => Program.ensures_pure fun _ h => h)
    fun _ => ?_
  exact ensures_modify_dispatching fun _ => rfl

/-- A `Start` that gets past the status check broadcasts, whether or not the dataset opens. -/
theorem stuck_startNow (env : Environment Ω M) :
    Program.Stuck Dispatching (startNow env .ipc) := by
  unfold startNow
  refine Program.Stuck.bind (ensures_openDataset env) fun isOpen => ?_
  cases isOpen with
  | false => exact fun _ h => absurd h.1 (by simp)
  | true =>
    refine Program.Ensures.mono (P := Dispatching) ?_ (fun _ h => h.2) (fun _ _ h => h)
      (fun _ _ h => h)
    refine Program.Stuck.bind (ensures_startServers env) fun _ => ?_
    refine Program.Stuck.bind (ensures_setStatus _ _) fun _ => ?_
    exact Program.Stuck.bind_left (stuck_broadcastStatus _ _)

/-- A `Stop` that gets past the exchange broadcasts. -/
theorem stuck_stopRest : Program.Stuck (Dispatching (Ω := Ω) (M := M)) (stopRest .ipc) := by
  unfold stopRest
  refine Program.Stuck.bind (ensures_modify_dispatching fun _ => rfl) fun _ => ?_
  exact Program.Stuck.bind_left (stuck_broadcastStatus _ _)

theorem stuck_pauseStore : Program.Stuck (Dispatching (Ω := Ω) (M := M)) (pauseStore .ipc) := by
  unfold pauseStore
  refine Program.Stuck.bind (ensures_setStatus _ _) fun _ => ?_
  exact Program.Ensures.bind_get fun s hs =>
    (stuck_broadcastStatus _ _).mono (fun t ht => ht ▸ hs) (fun _ _ h => h) (fun _ _ h => h)

theorem stuck_resumeStore : Program.Stuck (Dispatching (Ω := Ω) (M := M)) (resumeStore .ipc) := by
  unfold resumeStore
  refine Program.Stuck.bind (ensures_setStatus _ _) fun _ => ?_
  exact Program.Ensures.bind_get fun s hs =>
    (stuck_broadcastStatus _ _).mono (fun t ht => ht ▸ hs) (fun _ _ h => h) (fun _ _ h => h)

/-- The destructor of the IPC server does not return on the server's own thread. -/
theorem not_returns_destructor {v : IpcServer} (hheld : v.clientsMutex = some .ipc)
    (hj : v.joinable = true) : ¬ Program.Returns (IpcServer.destructor .ipc) v := by
  rintro ⟨_, t, hr⟩
  rcases hrun : v.running <;>
    simp [IpcServer.destructor, IpcServer.stop, IpcServer.lockClients, Program.run_bind, hrun,
      hheld, hj] at hr

/-- On the IPC thread `Reconfigure` refuses, or throws, or ends in the destructor of the
    server that runs it. -/
theorem ensures_reconfigure (env : Environment Ω M) (cfg : SessionConfig Ω) :
    Program.Ensures Dispatching (reconfigure env .ipc cfg) (fun _ => Dispatching)
      (fun _ => Dispatching) := by
  unfold reconfigure
  refine Program.Ensures.bind_get fun s hs => ?_
  split
  · exact Program.ensures_pure fun t ht => ht ▸ hs
  · refine Program.Ensures.bind (Q := fun _ => Dispatching)
      (Program.ensures_modify fun t ht => (ht ▸ hs : Dispatching t).of_ipcServer rfl) fun _ => ?_
    refine Program.Ensures.bind (Q := fun _ => Dispatching) ?_ fun _ => ?_
    · refine Program.Ensures.bind_get fun t ht => ?_
      rcases NavigationSystem.make env t.nextId t.cfg.nav with e | nav
      · intro u hu
        cases e <;> first | trivial | exact hu ▸ ht
      · exact Program.ensures_modify fun u hu => (hu ▸ ht : Dispatching u).of_ipcServer rfl
    refine Program.Ensures.bind (ensures_modify_dispatching fun _ => rfl) fun _ => ?_
    refine Program.Ensures.bind (Q := fun _ => Dispatching) ?_ fun _ => ?_
    · refine Program.Ensures.bind_get fun t ht => ?_
      rcases CsvDatasetReader.make (M := M) t.nextId t.cfg.dataset with e | reader
      · intro u hu
        cases e <;> first | trivial | exact hu ▸ ht
      · exact Program.ensures_modify fun u hu => (hu ▸ ht : Dispatching u).of_ipcServer rfl
    refine (Program.Stuck.bind_left ?_).mono (fun _ h => h) (fun _ _ h => h.elim)
      (fun _ _ h => h.elim)
    -- the server that is replaced is the one whose thread this is
    refine Program.Ensures.bind_get fun t ht => ?_
    refine Program.Stuck.bind (Q := fun _ _ => True) (Program.ensures_modify fun _ _ => trivial)
      fun _ => ?_
    exact Program.stuck_destroy (not_returns_destructor ht.holds ht.joinable)

/-! ### The command handler -/

theorem run_orThrow_ok {α : Type} {r : Except String α} {a : α} (h : r = .ok a)
    (s : Session Ω M) : Program.run (orThrow r) s = .ok a s := by
  rw [h]
  rfl

/-- A command that is not quiet never gets through the handler. -/
theorem stuck_handleCommand (env : Environment Ω M) {s : Session Ω M} {cmd : Json}
    {verb : String} (hs : Dispatching s) (hverb : cmd.valueString "cmd" "" = .ok verb)
    (hq : ¬ QuietCommand s cmd verb) : Program.Stuck (· = s) (handleCommand env cmd) := by
  have hmono : ∀ {α : Type} {m : Program (Session Ω M) α},
      Program.Stuck Dispatching m → Program.Stuck (· = s) m :=
    fun h => h.mono (fun t ht => ht ▸ hs) (fun _ _ h => h) (fun _ _ h => h)
  unfold handleCommand
  rw [hverb]
  refine Program.Stuck.bind (Q := fun v t => v = verb ∧ t = s)
    (Program.ensures_pure fun t ht => ⟨rfl, ht⟩) fun v => ?_
  -- the verb is read first, and the state is still `s`
  by_cases hv : v = verb
  swap
  · exact fun t ht => absurd ht.1 hv
  subst hv
  refine Program.Ensures.mono (P := (· = s)) ?_ (fun t ht => ht.2) (fun _ _ h => h)
    (fun _ _ h => h)
  -- not quiet: whatever branch is taken ends in a broadcast or a status write
  simp only [QuietCommand, not_or, not_and] at hq
  obtain ⟨hspeed, hstart, hstop, hpause, hresume, hconfig⟩ := hq
  by_cases h1 : v = "start"
  · rw [if_pos h1]
    -- a start that is not refused takes the lock again
    refine Program.Stuck.bind_left (Program.Ensures.bind_get fun t ht => ?_)
    subst ht
    have hst := hstart h1
    cases hstatus : t.status with
    | running => exact absurd hstatus hst.1
    | paused => exact absurd hstatus hst.2.1
    | error => exact absurd hstatus hst.2.2
    | idle => exact hmono (stuck_startNow env)
    | configured => exact hmono (stuck_startNow env)
    | completed => exact hmono (stuck_startNow env)
  rw [if_neg h1]
  by_cases h2 : v = "stop"
  · rw [if_pos h2]
    refine Program.Ensures.bind_get fun t ht => ?_
    subst ht
    rw [if_neg (by simpa using hstop h2)]
    exact hmono (Program.Stuck.bind (ensures_modify_dispatching fun _ => rfl)
      fun _ => stuck_stopRest)
  rw [if_neg h2]
  by_cases h3 : v = "pause"
  · rw [if_pos h3]
    refine Program.Ensures.bind_get fun t ht => ?_
    subst ht
    rw [if_neg (hpause h3)]
    exact hmono (Program.Stuck.bind (ensures_modify_dispatching fun _ => rfl)
      fun _ => stuck_pauseStore)
  rw [if_neg h3]
  by_cases h4 : v = "resume"
  · rw [if_pos h4]
    refine Program.Ensures.bind_get fun t ht => ?_
    subst ht
    rw [if_neg (hresume h4)]
    exact hmono (Program.Stuck.bind (ensures_modify_dispatching fun _ => rfl)
      fun _ => stuck_resumeStore)
  rw [if_neg h4]
  by_cases h5 : v = "get_status"
  · rw [if_pos h5]
    refine Program.Ensures.bind_get fun t ht => ?_
    subst ht
    exact hmono (stuck_broadcastStatus _ _)
  rw [if_neg h5]
  by_cases h6 : v = "get_schema"
  · rw [if_pos h6]
    exact hmono (stuck_broadcast _)
  rw [if_neg h6, if_neg hspeed]
  by_cases h8 : v = "configure"
  · rw [if_pos h8]
    -- the `catch` broadcasts as well, so it does not help
    have h9 : cmd.contains "config" = true := by simpa using hconfig h8
    rw [if_pos h9]
    refine hmono (Program.Ensures.tryCatch (F := fun _ => Dispatching) ?_
      fun _ => stuck_broadcast _)
    refine Program.Ensures.bind (Q := fun _ => Dispatching) ?_ fun cfg => ?_
    · intro t ht
      cases SessionConfig.fromJson env.navDefault env.navFromJson (cmd.get "config") <;> exact ht
    · exact Program.Ensures.bind (ensures_reconfigure env cfg) fun _ =>
        (stuck_broadcastStatus _ _).mono (fun _ h => h) (fun _ _ h => h) (fun _ _ h => h.elim)
  · rw [if_neg h8]
    exact hmono (stuck_broadcast _)

/-- A quiet command neither broadcasts nor blocks: it returns or throws, with the IPC server
    as it was. -/
theorem quiet_handleCommand (env : Environment Ω M) {s : Session Ω M} {cmd : Json}
    {verb : String} (hverb : cmd.valueString "cmd" "" = .ok verb)
    (hq : QuietCommand s cmd verb) :
    ∃ t, t.ipcServer = s.ipcServer ∧
      (Program.run (handleCommand env cmd) s = .ok ⟨⟩ t ∨
        ∃ what, Program.run (handleCommand env cmd) s = .error (.exception what) t) := by
  unfold handleCommand
  rw [Program.run_bind, run_orThrow_ok hverb]
  rcases hq with rfl | ⟨rfl, hst⟩ | ⟨rfl, hrun⟩ | ⟨rfl, hst⟩ | ⟨rfl, hst⟩ | ⟨rfl, hc⟩
  · simp only [String.reduceEq, if_false, if_true]
    unfold setSpeed
    rw [Program.run_bind_ok (Program.run_get s), Program.run_bind]
    rcases cmd.valueDouble "speed" s.cfg.playbackSpeed with what | speed
    · exact ⟨s, rfl, .inr ⟨what, rfl⟩⟩
    · exact ⟨{ s with cfg := { s.cfg with playbackSpeed := speed } }, rfl, .inl rfl⟩
  · refine ⟨s, rfl, .inl ?_⟩
    rcases hst with h | h | h <;> simp [start, Program.run_bind, h]
  · exact ⟨s, rfl, .inl (by simp [stop, Program.run_bind, hrun])⟩
  · exact ⟨s, rfl, .inl (by simp [pause, Program.run_bind, hst])⟩
  · exact ⟨s, rfl, .inl (by simp [resume, Program.run_bind, hst])⟩
  · exact ⟨s, rfl, .inl (by simp [hc])⟩

/-! ### One line -/

/-- A quiet line is handled to completion and leaves the IPC server alone. -/
theorem handleData_of_quiet (env : Environment Ω M) {s : Session Ω M} (fd : ℕ) {line : String}
    (hq : Quiet env s line) :
    ∃ t, Program.run (handleData env fd line) s = .ok ⟨⟩ t ∧ t.ipcServer = s.ipcServer := by
  unfold handleData
  rcases hq with rfl | hq
  · exact ⟨s, rfl, rfl⟩
  by_cases hline : line = ""
  · exact ⟨s, by rw [if_pos hline]; rfl, rfl⟩
  rw [if_neg hline, Program.run_tryCatch]
  cases hp : env.parseJson line with
  | none => exact ⟨_, rfl, rfl⟩
  | some cmd =>
    cases hv : cmd.valueString "cmd" "" with
    | error what =>
      simp only [handleCommand, hv]
      exact ⟨_, rfl, rfl⟩
    | ok verb =>
      obtain ⟨t, ht, hok | ⟨what, hthrow⟩⟩ := quiet_handleCommand env hv (hq cmd hp verb hv)
      · simp only [hok]
        exact ⟨t, rfl, ht⟩
      · simp only [hthrow]
        exact ⟨_, rfl, ht⟩

/-- A line that is not quiet is never handled to completion. -/
theorem not_returns_handleData (env : Environment Ω M) {s : Session Ω M} (fd : ℕ)
    {line : String} (hs : Dispatching s) (hq : ¬ Quiet env s line) :
    ¬ Program.Returns (handleData env fd line) s := by
  simp only [Quiet, not_or, not_forall] at hq
  obtain ⟨hline, cmd, hp, verb, hv, hq⟩ := hq
  have hstuck : Program.Stuck (· = s) (handleData env fd line) := by
    unfold handleData
    rw [if_neg hline, hp]
    exact Program.Ensures.tryCatch (stuck_handleCommand env hs hv hq) fun _ _ h => h.elim
  exact hstuck.not_returns rfl

end Session

/-! ### The server loop -/

/-- `IpcServer::ServerLoop`: the session it dispatches to, its line buffers, and what is left of
    the section in which it reads from the clients. -/
structure ServerLoop (Ω M : Type) where
  session : Session Ω M
  /-- In the section that reads from the clients, which holds `clients_mutex_`. -/
  inSection : Bool := false
  buffers : ℕ → List Char := fun _ => []
  /-- The complete lines of the client that was read last. -/
  todo : List (ℕ × String) := []
  /-- Why the thread will not go on, if it will not. -/
  failed : Option Failure := none

namespace ServerLoop

variable {Ω M : Type}

/-- The lines that `'\n'` terminates, and what follows the last of them; `acc` is the current
    line backwards. -/
def splitLines (acc : List Char) : List Char → List String × List Char
  | [] => ([], acc.reverse)
  | c :: cs =>
    if c = '\n' then
      (String.ofList acc.reverse :: (splitLines [] cs).1, (splitLines [] cs).2)
    else splitLines (c :: acc) cs

/-- What the IPC thread, and the others, can do. -/
inductive Action (Ω M : Type)
  /-- A section that only touches `clients_`: collecting the descriptors, accepting. -/
  | clients
  /-- `RemoveClient` and the erasure of the buffer. -/
  | remove (fd : ℕ)
  | enter
  /-- `read` on a client that is ready. -/
  | read (fd : ℕ) (bytes : List Char)
  /-- `HandleData` on the next line. -/
  | line (env : Environment Ω M)
  | leave
  /-- Another thread changes the session. -/
  | other

/-- The loop after the IPC thread has run `m`, with `next` on a normal return. -/
def after (l : ServerLoop Ω M) (m : Program (Session Ω M) PUnit)
    (next : Session Ω M → ServerLoop Ω M) : ServerLoop Ω M :=
  match m.run l.session with
  | .ok _ t => next t
  | .error e t => { l with session := t, failed := some e }

/-- One step; a thread that failed makes no more. -/
inductive Step : ServerLoop Ω M → Action Ω M → ServerLoop Ω M → Prop
  | clients (l) (hf : l.failed = none) (hs : l.inSection = false) :
      Step l .clients
        (l.after (Session.onIpc (IpcServer.lockClients .ipc)) fun t => { l with session := t })
  | remove (l) (fd : ℕ) (hf : l.failed = none) (hs : l.inSection = false) :
      Step l (.remove fd)
        (l.after (Session.onIpc (IpcServer.lockClients .ipc)) fun t =>
          { l with session := t, buffers := Function.update l.buffers fd [] })
  | enter (l) (hf : l.failed = none) (hs : l.inSection = false) :
      Step l .enter
        (l.after (Session.onIpc (IpcServer.lockClients .ipc)) fun t =>
          { l with
            session := { t with ipcServer := { t.ipcServer with clientsMutex := some .ipc } }
            inSection := true })
  | read (l) (fd : ℕ) (bytes : List Char) (hf : l.failed = none) (hs : l.inSection = true)
      (ht : l.todo = []) :
      Step l (.read fd bytes)
        { l with
          todo := (splitLines [] (l.buffers fd ++ bytes)).1.map (fd, ·)
          buffers := Function.update l.buffers fd (splitLines [] (l.buffers fd ++ bytes)).2 }
  | line (l) (env : Environment Ω M) (fd : ℕ) (text : String) (rest : List (ℕ × String))
      (hf : l.failed = none) (hs : l.inSection = true) (ht : l.todo = (fd, text) :: rest) :
      Step l (.line env)
        (l.after (Session.handleData env fd text) fun t => { l with session := t, todo := rest })
  | leave (l) (hf : l.failed = none) (hs : l.inSection = true) (ht : l.todo = []) :
      Step l .leave
        { l with
          session := { l.session with
            ipcServer := { l.session.ipcServer with clientsMutex := none } }
          inSection := false }
  /-- The other threads neither take the mutex from the IPC thread nor join it. -/
  | other (l) (t : Session Ω M)
      (hm : t.ipcServer.clientsMutex = l.session.ipcServer.clientsMutex)
      (hj : t.ipcServer.joinable = l.session.ipcServer.joinable) :
      Step l .other { l with session := t }

/-- The loop with the other threads, from a session whose IPC server was started. -/
def system (Ω M : Type) : System (ServerLoop Ω M) (Action Ω M) where
  init l := l.failed = none ∧ l.inSection = false ∧ l.todo = [] ∧
    l.session.ipcServer.clientsMutex = none ∧ l.session.ipcServer.joinable = true
  step := Step

/-- Every line that is handled is quiet when its turn comes. -/
def QuietLine (l : ServerLoop Ω M) : Action Ω M → Prop
  | .line env => ∀ fd text rest, l.todo = (fd, text) :: rest → Session.Quiet env l.session text
  | _ => True

/-- The mutex is held exactly in the reading section, and the thread has not failed. -/
structure Inv (l : ServerLoop Ω M) : Prop where
  failed : l.failed = none
  joinable : l.session.ipcServer.joinable = true
  mutex : l.session.ipcServer.clientsMutex = if l.inSection then some .ipc else none

/-- Outside the reading section the mutex can be locked. -/
theorem after_lockClients {l : ServerLoop Ω M} (h : Inv l) (hs : l.inSection = false)
    (next : Session Ω M → ServerLoop Ω M) :
    l.after (Session.onIpc (IpcServer.lockClients .ipc)) next = next l.session := by
  have hm := h.mutex
  rw [hs] at hm
  simp only [after, Session.onIpc, Program.run_zoom]
  simp [IpcServer.lockClients, Program.run_bind, hm]

/-- One step of a quiet run keeps the invariant. -/
theorem Inv.step {l k : ServerLoop Ω M} {a : Action Ω M} (h : Inv l) (hq : QuietLine l a)
    (hst : Step l a k) : Inv k := by
  cases hst with
  | clients hf hs =>
    rw [after_lockClients h hs]
    exact ⟨h.failed, h.joinable, h.mutex⟩
  | remove fd hf hs =>
    rw [after_lockClients h hs]
    exact ⟨h.failed, h.joinable, h.mutex⟩
  | enter hf hs =>
    rw [after_lockClients h hs]
    exact ⟨h.failed, h.joinable, rfl⟩
  | read fd bytes hf hs ht => exact ⟨h.failed, h.joinable, h.mutex⟩
  | line env fd text rest hf hs ht =>
    obtain ⟨t, hrun, hipc⟩ := Session.handleData_of_quiet env fd (hq fd text rest ht)
    rw [after, hrun]
    exact ⟨h.failed, hipc ▸ h.joinable, hipc ▸ h.mutex⟩
  | leave hf hs ht => exact ⟨h.failed, h.joinable, rfl⟩
  | other t hm hj => exact ⟨h.failed, hj ▸ h.joinable, hm ▸ h.mutex⟩

/-- **Command lines.** While the IPC thread dispatches, a line is handled to completion exactly
    when it is quiet.  Hence, whatever the clients send and the other threads do, the IPC thread
    of a run whose lines are all quiet never locks a mutex it holds and never joins itself. -/
theorem loop_goes_on_iff_quiet (Ω M : Type) :
    (∀ (env : Environment Ω M) (s : Session Ω M) (fd : ℕ) (line : String), s.Dispatching →
      (Program.Returns (Session.handleData env fd line) s ↔ Session.Quiet env s line)) ∧
    ∀ l, ((system Ω M).guarded QuietLine).Reachable l → l.failed = none := by
  refine ⟨fun env s fd line hs => ⟨fun hr => ?_, fun hq => ?_⟩, fun l hl => ?_⟩
  · by_contra hq
    exact Session.not_returns_handleData env fd hs hq hr
  · obtain ⟨t, hrun, -⟩ := Session.handleData_of_quiet env fd hq
    exact ⟨⟨⟩, t, hrun⟩
  · have hinv : Inv l := by
      refine hl.invariant ?_ (fun _ _ _ _ hk hst => hk.step hst.1 hst.2)
      rintro k ⟨hf, hs, -, hm, hj⟩
      exact ⟨hf, hj, by rw [hs, hm]; rfl⟩
    exact hinv.failed

/-- The line `get_status` of the protocol. -/
def statusLine : String := "\x7b\"cmd\":\"get_status\"\x7d"

/-- The first `get_status` that a client of a listening server sends blocks the IPC thread for
    ever, on the mutex it holds. -/
theorem get_status_deadlocks :
    ∃ l : ServerLoop Unit ℕ, (system Unit ℕ).Reachable l ∧ l.failed = some .deadlock := by
  have hinit : (system Unit ℕ).Reachable { session := Session.listening "flight.csv" } :=
    .init ⟨rfl, rfl, rfl, rfl, rfl⟩
  have hread := (hinit.step (Step.enter _ rfl rfl)).step
    (Step.read _ 7 (statusLine.toList ++ ['\n']) rfl rfl rfl)
  have hline := hread.step (Step.line _ Session.plainEnv 7 statusLine [] rfl rfl rfl)
  refine ⟨_, hline, ?_⟩
  rw [after]
  rfl

/-- The line `pause` of the protocol. -/
def pauseLine : String := "\x7b\"cmd\":\"pause\"\x7d"

/-- `loop_goes_on_iff_quiet` at a `pause` while nothing is running, as one line and in a run in
    which it is read, after an empty line, and handled. -/
theorem loop_goes_on_examples :
    Program.Returns (Session.handleData Session.plainEnv 7 pauseLine)
      { Session.listening "flight.csv" with
        ipcServer := { id := 2, config := {}, running := true, joinable := true,
                       clientsMutex := some .ipc } } ∧
    ∃ l, ((system Unit ℕ).guarded QuietLine).Reachable l ∧ l.inSection = true ∧ l.todo = [] ∧
      l.buffers 7 = [] ∧ l.failed = none := by
  obtain ⟨hline, hrun⟩ := loop_goes_on_iff_quiet Unit ℕ
  have hpause : ∀ s : Session Unit ℕ, s.status ≠ .running →
      Session.Quiet Session.plainEnv s pauseLine := by
    intro s hs
    refine .inr fun cmd hcmd verb hverb => ?_
    cases hcmd
    cases hverb
    exact .inr (.inr (.inr (.inl ⟨rfl, hs⟩)))
  have hinit : ((system Unit ℕ).guarded QuietLine).Reachable
      { session := Session.listening "flight.csv" } := .init ⟨rfl, rfl, rfl, rfl, rfl⟩
  have hread := (hinit.guarded_step (Step.enter _ rfl rfl) trivial).guarded_step
    (Step.read _ 7 ('\n' :: pauseLine.toList ++ ['\n']) rfl rfl rfl) trivial
  have hempty := hread.guarded_step
    (Step.line _ Session.plainEnv 7 "" [(7, pauseLine)] rfl rfl rfl)
    (by rintro _ _ _ h; cases h; exact .inl rfl)
  have hdone := hempty.guarded_step (Step.line _ Session.plainEnv 7 pauseLine [] rfl rfl rfl)
    (by rintro _ _ _ h; cases h; exact hpause _ (by decide))
  exact ⟨(hline _ _ 7 pauseLine ⟨rfl, rfl⟩).mpr (hpause _ (by decide)), _, hdone, rfl, rfl, rfl,
    hrun _ hdone⟩

end ServerLoop

end FalconGuide
