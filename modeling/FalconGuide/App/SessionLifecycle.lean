import FalconGuide.App.SessionCalls

namespace FalconGuide

open Lib

/-!
# Lifecycle calls made one at a time

The main thread makes the public calls of a session in any order, one at a time, while the
replay loop reads the dataset and pushes it into the pipeline.

* `SessionRun` — the session, where the main thread is inside a call, and the history of the
  replay loops;
* `Session.StartOk` — the states in which a `Start` does what it is meant to;
* `SessionRun.Inv` — how status, flags, replay thread, reader and pipeline hang together while
  every `Start` is made in such a state;
* `SessionRun.start_delivers` — the main result.
-/

/-- The replay thread is between its creation and its return. -/
def ReplayThread.looping {M : Type} : ReplayThread M → Bool
  | .notJoinable => false
  | .returned => false
  | _ => true

/-- The measurement that was read and not yet pushed. -/
def ReplayThread.inHand {M : Type} : ReplayThread M → List M
  | .pushing m => [m]
  | _ => []

namespace Session

variable {Ω M : Type}

/-- The session after the replay thread has moved on to `rt`: it reads at `Next`, and it sets the
    status when the dataset has ended. -/
def replayed (s : Session Ω M) (rt : ReplayThread M) : Session Ω M :=
  match s.replayThread with
  | .reading => { s with replayThread := rt, datasetReader := s.datasetReader.next.1 }
  | .completing =>
    { s with
      replayThread := rt
      status := .completed
      broadcasts := s.broadcasts ++ [statusEvent "completed" s.datasetReader.count] }
  | _ => { s with replayThread := rt }

section Replayed

variable (s : Session Ω M) (rt : ReplayThread M)

/-- The replay thread touches neither `running_` nor the servers. -/
theorem replayed_frame : (s.replayed rt).replayThread = rt ∧
    (s.replayed rt).running = s.running ∧ (s.replayed rt).navSystem = s.navSystem ∧
    (s.replayed rt).ipcServer = s.ipcServer ∧ (s.replayed rt).wsServer = s.wsServer := by
  unfold replayed
  split
  · exact ⟨rfl, rfl, rfl, rfl, rfl⟩
  · exact ⟨rfl, rfl, rfl, rfl, rfl⟩
  · exact ⟨rfl, rfl, rfl, rfl, rfl⟩

@[simp] theorem replayed_replayThread : (s.replayed rt).replayThread = rt :=
  (replayed_frame s rt).1
@[simp] theorem replayed_running : (s.replayed rt).running = s.running :=
  (replayed_frame s rt).2.1
@[simp] theorem replayed_navSystem : (s.replayed rt).navSystem = s.navSystem :=
  (replayed_frame s rt).2.2.1
@[simp] theorem replayed_ipcServer : (s.replayed rt).ipcServer = s.ipcServer :=
  (replayed_frame s rt).2.2.2.1
@[simp] theorem replayed_wsServer : (s.replayed rt).wsServer = s.wsServer :=
  (replayed_frame s rt).2.2.2.2

end Replayed

/-- A `Start` here does nothing, or its dataset does not open, or there is no thread to join and
    the pipeline was never shut down. -/
def StartOk (env : Environment Ω M) (s : Session Ω M) : Prop :=
  (s.status = .running ∨ s.status = .paused ∨ s.status = .error) ∨
  (s.datasetReader.openFile env).2 = false ∨
  (s.replayThread = .notJoinable ∧ s.navSystem.pipeline.shutdown = false)

/-- A call moved the session to `Running`. -/
def Moved (s t : Session Ω M) : Prop :=
  t.status = .running ∧ s.status ≠ .running ∧ s.status ≠ .paused

instance (s t : Session Ω M) : Decidable (Moved s t) :=
  inferInstanceAs (Decidable (_ ∧ _ ∧ _))

/-- A `Start` here returns, and if it moves the session to `Running` then with the dataset read
    from its beginning and a pipeline that accepts measurements. -/
def StartDelivers (env : Environment Ω M) (s : Session Ω M) : Prop :=
  ∃ b t, Program.run (start env .main) s = .ok b t ∧
    (Moved s t → t.navSystem.pipeline.accepts = true ∧
      ∃ ms, env.contents s.datasetReader.path = some ms ∧ t.datasetReader.file = .opened ms)

end Session

/-- Where the main thread is inside a call. -/
inductive MainThread
  | idle
  /-- `Stop`, `running_` exchanged. -/
  | waking
  /-- `Stop`, at the join. -/
  | joining
  /-- `Pause`, status checked. -/
  | pausing
  /-- `Pause`, about to set the status. -/
  | pauseStoring
  /-- `Resume`, status checked. -/
  | resuming
  /-- `Resume`, about to set the status. -/
  | resumeStoring
  deriving DecidableEq

/-- The main thread has exchanged `running_` and not yet returned from `Stop`. -/
def MainThread.inStop : MainThread → Bool
  | .waking => true
  | .joining => true
  | _ => false

/-- A session under its public calls and its replay loop. -/
structure SessionRun (Ω M : Type) where
  session : Session Ω M
  main : MainThread := .idle
  /-- The process was terminated, or the main thread blocks for ever. -/
  failed : Option Failure := none
  /-- The replay loops that were spawned and have not returned. -/
  loops : ℕ := 0
  /-- The measurements in the dataset that the last `Start` opened. -/
  dataset : List M := []
  /-- The pushes since that `Start`, each with whether the pipeline was accepting. -/
  pushes : List (M × Bool) := []

namespace SessionRun

variable {Ω M : Type}

/-- What the main thread and the replay thread can do. -/
inductive Action (Ω M : Type)
  | start (env : Environment Ω M)
  | stop
  | wake
  | join
  | pause
  | pauseFlag
  | pauseStore
  | resume
  | resumeFlag
  | resumeStore
  | reconfigure (env : Environment Ω M) (cfg : SessionConfig Ω)
  | replay

/-- The run after the main thread has run `m`.  An exception is its caller's; it leaves the
    session as the call left it. -/
def after {α : Type} (l : SessionRun Ω M) (m : Program (Session Ω M) α)
    (next : Session Ω M → SessionRun Ω M) : SessionRun Ω M :=
  match Program.run m l.session with
  | .ok _ t => next t
  | .error (.exception _) t => next t
  | .error e t => { l with session := t, failed := some e }

/-- The run after a `Start` that left the session `t`. -/
def afterStart (l : SessionRun Ω M) (env : Environment Ω M) (t : Session Ω M) : SessionRun Ω M :=
  if Session.Moved l.session t then
    { l with
      session := t
      loops := l.loops + 1
      dataset := (env.contents l.session.datasetReader.path).getD []
      pushes := [] }
  else { l with session := t }

/-- The run after the replay thread has moved on to `rt`. -/
def afterReplay (l : SessionRun Ω M) (rt : ReplayThread M) : SessionRun Ω M :=
  { l with
    session := l.session.replayed rt
    loops := if rt.looping then l.loops else l.loops - 1
    pushes := l.pushes ++
      l.session.replayThread.inHand.map (·, l.session.navSystem.pipeline.accepts) }

/-- One step; a process that was terminated makes no more. -/
inductive Step : SessionRun Ω M → Action Ω M → SessionRun Ω M → Prop
  | start (l) (env : Environment Ω M) (hf : l.failed = none) (hm : l.main = .idle) :
      Step l (.start env) (l.after (Session.start env .main) (l.afterStart env))
  /-- `Stop` while `running_` is false returns at once. -/
  | stopRefused (l) (hf : l.failed = none) (hm : l.main = .idle)
      (hr : l.session.running = false) : Step l .stop l
  | stop (l) (hf : l.failed = none) (hm : l.main = .idle) (hr : l.session.running = true) :
      Step l .stop { l with session := { l.session with running := false }, main := .waking }
  | wake (l) (hf : l.failed = none) (hm : l.main = .waking) :
      Step l .wake { l with session := { l.session with paused := false }, main := .joining }
  /-- The join returns once the replay thread has. -/
  | join (l) (hf : l.failed = none) (hm : l.main = .joining)
      (hj : l.session.replayThread.looping = false) :
      Step l .join
        (l.after (Session.stopRest .main) fun t => { l with session := t, main := .idle })
  | pauseRefused (l) (hf : l.failed = none) (hm : l.main = .idle)
      (hs : l.session.status ≠ .running) : Step l .pause l
  | pause (l) (hf : l.failed = none) (hm : l.main = .idle) (hs : l.session.status = .running) :
      Step l .pause { l with main := .pausing }
  | pauseFlag (l) (hf : l.failed = none) (hm : l.main = .pausing) :
      Step l .pauseFlag
        { l with session := { l.session with paused := true }, main := .pauseStoring }
  | pauseStore (l) (hf : l.failed = none) (hm : l.main = .pauseStoring) :
      Step l .pauseStore
        (l.after (Session.pauseStore .main) fun t => { l with session := t, main := .idle })
  | resumeRefused (l) (hf : l.failed = none) (hm : l.main = .idle)
      (hs : l.session.status ≠ .paused) : Step l .resume l
  | resume (l) (hf : l.failed = none) (hm : l.main = .idle) (hs : l.session.status = .paused) :
      Step l .resume { l with main := .resuming }
  | resumeFlag (l) (hf : l.failed = none) (hm : l.main = .resuming) :
      Step l .resumeFlag
        { l with session := { l.session with paused := false }, main := .resumeStoring }
  | resumeStore (l) (hf : l.failed = none) (hm : l.main = .resumeStoring) :
      Step l .resumeStore
        (l.after (Session.resumeStore .main) fun t => { l with session := t, main := .idle })
  | reconfigure (l) (env : Environment Ω M) (cfg : SessionConfig Ω) (hf : l.failed = none)
      (hm : l.main = .idle) :
      Step l (.reconfigure env cfg)
        (l.after (Session.reconfigure env .main cfg) fun t => { l with session := t })
  /-- The replay thread, at any time. -/
  | replay (l) (rt : ReplayThread M) (hf : l.failed = none)
      (hn : l.session.replayThread.next l.session.running l.session.paused
        l.session.datasetReader.next.2 = some rt) :
      Step l .replay (l.afterReplay rt)

/-- A session as constructed, with the calls and the replay loop to come. -/
def system (Ω M : Type) : System (SessionRun Ω M) (Action Ω M) where
  init l := ∃ env cfg s, Session.make env cfg = .ok s ∧ l = { session := s }
  step := Step

/-- Every `Start` is made in a state in which it does what it is meant to. -/
def StartsOk (l : SessionRun Ω M) : Action Ω M → Prop
  | .start env => l.session.StartOk env
  | _ => True

/-! ### The invariant -/

/-- What is left of the dataset while a replay loop runs: the pushed measurements, the one in
    hand and the unread ones are the dataset, and the loop ends by itself only when nothing is
    left. -/
structure Reading (l : SessionRun Ω M) (rest : List M) : Prop where
  file : l.session.datasetReader.file = .opened rest
  dataset : l.pushes.map (·.1) ++ l.session.replayThread.inHand ++ rest = l.dataset
  ending : l.session.replayThread = .ending → l.session.running = true → rest = []
  completing : l.session.replayThread = .completing → rest = []

/-- How the parts of the session hang together while every `Start` is well placed. -/
structure Inv (l : SessionRun Ω M) : Prop where
  failed : l.failed = none
  servers : l.session.ServersFree
  inStop : l.main.inStop = true → l.session.running = false
  joinable : l.main.inStop = false →
    (l.session.running = true ↔ l.session.replayThread.joinable = true)
  closed : l.session.replayThread = .notJoinable → l.session.datasetReader.file = .closed
  /-- While the loop runs the session is running or paused, and its pipeline accepts. -/
  looping : l.session.replayThread.looping = true →
    (l.session.status = .running ∨ l.session.status = .paused) ∧
      l.session.navSystem.pipeline.accepts = true ∧ ∃ rest, Reading l rest
  loops : l.loops = if l.session.replayThread.looping then 1 else 0
  accepted : ∀ p ∈ l.pushes, p.2 = true
  prefix_dataset : l.pushes.map (·.1) <+: l.dataset

variable {l : SessionRun Ω M}

theorem after_ok {α : Type} {m : Program (Session Ω M) α} {next : Session Ω M → SessionRun Ω M}
    {b : α} {t : Session Ω M} (h : Program.run m l.session = .ok b t) :
    l.after m next = next t := by
  rw [after, h]

theorem after_exception {α : Type} {m : Program (Session Ω M) α}
    {next : Session Ω M → SessionRun Ω M} {what : String} {t : Session Ω M}
    (h : Program.run m l.session = .error (.exception what) t) : l.after m next = next t := by
  rw [after, h]

/-- A session that is neither running nor paused has no replay loop. -/
theorem Inv.not_looping (h : Inv l)
    (hst : ¬ (l.session.status = .running ∨ l.session.status = .paused)) :
    l.session.replayThread.looping = false := by
  by_contra hl
  exact hst (h.looping (by simpa using hl)).1

/-- A change that no replay loop can see keeps the invariant. -/
theorem Inv.quiet {t : Session Ω M} (h : Inv l)
    (hl : l.session.replayThread.looping = false) (hfree : t.ServersFree)
    (hrun : t.running = l.session.running) (hrt : t.replayThread = l.session.replayThread)
    (hfile : l.session.datasetReader.file = .closed → t.datasetReader.file = .closed) :
    Inv { l with session := t } where
  failed := h.failed
  servers := hfree
  inStop hs := hrun ▸ h.inStop hs
  joinable hs := by
    show t.running = true ↔ t.replayThread.joinable = true
    rw [hrun, hrt]
    exact h.joinable hs
  closed hj := hfile (h.closed (hrt ▸ hj))
  looping hl' := by
    change t.replayThread.looping = true at hl'
    rw [hrt, hl] at hl'
    cases hl'
  loops := by
    show l.loops = if t.replayThread.looping then 1 else 0
    rw [hrt]
    exact h.loops
  accepted := h.accepted
  prefix_dataset := h.prefix_dataset

/-- A well placed `Start`. -/
theorem Inv.start (h : Inv l) {env : Environment Ω M} (hm : l.main = .idle)
    (hok : l.session.StartOk env) :
    Inv (l.after (Session.start env .main) (l.afterStart env)) := by
  by_cases hst : l.session.status = .running ∨ l.session.status = .paused ∨
    l.session.status = .error
  · obtain ⟨b, hr⟩ := Session.run_start_refused env .main hst
    rw [after_ok hr, afterStart, if_neg (fun hmoved => hmoved.2.1 hmoved.1)]
    exact h
  -- neither running nor paused: the last replay loop is over
  have hl : l.session.replayThread.looping = false :=
    h.not_looping fun hs => hst (hs.elim .inl fun hp => .inr (.inl hp))
  by_cases ho : (l.session.datasetReader.openFile env).2 = true
  -- the precondition, on a start that gets to the spawn
  · obtain ⟨hj, hshut⟩ : l.session.replayThread = .notJoinable ∧
        l.session.navSystem.pipeline.shutdown = false := by
      rcases hok with hs | hf | hok
      · exact absurd hs hst
      · rw [hf] at ho
        cases ho
      · exact hok
    obtain ⟨v, w, hv, hw, hr⟩ := Session.run_start_spawned h.servers env hst ho hj
    obtain ⟨ms, hms, hfile⟩ := CsvDatasetReader.openFile_of_closed (h.closed hj) ho
    have hmoved : Session.Moved l.session (l.session.started env v w) :=
      ⟨rfl, fun hs => hst (.inl hs), fun hs => hst (.inr (.inl hs))⟩
    rw [after_ok hr, afterStart, if_pos hmoved]
    refine ⟨h.failed, ⟨hv, hw⟩, ?_, fun _ => iff_of_true rfl rfl, ?_, fun _ => ?_, ?_, ?_, ?_⟩
    · intro hs
      rw [hm] at hs
      cases hs
    · intro hj'
      cases hj'
    · refine ⟨.inl rfl, ?_, ms, hfile, ?_, ?_, ?_⟩
      · simp [Session.started, hshut]
      · simp [Session.started, ReplayThread.inHand, hms]
      · intro he
        cases he
      · intro hc
        cases hc
    -- the new loop is the only one
    · show l.loops + 1 = 1
      rw [h.loops, hl]
      rfl
    · simp
    · exact List.nil_prefix
  -- a file that does not open sets `Error`, and no thread was made
  · have hf : (l.session.datasetReader.openFile env).2 = false := by simpa using ho
    have hr : Program.run (Session.start env .main) l.session
        = .ok false l.session.openFailed := by
      rw [Session.run_start_now env .main hst]
      exact Session.run_startNow_failed h.servers env hf
    rw [after_ok hr, afterStart, if_neg (by rintro ⟨hs, -⟩; cases hs)]
    exact h.quiet hl (h.servers.of_eq rfl rfl) rfl rfl id

/-- Every `Reconfigure`. -/
theorem Inv.reconfigure (h : Inv l) (env : Environment Ω M) (cfg : SessionConfig Ω) :
    Inv (l.after (Session.reconfigure env .main cfg) fun t => { l with session := t }) := by
  rcases Session.reconfigure_cases h.servers env cfg with
    ⟨-, hr⟩ | ⟨hst, ⟨what, hr⟩ | ⟨what, hr⟩ | hr⟩
  · rw [after_ok hr]
    exact h
  · rw [after_exception hr]
    exact h.quiet (h.not_looping hst) (h.servers.of_eq rfl rfl) rfl rfl id
  · rw [after_exception hr]
    exact h.quiet (h.not_looping hst) (h.servers.of_eq rfl rfl) rfl rfl id
  · rw [after_ok hr]
    have hfree : (Session.withWsServer l.session cfg).ServersFree := by
      unfold Session.withWsServer
      split
      · exact ⟨⟨rfl, rfl⟩, by rintro w ⟨⟩; exact ⟨rfl, rfl⟩⟩
      · exact ⟨⟨rfl, rfl⟩, by rintro w ⟨⟩⟩
    refine h.quiet (h.not_looping hst) (hfree.of_eq rfl rfl) ?_ ?_ fun _ => ?_
    · unfold Session.withWsServer
      split <;> rfl
    · unfold Session.withWsServer
      split <;> rfl
    · unfold Session.withWsServer
      split <;> rfl

/-- A status store by the main thread, in a session whose loop may be running. -/
theorem Inv.storeStatus (h : Inv l) {st : Status} {events : List Json}
    (hst : st = .running ∨ st = .paused) (hs : l.main.inStop = false) :
    Inv { l with
      session := { l.session with status := st, broadcasts := events }, main := .idle } where
  failed := h.failed
  servers := h.servers.of_eq rfl rfl
  inStop hs' := by cases hs'
  joinable _ := h.joinable hs
  closed := h.closed
  looping hl := by
    obtain ⟨-, hacc, rest, hread⟩ := h.looping hl
    exact ⟨hst, hacc, rest, hread.file, hread.dataset, hread.ending, hread.completing⟩
  loops := h.loops
  accepted := h.accepted
  prefix_dataset := h.prefix_dataset

/-- Moving on inside a call, with `paused_` set or not. -/
theorem Inv.move (h : Inv l) (main : MainThread) (paused : Bool)
    (hs : main.inStop = l.main.inStop) :
    Inv { l with session := { l.session with paused }, main } where
  failed := h.failed
  servers := h.servers.of_eq rfl rfl
  inStop hs' := h.inStop (hs ▸ hs')
  joinable hs' := h.joinable (hs ▸ hs')
  closed := h.closed
  looping hl := by
    obtain ⟨hst, hacc, rest, hread⟩ := h.looping hl
    exact ⟨hst, hacc, rest, hread.file, hread.dataset, hread.ending, hread.completing⟩
  loops := h.loops
  accepted := h.accepted
  prefix_dataset := h.prefix_dataset

/-- The exchange on `running_` that begins an effective `Stop`. -/
theorem Inv.stop (h : Inv l) :
    Inv { l with session := { l.session with running := false }, main := .waking } where
  failed := h.failed
  servers := h.servers.of_eq rfl rfl
  inStop _ := rfl
  joinable hs := by cases hs
  closed := h.closed
  looping hl := by
    obtain ⟨hst, hacc, rest, hread⟩ := h.looping hl
    refine ⟨hst, hacc, rest, hread.file, hread.dataset, fun _ hr => ?_, hread.completing⟩
    cases hr
  loops := h.loops
  accepted := h.accepted
  prefix_dataset := h.prefix_dataset

/-- The rest of `Stop`, once the replay thread has returned. -/
theorem Inv.join (h : Inv l) (hm : l.main = .joining)
    (hl : l.session.replayThread.looping = false) :
    Inv (l.after (Session.stopRest .main) fun t => { l with session := t, main := .idle }) := by
  obtain ⟨v, w, hv, hw, hr⟩ := Session.run_stopRest h.servers
  have hrun : l.session.running = false := h.inStop (by rw [hm]; rfl)
  rw [after_ok hr]
  refine ⟨h.failed, ⟨hv, hw⟩, fun hs => ?_, fun _ => ?_, fun _ => rfl, fun hl' => ?_, ?_,
    h.accepted, h.prefix_dataset⟩
  · cases hs
  · show l.session.running = true ↔ false = true
    rw [hrun]
  · cases hl'
  · show l.loops = 0
    rw [h.loops, hl]
    rfl

/-- What the replay thread has to show after a step. -/
theorem Inv.afterReplay (h : Inv l) (hl : l.session.replayThread.looping = true)
    {rt : ReplayThread M} (hj : rt.joinable = true)
    (hnext : rt.looping = true →
      ((l.session.replayed rt).status = .running ∨ (l.session.replayed rt).status = .paused) ∧
        ∃ rest, Reading (l.afterReplay rt) rest) : Inv (l.afterReplay rt) := by
  obtain ⟨-, hacc, rest, hread⟩ := h.looping hl
  have hjoinable : l.session.replayThread.joinable = true := by
    revert hl
    cases l.session.replayThread <;> simp [ReplayThread.looping, ReplayThread.joinable]
  refine ⟨h.failed, h.servers.of_eq (by simp [SessionRun.afterReplay])
    (by simp [SessionRun.afterReplay]), ?_, ?_, ?_, ?_, ?_, ?_, ?_⟩
  · simpa [SessionRun.afterReplay] using h.inStop
  · simpa [SessionRun.afterReplay, hj, hjoinable] using h.joinable
  · intro hnj
    have hrt : rt = .notJoinable := by simpa [SessionRun.afterReplay] using hnj
    rw [hrt] at hj
    cases hj
  · intro hl'
    obtain ⟨hst, hrest⟩ := hnext (by simpa [SessionRun.afterReplay] using hl')
    exact ⟨hst, by simpa [SessionRun.afterReplay] using hacc, hrest⟩
  · rw [SessionRun.afterReplay]
    cases hlt : rt.looping <;> simp [hlt, h.loops, hl]
  · intro p hp
    rcases List.mem_append.mp hp with hp | hp
    · exact h.accepted p hp
    · obtain ⟨_, _, rfl⟩ := List.mem_map.mp hp
      exact hacc
  · show (l.pushes ++ _).map _ <+: l.dataset
    rw [List.map_append, List.map_map, ← hread.dataset]
    refine List.prefix_append_of_prefix ?_
    simp [Function.comp_def]

/-- A step of the replay thread that touches nothing but itself. -/
theorem Inv.moveReplay (h : Inv l) (hl : l.session.replayThread.looping = true)
    {rt : ReplayThread M} (hs : l.session.replayed rt = { l.session with replayThread := rt })
    (hold : l.session.replayThread.inHand = []) (hnew : rt.inHand = [])
    (hrt : rt.looping = true)
    (hend : rt = .ending → l.session.running = true → l.session.replayThread = .ending)
    (hcomp : rt = .completing → l.session.replayThread = .ending ∧ l.session.running = true) :
    Inv (l.afterReplay rt) := by
  obtain ⟨hst, -, rest, hfile, hdata, hending, -⟩ := h.looping hl
  have hj : rt.joinable = true := by
    revert hrt
    cases rt <;> simp [ReplayThread.looping, ReplayThread.joinable]
  refine h.afterReplay hl hj fun _ => ⟨by rw [hs]; exact hst, rest, ?_, ?_, ?_, ?_⟩
  · rw [SessionRun.afterReplay, hs]
    exact hfile
  · rw [hold] at hdata
    simpa [SessionRun.afterReplay, hold, hnew] using hdata
  · simp only [SessionRun.afterReplay, Session.replayed_replayThread, Session.replayed_running]
    exact fun he hr => hending (hend he hr) hr
  · simp only [SessionRun.afterReplay, Session.replayed_replayThread]
    exact fun hc => hending (hcomp hc).1 (hcomp hc).2

/-- A step of the replay thread. -/
theorem Inv.replay (h : Inv l) {rt : ReplayThread M}
    (hn : l.session.replayThread.next l.session.running l.session.paused
      l.session.datasetReader.next.2 = some rt) : Inv (l.afterReplay rt) := by
  have hl : l.session.replayThread.looping = true := by
    revert hn
    cases l.session.replayThread <;> simp [ReplayThread.next, ReplayThread.looping]
  cases hrt : l.session.replayThread with
  | notJoinable => simp [hrt, ReplayThread.next] at hn
  | returned => simp [hrt, ReplayThread.next] at hn
  | loopHead =>
    rw [hrt] at hn
    cases hr : l.session.running <;> simp only [ReplayThread.next, hr] at hn <;> cases hn <;>
      exact h.moveReplay hl (by simp [Session.replayed, hrt]) (by rw [hrt]; rfl) rfl rfl
        (by simp [hr]) (by simp)
  | waiting =>
    rw [hrt, ReplayThread.next] at hn
    split at hn <;> cases hn
    exact h.moveReplay hl (by simp [Session.replayed, hrt]) (by rw [hrt]; rfl) rfl rfl
      (by simp) (by simp)
  | woken =>
    rw [hrt] at hn
    cases hr : l.session.running <;> simp only [ReplayThread.next, hr] at hn <;> cases hn <;>
      exact h.moveReplay hl (by simp [Session.replayed, hrt]) (by rw [hrt]; rfl) rfl rfl
        (by simp [hr]) (by simp)
  | reading =>
    obtain ⟨hst, -, rest, hfile, hdata, -, -⟩ := h.looping hl
    rw [hrt] at hn hdata
    have hst' : ∀ rt, (l.session.replayed rt).status = l.session.status := by
      simp [Session.replayed, hrt]
    rw [List.append_assoc] at hdata
    cases rest with
    | nil =>
      -- the end of the dataset
      have hnext : l.session.datasetReader.next = (l.session.datasetReader, .endOfData) := by
        rw [CsvDatasetReader.next, hfile]
      rw [hnext, ReplayThread.next] at hn
      cases hn
      refine h.afterReplay hl rfl fun _ => ⟨by rw [hst']; exact hst, [], ?_, ?_, ?_, ?_⟩
      · simpa [SessionRun.afterReplay, Session.replayed, hrt, hnext] using hfile
      · simpa [SessionRun.afterReplay, hrt, ReplayThread.inHand] using hdata
      · simp
      · simp
    | cons m rest =>
      have hnext : l.session.datasetReader.next = ({ l.session.datasetReader with
          file := .opened rest, count := l.session.datasetReader.count + 1 }, .ok m) := by
        rw [CsvDatasetReader.next, hfile]
      rw [hnext, ReplayThread.next] at hn
      cases hn
      refine h.afterReplay hl rfl fun _ => ⟨by rw [hst']; exact hst, rest, ?_, ?_, ?_, ?_⟩
      · simp [SessionRun.afterReplay, Session.replayed, hrt, hnext]
      · simpa [SessionRun.afterReplay, hrt, ReplayThread.inHand] using hdata
      · simp [SessionRun.afterReplay]
      · simp [SessionRun.afterReplay]
  | pushing m =>
    obtain ⟨hst, -, rest, hfile, hdata, -, -⟩ := h.looping hl
    rw [hrt] at hn hdata
    cases hn
    refine h.afterReplay hl rfl fun _ => ⟨by simpa [Session.replayed, hrt] using hst, rest, ?_,
      ?_, ?_, ?_⟩
    · simpa [SessionRun.afterReplay, Session.replayed, hrt] using hfile
    · simpa [SessionRun.afterReplay, hrt, ReplayThread.inHand] using hdata
    · simp [SessionRun.afterReplay]
    · simp [SessionRun.afterReplay]
  | ending =>
    rw [hrt] at hn
    cases hr : l.session.running <;> simp only [ReplayThread.next, hr] at hn <;> cases hn
    · exact h.afterReplay hl rfl (by simp [ReplayThread.looping])
    · exact h.moveReplay hl (by simp [Session.replayed, hrt]) (by rw [hrt]; rfl) rfl rfl
        (by simp) (by simp [hrt, hr])
  | completing =>
    rw [hrt] at hn
    cases hn
    exact h.afterReplay hl rfl (by simp [ReplayThread.looping])

/-- One step keeps the invariant, if every `Start` is well placed. -/
theorem Inv.step {k : SessionRun Ω M} {a : Action Ω M} (h : Inv l) (hok : StartsOk l a)
    (hst : Step l a k) : Inv k := by
  cases hst with
  | start env hf hm => exact h.start hm hok
  | stopRefused hf hm hr => exact h
  | stop hf hm hr => exact h.stop
  | wake hf hm => exact h.move .joining false (by rw [hm]; rfl)
  | join hf hm hj => exact h.join hm hj
  | pauseRefused hf hm hs => exact h
  | pause hf hm hs => exact h.move .pausing l.session.paused (by rw [hm]; rfl)
  | pauseFlag hf hm => exact h.move .pauseStoring true (by rw [hm]; rfl)
  | pauseStore hf hm =>
    rw [after_ok (Session.run_pauseStore h.servers)]
    exact h.storeStatus (.inr rfl) (by rw [hm]; rfl)
  | resumeRefused hf hm hs => exact h
  | resume hf hm hs => exact h.move .resuming l.session.paused (by rw [hm]; rfl)
  | resumeFlag hf hm => exact h.move .resumeStoring false (by rw [hm]; rfl)
  | resumeStore hf hm =>
    rw [after_ok (Session.run_resumeStore h.servers)]
    exact h.storeStatus (.inl rfl) (by rw [hm]; rfl)
  | reconfigure env cfg hf hm => exact h.reconfigure env cfg
  | replay rt hf hn => exact h.replay hn

/-- A session as constructed satisfies the invariant. -/
theorem inv_make {env : Environment Ω M} {cfg : SessionConfig Ω} {s : Session Ω M}
    (h : Session.make env cfg = .ok s) : Inv { session := s } := by
  unfold Session.make at h
  cases hn : NavigationSystem.make env 0 cfg.nav with
  | error e => simp [hn, bind, Except.bind] at h
  | ok nav =>
    cases hd : CsvDatasetReader.make (M := M) 1 cfg.dataset with
    | error e => simp [hn, hd, bind, Except.bind] at h
    | ok reader =>
      simp only [hn, hd, bind, Except.bind, pure, Except.pure, Except.ok.injEq] at h
      have hfile : reader.file = .closed := by
        unfold CsvDatasetReader.make at hd
        split at hd <;> cases hd
        rfl
      subst h
      refine ⟨rfl, ⟨⟨rfl, rfl⟩, fun w hw => ?_⟩, by simp [MainThread.inStop],
        fun _ => by simp [ReplayThread.joinable], fun _ => hfile, by simp [ReplayThread.looping],
        rfl, by simp, List.prefix_rfl⟩
      split at hw <;> cases hw
      exact ⟨rfl, rfl⟩

/-- The invariant holds in every run whose `Start` calls are well placed. -/
theorem reachable_inv (h : ((system Ω M).guarded StartsOk).Reachable l) : Inv l := by
  refine h.invariant ?_ (fun _ _ _ _ hk hst => hk.step hst.1 hst.2)
  rintro k ⟨env, cfg, s, hs, rfl⟩
  exact inv_make hs

/-- While the invariant holds, `StartOk` says exactly where a `Start` delivers. -/
theorem Inv.startDelivers_iff (h : Inv l) (env : Environment Ω M) :
    l.session.StartDelivers env ↔ l.session.StartOk env := by
  by_cases hst : l.session.status = .running ∨ l.session.status = .paused ∨
    l.session.status = .error
  · obtain ⟨b, hr⟩ := Session.run_start_refused env .main hst
    exact iff_of_true ⟨b, _, hr, fun hmoved => absurd hmoved.1 hmoved.2.1⟩ (.inl hst)
  by_cases ho : (l.session.datasetReader.openFile env).2 = true
  swap
  · have hf : (l.session.datasetReader.openFile env).2 = false := by simpa using ho
    refine iff_of_true ⟨false, l.session.openFailed, ?_, ?_⟩ (.inr (.inl hf))
    · rw [Session.run_start_now env .main hst]
      exact Session.run_startNow_failed h.servers env hf
    · rintro ⟨hs, -⟩
      cases hs
  by_cases hj : l.session.replayThread = .notJoinable
  · obtain ⟨v, w, -, -, hr⟩ := Session.run_start_spawned h.servers env hst ho hj
    obtain ⟨ms, hms, hfile⟩ := CsvDatasetReader.openFile_of_closed (h.closed hj) ho
    constructor
    · rintro ⟨b, t, hr', hmoved⟩
      cases hr.symm.trans hr'
      have hacc := (hmoved ⟨rfl, fun hs => hst (.inl hs), fun hs => hst (.inr (.inl hs))⟩).1
      exact .inr (.inr ⟨hj, by simpa [Session.started] using hacc⟩)
    · rintro (hs | hf | ⟨-, hshut⟩)
      · exact absurd hs hst
      · rw [hf] at ho
        cases ho
      · exact ⟨true, _, hr, fun _ => ⟨by simp [Session.started, hshut], ms, hms, hfile⟩⟩
  · have hjoin : l.session.replayThread.joinable = true := by
      cases hrt : l.session.replayThread <;> simp_all [ReplayThread.joinable]
    obtain ⟨u, hr⟩ := Session.run_start_joinable h.servers env hst ho hjoin
    refine iff_of_false ?_ ?_
    · rintro ⟨b, t, hr', -⟩
      cases hr.symm.trans hr'
    · rintro (hs | hf | ⟨hnj, -⟩)
      · exact hst hs
      · rw [hf] at ho
        cases ho
      · exact hj hnj

/-- **Lifecycle.** In every state of a run whose `Start` calls are well placed the process is
    alive, at most one replay loop exists, and since the last `Start` the measurements of its
    dataset were pushed in order, each to a pipeline that was accepting, and all of them when
    the loop ends by itself.  A `Start` that is not well placed in such a state terminates the
    process or moves the session to `Running` with a pipeline that accepts nothing. -/
theorem start_delivers (Ω M : Type) (l : SessionRun Ω M)
    (h : ((system Ω M).guarded StartsOk).Reachable l) :
    (l.failed = none ∧ l.loops ≤ 1 ∧
      (∀ p ∈ l.pushes, p.2 = true) ∧ l.pushes.map (·.1) <+: l.dataset ∧
      (l.session.replayThread.looping = true → l.session.navSystem.pipeline.accepts = true) ∧
      (l.session.replayThread = .completing → l.pushes.map (·.1) = l.dataset)) ∧
    ∀ env, l.session.StartDelivers env ↔ l.session.StartOk env := by
  have hinv := reachable_inv h
  refine ⟨⟨hinv.failed, ?_, hinv.accepted, hinv.prefix_dataset, fun hl => (hinv.looping hl).2.1,
    fun hc => ?_⟩, hinv.startDelivers_iff⟩
  · rw [hinv.loops]
    split
    · exact le_rfl
    · exact Nat.zero_le 1
  · obtain ⟨-, -, rest, hread⟩ := hinv.looping (by rw [hc]; rfl)
    have hdata := hread.dataset
    rw [hread.completing hc, hc] at hdata
    simpa [ReplayThread.inHand] using hdata

/-- The configuration that replays a file. -/
def replaying (path : String) : SessionConfig Unit where
  nav := { sensors := () }
  dataset := { path }

/-- The session as constructed from it. -/
def configured (path : String) : Session Unit ℕ where
  cfg := replaying path
  navSystem := { id := 0, config := { sensors := () }, observed := true }
  datasetReader := { id := 1, path }
  ipcServer := { id := 2, config := {} }
  wsServer := some { id := 3, config := {} }
  status := .configured
  nextId := 4

/-- `start_delivers` after a first `Start` and the first pushed measurement. -/
theorem start_delivers_first :
    ∃ l : SessionRun Unit ℕ, l.session.status = .running ∧ l.pushes = [(1, true)] ∧
      l.dataset = [1, 2] ∧ l.failed = none := by
  have hinit : ((system Unit ℕ).guarded StartsOk).Reachable
      { session := configured "flight.csv" } :=
    .init ⟨Session.plainEnv, replaying "flight.csv", _, rfl, rfl⟩
  have hstart := hinit.guarded_step (Step.start _ Session.plainEnv rfl rfl)
    (.inr (.inr ⟨rfl, rfl⟩))
  have hread := (((hstart.guarded_step (Step.replay _ .waiting rfl rfl) trivial).guarded_step
    (Step.replay _ .woken rfl rfl) trivial).guarded_step
    (Step.replay _ .reading rfl rfl) trivial).guarded_step
    (Step.replay _ (.pushing 1) rfl rfl) trivial
  have hpushed := hread.guarded_step (Step.replay _ .loopHead rfl rfl) trivial
  exact ⟨_, rfl, rfl, rfl, (start_delivers Unit ℕ _ hpushed).1.1⟩

/-- `Start` after the dataset has ended terminates the process; `Start` after `Stop` moves the
    session to `Running` with a pipeline that accepts nothing. -/
theorem start_after_completed_or_stopped :
    (∃ l : SessionRun Unit ℕ, (system Unit ℕ).Reachable l ∧ l.failed = some .terminated) ∧
    (∃ l : SessionRun Unit ℕ, (system Unit ℕ).Reachable l ∧ l.session.status = .running ∧
      l.session.replayThread.looping = true ∧
      l.session.navSystem.pipeline.accepts = false) := by
  have hinit : ∀ path, (system Unit ℕ).Reachable { session := configured path } := fun path =>
    .init ⟨Session.plainEnv, replaying path, _, rfl, rfl⟩
  constructor
  · have hstart := (hinit "empty.csv").step (Step.start _ Session.plainEnv rfl rfl)
    have hread := ((hstart.step (Step.replay _ .waiting rfl rfl)).step
      (Step.replay _ .woken rfl rfl)).step (Step.replay _ .reading rfl rfl)
    have hended := ((hread.step (Step.replay _ .ending rfl rfl)).step
      (Step.replay _ .completing rfl rfl)).step (Step.replay _ .returned rfl rfl)
    exact ⟨_, hended.step (Step.start _ Session.plainEnv rfl rfl), rfl⟩
  · have hstart := (hinit "flight.csv").step (Step.start _ Session.plainEnv rfl rfl)
    have hstop := (hstart.step (Step.stop _ rfl rfl rfl)).step (Step.wake _ rfl rfl)
    have hended := (hstop.step (Step.replay _ .ending rfl rfl)).step
      (Step.replay _ .returned rfl rfl)
    have hjoined := hended.step (Step.join _ rfl rfl rfl)
    exact ⟨_, hjoined.step (Step.start _ Session.plainEnv rfl rfl), rfl, rfl, rfl⟩

end SessionRun

end FalconGuide
