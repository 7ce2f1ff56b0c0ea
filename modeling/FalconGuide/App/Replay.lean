import FalconGuide.App.SessionLifecycle
import FalconGuide.Estimation.PipelineDelivery
import Mathlib.Data.List.ReduceOption

namespace FalconGuide

open Lib

/-!
# Replay into the pipeline

`Start`, `Pause`, `Resume` and `Stop` of a session, as often as the main thread calls them, with the
replay loop and the estimator thread.  Replay and estimator interleave freely: `playback_speed` only
says how long the loop sleeps before a `Push`, which is how often the estimator gets its turn.  A
`Start` of a session that has completed and was not stopped terminates the process: it has no step.

* `ReplayRun` — the pipeline with its threads, the dataset, and the positions of the replay thread
  and of the main thread;
* `ReplayRun.Inv` — what was read has been pushed, or is in the hand of the replay thread, and
  while it loops the pipeline is up;
* `ReplayRun.Room` — the `Push`es that find the queue open, with room in it;
* `ReplayRun.replay_lossless` — the main result.
-/

/-- Where the main thread is. -/
inductive ReplayMain
  /-- Before `Start`. -/
  | configured
  /-- Inside `Pipeline().Start()`. -/
  | startingPipeline
  /-- About to set the status and `running_`. -/
  | arming
  /-- About to assign `replay_thread_`. -/
  | spawning
  /-- Outside of any call. -/
  | idle
  /-- `Pause`, status checked. -/
  | pausing
  /-- `Pause`, about to set the status. -/
  | pauseStoring
  /-- `Resume`, status checked. -/
  | resuming
  /-- `Resume`, about to set the status. -/
  | resumeStoring
  /-- `Stop`, `running_` exchanged. -/
  | waking
  /-- `Stop`, at the join of the replay thread. -/
  | joining
  /-- `Stop`, about to call `Pipeline().Stop()`. -/
  | stopping
  /-- Inside `Pipeline().Stop()`, before `RequestShutdown`. -/
  | shuttingDown
  /-- Inside `Pipeline().Stop()`, at the join. -/
  | joiningWorker
  /-- `Stop` has returned. -/
  | stopped
  deriving DecidableEq

namespace ReplayMain

/-- `Start` has not yet spawned the replay thread. -/
def early : ReplayMain → Bool
  | .configured => true
  | .startingPipeline => true
  | .arming => true
  | .spawning => true
  | _ => false

/-- The pipeline has been started, and `Stop` has not joined the replay thread. -/
def up : ReplayMain → Bool
  | .arming => true
  | .spawning => true
  | .idle => true
  | .pausing => true
  | .pauseStoring => true
  | .resuming => true
  | .resumeStoring => true
  | .waking => true
  | .joining => true
  | _ => false

end ReplayMain

/-- A session that replays datasets.  A record that cannot be read is `none`. -/
structure ReplayRun (E M N : Type) where
  pipeline : EstimatorPipeline E M N Unit
  /-- What is in the file of the last `Start`. -/
  dataset : List (Option M)
  /-- What `Next` has not returned yet. -/
  unread : List (Option M)
  thread : ReplayThread M := .notJoinable
  status : Status := .configured
  running : Bool := false
  paused : Bool := false
  main : ReplayMain := .configured
  /-- The status has been set to `Completed` since the last `Start`. -/
  completed : Bool := false
  /-- The measurements that `Next` has returned since the last `Start`. -/
  produced : List M := []
  /-- Those that it returned before. -/
  earlier : List M := []

namespace ReplayRun

variable {E M N : Type}

/-- What `Next` would return. -/
def nextOutcome : List (Option M) → ReadOutcome M
  | [] => .endOfData
  | none :: _ => .error
  | some m :: _ => .ok m

/-- The measurement in an outcome. -/
def outcomeMeasurement : ReadOutcome M → List M
  | .ok m => [m]
  | _ => []

/-- What the threads can do. -/
inductive Action
  /-- The main thread, inside a call or making one. -/
  | main
  /-- The replay thread, outside of the queue lock. -/
  | replay
  /-- The replay thread, inside `queue_.Push`. -/
  | enqueue
  | worker

/-- One step of one thread. -/
inductive Step (est : NavigationEstimator E M N) (observers : ℕ) :
    ReplayRun E M N → Action → ReplayRun E M N → Prop
  | startPipeline (s) (p) (hm : s.main = .configured)
      (hp : EstimatorPipeline.Step est observers s.pipeline .start p) :
      Step est observers s .main { s with pipeline := p, main := .startingPipeline }
  /-- `Start` after a `Stop`: `Open` reads the file again, which may have changed. -/
  | restart (s) (p) (dataset : List (Option M)) (hm : s.main = .stopped)
      (hp : EstimatorPipeline.Step est observers s.pipeline .start p) :
      Step est observers s .main
        { s with
          pipeline := p
          dataset
          unread := dataset
          completed := false
          produced := []
          earlier := s.earlier ++ s.produced
          main := .startingPipeline }
  | spawnWorker (s) (p) (hm : s.main = .startingPipeline)
      (hp : EstimatorPipeline.Step est observers s.pipeline .spawn p) :
      Step est observers s .main { s with pipeline := p, main := .arming }
  | arm (s) (hm : s.main = .arming) :
      Step est observers s .main
        { s with status := .running, running := true, main := .spawning }
  | spawn (s) (hm : s.main = .spawning) :
      Step est observers s .main { s with thread := .loopHead, main := .idle }
  | pause (s) (hm : s.main = .idle) (hs : s.status = .running) :
      Step est observers s .main { s with main := .pausing }
  | pauseFlag (s) (hm : s.main = .pausing) :
      Step est observers s .main { s with paused := true, main := .pauseStoring }
  | pauseStore (s) (hm : s.main = .pauseStoring) :
      Step est observers s .main { s with status := .paused, main := .idle }
  | resume (s) (hm : s.main = .idle) (hs : s.status = .paused) :
      Step est observers s .main { s with main := .resuming }
  | resumeFlag (s) (hm : s.main = .resuming) :
      Step est observers s .main { s with paused := false, main := .resumeStoring }
  | resumeStore (s) (hm : s.main = .resumeStoring) :
      Step est observers s .main { s with status := .running, main := .idle }
  | stop (s) (hm : s.main = .idle) (hr : s.running = true) :
      Step est observers s .main { s with running := false, main := .waking }
  | wake (s) (hm : s.main = .waking) :
      Step est observers s .main { s with paused := false, main := .joining }
  /-- The join returns once the replay thread has. -/
  | join (s) (hm : s.main = .joining) (ht : s.thread = .returned) :
      Step est observers s .main { s with thread := .notJoinable, main := .stopping }
  | stopPipeline (s) (p) (hm : s.main = .stopping)
      (hp : EstimatorPipeline.Step est observers s.pipeline .stop p) :
      Step est observers s .main { s with pipeline := p, main := .shuttingDown }
  | requestShutdown (s) (p) (hm : s.main = .shuttingDown)
      (hp : EstimatorPipeline.Step est observers s.pipeline .requestShutdown p) :
      Step est observers s .main { s with pipeline := p, main := .joiningWorker }
  | joinWorker (s) (p) (hm : s.main = .joiningWorker)
      (hp : EstimatorPipeline.Step est observers s.pipeline .join p) :
      Step est observers s .main { s with pipeline := p, status := .idle, main := .stopped }
  /-- The loop outside of `Next` and `Push`. -/
  | loop (s) (rt) (hread : s.thread ≠ .reading) (hpush : ∀ m, s.thread ≠ .pushing m)
      (hend : s.thread ≠ .completing)
      (hn : s.thread.next s.running s.paused .endOfData = some rt) :
      Step est observers s .replay { s with thread := rt }
  | complete (s) (ht : s.thread = .completing) :
      Step est observers s .replay
        { s with thread := .returned, status := .completed, completed := true }
  | read (s) (rt) (hread : s.thread = .reading)
      (hn : s.thread.next s.running s.paused (nextOutcome s.unread) = some rt) :
      Step est observers s .replay
        { s with
          thread := rt
          unread := s.unread.tail
          produced := s.produced ++ outcomeMeasurement (nextOutcome s.unread) }
  /-- `Push` finds the pipeline running, and goes on to the queue. -/
  | pushChecked (s) (m) (p) (ht : s.thread = .pushing m)
      (hp : EstimatorPipeline.Step est observers s.pipeline (.push () m) p)
      (hc : p.producers () ≠ .idle) : Step est observers s .replay { s with pipeline := p }
  /-- `Push` finds the pipeline not running. -/
  | pushRefused (s) (m) (p) (ht : s.thread = .pushing m)
      (hp : EstimatorPipeline.Step est observers s.pipeline (.push () m) p)
      (hc : p.producers () = .idle) :
      Step est observers s .replay { s with pipeline := p, thread := .loopHead }
  /-- `queue_.Push`; the loop does not look at its result. -/
  | enqueue (s) (p) (hp : EstimatorPipeline.Step est observers s.pipeline (.enqueue ()) p) :
      Step est observers s .enqueue { s with pipeline := p, thread := .loopHead }
  | worker (s) (p) (hp : EstimatorPipeline.Step est observers s.pipeline .work p) :
      Step est observers s .worker { s with pipeline := p }

/-- A session configured with a dataset, and a pipeline with a queue of the given capacity around
    the backend state `e`. -/
def configured (capacity : ℕ) (e : E) (dataset : List (Option M)) : ReplayRun E M N where
  pipeline := .constructed capacity e
  dataset
  unread := dataset

@[simp] theorem configured_dataset (capacity : ℕ) (e : E) (dataset : List (Option M)) :
    (configured capacity e dataset : ReplayRun E M N).dataset = dataset := rfl

/-- The session and its threads. -/
def system (est : NavigationEstimator E M N) (observers capacity : ℕ) (e : E)
    (dataset : List (Option M)) : System (ReplayRun E M N) Action where
  init s := s = configured capacity e dataset
  step := Step est observers

/-- A `Push` that has come to the queue finds it open, with room in it. -/
def Room (s : ReplayRun E M N) : Action → Prop
  | .enqueue => s.pipeline.queue.shutdown = false ∧ ¬ s.pipeline.queue.Full
  | _ => True

/-! ### The pipeline of a replay -/

section Pipeline

variable {est : NavigationEstimator E M N} {observers : ℕ} {p p' : EstimatorPipeline E M N Unit}

/-- The worker leaves the control thread and the producers alone. -/
theorem worker_frame (h : EstimatorPipeline.Step est observers p .work p') :
    p'.control = p.control ∧ p'.running = p.running ∧ p'.producers = p.producers ∧
      p'.returned = p.returned := by
  cases h with
  | pop c q ht hq =>
    rcases MeasurementQueue.pop_cases hq with ⟨hnone, -⟩ | ⟨_, _, _, _, rfl⟩
    · cases hnone
    · exact ⟨rfl, rfl, rfl, rfl⟩
  | exit q ht hq =>
    rcases MeasurementQueue.pop_cases hq with ⟨-, rfl, -, -⟩ | ⟨_, _, hsome, _⟩
    · exact ⟨rfl, rfl, rfl, rfl⟩
    · cases hsome
  | add c ht => exact ⟨rfl, rfl, rfl, rfl⟩
  | notify state k ht hk => exact ⟨rfl, rfl, rfl, rfl⟩
  | notified state k ht hk => exact ⟨rfl, rfl, rfl, rfl⟩

/-- The pipeline while the main thread is at `main`. -/
def Phase (p : EstimatorPipeline E M N Unit) : ReplayMain → Prop
  | .configured => p.control = .idle ∧ p.running = false
  | .startingPipeline => p.control = .starting ∧ p.running = true
  | .shuttingDown => p.control = .stopping ∧ p.running = false
  | .joiningWorker => p.control = .joining ∧ p.running = false
  | .stopped => p.control = .idle ∧ p.running = false
  | _ => p.control = .idle ∧ p.running = true

theorem Phase.of_up {main : ReplayMain} (h : Phase p main) (hup : main.up = true) :
    p.control = .idle ∧ p.running = true := by
  cases main <;> first | exact h | cases hup

/-- The phase does not depend on what the worker changes. -/
theorem Phase.of_eq {main : ReplayMain} (h : Phase p main) (hc : p'.control = p.control)
    (hr : p'.running = p.running) : Phase p' main := by
  cases main <;> simpa only [Phase, hc, hr] using h

end Pipeline

/-! ### What was read has been pushed -/

/-- The invariant of the replays of a session. -/
structure Inv (s : ReplayRun E M N) : Prop where
  phase : Phase s.pipeline s.main
  early : s.main.early = true → s.thread = .notJoinable ∧ s.completed = false
  /-- There is a replay thread only while the pipeline is up. -/
  down : s.main.up = false → s.thread = .notJoinable
  checked : ∀ c, s.pipeline.producers () = .checked c → s.thread = .pushing c.measurement
  pushed : s.earlier ++ s.produced =
    s.pipeline.returned.map (·.1.measurement) ++ s.thread.inHand
  read : s.produced ++ s.unread.reduceOption = s.dataset.reduceOption
  ending : s.thread = .ending → s.running = true → s.unread = []
  completing : s.thread = .completing → s.unread = []
  completed : s.completed = true → s.unread = []

variable {dataset : List (Option M)} {est : NavigationEstimator E M N} {observers : ℕ}
  {s t : ReplayRun E M N}

theorem inv_configured (capacity : ℕ) (e : E) :
    Inv (configured capacity e dataset : ReplayRun E M N) where
  phase := ⟨rfl, rfl⟩
  early _ := ⟨rfl, rfl⟩
  down _ := rfl
  checked _ h := by cases h
  pushed := rfl
  read := List.nil_append _
  ending h := by cases h
  completing h := by cases h
  completed h := by cases h

/-- Without the pipeline there is no replay loop. -/
theorem Inv.not_looping (h : Inv s) (hm : s.main.up = false) : s.thread.looping = false := by
  rw [h.down hm]
  rfl

/-- A replay loop goes with a pipeline that is up. -/
theorem Inv.live (h : Inv s) (hl : s.thread.looping = true) : s.main.up = true := by
  by_contra hm
  rw [h.not_looping (by simpa using hm)] at hl
  cases hl

/-- A step of the main thread that leaves the replay thread and what it has read alone. -/
theorem Inv.main (h : Inv s) {p : EstimatorPipeline E M N Unit} {status : Status}
    {running paused : Bool} {main : ReplayMain} (hphase : Phase p main)
    (hprod : p.producers = s.pipeline.producers) (hret : p.returned = s.pipeline.returned)
    (hearly : main.early = true → s.main.early = true)
    (hdown : main.up = false → s.main.up = false)
    (hrun : s.thread = .ending → running = true → s.running = true) :
    Inv { s with pipeline := p, status, running, paused, main } where
  phase := hphase
  early he := h.early (hearly he)
  down hm := h.down (hdown hm)
  checked c hc := h.checked c (hprod ▸ hc)
  pushed := by
    show s.earlier ++ s.produced = p.returned.map _ ++ _
    rw [hret]
    exact h.pushed
  read := h.read
  ending he hr := h.ending he (hrun he hr)
  completing := h.completing
  completed := h.completed

/-- A step of the replay thread between two positions at which it has nothing in hand. -/
theorem Inv.move (h : Inv s) {rt : ReplayThread M} (hl : s.thread.looping = true)
    (hhand : s.thread.inHand = []) (hhand' : rt.inHand = [])
    (hending : rt = .ending → s.running = true → s.unread = [])
    (hcompleting : rt = .completing → s.unread = []) :
    Inv { s with thread := rt } where
  phase := h.phase
  early he := by
    have hjoin := (h.early he).1
    rw [hjoin] at hl
    cases hl
  down hm := by
    rw [h.not_looping hm] at hl
    cases hl
  checked c hc := by
    have hpush := h.checked c hc
    rw [hpush] at hhand
    cases hhand
  pushed := by
    show s.earlier ++ s.produced = _ ++ rt.inHand
    rw [hhand', ← hhand]
    exact h.pushed
  read := h.read
  ending := hending
  completing := hcompleting
  completed := h.completed

/-- The loop goes on outside of `Next` and `Push`. -/
theorem Inv.loop_step (h : Inv s) {rt : ReplayThread M} (hread : s.thread ≠ .reading)
    (hpush : ∀ m, s.thread ≠ .pushing m) (hend : s.thread ≠ .completing)
    (hn : s.thread.next s.running s.paused .endOfData = some rt) :
    Inv { s with thread := rt } := by
  cases ht : s.thread with
  | reading => exact absurd ht hread
  | pushing m => exact absurd ht (hpush m)
  | completing => exact absurd ht hend
  | notJoinable =>
    rw [ht] at hn
    cases hn
  | returned =>
    rw [ht] at hn
    cases hn
  -- where it moves depends on the flags it reads, and the session is up while it loops
  | loopHead =>
    rw [ht, ReplayThread.next] at hn
    split at hn
    · cases hn
      exact h.move (by rw [ht]; rfl) (by rw [ht]; rfl) rfl (by rintro ⟨⟩) (by rintro ⟨⟩)
    · rename_i hr
      cases hn
      exact h.move (by rw [ht]; rfl) (by rw [ht]; rfl) rfl (fun _ hr' => absurd hr' hr)
        (by rintro ⟨⟩)
  | waiting =>
    rw [ht, ReplayThread.next] at hn
    split at hn
    · cases hn
      exact h.move (by rw [ht]; rfl) (by rw [ht]; rfl) rfl (by rintro ⟨⟩) (by rintro ⟨⟩)
    · cases hn
  | woken =>
    rw [ht, ReplayThread.next] at hn
    split at hn
    · cases hn
      exact h.move (by rw [ht]; rfl) (by rw [ht]; rfl) rfl (by rintro ⟨⟩) (by rintro ⟨⟩)
    · rename_i hr
      cases hn
      exact h.move (by rw [ht]; rfl) (by rw [ht]; rfl) rfl (fun _ hr' => absurd hr' hr)
        (by rintro ⟨⟩)
  -- after the last measurement it completes only a session that still runs
  | ending =>
    rw [ht, ReplayThread.next] at hn
    split at hn
    · rename_i hr
      cases hn
      exact h.move (by rw [ht]; rfl) (by rw [ht]; rfl) rfl (by rintro ⟨⟩) (fun _ => h.ending ht hr)
    · cases hn
      exact h.move (by rw [ht]; rfl) (by rw [ht]; rfl) rfl (by rintro ⟨⟩) (by rintro ⟨⟩)

/-- `Next` has returned. -/
theorem Inv.read_step (h : Inv s) {rt : ReplayThread M} (hread : s.thread = .reading)
    (hn : s.thread.next s.running s.paused (nextOutcome s.unread) = some rt) :
    Inv
      { s with
        thread := rt
        unread := s.unread.tail
        produced := s.produced ++ outcomeMeasurement (nextOutcome s.unread) } := by
  have hlive : s.main.up = true := h.live (by rw [hread]; rfl)
  have hdown : s.main.up = false → rt = .notJoinable := fun hm => by
    rw [hm] at hlive
    cases hlive
  have hnotEarly : s.main.early = true → False := by
    intro he
    have hjoin := (h.early he).1
    rw [hread] at hjoin
    cases hjoin
  have hidle : ∀ c, s.pipeline.producers () ≠ .checked c := by
    intro c hc
    have hpush := h.checked c hc
    rw [hread] at hpush
    cases hpush
  have hpushed : s.earlier ++ s.produced = s.pipeline.returned.map (·.1.measurement) := by
    have hp := h.pushed
    rw [hread] at hp
    simpa [ReplayThread.inHand] using hp
  rw [hread] at hn
  -- the outcome decides where the thread goes on, and what it has in hand there
  rcases hu : s.unread with _ | ⟨record, rest⟩
  · rw [hu] at hn
    cases hn
    refine ⟨h.phase, fun he => (hnotEarly he).elim, hdown,
      fun c hc => absurd hc (hidle c), ?_, ?_, fun _ _ => rfl, (by rintro ⟨⟩), fun _ => rfl⟩
    · simp [← hpushed, nextOutcome, outcomeMeasurement, ReplayThread.inHand]
    · have hr := h.read
      rw [hu] at hr
      simpa [nextOutcome, outcomeMeasurement] using hr
  · have hopen : s.completed = true → rest = [] := by
      intro hc
      have hnil := h.completed hc
      rw [hu] at hnil
      cases hnil
    cases record with
    | none =>
      rw [hu] at hn
      cases hn
      refine ⟨h.phase, fun he => (hnotEarly he).elim, hdown,
        fun c hc => absurd hc (hidle c), ?_, ?_, (by rintro ⟨⟩), (by rintro ⟨⟩), hopen⟩
      · simp [← hpushed, nextOutcome, outcomeMeasurement, ReplayThread.inHand]
      · have hr := h.read
        rw [hu] at hr
        simpa [nextOutcome, outcomeMeasurement] using hr
    | some m =>
      rw [hu] at hn
      cases hn
      refine ⟨h.phase, fun he => (hnotEarly he).elim, hdown,
        fun c hc => absurd hc (hidle c), ?_, ?_, (by rintro ⟨⟩), (by rintro ⟨⟩), hopen⟩
      · simp [← hpushed, nextOutcome, outcomeMeasurement, ReplayThread.inHand]
      · have hr := h.read
        rw [hu] at hr
        simpa [nextOutcome, outcomeMeasurement] using hr

/-- The measurement in hand has been given to `Push`, which has decided about it. -/
theorem Inv.pushed_step (h : Inv s) {p : EstimatorPipeline E M N Unit} {m : M}
    {c : PushCall M} {taken : Bool} (ht : s.thread = .pushing m) (hc : c.measurement = m)
    (hphase : Phase p s.main) (hidle : p.producers () = .idle)
    (hret : p.returned = s.pipeline.returned ++ [(c, taken)]) :
    Inv { s with pipeline := p, thread := .loopHead } where
  phase := hphase
  early he := by
    have hjoin := (h.early he).1
    rw [ht] at hjoin
    cases hjoin
  down hm := by
    have hjoin := h.down hm
    rw [ht] at hjoin
    cases hjoin
  checked d hd := by
    change p.producers () = _ at hd
    rw [hidle] at hd
    cases hd
  pushed := by
    have hp := h.pushed
    rw [ht] at hp
    show s.earlier ++ s.produced = p.returned.map _ ++ []
    rw [hret, hp]
    simp [ReplayThread.inHand, hc]
  read := h.read
  ending he := by cases he
  completing he := by cases he
  completed := h.completed

/-- A measurement in the hand of the replay thread is pushed into a running pipeline. -/
theorem Inv.up_of_pushing (h : Inv s) {m : M} (ht : s.thread = .pushing m) :
    s.pipeline.control = .idle ∧ s.pipeline.running = true :=
  h.phase.of_up (h.live (by rw [ht]; rfl))

/-- A step of the main thread inside `Start`, before there is a replay thread. -/
theorem Inv.starting (h : Inv s) (hm : s.main.early = true)
    {p : EstimatorPipeline E M N Unit} {status : Status} {running : Bool} {main : ReplayMain}
    (hphase : Phase p main) (hprod : p.producers = s.pipeline.producers)
    (hret : p.returned = s.pipeline.returned) :
    Inv { s with pipeline := p, status, running, main } := by
  have hthread := (h.early hm).1
  have hnone : ∀ rt : ReplayThread M, rt ≠ .notJoinable → s.thread ≠ rt := by
    rintro rt hne rfl
    exact hne hthread
  exact { h with
    phase := hphase
    early := fun _ => h.early hm
    down := fun _ => hthread
    checked := fun c hc => h.checked c (hprod ▸ hc)
    pushed := by
      show s.earlier ++ s.produced = p.returned.map _ ++ _
      rw [hret]
      exact h.pushed
    ending := fun he => absurd he (hnone _ nofun) }

/-- A step of the main thread while the pipeline is up and stays so. -/
theorem Inv.staying (h : Inv s) (hm : s.main.up = true) {status : Status}
    {running paused : Bool} {main : ReplayMain} (hup : main.up = true)
    (hearly : main.early = false) (hrun : running = true → s.running = true) :
    Inv { s with status, running, paused, main } := by
  have hphase := h.phase.of_up hm
  refine h.main ?_ rfl rfl ?_ ?_ (fun _ => hrun)
  · cases main <;> first | exact hphase | cases hup
  · intro he
    rw [hearly] at he
    cases he
  · intro hm'
    rw [hup] at hm'
    cases hm'

/-- A step of the main thread inside `Pipeline().Stop()`, which has no replay thread. -/
theorem Inv.ending_step (h : Inv s) (hdown : s.main.up = false)
    {p : EstimatorPipeline E M N Unit} {status : Status} {main : ReplayMain}
    (hphase : Phase p main) (hearly : main.early = false)
    (hprod : p.producers = s.pipeline.producers) (hret : p.returned = s.pipeline.returned) :
    Inv { s with pipeline := p, status, main } := by
  refine h.main hphase hprod hret ?_ (fun _ => hdown) (fun _ hr => hr)
  intro he
  rw [hearly] at he
  cases he

/-- A `Start` after a `Stop` reads from the beginning. -/
theorem Inv.restart (h : Inv s) (hm : s.main = .stopped) {p : EstimatorPipeline E M N Unit}
    (hphase : Phase p .startingPipeline) (hprod : p.producers = s.pipeline.producers)
    (hret : p.returned = s.pipeline.returned) (dataset : List (Option M)) :
    Inv
      { s with
        pipeline := p
        dataset
        unread := dataset
        completed := false
        produced := []
        earlier := s.earlier ++ s.produced
        main := .startingPipeline } := by
  have hthread : s.thread = .notJoinable := h.down (by rw [hm]; rfl)
  have hnone : ∀ rt : ReplayThread M, rt ≠ .notJoinable → s.thread ≠ rt := by
    rintro rt hne rfl
    exact hne hthread
  exact {
    phase := hphase
    early := fun _ => ⟨hthread, rfl⟩
    down := fun _ => hthread
    checked := fun c hc => h.checked c (hprod ▸ hc)
    pushed := by
      show (s.earlier ++ s.produced) ++ [] = p.returned.map _ ++ _
      rw [List.append_nil, hret]
      exact h.pushed
    read := List.nil_append _
    ending := fun he => absurd he (hnone _ nofun)
    completing := fun he => absurd he (hnone _ nofun)
    completed := nofun }

/-- **One step** keeps the invariant. -/
theorem Inv.step {a : Action} (h : Inv s) (hst : Step est observers s a t) :
    Inv t := by
  have hphase := h.phase
  cases hst with
  | startPipeline p hm hp =>
    rw [hm] at hphase
    cases hp with
    -- `Start` finds the pipeline of a new session stopped
    | startRefused hc hr => exact absurd (hphase.2.symm.trans hr) (by decide)
    | startExchange hc hr =>
      apply h.starting (by rw [hm]; rfl)
      · exact ⟨rfl, rfl⟩
      · rfl
      · rfl
  | restart p dataset hm hp =>
    rw [hm] at hphase
    cases hp with
    -- and so does a `Start` after a `Stop`
    | startRefused hc hr => exact absurd (hphase.2.symm.trans hr) (by decide)
    | startExchange hc hr =>
      apply h.restart hm
      · exact ⟨rfl, rfl⟩
      · rfl
      · rfl
  | spawnWorker p hm hp =>
    rw [hm] at hphase
    cases hp with
    | spawn hc ht => exact h.starting (by rw [hm]; rfl) ⟨rfl, hphase.2⟩ rfl rfl
  | arm hm =>
    rw [hm] at hphase
    exact h.starting (by rw [hm]; rfl) hphase rfl rfl
  | spawn hm =>
    have hthread := (h.early (by rw [hm]; rfl)).1
    rw [hm] at hphase
    refine ⟨hphase, by rintro ⟨⟩, by rintro ⟨⟩, ?_, ?_, h.read, by rintro ⟨⟩, by rintro ⟨⟩,
      h.completed⟩
    · intro c hc
      -- no earlier replay thread is left with a measurement in hand
      have hpush := h.checked c hc
      rw [hthread] at hpush
      cases hpush
    · have hp := h.pushed
      rw [hthread] at hp
      exact hp
  | pause hm hs => exact h.staying (by rw [hm]; rfl) rfl rfl id
  | pauseFlag hm => exact h.staying (by rw [hm]; rfl) rfl rfl id
  | pauseStore hm => exact h.staying (by rw [hm]; rfl) rfl rfl id
  | resume hm hs => exact h.staying (by rw [hm]; rfl) rfl rfl id
  | resumeFlag hm => exact h.staying (by rw [hm]; rfl) rfl rfl id
  | resumeStore hm => exact h.staying (by rw [hm]; rfl) rfl rfl id
  | stop hm hr => exact h.staying (by rw [hm]; rfl) rfl rfl (by simp)
  | wake hm => exact h.staying (by rw [hm]; rfl) rfl rfl id
  | join hm ht =>
    rw [hm] at hphase
    refine ⟨hphase, by rintro ⟨⟩, fun _ => rfl, ?_, ?_, h.read, by rintro ⟨⟩, by rintro ⟨⟩,
      h.completed⟩
    · intro c hc
      -- a thread that was joined has returned, so it pushes nothing
      have hpush := h.checked c hc
      rw [ht] at hpush
      cases hpush
    · have hp := h.pushed
      rw [ht] at hp
      exact hp
  | stopPipeline p hm hp =>
    -- the replay thread is joined first: nobody reads while the pipeline stops
    have hdown : s.main.up = false := by
      rw [hm]
      rfl
    rw [hm] at hphase
    cases hp with
    | stopRefused hc hr => exact absurd (hphase.2.symm.trans hr) (by decide)
    | stopExchange hc hr => exact h.ending_step hdown ⟨rfl, rfl⟩ rfl rfl rfl
  | requestShutdown p hm hp =>
    have hdown : s.main.up = false := by
      rw [hm]
      rfl
    rw [hm] at hphase
    cases hp with
    | requestShutdown hc => exact h.ending_step hdown ⟨rfl, hphase.2⟩ rfl rfl rfl
  | joinWorker p hm hp =>
    have hdown : s.main.up = false := by
      rw [hm]
      rfl
    rw [hm] at hphase
    cases hp with
    | join hc ht => exact h.ending_step hdown ⟨rfl, hphase.2⟩ rfl rfl rfl
  | loop rt hread hpush hend hn => exact h.loop_step hread hpush hend hn
  | complete ht =>
    have hl : s.thread.looping = true := by rw [ht]; rfl
    have hopen := h.completing ht
    have hnext : Inv { s with thread := .returned } :=
      h.move hl (by rw [ht]; rfl) rfl (by rintro ⟨⟩) (by rintro ⟨⟩)
    refine ⟨hnext.phase, ?_, hnext.down, hnext.checked, hnext.pushed, hnext.read, hnext.ending,
      hnext.completing, fun _ => hopen⟩
    -- while `Start` is at work there is no thread that could complete
    intro he
    have hjoin := (h.early he).1
    rw [ht] at hjoin
    cases hjoin
  | read rt hread hn => exact h.read_step hread hn
  | pushChecked m p ht hp hc =>
    have hup := h.up_of_pushing ht
    cases hp with
    | pushRefused _ _ hi hr => exact absurd hi hc
    | pushChecked _ _ hi hr =>
      refine ⟨hphase.of_eq rfl rfl, h.early, h.down, ?_, h.pushed, h.read, h.ending,
        h.completing, h.completed⟩
      intro c hc'
      simp only [Function.update_self, Producer.checked.injEq] at hc'
      rw [← hc']
      exact ht
  | pushRefused m p ht hp hc =>
    -- the pipeline runs as long as the replay thread pushes
    have hup := h.up_of_pushing ht
    cases hp with
    | pushRefused _ _ hi hr => exact absurd (hup.2.symm.trans hr) (by decide)
    | pushChecked _ _ hi hr =>
      simp at hc
  | enqueue p hp =>
    cases hp with
    | enqueue _ c hi =>
      have ht := h.checked c hi
      exact h.pushed_step ht rfl (hphase.of_eq rfl rfl) (by simp) rfl
  | worker p hp =>
    -- the worker touches neither the flags nor what the producers hold
    obtain ⟨hc, hr, hprod, hret⟩ := worker_frame hp
    exact ⟨hphase.of_eq hc hr, h.early, h.down, fun c hc' => h.checked c (hprod ▸ hc'),
      by rw [hret]; exact h.pushed, h.read, h.ending, h.completing, h.completed⟩

/-! ### Reachable states -/

section Reachable

variable {capacity : ℕ} {e : E}

theorem reachable_inv (h : (system est observers capacity e dataset).Reachable s) :
    Inv s := by
  refine h.invariant ?_ (fun _ _ _ _ hs hst => hs.step hst)
  rintro s rfl
  exact inv_configured capacity e

/-- The pipeline of a replay runs as any pipeline does. -/
theorem reachable_pipeline (h : (system est observers capacity e dataset).Reachable s) :
    (EstimatorPipeline.system est observers capacity e).Reachable s.pipeline := by
  induction h with
  | init hs =>
    cases hs
    exact .init rfl
  | step _ hst ih =>
    cases hst with
    | startPipeline p hm hp => exact ih.step hp
    | restart p dataset hm hp => exact ih.step hp
    | spawnWorker p hm hp => exact ih.step hp
    | stopPipeline p hm hp => exact ih.step hp
    | requestShutdown p hm hp => exact ih.step hp
    | joinWorker p hm hp => exact ih.step hp
    | pushChecked m p ht hp hc => exact ih.step hp
    | pushRefused m p ht hp hc => exact ih.step hp
    | enqueue p hp => exact ih.step hp
    | worker p hp => exact ih.step hp
    | _ => exact ih

/-- Every measurement has been pushed once the status has been `Completed` and the session is
    stopped. -/
theorem returned_eq_dataset (h : (system est observers capacity e dataset).Reachable s)
    (hc : s.completed = true) (hm : s.main = .stopped) :
    s.pipeline.returned.map (·.1.measurement) = s.earlier ++ s.dataset.reduceOption := by
  have hinv := reachable_inv h
  have hpushed := hinv.pushed
  have hhand : s.thread.inHand = [] := by
    rw [hinv.down (by rw [hm]; rfl)]
    rfl
  rw [hhand, List.append_nil] at hpushed
  rw [← hinv.read, hinv.completed hc, ← hpushed]
  simp

/-- What `Push` took has been processed once the session is stopped. -/
theorem processed_eq_accepted (h : (system est observers capacity e dataset).Reachable s)
    (hm : s.main = .stopped) : s.pipeline.processed = s.pipeline.accepted := by
  have hphase := (reachable_inv h).phase
  rw [hm] at hphase
  obtain ⟨hidle, hrun⟩ := hphase
  have hpipe := reachable_pipeline h
  have hlife := EstimatorPipeline.reachable_inv hpipe
  have hacc := EstimatorPipeline.accepted_eq hpipe
  rw [(hlife.idle hidle).mpr hrun, (hlife.quiet hidle hrun).1] at hacc
  simpa using hacc.symm

/-- The estimator gets the dataset exactly when every `Push` returned true. -/
theorem processed_eq_dataset_iff (h : (system est observers capacity e dataset).Reachable s)
    (hc : s.completed = true) (hm : s.main = .stopped) :
    s.pipeline.processed.map (·.measurement) = s.earlier ++ s.dataset.reduceOption ↔
      ∀ r ∈ s.pipeline.returned, r.2 = true := by
  rw [processed_eq_accepted h hm, ← returned_eq_dataset h hc hm]
  constructor
  · intro heq
    have hlen := congrArg List.length heq
    simp only [EstimatorPipeline.accepted, List.length_map] at hlen
    exact List.length_filter_eq_length_iff.mp hlen
  · intro htrue
    rw [EstimatorPipeline.accepted, List.filter_eq_self.mpr htrue, List.map_map]
    rfl

/-! ### Runs in which every `Push` finds room -/

/-- A `Push` that finds the queue open, with room in it, is not refused. -/
theorem taken_of_room (h : ((system est observers capacity e dataset).guarded Room).Reachable s) :
    ∀ r ∈ s.pipeline.returned, r.2 = true := by
  induction h with
  | init hs =>
    cases hs
    intro r hr
    cases hr
  | @step s t a hr hst ih =>
    obtain ⟨hroom, hst⟩ := hst
    have hinv := reachable_inv hr.of_guarded
    cases hst with
    | startPipeline p hm hp => cases hp <;> exact ih
    | restart p dataset hm hp => cases hp <;> exact ih
    | spawnWorker p hm hp => cases hp; exact ih
    | stopPipeline p hm hp => cases hp <;> exact ih
    | requestShutdown p hm hp => cases hp; exact ih
    | joinWorker p hm hp => cases hp; exact ih
    | pushChecked m p ht hp hc =>
      cases hp with
      | pushRefused _ _ hi hr => exact absurd hi hc
      | pushChecked _ _ hi hr => exact ih
    | pushRefused m p ht hp hc =>
      cases hp with
      | pushRefused _ _ hi hr =>
        -- the pipeline runs while the replay thread does
        exact absurd ((hinv.up_of_pushing ht).2.symm.trans hr) (by decide)
      | pushChecked _ _ hi hr => exact ih
    | enqueue p hp =>
      cases hp with
      | enqueue _ c hi =>
        have htrue : (s.pipeline.queue.push c).2 = true :=
          (MeasurementQueue.push_eq_true_iff _ _).mpr hroom
        intro r hr
        rcases List.mem_append.mp hr with hr | hr
        · exact ih r hr
        · rw [List.mem_singleton.mp hr]
          exact htrue
    | worker p hp =>
      obtain ⟨-, -, -, hret⟩ := worker_frame hp
      rw [hret]
      exact ih
    | _ => exact ih

end Reachable

/-- **Replay.** In every run in which each `Push` of the replay loop finds the queue open and not
    full, whatever the interleaving and however often the session was started and stopped before: a
    session that completed and was then stopped has handed every measurement of the dataset to the
    estimator, each once and in order, behind what was read before the last `Start`. -/
theorem replay_lossless (est : NavigationEstimator E M N) (observers capacity : ℕ) (e : E)
    (dataset : List (Option M)) (s : ReplayRun E M N)
    (h : ((system est observers capacity e dataset).guarded Room).Reachable s)
    (hc : s.completed = true) (hm : s.main = .stopped) :
    s.pipeline.processed.map (·.measurement) = s.earlier ++ s.dataset.reduceOption :=
  (processed_eq_dataset_iff h.of_guarded hc hm).mpr (taken_of_room h)

/-! ### A replay that the estimator is too slow for -/

/-- A backend that rejects whatever it is given. -/
def rejecting : NavigationEstimator Unit M Unit where
  addMeasurement e _ := (e, {})
  latestState _ := none

/-- The session is running and the replay thread is at its loop head, while the worker waits at its
    `Pop` and has processed nothing. -/
structure Replaying (s : ReplayRun Unit M Unit) : Prop where
  main : s.main = .idle
  thread : s.thread = .loopHead
  running : s.running = true
  paused : s.paused = false
  producer : s.pipeline.producers () = .idle
  pipeline : s.pipeline.running = true
  control : s.pipeline.control = .idle
  worker : s.pipeline.thread = .popping
  processed : s.pipeline.processed = []

/-- Two states of one `Start`, the file being the same. -/
structure SameStart (s t : ReplayRun Unit M Unit) : Prop where
  dataset : t.dataset = s.dataset
  earlier : t.earlier = s.earlier

section Runs

variable {capacity : ℕ} {dataset : List (Option M)} {G : ReplayRun Unit M Unit → Action → Prop}
  {s : ReplayRun Unit M Unit}

/-- The runs below meet `G`. -/
abbrev slow (capacity : ℕ) (dataset : List (Option M))
    (G : ReplayRun Unit M Unit → Action → Prop) : System (ReplayRun Unit M Unit) Action :=
  (system rejecting 0 capacity () dataset).guarded G

/-- A step that is not a `Push` into the queue is not restricted. -/
theorem slow_step (hG : ∀ t a, a ≠ .enqueue → G t a) {t : ReplayRun Unit M Unit} {a : Action}
    (h : (slow capacity dataset G).Reachable s) (hst : Step rejecting 0 s a t)
    (ha : a ≠ .enqueue) : (slow capacity dataset G).Reachable t :=
  h.step ⟨hG s a ha, hst⟩

/-- `Start` leads to the loop. -/
theorem exists_replaying (capacity : ℕ) (dataset : List (Option M))
    (hG : ∀ t a, a ≠ .enqueue → G t a) :
    ∃ t, (slow capacity dataset G).Reachable t ∧ Replaying t ∧ t.unread = dataset ∧
      SameStart (configured capacity () dataset) t ∧
      t.pipeline.queue = { capacity := capacity } := by
  have h₀ : (slow capacity dataset G).Reachable (configured capacity () dataset) := .init rfl
  have h₁ := slow_step hG h₀ (.startPipeline _ _ rfl
    (EstimatorPipeline.Step.startExchange _ rfl rfl)) (by rintro ⟨⟩)
  have h₂ := slow_step hG h₁ (.spawnWorker _ _ rfl
    (EstimatorPipeline.Step.spawn _ rfl rfl)) (by rintro ⟨⟩)
  have h₃ := slow_step hG h₂ (.arm _ rfl) (by rintro ⟨⟩)
  have h₄ := slow_step hG h₃ (.spawn _ rfl) (by rintro ⟨⟩)
  exact ⟨_, h₄, ⟨rfl, rfl, rfl, rfl, rfl, rfl, rfl, rfl, rfl⟩, rfl, ⟨rfl, rfl⟩, rfl⟩

/-- From the loop head to `Next`. -/
theorem exists_reading (hG : ∀ t a, a ≠ .enqueue → G t a)
    (h : (slow capacity dataset G).Reachable s) (hs : Replaying s) :
    (slow capacity dataset G).Reachable { s with thread := .reading } := by
  have h₁ := slow_step hG h (.loop s .waiting (by rw [hs.thread]; rintro ⟨⟩)
    (by rw [hs.thread]; rintro _ ⟨⟩) (by rw [hs.thread]; rintro ⟨⟩)
    (by rw [hs.thread, hs.running]; rfl)) (by rintro ⟨⟩)
  have h₂ := slow_step hG h₁ (.loop _ .woken (by rintro ⟨⟩) (by rintro _ ⟨⟩) (by rintro ⟨⟩)
    (by rw [ReplayThread.next, hs.paused]; rfl)) (by rintro ⟨⟩)
  exact slow_step hG h₂ (.loop _ .reading (by rintro ⟨⟩) (by rintro _ ⟨⟩) (by rintro ⟨⟩)
    (by rw [ReplayThread.next, hs.running]; rfl)) (by rintro ⟨⟩)

/-- One measurement is read and pushed, before the worker gets its turn. -/
theorem exists_pushed (hG : ∀ t a, a ≠ .enqueue → G t a)
    (hGe : ∀ t : ReplayRun Unit M Unit, t.pipeline.queue = s.pipeline.queue → G t .enqueue)
    (h : (slow capacity dataset G).Reachable s) (hs : Replaying s) {m : M}
    {rest : List (Option M)} (hu : s.unread = some m :: rest) :
    ∃ t, (slow capacity dataset G).Reachable t ∧ Replaying t ∧ t.unread = rest ∧
      SameStart s t := by
  have h₁ := exists_reading hG h hs
  have h₂ := slow_step hG h₁ (.read _ (.pushing m) rfl (by rw [hu]; rfl)) (by rintro ⟨⟩)
  have h₃ := slow_step hG h₂ (.pushChecked _ m _ rfl
    (EstimatorPipeline.Step.pushChecked _ () m hs.producer hs.pipeline) (by simp)) (by rintro ⟨⟩)
  have h₄ := h₃.step ⟨hGe _ rfl, .enqueue _ _
    (EstimatorPipeline.Step.enqueue _ () ⟨s.pipeline.nextId, m⟩ (by simp))⟩
  exact ⟨_, h₄, ⟨hs.main, rfl, hs.running, hs.paused, by simp, hs.pipeline, hs.control,
    hs.worker, hs.processed⟩, by simp [hu], ⟨rfl, rfl⟩⟩

/-- The worker empties a queue that is shut down. -/
theorem exists_drained (hG : ∀ t a, a ≠ .enqueue → G t a) {queue : List (PushCall M)}
    (h : (slow capacity dataset G).Reachable s) (hw : s.pipeline.thread = .popping)
    (hq : s.pipeline.queue.queue = queue) :
    ∃ t, (slow capacity dataset G).Reachable t ∧ t.pipeline.thread = .popping ∧
      t.pipeline.queue.queue = [] ∧ t.pipeline.queue.shutdown = s.pipeline.queue.shutdown ∧
      t.pipeline.control = s.pipeline.control ∧ t.main = s.main ∧ t.completed = s.completed ∧
      t.pipeline.returned = s.pipeline.returned ∧ SameStart s t := by
  induction queue generalizing s with
  | nil => exact ⟨s, h, hw, hq, rfl, rfl, rfl, rfl, rfl, ⟨rfl, rfl⟩⟩
  | cons c rest ih =>
    have hpop : s.pipeline.queue.pop = some (some c, { s.pipeline.queue with queue := rest }) := by
      rw [MeasurementQueue.pop, hq]
    have h₁ := slow_step hG h (.worker s _
      (EstimatorPipeline.Step.pop _ c _ hw hpop)) (by rintro ⟨⟩)
    have h₂ := slow_step hG h₁ (.worker _ _
      (EstimatorPipeline.Step.add _ c rfl)) (by rintro ⟨⟩)
    obtain ⟨t, ht, hw', hq', hshut, hctl, hmain, hcomp, hret, hsame⟩ := ih h₂ rfl rfl
    exact ⟨t, ht, hw', hq', hshut, hctl, hmain, hcomp, hret, ⟨hsame.dataset, hsame.earlier⟩⟩

/-- At the end of the dataset the session completes, and can be stopped. -/
theorem exists_stopped (hG : ∀ t a, a ≠ .enqueue → G t a)
    (h : (slow capacity dataset G).Reachable s) (hs : Replaying s) (hu : s.unread = []) :
    ∃ t, (slow capacity dataset G).Reachable t ∧ t.completed = true ∧ t.main = .stopped ∧
      t.pipeline.returned = s.pipeline.returned ∧ SameStart s t := by
  have h₁ := exists_reading hG h hs
  have h₂ := slow_step hG h₁ (.read _ .ending rfl (by rw [hu]; rfl)) (by rintro ⟨⟩)
  have h₃ := slow_step hG h₂ (.loop _ .completing (by rintro ⟨⟩) (by rintro _ ⟨⟩) (by rintro ⟨⟩)
    (by rw [ReplayThread.next, hs.running]; rfl)) (by rintro ⟨⟩)
  have h₄ := slow_step hG h₃ (.complete _ rfl) (by rintro ⟨⟩)
  have h₅ := slow_step hG h₄ (.stop _ hs.main hs.running) (by rintro ⟨⟩)
  have h₆ := slow_step hG h₅ (.wake _ rfl) (by rintro ⟨⟩)
  have h₇ := slow_step hG h₆ (.join _ rfl rfl) (by rintro ⟨⟩)
  have h₈ := slow_step hG h₇ (.stopPipeline _ _ rfl
    (EstimatorPipeline.Step.stopExchange _ hs.control hs.pipeline)) (by rintro ⟨⟩)
  have h₉ := slow_step hG h₈ (.requestShutdown _ _ rfl
    (EstimatorPipeline.Step.requestShutdown _ rfl)) (by rintro ⟨⟩)
  obtain ⟨t, ht, hw, hq, hshut, hctl, hmain, hcomp, hret, hsame⟩ :=
    exists_drained hG h₉ hs.worker rfl
  have h₁₀ := slow_step hG ht (.worker _ _
    (EstimatorPipeline.Step.exit _ _ hw (MeasurementQueue.pop_of_drained hq hshut))) (by rintro ⟨⟩)
  have h₁₁ := slow_step hG h₁₀ (.joinWorker _ _ hmain
    (EstimatorPipeline.Step.join _ hctl rfl)) (by rintro ⟨⟩)
  exact ⟨_, h₁₁, hcomp, rfl, hret, ⟨hsame.dataset, hsame.earlier⟩⟩

/-- A dataset of measurements is read to its end before the worker gets its turn. -/
theorem exists_all_pushed (hG : ∀ t a, G t a) {ms : List M}
    (h : (slow capacity dataset G).Reachable s) (hs : Replaying s) (hu : s.unread = ms.map some) :
    ∃ t, (slow capacity dataset G).Reachable t ∧ Replaying t ∧ t.unread = [] ∧
      SameStart s t := by
  induction ms generalizing s with
  | nil => exact ⟨s, h, hs, hu, ⟨rfl, rfl⟩⟩
  | cons m ms ih =>
    obtain ⟨t, ht, hs', hu', hsame⟩ :=
      exists_pushed (fun t a _ => hG t a) (fun t _ => hG t _) h hs hu
    obtain ⟨t', ht', hs'', hu'', hsame'⟩ := ih ht hs' hu'
    exact ⟨t', ht', hs'', hu'', ⟨hsame'.dataset.trans hsame.dataset,
      hsame'.earlier.trans hsame.earlier⟩⟩

end Runs

/-- A dataset of one measurement, and a queue with room for it. -/
theorem replay_lossless_single :
    ∃ s : ReplayRun Unit ℕ Unit,
      ((system rejecting 0 4096 () [some 5]).guarded Room).Reachable s ∧ s.completed = true ∧
        s.main = .stopped ∧ s.pipeline.processed.map (·.measurement) = [5] := by
  have hG : ∀ (t : ReplayRun Unit ℕ Unit) (a : Action), a ≠ .enqueue → Room t a := by
    intro t a ha
    cases a with
    | enqueue => exact absurd rfl ha
    | _ => trivial
  obtain ⟨s₁, h₁, hs₁, hu₁, hsame₁, hq₁⟩ := exists_replaying 4096 [some 5] hG
  have hroom : ∀ t : ReplayRun Unit ℕ Unit, t.pipeline.queue = s₁.pipeline.queue →
      Room t .enqueue := by
    intro t ht
    show t.pipeline.queue.shutdown = false ∧ ¬ t.pipeline.queue.Full
    rw [ht, hq₁, MeasurementQueue.Full]
    exact ⟨rfl, by decide⟩
  obtain ⟨s₂, h₂, hs₂, hu₂, hsame₂⟩ := exists_pushed hG hroom h₁ hs₁ hu₁
  obtain ⟨s, h, hc, hm, -, hsame⟩ := exists_stopped hG h₂ hs₂ hu₂
  have hlossless := replay_lossless rejecting 0 4096 () _ s h hc hm
  rw [hsame.dataset, hsame₂.dataset, hsame₁.dataset, hsame.earlier, hsame₂.earlier,
    hsame₁.earlier] at hlossless
  exact ⟨s, h, hc, hm, hlossless⟩

/-- **A lost measurement.** With the default capacity and a dataset of one measurement more, a
    run in which the worker is late completes and stops without processing the whole dataset. -/
theorem replay_not_lossless :
    ∃ s : ReplayRun Unit ℕ Unit,
      (system rejecting 0 4096 () ((List.range 4097).map some)).Reachable s ∧
        s.completed = true ∧ s.main = .stopped ∧ s.earlier = [] ∧
        s.dataset = (List.range 4097).map some ∧
        s.pipeline.processed.map (·.measurement) ≠ s.dataset.reduceOption := by
  have hG : ∀ (t : ReplayRun Unit ℕ Unit) (a : Action), (fun _ _ => True : _ → _ → Prop) t a :=
    fun _ _ => trivial
  obtain ⟨s₁, h₁, hs₁, hu₁, hsame₁, -⟩ := exists_replaying 4096 ((List.range 4097).map some)
    (fun t a _ => hG t a)
  obtain ⟨s₂, h₂, hs₂, hu₂, hsame₂⟩ := exists_all_pushed hG h₁ hs₁ hu₁
  obtain ⟨s, h, hc, hm, hret, hsame⟩ := exists_stopped (fun t a _ => hG t a) h₂ hs₂ hu₂
  have hdataset₂ : s₂.dataset = (List.range 4097).map some := by
    rw [hsame₂.dataset, hsame₁.dataset, configured_dataset]
  have hearlier₂ : s₂.earlier = [] := hsame₂.earlier.trans hsame₁.earlier
  have hearlier : s.earlier = [] := hsame.earlier.trans hearlier₂
  refine ⟨s, h.of_guarded, hc, hm, hearlier, hsame.dataset.trans hdataset₂, fun heq => ?_⟩
  have htrue := (processed_eq_dataset_iff h.of_guarded hc hm).mp
    (heq.trans (by rw [hearlier, List.nil_append]))
  rw [hret] at htrue
  -- before the worker gets its turn, everything that was taken is still queued
  have hpipe := reachable_pipeline h₂.of_guarded
  have hacc := EstimatorPipeline.accepted_eq hpipe
  rw [hs₂.processed, hs₂.worker, EstimatorPipeline.accepted,
    List.filter_eq_self.mpr htrue] at hacc
  have hqueued : s₂.pipeline.returned.length = s₂.pipeline.queue.queue.length := by
    simpa using congrArg List.length hacc
  have hle : s₂.pipeline.queue.queue.length ≤ 4096 := by
    have hle := EstimatorPipeline.queue_length_le hpipe
    rwa [EstimatorPipeline.queue_capacity_eq hpipe] at hle
  have hpushed : s₂.pipeline.returned.length = 4097 := by
    have hinv := reachable_inv h₂.of_guarded
    have hread := hinv.read
    have hall := hinv.pushed
    rw [hearlier₂, hs₂.thread, List.nil_append] at hall
    rw [hu₂, hall, hdataset₂] at hread
    simpa [ReplayThread.inHand, List.reduceOption] using congrArg List.length hread
  omega

end ReplayRun

end FalconGuide
