import FalconGuide.App.SessionLifecycle

namespace FalconGuide

open Lib

/-!
# Lifecycle calls made concurrently

`Start`, `Stop`, `Pause` and `Resume` as any number of threads call them at once, interleaved
with the replay loop.  Every access to `status_`, `running_`, `paused_` and `replay_thread_` is
one step, and so is the opening of the dataset, whose outcome is free; what a call does to the
reader, the pipeline and the servers is not seen by these variables and has no step, but for the
exception that `Stop` leaves by when the WebSocket server has called it.

* `SessionThreads` — the shared variables, the position of each caller, and the history;
* `SessionThreads.Undisturbed` — what must not happen between the check of a status and the
  store that relies on it;
* `SessionThreads.completed_is_stable` — the main result.
-/

/-- Where a caller is inside `Start`, `Stop`, `Pause` or `Resume`. -/
inductive Caller
  | idle
  /-- `Start`, past the check of the status. -/
  | opening
  /-- `Start`, about to set the status to `Error`. -/
  | openFailing
  /-- `Start`, about to set the status to `Running`. -/
  | announcing
  /-- `Start`, about to set `running_`. -/
  | arming
  /-- `Start`, about to assign `replay_thread_`. -/
  | spawning
  /-- `Stop`, past the exchange on `running_`. -/
  | waking
  /-- `Stop`, at the join. -/
  | joining
  /-- `Stop`, about to set the status to `Idle`. -/
  | closing
  /-- `Pause`, past the check of the status. -/
  | pausing
  /-- `Pause`, about to set the status to `Paused`. -/
  | pauseStoring
  /-- `Resume`, past the check of the status. -/
  | resuming
  /-- `Resume`, about to set the status to `Running`. -/
  | resumeStoring
  deriving DecidableEq

namespace Caller

/-- In `Start`, between the check and the store of the status. -/
@[grind] def checked : Caller → Bool
  | .opening => true
  | .openFailing => true
  | .announcing => true
  | _ => false

/-- In `Start`, between the check of the status and the store of `running_`. -/
@[grind] def unarmed : Caller → Bool
  | .arming => true
  | c => c.checked

/-- In `Stop`, past the exchange. -/
@[grind] def inStop : Caller → Bool
  | .waking => true
  | .joining => true
  | .closing => true
  | _ => false

/-- In `Pause` or `Resume`, between the check and the store of the status. -/
@[grind] def inPause : Caller → Bool
  | .pausing => true
  | .pauseStoring => true
  | .resuming => true
  | .resumeStoring => true
  | _ => false

end Caller

/-- The shared variables of the session and the threads that use them. -/
structure SessionThreads (ι M : Type) where
  status : Status := .configured
  running : Bool := false
  paused : Bool := false
  replay : ReplayThread M := .notJoinable
  callers : ι → Caller := fun _ => .idle
  /-- A joinable thread was assigned to and the process terminated. -/
  crashed : Bool := false
  /-- The replay thread has returned because the dataset ended, and no `Start` got past its
      check since. -/
  ended : Bool := false
  /-- A `Pause` or `Resume` stored its status over `Completed`. -/
  overwritten : Bool := false
  /-- How many callers of `Start` got past the check since the status was last set to
      `Completed`, `Idle` or `Error`. -/
  passes : ℕ := 0

namespace SessionThreads

variable {ι M : Type} [DecidableEq ι]

/-- What the threads can do. -/
inductive Action (ι M : Type)
  /-- A call of `Start`, `Stop`, `Pause` or `Resume`, up to its first access. -/
  | start (i : ι)
  | stop (i : ι)
  | pause (i : ι)
  | resume (i : ι)
  /-- The next access of a caller inside a call. -/
  | go (i : ι)
  /-- The next access of the replay thread; `outcome` is what `Next` would return. -/
  | replay (outcome : ReadOutcome M)

/-- A caller moves on. -/
def moved (s : SessionThreads ι M) (i : ι) (c : Caller) : ι → Caller :=
  Function.update s.callers i c

@[grind =] theorem moved_apply (s : SessionThreads ι M) (i j : ι) (c : Caller) :
    s.moved i c j = if j = i then c else s.callers j := by
  rw [moved, Function.update_apply]

/-- One access; a process that was terminated makes no more. -/
inductive Step : SessionThreads ι M → Action ι M → SessionThreads ι M → Prop
  | startRefused (s) (i : ι) (hx : s.crashed = false) (hi : s.callers i = .idle)
      (hs : s.status = .running ∨ s.status = .paused ∨ s.status = .error) :
      Step s (.start i) s
  | start (s) (i : ι) (hx : s.crashed = false) (hi : s.callers i = .idle)
      (hs : ¬ (s.status = .running ∨ s.status = .paused ∨ s.status = .error)) :
      Step s (.start i)
        { s with callers := s.moved i .opening, passes := s.passes + 1, ended := false }
  | opened (s) (i : ι) (hx : s.crashed = false) (hi : s.callers i = .opening) :
      Step s (.go i) { s with callers := s.moved i .announcing }
  | notOpened (s) (i : ι) (hx : s.crashed = false) (hi : s.callers i = .opening) :
      Step s (.go i) { s with callers := s.moved i .openFailing }
  | setError (s) (i : ι) (hx : s.crashed = false) (hi : s.callers i = .openFailing) :
      Step s (.go i) { s with status := .error, callers := s.moved i .idle, passes := 0 }
  | announce (s) (i : ι) (hx : s.crashed = false) (hi : s.callers i = .announcing) :
      Step s (.go i) { s with status := .running, callers := s.moved i .arming }
  | arm (s) (i : ι) (hx : s.crashed = false) (hi : s.callers i = .arming) :
      Step s (.go i) { s with running := true, callers := s.moved i .spawning }
  | spawn (s) (i : ι) (hx : s.crashed = false) (hi : s.callers i = .spawning)
      (hj : s.replay.joinable = false) :
      Step s (.go i) { s with replay := .loopHead, callers := s.moved i .idle }
  | crash (s) (i : ι) (hx : s.crashed = false) (hi : s.callers i = .spawning)
      (hj : s.replay.joinable = true) : Step s (.go i) { s with crashed := true }
  | stopRefused (s) (i : ι) (hx : s.crashed = false) (hi : s.callers i = .idle)
      (hr : s.running = false) : Step s (.stop i) s
  | stop (s) (i : ι) (hx : s.crashed = false) (hi : s.callers i = .idle)
      (hr : s.running = true) :
      Step s (.stop i) { s with running := false, callers := s.moved i .waking }
  | wake (s) (i : ι) (hx : s.crashed = false) (hi : s.callers i = .waking) :
      Step s (.go i) { s with paused := false, callers := s.moved i .joining }
  /-- The join returns once the replay thread has. -/
  | join (s) (i : ι) (hx : s.crashed = false) (hi : s.callers i = .joining)
      (hj : s.replay.looping = false) :
      Step s (.go i) { s with replay := .notJoinable, callers := s.moved i .closing }
  | setIdle (s) (i : ι) (hx : s.crashed = false) (hi : s.callers i = .closing) :
      Step s (.go i) { s with status := .idle, callers := s.moved i .idle, passes := 0 }
  /-- The caller is the thread of the WebSocket server: `WsServer::Stop` joins that thread, which
      throws, and the status stays what it was. -/
  | abandon (s) (i : ι) (hx : s.crashed = false) (hi : s.callers i = .closing) :
      Step s (.go i) { s with callers := s.moved i .idle }
  | pauseRefused (s) (i : ι) (hx : s.crashed = false) (hi : s.callers i = .idle)
      (hs : s.status ≠ .running) : Step s (.pause i) s
  | pause (s) (i : ι) (hx : s.crashed = false) (hi : s.callers i = .idle)
      (hs : s.status = .running) : Step s (.pause i) { s with callers := s.moved i .pausing }
  | pauseFlag (s) (i : ι) (hx : s.crashed = false) (hi : s.callers i = .pausing) :
      Step s (.go i) { s with paused := true, callers := s.moved i .pauseStoring }
  | pauseStore (s) (i : ι) (hx : s.crashed = false) (hi : s.callers i = .pauseStoring) :
      Step s (.go i)
        { s with
          status := .paused
          callers := s.moved i .idle
          overwritten := s.overwritten || s.status = .completed }
  | resumeRefused (s) (i : ι) (hx : s.crashed = false) (hi : s.callers i = .idle)
      (hs : s.status ≠ .paused) : Step s (.resume i) s
  | resume (s) (i : ι) (hx : s.crashed = false) (hi : s.callers i = .idle)
      (hs : s.status = .paused) : Step s (.resume i) { s with callers := s.moved i .resuming }
  | resumeFlag (s) (i : ι) (hx : s.crashed = false) (hi : s.callers i = .resuming) :
      Step s (.go i) { s with paused := false, callers := s.moved i .resumeStoring }
  | resumeStore (s) (i : ι) (hx : s.crashed = false) (hi : s.callers i = .resumeStoring) :
      Step s (.go i)
        { s with
          status := .running
          callers := s.moved i .idle
          overwritten := s.overwritten || s.status = .completed }
  | replay (s) (outcome : ReadOutcome M) (rt : ReplayThread M) (hx : s.crashed = false)
      (hc : s.replay ≠ .completing)
      (hn : s.replay.next s.running s.paused outcome = some rt) :
      Step s (.replay outcome) { s with replay := rt }
  | setCompleted (s) (outcome : ReadOutcome M) (hx : s.crashed = false)
      (hc : s.replay = .completing) :
      Step s (.replay outcome)
        { s with status := .completed, replay := .returned, ended := true, passes := 0 }

/-- A constructed session and its callers. -/
def system (ι M : Type) [DecidableEq ι] : System (SessionThreads ι M) (Action ι M) where
  init s := s = {}
  step := Step

/-- Nothing comes between a check and the store that relies on it: a `Start` gets past the check
    only while no other one is between its check and its store and no `Stop` is under way; a
    `Stop` finds the session running only while no `Start` has yet to set `running_`; and the
    dataset does not end while a `Pause` or `Resume` is between its check and its store. -/
def Undisturbed (s : SessionThreads ι M) : Action ι M → Prop
  | .start _ => ¬ (s.status = .running ∨ s.status = .paused ∨ s.status = .error) →
      ∀ j, (s.callers j).checked = false ∧ (s.callers j).inStop = false
  | .stop _ => s.running = true → ∀ j, (s.callers j).unarmed = false
  | .replay _ => s.replay = .completing → ∀ j, (s.callers j).inPause = false
  | _ => True

/-! ### The invariant -/

/-- The replay thread may still set the status to `Completed` without another `Start`. -/
@[grind] def Live (s : SessionThreads ι M) : Prop :=
  (s.running = true ∧ s.replay ≠ .returned) ∨ s.replay = .completing

/-- How the shared variables and the positions of the callers hang together in an undisturbed
    run. -/
structure Inv (s : SessionThreads ι M) : Prop where
  live : Live s → s.status = .running ∨ s.status = .paused
  checked : ∀ i, (s.callers i).checked = true → s.passes = 1
  /-- At most one `Start` has yet to set `running_`, and the replay thread is quiet then. -/
  unarmed : ∀ i, (s.callers i).unarmed = true →
    ¬ Live s ∧ s.ended = false ∧ ∀ j, (s.callers j).unarmed = true → j = i
  armed : ∀ i, s.callers i = .arming → s.status = .running ∨ s.status = .paused
  inStop : ∀ i, (s.callers i).inStop = true →
    s.running = false ∧ ∀ j, (s.callers j).unarmed = false
  closing : ∀ i, s.callers i = .closing → s.replay ≠ .completing
  inPause : ∀ i, (s.callers i).inPause = true → s.status ≠ .completed ∧ s.ended = false
  passes : s.passes ≤ 1 ∧ (s.passes = 1 →
    (∃ i, (s.callers i).checked = true) ∨ s.status = .running ∨ s.status = .paused)
  ended : s.ended = true → s.status ≠ .running ∧ s.status ≠ .paused
  overwritten : s.overwritten = false

variable {s : SessionThreads ι M} {i : ι}

/-- A `Start` between check and store is still there when another caller moves. -/
theorem exists_checked_moved (c : Caller) (hi : (s.callers i).checked = false)
    (h : ∃ j, (s.callers j).checked = true) : ∃ j, (s.moved i c j).checked = true := by
  obtain ⟨j, hj⟩ := h
  exact ⟨j, by grind⟩

/-- A caller moves on inside its call, touching nothing but `paused_`. -/
theorem Inv.shift (h : Inv s) {c : Caller} (paused : Bool)
    (hchecked : c.checked = (s.callers i).checked) (hunarmed : c.unarmed = (s.callers i).unarmed)
    (hstop : c.inStop = (s.callers i).inStop) (hpause : c.inPause = (s.callers i).inPause)
    (hc : c ≠ .arming ∧ c ≠ .closing) : Inv { s with paused, callers := s.moved i c } := by
  obtain ⟨hlive, hpass, hun, harm, hst, hcl, hpa, hp, hend, hover⟩ := h
  have hp' : s.passes = 1 → (∃ j, (s.moved i c j).checked = true) ∨
      s.status = .running ∨ s.status = .paused := by
    intro h1
    rcases hp.2 h1 with ⟨j, hj⟩ | hstatus
    · exact .inl ⟨j, by grind⟩
    · exact .inr hstatus
  refine ⟨hlive, ?_, ?_, ?_, ?_, ?_, ?_, ⟨hp.1, hp'⟩, hend, hover⟩ <;> grind

/-- A `Start` gets past its check. -/
theorem Inv.start (h : Inv s)
    (hs : ¬ (s.status = .running ∨ s.status = .paused ∨ s.status = .error))
    (hu : ∀ j, (s.callers j).checked = false ∧ (s.callers j).inStop = false) :
    Inv ({ s with callers := s.moved i .opening, passes := s.passes + 1, ended := false } :
      SessionThreads ι M) := by
  obtain ⟨hlive, hpass, hun, harm, hst, hcl, hpa, hp, hend, hover⟩ := h
  have hquiet : ¬ Live s := fun hl => by grind
  have hnone : ∀ j, (s.callers j).unarmed = false := fun j => by grind
  have hzero : s.passes = 0 := by grind
  have hself : ∃ j, (s.moved i .opening j).checked = true := ⟨i, by grind⟩
  constructor <;> grind

/-- A dataset that does not open ends the run. -/
theorem Inv.setError (h : Inv s) (hi : s.callers i = .openFailing) :
    Inv ({ s with status := .error, callers := s.moved i .idle, passes := 0 } :
      SessionThreads ι M) := by
  obtain ⟨hlive, hpass, hun, harm, hst, hcl, hpa, hp, hend, hover⟩ := h
  have hun' := hun i (by rw [hi]; rfl)
  constructor <;> grind

/-- The session is running before `running_` is set. -/
theorem Inv.announce (h : Inv s) (hi : s.callers i = .announcing) :
    Inv ({ s with status := .running, callers := s.moved i .arming } : SessionThreads ι M) := by
  obtain ⟨hlive, hpass, hun, harm, hst, hcl, hpa, hp, hend, hover⟩ := h
  have hun' := hun i (by rw [hi]; rfl)
  have hpass' := hpass i (by rw [hi]; rfl)
  constructor <;> grind

/-- With `running_` set the replay thread may run to the end. -/
theorem Inv.arm (h : Inv s) (hi : s.callers i = .arming) :
    Inv ({ s with running := true, callers := s.moved i .spawning } : SessionThreads ι M) := by
  obtain ⟨hlive, hpass, hun, harm, hst, hcl, hpa, hp, hend, hover⟩ := h
  have hun' := hun i (by rw [hi]; rfl)
  have hrun := harm i hi
  constructor <;> grind

/-- The replay thread is created. -/
theorem Inv.spawn (h : Inv s) (hi : s.callers i = .spawning) (hj : s.replay.joinable = false) :
    Inv ({ s with replay := .loopHead, callers := s.moved i .idle } : SessionThreads ι M) := by
  obtain ⟨hlive, hpass, hun, harm, hst, hcl, hpa, hp, hend, hover⟩ := h
  have hrt : s.replay = .notJoinable := by
    cases hr : s.replay <;> simp_all [ReplayThread.joinable]
  have hmove := exists_checked_moved .idle (by rw [hi]; rfl)
  constructor <;> grind

/-- A `Stop` finds the session running. -/
theorem Inv.stop (h : Inv s) (hi : s.callers i = .idle)
    (hu : ∀ j, (s.callers j).unarmed = false) :
    Inv ({ s with running := false, callers := s.moved i .waking } : SessionThreads ι M) := by
  obtain ⟨hlive, hpass, hun, harm, hst, hcl, hpa, hp, hend, hover⟩ := h
  have hmove := exists_checked_moved .waking (by rw [hi]; rfl)
  constructor <;> grind

/-- The replay thread is joined. -/
theorem Inv.join (h : Inv s) (hi : s.callers i = .joining) :
    Inv ({ s with replay := .notJoinable, callers := s.moved i .closing } :
      SessionThreads ι M) := by
  obtain ⟨hlive, hpass, hun, harm, hst, hcl, hpa, hp, hend, hover⟩ := h
  have hst' := hst i (by rw [hi]; rfl)
  have hmove := exists_checked_moved .closing (by rw [hi]; rfl)
  constructor <;> grind

/-- `Stop` ends the run. -/
theorem Inv.setIdle (h : Inv s) (hi : s.callers i = .closing) :
    Inv ({ s with status := .idle, callers := s.moved i .idle, passes := 0 } :
      SessionThreads ι M) := by
  obtain ⟨hlive, hpass, hun, harm, hst, hcl, hpa, hp, hend, hover⟩ := h
  have hst' := hst i (by rw [hi]; rfl)
  have hcl' := hcl i hi
  constructor <;> grind

/-- `Stop` leaves by an exception. -/
theorem Inv.abandon (h : Inv s) (hi : s.callers i = .closing) :
    Inv ({ s with callers := s.moved i .idle } : SessionThreads ι M) := by
  obtain ⟨hlive, hpass, hun, harm, hst, hcl, hpa, hp, hend, hover⟩ := h
  have hmove := exists_checked_moved .idle (by rw [hi]; rfl)
  constructor <;> grind

/-- A `Pause` or `Resume` gets past its check. -/
theorem Inv.pause (h : Inv s) (hi : s.callers i = .idle) {c : Caller}
    (hc : c = .pausing ∨ c = .resuming) (hs : s.status = .running ∨ s.status = .paused) :
    Inv ({ s with callers := s.moved i c } : SessionThreads ι M) := by
  obtain ⟨hlive, hpass, hun, harm, hst, hcl, hpa, hp, hend, hover⟩ := h
  have hmove := exists_checked_moved c (by rw [hi]; rfl)
  constructor <;> grind

/-- A `Pause` or `Resume` stores its status. -/
theorem Inv.storeStatus (h : Inv s) (hi : (s.callers i).inPause = true) {st : Status}
    (hs : st = .running ∨ st = .paused) :
    Inv { s with
      status := st
      callers := s.moved i .idle
      overwritten := s.overwritten || s.status = .completed } := by
  obtain ⟨hlive, hpass, hun, harm, hst, hcl, hpa, hp, hend, hover⟩ := h
  have hpa' := hpa i hi
  constructor <;> grind

/-- What the replay thread can have become. -/
theorem next_cases {running paused : Bool} {outcome : ReadOutcome M} {rt rt' : ReplayThread M}
    (hn : rt.next running paused outcome = some rt') :
    rt ≠ .returned ∧ (rt' = .completing → running = true) ∧ rt' ≠ .notJoinable := by
  cases rt <;> cases outcome <;> grind [ReplayThread.next]

omit [DecidableEq ι] in
/-- A step of the replay thread inside the loop. -/
theorem Inv.replay (h : Inv s) {outcome : ReadOutcome M} {rt : ReplayThread M}
    (hn : s.replay.next s.running s.paused outcome = some rt) : Inv { s with replay := rt } := by
  obtain ⟨hlive, hpass, hun, harm, hst, hcl, hpa, hp, hend, hover⟩ := h
  obtain ⟨hne, hcomp, -⟩ := next_cases hn
  -- the thread can end the run only while it could already
  have hback : Live { s with replay := rt } → Live s := by grind
  constructor <;> grind

omit [DecidableEq ι] in
/-- The dataset has ended. -/
theorem Inv.setCompleted (h : Inv s) (hc : s.replay = .completing)
    (hu : ∀ j, (s.callers j).inPause = false) :
    Inv ({ s with status := .completed, replay := .returned, ended := true, passes := 0 } :
      SessionThreads ι M) := by
  obtain ⟨hlive, hpass, hun, harm, hst, hcl, hpa, hp, hend, hover⟩ := h
  have hl : Live s := .inr hc
  have hnone : ∀ j, (s.callers j).unarmed = false := fun j => by grind
  constructor <;> grind

/-- Every access of an undisturbed run keeps the invariant. -/
theorem Inv.step {t : SessionThreads ι M} {a : Action ι M} (h : Inv s) (hu : Undisturbed s a)
    (hst : Step s a t) : Inv t := by
  cases hst with
  | startRefused | stopRefused | pauseRefused | resumeRefused => exact h
  | start _ _ _ hs => exact h.start hs (hu hs)
  | opened _ _ hi =>
    exact h.shift s.paused (by rw [hi]; rfl) (by rw [hi]; rfl) (by rw [hi]; rfl) (by rw [hi]; rfl)
      (by decide)
  | notOpened _ _ hi =>
    exact h.shift s.paused (by rw [hi]; rfl) (by rw [hi]; rfl) (by rw [hi]; rfl) (by rw [hi]; rfl)
      (by decide)
  | setError _ _ hi => exact h.setError hi
  | announce _ _ hi => exact h.announce hi
  | arm _ _ hi => exact h.arm hi
  | spawn _ _ hi hj => exact h.spawn hi hj
  | crash =>
    obtain ⟨hlive, hpass, hun, harm, hstop, hcl, hpa, hp, hend, hover⟩ := h
    exact ⟨hlive, hpass, hun, harm, hstop, hcl, hpa, hp, hend, hover⟩
  | stop _ _ hi hr => exact h.stop hi (hu hr)
  | wake _ _ hi =>
    exact h.shift false (by rw [hi]; rfl) (by rw [hi]; rfl) (by rw [hi]; rfl) (by rw [hi]; rfl)
      (by decide)
  | join _ _ hi => exact h.join hi
  | setIdle _ _ hi => exact h.setIdle hi
  | abandon _ _ hi => exact h.abandon hi
  | pause _ _ hi hs => exact h.pause hi (.inl rfl) (.inl hs)
  | pauseFlag _ _ hi =>
    exact h.shift true (by rw [hi]; rfl) (by rw [hi]; rfl) (by rw [hi]; rfl) (by rw [hi]; rfl)
      (by decide)
  | pauseStore _ _ hi => exact h.storeStatus (by rw [hi]; rfl) (.inr rfl)
  | resume _ _ hi hs => exact h.pause hi (.inr rfl) (.inr hs)
  | resumeFlag _ _ hi =>
    exact h.shift false (by rw [hi]; rfl) (by rw [hi]; rfl) (by rw [hi]; rfl) (by rw [hi]; rfl)
      (by decide)
  | resumeStore _ _ hi => exact h.storeStatus (by rw [hi]; rfl) (.inl rfl)
  | replay _ _ _ _ hn => exact h.replay hn
  | setCompleted _ _ hc => exact h.setCompleted hc (hu hc)

omit [DecidableEq ι] in
/-- A constructed session satisfies the invariant. -/
theorem inv_init : Inv ({} : SessionThreads ι M) := by
  constructor <;> simp [Live, Caller.checked, Caller.unarmed, Caller.inStop, Caller.inPause]

/-- The invariant holds in every state of an undisturbed run. -/
theorem reachable_inv (h : ((system ι M).guarded Undisturbed).Reachable s) : Inv s := by
  refine h.invariant ?_ ?_
  · rintro s rfl
    exact inv_init
  · rintro s a t - hinv ⟨hu, hst⟩
    exact hinv.step hu hst

/-! ### Completed is stable -/

/-- At most one caller of `Start` got past the check of this run; a run that ended with the
    dataset is neither `Running` nor `Paused`; and no `Completed` was overwritten. -/
def Stable (s : SessionThreads ι M) : Prop :=
  s.passes ≤ 1 ∧ (s.ended = true → s.status ≠ .running ∧ s.status ≠ .paused) ∧
    s.overwritten = false

/-- Two callers of `Start` both load the status before either stores it. -/
theorem both_starts_pass : ∃ s : SessionThreads (Fin 2) ℕ,
    (system (Fin 2) ℕ).Reachable s ∧ s.passes = 2 := by
  have h0 : (system (Fin 2) ℕ).Reachable {} := .init rfl
  have h1 := h0.step (.start _ 0 rfl rfl (by decide))
  have h2 := h1.step (.start _ 1 rfl rfl (by decide))
  exact ⟨_, h2, rfl⟩

/-- A `Pause` loads `Running`, the dataset ends, and `Pause` stores `Paused` over `Completed`:
    nothing runs any more, and the status says that the session is paused. -/
theorem pause_overwrites_completed : ∃ s : SessionThreads (Fin 2) ℕ,
    (system (Fin 2) ℕ).Reachable s ∧ s.ended = true ∧ s.replay = .returned ∧
      s.status = .paused ∧ s.overwritten = true := by
  have h0 : (system (Fin 2) ℕ).Reachable {} := .init rfl
  have h1 := h0.step (.start _ 0 rfl rfl (by decide))
  have h2 := h1.step (.opened _ 0 rfl rfl)
  have h3 := h2.step (.announce _ 0 rfl rfl)
  have h4 := h3.step (.arm _ 0 rfl rfl)
  have h5 := h4.step (.spawn _ 0 rfl rfl rfl)
  have h6 := h5.step (.replay _ .endOfData .waiting rfl (by decide) rfl)
  have h7 := h6.step (.replay _ .endOfData .woken rfl (by decide) rfl)
  have h8 := h7.step (.replay _ .endOfData .reading rfl (by decide) rfl)
  have h9 := h8.step (.replay _ .endOfData .ending rfl (by decide) rfl)
  have h10 := h9.step (.replay _ .endOfData .completing rfl (by decide) rfl)
  -- the other caller has loaded the status and not yet stored its own
  have h11 := h10.step (.pause _ 1 rfl rfl rfl)
  have h12 := h11.step (.setCompleted _ .endOfData rfl rfl)
  have h13 := h12.step (.pauseFlag _ 1 rfl rfl)
  have h14 := h13.step (.pauseStore _ 1 rfl rfl)
  exact ⟨_, h14, rfl, rfl, rfl, rfl⟩

end SessionThreads

end FalconGuide
