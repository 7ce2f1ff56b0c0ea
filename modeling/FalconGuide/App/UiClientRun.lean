import FalconGuide.Lib.Descriptors
import FalconGuide.Lib.TransitionSystem

namespace FalconGuide

open Lib

/-!
# The descriptor of the user interface's client

`WsClient::Loop` opens a socket, stores it as `socket_fd_`, and closes it once the connection has
ended.  `Disconnect` closes `socket_fd_` too, so that `recv` returns; the loop then closes the same
number again, by which time it may be anybody's.

* `UiLoop`, `UiControl`, `UiRun` — where the loop and `Disconnect` are, and the descriptors;
* `UiRun.Step`, `UiRun.system` — the steps of both, and of the rest of the process;
* `UiRun.Balanced` — the invariant: every socket is closed once, and every `close` of a
  `Disconnect` is one `close` too many, made or about to be made;
* `UiRun.socket_closings` — the main result.
-/

/-! ### The state -/

/-- Where `Loop` is. -/
inductive UiLoop
  /-- No thread to join. -/
  | notJoinable
  /-- At the loop condition, perhaps asleep before it. -/
  | head
  /-- In `sock_connect`, which has the socket. -/
  | connecting (fd : ℕ)
  /-- `sock_connect` returned the socket, about to store it. -/
  | storing (fd : ℕ)
  | handshaking (fd : ℕ)
  /-- At the condition of the loop over the frames, or in it. -/
  | receiving (fd : ℕ)
  /-- That loop is left, about to clear `connected_`. -/
  | leaving (fd : ℕ)
  /-- About to close the socket. -/
  | closing (fd : ℕ)
  /-- The socket closed, about to store `-1`. -/
  | closed
  | returned
  deriving DecidableEq

namespace UiLoop

/-- The number in the local variable `fd`, before the loop has closed it. -/
def holding : UiLoop → Option ℕ
  | connecting fd | storing fd | handshaking fd | receiving fd | leaving fd | closing fd => some fd
  | notJoinable | head | closed | returned => none

/-- The loop has stored `fd`, and not yet `-1`. -/
def Stored (fd : ℕ) : UiLoop → Prop
  | handshaking fd' | receiving fd' | leaving fd' | closing fd' => fd' = fd
  | closed => True
  | notJoinable | head | connecting _ | storing _ | returned => False

/-- The frames are read, or were a moment ago. -/
def Receives : UiLoop → Prop
  | receiving _ | leaving _ => True
  | _ => False

/-- What is stored is what the loop holds. -/
theorem Stored.holding {l : UiLoop} {fd fd' : ℕ} (h : l.Stored fd) (hl : l.holding = some fd') :
    fd' = fd := by
  cases l with
  | handshaking _ | receiving _ | leaving _ | closing _ => cases hl; exact h
  | connecting _ | storing _ => cases h
  | notJoinable | head | closed | returned => cases hl

end UiLoop

/-- Where the thread that calls `Connect` and `Disconnect` is. -/
inductive UiControl
  | idle
  /-- `running_` cleared. -/
  | disconnecting
  /-- `connected_` cleared, about to test `socket_fd_`. -/
  | testing
  /-- The test found a socket, about to read `socket_fd_` again for the call. -/
  | found
  /-- About to close what was read; `none` is `-1`. -/
  | closing (fd : Option ℕ)
  /-- About to store `-1`. -/
  | clearing
  /-- At the join. -/
  | joining
  deriving DecidableEq

/-- The call of `sock_close` is over, and the join is not. -/
def UiControl.Closed : UiControl → Prop
  | clearing | joining => True
  | _ => False

/-- A client and the descriptors of the process. -/
structure UiRun where
  fds : Descriptors := {}
  running : Bool := false
  connected : Bool := false
  /-- `socket_fd_`; `-1` is no descriptor. -/
  socketFd : Option ℕ := none
  loop : UiLoop := .notJoinable
  control : UiControl := .idle
  /-- How often `Disconnect` has closed a number. -/
  stops : ℕ := 0

namespace UiRun

/-! ### Steps -/

/-- What the threads and the operating system can do. -/
inductive Action
  /-- The thread that calls `Connect` and `Disconnect`. -/
  | control
  | loop
  /-- Another part of the process opens or closes a descriptor. -/
  | other

/-- One step.  `Connect` on a client that runs does nothing. -/
inductive Step : UiRun → Action → UiRun → Prop
  | connect (s) (hc : s.control = .idle) (hr : s.running = false) (hl : s.loop = .notJoinable) :
      Step s .control { s with running := true, loop := .head }
  | disconnect (s) (hc : s.control = .idle) :
      Step s .control { s with running := false, control := .disconnecting }
  | disconnectConnected (s) (hc : s.control = .disconnecting) :
      Step s .control { s with connected := false, control := .testing }
  | disconnectNone (s) (hc : s.control = .testing) (hfd : s.socketFd = none) :
      Step s .control { s with control := .joining }
  | disconnectFound (s) (fd) (hc : s.control = .testing) (hfd : s.socketFd = some fd) :
      Step s .control { s with control := .found }
  | disconnectRead (s) (hc : s.control = .found) :
      Step s .control { s with control := .closing s.socketFd }
  | disconnectClose (s) (fd) (hc : s.control = .closing (some fd)) :
      Step s .control
        { s with fds := s.fds.closeFd fd, control := .clearing, stops := s.stops + 1 }
  /-- `close(-1)` does nothing. -/
  | disconnectBad (s) (hc : s.control = .closing none) :
      Step s .control { s with control := .clearing }
  | disconnectClear (s) (hc : s.control = .clearing) :
      Step s .control { s with socketFd := none, control := .joining }
  /-- The join returns once the loop has, and at once without a thread. -/
  | disconnectJoin (s) (hc : s.control = .joining)
      (hl : s.loop = .returned ∨ s.loop = .notJoinable) :
      Step s .control { s with loop := .notJoinable, control := .idle }
  | leave (s) (hl : s.loop = .head) (hr : s.running = false) :
      Step s .loop { s with loop := .returned }
  /-- `getaddrinfo` or `socket` fails, and the loop sleeps. -/
  | noSocket (s) (hl : s.loop = .head) (hr : s.running = true) : Step s .loop s
  | socket (s) (fd) (hl : s.loop = .head) (hr : s.running = true) (hfree : s.fds.table fd = none) :
      Step s .loop { s with fds := s.fds.acceptFd fd, loop := .connecting fd }
  /-- `connect` fails, and `sock_connect` closes the socket. -/
  | connectFailed (s) (fd) (hl : s.loop = .connecting fd) :
      Step s .loop { s with fds := s.fds.closeFd fd, loop := .head }
  | connectDone (s) (fd) (hl : s.loop = .connecting fd) :
      Step s .loop { s with loop := .storing fd }
  | store (s) (fd) (hl : s.loop = .storing fd) :
      Step s .loop { s with socketFd := some fd, loop := .handshaking fd }
  | refused (s) (fd) (hl : s.loop = .handshaking fd) :
      Step s .loop { s with loop := .closing fd }
  | upgraded (s) (fd) (hl : s.loop = .handshaking fd) :
      Step s .loop { s with connected := true, loop := .receiving fd }
  /-- `RecvFrame` returns true, and the message is handed on. -/
  | receive (s) (fd) (hl : s.loop = .receiving fd) : Step s .loop s
  /-- `RecvFrame` returns false. -/
  | recvFailed (s) (fd) (hl : s.loop = .receiving fd) : Step s .loop { s with loop := .leaving fd }
  /-- The condition of the loop over the frames does not hold, also behind a last frame. -/
  | stopped (s) (fd) (hl : s.loop = .receiving fd) (hr : s.running = false) :
      Step s .loop { s with loop := .leaving fd }
  | clearConnected (s) (fd) (hl : s.loop = .leaving fd) :
      Step s .loop { s with connected := false, loop := .closing fd }
  | close (s) (fd) (hl : s.loop = .closing fd) :
      Step s .loop { s with fds := s.fds.closeFd fd, loop := .closed }
  | storeNone (s) (hl : s.loop = .closed) :
      Step s .loop { s with socketFd := none, loop := .head }
  | otherOpen (s) (fd) (hfree : s.fds.table fd = none) :
      Step s .other { s with fds := s.fds.openFd fd }
  /-- Another part of the process closes what it has opened.  It never closes a number that the
      client has opened and not closed yet. -/
  | otherClose (s) (fd c) (hopen : s.fds.table fd = some c) (hc : c ∉ s.fds.accepted) :
      Step s .other { s with fds := s.fds.forgetFd fd }

/-- A client that was constructed, and its runs. -/
def system : System UiRun Action where
  init s := s = {}
  step := Step

variable {s t : UiRun}

/-! ### The invariant -/

/-- The sockets that are open are the one the loop holds, and every `close` of a `Disconnect` is
    followed by one of the loop that closes nothing, or what is not the client's. -/
def Accounted (s : UiRun) : Prop :=
  match s.loop.holding with
  | none => s.fds.Tracked [] ∧ s.fds.misses = s.stops
  | some fd =>
    (s.fds.Tracked [fd] ∧ s.fds.misses = s.stops) ∨
      (s.fds.Tracked [] ∧ s.fds.misses + 1 = s.stops ∧ s.control.Closed)

/-- What holds in every state. -/
structure Balanced (s : UiRun) : Prop where
  accounted : s.Accounted
  /-- `Disconnect` has cleared `running_` first. -/
  running : s.control ≠ .idle → s.running = false
  joined : s.control = .idle → s.running = false → s.loop = .notJoinable
  stored : ∀ fd, s.socketFd = some fd → s.loop.Stored fd
  /-- What `Disconnect` is about to close, the loop holds or has closed. -/
  argument : ∀ fd fd', s.control = .closing (some fd) → s.loop.holding = some fd' → fd' = fd
  connected : s.connected = true → s.loop.Receives

/-- Only the descriptors, what the loop holds and the calls of `sock_close` matter. -/
theorem Accounted.congr (h : s.Accounted) (hfds : t.fds = s.fds)
    (hloop : t.loop.holding = s.loop.holding) (hstops : t.stops = s.stops)
    (hclosed : s.control.Closed → t.control.Closed) : t.Accounted := by
  unfold Accounted at *
  rw [hfds, hloop, hstops]
  cases hhold : s.loop.holding with
  | none => rwa [hhold] at h
  | some fd =>
    rw [hhold] at h
    exact h.imp_right fun ⟨htracked, hmiss, hc⟩ => ⟨htracked, hmiss, hclosed hc⟩

/-- **The loop closes** what it holds: the socket, or a number that `Disconnect` has closed. -/
theorem Accounted.close {fd : ℕ} (h : s.Accounted) (hl : s.loop.holding = some fd)
    (hfds : t.fds = s.fds.closeFd fd) (hloop : t.loop.holding = none)
    (hstops : t.stops = s.stops) : t.Accounted := by
  unfold Accounted at *
  rw [hl] at h
  rw [hfds, hloop, hstops]
  rcases h with ⟨htracked, hmiss⟩ | ⟨htracked, hmiss, -⟩
  · obtain ⟨hclosed, hsame⟩ := htracked.closeFd (List.mem_singleton_self fd)
    rw [List.erase_cons_head] at hclosed
    exact ⟨hclosed, hsame.trans hmiss⟩
  · obtain ⟨hclosed, hmore⟩ := htracked.closeFd_other (List.not_mem_nil (a := fd))
    exact ⟨hclosed, hmore.trans hmiss⟩

/-- **`Disconnect` closes** the socket under the loop, or a number that the loop has closed. -/
theorem Accounted.disconnectClose {fd : ℕ} (h : s.Accounted) (hc : s.control = .closing (some fd))
    (harg : ∀ fd', s.loop.holding = some fd' → fd' = fd) :
    Accounted
      { s with fds := s.fds.closeFd fd, control := .clearing, stops := s.stops + 1 } := by
  unfold Accounted at *
  cases hhold : s.loop.holding with
  | none =>
    rw [hhold] at h
    obtain ⟨hclosed, hmore⟩ := h.1.closeFd_other (List.not_mem_nil (a := fd))
    exact ⟨hclosed, hmore.trans (congrArg (· + 1) h.2)⟩
  | some fd' =>
    rw [hhold] at h
    have hfd := harg fd' hhold
    subst hfd
    rcases h with ⟨htracked, hmiss⟩ | ⟨-, -, hover⟩
    · -- the socket was open, and is closed once more by the loop
      obtain ⟨hclosed, hsame⟩ := htracked.closeFd (List.mem_singleton_self fd')
      rw [List.erase_cons_head] at hclosed
      exact .inr ⟨hclosed, congrArg (· + 1) (hsame.trans hmiss), trivial⟩
    · rw [hc] at hover
      exact hover.elim

theorem Accounted.socket {fd : ℕ} (h : s.Accounted) (hl : s.loop = .head)
    (hfree : s.fds.table fd = none) :
    Accounted { s with fds := s.fds.acceptFd fd, loop := .connecting fd } := by
  unfold Accounted at *
  rw [hl] at h
  exact .inl ⟨h.1.acceptFd hfree, h.1.misses_acceptFd.trans h.2⟩

/-- **The rest of the process** does not change what the client has closed. -/
theorem Accounted.other {d : Descriptors} (h : s.Accounted)
    (htracked : ∀ fds, s.fds.Tracked fds → d.Tracked fds) (hmiss : d.misses = s.fds.misses) :
    Accounted { s with fds := d } := by
  unfold Accounted at *
  cases hhold : s.loop.holding with
  | none =>
    rw [hhold] at h
    exact ⟨htracked [] h.1, hmiss.trans h.2⟩
  | some fd =>
    rw [hhold] at h
    refine h.imp ?_ ?_
    · rintro ⟨hopen, heq⟩
      exact ⟨htracked [fd] hopen, hmiss.trans heq⟩
    · rintro ⟨hclosed, heq, hover⟩
      exact ⟨htracked [] hclosed, (congrArg (· + 1) hmiss).trans heq, hover⟩

theorem Step.accounted {l : Action} (hst : Step s l t) (h : s.Balanced) : t.Accounted := by
  have ha := h.accounted
  cases hst with
  | connect hc hr hl => exact ha.congr rfl (by rw [hl]; rfl) rfl (by rw [hc]; exact id)
  | disconnect hc => exact ha.congr rfl rfl rfl (by rw [hc]; exact False.elim)
  | disconnectConnected hc | disconnectRead hc => exact ha.congr rfl rfl rfl (by rw [hc]; exact id)
  | disconnectNone hc | disconnectBad hc | disconnectClear hc =>
    exact ha.congr rfl rfl rfl fun _ => trivial
  | disconnectFound fd hc hfd => exact ha.congr rfl rfl rfl (by rw [hc]; exact id)
  | disconnectClose fd hc => exact ha.disconnectClose hc fun fd' => h.argument fd fd' hc
  | disconnectJoin hc hl =>
    -- the loop that was joined holds nothing
    have hnone : s.loop.holding = none := by
      rcases hl with hl | hl <;> rw [hl] <;> rfl
    unfold Accounted at *
    rw [hnone] at ha
    exact ha
  | leave hl hr => exact ha.congr rfl (by rw [hl]; rfl) rfl id
  | noSocket hl hr => exact ha
  | socket fd hl hr hfree => exact ha.socket hl hfree
  | connectFailed fd hl => exact ha.close (by rw [hl]; rfl) rfl rfl rfl
  | connectDone fd hl | store fd hl | refused fd hl | upgraded fd hl | recvFailed fd hl
    | clearConnected fd hl => exact ha.congr rfl (by rw [hl]; rfl) rfl id
  | receive fd hl => exact ha
  | stopped fd hl hr => exact ha.congr rfl (by rw [hl]; rfl) rfl id
  | close fd hl => exact ha.close (by rw [hl]; rfl) rfl rfl rfl
  | storeNone hl => exact ha.congr rfl (by rw [hl]; rfl) rfl id
  | otherOpen fd hfree => exact ha.other (fun _ h => h.openFd hfree) rfl
  | otherClose fd c hopen hc => exact ha.other (fun _ h => h.forgetFd hopen hc) rfl

theorem Step.running {l : Action} (hst : Step s l t) (h : s.Balanced) :
    t.control ≠ .idle → t.running = false := by
  have hr := h.running
  cases hst <;> simp_all

theorem Step.joined {l : Action} (hst : Step s l t) (h : s.Balanced) :
    t.control = .idle → t.running = false → t.loop = .notJoinable := by
  have hj := h.joined
  cases hst <;> simp_all

theorem Step.stored {l : Action} (hst : Step s l t) (h : s.Balanced) :
    ∀ fd, t.socketFd = some fd → t.loop.Stored fd := by
  have hs := h.stored
  cases hst with
  | disconnectJoin hc hl => rcases hl with hl | hl <;> simp_all [UiLoop.Stored]
  | _ => simp_all [UiLoop.Stored]

theorem Step.argument {l : Action} (hst : Step s l t) (h : s.Balanced) :
    ∀ fd fd', t.control = .closing (some fd) → t.loop.holding = some fd' → fd' = fd := by
  have ha := h.argument
  have hr := h.running
  have hs := h.stored
  cases hst with
  | disconnectRead hc =>
    intro fd fd' hfd hl
    exact (hs fd (UiControl.closing.inj hfd)).holding hl
  | socket fd hl hrun hfree =>
    -- while `Disconnect` is on its way, the loop opens no socket
    intro fd₁ fd₂ hc
    have hstop := hr (by rw [hc]; nofun)
    rw [hrun] at hstop
    cases hstop
  | _ => simp_all [UiLoop.holding]

theorem Step.connected {l : Action} (hst : Step s l t) (h : s.Balanced) :
    t.connected = true → t.loop.Receives := by
  have hc := h.connected
  cases hst with
  | disconnectJoin hc hl => rcases hl with hl | hl <;> simp_all [UiLoop.Receives]
  | _ => simp_all [UiLoop.Receives]

theorem balanced_init : Balanced {} where
  accounted := ⟨Descriptors.tracked_init, rfl⟩
  running := absurd rfl
  joined _ _ := rfl
  stored := nofun
  argument := nofun
  connected := nofun

theorem Step.balanced {l : Action} (hst : Step s l t) (h : s.Balanced) : t.Balanced where
  accounted := hst.accounted h
  running := hst.running h
  joined := hst.joined h
  stored := hst.stored h
  argument := hst.argument h
  connected := hst.connected h

theorem balanced_of_reachable (h : system.Reachable s) : s.Balanced := by
  refine h.invariant (I := Balanced) ?_ fun _ _ _ _ hi hst => Step.balanced hst hi
  rintro _ rfl
  exact balanced_init

theorem Balanced.closings_le_one (h : s.Balanced) {c : ℕ} (hc : c ∈ s.fds.accepted) :
    s.fds.closings c ≤ 1 := by
  have ha := h.accounted
  unfold Accounted at ha
  cases hhold : s.loop.holding with
  | none =>
    rw [hhold] at ha
    exact ha.1.closings_le_one hc
  | some fd =>
    rw [hhold] at ha
    exact ha.elim (fun h => h.1.closings_le_one hc) fun h => h.1.closings_le_one hc

theorem Balanced.misses_le (h : s.Balanced) : s.fds.misses ≤ s.stops := by
  have ha := h.accounted
  unfold Accounted at ha
  cases hhold : s.loop.holding with
  | none =>
    rw [hhold] at ha
    exact Nat.le_of_eq ha.2
  | some fd =>
    rw [hhold] at ha
    rcases ha with ⟨-, heq⟩ | ⟨-, heq, -⟩ <;> omega

/-- Once the loop holds no socket, all are closed. -/
theorem Balanced.closed (h : s.Balanced) (hhold : s.loop.holding = none) :
    (∀ c ∈ s.fds.accepted, ¬ s.fds.IsOpen c ∧ s.fds.closings c = 1) ∧ s.fds.misses = s.stops := by
  have ha := h.accounted
  unfold Accounted at ha
  rw [hhold] at ha
  exact ⟨fun c hc => ha.1.closed hc, ha.2⟩

/-- When `Disconnect` has returned. -/
theorem Balanced.disconnected (h : s.Balanced) (hc : s.control = .idle) (hr : s.running = false) :
    s.loop = .notJoinable ∧ s.socketFd = none ∧ s.connected = false := by
  have hl := h.joined hc hr
  refine ⟨hl, Option.eq_none_iff_forall_ne_some.mpr fun fd hfd => ?_, ?_⟩
  · have hstored := h.stored fd hfd
    rw [hl] at hstored
    exact hstored
  · have hrecv := h.connected
    rw [hl] at hrecv
    exact Bool.eq_false_iff.mpr hrecv

/-! ### Main result -/

/-- **One `close` too many** for every `Disconnect` that finds a socket.  In every reachable state
    no socket has been closed twice; once the loop holds none, each has been closed, and the client
    has closed nothing, or what is not its own, as often as `Disconnect` has closed a number.
    When `Disconnect` has returned, there is no thread, no stored number, and no connection. -/
theorem socket_closings (h : system.Reachable s) :
    (∀ c ∈ s.fds.accepted, s.fds.closings c ≤ 1) ∧ s.fds.misses ≤ s.stops ∧
      (s.loop.holding = none →
        (∀ c ∈ s.fds.accepted, ¬ s.fds.IsOpen c ∧ s.fds.closings c = 1) ∧
          s.fds.misses = s.stops) ∧
      (s.control = .idle → s.running = false →
        s.loop = .notJoinable ∧ s.socketFd = none ∧ s.connected = false) := by
  have hb := balanced_of_reachable h
  exact ⟨fun c hc => hb.closings_le_one hc, hb.misses_le, hb.closed, hb.disconnected⟩

/-- `Disconnect` under a loop that reads frames: another part of the process opens the number that
    was closed, and the loop closes it. -/
theorem socket_closings_another :
    ∃ s : UiRun, system.Reachable s ∧ s.loop.holding = none ∧ s.fds.accepted = [0] ∧
      s.fds.closes = [(5, some 0), (5, some 1)] ∧ s.fds.misses = 1 ∧ s.stops = 1 := by
  have h₀ : system.Reachable {} := .init rfl
  have h₁ := h₀.step (.connect _ rfl rfl rfl)
  have h₂ := h₁.step (.socket _ 5 rfl rfl rfl)
  have h₃ := h₂.step (.connectDone _ 5 rfl)
  have h₄ := h₃.step (.store _ 5 rfl)
  have h₅ := h₄.step (.upgraded _ 5 rfl)
  have h₆ := h₅.step (.disconnect _ rfl)
  have h₇ := h₆.step (.disconnectConnected _ rfl)
  have h₈ := h₇.step (.disconnectFound _ 5 rfl rfl)
  have h₉ := h₈.step (.disconnectRead _ rfl)
  have h₁₀ := h₉.step (.disconnectClose _ 5 rfl)
  have h₁₁ := h₁₀.step (.otherOpen _ 5 rfl)
  have h₁₂ := h₁₁.step (.recvFailed _ 5 rfl)
  have h₁₃ := h₁₂.step (.clearConnected _ 5 rfl)
  have h₁₄ := h₁₃.step (.close _ 5 rfl)
  exact ⟨_, h₁₄, rfl, rfl, rfl, ((socket_closings h₁₄).2.2.1 rfl).2, rfl⟩

end UiRun

end FalconGuide
