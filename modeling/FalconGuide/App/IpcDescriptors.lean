import FalconGuide.App.IpcClients

namespace FalconGuide

open Lib

/-!
# Descriptors are closed once

`RemoveClient`, `Broadcast` and `Stop` close client descriptors.  The read path decides under
`clients_mutex_` which clients to remove, and removes them after it has released the mutex, so that
`Broadcast` or `Stop` can be there first.

* `IpcRun.ClosedOnce` — every `close` finds a client descriptor open, and no client descriptor is
  left open;
* `IpcRun.Undisturbed` — no other thread closes a client that the loop has in hand;
* `IpcRun.closed_once` — the main result.
-/

namespace IpcRun

variable {s t : IpcRun}

/-- The descriptors that `accept` has returned are closed once, and by nobody twice. -/
structure ClosedOnce (s : IpcRun) : Prop where
  /-- What a `close` finds is open, and was returned by `accept`. -/
  hit : ∀ p ∈ s.fds.closes, ∃ c ∈ s.fds.accepted, p.2 = some c
  notYet : ∀ c ∈ s.fds.accepted, s.fds.IsOpen c → s.fds.closings c = 0
  once : ∀ c ∈ s.fds.accepted, ¬ s.fds.IsOpen c → s.fds.closings c = 1
  /-- Nothing is left open that is not registered, or about to be. -/
  registered : ∀ fd c, s.fds.table fd = some c → c ∈ s.fds.accepted →
    fd ∈ s.clients ∨ fd ∈ s.loop.accepted
  /-- Once `Stop` has returned, nothing is left open. -/
  stopped : s.control = .idle → s.running = false → ∀ c ∈ s.fds.accepted, ¬ s.fds.IsOpen c

/-- No other thread closes a descriptor that the loop is going to close or to register. -/
def Undisturbed (s : IpcRun) : Action → Prop
  | .broadcast dead => ∀ fd ∈ dead, fd ∉ s.loop.doomed
  | .control => s.control = .closing → s.loop.doomed = [] ∧ s.loop.accepted = []
  | _ => True

/-- Where `Stop` and the loop are. -/
structure Placed (s : IpcRun) : Prop where
  doomed : ∀ toRemove, s.loop = .removing toRemove →
    toRemove.Nodup ∧ ∀ fd ∈ toRemove, fd ∈ s.clients
  idle : s.control = .idle → s.running = false → s.clients = [] ∧ s.loop = .notJoinable
  stopping : s.control ≠ .idle → s.running = false
  closing : s.control = .closing → s.listening = false
  joining : s.control = .joining → s.clients = [] ∧ s.loop.accepted = [] ∧ s.listening = false

/-! ### Steps of an undisturbed run -/

/-- A step that the control thread does not take part in, and that keeps the clients. -/
theorem Placed.move (h : Placed s) (hrun : t.running = s.running) (hctl : t.control = s.control)
    (hlisten : t.listening = s.listening) (hcl : t.clients = s.clients)
    (hhand : s.control = .joining → t.loop.accepted = [])
    (hloop : s.loop = .notJoinable → t.loop = .notJoinable)
    (hdoomed : ∀ toRemove, t.loop = .removing toRemove →
      toRemove.Nodup ∧ ∀ fd ∈ toRemove, fd ∈ s.clients) : Placed t where
  doomed := by
    rw [hcl]
    exact hdoomed
  idle hc hr := by
    rw [hcl]
    obtain ⟨hnone, hl⟩ := h.idle (hctl ▸ hc) (hrun ▸ hr)
    exact ⟨hnone, hloop hl⟩
  stopping hc := by
    rw [hrun]
    exact h.stopping (hctl ▸ hc)
  closing hc := by
    rw [hlisten]
    exact h.closing (hctl ▸ hc)
  joining hc := by
    obtain ⟨hnone, -, hl⟩ := h.joining (hctl ▸ hc)
    rw [hcl, hlisten]
    exact ⟨hnone, hhand (hctl ▸ hc), hl⟩

/-- A step of the loop to a position at which it has nothing in hand. -/
theorem Placed.goto (h : Placed s) {loop : IpcLoop} (hl : s.loop ≠ .notJoinable)
    (hhand : loop.accepted = []) (hdoomed : ∀ toRemove, loop ≠ .removing toRemove) :
    Placed { s with loop } :=
  h.move rfl rfl rfl rfl (fun _ => hhand) (fun heq => absurd heq hl)
    (fun toRemove heq => absurd heq (hdoomed toRemove))

/-- Some clients are gone, none of them one that the loop is going to remove. -/
theorem Placed.drop (h : Placed s) (hreg : Registered s) {fds : List ℕ}
    (hdoomed : ∀ toRemove, s.loop = .removing toRemove → ∀ fd ∈ toRemove, fd ∉ fds) :
    Placed (s.dropClients fds) := by
  have hgone : s.clients = [] → (s.dropClients fds).clients = [] := by
    intro hnil
    refine List.eq_nil_iff_forall_not_mem.mpr fun fd hfd => ?_
    have hmem := ((mem_dropClients hreg.nodup).mp hfd).1
    rw [hnil] at hmem
    cases hmem
  refine ⟨?_, ?_, h.stopping, h.closing, ?_⟩
  · intro toRemove hl
    obtain ⟨hnodup, hmem⟩ := h.doomed toRemove hl
    refine ⟨hnodup, ?_⟩
    intro fd hfd
    exact (mem_dropClients hreg.nodup).mpr ⟨hmem fd hfd, hdoomed toRemove hl fd hfd⟩
  · intro hc hr
    exact ⟨hgone (h.idle hc hr).1, (h.idle hc hr).2⟩
  · intro hc
    exact ⟨hgone (h.joining hc).1, (h.joining hc).2⟩

/-- **One step** keeps the threads placed. -/
theorem Placed.step {maxClients : ℕ} {a : Action} (h : Placed s) (hreg : Registered s)
    (hund : s.Undisturbed a) (hst : Step maxClients s a t) : Placed t := by
  cases hst with
  | start hc hr hl =>
    obtain ⟨hnone, -⟩ := h.idle hc hr
    exact ⟨nofun, nofun, fun hc' => absurd hc hc', fun hc' => by simp [hc] at hc',
      fun hc' => by simp [hc] at hc'⟩
  | stop hc hr => exact ⟨h.doomed, nofun, fun _ => rfl, nofun, nofun⟩
  | stopListening hc =>
    have hrun := h.stopping (by rw [hc]; nofun)
    exact ⟨h.doomed, nofun, fun _ => hrun, fun _ => rfl, nofun⟩
  | stopClients hc hk =>
    obtain ⟨hdoomed, hhand⟩ := hund hc
    refine ⟨?_, nofun, fun _ => h.stopping (by rw [hc]; nofun), nofun,
      fun _ => ⟨rfl, hhand, h.closing hc⟩⟩
    intro toRemove hl
    rw [show s.loop = _ from hl] at hdoomed
    cases hdoomed
    exact ⟨List.nodup_nil, nofun⟩
  | stopJoin hc hl =>
    have hrun := h.stopping (by rw [hc]; nofun)
    obtain ⟨hnone, -, -⟩ := h.joining hc
    exact ⟨nofun, fun _ _ => ⟨hnone, rfl⟩, fun _ => hrun, nofun, nofun⟩
  | leave hl hr => exact h.goto (by rw [hl]; nofun) rfl nofun
  | collect hl hr => exact h.goto (by rw [hl]; nofun) rfl nofun
  | timeout rfds hl => exact h.goto (by rw [hl]; nofun) rfl nofun
  | select rfds ready hl hready => exact h.goto (by rw [hl]; nofun) rfl nofun
  | selectListen rfds ready hl hready => exact h.goto (by rw [hl]; nofun) rfl nofun
  | acceptFailed rfds hl => exact h.goto (by rw [hl]; nofun) rfl nofun
  | accept rfds cfd hl hlisten hfree =>
    have hnot : s.control ≠ .joining := by
      intro hc
      exact absurd (hlisten.symm.trans (h.joining hc).2.2) (by decide)
    exact h.move rfl rfl rfl rfl (fun hc => absurd hc hnot) (by rw [hl]; nofun) nofun
  | register rfds cfd hl hroom =>
    have hnot : s.control ≠ .joining := by
      intro hc
      have hhand := (h.joining hc).2.1
      rw [hl] at hhand
      cases hhand
    refine ⟨nofun, ?_, h.stopping, h.closing, fun hc => absurd hc hnot⟩
    intro hc hr
    have hl' := (h.idle hc hr).2
    rw [hl] at hl'
    cases hl'
  | refuse rfds cfd hl hfull =>
    exact h.move rfl rfl rfl rfl (fun _ => rfl) (by rw [hl]; nofun) nofun
  | lock rfds hl => exact h.goto (by rw [hl]; nofun) rfl nofun
  | skip rfds fd rest toRemove hl hset => exact h.goto (by rw [hl]; nofun) rfl nofun
  | readFailed rfds fd rest toRemove hl hset => exact h.goto (by rw [hl]; nofun) rfl nofun
  | read rfds fd rest toRemove c chunk hl hset hopen hchunk hsize =>
    exact h.move rfl rfl rfl rfl (fun _ => rfl) (by rw [hl]; nofun) nofun
  | unlock rfds toRemove hl =>
    -- the victims are clients, in the order of the clients
    have hsub := hreg.iterating _ _ _ hl
    rw [List.append_nil] at hsub
    refine h.move rfl rfl rfl rfl (fun _ => rfl) (by rw [hl]; nofun) ?_
    intro _ heq
    cases heq
    exact ⟨hreg.nodup.sublist hsub, fun fd hfd => hsub.subset hfd⟩
  | remove fd toRemove hl =>
    obtain ⟨hnodup, hmem⟩ := h.doomed _ hl
    obtain ⟨hfd, hrest⟩ := List.nodup_cons.mp hnodup
    have hnext : Placed { s with loop := .removing toRemove } := by
      refine h.move rfl rfl rfl rfl (fun _ => rfl) (by rw [hl]; nofun) ?_
      intro _ heq
      cases heq
      exact ⟨hrest, fun fd' hfd' => hmem fd' (List.mem_cons_of_mem _ hfd')⟩
    have hdrop : Placed ({ s with loop := .removing toRemove }.dropClients [fd]) := by
      refine hnext.drop (hreg.goto (by rw [hl]; rfl) rfl) ?_
      intro _ heq fd' hfd'
      cases heq
      rw [List.mem_singleton]
      rintro rfl
      exact hfd hfd'
    exact hdrop.move rfl rfl rfl rfl (fun _ => rfl) nofun hdrop.doomed
  | again hl => exact h.goto (by rw [hl]; nofun) rfl nofun
  | broadcast dead hdead hk =>
    rw [dropAll_eq]
    refine h.drop hreg ?_
    intro toRemove hl fd hfd hmem
    refine hund fd hmem ?_
    rw [hl]
    exact hfd
  | otherOpen fd hfree => exact h.move rfl rfl rfl rfl (fun hc => (h.joining hc).2.1) id h.doomed
  | otherClose fd c hopen hc =>
    exact h.move rfl rfl rfl rfl (fun hc => (h.joining hc).2.1) id h.doomed

/-- **One step** closes only what is held. -/
theorem misses_step {maxClients : ℕ} {a : Action} (h : Placed s) (hreg : Registered s)
    (hst : Step maxClients s a t) : t.fds.misses = s.fds.misses := by
  cases hst with
  | stopClients hc hk =>
    rw [closeAll_eq]
    exact (hreg.drop hk (List.Sublist.refl s.clients)).2
  | accept rfds cfd hl hlisten hfree => exact hreg.tracked.misses_acceptFd
  | refuse rfds cfd hl hfull =>
    have hmem : cfd ∈ s.loop.accepted := by
      rw [hl]
      exact List.mem_singleton_self cfd
    exact (hreg.tracked.closeFd (List.mem_append_right _ hmem)).2
  | remove fd toRemove hl =>
    -- nobody has removed it since the read failed
    have hmem : fd ∈ s.clients := (h.doomed _ hl).2 fd List.mem_cons_self
    exact (hreg.tracked.closeFd (List.mem_append_left _ hmem)).2
  | broadcast dead hdead hk =>
    rw [dropAll_eq]
    exact (hreg.drop hk hdead).2
  | _ => rfl

/-- In its place, and with no `close` that missed, every descriptor is closed once. -/
theorem Placed.closedOnce (h : Placed s) (hreg : Registered s) (hmisses : s.fds.misses = 0) :
    ClosedOnce s := by
  have howned := hreg.tracked.owned_of_misses hmisses
  refine ⟨howned.hit, howned.notYet, howned.once, ?_, ?_⟩
  · intro fd c htable hc
    exact List.mem_append.mp (howned.owned fd c htable hc)
  · -- what is open would be registered
    rintro hidle hr c hc ⟨fd, htable⟩
    have hheld := howned.owned fd c htable hc
    obtain ⟨hclients, hloop⟩ := h.idle hidle hr
    rw [held, hclients, hloop] at hheld
    cases hheld

/-- **Once.** In every run in which neither `Broadcast` nor `Stop` closes a descriptor that the
    loop has in hand, every descriptor that `accept` returns is closed once. -/
theorem closed_once (maxClients : ℕ) (s : IpcRun)
    (h : ((system maxClients).guarded Undisturbed).Reachable s) : ClosedOnce s := by
  have hinv : Placed s ∧ s.fds.misses = 0 := by
    refine System.Reachable.invariant (I := fun s => Placed s ∧ s.fds.misses = 0) ?_ ?_ h
    · rintro s rfl
      exact ⟨⟨nofun, fun _ _ => ⟨rfl, rfl⟩, fun hc => absurd rfl hc, nofun, nofun⟩, rfl⟩
    · rintro s a t hreach ⟨hplaced, hmisses⟩ ⟨hund, hst⟩
      have hreg := reachable_registered hreach.of_guarded
      exact ⟨hplaced.step hreg hund hst, (misses_step hplaced hreg hst).trans hmisses⟩
  exact hinv.1.closedOnce (reachable_registered h.of_guarded) hinv.2

/-- A client whose read fails, with no other thread in between. -/
theorem closed_once_single :
    ∃ s : IpcRun, ((system 1).guarded Undisturbed).Reachable s ∧ s.fds.accepted = [0] ∧
      s.fds.closes = [(5, some 0)] ∧ ClosedOnce s := by
  have hG : ∀ t : IpcRun, t.loop.accepted = [] → Undisturbed t .loop := fun _ _ => trivial
  have h₁ : ((system 1).guarded Undisturbed).Reachable started := reachable_started nofun
  have h₂ := reachable_connected hG 5 (fun _ _ _ => trivial) h₁ rfl rfl rfl rfl rfl
  have h₃ := reachable_reading hG h₂ rfl rfl rfl
  have h₄ := h₃.step ⟨by trivial, .readFailed _ _ 5 [] [] rfl (List.mem_singleton_self _)⟩
  have h₅ := h₄.step ⟨by trivial, .unlock _ _ _ rfl⟩
  have h₆ := h₅.step ⟨by trivial, .remove _ 5 [] rfl⟩
  exact ⟨_, h₆, rfl, rfl, closed_once 1 _ h₆⟩

/-- **Closed twice.** The read of a client fails, `Broadcast` drops the client before the loop
    comes to remove it, and another part of the process gets the number: the loop closes that. -/
theorem not_closed_once :
    ∃ s : IpcRun, (system 1).Reachable s ∧ s.fds.accepted = [0] ∧
      s.fds.closes = [(5, some 0), (5, some 1)] ∧ ¬ ClosedOnce s := by
  let G : IpcRun → Action → Prop := fun _ _ => True
  have hG : ∀ t : IpcRun, t.loop.accepted = [] → G t .loop := fun _ _ => trivial
  have h₁ : ((system 1).guarded G).Reachable started := reachable_started trivial
  have h₂ := reachable_connected hG 5 (fun _ _ _ => trivial) h₁ rfl rfl rfl rfl rfl
  have h₃ := reachable_reading hG h₂ rfl rfl rfl
  have h₄ := h₃.step ⟨trivial, .readFailed _ _ 5 [] [] rfl (List.mem_singleton_self _)⟩
  have h₅ := h₄.step ⟨trivial, .unlock _ _ _ rfl⟩
  have h₆ := h₅.step ⟨trivial, .broadcast _ [5] (List.Sublist.refl _) rfl⟩
  have h₇ := h₆.step ⟨trivial, .otherOpen _ 5 rfl⟩
  have h₈ := h₇.step ⟨trivial, .remove _ 5 [] rfl⟩
  refine ⟨_, h₈.of_guarded, rfl, rfl, ?_⟩
  intro h
  obtain ⟨c, hc, heq⟩ := h.hit (5, some 1) (List.mem_cons_of_mem _ (List.mem_singleton_self _))
  cases heq
  exact absurd hc (by decide)

end IpcRun

end FalconGuide
