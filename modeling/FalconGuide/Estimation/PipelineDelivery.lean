import FalconGuide.Estimation.EstimatorPipeline
import FalconGuide.Lib.Channel
import Mathlib.Data.List.Nodup

namespace FalconGuide

open Lib

/-!
# What the pipeline delivers

The pipeline refines a bounded lossless FIFO channel: an accepted `Push` is a send, a `Pop` is
a receive, and no other step is seen by the channel (`simulates_channel`).  Two further
invariants talk about what the channel does not know:

* `IdInv` — a `Push` call returns once, so a refused call is not also an accepted one;
* `NotifyInv` — the backend has run over the processed measurements, and every observer has
  received what they published, up to the notification in progress.

`stop_delivers_accepted` assembles the three for the state in which `Stop` has returned.
-/

namespace EstimatorPipeline

variable {E M N ι : Type*} [DecidableEq ι]

/-- The measurement the worker has popped and not yet passed to `AddMeasurement`. -/
def inHand : Worker M N → List (PushCall M)
  | .adding c => [c]
  | _ => []

@[simp] theorem inHand_popping : inHand (.popping : Worker M N) = [] := rfl
@[simp] theorem inHand_adding (c : PushCall M) : inHand (.adding c : Worker M N) = [c] := rfl
@[simp] theorem inHand_notifying (state : N) (k : ℕ) :
    inHand (.notifying state k : Worker M N) = [] := rfl
@[simp] theorem inHand_notJoinable : inHand (.notJoinable : Worker M N) = [] := rfl
@[simp] theorem inHand_returned : inHand (.returned : Worker M N) = [] := rfl

@[simp] theorem inHand_afterAdd (est : NavigationEstimator E M N) (e : E)
    (r : MeasurementUpdateReport) : inHand (afterAdd est e r) = [] := by
  rcases afterAdd_cases est e r with h | ⟨_, h⟩ <;> simp [h]

/-! ### The pipeline as a channel -/

/-- The channel a pipeline state stands for. -/
structure AsChannel (capacity : ℕ) (s : EstimatorPipeline E M N ι) (c : Channel (PushCall M)) :
    Prop where
  sent : c.sent = s.accepted
  pending : c.pending = s.queue.queue
  received : c.received = s.processed ++ inHand s.thread
  capacity : s.queue.capacity = capacity

omit [DecidableEq ι] in
/-- A step that leaves the accepted, queued and received measurements alone is not seen by the
    channel. -/
theorem AsChannel.unseen {capacity : ℕ} {s t : EstimatorPipeline E M N ι}
    {c : Channel (PushCall M)} (h : AsChannel capacity s c) (ha : t.accepted = s.accepted)
    (hq : t.queue.queue = s.queue.queue) (hcap : t.queue.capacity = s.queue.capacity)
    (hr : t.processed ++ inHand t.thread = s.processed ++ inHand s.thread) :
    ∃ d, (Channel.system (PushCall M) capacity).Steps c d ∧ AsChannel capacity t d :=
  ⟨c, System.Steps.refl _ c, ha ▸ h.sent, hq ▸ h.pending, hr ▸ h.received, hcap ▸ h.capacity⟩

/-- **Refinement.** The pipeline simulates a FIFO channel of its capacity. -/
theorem simulates_channel (est : NavigationEstimator E M N) (observers capacity : ℕ) (e : E) :
    System.Simulation (system (ι := ι) est observers capacity e)
      (Channel.system (PushCall M) capacity) (AsChannel capacity) where
  init := by
    rintro s rfl
    exact ⟨Channel.empty, rfl, rfl, rfl, rfl, rfl⟩
  step := by
    intro s a t c h hst
    cases hst with
    | pushRefused i m hi hr => exact h.unseen (by simp [accepted]) rfl rfl rfl
    | pushChecked i m hi hr => exact h.unseen rfl rfl rfl rfl
    | enqueue i p hi =>
      rcases s.queue.push_cases p with ⟨hp, -⟩ | ⟨hp, -, hlt⟩
      · exact h.unseen (by simp [accepted, hp]) (by simp [hp]) (by simp [hp]) rfl
      · -- an accepted push is a send
        refine ⟨{ c with sent := c.sent ++ [p], pending := c.pending ++ [p] },
          System.Steps.single (Channel.Step.send c p ?_), ?_, ?_, h.received, ?_⟩
        · rw [h.pending, ← h.capacity]
          exact hlt
        · simp [accepted, hp, h.sent]
        · simp [hp, h.pending]
        · simp [h.capacity]
    | startRefused hc hr => exact h.unseen rfl rfl rfl rfl
    | startExchange hc hr => exact h.unseen rfl rfl rfl rfl
    | spawn hc ht => exact h.unseen rfl rfl rfl (by simp [ht])
    | stopRefused hc hr => exact h.unseen rfl rfl rfl rfl
    | stopExchange hc hr => exact h.unseen rfl rfl rfl rfl
    | requestShutdown hc => exact h.unseen rfl rfl rfl rfl
    | join hc ht => exact h.unseen rfl rfl rfl (by simp [ht])
    | pop p q ht hq =>
      rcases MeasurementQueue.pop_cases hq with ⟨hn, -⟩ | ⟨m, rest, hm, hqueue, rfl⟩
      · cases hn
      · -- a pop is a receive
        cases hm
        refine ⟨{ c with pending := rest, received := c.received ++ [p] },
          System.Steps.single (Channel.Step.receive c p rest ?_), h.sent, rfl, ?_, h.capacity⟩
        · rw [h.pending, hqueue]
        · simp [h.received, ht]
    | exit q ht hq =>
      rcases MeasurementQueue.pop_cases hq with ⟨-, rfl, -⟩ | ⟨_, _, hn, _⟩
      · exact h.unseen rfl rfl rfl (by simp [ht])
      · cases hn
    | add p ht => exact h.unseen rfl rfl rfl (by simp [ht])
    | notify state k ht hk => exact h.unseen rfl rfl rfl (by simp [ht])
    | notified state k ht hk => exact h.unseen rfl rfl rfl (by simp [ht])

section Reachable

variable {est : NavigationEstimator E M N} {observers capacity : ℕ} {e : E}
  {s : EstimatorPipeline E M N ι}

/-- The accepted measurements are the processed ones, the one in the worker's hand and the
    queued ones, in this order. -/
theorem accepted_eq (h : (system est observers capacity e).Reachable s) :
    s.accepted = s.processed ++ inHand s.thread ++ s.queue.queue := by
  obtain ⟨c, hc, hR⟩ := (simulates_channel est observers capacity e).exists_related h
  rw [← hR.sent, Channel.sent_eq hc, hR.received, hR.pending]

/-- The queue never holds more than its capacity. -/
theorem queue_length_le (h : (system est observers capacity e).Reachable s) :
    s.queue.queue.length ≤ s.queue.capacity := by
  obtain ⟨c, hc, hR⟩ := (simulates_channel est observers capacity e).exists_related h
  rw [← hR.pending, hR.capacity]
  exact Channel.pending_le hc

end Reachable

/-! ### A call of `Push` returns once -/

/-- The ids of the calls that have returned. -/
def returnedIds (s : EstimatorPipeline E M N ι) : List ℕ := s.returned.map (·.1.id)

/-- Ids are used once: by a call that has returned, or by one producer inside `Push`. -/
structure IdInv (s : EstimatorPipeline E M N ι) : Prop where
  nodup : s.returnedIds.Nodup
  returned_lt : ∀ k ∈ s.returnedIds, k < s.nextId
  checked : ∀ i c, s.producers i = .checked c → c.id < s.nextId ∧ c.id ∉ s.returnedIds
  distinct : ∀ i j c d, s.producers i = .checked c → s.producers j = .checked d →
    c.id = d.id → i = j

omit [DecidableEq ι] in
/-- A step that no producer takes part in keeps the ids. -/
theorem IdInv.of_eq {s t : EstimatorPipeline E M N ι} (h : IdInv s)
    (hret : t.returned = s.returned) (hid : t.nextId = s.nextId)
    (hp : t.producers = s.producers) : IdInv t := by
  have hids : t.returnedIds = s.returnedIds := by rw [returnedIds, hret, returnedIds]
  refine ⟨?_, ?_, ?_, ?_⟩
  · rw [hids]
    exact h.nodup
  · rw [hids, hid]
    exact h.returned_lt
  · rw [hids, hid, hp]
    exact h.checked
  · rw [hp]
    exact h.distinct

/-- One step keeps the ids apart. -/
theorem IdInv.step {est : NavigationEstimator E M N} {observers : ℕ}
    {s t : EstimatorPipeline E M N ι} {a : Action M ι} (h : IdInv s)
    (hst : Step est observers s a t) : IdInv t := by
  cases hst with
  | pushRefused i m hi hr =>
    -- the call takes the fresh id and returns with it
    have hids : (s.returned ++ [((⟨s.nextId, m⟩ : PushCall M), false)]).map (·.1.id)
        = s.returnedIds ++ [s.nextId] := by simp [returnedIds]
    refine ⟨?_, ?_, ?_, h.distinct⟩
    · show ((s.returned ++ _).map _).Nodup
      rw [hids, List.nodup_append_comm]
      refine List.nodup_cons.mpr ⟨fun hmem => ?_, h.nodup⟩
      exact absurd (h.returned_lt _ hmem) (lt_irrefl _)
    · intro k hk
      change k ∈ (s.returned ++ _).map _ at hk
      rw [hids, List.mem_append, List.mem_singleton] at hk
      rcases hk with hk | rfl
      · exact (h.returned_lt k hk).trans (Nat.lt_succ_self _)
      · exact Nat.lt_succ_self _
    · intro j c hj
      obtain ⟨hlt, hnot⟩ := h.checked j c hj
      refine ⟨hlt.trans (Nat.lt_succ_self _), ?_⟩
      show c.id ∉ (s.returned ++ _).map _
      rw [hids, List.mem_append, List.mem_singleton, not_or]
      exact ⟨hnot, hlt.ne⟩
  | pushChecked i m hi hr =>
    -- the call takes the fresh id and keeps it until it returns
    have hold : ∀ j c, Function.update s.producers i (.checked ⟨s.nextId, m⟩) j = .checked c →
        (j = i ∧ c.id = s.nextId) ∨ s.producers j = .checked c := by
      intro j c hj
      by_cases hji : j = i
      · subst hji
        rw [Function.update_self, Producer.checked.injEq] at hj
        exact .inl ⟨rfl, by rw [← hj]⟩
      · rw [Function.update_of_ne hji] at hj
        exact .inr hj
    refine ⟨h.nodup, fun k hk => (h.returned_lt k hk).trans (Nat.lt_succ_self _), ?_, ?_⟩
    · intro j c hj
      rcases hold j c hj with ⟨-, hc⟩ | hj
      · rw [hc]
        exact ⟨Nat.lt_succ_self _, fun hmem => absurd (h.returned_lt _ hmem) (lt_irrefl _)⟩
      · obtain ⟨hlt, hnot⟩ := h.checked j c hj
        exact ⟨hlt.trans (Nat.lt_succ_self _), hnot⟩
    · intro j k c d hj hk hcd
      rcases hold j c hj with ⟨hji, hc⟩ | hj <;> rcases hold k d hk with ⟨hki, hd⟩ | hk
      · rw [hji, hki]
      · exact absurd (h.checked k d hk).1 (by rw [← hcd, hc]; exact lt_irrefl _)
      · exact absurd (h.checked j c hj).1 (by rw [hcd, hd]; exact lt_irrefl _)
      · exact h.distinct j k c d hj hk hcd
  | enqueue i p hi =>
    obtain ⟨hplt, hpnot⟩ := h.checked i p hi
    have hids : (s.returned ++ [(p, (s.queue.push p).2)]).map (·.1.id)
        = s.returnedIds ++ [p.id] := by simp [returnedIds]
    have hold : ∀ j c, Function.update s.producers i .idle j = .checked c →
        j ≠ i ∧ s.producers j = .checked c := by
      intro j c hj
      by_cases hji : j = i
      · subst hji
        rw [Function.update_self] at hj
        cases hj
      · rw [Function.update_of_ne hji] at hj
        exact ⟨hji, hj⟩
    refine ⟨?_, ?_, ?_, ?_⟩
    · show ((s.returned ++ _).map _).Nodup
      rw [hids, List.nodup_append_comm]
      exact List.nodup_cons.mpr ⟨hpnot, h.nodup⟩
    · intro k hk
      change k ∈ (s.returned ++ _).map _ at hk
      rw [hids, List.mem_append, List.mem_singleton] at hk
      rcases hk with hk | rfl
      · exact h.returned_lt k hk
      · exact hplt
    · intro j c hj
      obtain ⟨hji, hj⟩ := hold j c hj
      obtain ⟨hlt, hnot⟩ := h.checked j c hj
      refine ⟨hlt, ?_⟩
      show c.id ∉ (s.returned ++ _).map _
      rw [hids, List.mem_append, List.mem_singleton, not_or]
      exact ⟨hnot, fun hcp => hji (h.distinct j i c p hj hi hcp)⟩
    · intro j k c d hj hk
      exact h.distinct j k c d (hold j c hj).2 (hold k d hk).2
  | startRefused hc hr => exact h.of_eq rfl rfl rfl
  | startExchange hc hr => exact h.of_eq rfl rfl rfl
  | spawn hc ht => exact h.of_eq rfl rfl rfl
  | stopRefused hc hr => exact h.of_eq rfl rfl rfl
  | stopExchange hc hr => exact h.of_eq rfl rfl rfl
  | requestShutdown hc => exact h.of_eq rfl rfl rfl
  | join hc ht => exact h.of_eq rfl rfl rfl
  | pop c q ht hq => exact h.of_eq rfl rfl rfl
  | exit q ht hq => exact h.of_eq rfl rfl rfl
  | add c ht => exact h.of_eq rfl rfl rfl
  | notify state k ht hk => exact h.of_eq rfl rfl rfl
  | notified state k ht hk => exact h.of_eq rfl rfl rfl

/-- Ids are used once in every reachable state. -/
theorem reachable_idInv {est : NavigationEstimator E M N} {observers capacity : ℕ} {e : E}
    {s : EstimatorPipeline E M N ι} (h : (system est observers capacity e).Reachable s) :
    IdInv s := by
  refine h.invariant ?_ (fun _ _ _ _ hs hst => hs.step hst)
  rintro s rfl
  constructor <;> simp [constructed, returnedIds]

omit [DecidableEq ι] in
/-- A call for which `Push` returned false is not among those for which it returned true. -/
theorem IdInv.refused_not_accepted {s : EstimatorPipeline E M N ι} (h : IdInv s)
    {c : PushCall M} (hc : (c, false) ∈ s.returned) : c ∉ s.accepted := by
  intro ha
  simp only [accepted, List.mem_map, List.mem_filter] at ha
  obtain ⟨⟨d, b⟩, ⟨hd, hb⟩, rfl⟩ := ha
  have heq := List.inj_on_of_nodup_map h.nodup hc hd rfl
  simp only [Prod.mk.injEq] at heq
  rw [← heq.2] at hb
  cases hb

omit [DecidableEq ι] in
/-- The accepted calls are pairwise distinct. -/
theorem IdInv.accepted_nodup {s : EstimatorPipeline E M N ι} (h : IdInv s) :
    s.accepted.Nodup := by
  have hn : (s.returned.map (·.1)).Nodup := by
    refine List.Nodup.of_map PushCall.id ?_
    rw [List.map_map]
    exact h.nodup
  exact hn.sublist (List.filter_sublist.map _)

/-! ### What the observers see -/

/-- The state being passed round that observer `k` has not received yet. -/
def unseenBy (k : ℕ) : Worker M N → List N
  | .notifying state next => if next ≤ k then [state] else []
  | _ => []

@[simp] theorem unseenBy_popping (k : ℕ) : unseenBy k (.popping : Worker M N) = [] := rfl
@[simp] theorem unseenBy_adding (k : ℕ) (c : PushCall M) :
    unseenBy k (.adding c : Worker M N) = [] := rfl
@[simp] theorem unseenBy_notJoinable (k : ℕ) :
    unseenBy k (.notJoinable : Worker M N) = [] := rfl
@[simp] theorem unseenBy_returned (k : ℕ) : unseenBy k (.returned : Worker M N) = [] := rfl

/-- After `AddMeasurement` every observer still has to receive what it published. -/
theorem unseenBy_afterAdd (est : NavigationEstimator E M N) (e : E) (m : M) (k : ℕ) :
    unseenBy k (afterAdd est (est.addMeasurement e m).1 (est.addMeasurement e m).2)
      = est.publish e m := by
  unfold afterAdd NavigationEstimator.publish
  split
  · cases est.latestState (est.addMeasurement e m).1 <;> simp [unseenBy]
  · rfl

/-- The backend has run over the processed measurements, and each observer has received what
    they published, but for the state being passed round. -/
structure NotifyInv (est : NavigationEstimator E M N) (observers : ℕ) (e : E)
    (s : EstimatorPipeline E M N ι) : Prop where
  estimator : s.estimator = est.run e (s.processed.map (·.measurement))
  seen : ∀ k < observers,
    s.seenBy k ++ unseenBy k s.thread = est.published e (s.processed.map (·.measurement))

omit [DecidableEq ι] in
/-- A step outside the worker's loop body keeps what the observers have seen. -/
theorem NotifyInv.of_eq {est : NavigationEstimator E M N} {observers : ℕ} {e : E}
    {s t : EstimatorPipeline E M N ι} (h : NotifyInv est observers e s)
    (he : t.estimator = s.estimator) (hp : t.processed = s.processed)
    (hn : t.notified = s.notified) (ht : ∀ k, unseenBy k t.thread = unseenBy k s.thread) :
    NotifyInv est observers e t where
  estimator := by rw [he, hp, h.estimator]
  seen k hk := by rw [seenBy, hn, ht, hp, ← h.seen k hk, seenBy]

/-- One step keeps the notification invariant. -/
theorem NotifyInv.step {est : NavigationEstimator E M N} {observers : ℕ} {e : E}
    {s t : EstimatorPipeline E M N ι} {a : Action M ι} (h : NotifyInv est observers e s)
    (hst : Step est observers s a t) : NotifyInv est observers e t := by
  cases hst with
  | pushRefused i m hi hr => exact h.of_eq rfl rfl rfl (fun _ => rfl)
  | pushChecked i m hi hr => exact h.of_eq rfl rfl rfl (fun _ => rfl)
  | enqueue i c hi => exact h.of_eq rfl rfl rfl (fun _ => rfl)
  | startRefused hc hr => exact h.of_eq rfl rfl rfl (fun _ => rfl)
  | startExchange hc hr => exact h.of_eq rfl rfl rfl (fun _ => rfl)
  | spawn hc ht => exact h.of_eq rfl rfl rfl (fun _ => by simp [ht])
  | stopRefused hc hr => exact h.of_eq rfl rfl rfl (fun _ => rfl)
  | stopExchange hc hr => exact h.of_eq rfl rfl rfl (fun _ => rfl)
  | requestShutdown hc => exact h.of_eq rfl rfl rfl (fun _ => rfl)
  | join hc ht => exact h.of_eq rfl rfl rfl (fun _ => by simp [ht])
  | pop c q ht hq => exact h.of_eq rfl rfl rfl (fun _ => by simp [ht])
  | exit q ht hq => exact h.of_eq rfl rfl rfl (fun _ => by simp [ht])
  | add c ht =>
    refine ⟨?_, fun k hk => ?_⟩
    · simp [h.estimator]
    · have hs := h.seen k hk
      rw [ht, unseenBy_adding, List.append_nil] at hs
      show s.seenBy k ++ unseenBy k (afterAdd _ _ _) = _
      rw [unseenBy_afterAdd, hs, List.map_append, List.map_singleton,
        NavigationEstimator.published_append_singleton, ← h.estimator]
  | notify state j ht hj =>
    refine ⟨h.estimator, fun k hk => ?_⟩
    rw [← h.seen k hk, ht]
    -- observer `j` moves from "unseen" to "seen"; the others are not concerned
    rcases lt_trichotomy j k with hjk | rfl | hjk
    · simp [seenBy, unseenBy, hjk.ne, hjk.le, Nat.succ_le_of_lt hjk]
    · simp [seenBy, unseenBy]
    · simp [seenBy, unseenBy, hjk.ne', not_le.mpr hjk,
        not_le.mpr (hjk.trans (Nat.lt_succ_self j))]
  | notified state j ht hj =>
    refine ⟨h.estimator, fun k hk => ?_⟩
    rw [← h.seen k hk, ht]
    simp [seenBy, unseenBy, not_le.mpr (hk.trans_le hj)]

/-- The notification invariant holds in every reachable state. -/
theorem reachable_notifyInv {est : NavigationEstimator E M N} {observers capacity : ℕ} {e : E}
    {s : EstimatorPipeline E M N ι} (h : (system est observers capacity e).Reachable s) :
    NotifyInv est observers e s := by
  refine h.invariant ?_ (fun _ _ _ _ hs hst => hs.step hst)
  rintro s rfl
  constructor <;> simp [constructed, seenBy]

/-! ### The state in which `Stop` has returned -/

/-- **Delivery.** In every reachable state the queue respects its capacity and no refused
    measurement is processed.  Once one `Start` and one `Stop` have returned, the processed
    measurements are the accepted ones, each once and in the order they entered the queue, and
    every observer has received exactly what they published. -/
theorem stop_delivers_accepted (est : NavigationEstimator E M N) (observers capacity : ℕ)
    (e : E) (s : EstimatorPipeline E M N ι)
    (h : (system est observers capacity e).Reachable s) :
    (s.queue.capacity = capacity ∧ s.queue.queue.length ≤ capacity) ∧
    (∀ c, (c, false) ∈ s.returned → c ∉ s.processed) ∧
    (s.calls = [.start, .stop] → s.control = .idle →
      s.processed = s.accepted ∧ s.accepted.Nodup ∧
      ∀ k < observers, s.seenBy k = est.published e (s.accepted.map (·.measurement))) := by
  have hids := reachable_idInv h
  have hacc := accepted_eq h
  obtain ⟨c, -, hR⟩ := (simulates_channel est observers capacity e).exists_related h
  refine ⟨⟨hR.capacity, hR.capacity ▸ queue_length_le h⟩, ?_, ?_⟩
  · intro d hd hp
    refine hids.refused_not_accepted hd ?_
    rw [hacc]
    simp [hp]
  · intro hcalls hidle
    have hinv := reachable_inv h
    have hrun : s.running = false := by
      by_contra hr
      have hlast := hinv.last.mp (by simpa using hr)
      rw [hcalls] at hlast
      simp at hlast
    have hnj := (hinv.idle hidle).mpr hrun
    have hempty := (hinv.quiet hidle hrun).1
    rw [hnj, hempty] at hacc
    simp only [inHand_notJoinable, List.append_nil] at hacc
    refine ⟨hacc.symm, hids.accepted_nodup, fun k hk => ?_⟩
    have hseen := (reachable_notifyInv h).seen k hk
    rw [hnj, unseenBy_notJoinable, List.append_nil] at hseen
    rw [hseen, hacc]

/-- A backend that sums its measurements and accepts each of them. -/
def summing : NavigationEstimator ℕ ℕ ℕ where
  addMeasurement e m := (e + m, { result := .accepted })
  latestState e := some e

/-- The state after a run of `summing` in which `5` was pushed before `Stop` and `7` after it. -/
def afterOneStop : EstimatorPipeline ℕ ℕ ℕ Unit where
  queue := { capacity := 1, shutdown := true }
  estimator := 5
  producers := fun _ => .idle
  calls := [.start, .stop]
  nextId := 2
  returned := [(⟨0, 5⟩, true), (⟨1, 7⟩, false)]
  processed := [⟨0, 5⟩]
  notified := [(0, 5)]

theorem reachable_afterOneStop : (system summing 1 1 0).Reachable afterOneStop := by
  have hinit : (system summing 1 1 0).Reachable (constructed (ι := Unit) 1 0) := .init rfl
  have hstart := (hinit.step (Step.startExchange _ rfl rfl)).step (Step.spawn _ rfl rfl)
  have hpushed := (hstart.step (Step.pushChecked _ () 5 rfl rfl)).step
    (Step.enqueue _ () ⟨0, 5⟩ rfl)
  have hadded := (hpushed.step (Step.pop _ ⟨0, 5⟩ _ rfl rfl)).step (Step.add _ ⟨0, 5⟩ rfl)
  have hseen := (hadded.step (Step.notify _ 5 0 rfl Nat.one_pos)).step
    (Step.notified _ 5 1 rfl le_rfl)
  have hstop := (hseen.step (Step.stopExchange _ rfl rfl)).step (Step.requestShutdown _ rfl)
  have hjoined := (hstop.step (Step.exit _ _ rfl rfl)).step (Step.join _ rfl rfl)
  exact hjoined.step (Step.pushRefused _ () 7 rfl rfl)

/-- One producer, one observer: a measurement pushed before `Stop` is processed and seen, one
    pushed after it is refused. -/
theorem stop_delivers_accepted_run :
    afterOneStop.processed = afterOneStop.accepted ∧
      afterOneStop.seenBy 0 = summing.published 0 [5] ∧ ⟨1, 7⟩ ∉ afterOneStop.processed := by
  obtain ⟨-, hrefused, hstop⟩ := stop_delivers_accepted summing 1 1 0 _ reachable_afterOneStop
  obtain ⟨hproc, -, hseen⟩ := hstop rfl rfl
  exact ⟨hproc, hseen 0 Nat.one_pos, hrefused ⟨1, 7⟩ (by simp [afterOneStop])⟩

end EstimatorPipeline

end FalconGuide
