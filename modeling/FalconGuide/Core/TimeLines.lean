import FalconGuide.Core.BufferLedger

namespace FalconGuide

/-!
# Timestamps that cannot be compared

An empty buffer takes any measurement, and compares it only when the next one arrives: the newest
measurement stored decides what else can be stored, and the oldest what can be popped.

* `OneLine` — timestamps that can be compared with each other, consistently;
* `Serves` — nothing due is left by `popUntil`, and no measurement is refused as not comparable;
* `serves_of_oneLine` — the main result: so it is in every run on one time line;
* `Blocks` — nothing more is accepted, whatever is inserted or popped;
* `blocks_of_notComparable` — the newest measurement blocks all that it cannot be compared with.
-/

/-! ### Time lines -/

/-- The ordering seen from the other side. -/
def TimestampOrdering.swap : TimestampOrdering → TimestampOrdering
  | .before => .after
  | .equal => .equal
  | .after => .before
  | .notComparable => .notComparable

theorem TimestampOrdering.ofKeys_swap (k l : ℤ ×ₗ ℚ) : ofKeys l k = (ofKeys k l).swap := by
  rcases lt_trichotomy k l with h | h | h
  · simp [ofKeys, h, h.not_gt, swap]
  · simp [ofKeys, h, swap]
  · simp [ofKeys, h, h.not_gt, swap]

theorem compareGpsTime_swap (t u : GpsTime) : compareGpsTime u t = (compareGpsTime t u).swap := by
  rw [compareGpsTime_eq, compareGpsTime_eq]
  apply TimestampOrdering.ofKeys_swap

theorem compareTimestamps_swap (t u : Timestamp) :
    compareTimestamps u t = (compareTimestamps t u).swap := by
  by_cases hsteady : t.hasSteady = true ∧ u.hasSteady = true
  · have ht : t.On .steady := hsteady.1
    have hu : u.On .steady := hsteady.2
    rw [compareTimestamps_eq ht hu, compareTimestamps_eq hu ht]
    apply TimestampOrdering.ofKeys_swap
  · -- both ways GPS time decides, if both have it
    have hback : ¬ (u.hasSteady = true ∧ t.hasSteady = true) := fun h => hsteady h.symm
    have hforth : compareTimestamps t u
        = if t.hasGps && u.hasGps then compareGpsTime t.gps u.gps else .notComparable :=
      if_neg (by simpa using hsteady)
    rw [hforth, compareTimestamps, if_neg (by simpa using hback), Bool.and_comm]
    split
    · exact compareGpsTime_swap t.gps u.gps
    · rfl

/-- Any two of the timestamps can be compared, and the comparisons fit together. -/
structure OneLine (T : Set Timestamp) : Prop where
  comparable : ∀ t ∈ T, ∀ u ∈ T, compareTimestamps t u ≠ .notComparable
  trans : ∀ t ∈ T, ∀ u ∈ T, ∀ v ∈ T, t.AtOrBefore u → u.AtOrBefore v → t.AtOrBefore v

/-- The timestamps of one basis are on one line. -/
theorem oneLine_on (basis : TimeBasis) : OneLine {t | t.On basis} where
  comparable _ ht _ hu := compareTimestamps_ne_notComparable ht hu
  trans _ ht _ hu _ hv htu huv :=
    (Timestamp.atOrBefore_iff ht hv).mpr
      (((Timestamp.atOrBefore_iff ht hu).mp htu).trans ((Timestamp.atOrBefore_iff hu hv).mp huv))

theorem Timestamp.atOrBefore_of_after {t u : Timestamp} (h : compareTimestamps t u = .after) :
    u.AtOrBefore t := by
  left
  rw [compareTimestamps_swap t u, h]
  rfl

/-- A measurement of time `t` is to be popped. -/
def IsDue (t target : Timestamp) (includeEqual : Bool) : Prop :=
  compareTimestamps t target = .before ∨
    (includeEqual = true ∧ compareTimestamps t target = .equal)

/-- On one line, what is not later than a due timestamp is due. -/
theorem IsDue.of_atOrBefore {T : Set Timestamp} (hT : OneLine T) {t u target : Timestamp}
    {includeEqual : Bool} (ht : t ∈ T) (hu : u ∈ T) (htarget : target ∈ T) (htu : t.AtOrBefore u)
    (h : IsDue u target includeEqual) : IsDue t target includeEqual := by
  have hu' : u.AtOrBefore target := h.imp_right And.right
  rcases hT.trans t ht u hu target htarget htu hu' with hbefore | hequal
  · exact .inl hbefore
  · rcases h with hbefore | ⟨hinclude, -⟩
    · -- the target would not be later than `u`, which is before it
      have htarget' : target.AtOrBefore t := by
        right
        rw [compareTimestamps_swap t target, hequal]
        rfl
      have hback := hT.trans target htarget t ht u hu htarget' htu
      rw [Timestamp.AtOrBefore, compareTimestamps_swap u target, hbefore] at hback
      rcases hback with hback | hback
      · cases hback
      · cases hback
    · exact .inr ⟨hinclude, hequal⟩

/-! ### Buffers on one line -/

namespace TimeOrderedBuffer

variable {M : Type} (time : M → Timestamp)

/-- A measurement of the line is stored; without out-of-order inserts, unless it is older than the
    newest one. -/
def Takes (b : TimeOrderedBuffer M) (m : M) : Prop :=
  (b.insert time m).2 = .inserted ∨ (b.insert time m).2 = .insertedAndDroppedOldest ∨
    (b.allowOutOfOrderInsert = false ∧ ∃ latest, b.measurements.getLast? = some latest ∧
      compareTimestamps (time latest) (time m) = .after)

/-- **The buffer serves a time line:** `PopUntil` leaves nothing that is due, and every measurement
    is taken. -/
structure Serves (T : Set Timestamp) (b : TimeOrderedBuffer M) : Prop where
  popped : ∀ target ∈ T, ∀ includeEqual,
    ∀ x ∈ (b.popUntil time target includeEqual).2.measurements,
      ¬ IsDue (time x) target includeEqual
  taken : ∀ m, time m ∈ T → Takes time b m

/-- The measurements are of one line, and in its order. -/
structure InLine (T : Set Timestamp) (b : TimeOrderedBuffer M) : Prop where
  mem : ∀ x ∈ b.measurements, time x ∈ T
  sorted : b.measurements.Pairwise fun x y => (time x).AtOrBefore (time y)

variable {time} {T : Set Timestamp} {b : TimeOrderedBuffer M} {m : M} {xs : List M}

/-- The scan finds the place. -/
theorem scan_inLine (hT : OneLine T) (hm : time m ∈ T) (hxs : ∀ x ∈ xs, time x ∈ T)
    (hsorted : xs.Pairwise fun x y => (time x).AtOrBefore (time y)) :
    ∃ ys, scan time m xs = some ys ∧ ys.Pairwise fun x y => (time x).AtOrBefore (time y) := by
  induction xs with
  | nil => exact ⟨[m], rfl, List.pairwise_singleton _ _⟩
  | cons x xs ih =>
    have hx : time x ∈ T := hxs x (by simp)
    have htail : ∀ y ∈ xs, time y ∈ T := fun y hy => hxs y (List.mem_cons_of_mem _ hy)
    have hsorted' := List.pairwise_cons.mp hsorted
    -- in front of `x` the measurement is not later than any other
    have hfront : (time m).AtOrBefore (time x) →
        (m :: x :: xs).Pairwise fun x y => (time x).AtOrBefore (time y) := by
      intro hle
      refine List.pairwise_cons.mpr ⟨?_, hsorted⟩
      intro y hy
      rcases List.mem_cons.mp hy with rfl | hy
      · exact hle
      · exact hT.trans _ hm _ hx _ (htail y hy) hle (hsorted'.1 y hy)
    cases hcmp : compareTimestamps (time m) (time x) with
    | notComparable => exact absurd hcmp (hT.comparable _ hm _ hx)
    | before => exact ⟨m :: x :: xs, by simp only [scan, hcmp], hfront (.inl hcmp)⟩
    | equal => exact ⟨m :: x :: xs, by simp only [scan, hcmp], hfront (.inr hcmp)⟩
    | after =>
      obtain ⟨ys, hscan, hys⟩ := ih htail hsorted'.2
      refine ⟨x :: ys, by simp only [scan, hcmp, hscan, Option.map_some], ?_⟩
      refine List.pairwise_cons.mpr ⟨?_, hys⟩
      intro y hy
      rcases mem_of_mem_scan hscan hy with rfl | hy
      · exact Timestamp.atOrBefore_of_after hcmp
      · exact hsorted'.1 y hy

/-- **The place of a measurement** of the line keeps the order; there is one unless the measurement
    is late and late ones are refused. -/
theorem place_inLine (hT : OneLine T) (hb : InLine time T b) (hm : time m ∈ T) :
    (∃ ys, b.place time m = .ok ys ∧ ys.Pairwise fun x y => (time x).AtOrBefore (time y)) ∨
    (b.allowOutOfOrderInsert = false ∧ ∃ latest, b.measurements.getLast? = some latest ∧
      compareTimestamps (time latest) (time m) = .after) := by
  cases hlast : b.measurements.getLast? with
  | none => exact .inl ⟨[m], by simp only [place, hlast], List.pairwise_singleton _ _⟩
  | some latest =>
    have hmem := List.mem_of_getLast? hlast
    have hend : (time latest).AtOrBefore (time m) →
        (b.measurements ++ [m]).Pairwise fun x y => (time x).AtOrBefore (time y) := by
      intro hle
      refine pairwise_concat hb.sorted hlast hle ?_
      intro x hx hle'
      exact hT.trans _ (hb.mem x hx) _ (hb.mem latest hmem) _ hm hle' hle
    cases hcmp : compareTimestamps (time latest) (time m) with
    | notComparable => exact absurd hcmp (hT.comparable _ (hb.mem latest hmem) _ hm)
    | before => exact .inl ⟨_, by simp only [place, hlast, hcmp], hend (.inl hcmp)⟩
    | equal => exact .inl ⟨_, by simp only [place, hlast, hcmp], hend (.inr hcmp)⟩
    | after =>
      cases hallow : b.allowOutOfOrderInsert with
      | false => exact .inr ⟨rfl, latest, rfl, hcmp⟩
      | true =>
        obtain ⟨zs, hscan, hzs⟩ := scan_inLine hT hm hb.mem hb.sorted
        exact .inl ⟨zs, by simp [place, hlast, hcmp, hallow, hscan], hzs⟩

theorem pairwise_of_place (hT : OneLine T) (hb : InLine time T b) (hm : time m ∈ T)
    (h : b.place time m = .ok xs) : xs.Pairwise fun x y => (time x).AtOrBefore (time y) := by
  rcases place_inLine hT hb hm with ⟨ys, hplace, hys⟩ | ⟨hallow, latest, hlast, hcmp⟩
  · rw [h] at hplace
    cases hplace
    exact hys
  · simp [place, hlast, hcmp, hallow] at h

/-! ### What comes out -/

/-- The loop of `PopUntil` stops at a measurement that is not due. -/
theorem popLoop_rest (target : Timestamp) (includeEqual : Bool) (xs : List M) :
    (popLoop time target includeEqual xs).2 = [] ∨
      ∃ x rest, (popLoop time target includeEqual xs).2 = x :: rest ∧
        ¬ IsDue (time x) target includeEqual := by
  induction xs with
  | nil => exact .inl rfl
  | cons x xs ih =>
    cases hcmp : compareTimestamps (time x) target with
    | notComparable =>
      refine .inr ⟨x, xs, by simp only [popLoop, hcmp], ?_⟩
      simp [IsDue, hcmp]
    | after =>
      refine .inr ⟨x, xs, by simp only [popLoop, hcmp], ?_⟩
      simp [IsDue, hcmp]
    | before =>
      simp only [popLoop, hcmp, Prod.map_snd, id]
      exact ih
    | equal =>
      cases includeEqual with
      | false =>
        refine .inr ⟨x, xs, by simp [popLoop, hcmp], ?_⟩
        simp [IsDue, hcmp]
      | true =>
        simp only [popLoop, hcmp, if_true, Prod.map_snd, id]
        exact ih

/-- It passes only what can be compared with the target. -/
theorem comparable_of_mem_popLoop {target : Timestamp} {includeEqual : Bool} {x : M}
    (h : x ∈ (popLoop time target includeEqual xs).1) :
    compareTimestamps (time x) target ≠ .notComparable := by
  induction xs with
  | nil => cases h
  | cons y xs ih =>
    cases hcmp : compareTimestamps (time y) target with
    | notComparable => simp [popLoop, hcmp] at h
    | after => simp [popLoop, hcmp] at h
    | before =>
      simp only [popLoop, hcmp, Prod.map_fst, List.mem_cons] at h
      rcases h with rfl | h
      · simp [hcmp]
      · exact ih h
    | equal =>
      cases includeEqual with
      | false => simp [popLoop, hcmp] at h
      | true =>
        simp only [popLoop, hcmp, if_true, Prod.map_fst, List.mem_cons] at h
        rcases h with rfl | h
        · simp [hcmp]
        · exact ih h

/-- **A buffer in line** serves its line. -/
theorem InLine.serves (hT : OneLine T) (hb : InLine time T b) : Serves time T b where
  popped := by
    intro target htarget includeEqual x hx hdue
    have hrest : (b.popUntil time target includeEqual).2.measurements
        = (popLoop time target includeEqual b.measurements).2 := rfl
    rcases @popLoop_rest M time target includeEqual b.measurements with
      hnil | ⟨y, rest, hcons, hnot⟩
    · rw [hrest, hnil] at hx
      cases hx
    -- the first that is left is not due, and the others are not earlier
    · have hsub : (y :: rest).Sublist b.measurements := by
        rw [← @popLoop_append M time target includeEqual b.measurements, hcons]
        exact List.sublist_append_right _ _
      rw [hrest, hcons] at hx
      have hsorted := List.pairwise_cons.mp (hb.sorted.sublist hsub)
      rcases List.mem_cons.mp hx with rfl | hmem
      · exact hnot hdue
      · exact hnot (hdue.of_atOrBefore hT (hb.mem y (hsub.subset (by simp)))
          (hb.mem x (hsub.subset hx)) htarget (hsorted.1 x hmem))
  taken := by
    intro m hm
    rcases place_inLine hT hb hm with ⟨ys, hplace, -⟩ | hlate
    · rw [Takes, insert_eq_place, hplace]
      by_cases hfits : b.maxSize = 0 ∨ ys.length ≤ b.maxSize
      · exact .inl (by simp only [enforceMaxSize, if_pos hfits])
      · exact .inr (.inl (by simp only [enforceMaxSize, if_neg hfits]))
    · exact .inr (.inr hlate)

/-! ### Runs -/

/-- **One insert.** -/
theorem InLine.insert (hT : OneLine T) (hb : InLine time T b) (hm : time m ∈ T) :
    InLine time T (b.insert time m).1 where
  mem := by
    intro x hx
    rcases mem_of_mem_insert hx with rfl | hx
    · exact hm
    · exact hb.mem x hx
  sorted := by
    rcases @insert_cases M time b m with
      ⟨r, hinsert, -⟩ | ⟨xs, hplace, -, hinsert⟩ | ⟨xs, hplace, -, -, hinsert⟩
    · rw [hinsert]
      exact hb.sorted
    · rw [hinsert]
      exact pairwise_of_place hT hb hm hplace
    · -- dropping the oldest keeps the order of the others
      rw [hinsert]
      exact (pairwise_of_place hT hb hm hplace).sublist (List.tail_sublist _)

theorem InLine.sublist {ys : List M} (hb : InLine time T b) (h : ys.Sublist b.measurements) :
    InLine time T { b with measurements := ys } :=
  ⟨fun x hx => hb.mem x (h.subset hx), hb.sorted.sublist h⟩

end TimeOrderedBuffer

namespace Ledger

variable {M : Type} {time : M → Timestamp} {T : Set Timestamp}

/-- **Every run** stays in line. -/
theorem inLine_run (hT : OneLine T) {l : Ledger M} (hl : l.buffer.InLine time T)
    {calls : List (BufferCall M)} (hcalls : ∀ m, .insert m ∈ calls → time m ∈ T) :
    (l.run time calls).buffer.InLine time T := by
  induction calls generalizing l with
  | nil => exact hl
  | cons c calls ih =>
    refine ih (l := l.call time c) ?_ fun m hm => hcalls m (List.mem_cons_of_mem c hm)
    cases c with
    | insert m =>
      rw [call_insert_buffer]
      exact hl.insert hT (hcalls m (by simp))
    | popUntil target includeEqual =>
      have hsplit := @TimeOrderedBuffer.popLoop_append M time target includeEqual
        l.buffer.measurements
      have hsuffix : (TimeOrderedBuffer.popLoop time target includeEqual
          l.buffer.measurements).2 <:+ l.buffer.measurements := ⟨_, hsplit⟩
      exact hl.sublist hsuffix.sublist
    | clear => exact hl.sublist (List.nil_sublist _)

end Ledger

/-- **On one time line** every reachable buffer serves the line: nothing that is due is left behind,
    and every measurement is taken. -/
theorem serves_of_oneLine {M : Type} (time : M → Timestamp) (T : Set Timestamp) (hT : OneLine T)
    (maxSize : ℕ) (allowOutOfOrderInsert : Bool) (calls : List (BufferCall M))
    (hcalls : ∀ m, .insert m ∈ calls → time m ∈ T) :
    ((Ledger.start M maxSize allowOutOfOrderInsert).run time calls).buffer.Serves time T := by
  refine (Ledger.inLine_run hT ?_ hcalls).serves hT
  exact ⟨fun x hx => absurd hx List.not_mem_nil, List.Pairwise.nil⟩

/-- Samples on the monotonic clock, two of them late, one evicted and one popped. -/
theorem serves_of_oneLine_steady :
    let l := (Ledger.start Timestamp 2 true).run id
      [.insert (.ofSteady 5), .insert (.ofSteady 3), .insert (.ofSteady 4),
        .popUntil (.ofSteady 4) true, .insert (.ofSteady 9)]
    l.buffer.measurements = [.ofSteady 5, .ofSteady 9] ∧
      l.buffer.Serves id {t | t.On .steady} := by
  refine ⟨by decide, serves_of_oneLine id _ (oneLine_on .steady) 2 true _ ?_⟩
  intro m hm
  simp only [List.mem_cons, BufferCall.insert.injEq, List.not_mem_nil, or_false, reduceCtorEq,
    false_or] at hm
  rcases hm with rfl | rfl | rfl | rfl <;> rfl

/-! ### A measurement that blocks the others -/

namespace Ledger

variable {M : Type} (time : M → Timestamp)

/-- The timestamp of a call. -/
def timeOfCall : BufferCall M → Option Timestamp
  | .insert m => some (time m)
  | .popUntil target _ => some target
  | .clear => none

/-- **Nothing is accepted any more,** whatever is inserted and popped at times of `T`. -/
def Blocks (T : Set Timestamp) (l : Ledger M) : Prop :=
  ∀ calls : List (BufferCall M), (∀ c ∈ calls, ∃ t ∈ T, timeOfCall time c = some t) →
    (l.run time calls).accepted = l.accepted

variable {time} {T : Set Timestamp} {l : Ledger M}

/-- **The newest measurement** blocks all that it cannot be compared with. -/
theorem blocks_of_notComparable {latest : M} (hlast : l.buffer.measurements.getLast? = some latest)
    (hT : ∀ t ∈ T, compareTimestamps (time latest) t = .notComparable) : l.Blocks time T := by
  intro calls hcalls
  induction calls generalizing l with
  | nil => rfl
  | cons c calls ih =>
    obtain ⟨t, ht, htime⟩ := hcalls c (by simp)
    have hrest : ∀ c ∈ calls, ∃ t ∈ T, timeOfCall time c = some t :=
      fun c hc => hcalls c (List.mem_cons_of_mem _ hc)
    cases c with
    | insert m =>
      cases htime
      have hinsert : l.buffer.insert time m = (l.buffer, .rejectedNotComparable) := by
        simp [TimeOrderedBuffer.insert, hlast, hT _ ht]
      have hcall : l.call time (.insert m) = l := by simp only [call, hinsert]
      show ((l.call time (.insert m)).run time calls).accepted = _
      rw [hcall]
      exact ih hlast hrest
    | popUntil target includeEqual =>
      have htarget : target ∈ T := by
        cases htime
        exact ht
      have hsplit := @TimeOrderedBuffer.popLoop_append M time target includeEqual
        l.buffer.measurements
      have hstays : (TimeOrderedBuffer.popLoop time target includeEqual
          l.buffer.measurements).2.getLast? = some latest := by
        rw [← hsplit, List.getLast?_append] at hlast
        cases hrest : (TimeOrderedBuffer.popLoop time target includeEqual
            l.buffer.measurements).2.getLast? with
        | some x =>
          rw [hrest] at hlast
          exact hlast
        | none =>
          -- to be popped it would have to be compared with the target
          rw [hrest, Option.none_or] at hlast
          exact absurd (hT target htarget)
            (TimeOrderedBuffer.comparable_of_mem_popLoop (List.mem_of_getLast? hlast))
      exact ih (l := l.call time (.popUntil target includeEqual)) hstays hrest
    | clear => cases htime

end Ledger

/-- **Two timestamps too many.** A measurement without any time is accepted by a new buffer, which
    then takes nothing of the monotonic clock for ever; and a measurement of the monotonic clock
    keeps one behind it from a target on GPS time. -/
theorem not_serves_arbitrary :
    (∃ m : Timestamp, ((Ledger.start Timestamp 2000 true).run id [.insert m]).accepted = {m} ∧
      ((Ledger.start Timestamp 2000 true).run id [.insert m]).Blocks id {t | t.On .steady}) ∧
    ∃ (calls : List (BufferCall Timestamp)) (target x : Timestamp),
      x ∈ (((Ledger.start Timestamp 2000 true).run id calls).buffer.popUntil id target
        true).2.measurements ∧ IsDue x target true := by
  constructor
  · let untimed : Timestamp := {}
    refine ⟨untimed, by decide, ?_⟩
    apply Ledger.blocks_of_notComparable (show _ = some untimed from rfl)
    intro t _
    rfl
  · let both : Timestamp := { Timestamp.ofGps 1 5 with
      steady := { nanosecondsSinceEpoch := 2 }, hasSteady := true }
    refine ⟨[.insert (.ofSteady 1), .insert both], .ofGps 1 7, both, by decide, ?_⟩
    exact .inl (by decide)

end FalconGuide
