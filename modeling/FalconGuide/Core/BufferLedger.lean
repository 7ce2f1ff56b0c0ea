import FalconGuide.Core.TimeBasis
import FalconGuide.Core.TimeOrderedBuffer
import Mathlib.Algebra.Order.Group.Multiset
import Mathlib.Data.List.Sort
import Mathlib.Tactic.Abel

namespace FalconGuide

/-!
# Where the buffered measurements go

The books of a `TimeOrderedBuffer`: every measurement that `insert` accepts is stored, popped,
cleared or evicted, once.

* `TimeOrderedBuffer.place` — `insert` up to the eviction;
* `BufferCall`, `Ledger` — the calls of a buffer, and what became of the measurements;
* `Ledger.Balanced` — the invariant: sorted, bounded, and nothing lost;
* `popsOf_sublist` — between two inserts the buffer only gives away what it holds;
* `buffer_accounts` — all of it, for every sequence of calls on one time basis.
-/

namespace TimeOrderedBuffer

variable {M : Type} (time : M → Timestamp)

/-- `Insert` up to `EnforceMaxSize`: the content with the new measurement in its place, or why it
    is rejected. -/
def place (b : TimeOrderedBuffer M) (m : M) : Except BufferInsertResult (List M) :=
  match b.measurements.getLast? with
  | none => .ok [m]
  | some latest =>
    match compareTimestamps (time latest) (time m) with
    | .before => .ok (b.measurements ++ [m])
    | .equal => .ok (b.measurements ++ [m])
    | .notComparable => .error .rejectedNotComparable
    | .after =>
      if !b.allowOutOfOrderInsert then .error .rejectedOutOfOrder
      else
        match scan time m b.measurements with
        | none => .error .rejectedNotComparable
        | some measurements => .ok measurements

variable {time} {b : TimeOrderedBuffer M} {m : M} {xs : List M}

/-- `Insert` places the measurement, and then enforces the bound. -/
theorem insert_eq_place (b : TimeOrderedBuffer M) (m : M) :
    b.insert time m
      = match b.place time m with
        | .error r => (b, r)
        | .ok xs => enforceMaxSize { b with measurements := xs } .inserted := by
  unfold insert place
  cases b.measurements.getLast? with
  | none =>
    -- one measurement never exceeds the bound
    refine (if_pos ?_).symm
    show b.maxSize = 0 ∨ 1 ≤ b.maxSize
    omega
  | some latest =>
    dsimp only
    cases compareTimestamps (time latest) (time m) with
    | before => rfl
    | equal => rfl
    | notComparable => rfl
    | after =>
      cases b.allowOutOfOrderInsert with
      | false => rfl
      | true =>
        dsimp only [Bool.not_true, Bool.false_eq_true, if_false]
        cases scan time m b.measurements with
        | none => rfl
        | some xs => rfl

theorem place_error {r : BufferInsertResult} (h : b.place time m = .error r) :
    r = .rejectedOutOfOrder ∨ r = .rejectedNotComparable := by
  unfold place at h
  split at h
  · cases h
  · split at h
    · cases h
    · cases h
    · cases h
      exact .inr rfl
    · split at h
      · cases h
        exact .inl rfl
      · split at h
        · cases h
          exact .inr rfl
        · cases h

/-- **What `insert` does:** it rejects, it places the measurement, or it places the measurement
    and drops the oldest. -/
theorem insert_cases (b : TimeOrderedBuffer M) (m : M) :
    (∃ r, b.insert time m = (b, r) ∧ (r = .rejectedOutOfOrder ∨ r = .rejectedNotComparable)) ∨
    (∃ xs, b.place time m = .ok xs ∧ (b.maxSize = 0 ∨ xs.length ≤ b.maxSize) ∧
      b.insert time m = ({ b with measurements := xs }, .inserted)) ∨
    (∃ xs, b.place time m = .ok xs ∧ b.maxSize ≠ 0 ∧ b.maxSize < xs.length ∧
      b.insert time m = ({ b with measurements := xs.tail }, .insertedAndDroppedOldest)) := by
  rw [insert_eq_place]
  cases h : b.place time m with
  | error r => exact .inl ⟨r, rfl, place_error h⟩
  | ok xs =>
    by_cases hfits : b.maxSize = 0 ∨ xs.length ≤ b.maxSize
    · exact .inr (.inl ⟨xs, rfl, hfits, if_pos hfits⟩)
    · have hbound : b.maxSize ≠ 0 ∧ b.maxSize < xs.length := by omega
      exact .inr (.inr ⟨xs, rfl, hbound.1, hbound.2, if_neg hfits⟩)

theorem insert_allow (b : TimeOrderedBuffer M) (m : M) :
    (b.insert time m).1.allowOutOfOrderInsert = b.allowOutOfOrderInsert := by
  rcases @insert_cases M time b m with
    ⟨r, hinsert, -⟩ | ⟨xs, -, -, hinsert⟩ | ⟨xs, -, -, -, hinsert⟩
  · rw [hinsert]
  · rw [hinsert]
  · rw [hinsert]

/-! ### The order of the measurements -/

variable {basis : TimeBasis}

/-- The order of the keys. -/
def Earlier (time : M → Timestamp) (basis : TimeBasis) (x y : M) : Prop :=
  (time x).key basis ≤ (time y).key basis

instance : DecidableRel (Earlier time basis) := fun x y =>
  inferInstanceAs (Decidable ((time x).key basis ≤ (time y).key basis))

instance : Std.Total (Earlier time basis) := ⟨fun _ _ => le_total _ _⟩

instance : IsTrans M (Earlier time basis) := ⟨fun _ _ _ => le_trans⟩

/-- On one basis the scan is insertion into a sorted list. -/
theorem scan_eq (hm : (time m).On basis) (hxs : ∀ x ∈ xs, (time x).On basis) :
    scan time m xs = some (xs.orderedInsert (Earlier time basis) m) := by
  induction xs with
  | nil => rfl
  | cons x xs ih =>
    have hx : (time x).On basis := hxs x (by simp)
    have hrest := ih fun y hy => hxs y (List.mem_cons_of_mem _ hy)
    by_cases hle : Earlier time basis m x
    · rw [List.orderedInsert_cons, if_pos hle]
      rcases (Timestamp.atOrBefore_iff hm hx).mpr hle with hcmp | hcmp
      · simp only [scan, hcmp]
      · simp only [scan, hcmp]
    · rw [List.orderedInsert_cons, if_neg hle]
      have hcmp := (compareTimestamps_eq_after_iff hm hx).mpr (not_le.mp hle)
      simp only [scan, hcmp, hrest, Option.map_some]

/-- Behind the newest measurement, what comes after that one comes after them all. -/
theorem pairwise_concat {R : M → M → Prop} {latest : M} (hsorted : xs.Pairwise R)
    (hlast : xs.getLast? = some latest) (hle : R latest m)
    (htrans : ∀ x ∈ xs, R x latest → R x m) : (xs ++ [m]).Pairwise R := by
  obtain ⟨ys, rfl⟩ := List.getLast?_eq_some_iff.mp hlast
  refine List.pairwise_append.mpr ⟨hsorted, List.pairwise_singleton _ _, ?_⟩
  intro x hx y hy
  rw [List.mem_singleton.mp hy]
  rcases List.mem_append.mp hx with hys | hlatest
  · exact htrans x hx ((List.pairwise_append.mp hsorted).2.2 x hys latest (by simp))
  · rw [List.mem_singleton.mp hlatest]
    exact hle

/-- The place of a new measurement keeps the order. -/
theorem place_sorted (h : b.place time m = .ok xs) (hm : (time m).On basis)
    (hb : ∀ x ∈ b.measurements, (time x).On basis)
    (hsorted : b.measurements.Pairwise (Earlier time basis)) :
    xs.Pairwise (Earlier time basis) ∧ xs.Perm (m :: b.measurements) := by
  unfold place at h
  split at h
  · cases h
    rename_i hlast
    rw [List.getLast?_eq_none_iff.mp hlast]
    exact ⟨List.pairwise_singleton _ _, .rfl⟩
  · rename_i latest hlast
    have hlatest : (time latest).On basis := hb latest (List.mem_of_getLast? hlast)
    -- a measurement that is not before the latest is not before any other
    have happend : (time latest).AtOrBefore (time m) →
        (b.measurements ++ [m]).Pairwise (Earlier time basis) := by
      intro hle
      have hlast' : Earlier time basis latest m := (Timestamp.atOrBefore_iff hlatest hm).mp hle
      exact pairwise_concat hsorted hlast hlast' fun x _ hx => le_trans hx hlast'
    have hperm : (b.measurements ++ [m]).Perm (m :: b.measurements) :=
      List.perm_append_singleton m b.measurements
    split at h
    · rename_i hcmp
      cases h
      exact ⟨happend (.inl hcmp), hperm⟩
    · rename_i hcmp
      cases h
      exact ⟨happend (.inr hcmp), hperm⟩
    · cases h
    · split at h
      · cases h
      · rw [scan_eq hm hb] at h
        cases h
        exact ⟨hsorted.orderedInsert m _, List.perm_orderedInsert _ m _⟩

end TimeOrderedBuffer

/-! ### The books -/

/-- A call of a buffer. -/
inductive BufferCall (M : Type)
  | insert (m : M)
  | popUntil (target : Timestamp) (includeEqual : Bool)
  | clear

/-- A buffer, with what became of the measurements it accepted.  An eviction is entered with the
    content of the buffer when it happened. -/
structure Ledger (M : Type) where
  buffer : TimeOrderedBuffer M
  accepted : Multiset M := 0
  popped : Multiset M := 0
  cleared : Multiset M := 0
  evictions : List (M × List M) := []

namespace Ledger

variable {M : Type} (time : M → Timestamp)

/-- The entry for an insert that drops the oldest measurement. -/
def eviction (b : TimeOrderedBuffer M) (m : M) : List (M × List M) :=
  match b.place time m with
  | .ok (x :: xs) => [(x, x :: xs)]
  | _ => []

/-- One call, with its entries. -/
def call (l : Ledger M) : BufferCall M → Ledger M
  | .insert m =>
    let (buffer, r) := l.buffer.insert time m
    match r with
    | .inserted => { l with buffer, accepted := m ::ₘ l.accepted }
    | .insertedAndDroppedOldest =>
      { l with
        buffer
        accepted := m ::ₘ l.accepted
        evictions := l.evictions ++ eviction time l.buffer m }
    | .rejectedOutOfOrder => { l with buffer }
    | .rejectedNotComparable => { l with buffer }
  | .popUntil target includeEqual =>
    let (popped, buffer) := l.buffer.popUntil time target includeEqual
    { l with buffer, popped := l.popped + popped }
  | .clear =>
    { l with buffer := l.buffer.clear, cleared := l.cleared + l.buffer.measurements }

/-- Some calls. -/
def run (l : Ledger M) (calls : List (BufferCall M)) : Ledger M := calls.foldl (call time) l

/-- What the `PopUntil` calls among `calls` return, in their order. -/
def popsOf (l : Ledger M) : List (BufferCall M) → List M
  | [] => []
  | .popUntil target includeEqual :: calls =>
    (l.buffer.popUntil time target includeEqual).1
      ++ popsOf (l.call time (.popUntil target includeEqual)) calls
  | c :: calls => popsOf (l.call time c) calls

/-- **The books balance:** the measurements stored are on the basis, in order and within the
    bound; with those popped, cleared and evicted they are the ones accepted; and every eviction
    took a minimum. -/
structure Balanced (basis : TimeBasis) (l : Ledger M) : Prop where
  on : ∀ x ∈ l.buffer.measurements, (time x).On basis
  sorted : l.buffer.measurements.Pairwise (TimeOrderedBuffer.Earlier time basis)
  bounded : l.buffer.maxSize ≠ 0 → l.buffer.measurements.length ≤ l.buffer.maxSize
  conserved : l.accepted
    = l.buffer.measurements + l.popped + l.cleared + (l.evictions.map Prod.fst : List M)
  minimal : ∀ e ∈ l.evictions, e.1 ∈ e.2 ∧ ∀ x ∈ e.2, (time e.1).AtOrBefore (time x)

variable {time} {basis : TimeBasis} {l : Ledger M}

/-- What an insert does to the buffer. -/
theorem call_insert_buffer (l : Ledger M) (m : M) :
    (l.call time (.insert m)).buffer = (l.buffer.insert time m).1 := by
  cases hinsert : l.buffer.insert time m with
  | mk b r =>
    cases r with
    | inserted => simp only [call, hinsert]
    | insertedAndDroppedOldest => simp only [call, hinsert]
    | rejectedOutOfOrder => simp only [call, hinsert]
    | rejectedNotComparable => simp only [call, hinsert]

/-- An accepted measurement that is placed without an eviction. -/
theorem Balanced.insert {m : M} {xs : List M} (h : l.Balanced time basis)
    (hm : (time m).On basis) (hplace : l.buffer.place time m = .ok xs)
    (hfits : l.buffer.maxSize = 0 ∨ xs.length ≤ l.buffer.maxSize) :
    Balanced time basis
      { l with buffer := { l.buffer with measurements := xs }, accepted := m ::ₘ l.accepted } := by
  obtain ⟨hsorted, hperm⟩ := TimeOrderedBuffer.place_sorted hplace hm h.on h.sorted
  refine ⟨?_, hsorted, fun hbound => hfits.resolve_left hbound, ?_, h.minimal⟩
  · intro x hx
    rcases List.mem_cons.mp (hperm.mem_iff.mp hx) with rfl | hx
    · exact hm
    · exact h.on x hx
  · show m ::ₘ l.accepted = (xs : Multiset M) + l.popped + l.cleared + _
    rw [Multiset.coe_eq_coe.mpr hperm, h.conserved, ← Multiset.cons_coe]
    simp only [Multiset.cons_add]

/-- An accepted measurement that drops the oldest one. -/
theorem Balanced.insert_drop {m x : M} {xs : List M} (h : l.Balanced time basis)
    (hm : (time m).On basis) (hplace : l.buffer.place time m = .ok (x :: xs))
    (hfull : l.buffer.measurements.length ≤ l.buffer.maxSize) :
    Balanced time basis
      { l with
        buffer := { l.buffer with measurements := xs }
        accepted := m ::ₘ l.accepted
        evictions := l.evictions ++ [(x, x :: xs)] } := by
  obtain ⟨hsorted, hperm⟩ := TimeOrderedBuffer.place_sorted hplace hm h.on h.sorted
  have hon : ∀ y ∈ x :: xs, (time y).On basis := by
    intro y hy
    rcases List.mem_cons.mp (hperm.mem_iff.mp hy) with rfl | hy
    · exact hm
    · exact h.on y hy
  refine ⟨fun y hy => hon y (List.mem_cons_of_mem x hy), hsorted.of_cons, ?_, ?_, ?_⟩
  · intro _
    have hlength := hperm.length_eq
    simp only [List.length_cons] at hlength
    show xs.length ≤ l.buffer.maxSize
    omega
  · show m ::ₘ l.accepted = (xs : Multiset M) + l.popped + l.cleared
      + ((l.evictions ++ [(x, x :: xs)]).map Prod.fst : List M)
    have hcontent : (x ::ₘ (xs : Multiset M)) = m ::ₘ (l.buffer.measurements : Multiset M) :=
      Multiset.coe_eq_coe.mpr hperm
    rw [h.conserved, List.map_append, ← Multiset.coe_add]
    calc m ::ₘ ((l.buffer.measurements : Multiset M) + l.popped + l.cleared
          + (l.evictions.map Prod.fst : List M))
        = (m ::ₘ (l.buffer.measurements : Multiset M)) + l.popped + l.cleared
          + (l.evictions.map Prod.fst : List M) := by simp only [Multiset.cons_add]
      _ = (x ::ₘ (xs : Multiset M)) + l.popped + l.cleared
          + (l.evictions.map Prod.fst : List M) := by rw [hcontent]
      _ = (xs : Multiset M) + l.popped + l.cleared
          + ((l.evictions.map Prod.fst : List M) + ([x] : List M)) := by
        rw [← Multiset.singleton_add, Multiset.coe_singleton]
        abel
  · intro e he
    rcases List.mem_append.mp he with he | he
    · exact h.minimal e he
    · rw [List.mem_singleton.mp he]
      refine ⟨by simp, ?_⟩
      intro y hy
      -- the content is sorted, and the oldest comes first
      rw [Timestamp.atOrBefore_iff (hon x (by simp)) (hon y hy)]
      rcases List.mem_cons.mp hy with rfl | hy
      · exact le_rfl
      · exact (List.pairwise_cons.mp hsorted).1 y hy

/-- Measurements that are popped from the front. -/
theorem Balanced.pop {popped rest : List M} (h : l.Balanced time basis)
    (hsplit : popped ++ rest = l.buffer.measurements) :
    Balanced time basis
      { l with
        buffer := { l.buffer with measurements := rest }
        popped := l.popped + (popped : Multiset M) } := by
  have hrest : rest.Sublist l.buffer.measurements := hsplit ▸ List.sublist_append_right popped rest
  refine ⟨fun x hx => h.on x (hrest.subset hx), h.sorted.sublist hrest, ?_, ?_, h.minimal⟩
  · intro hbound
    exact hrest.length_le.trans (h.bounded hbound)
  · show l.accepted = (rest : Multiset M) + (l.popped + (popped : Multiset M)) + l.cleared + _
    rw [h.conserved, ← hsplit, ← Multiset.coe_add]
    abel

/-- **One call keeps the books balanced.** -/
theorem Balanced.call (h : l.Balanced time basis) (c : BufferCall M)
    (hc : ∀ m, c = .insert m → (time m).On basis) : (l.call time c).Balanced time basis := by
  cases c with
  | insert m =>
    have hm := hc m rfl
    rcases @TimeOrderedBuffer.insert_cases M time l.buffer m with
      ⟨r, hinsert, rfl | rfl⟩ | ⟨xs, hplace, hfits, hinsert⟩ | ⟨xs, hplace, hbound, hover, hinsert⟩
    · simp only [Ledger.call, hinsert]
      exact h
    · simp only [Ledger.call, hinsert]
      exact h
    · simp only [Ledger.call, hinsert]
      exact h.insert hm hplace hfits
    · simp only [Ledger.call, hinsert]
      cases xs with
      | nil => cases hover
      | cons x xs =>
        have hevicted : eviction time l.buffer m = [(x, x :: xs)] := by
          simp only [eviction, hplace]
        simp only [hevicted]
        exact h.insert_drop hm hplace (h.bounded hbound)
  | popUntil target includeEqual =>
    exact h.pop (TimeOrderedBuffer.popLoop_append target includeEqual l.buffer.measurements)
  | clear =>
    refine ⟨by simp [Ledger.call, TimeOrderedBuffer.clear], ?_, ?_, ?_, h.minimal⟩
    · exact List.Pairwise.nil
    · intro _
      exact Nat.zero_le _
    · show l.accepted = ([] : List M) + l.popped + (l.cleared + l.buffer.measurements) + _
      rw [h.conserved, Multiset.coe_nil]
      abel

/-- **And so do several.** -/
theorem Balanced.run {calls : List (BufferCall M)} (h : l.Balanced time basis)
    (hcalls : ∀ m, .insert m ∈ calls → (time m).On basis) :
    (l.run time calls).Balanced time basis := by
  induction calls generalizing l with
  | nil => exact h
  | cons c calls ih =>
    refine ih (h.call c ?_) (fun m hm => hcalls m (List.mem_cons_of_mem c hm))
    rintro m rfl
    exact hcalls m (by simp)

/-- Without an insert the buffer only gives away, in its order, what it holds. -/
theorem popsOf_sublist {calls : List (BufferCall M)} (h : ∀ m, .insert m ∉ calls) :
    (l.popsOf time calls).Sublist l.buffer.measurements := by
  induction calls generalizing l with
  | nil => exact List.nil_sublist _
  | cons c calls ih =>
    have hrest : ∀ m, .insert m ∉ calls := fun m hm => h m (List.mem_cons_of_mem c hm)
    cases c with
    | insert m => exact absurd (List.mem_cons_self) (h m)
    | popUntil target includeEqual =>
      have hsplit := @TimeOrderedBuffer.popLoop_append M time target includeEqual
        l.buffer.measurements
      have htail : (popsOf time (l.call time (.popUntil target includeEqual)) calls).Sublist
          (TimeOrderedBuffer.popLoop time target includeEqual l.buffer.measurements).2 :=
        ih (l := l.call time (.popUntil target includeEqual)) hrest
      rw [← hsplit]
      exact (List.Sublist.refl _).append htail
    | clear =>
      have htail : (popsOf time (l.call time .clear) calls).Sublist [] :=
        ih (l := l.call time .clear) hrest
      exact htail.trans (List.nil_sublist _)

end Ledger

/-- A new buffer. -/
def Ledger.start (M : Type) (maxSize : ℕ) (allowOutOfOrderInsert : Bool) : Ledger M :=
  { buffer := { maxSize, allowOutOfOrderInsert } }

theorem Ledger.start_balanced {M : Type} (time : M → Timestamp) (basis : TimeBasis) (maxSize : ℕ)
    (allowOutOfOrderInsert : Bool) :
    (start M maxSize allowOutOfOrderInsert).Balanced time basis where
  on _ hx := absurd hx List.not_mem_nil
  sorted := List.Pairwise.nil
  bounded _ := Nat.zero_le _
  conserved := rfl
  minimal _ he := absurd he List.not_mem_nil

/-- The configured bound never changes. -/
theorem Ledger.run_maxSize {M : Type} (time : M → Timestamp) (l : Ledger M)
    (calls : List (BufferCall M)) :
    (l.run time calls).buffer.maxSize = l.buffer.maxSize := by
  induction calls generalizing l with
  | nil => rfl
  | cons c calls ih =>
    refine (ih (l.call time c)).trans ?_
    cases c with
    | insert m =>
      rw [call_insert_buffer]
      rcases @TimeOrderedBuffer.insert_cases M time l.buffer m with
        ⟨r, hinsert, -⟩ | ⟨xs, -, -, hinsert⟩ | ⟨xs, -, -, -, hinsert⟩
      · rw [hinsert]
      · rw [hinsert]
      · rw [hinsert]
    | popUntil target includeEqual => rfl
    | clear => rfl

/-- **The buffer loses nothing.** For every sequence of calls whose measurements share one time
    basis, the stored measurements are in order and within the bound, the accepted ones are those
    stored, popped, cleared and evicted, every eviction took a minimum of the buffer, and what is
    popped between two inserts comes in order. -/
theorem buffer_accounts {M : Type} (time : M → Timestamp) (basis : TimeBasis) (maxSize : ℕ)
    (allowOutOfOrderInsert : Bool) (calls : List (BufferCall M))
    (hcalls : ∀ m, .insert m ∈ calls → (time m).On basis) :
    let l := (Ledger.start M maxSize allowOutOfOrderInsert).run time calls
    l.buffer.measurements.Pairwise (fun x y => (time x).AtOrBefore (time y)) ∧
    (maxSize ≠ 0 → l.buffer.measurements.length ≤ maxSize) ∧
    l.accepted
      = l.buffer.measurements + l.popped + l.cleared + (l.evictions.map Prod.fst : List M) ∧
    (∀ e ∈ l.evictions, e.1 ∈ e.2 ∧ ∀ x ∈ e.2, (time e.1).AtOrBefore (time x)) ∧
    ∀ before between : List (BufferCall M), calls = before ++ between →
      (∀ m, .insert m ∉ between) →
      (((Ledger.start M maxSize allowOutOfOrderInsert).run time before).popsOf time
        between).Pairwise (fun x y => (time x).AtOrBefore (time y)) := by
  have hstart := Ledger.start_balanced time basis maxSize allowOutOfOrderInsert
  have hbalanced := hstart.run hcalls
  -- on the basis, the order of the keys is the order of the timestamps
  have hordered : ∀ l : Ledger M, l.Balanced time basis →
      l.buffer.measurements.Pairwise (fun x y => (time x).AtOrBefore (time y)) := by
    intro l hl
    refine hl.sorted.imp_of_mem ?_
    intro x y hx hy hle
    exact (Timestamp.atOrBefore_iff (hl.on x hx) (hl.on y hy)).mpr hle
  refine ⟨hordered _ hbalanced, ?_, hbalanced.conserved, hbalanced.minimal, ?_⟩
  · have hbounded := hbalanced.bounded
    rw [Ledger.run_maxSize] at hbounded
    exact hbounded
  · rintro before between rfl hbetween
    have hbefore := hstart.run (fun m hm => hcalls m (List.mem_append_left between hm))
    exact (hordered _ hbefore).sublist (Ledger.popsOf_sublist hbetween)

/-- Three samples in a buffer for two, the last of them out of order. -/
theorem buffer_accounts_three :
    let calls : List (BufferCall Timestamp) :=
      [.insert { steady := { nanosecondsSinceEpoch := 2 }, hasSteady := true },
        .insert { steady := { nanosecondsSinceEpoch := 3 }, hasSteady := true },
        .insert { steady := { nanosecondsSinceEpoch := 1 }, hasSteady := true }]
    let l := (Ledger.start Timestamp 2 true).run id calls
    l.buffer.measurements.Pairwise Timestamp.AtOrBefore ∧ l.evictions.length = 1 := by
  intro calls l
  refine ⟨(buffer_accounts id .steady 2 true calls ?_).1, by decide⟩
  intro m hm
  simp only [calls, List.mem_cons, List.not_mem_nil, or_false, BufferCall.insert.injEq] at hm
  rcases hm with rfl | rfl | rfl
  · rfl
  · rfl
  · rfl

end FalconGuide
