import FalconGuide.Core.InsertResults
import Mathlib.Data.List.Induction
import Mathlib.Data.List.Pairwise
import Mathlib.Data.List.TakeWhile

namespace FalconGuide

/-!
# Measurements of one time

`insert` has two ways to a place: behind the newest measurement when that is not later, and else in
front of the first one that is not earlier.  They treat a measurement of equal time differently.

* `BufferCall.number` — a call whose measurement carries the number of its arrival;
* `InArrivalOrder` — of two measurements with equal timestamps, the first arrived first;
* `Stable` — everything returned or stored is in arrival order, at any time of the run;
* `stable_iff` — so exactly if no measurement meets both one of its own time and a later one.
-/

/-- On one basis, equal timestamps have one key. -/
theorem compareTimestamps_eq_equal_iff {basis : TimeBasis} {t u : Timestamp} (ht : t.On basis)
    (hu : u.On basis) : compareTimestamps t u = .equal ↔ t.key basis = u.key basis := by
  rw [compareTimestamps_eq ht hu]
  exact TimestampOrdering.ofKeys_eq_equal

/-- A call, with the number of its measurement's arrival. -/
def BufferCall.number {M : Type} (arrival : ℕ) : BufferCall M → BufferCall (M × ℕ)
  | .insert m => .insert (m, arrival)
  | .popUntil target includeEqual => .popUntil target includeEqual
  | .clear => .clear

namespace TimeOrderedBuffer

variable {M : Type} {time : M → Timestamp} {basis : TimeBasis} {b : TimeOrderedBuffer M} {m : M}

/-! ### The two ways to a place -/

/-- The newest measurement comes last. -/
theorem earlier_latest {latest y : M} (hsorted : b.measurements.Pairwise (Earlier time basis))
    (hlast : b.measurements.getLast? = some latest) (hy : y ∈ b.measurements) :
    Earlier time basis y latest := by
  obtain ⟨_, rfl⟩ := List.mem_getLast?_eq_getLast hlast
  exact hsorted.rel_getLast hy

/-- Without a later measurement `m` goes to the end. -/
theorem place_end (hm : (time m).On basis) (hb : ∀ y ∈ b.measurements, (time y).On basis)
    (hnone : ∀ y ∈ b.measurements, compareTimestamps (time y) (time m) ≠ .after) :
    b.place time m = .ok (b.measurements ++ [m]) := by
  unfold place
  cases hlast : b.measurements.getLast? with
  | none =>
    rw [List.getLast?_eq_none_iff.mp hlast]
    rfl
  | some latest =>
    have hmem := List.mem_of_getLast? hlast
    cases hcmp : compareTimestamps (time latest) (time m) with
    | before => simp only [hcmp]
    | equal => simp only [hcmp]
    | after => exact absurd hcmp (hnone latest hmem)
    | notComparable => exact absurd hcmp (compareTimestamps_ne_notComparable (hb latest hmem) hm)

/-- With one, `m` is inserted in front of those that are not earlier, or rejected. -/
theorem place_late {y : M} (hm : (time m).On basis) (hb : ∀ y ∈ b.measurements, (time y).On basis)
    (hsorted : b.measurements.Pairwise (Earlier time basis)) (hy : y ∈ b.measurements)
    (hafter : compareTimestamps (time y) (time m) = .after) :
    b.place time m
      = if b.allowOutOfOrderInsert then .ok (b.measurements.orderedInsert (Earlier time basis) m)
        else .error .rejectedOutOfOrder := by
  cases hlast : b.measurements.getLast? with
  | none =>
    rw [List.getLast?_eq_none_iff.mp hlast] at hy
    cases hy
  | some latest =>
    have hlatest := hb latest (List.mem_of_getLast? hlast)
    have hcmp : compareTimestamps (time latest) (time m) = .after :=
      (compareTimestamps_eq_after_iff hlatest hm).mpr
        (lt_of_lt_of_le ((compareTimestamps_eq_after_iff (hb y hy) hm).mp hafter)
          (earlier_latest hsorted hlast hy))
    cases hallow : b.allowOutOfOrderInsert with
    | false => simp [place, hlast, hcmp, hallow]
    | true => simp [place, hlast, hcmp, hallow, scan_eq hm hb]

end TimeOrderedBuffer

/-! ### Calls with numbered measurements -/

namespace Ledger

variable {M : Type} (time : M → Timestamp)

/-- The timestamp of a numbered measurement. -/
def timeOf (x : M × ℕ) : Timestamp := time x.1

/-- The calls, numbered by their places. -/
def numbered (calls : List (BufferCall M)) : List (BufferCall (M × ℕ)) :=
  calls.mapIdx fun i c => c.number i

/-- An unbounded buffer after some calls. -/
def unbounded (allowOutOfOrderInsert : Bool) (calls : List (BufferCall M)) : Ledger (M × ℕ) :=
  (start (M × ℕ) 0 allowOutOfOrderInsert).run (timeOf time) (numbered calls)

/-- What it stores. -/
def stored (allowOutOfOrderInsert : Bool) (calls : List (BufferCall M)) : List (M × ℕ) :=
  (unbounded time allowOutOfOrderInsert calls).buffer.measurements

/-- What all its `PopUntil` calls returned, in their order. -/
def returned (allowOutOfOrderInsert : Bool) (calls : List (BufferCall M)) : List (M × ℕ) :=
  (start (M × ℕ) 0 allowOutOfOrderInsert).popsOf (timeOf time) (numbered calls)

/-- If the two have equal timestamps, `x` arrived first. -/
def InArrivalOrder (x y : M × ℕ) : Prop :=
  compareTimestamps (timeOf time x) (timeOf time y) = .equal → x.2 < y.2

instance : DecidableRel (InArrivalOrder time) := fun _ _ => inferInstanceAs (Decidable (_ → _))

/-- What came out, and behind it what is still stored, is in arrival order. -/
def InOrder (allowOutOfOrderInsert : Bool) (calls : List (BufferCall M)) : Prop :=
  (returned time allowOutOfOrderInsert calls ++ stored time allowOutOfOrderInsert calls).Pairwise
    (InArrivalOrder time)

instance (allow : Bool) (calls : List (BufferCall M)) : Decidable (InOrder time allow calls) :=
  inferInstanceAs (Decidable (List.Pairwise _ _))

/-- **A stable insertion,** at every time of the run. -/
def Stable (allowOutOfOrderInsert : Bool) (calls : List (BufferCall M)) : Prop :=
  ∀ before, before <+: calls → InOrder time allowOutOfOrderInsert before

/-- `m` does not meet a measurement of its own time and a later one. -/
def Unmixed (allowOutOfOrderInsert : Bool) (before : List (BufferCall M)) (m : M) : Prop :=
  allowOutOfOrderInsert = true →
    ∀ x ∈ stored time allowOutOfOrderInsert before,
      compareTimestamps (timeOf time x) (time m) = .equal →
        ∀ y ∈ stored time allowOutOfOrderInsert before,
          compareTimestamps (timeOf time y) (time m) ≠ .after

instance (allow : Bool) (before : List (BufferCall M)) (m : M) :
    Decidable (Unmixed time allow before m) := inferInstanceAs (Decidable (_ → _))

/-! ### One more call -/

variable {time} {allow : Bool} {calls : List (BufferCall M)} {m : M}

theorem numbered_concat (calls : List (BufferCall M)) (c : BufferCall M) :
    numbered (calls ++ [c]) = numbered calls ++ [c.number calls.length] :=
  List.mapIdx_concat

theorem mem_of_mem_numbered {x : M × ℕ} (h : .insert x ∈ numbered calls) :
    .insert x.1 ∈ calls := by
  obtain ⟨i, hi, hx⟩ := List.mem_mapIdx.mp h
  have hget := List.getElem_mem hi
  cases hc : calls[i] with
  | insert m =>
    rw [hc] at hx hget
    cases hx
    exact hget
  | popUntil target includeEqual =>
    rw [hc] at hx
    cases hx
  | clear =>
    rw [hc] at hx
    cases hx

theorem popsOf_append (l : Ledger M) (cs ds : List (BufferCall M)) :
    l.popsOf time (cs ++ ds) = l.popsOf time cs ++ (l.run time cs).popsOf time ds := by
  induction cs generalizing l with
  | nil => rfl
  | cons c cs ih =>
    cases c with
    | insert m => exact ih (l.call time (.insert m))
    | popUntil target includeEqual =>
      have hrest := ih (l.call time (.popUntil target includeEqual))
      show _ ++ (l.call time (.popUntil target includeEqual)).popsOf time (cs ++ ds) = _
      rw [hrest]
      exact (List.append_assoc _ _ _).symm
    | clear => exact ih (l.call time .clear)

theorem unbounded_concat (calls : List (BufferCall M)) (c : BufferCall M) :
    unbounded time allow (calls ++ [c])
      = (unbounded time allow calls).call (timeOf time) (c.number calls.length) := by
  rw [unbounded, numbered_concat, run, List.foldl_append]
  rfl

theorem returned_concat (calls : List (BufferCall M)) (c : BufferCall M) :
    returned time allow (calls ++ [c])
      = returned time allow calls
        ++ (unbounded time allow calls).popsOf (timeOf time) [c.number calls.length] := by
  rw [returned, numbered_concat, popsOf_append]
  rfl

theorem unbounded_maxSize (calls : List (BufferCall M)) :
    (unbounded time allow calls).buffer.maxSize = 0 :=
  run_maxSize (timeOf time) (start (M × ℕ) 0 allow) (numbered calls)

/-- Neither does the other setting change. -/
theorem call_allow (l : Ledger M) (c : BufferCall M) :
    (l.call time c).buffer.allowOutOfOrderInsert = l.buffer.allowOutOfOrderInsert := by
  cases c with
  | insert m =>
    rw [call_insert_buffer]
    exact TimeOrderedBuffer.insert_allow l.buffer m
  | popUntil target includeEqual => rfl
  | clear => rfl

theorem unbounded_allow (calls : List (BufferCall M)) :
    (unbounded time allow calls).buffer.allowOutOfOrderInsert = allow := by
  induction calls using List.reverseRecOn with
  | nil => rfl
  | append_singleton calls c ih => rw [unbounded_concat, call_allow, ih]

/-! ### What one call does to the order -/

section Order

variable {basis : TimeBasis}

/-- What is known after some calls. -/
theorem balanced_unbounded (hcalls : ∀ m, .insert m ∈ calls → (time m).On basis) :
    (unbounded time allow calls).Balanced (timeOf time) basis :=
  (start_balanced (timeOf time) basis 0 allow).run
    fun x hx => hcalls x.1 (mem_of_mem_numbered hx)

/-- An insert leaves the measurement in its place, or nothing changed. -/
theorem stored_insert (calls : List (BufferCall M)) (m : M) :
    stored time allow (calls ++ [.insert m])
      = match (unbounded time allow calls).buffer.place (timeOf time) (m, calls.length) with
        | .ok xs => xs
        | .error _ => stored time allow calls := by
  rw [stored, unbounded_concat]
  show ((unbounded time allow calls).call (timeOf time)
    (.insert (m, calls.length))).buffer.measurements = _
  rw [call_insert_buffer, TimeOrderedBuffer.insert_eq_place]
  cases hplace : (unbounded time allow calls).buffer.place (timeOf time) (m, calls.length) with
  | error r => rfl
  | ok xs =>
    -- without a bound nothing is dropped
    have hfits : ∀ xs : List (M × ℕ),
        TimeOrderedBuffer.enforceMaxSize
          { (unbounded time allow calls).buffer with measurements := xs } .inserted
          = ({ (unbounded time allow calls).buffer with measurements := xs }, .inserted) :=
      fun xs => if_pos (.inl (unbounded_maxSize calls))
    simp only [hfits]

theorem returned_insert (calls : List (BufferCall M)) (m : M) :
    returned time allow (calls ++ [.insert m]) = returned time allow calls := by
  rw [returned_concat]
  exact List.append_nil _

/-- What comes out was stored: together the two stay as they are. -/
theorem returned_append_stored_popUntil (calls : List (BufferCall M)) (target : Timestamp)
    (includeEqual : Bool) :
    returned time allow (calls ++ [.popUntil target includeEqual])
        ++ stored time allow (calls ++ [.popUntil target includeEqual])
      = returned time allow calls ++ stored time allow calls := by
  have hsplit := @TimeOrderedBuffer.popLoop_append (M × ℕ) (timeOf time) target includeEqual
    (stored time allow calls)
  rw [returned_concat, stored, unbounded_concat, List.append_assoc, ← hsplit]
  show _ ++ ((_ ++ []) ++ _) = _
  rw [List.append_nil]
  rfl

/-- What is cleared is gone. -/
theorem returned_append_stored_clear (calls : List (BufferCall M)) :
    returned time allow (calls ++ [.clear]) ++ stored time allow (calls ++ [.clear])
      = returned time allow calls := by
  rw [returned_concat, stored, unbounded_concat]
  show (returned time allow calls ++ []) ++ [] = _
  rw [List.append_nil, List.append_nil]

/-- Every measurement there arrived at one of the calls. -/
theorem arrived {x : M × ℕ} (hx : x ∈ returned time allow calls ++ stored time allow calls) :
    x.2 < calls.length := by
  induction calls using List.reverseRecOn with
  | nil => cases hx
  | append_singleton calls c ih =>
    rw [List.length_append, List.length_singleton]
    have hold : x ∈ returned time allow calls ++ stored time allow calls →
        x.2 < calls.length + 1 := fun hx => (ih hx).trans (Nat.lt_succ_self _)
    cases c with
    -- only an insert brings something new, with the number of its call
    | insert m =>
      rw [returned_insert] at hx
      rcases List.mem_append.mp hx with hx | hx
      · exact hold (List.mem_append_left _ hx)
      · rw [stored, unbounded_concat] at hx
        change x ∈ ((unbounded time allow calls).call (timeOf time)
          (.insert (m, calls.length))).buffer.measurements at hx
        rw [call_insert_buffer] at hx
        rcases TimeOrderedBuffer.mem_of_mem_insert hx with rfl | hx
        · exact Nat.lt_succ_self _
        · exact hold (List.mem_append_right _ hx)
    | popUntil target includeEqual =>
      rw [returned_append_stored_popUntil] at hx
      exact hold hx
    | clear =>
      rw [returned_append_stored_clear] at hx
      exact hold (List.mem_append_left _ hx)

/-- A list with one more element is in arrival order if the list is, and the element is. -/
theorem pairwise_insert {α : Type} {R : α → α → Prop} {before after : List α} {x : α} :
    (before ++ x :: after).Pairwise R ↔
      (before ++ after).Pairwise R ∧ (∀ y ∈ before, R y x) ∧ ∀ y ∈ after, R x y := by
  simp only [List.pairwise_append, List.pairwise_cons, List.mem_cons, forall_eq_or_imp]
  constructor
  · rintro ⟨hbefore, ⟨hx, hafter⟩, hacross⟩
    exact ⟨⟨hbefore, hafter, fun y hy => (hacross y hy).2⟩, fun y hy => (hacross y hy).1, hx⟩
  · rintro ⟨⟨hbefore, hafter, hacross⟩, hy, hx⟩
    exact ⟨hbefore, ⟨hx, hafter⟩, fun y hmem => ⟨hy y hmem, hacross y hmem⟩⟩

/-- **One insert** keeps everything in order exactly if the measurement is unmixed. -/
theorem inOrder_insert (hcalls : ∀ m, .insert m ∈ calls → (time m).On basis)
    (hm : (time m).On basis) (horder : InOrder time allow calls) :
    InOrder time allow (calls ++ [.insert m]) ↔ Unmixed time allow calls m := by
  have hbalanced : (unbounded time allow calls).Balanced (timeOf time) basis :=
    balanced_unbounded hcalls
  have hon : ∀ y ∈ stored time allow calls, (timeOf time y).On basis := hbalanced.on
  have hnew : (timeOf time (m, calls.length)).On basis := hm
  have harrived : ∀ y ∈ returned time allow calls ++ stored time allow calls,
      InArrivalOrder time y (m, calls.length) := fun y hy _ => arrived hy
  rw [InOrder, returned_insert, stored_insert]
  by_cases hlate : ∃ y ∈ stored time allow calls,
      compareTimestamps (timeOf time y) (time m) = .after
  · obtain ⟨y, hy, hafter⟩ := hlate
    rw [TimeOrderedBuffer.place_late hnew hbalanced.on hbalanced.sorted hy hafter, unbounded_allow]
    cases allow with
    | false => exact iff_of_true horder fun hallow => absurd hallow Bool.false_ne_true
    | true =>
      -- the measurement goes ahead of those of its own time
      simp only [if_true, List.orderedInsert_eq_take_drop]
      rw [← List.append_assoc, pairwise_insert, List.append_assoc, List.takeWhile_append_dropWhile]
      constructor
      · rintro ⟨-, -, hbehind⟩ - x hx hequal
        have hxm := (compareTimestamps_eq_equal_iff (hon x hx) hm).mp hequal
        have hx' : x ∈ (stored time true calls).dropWhile
            fun y => ¬ TimeOrderedBuffer.Earlier (timeOf time) basis (m, calls.length) y := by
          rw [← List.takeWhile_append_dropWhile (l := stored time true calls)
            (p := fun y => ¬ TimeOrderedBuffer.Earlier (timeOf time) basis (m, calls.length) y)]
            at hx
          refine (List.mem_append.mp hx).resolve_left fun htake => ?_
          have hnot := List.mem_takeWhile_imp htake
          simp only [decide_eq_true_eq] at hnot
          exact hnot hxm.ge
        have hlt : calls.length < x.2 :=
          hbehind x hx' ((compareTimestamps_eq_equal_iff hm (hon x hx)).mpr hxm.symm)
        have hgt := arrived (List.mem_append_right (returned time true calls) hx)
        omega
      · intro hunmixed
        refine ⟨horder, ?_, ?_⟩
        · intro x hx
          refine harrived x ?_
          rcases List.mem_append.mp hx with hx | hx
          · exact List.mem_append_left _ hx
          · exact List.mem_append_right _ ((List.takeWhile_prefix _).subset hx)
        · intro x hx hequal
          have hx' := (List.dropWhile_suffix _).subset hx
          have hxm := (compareTimestamps_eq_equal_iff hm (hon x hx')).mp hequal
          exact absurd hafter
            (hunmixed rfl x hx' ((compareTimestamps_eq_equal_iff (hon x hx') hm).mpr hxm.symm) y hy)
  · have hnone : ∀ y ∈ stored time allow calls,
        compareTimestamps (timeOf time y) (time m) ≠ .after :=
      fun y hy hafter => hlate ⟨y, hy, hafter⟩
    rw [TimeOrderedBuffer.place_end hnew hbalanced.on hnone]
    refine iff_of_true ?_ fun _ _ _ _ => hnone
    show (_ ++ (stored time allow calls ++ [(m, calls.length)])).Pairwise _
    rw [← List.append_assoc, pairwise_insert, List.append_nil]
    exact ⟨horder, harrived, fun y hy => absurd hy List.not_mem_nil⟩

/-- **One call.** -/
theorem inOrder_concat (c : BufferCall M)
    (hcalls : ∀ m, .insert m ∈ calls ++ [c] → (time m).On basis)
    (horder : InOrder time allow calls) :
    InOrder time allow (calls ++ [c]) ↔ ∀ m, c = .insert m → Unmixed time allow calls m := by
  cases c with
  | insert m =>
    rw [inOrder_insert (fun m hm => hcalls m (List.mem_append_left _ hm)) (hcalls m (by simp))
      horder]
    simp
  | popUntil target includeEqual =>
    rw [InOrder, returned_append_stored_popUntil]
    exact iff_of_true horder fun m hm => nomatch hm
  | clear =>
    rw [InOrder, returned_append_stored_clear]
    refine iff_of_true ?_ fun m hm => nomatch hm
    exact (List.pairwise_append.mp horder).1

end Order

/-- **The insertion is stable** in every run of an unbounded buffer on one time basis, exactly if no
    measurement is inserted while one of its own time and a later one are stored, or if the buffer
    takes nothing late. -/
theorem stable_iff (time : M → Timestamp) (basis : TimeBasis) (allow : Bool)
    (calls : List (BufferCall M)) (hcalls : ∀ m, .insert m ∈ calls → (time m).On basis) :
    Stable time allow calls ↔
      ∀ before m, before ++ [.insert m] <+: calls → Unmixed time allow before m := by
  constructor
  -- each insert is the last call of a part of the run
  · intro hstable before m hpart
    have hbefore : before <+: calls := (List.prefix_append before _).trans hpart
    have hon : ∀ m', .insert m' ∈ before ++ [.insert m] → (time m').On basis :=
      fun m' hm' => hcalls m' (hpart.subset hm')
    exact (inOrder_concat (.insert m) hon (hstable before hbefore)).mp (hstable _ hpart) m rfl
  · intro hunmixed before hpart
    induction before using List.reverseRecOn with
    | nil => exact List.Pairwise.nil
    | append_singleton before c ih =>
      have hbefore : before <+: calls := (List.prefix_append before _).trans hpart
      refine (inOrder_concat c (fun m hm => hcalls m (hpart.subset hm)) (ih hbefore)).mpr ?_
      rintro m rfl
      exact hunmixed before m hpart

/-- Two samples of nanosecond 1. -/
theorem stable_iff_two :
    Stable id true [.insert (.ofSteady 1), .insert (.ofSteady 1)] := by
  refine (stable_iff id .steady true _ ?_).mpr ?_
  · intro m hm
    simp only [List.mem_cons, BufferCall.insert.injEq, List.not_mem_nil, or_false, or_self] at hm
    rw [hm]
    rfl
  · intro before m hpart
    have hbefore := (List.prefix_append before _).trans hpart
    have hm : m = .ofSteady 1 := by
      have hmem := hpart.subset (List.mem_append_right before (List.mem_singleton_self _))
      simpa using hmem
    rw [hm]
    -- none, one or both of the calls came before
    simp only [List.prefix_cons_iff, List.prefix_nil] at hbefore
    rcases hbefore with rfl | ⟨_, rfl, rfl | ⟨_, rfl, rfl⟩⟩
    · decide
    · decide
    · decide

/-- **A repetition that comes late:** nanosecond 1 again, after nanosecond 2. -/
theorem not_stable_repeated :
    ¬ ∀ (allow : Bool) (calls : List (BufferCall Timestamp)),
      (∀ m, .insert m ∈ calls → m.On .steady) → Stable id allow calls := by
  intro hall
  have hstable := hall true
    [.insert (.ofSteady 1), .insert (.ofSteady 2), .insert (.ofSteady 1)] (by
      intro m hm
      simp only [List.mem_cons, BufferCall.insert.injEq, List.not_mem_nil, or_false] at hm
      rcases hm with rfl | rfl | rfl
      · rfl
      · rfl
      · rfl)
  have horder := hstable _ (List.prefix_refl _)
  revert horder
  decide

end Ledger

end FalconGuide
