import FalconGuide.Core.Time
import Mathlib.Data.Nat.Notation

namespace FalconGuide

/-!
# The time-ordered buffer

* `TimeOrderedBuffer` — a bounded list of measurements in timestamp order;
* `TimeOrderedBuffer.insert` / `popUntil` / `clear` — its operations;
* `mem_of_mem_insert` / `popLoop_append` — what goes in and what comes out;
* `insert_of_atOrBefore` / `popUntil_of_atOrBefore` — insertion at the end, and popping everything.
-/

/-- The result of `Insert`. -/
inductive BufferInsertResult
  | inserted
  | insertedAndDroppedOldest
  | rejectedOutOfOrder
  | rejectedNotComparable
  deriving DecidableEq

/-- `TimeOrderedBuffer<Measurement>`; a `maxSize` of zero means no bound. -/
structure TimeOrderedBuffer (M : Type) where
  maxSize : ℕ := 0
  allowOutOfOrderInsert : Bool := true
  measurements : List M := []

namespace TimeOrderedBuffer

variable {M : Type} (time : M → Timestamp)

/-- `EnforceMaxSize`. -/
def enforceMaxSize (b : TimeOrderedBuffer M) (result : BufferInsertResult) :
    TimeOrderedBuffer M × BufferInsertResult :=
  if b.maxSize = 0 ∨ b.measurements.length ≤ b.maxSize then (b, result)
  else ({ b with measurements := b.measurements.tail }, .insertedAndDroppedOldest)

/-- The scan of `Insert` from the oldest measurement on: the new content, or `none` at a
    timestamp that cannot be compared. -/
def scan (m : M) : List M → Option (List M)
  | [] => some [m]
  | x :: xs =>
    match compareTimestamps (time m) (time x) with
    | .notComparable => none
    | .before => some (m :: x :: xs)
    | .equal => some (m :: x :: xs)
    | .after => (scan m xs).map (x :: ·)

/-- `Insert`. -/
def insert (b : TimeOrderedBuffer M) (m : M) : TimeOrderedBuffer M × BufferInsertResult :=
  match b.measurements.getLast? with
  | none => ({ b with measurements := [m] }, .inserted)
  | some latest =>
    match compareTimestamps (time latest) (time m) with
    | .before => enforceMaxSize { b with measurements := b.measurements ++ [m] } .inserted
    | .equal => enforceMaxSize { b with measurements := b.measurements ++ [m] } .inserted
    | .notComparable => (b, .rejectedNotComparable)
    | .after =>
      if !b.allowOutOfOrderInsert then (b, .rejectedOutOfOrder)
      else
        match scan time m b.measurements with
        | none => (b, .rejectedNotComparable)
        | some measurements => enforceMaxSize { b with measurements } .inserted

/-- The loop of `PopUntil`: the measurements popped, and those left. -/
def popLoop (target : Timestamp) (includeEqual : Bool) : List M → List M × List M
  | [] => ([], [])
  | x :: xs =>
    match compareTimestamps (time x) target with
    | .notComparable => ([], x :: xs)
    | .after => ([], x :: xs)
    | .before => ((popLoop target includeEqual xs).map (x :: ·) id)
    | .equal =>
      if includeEqual then (popLoop target includeEqual xs).map (x :: ·) id else ([], x :: xs)

/-- `PopUntil`. -/
def popUntil (b : TimeOrderedBuffer M) (target : Timestamp) (includeEqual : Bool) :
    List M × TimeOrderedBuffer M :=
  let (popped, rest) := popLoop time target includeEqual b.measurements
  (popped, { b with measurements := rest })

/-- `Clear`. -/
def clear (b : TimeOrderedBuffer M) : TimeOrderedBuffer M := { b with measurements := [] }

/-! ### What goes in -/

variable {time} {b : TimeOrderedBuffer M} {m x : M}

theorem mem_of_mem_enforceMaxSize {result : BufferInsertResult}
    (h : x ∈ (b.enforceMaxSize result).1.measurements) : x ∈ b.measurements := by
  unfold enforceMaxSize at h
  split at h
  · exact h
  · exact List.mem_of_mem_tail h

/-- **What the scan does:** the measurement goes behind some it is after, ahead of the first that it
    is not after. -/
theorem scan_cases {xs ys : List M} (h : scan time m xs = some ys) :
    ∃ before after, xs = before ++ after ∧ ys = before ++ m :: after ∧
      (∀ x ∈ before, compareTimestamps (time m) (time x) = .after) ∧
      ∀ x ∈ after.head?, (time m).AtOrBefore (time x) := by
  have hfront : ∀ y ys, (time m).AtOrBefore (time y) →
      ∀ x ∈ (y :: ys).head?, (time m).AtOrBefore (time x) := by
    intro y ys hle x hx
    rwa [← Option.some.inj hx]
  induction xs generalizing ys with
  | nil =>
    cases h
    exact ⟨[], [], rfl, rfl, by simp, by simp⟩
  | cons y xs ih =>
    unfold scan at h
    split at h
    · cases h
    · rename_i hcmp
      cases h
      exact ⟨[], y :: xs, rfl, rfl, by simp, hfront y xs (.inl hcmp)⟩
    · rename_i hcmp
      cases h
      exact ⟨[], y :: xs, rfl, rfl, by simp, hfront y xs (.inr hcmp)⟩
    · rename_i hcmp
      obtain ⟨zs, hscan, rfl⟩ := Option.map_eq_some_iff.mp h
      obtain ⟨before, after, rfl, rfl, hbefore, hafter⟩ := ih hscan
      exact ⟨y :: before, after, rfl, rfl, List.forall_mem_cons.mpr ⟨hcmp, hbefore⟩, hafter⟩

theorem mem_of_mem_scan {xs ys : List M} (h : scan time m xs = some ys) (hx : x ∈ ys) :
    x = m ∨ x ∈ xs := by
  obtain ⟨before, after, rfl, rfl, -⟩ := scan_cases h
  rw [List.mem_append, List.mem_cons] at hx
  rw [List.mem_append]
  rcases hx with hx | rfl | hx
  · exact .inr (.inl hx)
  · exact .inl rfl
  · exact .inr (.inr hx)

/-- Nothing but the new measurement enters the buffer. -/
theorem mem_of_mem_insert (h : x ∈ (b.insert time m).1.measurements) :
    x = m ∨ x ∈ b.measurements := by
  have hlast : x ∈ b.measurements ++ [m] → x = m ∨ x ∈ b.measurements := by
    intro hx
    rcases List.mem_append.mp hx with hx | hx
    · exact .inr hx
    · exact .inl (List.mem_singleton.mp hx)
  unfold insert at h
  split at h
  · exact .inl (List.mem_singleton.mp h)
  · split at h
    · exact hlast (mem_of_mem_enforceMaxSize h)
    · exact hlast (mem_of_mem_enforceMaxSize h)
    · exact .inr h
    · split at h
      · exact .inr h
      · split at h
        · exact .inr h
        · rename_i hscan
          exact mem_of_mem_scan hscan (mem_of_mem_enforceMaxSize h)

/-- One more measurement does not drop the oldest. -/
def HasRoom (b : TimeOrderedBuffer M) : Prop := b.maxSize = 0 ∨ b.measurements.length < b.maxSize

/-- A measurement that is not before any other goes to the end. -/
theorem insert_of_atOrBefore (h : ∀ x ∈ b.measurements, (time x).AtOrBefore (time m))
    (hroom : b.HasRoom) :
    b.insert time m = ({ b with measurements := b.measurements ++ [m] }, .inserted) := by
  have hfits : b.maxSize = 0 ∨ (b.measurements ++ [m]).length ≤ b.maxSize := by
    rw [List.length_append, List.length_singleton]
    exact hroom
  have hkeep : enforceMaxSize { b with measurements := b.measurements ++ [m] } .inserted
      = ({ b with measurements := b.measurements ++ [m] }, .inserted) := if_pos hfits
  unfold insert
  cases hlast : b.measurements.getLast? with
  | none =>
    rw [List.getLast?_eq_none_iff.mp hlast]
    rfl
  | some latest =>
    rcases h latest (List.mem_of_getLast? hlast) with hcmp | hcmp
    · simp only [hcmp, hkeep]
    · simp only [hcmp, hkeep]

/-! ### What comes out -/

/-- The popped measurements come first, in their order. -/
theorem popLoop_append (target : Timestamp) (includeEqual : Bool) (xs : List M) :
    (popLoop time target includeEqual xs).1 ++ (popLoop time target includeEqual xs).2 = xs := by
  induction xs with
  | nil => rfl
  | cons x xs ih =>
    unfold popLoop
    split
    · rfl
    · rfl
    · exact congrArg (x :: ·) ih
    · split
      · exact congrArg (x :: ·) ih
      · rfl

/-- What is popped was in the buffer. -/
theorem mem_of_mem_popUntil {target : Timestamp} {includeEqual : Bool}
    (h : x ∈ (b.popUntil time target includeEqual).1) : x ∈ b.measurements := by
  rw [← @popLoop_append M time target includeEqual b.measurements]
  exact List.mem_append_left _ h

/-- And so was what is left. -/
theorem mem_of_mem_popUntil_rest {target : Timestamp} {includeEqual : Bool}
    (h : x ∈ (b.popUntil time target includeEqual).2.measurements) : x ∈ b.measurements := by
  rw [← @popLoop_append M time target includeEqual b.measurements]
  exact List.mem_append_right _ h

theorem popLoop_of_atOrBefore {target : Timestamp} {xs : List M}
    (h : ∀ x ∈ xs, (time x).AtOrBefore target) : popLoop time target true xs = (xs, []) := by
  induction xs with
  | nil => rfl
  | cons x xs ih =>
    have hrest := ih fun y hy => h y (List.mem_cons_of_mem _ hy)
    unfold popLoop
    rcases h x (by simp) with hcmp | hcmp
    · simp only [hcmp, hrest]
      rfl
    · simp only [hcmp, hrest, if_true]
      rfl

/-- A target at or after every measurement empties the buffer. -/
theorem popUntil_of_atOrBefore {target : Timestamp}
    (h : ∀ x ∈ b.measurements, (time x).AtOrBefore target) :
    b.popUntil time target true = (b.measurements, { b with measurements := [] }) := by
  simp only [popUntil, popLoop_of_atOrBefore h]

end TimeOrderedBuffer

end FalconGuide
