import FalconGuide.Core.BufferLedger

namespace FalconGuide

/-!
# What the result of an insert says

`insert` enforces the bound after the new measurement has its place, so a full buffer that takes an
older measurement than all it holds drops the new one, and reports it as inserted.

* `Truthful` — the content of the buffer is what the result says;
* `GoesFirst` — the new measurement is placed ahead of all others;
* `truthful_iff` — the result is truthful, except when such a measurement meets a full buffer.
-/

namespace TimeOrderedBuffer

variable {M : Type} (time : M → Timestamp)

/-- **The result says what happened:** the measurement is in the buffer next to the old content, or
    next to the old content without its oldest, or nothing happened. -/
def Truthful (b : TimeOrderedBuffer M) (m : M) : Prop :=
  match b.insert time m with
  | (b', .inserted) =>
    ∃ before after, b.measurements = before ++ after ∧
      b' = { b with measurements := before ++ m :: after }
  | (b', .insertedAndDroppedOldest) =>
    ∃ oldest before after, b.measurements = oldest :: (before ++ after) ∧
      b' = { b with measurements := before ++ m :: after }
  | (b', .rejectedOutOfOrder) => b' = b
  | (b', .rejectedNotComparable) => b' = b

/-- `m` is older than the newest measurement, and not younger than the oldest. -/
def GoesFirst (b : TimeOrderedBuffer M) (m : M) : Prop :=
  b.allowOutOfOrderInsert = true ∧
  (∃ latest, b.measurements.getLast? = some latest ∧
    compareTimestamps (time latest) (time m) = .after) ∧
  ∃ oldest, b.measurements.head? = some oldest ∧ (time m).AtOrBefore (time oldest)

/-- No measurement fits in besides those stored. -/
def Full (b : TimeOrderedBuffer M) : Prop := b.maxSize ≠ 0 ∧ b.maxSize ≤ b.measurements.length

variable {time} {b : TimeOrderedBuffer M} {m : M} {xs : List M}

/-! ### The place of a measurement -/

/-- The scan keeps the measurements and their order; it stops at the oldest only if `m` is not
    younger. -/
theorem scan_split {ys : List M} (h : scan time m xs = some ys) :
    ∃ before after, xs = before ++ after ∧ ys = before ++ m :: after ∧
      (before = [] → ∀ oldest, xs.head? = some oldest → (time m).AtOrBefore (time oldest)) := by
  obtain ⟨before, after, rfl, rfl, -, hafter⟩ := scan_cases h
  refine ⟨before, after, rfl, rfl, ?_⟩
  rintro rfl oldest hhead
  exact hafter oldest hhead

/-- So does `place`: ahead of all others there is only a measurement that goes first. -/
theorem place_split (h : b.place time m = .ok xs) :
    ∃ before after, b.measurements = before ++ after ∧ xs = before ++ m :: after ∧
      (before = [] → b.measurements = [] ∨ GoesFirst time b m) := by
  unfold place at h
  split at h
  · rename_i hlast
    cases h
    have hnil := List.getLast?_eq_none_iff.mp hlast
    exact ⟨[], [], hnil, rfl, fun _ => .inl hnil⟩
  · rename_i latest hlast
    have happend : ∃ before after, b.measurements = before ++ after ∧
        b.measurements ++ [m] = before ++ m :: after ∧
        (before = [] → b.measurements = [] ∨ GoesFirst time b m) :=
      ⟨b.measurements, [], (List.append_nil _).symm, rfl, .inl⟩
    split at h
    · cases h
      exact happend
    · cases h
      exact happend
    · cases h
    · rename_i hafter
      split at h
      · cases h
      · rename_i hallow
        split at h
        · cases h
        · rename_i ys hscan
          cases h
          obtain ⟨before, after, hsplit, hys, hfirst⟩ := scan_split hscan
          refine ⟨before, after, hsplit, hys, ?_⟩
          intro hbefore
          cases hhead : b.measurements.head? with
          | none => exact .inl (List.head?_eq_none_iff.mp hhead)
          | some oldest =>
            exact .inr ⟨by simpa using hallow, ⟨latest, hlast, hafter⟩,
              oldest, hhead, hfirst hbefore oldest hhead⟩

theorem place_of_goesFirst (h : GoesFirst time b m) :
    b.place time m = .ok (m :: b.measurements) := by
  obtain ⟨hallow, ⟨latest, hlast, hafter⟩, oldest, hhead, hle⟩ := h
  obtain ⟨xs, hxs⟩ := List.head?_eq_some_iff.mp hhead
  have hscan : scan time m b.measurements = some (m :: b.measurements) := by
    rw [hxs]
    rcases hle with hcmp | hcmp
    · simp only [scan, hcmp]
    · simp only [scan, hcmp]
  simp [place, hlast, hafter, hallow, hscan]

/-! ### The result -/

/-- A full buffer drops the measurement that goes first, and says it is in. -/
theorem insert_of_goesFirst (hfirst : GoesFirst time b m) (hfull : b.Full) :
    b.insert time m = (b, .insertedAndDroppedOldest) := by
  obtain ⟨hbound, hlength⟩ := hfull
  rw [insert_eq_place, place_of_goesFirst hfirst]
  refine if_neg (not_or.mpr ⟨hbound, ?_⟩)
  show ¬ b.measurements.length + 1 ≤ b.maxSize
  omega

/-- **When the result is truthful:** it is, except when a full buffer takes a measurement that goes
    first, other than a repetition of the oldest. -/
theorem truthful_iff (time : M → Timestamp) (b : TimeOrderedBuffer M) (m : M) :
    Truthful time b m ↔ (GoesFirst time b m ∧ b.Full → b.measurements.head? = some m) := by
  constructor
  · rintro htrue ⟨hfirst, hfull⟩
    rw [Truthful, insert_of_goesFirst hfirst hfull] at htrue
    obtain ⟨oldest, before, after, hold, hnew⟩ := htrue
    -- the content did not change, so the measurement gone is the measurement that came
    have hsame : oldest :: (before ++ after) = before ++ m :: after :=
      hold.symm.trans (congrArg measurements hnew)
    have hperm : (oldest :: (before ++ after)).Perm (m :: (before ++ after)) :=
      (List.Perm.of_eq hsame).trans List.perm_middle
    have hm : oldest = m := by
      have hcontent := Multiset.coe_eq_coe.mpr hperm
      rw [← Multiset.cons_coe, ← Multiset.cons_coe] at hcontent
      exact (Multiset.cons_inj_left _).mp hcontent
    rw [hold, hm]
    rfl
  · intro hcond
    rcases @insert_cases M time b m with
      ⟨r, hinsert, rfl | rfl⟩ | ⟨xs, hplace, -, hinsert⟩ | ⟨xs, hplace, hbound, hover, hinsert⟩
    · rw [Truthful, hinsert]
    · rw [Truthful, hinsert]
    · obtain ⟨before, after, hsplit, rfl, -⟩ := place_split hplace
      rw [Truthful, hinsert]
      exact ⟨before, after, hsplit, rfl⟩
    · obtain ⟨before, after, hsplit, rfl, hahead⟩ := place_split hplace
      rw [Truthful, hinsert]
      have hlength : b.maxSize ≤ b.measurements.length := by
        rw [hsplit, List.length_append]
        rw [List.length_append, List.length_cons] at hover
        omega
      cases before with
      | cons oldest before => exact ⟨oldest, before, after, hsplit, rfl⟩
      | nil =>
        have hafter : b.measurements = after := hsplit
        rcases hahead rfl with hempty | hfirst
        · -- one measurement exceeds no bound
          rw [hempty, List.length_nil] at hlength
          omega
        · obtain ⟨rest, hrest⟩ := List.head?_eq_some_iff.mp (hcond ⟨hfirst, hbound, hlength⟩)
          refine ⟨m, [], rest, hrest, ?_⟩
          show { b with measurements := after } = { b with measurements := m :: rest }
          rw [← hafter, hrest]

/-- **A sample that is reported and dropped:** a buffer for one takes nanosecond 1 after
    nanosecond 2. -/
theorem not_truthful_older :
    ¬ ∀ (b : TimeOrderedBuffer Timestamp) (m : Timestamp), Truthful id b m := by
  intro hall
  have htrue := hall { maxSize := 1, measurements := [.ofSteady 2] } (.ofSteady 1)
  have hinsert : insert id { maxSize := 1, measurements := [.ofSteady 2] } (.ofSteady 1)
      = ({ maxSize := 1, measurements := [.ofSteady 2] }, .insertedAndDroppedOldest) := rfl
  rw [Truthful, hinsert] at htrue
  obtain ⟨oldest, before, after, hold, hnew⟩ := htrue
  have hcontent : [.ofSteady 2] = before ++ .ofSteady 1 :: after := congrArg measurements hnew
  have hmem : Timestamp.ofSteady 1 ∈ [Timestamp.ofSteady 2] := by
    rw [hcontent]
    simp
  revert hmem
  decide

end TimeOrderedBuffer

end FalconGuide
