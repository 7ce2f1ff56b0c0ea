import Mathlib.Data.List.Basic

namespace FalconGuide.Lib

/-!
# Parsers of a stream that arrives in pieces

A connection delivers a stream of bytes in pieces of any size.  A parser that takes one item off
the front of its buffer, and does not change its mind when more bytes arrive, produces the same
items however the stream is cut.

* `StreamParser` — such a parser, with the two facts that make it one;
* `StreamParser.drain` — the items at the front of a buffer, and what is left;
* `StreamParser.drain_append` — the drain of a longer buffer goes on where the shorter one's
  ended;
* `lineParser` — lines that end in a separator;
* `afterFirst` — what follows the first occurrence of a pattern.
-/

variable {α β : Type*}

/-- A parser that takes one item off the front of a buffer, or waits for more. -/
structure StreamParser (α β : Type*) where
  parse : List α → Option (β × List α)
  /-- An item is made of at least one byte. -/
  shorter : ∀ {xs b rest}, parse xs = some (b, rest) → rest.length < xs.length
  /-- More bytes do not change the item. -/
  stable : ∀ {xs b rest}, parse xs = some (b, rest) → ∀ ys,
    parse (xs ++ ys) = some (b, rest ++ ys)

namespace StreamParser

variable (p : StreamParser α β)

/-- The items at the front of a buffer, and what is left. -/
def drain (xs : List α) : List β × List α :=
  match _h : p.parse xs with
  | none => ([], xs)
  | some (b, rest) => (b :: (drain rest).1, (drain rest).2)
termination_by xs.length
decreasing_by
  all_goals exact p.shorter ‹_›

variable {p}

theorem drain_of_none {xs : List α} (h : p.parse xs = none) : p.drain xs = ([], xs) := by
  rw [drain]
  split
  · rfl
  · rename_i hsome
    rw [h] at hsome
    cases hsome

theorem drain_of_some {xs rest : List α} {b : β} (h : p.parse xs = some (b, rest)) :
    p.drain xs = (b :: (p.drain rest).1, (p.drain rest).2) := by
  rw [drain]
  split
  · rename_i hnone
    rw [h] at hnone
    cases hnone
  · rename_i c rest' hsome
    rw [h] at hsome
    cases hsome
    rfl

/-- **Draining goes on.** What is left of a buffer, with more bytes behind it, is drained as if
    the bytes had been there from the start. -/
theorem drain_append (xs ys : List α) :
    p.drain (xs ++ ys)
      = ((p.drain xs).1 ++ (p.drain ((p.drain xs).2 ++ ys)).1,
          (p.drain ((p.drain xs).2 ++ ys)).2) := by
  induction xs using drain.induct p with
  | case1 xs h =>
    rw [drain_of_none h]
    rfl
  | case2 xs b rest h ih =>
    rw [drain_of_some h, drain_of_some (p.stable h ys), ih]
    rfl

end StreamParser

/-! ### Lines -/

section Lines

variable [DecidableEq α] (sep : α)

/-- The part of the buffer before the first separator, and the part after it. -/
def takeLine (xs : List α) : Option (List α × List α) :=
  if sep ∈ xs then some (xs.takeWhile (· ≠ sep), (xs.dropWhile (· ≠ sep)).tail) else none

variable {sep} {xs line rest : List α}

/-- A buffer with a line at its front. -/
theorem takeLine_eq_some_iff :
    takeLine sep xs = some (line, rest) ↔ xs = line ++ sep :: rest ∧ sep ∉ line := by
  induction xs generalizing line with
  | nil => simp [takeLine]
  | cons x xs ih =>
    by_cases hx : x = sep
    · -- the separator is at the front: the line is empty
      subst hx
      cases line with
      | nil => simp [takeLine]
      | cons y line => simp +contextual [takeLine]
    · have hstep : takeLine sep (x :: xs) = (takeLine sep xs).map fun r => (x :: r.1, r.2) := by
        simp only [takeLine, List.mem_cons, Ne.symm hx, false_or]
        split <;> simp [hx]
      rw [hstep]
      cases line with
      | nil =>
        have hne : x ≠ sep := hx
        simp [hne]
      | cons y line =>
        have hih := @ih line
        constructor
        · intro h
          obtain ⟨⟨line', rest'⟩, hparse, heq⟩ := Option.map_eq_some_iff.mp h
          simp only [Prod.mk.injEq, List.cons.injEq] at heq
          obtain ⟨⟨rfl, rfl⟩, rfl⟩ := heq
          obtain ⟨rfl, hline⟩ := hih.mp hparse
          exact ⟨rfl, by simp [hline, Ne.symm hx]⟩
        · rintro ⟨heq, hline⟩
          simp only [List.cons_append, List.cons.injEq] at heq
          obtain ⟨rfl, rfl⟩ := heq
          rw [hih.mpr ⟨rfl, fun h => hline (List.mem_cons_of_mem _ h)⟩]
          rfl

/-- A buffer without a complete line. -/
theorem takeLine_eq_none_iff : takeLine sep xs = none ↔ sep ∉ xs := by
  unfold takeLine
  split <;> simp_all

variable (sep)

/-- Lines that end in `sep`. -/
def lineParser : StreamParser α (List α) where
  parse := takeLine sep
  shorter h := by
    rw [(takeLine_eq_some_iff.mp h).1, List.length_append, List.length_cons]
    omega
  stable h ys := by
    obtain ⟨rfl, hline⟩ := takeLine_eq_some_iff.mp h
    exact takeLine_eq_some_iff.mpr ⟨by simp, hline⟩

/-- The complete lines of a text: all the pieces between separators but the last, which no
    separator ends. -/
theorem drain_lineParser (xs : List α) :
    ((lineParser sep).drain xs).1 = (xs.splitOn sep).dropLast := by
  induction xs using StreamParser.drain.induct (lineParser sep) with
  | case1 xs h =>
    rw [StreamParser.drain_of_none h, List.splitOn_eq_singleton (takeLine_eq_none_iff.mp h)]
    rfl
  | case2 xs line rest h ih =>
    obtain ⟨rfl, hline⟩ := takeLine_eq_some_iff.mp h
    rw [StreamParser.drain_of_some h, List.splitOn_append_cons_self_of_not_mem hline,
      List.dropLast_cons_of_ne_nil (List.splitOn_ne_nil _ _), ih]

end Lines

/-! ### Searching -/

section Searching

variable [DecidableEq α] (pat : List α)

/-- What follows the first occurrence of `pat`. -/
def afterFirst : List α → Option (List α)
  | [] => if pat = [] then some [] else none
  | x :: xs =>
    if pat.isPrefixOf (x :: xs) then some ((x :: xs).drop pat.length) else afterFirst xs

variable {pat}

/-- The occurrence and what follows it fit into the text. -/
theorem length_afterFirst {xs rest : List α} (h : afterFirst pat xs = some rest) :
    pat.length + rest.length ≤ xs.length := by
  induction xs with
  | nil =>
    unfold afterFirst at h
    split at h
    · rename_i hnil
      subst hnil
      cases h
      exact Nat.le_refl _
    · cases h
  | cons x xs ih =>
    rw [afterFirst] at h
    split at h
    · rename_i hpre
      cases h
      have hle := (List.isPrefixOf_iff_prefix.mp hpre).length_le
      rw [List.length_drop]
      omega
    · have hle := ih h
      rw [List.length_cons]
      omega

/-- More text behind the first occurrence stays behind it. -/
theorem afterFirst_append {xs rest : List α} (h : afterFirst pat xs = some rest) (ys : List α) :
    afterFirst pat (xs ++ ys) = some (rest ++ ys) := by
  induction xs with
  | nil =>
    unfold afterFirst at h
    split at h
    · rename_i hnil
      subst hnil
      cases h
      cases ys <;> simp [afterFirst]
    · cases h
  | cons x xs ih =>
    rw [afterFirst] at h
    rw [List.cons_append, afterFirst]
    split at h
    · rename_i hpre
      cases h
      have hle : pat.length ≤ (x :: xs).length := (List.isPrefixOf_iff_prefix.mp hpre).length_le
      have hpre' : pat.isPrefixOf (x :: (xs ++ ys)) := by
        rw [List.isPrefixOf_iff_prefix] at hpre ⊢
        exact hpre.trans (List.prefix_append (x :: xs) ys)
      rw [if_pos hpre', ← List.cons_append, List.drop_append_of_le_length hle]
    · rename_i hpre
      have hrest := ih h
      split
      · -- the pattern is too short to reach into `ys`
        rename_i hpre'
        have hlen := length_afterFirst h
        have hshort : pat.length ≤ (x :: xs).length := by
          rw [List.length_cons]
          omega
        refine absurd (List.isPrefixOf_iff_prefix.mpr ?_) hpre
        rw [List.isPrefixOf_iff_prefix, ← List.cons_append] at hpre'
        exact List.prefix_of_prefix_length_le hpre' (List.prefix_append _ _) hshort
      · exact hrest

end Searching

end FalconGuide.Lib
