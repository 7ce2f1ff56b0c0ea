import FalconGuide.Lib.StreamParser
import Mathlib.Data.List.Infix

namespace FalconGuide.Lib

/-!
# Searching in a text of lines

Where the first occurrence of a pattern is found in a text that is put together from parts.

* `afterFirst_eq_none_iff` — what is not found does not occur;
* `afterFirst_append_of_notMem`, `afterFirst_line` — parts that a search skips;
* `afterFirst_append_eq_none` — a part that completes no occurrence;
* `headerText` — lines, and the empty line behind them; `afterFirst_headerText`.
-/

variable {α : Type*} [DecidableEq α] {pat xs ys rest : List α}

/-! ### Occurrences -/

/-- What is not found does not occur. -/
theorem afterFirst_eq_none_iff : afterFirst pat xs = none ↔ ¬ pat <:+: xs := by
  induction xs with
  | nil => simp [afterFirst]
  | cons x xs ih =>
    rw [afterFirst, List.infix_cons_iff, ← List.isPrefixOf_iff_prefix]
    split
    · rename_i hpre
      simp [hpre]
    · rename_i hpre
      simp [hpre, ih]

/-- What occurs is found. -/
theorem afterFirst_isSome (h : pat <:+: xs) : (afterFirst pat xs).isSome := by
  rw [Option.isSome_iff_ne_none]
  intro hnone
  exact afterFirst_eq_none_iff.mp hnone h

/-- The occurrence that is found, with what follows it. -/
theorem eq_of_afterFirst (h : afterFirst pat xs = some rest) :
    ∃ front, xs = front ++ pat ++ rest := by
  induction xs with
  | nil =>
    unfold afterFirst at h
    split at h
    · rename_i hnil
      cases h
      exact ⟨[], by simp [hnil]⟩
    · cases h
  | cons x xs ih =>
    rw [afterFirst] at h
    split at h
    · rename_i hpre
      obtain ⟨tail, htail⟩ := List.isPrefixOf_iff_prefix.mp hpre
      rw [← htail, List.drop_left, Option.some.injEq] at h
      exact ⟨[], by rw [← htail, h, List.nil_append]⟩
    · obtain ⟨front, rfl⟩ := ih h
      exact ⟨x :: front, by simp⟩

/-- An occurrence at the front is the first one. -/
theorem afterFirst_self (hpat : pat ≠ []) (ys : List α) : afterFirst pat (pat ++ ys) = some ys := by
  cases pat with
  | nil => exact absurd rfl hpat
  | cons p ps =>
    have hpre : (p :: ps).isPrefixOf (p :: (ps ++ ys)) := by
      rw [List.isPrefixOf_iff_prefix]
      exact List.prefix_append (p :: ps) ys
    rw [List.cons_append, afterFirst, if_pos hpre, ← List.cons_append, List.drop_left]

/-! ### Parts that are skipped -/

/-- No occurrence begins in a part without the first entry of the pattern. -/
theorem afterFirst_append_of_notMem {p : α} {ps : List α} (hxs : p ∉ xs) (ys : List α) :
    afterFirst (p :: ps) (xs ++ ys) = afterFirst (p :: ps) ys := by
  induction xs with
  | nil => rfl
  | cons x xs ih =>
    rw [List.mem_cons, not_or] at hxs
    have hpre : ¬ (p :: ps).isPrefixOf (x :: (xs ++ ys)) := by
      rw [List.isPrefixOf_iff_prefix, List.cons_prefix_cons]
      exact fun h => hxs.1 h.1
    rw [List.cons_append, afterFirst, if_neg hpre, ih hxs.2]

/-- No occurrence reaches over an entry that the pattern does not have. -/
theorem afterFirst_line {sep : α} (hpat : pat ≠ []) (hsep : sep ∉ pat)
    (hline : afterFirst pat xs = none) (ys : List α) :
    afterFirst pat (xs ++ sep :: ys) = afterFirst pat ys := by
  rw [afterFirst_eq_none_iff] at hline
  induction xs with
  | nil =>
    have hpre : ¬ pat.isPrefixOf (sep :: ys) := by
      rw [List.isPrefixOf_iff_prefix]
      rintro ⟨tail, htail⟩
      cases pat with
      | nil => exact hpat rfl
      | cons p ps =>
        rw [List.cons_append, List.cons.injEq] at htail
        exact hsep (htail.1 ▸ List.mem_cons_self)
    rw [List.nil_append, afterFirst, if_neg hpre]
  | cons x xs ih =>
    rw [List.infix_cons_iff, not_or] at hline
    have hpre : ¬ pat.isPrefixOf (x :: (xs ++ sep :: ys)) := by
      rw [List.isPrefixOf_iff_prefix, ← List.cons_append]
      intro h
      by_cases hle : pat.length ≤ (x :: xs).length
      · exact hline.1 (List.prefix_of_prefix_length_le h (List.prefix_append _ _) hle)
      · -- an occurrence that is not in the line has the separator
        have hreach : x :: xs ++ [sep] <+: x :: xs ++ sep :: ys := by
          rw [List.prefix_append_right_inj, List.cons_prefix_cons]
          exact ⟨rfl, List.nil_prefix⟩
        have hlen : (x :: xs ++ [sep]).length ≤ pat.length := by
          rw [List.length_append, List.length_singleton]
          omega
        have hpre := List.prefix_of_prefix_length_le hreach h hlen
        exact hsep (hpre.subset (List.mem_append_right _ List.mem_cons_self))
    rw [List.cons_append, afterFirst, if_neg hpre, ih hline.2]

/-- A part without the last entry of the pattern completes no occurrence. -/
theorem afterFirst_append_eq_none {p : α} (hys : p ∉ ys)
    (hxs : afterFirst (pat ++ [p]) xs = none) : afterFirst (pat ++ [p]) (xs ++ ys) = none := by
  rw [afterFirst_eq_none_iff] at hxs ⊢
  rintro ⟨front, behind, heq⟩
  have heq' : (front ++ pat) ++ p :: behind = xs ++ ys := by
    rw [← heq]
    simp
  rcases List.append_eq_append_iff.mp heq' with ⟨tail, hfront, htail⟩ | ⟨tail, hfront, htail⟩
  · cases tail with
    | nil =>
      rw [List.nil_append] at htail
      exact hys (htail ▸ List.mem_cons_self)
    | cons q tail =>
      rw [List.cons_append, List.cons.injEq] at htail
      refine hxs ⟨front, tail, ?_⟩
      rw [hfront, ← htail.1]
      simp
  · exact hys (htail ▸ List.mem_append_right _ List.mem_cons_self)

/-! ### Lines and an empty line -/

/-- Lines that end in `eol`, and an empty one behind them. -/
def headerText (eol : List α) (lines : List (List α)) : List α :=
  (lines.map (· ++ eol)).flatten ++ eol

omit [DecidableEq α] in
theorem headerText_cons (eol : List α) (line : List α) (lines : List (List α)) :
    headerText eol (line :: lines) = line ++ (eol ++ headerText eol lines) := by
  simp [headerText]

/-- **The empty line** is the first one: it ends the text. -/
theorem afterFirst_headerText {cr lf : α} (hne : cr ≠ lf) {lines : List (List α)}
    (hsome : lines ≠ []) (hlines : ∀ line ∈ lines, line ≠ [] ∧ cr ∉ line) :
    afterFirst ([cr, lf] ++ [cr, lf]) (headerText [cr, lf] lines) = some [] := by
  induction lines with
  | nil => exact absurd rfl hsome
  | cons line lines ih =>
    have hline := hlines line List.mem_cons_self
    rw [headerText_cons]
    rw [show ([cr, lf] ++ [cr, lf] : List α) = cr :: [lf, cr, lf] from rfl,
      afterFirst_append_of_notMem hline.2]
    cases lines with
    | nil => exact afterFirst_self (List.cons_ne_nil cr [lf, cr, lf]) []
    | cons next lines =>
      obtain ⟨hnext, hcr⟩ := hlines next (by simp)
      -- another line follows: the line end is not the empty line
      have hrest := ih (by simp) fun l hl => hlines l (List.mem_cons_of_mem _ hl)
      obtain ⟨x, next', rfl⟩ := List.exists_cons_of_ne_nil hnext
      have hx : cr ≠ x := fun h => hcr (h ▸ List.mem_cons_self)
      rw [headerText_cons, List.cons_append] at hrest ⊢
      simp only [List.cons_append, List.nil_append, afterFirst, List.isPrefixOf, beq_iff_eq,
        beq_self_eq_true, hx, hne, Bool.and_eq_true, false_and, and_false, if_false] at hrest ⊢
      exact hrest

end FalconGuide.Lib
