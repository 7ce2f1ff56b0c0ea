import Mathlib.Data.List.Basic

namespace FalconGuide.Lib

/-!
# Logs of records

A log holds one record a line.  What was written of it may end anywhere.

* `pieces` — the lines of a text, as they are read one after the other;
* `LineCode` — records that can be told from their lines, and are never mistaken in a torn one;
* `logText`, `readLog` — a log, and what is read of a text;
* `LineCode.readLog_logText_append` — whole records are read back;
* `LineCode.readLog_prefix` — of a log that ends anywhere, the first records are.
-/

variable {α β : Type*} {delim : α}

/-! ### Records -/

/-- The records that meet `Good` are told from their lines. -/
structure LineCode (delim : α) (encode : β → List α) (read : List α → Option β)
    (Good : β → Prop) : Prop where
  delim_not_mem : ∀ r, Good r → delim ∉ encode r
  read_encode : ∀ r, Good r → read (encode r) = some r
  /-- The beginning of a line is read as its record, or not at all. -/
  read_torn : ∀ r, Good r → ∀ t, t <+: encode r → read t = none ∨ read t = some r

/-- The text of a log. -/
def logText (delim : α) (encode : β → List α) (records : List β) : List α :=
  records.flatMap fun r => encode r ++ [delim]

variable {encode : β → List α} {read : List α → Option β} {Good : β → Prop} {records : List β}

theorem logText_cons (r : β) (records : List β) :
    logText delim encode (r :: records) = encode r ++ delim :: logText delim encode records := by
  rw [logText, List.flatMap_cons, List.append_assoc]
  rfl

theorem logText_append (records records' : List β) :
    logText delim encode (records ++ records')
      = logText delim encode records ++ logText delim encode records' :=
  List.flatMap_append

/-! ### Lines -/

variable [DecidableEq α]

/-- The pieces between delimiters.  There is no empty piece at the end. -/
def pieces (delim : α) : List α → List (List α)
  | [] => []
  | c :: text =>
    if c = delim then [] :: pieces delim text
    else match pieces delim text with
      | [] => [[c]]
      | piece :: rest => (c :: piece) :: rest

theorem pieces_append {line : List α} (h : delim ∉ line) (rest : List α) :
    pieces delim (line ++ delim :: rest) = line :: pieces delim rest := by
  induction line with
  | nil => rw [List.nil_append, pieces, if_pos rfl]
  | cons c line ih =>
    have hc : c ≠ delim := fun heq => h (heq ▸ List.mem_cons_self)
    rw [List.cons_append, pieces, if_neg hc, ih fun hmem => h (List.mem_cons_of_mem c hmem)]

theorem pieces_of_not_mem {line : List α} (h : delim ∉ line) (hne : line ≠ []) :
    pieces delim line = [line] := by
  induction line with
  | nil => exact absurd rfl hne
  | cons c line ih =>
    have hc : c ≠ delim := fun heq => h (heq ▸ List.mem_cons_self)
    rw [pieces, if_neg hc]
    cases line with
    | nil => rfl
    | cons d line => rw [ih (fun hmem => h (List.mem_cons_of_mem c hmem)) (List.cons_ne_nil d line)]

/-! ### Reading -/

/-- The records that are read of a text. -/
def readLog (delim : α) (read : List α → Option β) (text : List α) : List β :=
  (pieces delim text).filterMap read

/-- **Whole records** are read back, and then what follows them. -/
theorem LineCode.readLog_logText_append (h : LineCode delim encode read Good)
    (hgood : ∀ r ∈ records, Good r) (text : List α) :
    readLog delim read (logText delim encode records ++ text)
      = records ++ readLog delim read text := by
  induction records with
  | nil => rfl
  | cons r records ih =>
    have hr := hgood r List.mem_cons_self
    rw [logText_cons, List.append_assoc, List.cons_append, readLog,
      pieces_append (h.delim_not_mem r hr), List.filterMap_cons_some (h.read_encode r hr)]
    exact congrArg (r :: ·) (ih fun r' hr' => hgood r' (List.mem_cons_of_mem r hr'))

/-- A log that ends in its first line. -/
theorem LineCode.readLog_torn (h : LineCode delim encode read Good) {r : β} (hr : Good r)
    {text : List α} (ht : text <+: encode r) : readLog delim read text <+: [r] := by
  by_cases hne : text = []
  · rw [hne]
    exact List.nil_prefix
  · have hpieces : pieces delim text = [text] :=
      pieces_of_not_mem (fun hmem => h.delim_not_mem r hr (ht.subset hmem)) hne
    rw [readLog, hpieces]
    rcases h.read_torn r hr text ht with hnone | hsome
    · rw [List.filterMap_cons_none hnone]
      exact List.nil_prefix
    · rw [List.filterMap_cons_some hsome]
      exact List.prefix_refl _

/-- **Ended anywhere**, a log is read as its first records. -/
theorem LineCode.readLog_prefix (h : LineCode delim encode read Good)
    (hgood : ∀ r ∈ records, Good r) {text : List α} (ht : text <+: logText delim encode records) :
    readLog delim read text <+: records := by
  induction records generalizing text with
  | nil =>
    rw [List.prefix_nil.mp ht]
    exact List.prefix_refl _
  | cons r records ih =>
    have hr := hgood r List.mem_cons_self
    rw [logText_cons] at ht
    have htorn : text <+: encode r → readLog delim read text <+: r :: records := fun hshort =>
      (h.readLog_torn hr hshort).trans (List.prefix_append [r] records)
    rcases List.prefix_or_prefix_of_prefix ht (List.prefix_append _ _) with hshort | ⟨rest, rfl⟩
    · exact htorn hshort
    · -- it ends with the first line, or behind its delimiter
      rcases List.prefix_cons_iff.mp ((List.prefix_append_right_inj _).mp ht) with
        rfl | ⟨tail, rfl, htail⟩
      · refine htorn ⟨[], ?_⟩
        rw [List.append_nil, List.append_nil]
      · rw [readLog, pieces_append (h.delim_not_mem r hr),
          List.filterMap_cons_some (h.read_encode r hr)]
        exact List.cons_prefix_cons.mpr
          ⟨rfl, ih (fun r' hr' => hgood r' (List.mem_cons_of_mem r hr')) htail⟩

end FalconGuide.Lib
