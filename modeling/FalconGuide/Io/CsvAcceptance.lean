import FalconGuide.Io.CsvReader

namespace FalconGuide

open Lib

/-!
# The records that are accepted

The records of the documented file format, and what `ParseLine` takes for one.

* `parseLine_eq_ok` — the lines that are accepted, and the records they become;
* `CsvRecord.IsWritten` — a line that is a record of the documented form;
* `NothingBehind` — the condition under which the two agree;
* `readsRecords_iff` — that condition is exact; and what is accepted is returned in its order.

White space in front of a number counts as part of it, as it does for `std::stod` and `std::stoll`,
and the value of a decimal is exact: a `double` holds the nearest one.
-/

/-! ### What is accepted -/

theorem recordKind_eq_some {tokens : List (List UInt8)} {kind : CsvKind} :
    recordKind tokens = some kind ↔
      tokens.headD [] = kind.type ∧ kind.tokenCount ≤ tokens.length := by
  constructor
  · intro h
    unfold recordKind at h
    dsimp only at h
    split_ifs at h with himu hgnss hbaro hmag
    · cases h
      exact himu
    · cases h
      exact hgnss
    · cases h
      exact hbaro
    · cases h
      exact hmag
  · rintro ⟨htype, hcount⟩
    have hother : ∀ kind' : CsvKind, kind.type ≠ kind'.type →
        ¬ (kind.type = kind'.type ∧ kind'.tokenCount ≤ tokens.length) := by
      intro kind' hne h
      exact hne h.1
    unfold recordKind
    dsimp only
    rw [htype]
    cases kind with
    | imu => rw [if_pos ⟨rfl, hcount⟩]
    | gnss => rw [if_neg (hother .imu (by decide)), if_pos ⟨rfl, hcount⟩]
    | baro =>
      rw [if_neg (hother .imu (by decide)), if_neg (hother .gnss (by decide)),
        if_pos ⟨rfl, hcount⟩]
    | mag =>
      rw [if_neg (hother .imu (by decide)), if_neg (hother .gnss (by decide)),
        if_neg (hother .baro (by decide)), if_pos ⟨rfl, hcount⟩]

/-- All conversions return, in whichever order. -/
theorem readRecord_eq_ok {kind : CsvKind} {tokens : List (List UInt8)} {r : CsvRecord} :
    readRecord kind tokens = .ok r ↔
      r.kind = kind ∧ stoll (tokens.getD 1 []) = .ok r.timestampNs ∧
        List.Forall₂ (fun text x => stod text = .ok x) (valueTokens kind tokens) r.values := by
  unfold readRecord
  split
  · simp only [bind_eq_ok, pure_eq_ok, mapM_eq_ok]
    constructor
    · rintro ⟨values, hvalues, timestampNs, htimestamp, rfl⟩
      exact ⟨rfl, htimestamp, hvalues⟩
    · rintro ⟨rfl, htimestamp, hvalues⟩
      exact ⟨_, hvalues, _, htimestamp, rfl⟩
  · simp only [bind_eq_ok, pure_eq_ok, mapM_eq_ok]
    constructor
    · rintro ⟨timestampNs, htimestamp, values, hvalues, rfl⟩
      exact ⟨rfl, htimestamp, hvalues⟩
    · rintro ⟨rfl, htimestamp, hvalues⟩
      exact ⟨_, htimestamp, _, hvalues, rfl⟩

/-- **What is accepted**: a type with enough tokens, all of which begin with a number. -/
theorem parseLine_eq_ok {line : List UInt8} {r : CsvRecord} :
    parseLine line = .ok r ↔
      ((split line).headD [] = r.kind.type ∧ r.kind.tokenCount ≤ (split line).length) ∧
        stoll ((split line).getD 1 []) = .ok r.timestampNs ∧
        List.Forall₂ (fun text x => stod text = .ok x) (valueTokens r.kind (split line))
          r.values := by
  have hkind : parseLine line = .ok r ↔
      ∃ kind, recordKind (split line) = some kind ∧ readRecord kind (split line) = .ok r := by
    unfold parseLine
    dsimp only
    split
    · rename_i hnil
      rw [hnil]
      have hnone : recordKind [] = none := by decide
      simp [hnone]
    · cases recordKind (split line) with
      | none => simp
      | some kind =>
        dsimp only
        cases hread : readRecord kind (split line) with
        | error ex => simp [hread]
        | ok record => simp [hread]
  rw [hkind]
  constructor
  · rintro ⟨kind, hkind, hread⟩
    obtain ⟨rfl, htimestamp, hvalues⟩ := readRecord_eq_ok.mp hread
    exact ⟨recordKind_eq_some.mp hkind, htimestamp, hvalues⟩
  · rintro ⟨hform, htimestamp, hvalues⟩
    exact ⟨r.kind, recordKind_eq_some.mpr hform, readRecord_eq_ok.mpr ⟨rfl, htimestamp, hvalues⟩⟩

/-! ### Tokens and fields -/

/-- What is related to a list is related to its members. -/
theorem exists_of_forall₂ {α β : Type} {p : α → β → Prop} {xs : List α} {ys : List β}
    (h : List.Forall₂ p xs ys) {x : α} (hx : x ∈ xs) : ∃ y, p x y := by
  induction h with
  | nil => cases hx
  | cons hxy _ ih =>
    rcases List.mem_cons.mp hx with rfl | hx
    · exact ⟨_, hxy⟩
    · exact ih hx

/-- The tokens are the fields, without an empty one at the end. -/
theorem splitOn_eq_split (line : List UInt8) :
    ∃ tail, (tail = [] ∨ tail = [[]]) ∧ line.splitOn Byte.comma = split line ++ tail := by
  induction line with
  | nil => exact ⟨[[]], .inr rfl, rfl⟩
  | cons c line ih =>
    obtain ⟨tail, htail, hline⟩ := ih
    rw [split] at hline ⊢
    rw [List.splitOn, List.splitOnP_cons_eq_if_modifyHead, ← List.splitOn, hline, getlines]
    by_cases hcomma : c = Byte.comma
    · rw [if_pos (by simpa using hcomma), if_pos hcomma]
      exact ⟨tail, htail, rfl⟩
    · rw [if_neg (by simpa using hcomma), if_neg hcomma]
      cases htokens : getlines Byte.comma line with
      | nil =>
        rw [htokens, List.nil_append] at hline
        rcases htail with rfl | rfl
        · exact absurd hline (List.splitOn_ne_nil _ _)
        · exact ⟨[], .inl rfl, rfl⟩
      | cons token tokens => exact ⟨tail, htail, rfl⟩

theorem getD_splitOn {line : List UInt8} {i : ℕ} (h : i < (split line).length) :
    (line.splitOn Byte.comma).getD i [] = (split line).getD i [] := by
  obtain ⟨tail, -, hline⟩ := splitOn_eq_split line
  rw [hline, List.getD_eq_getElem?_getD, List.getD_eq_getElem?_getD, List.getElem?_append_left h]

/-- The tokens of a record are its fields. -/
theorem valueTokens_splitOn {kind : CsvKind} {line : List UInt8}
    (h : kind.tokenCount ≤ (split line).length) :
    valueTokens kind (line.splitOn Byte.comma) = valueTokens kind (split line) := by
  obtain ⟨tail, -, hline⟩ := splitOn_eq_split line
  rw [valueTokens, valueTokens, hline, List.take_append_of_le_length h]

/-! ### What is documented -/

/-- A text that is entirely an integer of 64 bits, with the white space in front of it. -/
def IsIntegerText (text : List UInt8) (n : ℤ) : Prop := strtoll text = some (n, []) ∧ IsInt64 n

/-- A text that is entirely a number, with the white space in front of it, or an infinity or `nan`,
    where these count as numbers.  A decimal has its exact value. -/
def IsNumberText (mayBeInfinite : Bool) (text : List UInt8) (x : Double ℚ) : Prop :=
  strtod text = some (x, []) ∧ InRange x ∧ (mayBeInfinite = false → ∃ q, x = .finite q)

/-- A line that is this record. -/
structure CsvRecord.IsWritten (mayBeInfinite : Bool) (line : List UInt8) (r : CsvRecord) :
    Prop where
  type : (line.splitOn Byte.comma).headD [] = r.kind.type
  count : r.kind.tokenCount ≤ (line.splitOn Byte.comma).length
  timestamp : IsIntegerText ((line.splitOn Byte.comma).getD 1 []) r.timestampNs
  values : List.Forall₂ (IsNumberText mayBeInfinite)
    (valueTokens r.kind (line.splitOn Byte.comma)) r.values

/-- A line is accepted exactly if it is a record, and as the record that it is. -/
def ReadsRecord (mayBeInfinite : Bool) (line : List UInt8) : Prop :=
  ∀ r, parseLine line = .ok r ↔ r.IsWritten mayBeInfinite line

theorem IsIntegerText.stoll_eq {text : List UInt8} {n : ℤ} (h : IsIntegerText text n) :
    stoll text = .ok n := by
  rw [stoll, h.1]
  exact if_pos h.2

theorem IsNumberText.stod_eq {mayBeInfinite : Bool} {text : List UInt8} {x : Double ℚ}
    (h : IsNumberText mayBeInfinite text x) : stod text = .ok x := by
  rw [stod, h.1]
  exact if_pos h.2.1

/-- An empty text is no number. -/
theorem not_isNumberText_nil {mayBeInfinite : Bool} {x : Double ℚ} :
    ¬ IsNumberText mayBeInfinite [] x := by
  rintro ⟨h, -⟩
  have hnone : strtod [] = none := by decide +kernel
  rw [hnone] at h
  cases h

/-! ### When they agree -/

/-- A line of this kind, with enough tokens. -/
def HasForm (kind : CsvKind) (line : List UInt8) : Prop :=
  (split line).headD [] = kind.type ∧ kind.tokenCount ≤ (split line).length

/-- It has a token behind the type. -/
theorem HasForm.one_lt {kind : CsvKind} {line : List UInt8} (h : HasForm kind line) :
    1 < (split line).length := by
  have htwo : 2 ≤ kind.tokenCount := by cases kind <;> decide
  exact (show 1 < 2 by decide).trans_le (htwo.trans h.2)

/-- Where all the tokens that are read begin with numbers, nothing is behind the numbers. -/
def NothingBehind (mayBeInfinite : Bool) (line : List UInt8) : Prop :=
  ∀ kind, HasForm kind line →
    (∃ n, stoll ((split line).getD 1 []) = .ok n) →
    (∀ text ∈ valueTokens kind (split line), ∃ x, stod text = .ok x) →
    (∃ n, IsIntegerText ((split line).getD 1 []) n) ∧
      ∀ text ∈ valueTokens kind (split line), ∃ x, IsNumberText mayBeInfinite text x

section

variable {mayBeInfinite : Bool} {line : List UInt8}

/-- A record of the documented form has enough tokens: an empty field at its end is no number. -/
theorem CsvRecord.IsWritten.hasForm {r : CsvRecord} (h : r.IsWritten mayBeInfinite line) :
    HasForm r.kind line := by
  obtain ⟨tail, htail, hline⟩ := splitOn_eq_split line
  have hcount := h.count
  have hvalues := h.values
  rw [hline] at hcount hvalues
  have htwo : 3 ≤ r.kind.tokenCount := by cases r.kind <;> decide
  have henough : r.kind.tokenCount ≤ (split line).length := by
    by_contra hshort
    rcases htail with rfl | rfl
    · rw [List.append_nil] at hcount
      exact hshort hcount
    · -- the last field that is read would be the empty one
      rw [List.length_append, List.length_singleton] at hcount
      have hmem : [] ∈ valueTokens r.kind (split line ++ [[]]) := by
        rw [valueTokens, List.take_of_length_le (by simp; omega),
          List.drop_append_of_le_length (by omega)]
        simp
      obtain ⟨x, hx⟩ := exists_of_forall₂ hvalues hmem
      exact not_isNumberText_nil hx
  refine ⟨?_, henough⟩
  have htype := h.type
  rw [hline] at htype
  cases htokens : split line with
  | nil =>
    rw [htokens, List.length_nil] at henough
    omega
  | cons token tokens =>
    rw [htokens] at htype
    exact htype

/-- It is accepted as this record. -/
theorem CsvRecord.IsWritten.parseLine_eq {r : CsvRecord} (h : r.IsWritten mayBeInfinite line) :
    parseLine line = .ok r := by
  have hform := h.hasForm
  have htimestamp := h.timestamp
  have hvalues := h.values
  rw [getD_splitOn hform.one_lt] at htimestamp
  rw [valueTokens_splitOn hform.2] at hvalues
  exact parseLine_eq_ok.mpr
    ⟨hform, htimestamp.stoll_eq, hvalues.imp fun _ _ hx => hx.stod_eq⟩

/-- **What is accepted is a record as it is written** exactly if no token has anything behind its
    number. -/
theorem readsRecord_iff : ReadsRecord mayBeInfinite line ↔ NothingBehind mayBeInfinite line := by
  constructor
  · rintro h kind hform ⟨n, hn⟩ hconverts
    obtain ⟨values, hvalues⟩ := exists_mapM_eq_ok.mpr hconverts
    have hwritten := (h { kind, timestampNs := n, values }).mp
      (parseLine_eq_ok.mpr ⟨hform, hn, mapM_eq_ok.mp hvalues⟩)
    have htimestamp := hwritten.timestamp
    have hentire := hwritten.values
    rw [getD_splitOn hform.one_lt] at htimestamp
    rw [valueTokens_splitOn hform.2] at hentire
    exact ⟨⟨n, htimestamp⟩, fun text htext => exists_of_forall₂ hentire htext⟩
  · intro h r
    refine ⟨fun hr => ?_, fun hr => hr.parseLine_eq⟩
    obtain ⟨hform, htimestamp, hvalues⟩ := parseLine_eq_ok.mp hr
    have hone : 1 < (split line).length := HasForm.one_lt hform
    obtain ⟨⟨n, hn⟩, hentire⟩ := h r.kind hform ⟨_, htimestamp⟩
      (exists_mapM_eq_ok.mp ⟨_, mapM_eq_ok.mpr hvalues⟩)
    obtain ⟨tail, -, hline⟩ := splitOn_eq_split line
    refine ⟨?_, ?_, ?_, ?_⟩
    · rw [← hform.1, hline]
      cases htokens : split line with
      | nil =>
        rw [htokens] at hone
        cases hone
      | cons token tokens => rfl
    · rw [hline, List.length_append]
      exact hform.2.trans (Nat.le_add_right _ _)
    · rw [getD_splitOn hone]
      cases Except.ok.inj (hn.stoll_eq.symm.trans htimestamp)
      exact hn
    · rw [valueTokens_splitOn hform.2]
      refine ((List.forall₂_and_left _ _).mpr ⟨hentire, hvalues⟩).imp ?_
      rintro text x ⟨⟨y, hy⟩, hx⟩
      cases Except.ok.inj (hy.stod_eq.symm.trans hx)
      exact hy

end

/-! ### The reader -/

/-- The record that a line is accepted as. -/
def recordOf (line : List UInt8) : Option CsvRecord :=
  match parseLine line with
  | .ok record => some record
  | _ => none

/-- The records that are accepted of a file. -/
def acceptedRecords (text : List UInt8) : List CsvRecord :=
  (getlines Byte.lineFeed text).filterMap recordOf

theorem recordOf_eq_some {line : List UInt8} {r : CsvRecord} :
    recordOf line = some r ↔ parseLine line = .ok r := by
  unfold recordOf
  cases parseLine line <;> simp

/-- What `Next` skips without a look at it is no record. -/
theorem recordOf_of_skipped {line : List UInt8}
    (h : line = [] ∨ line.head? = some Byte.hash) : recordOf line = none := by
  rw [Option.eq_none_iff_forall_ne_some]
  intro r hr
  obtain ⟨⟨htype, -⟩, -⟩ := parseLine_eq_ok.mp (recordOf_eq_some.mp hr)
  rcases h with rfl | hhash
  · revert htype
    show [] ≠ r.kind.type
    cases r.kind <;> decide
  · obtain ⟨rest, rfl⟩ : ∃ rest, line = Byte.hash :: rest := by
      cases line with
      | nil => cases hhash
      | cons c rest => exact ⟨rest, by rw [Option.some.inj hhash]⟩
    -- the first token begins with the hash
    have hfirst : ((split (Byte.hash :: rest)).headD []).head? = some Byte.hash := by
      rw [split, getlines, if_neg (by decide)]
      cases getlines Byte.comma rest <;> rfl
    rw [htype] at hfirst
    revert hfirst
    cases r.kind <;> decide

namespace CsvMeasurementReader

/-- One `Next`: the first record that is accepted, and the lines behind it. -/
theorem nextLine_spec (reader : CsvMeasurementReader) (lines : List (List UInt8)) :
    ∃ rest, (reader.nextLine lines).2.file = some rest ∧
      rest.filterMap recordOf = (lines.filterMap recordOf).tail ∧
      (reader.nextLine lines).1 = (lines.filterMap recordOf).head?.elim .endOfData .ok := by
  induction lines with
  | nil => exact ⟨[], rfl, rfl, rfl⟩
  | cons line lines ih =>
    rw [nextLine]
    by_cases hskip : line = [] ∨ line.head? = some Byte.hash
    · rw [if_pos hskip, List.filterMap_cons_none (recordOf_of_skipped hskip)]
      exact ih
    · rw [if_neg hskip]
      cases hparse : parseLine line with
      | ok r =>
        rw [List.filterMap_cons_some (recordOf_eq_some.mpr hparse)]
        exact ⟨lines, rfl, rfl, rfl⟩
      | endOfData =>
        have hnone : recordOf line = none := by rw [recordOf, hparse]
        rw [List.filterMap_cons_none hnone]
        exact ih
      | error message =>
        have hnone : recordOf line = none := by rw [recordOf, hparse]
        rw [List.filterMap_cons_none hnone]
        exact ih

/-- The reader after so many calls of `Next`. -/
def afterCalls (reader : CsvMeasurementReader) : ℕ → CsvMeasurementReader
  | 0 => reader
  | k + 1 => reader.next.2.afterCalls k

/-- **Every `Next` returns the next record** that is accepted, until none is left. -/
theorem next_afterCalls {reader : CsvMeasurementReader} {lines : List (List UInt8)}
    (h : reader.file = some lines) (k : ℕ) :
    (reader.afterCalls k).next.1 = (lines.filterMap recordOf)[k]?.elim .endOfData .ok := by
  induction k generalizing reader lines with
  | zero =>
    obtain ⟨-, -, -, hfirst⟩ := reader.nextLine_spec lines
    rw [afterCalls, next, h, hfirst, List.head?_eq_getElem?]
  | succ k ih =>
    obtain ⟨rest, hfile, htail, -⟩ := reader.nextLine_spec lines
    have hnext : reader.next.2.file = some rest := by
      rw [next, h]
      exact hfile
    rw [afterCalls, ih hnext, htail, List.getElem?_tail]

end CsvMeasurementReader

/-- A timestamp of one and a half seconds. -/
def exponentLine : List UInt8 := ascii "BARO,1.5e9,101325,100"

end FalconGuide
