import FalconGuide.Core.Bytes
import Mathlib.Data.List.DropRight

namespace FalconGuide

/-!
# NMEA sentences

`nmea_sentence.hpp`: a sentence as a line of bytes, with its checksum.

* `NmeaSentence` — talker, formatter and fields;
* `computeChecksum`, `formatChecksum`, `parseHexByte` — the checksum and its two digits;
* `parseSentence`, `buildSentence`;
* `parseSentence_spec` — the lines that are accepted, and what they are read as;
* `parseSentence_buildSentence` — a sentence is read back as it was built;
* `parseSentence_corrupted` — no changed byte of a payload is accepted.
-/

/-- `NmeaSentence`. -/
structure NmeaSentence where
  talker : List UInt8
  formatter : List UInt8
  fields : List (List UInt8) := []
  deriving DecidableEq

/-! ### Checksum -/

/-- `ComputeChecksum`. -/
def computeChecksum (payload : List UInt8) : UInt8 := payload.foldl (· ^^^ ·) 0

/-- An uppercase hexadecimal digit. -/
def hexDigit (d : UInt8) : UInt8 := if d < 10 then 0x30 + d else 0x41 + (d - 10)

/-- `FormatChecksum`. -/
def formatChecksum (checksum : UInt8) : List UInt8 :=
  [hexDigit (checksum >>> 4), hexDigit (checksum &&& 0x0F)]

/-- The value of a hexadecimal digit. -/
def hexValue (c : UInt8) : Option UInt8 :=
  if 0x30 ≤ c ∧ c ≤ 0x39 then some (c - 0x30)
  else if 0x41 ≤ c ∧ c ≤ 0x46 then some (c - 0x41 + 10)
  else if 0x61 ≤ c ∧ c ≤ 0x66 then some (c - 0x61 + 10)
  else none

/-- `ParseHexByte`. -/
def parseHexByte (text : List UInt8) : Option UInt8 :=
  if text.length ≠ 2 then none
  else text.foldlM (fun value c => (hexValue c).map fun d => value <<< 4 ||| d) 0

/-! ### Sentences -/

/-- The position of the first `c`. -/
def find (c : UInt8) (text : List UInt8) : Option ℕ := text.findIdx? (· == c)

/-- A line end is dropped from the end of a line. -/
def isLineEnd (c : UInt8) : Bool := c = Byte.lineFeed || c = Byte.carriageReturn

theorem find_lt {c : UInt8} {text : List UInt8} {i : ℕ} (h : find c text = some i) :
    i < text.length := by
  rw [find, List.findIdx?_eq_some_iff_getElem] at h
  exact h.1

/-- The fields of `text`, from one comma to the next. -/
def splitFields (text : List UInt8) : List (List UInt8) :=
  match _h : find Byte.comma text with
  | none => [text]
  | some fieldEnd => text.take fieldEnd :: splitFields (text.drop (fieldEnd + 1))
termination_by text.length
decreasing_by
  have hlt := find_lt ‹_›
  rw [List.length_drop]
  omega

/-- The sentence with a header of at least five characters. -/
def sentenceOf (header : List UInt8) (fields : List (List UInt8)) : Option NmeaSentence :=
  if header.length < 5 then none
  else some { talker := header.take 2, formatter := header.drop 2, fields }

/-- The sentence of a payload. -/
def parsePayload (payload : List UInt8) : Option NmeaSentence :=
  match find Byte.comma payload with
  | none => sentenceOf payload []
  | some firstComma =>
    sentenceOf (payload.take firstComma) (splitFields (payload.drop (firstComma + 1)))

/-- `ParseSentence`. -/
def parseSentence (line : List UInt8) : Option NmeaSentence :=
  if line.length < 9 ∨ line.head? ≠ some Byte.dollar then none
  else
    let line := line.rdropWhile isLineEnd
    match find Byte.asterisk line with
    | none => none
    | some marker =>
      if marker + 3 ≠ line.length then none
      else
        let payload := (line.drop 1).take (marker - 1)
        if parseHexByte ((line.drop (marker + 1)).take 2) ≠ some (computeChecksum payload) then
          none
        else parsePayload payload

/-- The payload of a sentence. -/
def buildPayload (s : NmeaSentence) : List UInt8 :=
  s.talker ++ s.formatter ++ s.fields.flatMap fun field => Byte.comma :: field

/-- `BuildSentence`. -/
def buildSentence (talker formatter : List UInt8) (fields : List (List UInt8)) : List UInt8 :=
  let payload := buildPayload { talker, formatter, fields }
  Byte.dollar :: payload ++ Byte.asterisk :: formatChecksum (computeChecksum payload)

/-! ### Finding a character -/

theorem find_eq_none_iff {c : UInt8} {text : List UInt8} : find c text = none ↔ c ∉ text := by
  simp only [find, List.findIdx?_eq_none_iff, beq_eq_false_iff_ne]
  constructor
  · intro h hmem
    exact h c hmem rfl
  · rintro h x hx rfl
    exact h hx

theorem find_append {c : UInt8} {xs : List UInt8} (h : c ∉ xs) (ys : List UInt8) :
    find c (xs ++ c :: ys) = some xs.length := by
  rw [find, List.findIdx?_append, ← find, find_eq_none_iff.mpr h]
  simp [List.findIdx?_cons]

/-- What is before the first `c`, and what is behind it. -/
theorem find_eq_some {c : UInt8} {text : List UInt8} {i : ℕ} (h : find c text = some i) :
    text = text.take i ++ c :: text.drop (i + 1) ∧ c ∉ text.take i := by
  have hlt := find_lt h
  rw [find, List.findIdx?_eq_some_iff_getElem] at h
  obtain ⟨_, hat, hbefore⟩ := h
  have hc : text[i] = c := by simpa using hat
  constructor
  · rw [← hc, List.getElem_cons_drop, List.take_append_drop]
  · intro hmem
    obtain ⟨j, hj, hget⟩ := List.getElem_of_mem hmem
    rw [List.length_take] at hj
    have hji : j < i := by omega
    rw [List.getElem_take] at hget
    simpa [hget] using hbefore j hji

/-- Line ends are dropped, and nothing else. -/
theorem rdropWhile_lineEnds {xs newlines : List UInt8} {c : UInt8} (hc : isLineEnd c = false)
    (hnew : ∀ d ∈ newlines, isLineEnd d = true) :
    (xs ++ [c] ++ newlines).rdropWhile isLineEnd = xs ++ [c] := by
  induction newlines using List.reverseRecOn with
  | nil =>
    rw [List.append_nil]
    exact List.rdropWhile_concat_neg _ _ _ (by simp [hc])
  | append_singleton newlines d ih =>
    rw [← List.append_assoc, List.rdropWhile_concat_pos _ _ _ (hnew d (by simp))]
    exact ih fun e he => hnew e (by simp [he])

/-! ### Fields -/

theorem splitFields_of_not_mem {text : List UInt8} (h : Byte.comma ∉ text) :
    splitFields text = [text] := by
  rw [splitFields]
  split
  · rfl
  · rename_i i hi
    rw [find_eq_none_iff.mpr h] at hi
    cases hi

theorem splitFields_append {field : List UInt8} (h : Byte.comma ∉ field) (rest : List UInt8) :
    splitFields (field ++ Byte.comma :: rest) = field :: splitFields rest := by
  have hfind := find_append h rest
  rw [splitFields]
  split
  · rename_i hnone
    rw [hfind] at hnone
    cases hnone
  · rename_i i hi
    cases hfind.symm.trans hi
    congr 2
    · exact List.take_left
    · rw [List.drop_append, List.drop_of_length_le (Nat.le_succ _), Nat.add_sub_cancel_left]
      rfl

/-- Fields without a comma are read back from what they are joined to, empty ones included. -/
theorem splitFields_flatMap {field : List UInt8} {fields : List (List UInt8)}
    (hfield : Byte.comma ∉ field) (hfields : ∀ f ∈ fields, Byte.comma ∉ f) :
    splitFields (field ++ fields.flatMap fun f => Byte.comma :: f) = field :: fields := by
  induction fields generalizing field with
  | nil => rw [List.flatMap_nil, List.append_nil, splitFields_of_not_mem hfield]
  | cons f fields ih =>
    rw [List.flatMap_cons, List.cons_append, splitFields_append hfield,
      ih (hfields f List.mem_cons_self) fun g hg => hfields g (List.mem_cons_of_mem f hg)]

/-- **A payload** without separators is read back. -/
theorem parsePayload_buildPayload {s : NmeaSentence} (htalker : s.talker.length = 2)
    (hformatter : 3 ≤ s.formatter.length) (hheader : Byte.comma ∉ s.talker ++ s.formatter)
    (hfields : ∀ f ∈ s.fields, Byte.comma ∉ f) : parsePayload (buildPayload s) = some s := by
  obtain ⟨talker, formatter, fields⟩ := s
  have hsentence : ∀ fields, sentenceOf (talker ++ formatter) fields
      = some { talker, formatter, fields } := by
    intro fields
    have hlen : ¬ (talker ++ formatter).length < 5 := by
      simp only [List.length_append] at *
      omega
    have htwo : 2 = talker.length := htalker.symm
    rw [sentenceOf, if_neg hlen, htwo, List.take_left, List.drop_left]
  cases fields with
  | nil =>
    -- no comma at all
    have hpayload : buildPayload { talker, formatter } = talker ++ formatter :=
      List.append_nil _
    rw [hpayload, parsePayload, find_eq_none_iff.mpr hheader]
    exact hsentence []
  | cons field fields =>
    have hpayload : buildPayload { talker, formatter, fields := field :: fields }
        = (talker ++ formatter) ++ Byte.comma ::
            (field ++ fields.flatMap fun f => Byte.comma :: f) := by
      simp [buildPayload]
    have hrest : ∀ rest : List UInt8,
        ((talker ++ formatter) ++ Byte.comma :: rest).drop ((talker ++ formatter).length + 1)
          = rest := by
      intro rest
      rw [List.drop_append, List.drop_of_length_le (Nat.le_succ _), Nat.add_sub_cancel_left]
      rfl
    rw [hpayload, parsePayload, find_append hheader]
    dsimp only
    rw [List.take_left, hrest, splitFields_flatMap (hfields field List.mem_cons_self)
      fun f hf => hfields f (List.mem_cons_of_mem field hf)]
    exact hsentence _

/-! ### Checksums -/

/-- The checksum of a payload with one byte singled out. -/
theorem computeChecksum_append_cons (xs ys : List UInt8) (b : UInt8) :
    computeChecksum (xs ++ b :: ys) = computeChecksum xs ^^^ b ^^^ computeChecksum ys := by
  have hfold : ∀ (ys : List UInt8) (acc : UInt8),
      ys.foldl (· ^^^ ·) acc = acc ^^^ computeChecksum ys := by
    intro ys
    induction ys with
    | nil =>
      intro acc
      exact UInt8.xor_zero.symm
    | cons y ys ih =>
      intro acc
      rw [computeChecksum, List.foldl_cons, List.foldl_cons, ih, ih (0 ^^^ y), UInt8.zero_xor,
        UInt8.xor_assoc]
  rw [computeChecksum, List.foldl_append, List.foldl_cons, hfold]
  rfl

/-- **Another byte**, another checksum. -/
theorem computeChecksum_ne {xs ys : List UInt8} {a b : UInt8} (h : a ≠ b) :
    computeChecksum (xs ++ a :: ys) ≠ computeChecksum (xs ++ b :: ys) := by
  rw [computeChecksum_append_cons, computeChecksum_append_cons]
  intro heq
  have hundo : ∀ x c y : UInt8, x ^^^ (x ^^^ c ^^^ y) ^^^ y = c := by
    intro x c y
    rw [UInt8.xor_assoc x c y, ← UInt8.xor_assoc x x, UInt8.xor_self, UInt8.zero_xor,
      UInt8.xor_assoc, UInt8.xor_self, UInt8.xor_zero]
  apply h
  rw [← hundo (computeChecksum xs) a (computeChecksum ys), heq, hundo]

/-- The two digits of a checksum are read back. -/
theorem parseHexByte_formatChecksum (checksum : UInt8) :
    parseHexByte (formatChecksum checksum) = some checksum := by
  have hall : ∀ n : Fin 256,
      parseHexByte (formatChecksum (UInt8.ofFin n)) = some (UInt8.ofFin n) := by
    decide +kernel
  exact hall checksum.toFin

/-- A digit is no line end. -/
theorem isLineEnd_of_hexValue {c d : UInt8} (h : hexValue c = some d) : isLineEnd c = false := by
  have hall : ∀ n : Fin 256,
      (hexValue (UInt8.ofFin n)).isSome → isLineEnd (UInt8.ofFin n) = false := by
    decide +kernel
  have hsome : (hexValue (UInt8.ofFin c.toFin)).isSome := by
    show (hexValue c).isSome
    rw [h]
    rfl
  exact hall c.toFin hsome

/-! ### Lines -/

/-- A line with this payload and these two characters behind it. -/
structure IsLine (line payload digits : List UInt8) : Prop where
  /-- Only line ends follow. -/
  line : ∃ newlines, (∀ c ∈ newlines, isLineEnd c = true) ∧
    line = Byte.dollar :: payload ++ Byte.asterisk :: digits ++ newlines
  length : digits.length = 2
  payload : Byte.asterisk ∉ payload

/-- Two digits, the second of which is no line end. -/
theorem parseHexByte_eq_some {digits : List UInt8} {b : UInt8}
    (h : parseHexByte digits = some b) :
    ∃ c d, digits = [c, d] ∧ isLineEnd d = false := by
  unfold parseHexByte at h
  split at h
  · cases h
  · rename_i hlen
    obtain _ | ⟨c, _ | ⟨d, _ | ⟨e, rest⟩⟩⟩ := digits
    · simp at hlen
    · simp at hlen
    · refine ⟨c, d, rfl, ?_⟩
      cases hd : hexValue d with
      | some value => exact isLineEnd_of_hexValue hd
      | none => simp [List.foldlM_cons, hd] at h
    · simp at hlen

/-- What is left of a line without the line ends. -/
theorem rdropWhile_line {payload digits newlines : List UInt8}
    (hdigits : ∃ c d, digits = [c, d] ∧ isLineEnd d = false)
    (hnew : ∀ c ∈ newlines, isLineEnd c = true) :
    (Byte.dollar :: payload ++ Byte.asterisk :: digits ++ newlines).rdropWhile isLineEnd
      = Byte.dollar :: payload ++ Byte.asterisk :: digits := by
  obtain ⟨c, d, rfl, hd⟩ := hdigits
  have hdrop := @rdropWhile_lineEnds (Byte.dollar :: payload ++ [Byte.asterisk, c]) _ d hd hnew
  simpa using hdrop

/-- What `ParseSentence` makes of such a line. -/
theorem parseSentence_of_isLine {line payload digits : List UInt8}
    (h : IsLine line payload digits) (hdigits : ∃ c d, digits = [c, d] ∧ isLineEnd d = false) :
    parseSentence line =
      if line.length < 9 ∨ parseHexByte digits ≠ some (computeChecksum payload) then none
      else parsePayload payload := by
  obtain ⟨newlines, hnew, hline⟩ := h.line
  have htrim := @rdropWhile_line payload _ _ hdigits hnew
  rw [← hline] at htrim
  obtain ⟨c, d, rfl, -⟩ := hdigits
  have hmem : Byte.asterisk ∉ Byte.dollar :: payload := by
    simp only [List.mem_cons, not_or]
    exact ⟨by decide, h.payload⟩
  have hfind := find_append hmem [c, d]
  have hpayload : ((Byte.dollar :: payload ++ [Byte.asterisk, c, d]).drop 1).take
      ((Byte.dollar :: payload).length - 1) = payload := by
    simp
  have hdigits : ((Byte.dollar :: payload ++ [Byte.asterisk, c, d]).drop
      ((Byte.dollar :: payload).length + 1)).take 2 = [c, d] := by
    rw [List.drop_append, List.drop_of_length_le (Nat.le_succ _), Nat.add_sub_cancel_left]
    rfl
  have hhead : line.head? = some Byte.dollar := by
    rw [hline]
    rfl
  rw [parseSentence, htrim]
  dsimp only
  rw [hfind]
  dsimp only
  rw [hpayload, hdigits, hhead]
  by_cases hlen : line.length < 9
  · rw [if_pos (.inl hlen), if_pos (.inl hlen)]
  · rw [if_neg (by simp [hlen]), if_neg (by simp)]
    simp [hlen]

/-- **What is accepted**: a payload that makes a sentence, with its checksum in two digits. -/
theorem parseSentence_eq_some {line : List UInt8} {s : NmeaSentence}
    (h : parseSentence line = some s) :
    ∃ payload digits, IsLine line payload digits ∧
      parseHexByte digits = some (computeChecksum payload) ∧ parsePayload payload = some s := by
  rw [parseSentence] at h
  split at h
  · cases h
  · rename_i hstart
    simp only [not_or, not_not] at hstart
    dsimp only at h
    have hsplit := List.rdropWhile_append_rtakeWhile (p := isLineEnd) (l := line)
    have hprefix := List.rdropWhile_prefix isLineEnd (l := line)
    generalize htrim : line.rdropWhile isLineEnd = trimmed at h hsplit hprefix
    split at h
    · cases h
    · rename_i marker hfind
      split at h
      · cases h
      · rename_i hmarker
        rw [not_not] at hmarker
        split at h
        · cases h
        · rename_i hchecksum
          rw [not_not] at hchecksum
          obtain ⟨hparts, hbefore⟩ := find_eq_some hfind
          -- the dollar sign is in front of the asterisk
          obtain ⟨payload, hpayload⟩ : ∃ payload, trimmed.take marker = Byte.dollar :: payload := by
            obtain ⟨rest, hrest⟩ := hprefix
            cases htake : trimmed.take marker with
            | nil =>
              rw [htake] at hparts
              rw [← hrest, hparts] at hstart
              exact absurd hstart.2 (by simp; decide)
            | cons c payload =>
              rw [htake] at hparts
              rw [← hrest, hparts] at hstart
              have hc : c = Byte.dollar := by simpa using hstart.2
              exact ⟨payload, by rw [hc]⟩
          have hlen : trimmed.length = marker + 3 := hmarker.symm
          have hafter : (trimmed.drop (marker + 1)).length = 2 := by
            rw [List.length_drop]
            omega
          have hmid : (trimmed.drop 1).take (marker - 1) = payload := by
            rw [← List.drop_take, hpayload]
            rfl
          have hdigits : (trimmed.drop (marker + 1)).take 2 = trimmed.drop (marker + 1) :=
            List.take_of_length_le hafter.le
          rw [hmid, hdigits] at hchecksum
          rw [hmid] at h
          refine ⟨payload, trimmed.drop (marker + 1), ⟨?_, hafter, ?_⟩, hchecksum, h⟩
          · refine ⟨line.rtakeWhile isLineEnd, fun c hc => List.mem_rtakeWhile_imp hc, ?_⟩
            rw [← hpayload, ← hparts, hsplit]
          · intro hmem
            rw [hpayload] at hbefore
            exact hbefore (List.mem_cons_of_mem _ hmem)

/-! ### Round trip -/

/-- A sentence with a header, and without separators in its texts. -/
structure NmeaSentence.IsPlain (s : NmeaSentence) : Prop where
  talker : s.talker.length = 2
  formatter : 3 ≤ s.formatter.length
  plain : ∀ text ∈ s.talker :: s.formatter :: s.fields,
    Byte.comma ∉ text ∧ Byte.asterisk ∉ text

/-- Such a sentence is read back, whatever line ends follow. -/
theorem NmeaSentence.IsPlain.parseSentence_eq {s : NmeaSentence} (h : s.IsPlain)
    {newlines : List UInt8} (hnew : ∀ c ∈ newlines, c = Byte.lineFeed ∨ c = Byte.carriageReturn) :
    parseSentence (buildSentence s.talker s.formatter s.fields ++ newlines) = some s := by
  obtain ⟨talker, formatter, fields⟩ := s
  obtain ⟨htalker', hrest⟩ := List.forall_mem_cons.mp h.plain
  obtain ⟨hformatter', hfields⟩ := List.forall_mem_cons.mp hrest
  have hpayload : parsePayload (buildPayload { talker, formatter, fields })
      = some { talker, formatter, fields } := by
    apply parsePayload_buildPayload h.talker h.formatter
    · rw [List.mem_append, not_or]
      exact ⟨htalker'.1, hformatter'.1⟩
    · intro f hf
      exact (hfields f hf).1
  generalize hbuild : buildPayload { talker, formatter, fields } = payload at hpayload
  have hmem : Byte.asterisk ∉ payload := by
    rw [← hbuild, buildPayload, List.mem_append, List.mem_append, List.mem_flatMap]
    rintro ((hmem | hmem) | ⟨f, hf, hmem⟩)
    · exact htalker'.2 hmem
    · exact hformatter'.2 hmem
    · rcases List.mem_cons.mp hmem with hcomma | hmem
      · exact absurd hcomma (by decide)
      · exact (hfields f hf).2 hmem
  have hline : IsLine (buildSentence talker formatter fields ++ newlines) payload
      (formatChecksum (computeChecksum payload)) := by
    refine ⟨⟨newlines, ?_, ?_⟩, rfl, hmem⟩
    · intro c hc
      rcases hnew c hc with rfl | rfl <;> rfl
    · rw [buildSentence, hbuild]
  have hlong : ¬ (buildSentence talker formatter fields ++ newlines).length < 9 := by
    have hlen : 5 ≤ payload.length := by
      have htalker := h.talker
      have hformatter := h.formatter
      rw [← hbuild, buildPayload, List.length_append, List.length_append]
      dsimp only at *
      omega
    rw [buildSentence, hbuild]
    simp only [formatChecksum, List.length_append, List.length_cons, List.length_nil]
    omega
  have hback := parseHexByte_formatChecksum (computeChecksum payload)
  have hgood : ¬ ((buildSentence talker formatter fields ++ newlines).length < 9 ∨
      parseHexByte (formatChecksum (computeChecksum payload))
        ≠ some (computeChecksum payload)) := by
    rintro (hshort | hne)
    · exact hlong hshort
    · exact hne hback
  rw [parseSentence_of_isLine hline (parseHexByte_eq_some hback), if_neg hgood]
  exact hpayload

/-- **A sentence is read back as it was built**, whatever line ends follow: no field is lost,
    merged or invented. -/
theorem parseSentence_buildSentence {talker formatter : List UInt8} {fields : List (List UInt8)}
    {newlines : List UInt8} (htalker : talker.length = 2) (hformatter : 3 ≤ formatter.length)
    (hplain : ∀ text ∈ talker :: formatter :: fields,
      Byte.comma ∉ text ∧ Byte.asterisk ∉ text)
    (hnew : ∀ c ∈ newlines, c = Byte.lineFeed ∨ c = Byte.carriageReturn) :
    parseSentence (buildSentence talker formatter fields ++ newlines)
      = some { talker, formatter, fields } := by
  have h : ({ talker, formatter, fields } : NmeaSentence).IsPlain :=
    ⟨htalker, hformatter, hplain⟩
  exact h.parseSentence_eq hnew

theorem eq_of_mem_crlf : ∀ c ∈ crlf, c = Byte.lineFeed ∨ c = Byte.carriageReturn := by
  intro c hc
  exact (List.mem_pair.mp hc).symm

/-- Two empty fields, and a line end. -/
theorem parseSentence_buildSentence_empty :
    parseSentence (buildSentence (ascii "FG") (ascii "GGA") [[], []] ++ crlf)
      = some { talker := ascii "FG", formatter := ascii "GGA", fields := [[], []] } :=
  parseSentence_buildSentence (by decide) (by decide) (by decide) eq_of_mem_crlf

/-! ### Corruption -/

/-- **No changed byte of a payload is accepted**, whatever it is changed to. -/
theorem parseSentence_corrupted {text : List UInt8} {s : NmeaSentence}
    (h : parseSentence text = some s) {marker i : ℕ}
    (hmarker : find Byte.asterisk text = some marker) (hpos : 0 < i) (hi : i < marker) {b : UInt8}
    (hb : text[i]? ≠ some b) : parseSentence (text.set i b) = none := by
  obtain ⟨payload, digits, hline, hchecksum, -⟩ := parseSentence_eq_some h
  obtain ⟨newlines, hnew, rfl⟩ := hline.line
  have hmem : Byte.asterisk ∉ Byte.dollar :: payload := by
    simp only [List.mem_cons, not_or]
    exact ⟨by decide, hline.payload⟩
  have hfind := find_append hmem (digits ++ newlines)
  rw [← List.cons_append, ← List.append_assoc] at hfind
  cases hfind.symm.trans hmarker
  -- the payload around the byte at `i`
  obtain ⟨j, rfl⟩ : ∃ j, i = j + 1 := ⟨i - 1, by omega⟩
  have hj : j < payload.length := by simpa using hi
  obtain ⟨xs, a, ys, rfl, rfl⟩ : ∃ xs a ys, payload = xs ++ a :: ys ∧ xs.length = j :=
    ⟨payload.take j, payload[j], payload.drop (j + 1),
      by rw [List.getElem_cons_drop, List.take_append_drop], List.length_take_of_le hj.le⟩
  have hab : a ≠ b := by
    rintro rfl
    simp at hb
  have hset : (Byte.dollar :: (xs ++ a :: ys) ++ Byte.asterisk :: digits ++ newlines).set
      (xs.length + 1) b
        = Byte.dollar :: (xs ++ b :: ys) ++ Byte.asterisk :: digits ++ newlines := by
    simp
  rw [hset, Option.eq_none_iff_forall_ne_some]
  intro s' hs'
  -- without the line ends, it is a line with this payload and these digits, or none
  obtain ⟨payload', digits', hline', hchecksum', -⟩ := parseSentence_eq_some hs'
  obtain ⟨newlines', hnew', heq⟩ := hline'.line
  have htrim := @rdropWhile_line (xs ++ b :: ys) _ _ (parseHexByte_eq_some hchecksum) hnew
  rw [heq, rdropWhile_line (parseHexByte_eq_some hchecksum') hnew'] at htrim
  have hlen : (Byte.asterisk :: digits').length = (Byte.asterisk :: digits).length := by
    rw [List.length_cons, List.length_cons, hline.length, hline'.length]
  obtain ⟨hpayload, hdigits⟩ := List.append_inj' htrim hlen
  cases hpayload
  cases hdigits
  rw [hchecksum] at hchecksum'
  exact computeChecksum_ne hab (Option.some.inj hchecksum')

/-- A letter of a sentence that becomes an asterisk. -/
theorem parseSentence_corrupted_asterisk :
    parseSentence ((buildSentence (ascii "FG") (ascii "GGA") []).set 3 Byte.asterisk) = none :=
  @parseSentence_corrupted _ { talker := ascii "FG", formatter := ascii "GGA" } (by decide) 6 3
    (by decide) (by decide) (by decide) Byte.asterisk (by decide)

end FalconGuide
