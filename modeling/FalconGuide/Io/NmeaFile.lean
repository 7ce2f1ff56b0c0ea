import FalconGuide.Io.CsvReader
import FalconGuide.Io.NmeaAgreement
import FalconGuide.Lib.RecordLog
import FalconGuide.Lib.TransitionSystem

namespace FalconGuide

open Lib

/-!
# NMEA files

`NmeaWriter`, with the stream that it writes to.  A stream may fail at any byte, and what it has
taken may not all reach the disk.

* `formatUtcTime`, `formatUtcDate` — the clock;
* `NmeaWrite` — a call of `WriteState`, with the times that it reads, and its three sentences;
* `sentence_code` — a sentence is told from its line, and no other one from a torn line;
* `NmeaWriter`, `NmeaRun` — the writer, and its runs;
* `nmea_reads_back` — the main result: what is read of a file is what was written.
-/

/-! ### The clock -/

/-- `std::tm`, as far as it is printed. -/
structure Tm where
  hour : ℕ := 0
  min : ℕ := 0
  sec : ℕ := 0
  mday : ℕ := 1
  mon : ℕ := 0
  /-- Since 1900. -/
  year : ℕ := 0

/-- `FormatUtcTime`. -/
def formatUtcTime (t : Tm) : List UInt8 :=
  decimal 2 t.hour ++ decimal 2 t.min ++ decimal 2 t.sec ++ ascii ".00"

/-- `FormatUtcDate`. -/
def formatUtcDate (t : Tm) : List UInt8 :=
  decimal 2 t.mday ++ decimal 2 (t.mon + 1) ++ decimal 2 (t.year % 100)

/-- A state and what the clock returned, once for the time and once for the date. -/
structure NmeaWrite where
  state : NavigationState
  time : Tm := {}
  date : Tm := {}

namespace NmeaWrite

/-- What `WriteState` writes. -/
noncomputable def text (x : NmeaWrite) : List UInt8 :=
  (writeState x.state (formatUtcTime x.time) (formatUtcDate x.date)).flatten

/-- The sentences that this text is. -/
noncomputable def sentences (x : NmeaWrite) : List NmeaSentence :=
  [ggaSentence x.state (formatUtcTime x.time),
    rmcSentence x.state (formatUtcTime x.time) (formatUtcDate x.date),
    vtgSentence x.state]

end NmeaWrite

/-! ### Lines -/

/-- A sentence up to the line feed. -/
def sentenceLine (s : NmeaSentence) : List UInt8 :=
  buildSentence s.talker s.formatter s.fields ++ [Byte.carriageReturn]

/-- The sentences of a text, which is read line by line. -/
def readSentences (text : List UInt8) : List NmeaSentence :=
  (getlines Byte.lineFeed text).filterMap parseSentence

/-- `std::getline` gives the pieces between the delimiters. -/
theorem getlines_eq_pieces (delim : UInt8) (text : List UInt8) :
    getlines delim text = pieces delim text := by
  induction text with
  | nil => rfl
  | cons c text ih =>
    rw [getlines, pieces, ih]
    cases pieces delim text <;> rfl

/-- The sentences of a file are the records of a log. -/
theorem readSentences_eq (text : List UInt8) :
    readSentences text = readLog Byte.lineFeed parseSentence text := by
  rw [readSentences, getlines_eq_pieces, readLog]

/-- A sentence that is read back, and does not end its line. -/
structure NmeaSentence.OneLine (s : NmeaSentence) : Prop where
  plain : s.IsPlain
  lineFeed : ∀ text ∈ s.talker :: s.formatter :: s.fields, Byte.lineFeed ∉ text

/-- A checksum has no line end in it. -/
theorem lineFeed_not_mem_formatChecksum (checksum : UInt8) :
    Byte.lineFeed ∉ formatChecksum checksum := by
  have hall : ∀ n : Fin 256, Byte.lineFeed ∉ formatChecksum (UInt8.ofFin n) := by
    decide +kernel
  exact hall checksum.toFin

/-- The line of a sentence ends where it ends. -/
theorem NmeaSentence.OneLine.lineFeed_not_mem {s : NmeaSentence} (h : s.OneLine) :
    Byte.lineFeed ∉ sentenceLine s := by
  obtain ⟨talker, formatter, fields⟩ := s
  obtain ⟨htalker, hrest⟩ := List.forall_mem_cons.mp h.lineFeed
  obtain ⟨hformatter, hfields⟩ := List.forall_mem_cons.mp hrest
  have hpayload : Byte.lineFeed ∉ buildPayload { talker, formatter, fields } := by
    rw [buildPayload, List.mem_append, List.mem_append, List.mem_flatMap]
    rintro ((hmem | hmem) | ⟨f, hf, hmem⟩)
    · exact htalker hmem
    · exact hformatter hmem
    · rcases List.mem_cons.mp hmem with hcomma | hmem
      · exact absurd hcomma (by decide)
      · exact hfields f hf hmem
  have hchecksum := lineFeed_not_mem_formatChecksum
    (computeChecksum (buildPayload { talker, formatter, fields }))
  simp only [sentenceLine, buildSentence, List.mem_append, List.mem_cons, not_or]
  exact ⟨⟨⟨by decide, hpayload⟩, by decide, hchecksum⟩, by decide⟩

/-- The payload of a line that goes on. -/
theorem payload_eq {t line payload payload' digits digits' : List UInt8} (ht : t <+: line)
    (h : IsLine t payload digits) (h' : IsLine line payload' digits') : payload = payload' := by
  obtain ⟨rest, hrest⟩ := ht
  obtain ⟨newlines, -, hline⟩ := h.line
  obtain ⟨newlines', -, hline'⟩ := h'.line
  -- both end at the first asterisk
  have hmem : ∀ p : List UInt8, Byte.asterisk ∉ p → Byte.asterisk ∉ Byte.dollar :: p := by
    intro p hp hmem
    rcases List.mem_cons.mp hmem with hdollar | hmem
    · exact absurd hdollar (by decide)
    · exact hp hmem
  have heq : (Byte.dollar :: payload) ++ Byte.asterisk :: (digits ++ newlines ++ rest)
      = (Byte.dollar :: payload') ++ Byte.asterisk :: (digits' ++ newlines') := by
    rw [hline, hline'] at hrest
    simpa using hrest
  have hlength : (Byte.dollar :: payload).length = (Byte.dollar :: payload').length := by
    have hfind := find_append (hmem _ h.payload) (digits ++ newlines ++ rest)
    have hfind' := find_append (hmem _ h'.payload) (digits' ++ newlines')
    rw [heq, hfind'] at hfind
    exact (Option.some.inj hfind).symm
  exact List.tail_eq_of_cons_eq (List.append_inj_left heq hlength)

/-- **Sentences and lines.** -/
theorem sentence_code :
    LineCode Byte.lineFeed sentenceLine parseSentence NmeaSentence.OneLine where
  delim_not_mem _ h := h.lineFeed_not_mem
  read_encode s h := h.plain.parseSentence_eq fun c hc => .inr (List.mem_singleton.mp hc)
  read_torn s h t ht := by
    cases hread : parseSentence t with
    | none => exact .inl rfl
    | some s' =>
      right
      have hfull : parseSentence (sentenceLine s) = some s :=
        h.plain.parseSentence_eq fun c hc => .inr (List.mem_singleton.mp hc)
      obtain ⟨payload, digits, hline, -, hpayload⟩ := parseSentence_eq_some hread
      obtain ⟨payload', digits', hline', -, hpayload'⟩ := parseSentence_eq_some hfull
      rw [payload_eq ht hline hline', hpayload'] at hpayload
      exact hpayload.symm

/-! ### What is written -/

/-- All that numbers are printed with. -/
def numberBytes : List UInt8 := ascii "0123456789-.inf"

/-- A whole number is written with these bytes. -/
theorem decimal_subset (width n : ℕ) : decimal width n ⊆ numberBytes := by
  have hall : ∀ d : Fin 10, digitByte d ∈ numberBytes := by decide
  intro c hc
  obtain ⟨d, hd, rfl⟩ := List.mem_map.mp hc
  exact hall ⟨d, decimalDigits_lt hd⟩

/-- So is a number with decimals. -/
theorem formatFixed_subset (precision : ℕ) (x : ℝ) : formatFixed precision x ⊆ numberBytes := by
  unfold formatFixed
  dsimp only
  refine List.append_subset.mpr ⟨?_, ?_⟩
  · split <;> decide
  · split
    · decide
    · exact List.append_subset.mpr ⟨decimal_subset _ _,
        List.cons_subset.mpr ⟨by decide, decimal_subset _ _⟩⟩

/-- The filling of a field is zeros. -/
theorem setWidth_subset {text : List UInt8} (h : text ⊆ numberBytes) (width : ℕ) :
    setWidth width text ⊆ numberBytes := by
  refine List.append_subset.mpr ⟨fun c hc => ?_, h⟩
  rw [List.eq_of_mem_replicate hc]
  decide

/-- An angle is written with these bytes. -/
theorem formatNmeaLatitudeLongitude_subset (radians : ℝ) (isLatitude : Bool) :
    formatNmeaLatitudeLongitude radians isLatitude ⊆ numberBytes :=
  List.append_subset.mpr ⟨setWidth_subset (decimal_subset _ _) _,
    setWidth_subset (formatFixed_subset _ _) _⟩

/-- So is the time of day. -/
theorem formatUtcTime_subset (t : Tm) : formatUtcTime t ⊆ numberBytes :=
  List.append_subset.mpr ⟨List.append_subset.mpr ⟨List.append_subset.mpr
    ⟨decimal_subset _ _, decimal_subset _ _⟩, decimal_subset _ _⟩, by decide⟩

/-- So is the date. -/
theorem formatUtcDate_subset (t : Tm) : formatUtcDate t ⊆ numberBytes :=
  List.append_subset.mpr ⟨List.append_subset.mpr ⟨decimal_subset _ _, decimal_subset _ _⟩,
    decimal_subset _ _⟩

/-- A field: neither separators nor line ends. -/
def IsField (text : List UInt8) : Prop := IsPlainText text ∧ Byte.lineFeed ∉ text

instance (text : List UInt8) : Decidable (IsField text) := inferInstanceAs (Decidable (_ ∧ _))

/-- A text of such bytes is a field. -/
theorem isField_of_subset {text : List UInt8} (h : text ⊆ numberBytes) : IsField text := by
  have hall : ∀ c ∈ numberBytes, c ≠ Byte.comma ∧ c ≠ Byte.asterisk ∧ c ≠ Byte.lineFeed := by
    decide +kernel
  exact ⟨⟨fun hmem => (hall _ (h hmem)).1 rfl, fun hmem => (hall _ (h hmem)).2.1 rfl⟩,
    fun hmem => (hall _ (h hmem)).2.2 rfl⟩

/-- The letter of a hemisphere is a field. -/
theorem isField_hemisphere (radians : ℝ) (isLatitude : Bool) :
    IsField (writtenLetter radians isLatitude) := by
  have hall : ∀ text ∈ [ascii "N", ascii "S", ascii "E", ascii "W"], IsField text := by decide
  exact hall _ (isHemisphere_writtenLetter radians isLatitude)

/-- A sentence of the writer. -/
theorem oneLine_of_fields {formatter : List UInt8} {fields : List (List UInt8)}
    (hlength : 3 ≤ formatter.length) (hformatter : IsField formatter)
    (h : ∀ f ∈ fields, IsField f) :
    NmeaSentence.OneLine { talker := ascii "FG", formatter, fields } := by
  have hall : ∀ text ∈ ascii "FG" :: formatter :: fields, IsField text :=
    List.forall_mem_cons.mpr ⟨by decide, List.forall_mem_cons.mpr ⟨hformatter, h⟩⟩
  have htalker : (ascii "FG").length = 2 := by decide
  exact ⟨⟨htalker, hlength, fun text htext => (hall text htext).1⟩,
    fun text htext => (hall text htext).2⟩

/-- A number with decimals is a field. -/
theorem isField_formatFixed (precision : ℕ) (x : ℝ) : IsField (formatFixed precision x) :=
  isField_of_subset (formatFixed_subset precision x)

/-- An angle is a field. -/
theorem isField_formatNmeaLatitudeLongitude (radians : ℝ) (isLatitude : Bool) :
    IsField (formatNmeaLatitudeLongitude radians isLatitude) :=
  isField_of_subset (formatNmeaLatitudeLongitude_subset radians isLatitude)

/-- A GGA sentence is one line. -/
theorem oneLine_ggaSentence (state : NavigationState) {utcTime : List UInt8}
    (htime : IsField utcTime) : (ggaSentence state utcTime).OneLine := by
  have hfix : IsField (formatGgaFixType state.status) := by
    unfold formatGgaFixType
    split <;> decide
  have hdop : IsField ((state.quality.horizontalAccuracyM.map (formatFixed 1)).getD []) := by
    cases state.quality.horizontalAccuracyM with
    | none => decide
    | some y => exact isField_formatFixed 1 y
  refine oneLine_of_fields (by decide) (by decide) ?_
  simp only [ggaFields, List.forall_mem_cons]
  exact ⟨htime, isField_formatNmeaLatitudeLongitude _ _, isField_hemisphere _ true,
    isField_formatNmeaLatitudeLongitude _ _, isField_hemisphere _ false, hfix, by decide, hdop,
    isField_formatFixed _ _, by decide, by decide, by decide, by decide, by decide, by simp⟩

/-- An RMC sentence is one line. -/
theorem oneLine_rmcSentence (state : NavigationState) {utcTime utcDate : List UInt8}
    (htime : IsField utcTime) (hdate : IsField utcDate) :
    (rmcSentence state utcTime utcDate).OneLine := by
  have hstatus : IsField (rmcStatusChar state.status) := by
    cases state.status <;> decide
  refine oneLine_of_fields (by decide) (by decide) ?_
  simp only [rmcFields, List.forall_mem_cons]
  exact ⟨htime, hstatus, isField_formatNmeaLatitudeLongitude _ _, isField_hemisphere _ true,
    isField_formatNmeaLatitudeLongitude _ _, isField_hemisphere _ false, isField_formatFixed _ _,
    isField_formatFixed _ _, hdate, by decide, by decide, by simp⟩

/-- A VTG sentence is one line. -/
theorem oneLine_vtgSentence (state : NavigationState) : (vtgSentence state).OneLine := by
  refine oneLine_of_fields (by decide) (by decide) ?_
  simp only [vtgFields, List.forall_mem_cons]
  refine ⟨isField_formatFixed _ _, by decide, by decide, by decide, isField_formatFixed _ _,
    by decide, isField_formatFixed _ _, by decide, ?_, by simp⟩
  split <;> decide

/-- **Every sentence** of a state is on a line of its own. -/
theorem NmeaWrite.oneLine (x : NmeaWrite) : ∀ s ∈ x.sentences, s.OneLine := by
  have htime := isField_of_subset (formatUtcTime_subset x.time)
  have hdate := isField_of_subset (formatUtcDate_subset x.date)
  intro s hs
  simp only [sentences, List.mem_cons, List.not_mem_nil, or_false] at hs
  rcases hs with rfl | rfl | rfl
  · exact oneLine_ggaSentence x.state htime
  · exact oneLine_rmcSentence x.state htime hdate
  · exact oneLine_vtgSentence x.state

/-- The text of a state is a log of its sentences. -/
theorem NmeaWrite.text_eq (x : NmeaWrite) :
    x.text = logText Byte.lineFeed sentenceLine x.sentences := by
  have hline : ∀ s : NmeaSentence, buildSentence s.talker s.formatter s.fields ++ crlf
      = sentenceLine s ++ [Byte.lineFeed] := by
    intro s
    rw [sentenceLine, List.append_assoc]
    rfl
  show (_ ++ crlf) ++ ((_ ++ crlf) ++ ((_ ++ crlf) ++ [])) = _
  rw [sentences, logText, List.flatMap_cons, List.flatMap_cons, List.flatMap_cons, ← hline,
    ← hline, ← hline]
  rfl

/-! ### The writer -/

/-- A `std::ostream`: what it has taken, and `good()`. -/
structure OStream where
  text : List UInt8 := []
  good : Bool := true

/-- `operator<<`, of which the stream takes so many bytes at most.  Behind a failure it takes
    nothing. -/
def OStream.write (stream : OStream) (bytes : List UInt8) (taken : ℕ) : OStream :=
  if stream.good then
    { text := stream.text ++ bytes.take taken, good := decide (bytes.length ≤ taken) }
  else stream

/-- `WriteResult`. -/
inductive WriteResult
  | ok
  | bufferFull
  | error
  deriving DecidableEq

/-- `NmeaWriter`. -/
structure NmeaWriter where
  /-- `file_path_` is not empty. -/
  toFile : Bool
  /-- The stream of the constructor, or the file: the last one that was opened. -/
  stream : OStream := {}
  /-- `stream_` is not null. -/
  hasStream : Bool
  isOpen : Bool := false

namespace NmeaWriter

/-- The constructor, with a stream. -/
def ofStream (good : Bool) : NmeaWriter :=
  { toFile := false, stream := { good }, hasStream := true }

/-- `ToFile`, whose path may be empty. -/
def ofFile (toFile : Bool) : NmeaWriter := { toFile, hasStream := false }

/-- `Open` empties the file. -/
def truncates (w : NmeaWriter) (opens : Bool) : Bool := !w.isOpen && w.toFile && opens

/-- `Open`; `opens` is what becomes of the `std::ofstream`. -/
def openFile (w : NmeaWriter) (opens : Bool) : NmeaWriter × Bool :=
  if w.isOpen then (w, true)
  else if w.toFile then
    if opens then ({ w with stream := {}, hasStream := true, isOpen := true }, true)
    else (w, false)
  else ({ w with isOpen := w.hasStream }, w.hasStream)

/-- `Flush`, which may fail. -/
def flush (w : NmeaWriter) (flushes : Bool) : NmeaWriter :=
  if w.hasStream then { w with stream := { w.stream with good := w.stream.good && flushes } }
  else w

/-- `Close`, which leaves a stream of the constructor as it is. -/
def close (w : NmeaWriter) (flushes : Bool) : NmeaWriter :=
  if !w.isOpen then w
  else
    let w := w.flush flushes
    { w with hasStream := w.hasStream && !w.toFile, isOpen := false }

/-- `WriteState`. -/
noncomputable def writeState (w : NmeaWriter) (x : NmeaWrite) (taken : ℕ) :
    NmeaWriter × WriteResult :=
  if !w.isOpen || !w.hasStream then (w, .error)
  else
    let stream := w.stream.write x.text taken
    ({ w with stream }, if stream.good then .ok else .error)

/-- **What `WriteState` does**: nothing, or it writes the whole text, or the beginning of it. -/
theorem writeState_cases (w : NmeaWriter) (x : NmeaWrite) (taken : ℕ) :
    w.writeState x taken = (w, .error) ∨
      (w.stream.good = true ∧ w.writeState x taken
        = ({ w with stream := { text := w.stream.text ++ x.text, good := true } }, .ok)) ∨
      (w.stream.good = true ∧ w.writeState x taken
        = ({ w with stream := { text := w.stream.text ++ x.text.take taken, good := false } },
          .error)) := by
  unfold writeState
  split
  · exact .inl rfl
  · cases hgood : w.stream.good with
    | false =>
      have hsame : w.stream.write x.text taken = w.stream := by
        rw [OStream.write, hgood]
        rfl
      left
      simp [hsame, hgood]
    | true =>
      right
      have hwrite : w.stream.write x.text taken
          = { text := w.stream.text ++ x.text.take taken,
              good := decide (x.text.length ≤ taken) } := by
        rw [OStream.write, hgood, if_pos rfl]
      rw [hwrite]
      by_cases hall : x.text.length ≤ taken
      · left
        simp [hall, List.take_of_length_le hall]
      · right
        simp [hall]

end NmeaWriter

/-! ### Runs -/

/-- A writer, and what it has written to its stream or to the file that was opened last. -/
structure NmeaRun where
  writer : NmeaWriter
  /-- The calls of `WriteState` that returned `Ok`. -/
  written : List NmeaWrite := []
  /-- The call at which the stream has failed. -/
  torn : List NmeaWrite := []

namespace NmeaRun

/-- The public calls. -/
inductive Call
  | openFile (opens : Bool)
  | close (flushes : Bool)
  | flush (flushes : Bool)
  | writeState (x : NmeaWrite) (taken : ℕ)

/-- A run after a call. -/
noncomputable def next (r : NmeaRun) : Call → NmeaRun
  | .openFile opens =>
    let writer := (r.writer.openFile opens).1
    if r.writer.truncates opens then { writer } else { r with writer }
  | .close flushes => { r with writer := r.writer.close flushes }
  | .flush flushes => { r with writer := r.writer.flush flushes }
  | .writeState x taken =>
    let (writer, result) := r.writer.writeState x taken
    if result = .ok then { r with writer, written := r.written ++ [x] }
    else if r.writer.stream.good && !writer.stream.good then { r with writer, torn := [x] }
    else { r with writer }

/-- A writer that was constructed, and its calls. -/
noncomputable def system : System NmeaRun Call where
  init r := (∃ toFile, r = { writer := .ofFile toFile }) ∨ ∃ good, r = { writer := .ofStream good }
  step r call r' := r' = r.next call

/-- A new writer with its file. -/
theorem reachable_ofFile : system.Reachable { writer := .ofFile true } := .init (.inl ⟨true, rfl⟩)

/-- Any call may follow. -/
theorem reachable_next {r : NmeaRun} (h : system.Reachable r) (call : Call) :
    system.Reachable (r.next call) :=
  h.step rfl

/-- The text of several states. -/
noncomputable def textOf (xs : List NmeaWrite) : List UInt8 := xs.flatMap NmeaWrite.text

/-- The text of several writes, in two parts. -/
theorem textOf_append (xs ys : List NmeaWrite) : textOf (xs ++ ys) = textOf xs ++ textOf ys :=
  List.flatMap_append

/-- The text of one write. -/
theorem textOf_singleton (x : NmeaWrite) : textOf [x] = x.text :=
  List.flatMap_singleton NmeaWrite.text x

/-- The stream holds what was written, and the beginning of what was not. -/
structure Logged (r : NmeaRun) : Prop where
  text : ∃ part, part <+: textOf r.torn ∧ r.writer.stream.text = textOf r.written ++ part
  good : r.writer.stream.good = true → r.torn = []

variable {r r' : NmeaRun}

/-- Nothing but the stream matters, and that may only fail. -/
theorem Logged.of_stream {writer : NmeaWriter} (h : r.Logged)
    (htext : writer.stream.text = r.writer.stream.text)
    (hgood : writer.stream.good = true → r.writer.stream.good = true) :
    Logged { r with writer } := by
  obtain ⟨part, hpart, heq⟩ := h.text
  exact ⟨⟨part, hpart, htext.trans heq⟩, fun hg => h.good (hgood hg)⟩

/-- `Flush` takes no text back. -/
theorem flush_text (w : NmeaWriter) (flushes : Bool) :
    (w.flush flushes).stream.text = w.stream.text := by
  unfold NmeaWriter.flush
  split <;> rfl

/-- `Flush` repairs no stream. -/
theorem flush_good (w : NmeaWriter) (flushes : Bool)
    (h : (w.flush flushes).stream.good = true) : w.stream.good = true := by
  unfold NmeaWriter.flush at h
  split at h
  · exact (Bool.and_eq_true_iff.mp h).1
  · exact h

/-- `Open` starts an empty log. -/
theorem Logged.openFile (h : r.Logged) (opens : Bool) : (r.next (.openFile opens)).Logged := by
  obtain ⟨⟨toFile, stream, hasStream, isOpen⟩, written, torn⟩ := r
  cases isOpen with
  | true => exact h
  | false =>
    cases toFile with
    | false => exact ⟨h.text, h.good⟩
    | true =>
      cases opens with
      | false => exact h
      | true => exact ⟨⟨[], List.nil_prefix, rfl⟩, fun _ => rfl⟩

/-- `Close` keeps it. -/
theorem Logged.close (h : r.Logged) (flushes : Bool) : (r.next (.close flushes)).Logged := by
  show Logged { r with writer := r.writer.close flushes }
  unfold NmeaWriter.close
  split
  · exact h
  · exact h.of_stream (flush_text r.writer flushes) (flush_good r.writer flushes)

/-- **One state.** It is written, or torn, or nothing is written at all. -/
theorem Logged.writeState (h : r.Logged) (x : NmeaWrite) (taken : ℕ) :
    (r.next (.writeState x taken)).Logged := by
  obtain ⟨part, hpart, htext⟩ := h.text
  have hwhole : r.torn = [] → r.writer.stream.text = textOf r.written := by
    intro hnone
    rw [hnone] at hpart
    rw [htext, List.prefix_nil.mp hpart, List.append_nil]
  rcases r.writer.writeState_cases x taken with heq | ⟨hgood, heq⟩ | ⟨hgood, heq⟩
  · have hnext : r.next (.writeState x taken) = r := by simp [next, heq]
    rw [hnext]
    exact h
  · have hnone := h.good hgood
    simp only [next, heq, if_pos]
    refine ⟨⟨[], List.nil_prefix, ?_⟩, fun _ => hnone⟩
    show r.writer.stream.text ++ x.text = textOf (r.written ++ [x]) ++ []
    rw [hwhole hnone, textOf_append, textOf_singleton, List.append_nil]
  · simp only [next, heq, hgood]
    refine ⟨⟨x.text.take taken, ?_, ?_⟩, fun hfail => absurd hfail Bool.false_ne_true⟩
    · show x.text.take taken <+: textOf [x]
      rw [textOf_singleton]
      exact List.take_prefix taken x.text
    · show r.writer.stream.text ++ x.text.take taken = textOf r.written ++ x.text.take taken
      rw [hwhole (h.good hgood)]

/-- **Every run** keeps the log. -/
theorem logged_of_reachable (h : system.Reachable r) : r.Logged := by
  refine h.invariant (I := Logged) ?_ ?_
  · rintro _ (⟨toFile, rfl⟩ | ⟨good, rfl⟩)
    · exact ⟨⟨[], List.nil_prefix, rfl⟩, fun _ => rfl⟩
    · exact ⟨⟨[], List.nil_prefix, rfl⟩, fun _ => rfl⟩
  · rintro r call _ _ hlogged rfl
    cases call with
    | openFile opens => exact hlogged.openFile opens
    | close flushes => exact hlogged.close flushes
    | flush flushes =>
      exact hlogged.of_stream (flush_text r.writer flushes) (flush_good r.writer flushes)
    | writeState x taken => exact hlogged.writeState x taken

/-! ### Main result -/

/-- The text of several states is a log. -/
theorem textOf_eq (xs : List NmeaWrite) :
    textOf xs = logText Byte.lineFeed sentenceLine (xs.flatMap NmeaWrite.sentences) := by
  induction xs with
  | nil => rfl
  | cons x xs ih =>
    rw [List.flatMap_cons, logText_append, ← ih, ← x.text_eq]
    rfl

/-- All that is written is sentences of one line. -/
theorem oneLine_of_writes (xs : List NmeaWrite) :
    ∀ s ∈ xs.flatMap NmeaWrite.sentences, s.OneLine := by
  intro s hs
  obtain ⟨x, -, hx⟩ := List.mem_flatMap.mp hs
  exact x.oneLine s hx

end NmeaRun

open NmeaRun

/-- **Read back.** In every run of a writer: however much of what the stream has taken reaches the
    disk, it is read as the first sentences of the states that were written and of the one at which
    the stream failed; the states for which `WriteState` returned `Ok` are all read of the whole
    text, and while the stream has not failed, no others. -/
theorem nmea_reads_back {r : NmeaRun} (h : system.Reachable r) :
    (∀ text, text <+: r.writer.stream.text →
        readSentences text <+: (r.written ++ r.torn).flatMap NmeaWrite.sentences) ∧
      r.written.flatMap NmeaWrite.sentences <+: readSentences r.writer.stream.text ∧
      (r.writer.stream.good = true →
        readSentences r.writer.stream.text = r.written.flatMap NmeaWrite.sentences) := by
  have hlogged := logged_of_reachable h
  obtain ⟨part, hpart, htext⟩ := hlogged.text
  have hwhole : readSentences r.writer.stream.text
      = r.written.flatMap NmeaWrite.sentences ++ readSentences part := by
    rw [htext, textOf_eq, readSentences_eq, readSentences_eq,
      sentence_code.readLog_logText_append (oneLine_of_writes r.written)]
  refine ⟨fun text hread => ?_, ?_, fun hgood => ?_⟩
  · rw [readSentences_eq]
    refine sentence_code.readLog_prefix (oneLine_of_writes (r.written ++ r.torn))
      (hread.trans ?_)
    rw [htext, ← textOf_eq, textOf_append]
    exact (List.prefix_append_right_inj _).mpr hpart
  · rw [hwhole]
    exact List.prefix_append _ _
  · rw [hlogged.good hgood] at hpart
    rw [hwhole, List.prefix_nil.mp hpart]
    exact List.append_nil _

/-- A file that is opened and written to, until the disk is full. -/
theorem nmea_reads_back_full :
    let x : NmeaWrite := { state := {} }
    let r := ((({ writer := .ofFile true } : NmeaRun).next (.openFile true)).next
      (.writeState x x.text.length)).next (.writeState x 100)
    readSentences r.writer.stream.text <+: (r.written ++ r.torn).flatMap NmeaWrite.sentences := by
  intro x r
  have h : system.Reachable r := reachable_next (reachable_next (reachable_next reachable_ofFile
    (.openFile true)) (.writeState x x.text.length)) (.writeState x 100)
  exact (nmea_reads_back h).1 r.writer.stream.text (List.prefix_refl r.writer.stream.text)

end FalconGuide
