import FalconGuide.App.WsFrames
import FalconGuide.Core.Bytes
import FalconGuide.Lib.Rounds

namespace FalconGuide

open Lib

/-!
# The byte stream of a WebSocket client

`WsServer::HandleRead` and `WsServer::DoUpgrade` over all reads of a connection.

* `handleRead`, `readAll` — one read, and all reads of a connection;
* `completed`, `arrivals` — the frames that end in the bytes of a read;
* `drainFrames_encode` — the loop over the frames of a buffer ends behind a frame that is not
  text;
* `readAll_frames` — the reads after the handshake serve the frames in rounds;
* `stream_handled_iff` — the exact condition on the reads under which all frames are handled.
-/

/-! ### Reading -/

/-- `DoUpgrade`.  The answer to the client is left out. -/
def doUpgrade (c : WsClient) : WsClient :=
  match afterFirst (ascii "Sec-WebSocket-Key: ") c.buf with
  | none => { c with dead := true }
  | some rest =>
    match afterFirst crlf rest with
    | none => { c with dead := true }
    | some _ =>
      { c with
        upgraded := true
        buf := []
        discarded := c.discarded ++ ((afterFirst (crlf ++ crlf) c.buf).getD []) }

/-- The loop over the frames of the buffer.  The payload goes to `json::parse` and the command
    handler. -/
def drainFrames (c : WsClient) : Option WsClient :=
  match _h : recvFrame c with
  | none => none
  | some (c', none) => some c'
  | some (c', some payload) => drainFrames { c' with handled := c'.handled ++ [payload] }
termination_by c.buf.length
decreasing_by exact recvFrame_shorter ‹_›

/-- `HandleRead` with the bytes that `read` returned.  A client for which it returns false is
    dead; `none` when an exception leaves the thread. -/
def handleRead (c : WsClient) (bytes : List UInt8) : Option WsClient :=
  let c := { c with buf := c.buf ++ bytes }
  if c.upgraded then drainFrames c
  else if (afterFirst (crlf ++ crlf) c.buf).isNone then some c
  else if (afterFirst (ascii "Upgrade: websocket") c.buf).isSome
      || (afterFirst (ascii "Upgrade: WebSocket") c.buf).isSome then some (doUpgrade c)
  -- the page is served, and the connection closed
  else some { c with dead := true }

/-- The reads of a connection, until the client is dead. -/
def readAll (c : WsClient) : List (List UInt8) → Option WsClient
  | [] => some c
  | bytes :: reads =>
    if c.dead then some c else (handleRead c bytes).bind fun c' => readAll c' reads

/-! ### What a client sends -/

/-- The bytes of frames. -/
def encodeAll (frames : List WsFrame) : List UInt8 := (frames.map WsFrame.encode).flatten

/-- The payloads of the text frames. -/
def textPayloads (frames : List WsFrame) : List (List UInt8) :=
  (frames.filter WsFrame.isText).map WsFrame.payload

/-- A request to upgrade the connection: headers that end in the only blank line, with a key. -/
structure Handshake (hs : List UInt8) : Prop where
  headers : afterFirst (crlf ++ crlf) hs = some []
  upgrade : (afterFirst (ascii "Upgrade: websocket") hs).isSome
    ∨ (afterFirst (ascii "Upgrade: WebSocket") hs).isSome
  key : ((afterFirst (ascii "Sec-WebSocket-Key: ") hs).bind (afterFirst crlf)).isSome

/-- Every frame was handled: the text frames went to the command handler in order, and nothing is
    lost or left waiting. -/
structure AllHandled (frames : List WsFrame) (c : WsClient) : Prop where
  handled : c.handled = textPayloads frames
  discarded : c.discarded = []
  buf : c.buf = []
  isOpen : c.upgraded = true ∧ c.dead = false

/-- The frames that are complete in the first `n` bytes, the frames after them, and the number of
    bytes of the first of those. -/
def completed : List WsFrame → ℕ → List WsFrame × List WsFrame × ℕ
  | [], n => ([], [], n)
  | f :: frames, n =>
    if f.encode.length ≤ n then
      let (new, later, part) := completed frames (n - f.encode.length)
      (f :: new, later, part)
    else ([], f :: frames, n)

/-- The frames that each read completes, when the first `part` bytes were there before. -/
def arrivals (frames : List WsFrame) (part : ℕ) : List (List UInt8) → List (List WsFrame)
  | [] => []
  | bytes :: reads =>
    let (new, later, part) := completed frames (part + bytes.length)
    new :: arrivals later part reads

/-- The loop over the frames stops behind a frame that is not text. -/
def WsFrame.stopsDrain (f : WsFrame) : Bool := !f.isText

/-! ### The frames of a buffer -/

section Frames

variable {frames later : List WsFrame} {xs : List UInt8}

@[simp] theorem encodeAll_nil : encodeAll [] = [] := rfl

@[simp] theorem encodeAll_cons (f : WsFrame) (frames : List WsFrame) :
    encodeAll (f :: frames) = f.encode ++ encodeAll frames := rfl

theorem encodeAll_append (frames later : List WsFrame) :
    encodeAll (frames ++ later) = encodeAll frames ++ encodeAll later := by
  simp [encodeAll]

/-- Every frame has bytes. -/
theorem encodeAll_eq_nil_iff : encodeAll frames = [] ↔ frames = [] := by
  cases frames with
  | nil => simp
  | cons f frames => simp [WsFrame.encode]

theorem textPayloads_append (frames later : List WsFrame) :
    textPayloads (frames ++ later) = textPayloads frames ++ textPayloads later := by
  simp [textPayloads]

theorem textPayloads_cons_of_text {f : WsFrame} (h : f.isText = true) (frames : List WsFrame) :
    textPayloads (f :: frames) = f.payload :: textPayloads frames := by
  rw [textPayloads, List.filter_cons_of_pos h, List.map_cons, textPayloads]

theorem textPayloads_cons_of_not_text {f : WsFrame} (h : ¬ f.isText = true)
    (frames : List WsFrame) : textPayloads (f :: frames) = textPayloads frames := by
  rw [textPayloads, List.filter_cons_of_neg h, textPayloads]

/-- The start of the bytes of `later`, without a complete frame. -/
structure Incomplete (xs : List UInt8) (later : List WsFrame) : Prop where
  isStart : xs <+: encodeAll later
  short : ∀ f ∈ later.head?, xs.length < f.encode.length

/-- Bytes of frames are complete frames and a part of the next one. -/
theorem completed_spec (h : xs <+: encodeAll frames) :
    frames = (completed frames xs.length).1 ++ (completed frames xs.length).2.1 ∧
      ∃ ys, xs = encodeAll (completed frames xs.length).1 ++ ys ∧
        Incomplete ys (completed frames xs.length).2.1 ∧
        ys.length = (completed frames xs.length).2.2 := by
  induction frames generalizing xs with
  | nil =>
    obtain rfl : xs = [] := List.prefix_nil.mp h
    exact ⟨rfl, [], rfl, ⟨h, by simp [completed]⟩, rfl⟩
  | cons f frames ih =>
    rw [completed]
    by_cases hle : f.encode.length ≤ xs.length
    · -- the first frame is complete
      rw [if_pos hle]
      obtain ⟨ys, rfl⟩ : f.encode <+: xs :=
        List.prefix_of_prefix_length_le (List.prefix_append _ _) h hle
      have hys : ys <+: encodeAll frames := (List.prefix_append_right_inj _).mp h
      obtain ⟨hsplit, zs, hzs, hpart, hlen⟩ := ih hys
      rw [List.length_append, Nat.add_sub_cancel_left]
      refine ⟨by rw [List.cons_append, ← hsplit], zs, ?_, hpart, hlen⟩
      rw [encodeAll_cons, List.append_assoc, ← hzs]
    -- it is the one of which a part is there
    · rw [if_neg hle]
      refine ⟨rfl, xs, rfl, ⟨h, ?_⟩, rfl⟩
      intro g hg
      cases hg
      omega

/-- A part of a frame stays in the buffer. -/
theorem recvFrame_of_incomplete (hlater : ∀ f ∈ later, f.WellFormed) (hxs : Incomplete xs later)
    (c : WsClient) : recvFrame { c with buf := xs } = some ({ c with buf := xs }, none) := by
  cases later with
  | nil =>
    obtain rfl : xs = [] := List.prefix_nil.mp hxs.isStart
    rfl
  | cons f later =>
    have hshort := hxs.short f rfl
    obtain ⟨more, hmore⟩ : xs <+: f.encode :=
      List.prefix_of_prefix_length_le hxs.isStart (List.prefix_append _ _) (Nat.le_of_lt hshort)
    apply WsFrame.recvFrame_incomplete (hlater f List.mem_cons_self) c hmore
    rintro rfl
    rw [List.append_nil] at hmore
    rw [hmore] at hshort
    exact Nat.lt_irrefl _ hshort

/-- The loop ends when `RecvFrame` returns false. -/
theorem drainFrames_of_false {c c' : WsClient} (h : recvFrame c = some (c', none)) :
    drainFrames c = some c' := by
  rw [drainFrames]
  split <;> simp_all

/-- The loop goes on when `RecvFrame` returns true. -/
theorem drainFrames_of_true {c c' : WsClient} {payload : List UInt8}
    (h : recvFrame c = some (c', some payload)) :
    drainFrames c = drainFrames { c' with handled := c'.handled ++ [payload] } := by
  rw [drainFrames]
  split <;> simp_all

/-- **The loop over the frames** handles the text frames up to a frame that is not text, and
    leaves what is behind it in the buffer. -/
theorem drainFrames_encode (hframes : ∀ f ∈ frames, f.WellFormed)
    (hlater : ∀ f ∈ later, f.WellFormed) (hxs : Incomplete xs later) (c : WsClient) :
    ∃ handled, drainFrames { c with buf := encodeAll frames ++ xs }
        = some { c with
            buf := encodeAll (afterRound WsFrame.stopsDrain frames) ++ xs
            handled := c.handled ++ handled } ∧
      handled ++ textPayloads (afterRound WsFrame.stopsDrain frames) = textPayloads frames := by
  induction frames generalizing c with
  | nil =>
    refine ⟨[], ?_, rfl⟩
    rw [List.append_nil]
    exact drainFrames_of_false (recvFrame_of_incomplete hlater hxs c)
  | cons f frames ih =>
    have hrecv := WsFrame.recvFrame_encode (hframes f List.mem_cons_self) c (encodeAll frames ++ xs)
    rw [encodeAll_cons, List.append_assoc, afterRound, WsFrame.stopsDrain]
    by_cases htext : f.isText
    · -- a text frame goes to the handler, and the loop goes on
      rw [if_pos htext] at hrecv
      obtain ⟨handled, hdrain, hpayloads⟩ := ih
        (fun g hg => hframes g (List.mem_cons_of_mem f hg))
        { c with handled := c.handled ++ [f.payload] }
      refine ⟨f.payload :: handled, ?_, ?_⟩
      · rw [drainFrames_of_true hrecv, htext]
        refine hdrain.trans ?_
        simp
      · rw [textPayloads_cons_of_text htext, List.cons_append, ← hpayloads, htext]
        rfl
    · -- any other frame ends it
      rw [if_neg htext] at hrecv
      refine ⟨[], ?_, ?_⟩
      · rw [drainFrames_of_false hrecv]
        simp [htext]
      · rw [textPayloads_cons_of_not_text htext]
        simp [htext]

/-- **The reads after the handshake** serve the frames in rounds: what a round leaves stays in the
    buffer, and all text frames in front of that went to the handler.  By induction on the reads;
    between two of them, the buffer holds frames that wait and a part of the next one. -/
theorem readAll_frames {waiting : List WsFrame} {reads : List (List UInt8)} {c : WsClient}
    (hwaiting : ∀ f ∈ waiting, f.WellFormed) (hlater : ∀ f ∈ later, f.WellFormed)
    (hxs : Incomplete xs later) (hstream : xs ++ reads.flatten = encodeAll later)
    (hopen : c.upgraded = true ∧ c.dead = false) (hbuf : c.buf = encodeAll waiting ++ xs) :
    ∃ c', readAll c reads = some c' ∧ (c'.upgraded = true ∧ c'.dead = false) ∧
      c'.discarded = c.discarded ∧
      c'.buf = encodeAll (backlog WsFrame.stopsDrain waiting (arrivals later xs.length reads)) ∧
      c'.handled
          ++ textPayloads (backlog WsFrame.stopsDrain waiting (arrivals later xs.length reads))
        = c.handled ++ textPayloads (waiting ++ later) := by
  induction reads generalizing c waiting later xs with
  | nil =>
    -- all bytes are there: no part of a frame is left
    rw [List.flatten_nil, List.append_nil] at hstream
    have hnil : later = [] := by
      cases later with
      | nil => rfl
      | cons f later =>
        have hshort := hxs.short f rfl
        rw [hstream, encodeAll_cons, List.length_append] at hshort
        omega
    subst hnil
    refine ⟨c, rfl, hopen, rfl, ?_, ?_⟩
    · rw [hbuf, hstream, encodeAll_nil, List.append_nil]
      rfl
    · rw [List.append_nil]
      rfl
  | cons bytes reads ih =>
    rw [List.flatten_cons, ← List.append_assoc] at hstream
    have hprefix : xs ++ bytes <+: encodeAll later := ⟨reads.flatten, hstream⟩
    obtain ⟨hsplit, part, hpart, hinc, hlen⟩ := completed_spec hprefix
    rw [List.length_append] at hsplit hpart hinc hlen
    rw [arrivals]
    generalize completed later (xs.length + bytes.length) = r at hsplit hpart hinc hlen
    obtain ⟨new, later', n⟩ := r
    dsimp only at hsplit hpart hinc hlen
    subst hlen hsplit
    have hnew : ∀ f ∈ waiting ++ new, f.WellFormed := by
      intro f hf
      rcases List.mem_append.mp hf with hf | hf
      · exact hwaiting f hf
      · exact hlater f (List.mem_append_left _ hf)
    have hlater' : ∀ f ∈ later', f.WellFormed := fun f hf =>
      hlater f (List.mem_append_right _ hf)
    obtain ⟨handled, hdrain, hpayloads⟩ := drainFrames_encode hnew hlater' hinc c
    have hread : handleRead c bytes = some { c with
        buf := encodeAll (afterRound WsFrame.stopsDrain (waiting ++ new)) ++ part
        handled := c.handled ++ handled } := by
      rw [← hdrain, handleRead, if_pos hopen.1, hbuf, List.append_assoc, hpart, ← List.append_assoc,
        ← encodeAll_append]
    have hstream' : part ++ reads.flatten = encodeAll later' := by
      rw [hpart, encodeAll_append, List.append_assoc] at hstream
      exact List.append_cancel_left hstream
    have hround : ∀ f ∈ afterRound WsFrame.stopsDrain (waiting ++ new), f.WellFormed :=
      fun f hf => hnew f (afterRound_subset _ hf)
    obtain ⟨c', hrun, hopen', hdiscarded, hbuf', hhandled⟩ :=
      ih (c := { c with
        buf := encodeAll (afterRound WsFrame.stopsDrain (waiting ++ new)) ++ part
        handled := c.handled ++ handled }) hround hlater' hinc hstream' hopen rfl
    refine ⟨c', ?_, hopen', hdiscarded, hbuf', ?_⟩
    · rw [readAll, hopen.2, hread]
      exact hrun
    · refine hhandled.trans ?_
      rw [textPayloads_append, ← List.append_assoc waiting, textPayloads_append (waiting ++ new),
        ← hpayloads]
      simp only [List.append_assoc]

end Frames

/-! ### The handshake -/

section Upgrade

variable {hs : List UInt8} {c c' : WsClient} {bytes : List UInt8}

/-- The blank line ends the handshake: no part of it has one. -/
theorem afterFirst_part (hhs : Handshake hs) {xs more : List UInt8} (hxs : xs ++ more = hs)
    (hmore : more ≠ []) : afterFirst (crlf ++ crlf) xs = none := by
  cases hfound : afterFirst (crlf ++ crlf) xs with
  | none => rfl
  | some rest =>
    have hall := afterFirst_append hfound more
    rw [hxs, hhs.headers, Option.some.injEq] at hall
    exact absurd (List.append_eq_nil_iff.mp hall.symm).2 hmore

/-- The server waits for the rest of a handshake. -/
theorem handleRead_part (hhs : Handshake hs) (hc : c.upgraded = false) {more : List UInt8}
    (hbuf : (c.buf ++ bytes) ++ more = hs) (hmore : more ≠ []) :
    handleRead c bytes = some { c with buf := c.buf ++ bytes } := by
  simp [handleRead, hc, afterFirst_part hhs hbuf hmore]

/-- **The upgrade** clears the buffer, whatever it holds behind the handshake. -/
theorem handleRead_handshake (hhs : Handshake hs) (hc : c.upgraded = false) {extra : List UInt8}
    (hbuf : c.buf ++ bytes = hs ++ extra) :
    handleRead c bytes = some { c with
      upgraded := true
      buf := []
      discarded := c.discarded ++ extra } := by
  -- what is found in the handshake is found in the whole buffer
  have hheaders : afterFirst (crlf ++ crlf) (hs ++ extra) = some extra :=
    afterFirst_append hhs.headers extra
  have hupgrade : (afterFirst (ascii "Upgrade: websocket") (hs ++ extra)).isSome
      || (afterFirst (ascii "Upgrade: WebSocket") (hs ++ extra)).isSome := by
    rw [Bool.or_eq_true]
    rcases hhs.upgrade with h | h
    · obtain ⟨rest, hrest⟩ := Option.isSome_iff_exists.mp h
      exact .inl (by rw [afterFirst_append hrest]; rfl)
    · obtain ⟨rest, hrest⟩ := Option.isSome_iff_exists.mp h
      exact .inr (by rw [afterFirst_append hrest]; rfl)
  obtain ⟨value, hvalue⟩ := Option.isSome_iff_exists.mp hhs.key
  obtain ⟨rest, hrest, hend⟩ := Option.bind_eq_some_iff.mp hvalue
  have hkey := afterFirst_append hrest extra
  have hline := afterFirst_append hend extra
  -- with all four found, `DoUpgrade` goes through
  rw [handleRead]
  simp only [hc, hbuf, hheaders, hupgrade, doUpgrade, hkey, hline]
  rfl

end Upgrade

/-! ### What is lost stays lost -/

section Discarded

variable {c c' : WsClient}

theorem recvFrame_discarded {payload : Option (List UInt8)}
    (h : recvFrame c = some (c', payload)) : c'.discarded = c.discarded := by
  unfold recvFrame at h
  split at h
  · cases h
    rfl
  · dsimp only at h
    split at h
    · cases h
      rfl
    · split at h
      · cases h
        rfl
      · split at h
        · cases h
        · cases h
          rfl

theorem drainFrames_discarded (h : drainFrames c = some c') : c'.discarded = c.discarded := by
  induction c using drainFrames.induct with
  | case1 c hrecv =>
    rw [drainFrames] at h
    split at h <;> simp_all
  | case2 c d hrecv =>
    rw [drainFrames_of_false hrecv] at h
    cases h
    exact recvFrame_discarded hrecv
  | case3 c d payload hrecv ih =>
    -- the loop takes off a text frame, and goes on
    rw [drainFrames_of_true hrecv] at h
    have hsame : d.discarded = c.discarded := recvFrame_discarded hrecv
    exact (ih h).trans hsame

theorem handleRead_discarded {bytes : List UInt8} (h : handleRead c bytes = some c') :
    c.discarded <+: c'.discarded := by
  unfold handleRead at h
  dsimp only at h
  split at h
  · have hsame := drainFrames_discarded h
    exact ⟨[], by rw [hsame, List.append_nil]⟩
  · split at h
    · cases h
      exact List.prefix_rfl
    · split at h
      · cases h
        unfold doUpgrade
        split
        · exact List.prefix_rfl
        · split
          · exact List.prefix_rfl
          · exact List.prefix_append _ _
      · cases h
        exact List.prefix_rfl

/-- No read gives back what the upgrade discarded. -/
theorem readAll_discarded {reads : List (List UInt8)} (h : readAll c reads = some c') :
    c.discarded <+: c'.discarded := by
  induction reads generalizing c with
  | nil =>
    cases h
    exact List.prefix_rfl
  | cons bytes reads ih =>
    rw [readAll] at h
    split at h
    · cases h
      exact List.prefix_rfl
    · obtain ⟨d, hread, hrest⟩ := Option.bind_eq_some_iff.mp h
      exact (handleRead_discarded hread).trans (ih hrest)

end Discarded

/-! ### All frames are handled -/

/-- The reads fall into those of the handshake and those of the frames, and the latter keep up
    with the frames they complete. -/
def Tidy (hs : List UInt8) (frames : List WsFrame) (reads : List (List UInt8)) : Prop :=
  ∃ pre post, reads = pre ++ post ∧ pre.flatten = hs ∧
    KeepsUp WsFrame.stopsDrain (arrivals frames 0 post)

/-- **After the handshake**, all frames are handled exactly when the reads keep up. -/
theorem allHandled_iff_keepsUp {frames : List WsFrame} (hframes : ∀ f ∈ frames, f.WellFormed)
    {c : WsClient} (hopen : c.upgraded = true ∧ c.dead = false) (hbuf : c.buf = [])
    (hhandled : c.handled = []) (hdiscarded : c.discarded = []) {reads : List (List UInt8)}
    (hstream : reads.flatten = encodeAll frames) :
    (∃ c', readAll c reads = some c' ∧ AllHandled frames c')
      ↔ KeepsUp WsFrame.stopsDrain (arrivals frames 0 reads) := by
  -- nothing is in the buffer when the reads start
  have hbuf₀ : c.buf = encodeAll [] ++ [] := hbuf
  obtain ⟨c', hrun, hopen', hdiscarded', hbuf', hhandled'⟩ :=
    readAll_frames (by simp) hframes ⟨List.nil_prefix, by simp [WsFrame.encode]⟩ hstream hopen
      hbuf₀
  -- all were handled in time exactly if none waits at the end
  have hkeeps : backlog WsFrame.stopsDrain [] (arrivals frames 0 reads) = []
      ↔ KeepsUp WsFrame.stopsDrain (arrivals frames 0 reads) := by
    cases reads with
    | nil => exact iff_of_true rfl trivial
    | cons bytes reads => exact backlog_eq_nil_iff [] _ _
  rw [← hkeeps]
  constructor
  · rintro ⟨d, hd, hall⟩
    rw [hrun] at hd
    cases hd
    rw [← encodeAll_eq_nil_iff, ← hall.buf, hbuf']
    rfl
  · intro hnil
    rw [List.length_nil, hnil] at hbuf' hhandled'
    refine ⟨c', hrun, ?_, ?_, hbuf', hopen'⟩
    · rw [hhandled, List.nil_append, List.nil_append] at hhandled'
      rw [← hhandled']
      exact (List.append_nil _).symm
    · rw [hdiscarded', hdiscarded]

/-- A read that does not come behind the handshake is one of those of the handshake. -/
theorem exists_split_cons {buf bytes hs : List UInt8} (hne : buf ≠ hs)
    {reads : List (List UInt8)} {P : List (List UInt8) → Prop} :
    (∃ pre post, bytes :: reads = pre ++ post ∧ buf ++ pre.flatten = hs ∧ P post) ↔
      ∃ pre post, reads = pre ++ post ∧ (buf ++ bytes) ++ pre.flatten = hs ∧ P post := by
  constructor
  · rintro ⟨pre, post, hsplit, hpre, hpost⟩
    cases pre with
    | nil =>
      rw [List.flatten_nil, List.append_nil] at hpre
      exact absurd hpre hne
    | cons b pre =>
      rw [List.cons_append] at hsplit
      cases hsplit
      exact ⟨pre, post, rfl, by rw [← hpre, List.flatten_cons, List.append_assoc], hpost⟩
  · rintro ⟨pre, post, rfl, hpre, hpost⟩
    exact ⟨bytes :: pre, post, rfl, by rw [← hpre, List.flatten_cons, List.append_assoc], hpost⟩

/-- The same with a part of the handshake in the buffer.  By induction on the reads, up to the one
    that completes the handshake. -/
theorem allHandled_iff_of_part {hs : List UInt8} (hhs : Handshake hs) {frames : List WsFrame}
    (hframes : ∀ f ∈ frames, f.WellFormed) {c : WsClient} {reads : List (List UInt8)}
    (hreads : ∀ bytes ∈ reads, bytes ≠ [])
    (hopen : c.upgraded = false ∧ c.dead = false) (hhandled : c.handled = [])
    (hdiscarded : c.discarded = []) (hpart : c.buf.length < hs.length)
    (hstream : c.buf ++ reads.flatten = hs ++ encodeAll frames) :
    (∃ c', readAll c reads = some c' ∧ AllHandled frames c') ↔
      ∃ pre post, reads = pre ++ post ∧ c.buf ++ pre.flatten = hs ∧
        KeepsUp WsFrame.stopsDrain (arrivals frames 0 post) := by
  induction reads generalizing c with
  | nil =>
    have hlen := congrArg List.length hstream
    simp only [List.flatten_nil, List.append_nil, List.length_append] at hlen
    omega
  | cons bytes reads ih =>
    have hbytes : bytes ≠ [] := hreads bytes List.mem_cons_self
    have hrest : ∀ bytes ∈ reads, bytes ≠ [] := fun b hb => hreads b (List.mem_cons_of_mem _ hb)
    rw [List.flatten_cons, ← List.append_assoc] at hstream
    have hne : c.buf ≠ hs := by
      intro heq
      rw [heq] at hpart
      exact Nat.lt_irrefl _ hpart
    rw [exists_split_cons hne, readAll, hopen.2]
    by_cases hshort : (c.buf ++ bytes).length < hs.length
    · -- the handshake is not complete
      obtain ⟨more, hmore⟩ : c.buf ++ bytes <+: hs :=
        List.prefix_of_prefix_length_le ⟨_, hstream⟩ (List.prefix_append _ _)
          (Nat.le_of_lt hshort)
      have hmore' : more ≠ [] := by
        rintro rfl
        rw [List.append_nil] at hmore
        rw [hmore] at hshort
        exact Nat.lt_irrefl _ hshort
      rw [handleRead_part hhs hopen.1 hmore hmore']
      exact ih (c := { c with buf := c.buf ++ bytes }) hrest hopen hhandled hdiscarded hshort
        hstream
    · -- this read completes it
      obtain ⟨extra, hextra⟩ : hs <+: c.buf ++ bytes :=
        List.prefix_of_prefix_length_le (List.prefix_append _ _) ⟨_, hstream⟩
          (Nat.le_of_not_lt hshort)
      rw [handleRead_handshake hhs hopen.1 hextra.symm]
      show (∃ c', readAll _ reads = some c' ∧ _) ↔ _
      by_cases hnone : extra = []
      · subst hnone
        rw [← hextra, List.append_assoc] at hstream
        have hkept : c.discarded ++ [] = [] := by
          rw [hdiscarded, List.append_nil]
        refine (allHandled_iff_keepsUp (c := { c with
          upgraded := true
          buf := []
          discarded := c.discarded ++ [] }) hframes ⟨rfl, hopen.2⟩ rfl hhandled hkept
          (List.append_cancel_left hstream)).trans ?_
        rw [List.append_nil] at hextra
        constructor
        · intro hkeeps
          exact ⟨[], reads, rfl, by rw [← hextra]; exact List.append_nil _, hkeeps⟩
        · rintro ⟨pre, post, rfl, hpre, hkeeps⟩
          -- no read is empty: `pre` is
          rw [← hextra, List.append_right_eq_self, List.flatten_eq_nil_iff] at hpre
          cases pre with
          | nil => exact hkeeps
          | cons b pre =>
            exact absurd (hpre b List.mem_cons_self) (hrest b List.mem_cons_self)
      · -- bytes behind the handshake are discarded
        apply iff_of_false
        · rintro ⟨c', hrun, hall⟩
          have hlost := readAll_discarded hrun
          rw [hall.discarded, List.prefix_nil] at hlost
          exact hnone (List.append_eq_nil_iff.mp hlost).2
        · rintro ⟨pre, post, -, hpre, -⟩
          have hpos := List.length_pos_iff.mpr hnone
          have hlen := congrArg List.length hpre
          rw [← hextra] at hlen
          simp only [List.length_append] at hlen
          omega

/-- **When the stream is handled.** All frames of a stream are handled, and the text frames passed
    on in order, exactly when a read ends with the handshake, and from every later read on, the
    frames that are not text and have another frame behind them are no more than the reads that
    follow. -/
theorem stream_handled_iff {hs : List UInt8} (hhs : Handshake hs) {frames : List WsFrame}
    (hframes : ∀ f ∈ frames, f.WellFormed) {reads : List (List UInt8)}
    (hreads : ∀ bytes ∈ reads, bytes ≠ [])
    (hstream : reads.flatten = hs ++ encodeAll frames) :
    (∃ c, readAll {} reads = some c ∧ AllHandled frames c) ↔ Tidy hs frames reads := by
  apply allHandled_iff_of_part hhs hframes hreads ⟨rfl, rfl⟩ rfl rfl
  · -- a handshake is not empty
    have hle := length_afterFirst hhs.headers
    show 0 < hs.length
    have hfour : (crlf ++ crlf).length = 4 := rfl
    omega
  · exact hstream

/-! ### A frame left waiting -/

/-- A handshake, as a browser sends it. -/
def exampleHandshake : List UInt8 :=
  ascii "GET / HTTP/1.1\r\nUpgrade: websocket\r\nSec-WebSocket-Key: dGhlIA==\r\n\r\n"

/-- A ping, and a command. -/
def examplePing : WsFrame := { head := 0x89, mask := some fun i => i.val.toUInt8, payload := [] }

@[inherit_doc examplePing]
def exampleText : WsFrame :=
  { head := 0x81, mask := some fun i => i.val.toUInt8, payload := ascii "\x7b\x7d" }

theorem exampleHandshake_handshake : Handshake exampleHandshake where
  headers := by decide
  upgrade := by decide
  key := by decide

theorem example_wellFormed : ∀ f ∈ [examplePing, exampleText], f.WellFormed := by
  intro f hf
  simp only [List.mem_cons, List.not_mem_nil, or_false] at hf
  rcases hf with rfl | rfl
  · exact ⟨by decide, by decide⟩
  · exact ⟨by decide, by decide⟩

/-- The condition at a handshake, a ping and a command in a read each. -/
theorem stream_handled_iff_three :
    (∃ c, readAll {} [exampleHandshake, examplePing.encode, exampleText.encode] = some c ∧
        AllHandled [examplePing, exampleText] c) ↔
      Tidy exampleHandshake [examplePing, exampleText]
        [exampleHandshake, examplePing.encode, exampleText.encode] :=
  stream_handled_iff exampleHandshake_handshake example_wellFormed (by decide) (by decide)

/-- **A frame left waiting.** A ping and a command that arrive in one read: the ping ends the loop
    over the frames, and the command stays in the buffer. -/
theorem stream_depends_on_reads :
    ¬ ∀ (hs : List UInt8) (frames : List WsFrame) (reads : List (List UInt8)), Handshake hs →
      (∀ f ∈ frames, f.WellFormed) → (∀ bytes ∈ reads, bytes ≠ []) →
      reads.flatten = hs ++ encodeAll frames →
      ∃ c, readAll {} reads = some c ∧ AllHandled frames c := by
  intro h
  obtain ⟨c, hrun, hall⟩ := h exampleHandshake [examplePing, exampleText]
    [exampleHandshake, examplePing.encode ++ exampleText.encode] exampleHandshake_handshake
    example_wellFormed (by decide) (by decide)
  have hbytes : ({} : WsClient).buf ++ exampleHandshake = exampleHandshake ++ [] := by decide
  have hread := handleRead_handshake exampleHandshake_handshake rfl hbytes
  have hframes : [] ++ [examplePing.encode ++ exampleText.encode].flatten
      = encodeAll [examplePing, exampleText] := by decide
  have hbuf₀ : ({ upgraded := true } : WsClient).buf = encodeAll [] ++ [] := rfl
  obtain ⟨c', hrun', -, -, hbuf, -⟩ := readAll_frames (by simp) example_wellFormed
    ⟨List.nil_prefix, by simp [WsFrame.encode]⟩ hframes ⟨rfl, rfl⟩ hbuf₀
  have hstart :
      readAll {} [exampleHandshake, examplePing.encode ++ exampleText.encode] = some c' := by
    rw [readAll, hread]
    exact hrun'
  rw [hrun] at hstart
  cases hstart
  -- the buffer holds the command
  have hwaiting := encodeAll_eq_nil_iff.mp (hbuf.symm.trans hall.buf)
  exact absurd hwaiting (by decide)

end FalconGuide
