import FalconGuide.App.NavStateJson
import FalconGuide.App.Session
import Mathlib.Data.List.DropRight

namespace FalconGuide

open Lib

/-!
# The user interface's view of a session

`UiApp::OnMessage`, for the messages of the server and for any other.  What it throws is caught in
the receive loop, which goes on with the next message.

* `UiApp`, `UiApp.onMessage` — the live state, and what a message does to it;
* `UiApp.length_run` — there are never too many samples, whatever the messages are;
* `UiApp.onMessage_of_null` — a state with a number that is not finite throws;
* `ServerEvent` — the events of a `WsServer`, with finite numbers; `ensures_handleWsCommand` — its
  handler replies with no others;
* `UiApp.onMessage_event` — what each of them does;
* `UiApp.Shows` — the live state after some calls, by the events that they bring;
* `ui_shows` — the main result: the last of what a session sends is shown.
-/

/-! ### Conversions -/

namespace Json

/-- Conversion to `int64_t`, modulo 2^64. -/
def toInt64 (j : Json) : Except String ℤ := (j.toInteger).map (Int.bmod · 18446744073709551616)

/-- Conversion to `uint64_t`. -/
def toUInt64 (j : Json) : Except String UInt64 := (j.toInteger).map (UInt64.ofInt ·)

end Json

/-! ### The live state -/

/-- `NavSample`. -/
structure NavSample where
  tS : ℚ := 0
  latDeg : ℚ := 0
  lonDeg : ℚ := 0
  altM : ℚ := 0
  velE : ℚ := 0
  velN : ℚ := 0
  velU : ℚ := 0
  rollDeg : ℚ := 0
  pitchDeg : ℚ := 0
  yawDeg : ℚ := 0
  posStdH : ℚ := 0
  posStdV : ℚ := 0

/-- The members of `UiApp` that `mu_` guards; `StopSession` sets all of them but the schema back. -/
structure UiApp where
  status : String := "idle"
  measRead : UInt64 := 0
  schemaReceived : Bool := false
  schema : Json := .null
  samples : List NavSample := []
  /-- The time of the first sample, negative before there is one. -/
  t0 : ℚ := -1

/-- How `OnMessage` ends early. -/
inductive UiFault
  | thrown (what : String)
  /-- An element behind the end of an array. -/
  | undefined

namespace UiApp

/-- `kMaxSamples`. -/
def maxSamples : ℕ := 3000

/-- `value` with a `double` default. -/
def readField (msg : Json) (key : String) : Except UiFault ℚ :=
  (msg.valueDouble key 0).mapError .thrown

/-- `msg["vel_enu_mps"][i].get<double>()`. -/
def readElement (elems : List Json) (i : ℕ) : Except UiFault ℚ :=
  match elems[i]? with
  | none => .error .undefined
  | some elem => elem.toDouble.mapError .thrown

/-- The velocity, if it is an array. -/
def readVelocity (msg : Json) : Except UiFault (ℚ × ℚ × ℚ) :=
  match msg.find? "vel_enu_mps" with
  | some (.arr elems) => do
    let velE ← readElement elems 0
    let velN ← readElement elems 1
    let velU ← readElement elems 2
    return (velE, velN, velU)
  | _ => return (0, 0, 0)

/-- The sample of a `nav_state` event, with the time of the event. -/
def readSample (msg : Json) : Except UiFault NavSample := do
  let latDeg ← readField msg "lat_deg"
  let lonDeg ← readField msg "lon_deg"
  let altM ← readField msg "alt_m"
  let posStdH ← readField msg "pos_std_h_m"
  let posStdV ← readField msg "pos_std_v_m"
  let rollDeg ← readField msg "roll_deg"
  let pitchDeg ← readField msg "pitch_deg"
  let yawDeg ← readField msg "yaw_deg"
  let (velE, velN, velU) ← readVelocity msg
  let ns ← (msg.value Json.toInt64 "timestamp_ns" 0).mapError .thrown
  return {
    tS := ns * 1e-9, latDeg, lonDeg, altM, velE, velN, velU, rollDeg, pitchDeg, yawDeg, posStdH,
    posStdV }

/-- A sample with the time since `t0`. -/
def since (t0 : ℚ) (sample : NavSample) : NavSample := { sample with tS := sample.tS - t0 }

/-- `pop_front`, of more samples than the limit. -/
def trim (samples : List NavSample) : List NavSample :=
  if maxSamples < samples.length then samples.tail else samples

/-- What a sample does to `t0_` and `samples_`. -/
def push (s : UiApp) (sample : NavSample) : UiApp :=
  let t0 := if s.t0 < 0 then sample.tS else s.t0
  { s with t0, samples := trim (s.samples ++ [since t0 sample]) }

/-- `OnMessage`; what is written before a fault stays. -/
def onMessage (s : UiApp) (msg : Json) : UiApp × Except UiFault Unit :=
  match msg.valueString "event" "" with
  | .error what => (s, .error (.thrown what))
  | .ok ev =>
    if ev = "nav_state" then
      match readSample msg with
      | .error fault => (s, .error fault)
      | .ok sample => (s.push sample, .ok ())
    else if ev = "status" then
      match msg.valueString "status" s.status with
      | .error what => (s, .error (.thrown what))
      | .ok status =>
        match msg.value Json.toUInt64 "measurements_read" s.measRead with
        | .error what => ({ s with status }, .error (.thrown what))
        | .ok measRead => ({ s with status, measRead }, .ok ())
    else if ev = "schema" then
      match msg.value .ok "schema" .null with
      | .error what => (s, .error (.thrown what))
      | .ok schema => ({ s with schema, schemaReceived := true }, .ok ())
    else if ev = "error" then
      match msg.valueString "message" "" with
      | .error what => (s, .error (.thrown what))
      | .ok message => ({ s with status := "error: " ++ message }, .ok ())
    else (s, .ok ())

/-- One message in the receive loop, `none` when its effect is undefined. -/
def receive (s : UiApp) (msg : Json) : Option UiApp :=
  match s.onMessage msg with
  | (_, .error .undefined) => none
  | (s, _) => some s

/-- `StopSession`. -/
def stopSession (s : UiApp) : UiApp :=
  { s with samples := [], t0 := -1, status := "idle", measRead := 0 }

end UiApp

/-- What the user interface is told, in the order in which it is. -/
inductive UiCall (α : Type)
  | message (msg : α)
  | stopSession

namespace UiCall

variable {α : Type}

/-- The message of a call. -/
def message? : UiCall α → Option α
  | message msg => some msg
  | stopSession => none

/-- The same call with another message. -/
def map {β : Type} (f : α → β) : UiCall α → UiCall β
  | message msg => message (f msg)
  | stopSession => stopSession

end UiCall

namespace UiApp

/-- One call, `none` when its effect is undefined. -/
def call (s : UiApp) : UiCall Json → Option UiApp
  | .message msg => s.receive msg
  | .stopSession => some s.stopSession

/-- Several calls. -/
def run (s : UiApp) (calls : List (UiCall Json)) : Option UiApp := calls.foldlM call s

/-- One call, `none` also when `OnMessage` throws. -/
def readCall (s : UiApp) : UiCall Json → Option UiApp
  | .message msg =>
    match s.onMessage msg with
    | (s, .ok ()) => some s
    | _ => none
  | .stopSession => some s.stopSession

/-- Several calls, of which none throws. -/
def readAll (s : UiApp) (calls : List (UiCall Json)) : Option UiApp := calls.foldlM readCall s

theorem call_of_readCall {s s' : UiApp} {c : UiCall Json} (h : s.readCall c = some s') :
    s.call c = some s' := by
  cases c with
  | stopSession => exact h
  | message msg =>
    rw [readCall] at h
    split at h
    · rename_i heq
      rw [call, receive, heq]
      exact h
    · cases h

theorem run_of_readAll {s s' : UiApp} {calls : List (UiCall Json)}
    (h : s.readAll calls = some s') : s.run calls = some s' := by
  induction calls generalizing s with
  | nil => exact h
  | cons c calls ih =>
    rw [readAll, List.foldlM_cons] at h
    obtain ⟨t, hcall, hrest⟩ := Option.bind_eq_some_iff.mp h
    rw [run, List.foldlM_cons, call_of_readCall hcall]
    exact ih hrest

end UiApp

/-! ### Any messages -/

namespace UiApp

theorem length_trim {samples : List NavSample} (h : samples.length ≤ maxSamples + 1) :
    (trim samples).length ≤ maxSamples := by
  unfold trim
  split
  · rw [List.length_tail]
    omega
  · omega

theorem length_push (s : UiApp) (sample : NavSample) (h : s.samples.length ≤ maxSamples) :
    (s.push sample).samples.length ≤ maxSamples := by
  refine length_trim ?_
  rw [List.length_append, List.length_singleton]
  omega

/-- Only a `nav_state` event that is read changes the samples. -/
theorem onMessage_samples (s : UiApp) (msg : Json) :
    (s.onMessage msg).1.samples = s.samples ∨
      ∃ sample, readSample msg = .ok sample ∧ (s.onMessage msg).1 = s.push sample := by
  unfold onMessage
  split
  · exact .inl rfl
  · split
    · cases hread : readSample msg with
      | error fault => exact .inl rfl
      | ok sample => exact .inr ⟨sample, rfl, rfl⟩
    · left
      split
      · split
        · rfl
        · split
          · rfl
          · rfl
      · split
        · split
          · rfl
          · rfl
        · split
          · split
            · rfl
            · rfl
          · rfl

theorem length_call {s s' : UiApp} {c : UiCall Json} (h : s.samples.length ≤ maxSamples)
    (hcall : s.call c = some s') : s'.samples.length ≤ maxSamples := by
  cases c with
  | stopSession =>
    obtain rfl := Option.some.inj hcall
    exact Nat.zero_le _
  | message msg =>
    have hstate : s' = (s.onMessage msg).1 := by
      rw [call, receive] at hcall
      split at hcall
      · cases hcall
      · rename_i heq
        rw [heq]
        exact (Option.some.inj hcall).symm
    rw [hstate]
    rcases onMessage_samples s msg with hkeep | ⟨sample, -, hpush⟩
    · rw [hkeep]
      exact h
    · rw [hpush]
      exact length_push s sample h

/-- **Any messages**, also malformed ones: there are never more samples than the limit. -/
theorem length_run {s s' : UiApp} {calls : List (UiCall Json)}
    (h : s.samples.length ≤ maxSamples) (hrun : s.run calls = some s') :
    s'.samples.length ≤ maxSamples := by
  induction calls generalizing s with
  | nil =>
    cases hrun
    exact h
  | cons c calls ih =>
    rw [run, List.foldlM_cons] at hrun
    obtain ⟨s₁, hcall, hrest⟩ := Option.bind_eq_some_iff.mp hrun
    exact ih (length_call h hcall) hrest

end UiApp

/-! ### Numbers that are not finite -/

namespace UiApp

/-- The numbers of a `nav_state` event outside of the velocity. -/
def numberKeys : List String :=
  ["lat_deg", "lon_deg", "alt_m", "pos_std_h_m", "pos_std_v_m", "roll_deg", "pitch_deg", "yaw_deg"]

/-- An exception, and not a read behind an array. -/
def Throws {α : Type} (m : Except UiFault α) : Prop := ∃ what, m = .error (.thrown what)

theorem Throws.bind {α β : Type} {m : Except UiFault α} (h : Throws m) (f : α → Except UiFault β) :
    Throws (m >>= f) := by
  obtain ⟨what, rfl⟩ := h
  exact ⟨what, rfl⟩

/-- A field is read, or an exception is thrown. -/
theorem throws_bind_readField {β : Type} {msg : Json} {key : String} {f : ℚ → Except UiFault β}
    (h : ∀ x, Throws (f x)) : Throws (readField msg key >>= f) := by
  rw [readField]
  cases msg.valueDouble key 0 with
  | error what => exact ⟨what, rfl⟩
  | ok x => exact h x

/-- `null` is no number. -/
theorem throws_readField {msg : Json} {key : String} (h : msg.find? key = some .null) :
    Throws (readField msg key) := by
  cases msg with
  | obj fields =>
    have hlookup : fields.lookup key = some .null := h
    rw [readField, Json.valueDouble, Json.value, hlookup]
    exact ⟨_, rfl⟩
  | null => cases h
  | bool b => cases h
  | int n => cases h
  | num x => cases h
  | str s => cases h
  | arr elems => cases h

/-- **A state with a number that is not finite**, which is sent as `null`, is not shown: `OnMessage`
    throws, and leaves everything as it was. -/
theorem onMessage_of_null {msg : Json} {key : String} (s : UiApp)
    (hevent : msg.valueString "event" "" = .ok "nav_state") (hkey : key ∈ numberKeys)
    (hnull : msg.find? key = some .null) :
    ∃ what, s.onMessage msg = (s, .error (.thrown what)) := by
  have hthrows : Throws (readSample msg) := by
    have hfield := throws_readField hnull
    unfold readSample
    -- up to the field in question, the other ones are read or throw themselves
    simp only [numberKeys, List.mem_cons, List.not_mem_nil, or_false] at hkey
    rcases hkey with rfl | rfl | rfl | rfl | rfl | rfl | rfl | rfl
    all_goals
      repeat first | exact hfield.bind _ | refine throws_bind_readField fun _ => ?_
  obtain ⟨what, hwhat⟩ := hthrows
  refine ⟨what, ?_⟩
  rw [onMessage, hevent]
  simp only [if_pos, hwhat]

end UiApp

/-! ### The events of the server -/

/-- The events that a `WsServer` sends. -/
inductive ServerEvent
  | navState (state : NavigationState)
  | status (status : String) (measurementsRead : ℕ)
  | configured
  | error (message : String)
  | schema (schema : Json)
  | ack (verb : String)

namespace ServerEvent

/-- An event as it is sent. -/
noncomputable def json (round : ℝ → ℚ) : ServerEvent → Json
  | .navState state => navStateJson round state
  | .status text n => Session.statusEvent text n
  | .configured => Session.configuredReply
  | .error message => Session.errorEvent message
  | .schema j => Session.schemaEvent j
  | .ack verb => Session.ackReply verb

/-- The time of a state is an `int64_t`. -/
def InRange : ServerEvent → Prop
  | .navState state =>
    -9223372036854775808 ≤ navTimestampNs state.timestamp ∧
      navTimestampNs state.timestamp < 9223372036854775808
  | _ => True

/-- The sample of a navigation state, with the time of the state. -/
noncomputable def sample (round : ℝ → ℚ) : ServerEvent → Option NavSample
  | .navState state =>
    some {
      tS := navTimestampNs state.timestamp * 1e-9
      latDeg := round ((ecefToLla state.positionEcefM).latitudeRad * r2d)
      lonDeg := round ((ecefToLla state.positionEcefM).longitudeRad * r2d)
      altM := round (ecefToLla state.positionEcefM).altitudeM
      velE := round (state.velocityEnuMps 0)
      velN := round (state.velocityEnuMps 1)
      velU := round (state.velocityEnuMps 2)
      rollDeg := round (navRollDeg state.orientationBodyToEnu)
      pitchDeg := round (navPitchDeg state.orientationBodyToEnu)
      yawDeg := round (navYawDeg state.orientationBodyToEnu)
      posStdH := round √(max 0 ((state.covariance 0 0 + state.covariance 1 1) * 0.5))
      posStdV := round √(max 0 (state.covariance 2 2)) }
  | _ => none

/-- What an event sets the status to. -/
def statusText : ServerEvent → Option String
  | .status text _ => some text
  | .configured => some "configured"
  | .error message => some ("error: " ++ message)
  | _ => none

/-- What an event sets the number of measurements to. -/
def count : ServerEvent → Option UInt64
  | .status _ n => some (UInt64.ofNat n)
  | _ => none

/-- What an event sets the schema to. -/
def schemaOf : ServerEvent → Option Json
  | .schema j => some j
  | _ => none

end ServerEvent

/-! ### The effect of an event -/

namespace UiApp

variable (round : ℝ → ℚ)

/-- **What is read** from the event of a state is its sample. -/
theorem readSample_navStateJson (state : NavigationState)
    (h : (ServerEvent.navState state).InRange) :
    ∃ sample, (ServerEvent.navState state).sample round = some sample ∧
      readSample (navStateJson round state) = .ok sample := by
  refine ⟨_, rfl, ?_⟩
  have htime : Json.toInt64 (.int (navTimestampNs state.timestamp)) =
      .ok (navTimestampNs state.timestamp) := by
    rw [Json.toInt64, Json.toInteger, Except.map]
    obtain ⟨hlower, hupper⟩ := h
    congr 1
    rw [Int.bmod_eq_of_le (by omega) (by omega)]
  simp [navStateJson, readSample, readField, readVelocity, readElement, Json.valueDouble,
    Json.value, Json.find?, Json.toDouble, Except.mapError, htime, List.lookup_cons, bind,
    Except.bind, pure, Except.pure]

/-- The state that an event leaves. -/
noncomputable def after (s : UiApp) (ev : ServerEvent) : UiApp :=
  let s' := match ev.sample round with
    | none => s
    | some sample => s.push sample
  { s' with
    status := ev.statusText.getD s.status
    measRead := ev.count.getD s.measRead
    schemaReceived := s.schemaReceived || ev.schemaOf.isSome
    schema := ev.schemaOf.getD s.schema }

theorem onMessage_event (s : UiApp) (ev : ServerEvent) (h : ev.InRange) :
    s.onMessage (ev.json round) = (s.after round ev, .ok ()) := by
  cases ev with
  | navState state =>
    obtain ⟨sample, hsample, hread⟩ := readSample_navStateJson round state h
    have hevent : (navStateJson round state).valueString "event" "" = .ok "nav_state" := by
      simp [navStateJson, Json.valueString, Json.value, Json.toStr]
    rw [ServerEvent.json, onMessage, hevent]
    dsimp only
    rw [if_pos rfl, hread, after, hsample]
    simp [ServerEvent.statusText, ServerEvent.count, ServerEvent.schemaOf, push]
  | status text n =>
    have hcount : Json.toUInt64 (.int n) = .ok (UInt64.ofNat n) := by
      have hmod : ((n : ℤ) % 2 ^ 64).toNat = n % 2 ^ 64 := by omega
      rw [Json.toUInt64, Json.toInteger, Except.map, UInt64.ofInt, hmod, UInt64.ofNat_mod_size]
    simp [ServerEvent.json, Session.statusEvent, onMessage, Json.valueString, Json.value,
      Json.toStr, List.lookup_cons, hcount, after, ServerEvent.sample, ServerEvent.statusText,
      ServerEvent.count, ServerEvent.schemaOf]
  | configured | error _ | schema _ | ack _ =>
    simp [ServerEvent.json, Session.configuredReply, Session.errorEvent, Session.schemaEvent,
      Session.ackReply, onMessage, Json.valueString, Json.value, Json.toStr, List.lookup_cons,
      after, ServerEvent.sample, ServerEvent.statusText, ServerEvent.count, ServerEvent.schemaOf]

end UiApp

/-! ### What is shown -/

namespace UiCall

variable {α : Type}

/-- The messages of some calls. -/
def messages (calls : List (UiCall α)) : List α := calls.filterMap message?

/-- The messages since the session was last stopped. -/
def sinceStop (calls : List (UiCall α)) : List α :=
  messages (calls.rtakeWhile fun call => call.message?.isSome)

theorem messages_message (calls : List (UiCall α)) (msg : α) :
    messages (calls ++ [message msg]) = messages calls ++ [msg] := by
  rw [messages, List.filterMap_append]
  rfl

theorem messages_stopSession (calls : List (UiCall α)) :
    messages (calls ++ [stopSession]) = messages calls := by
  rw [messages, List.filterMap_append]
  exact List.append_nil _

theorem sinceStop_message (calls : List (UiCall α)) (msg : α) :
    sinceStop (calls ++ [message msg]) = sinceStop calls ++ [msg] := by
  rw [sinceStop, List.rtakeWhile_concat_pos _ _ _ rfl, messages_message]
  rfl

theorem sinceStop_stopSession (calls : List (UiCall α)) :
    sinceStop (calls ++ [stopSession]) = [] := by
  rw [sinceStop, List.rtakeWhile_concat_neg _ _ _ (by simp [message?])]
  rfl

end UiCall

/-- The first time that is not negative. -/
def timeOrigin (samples : List NavSample) : Option ℚ :=
  (samples.find? fun sample => 0 ≤ sample.tS).map (·.tS)

/-- The samples with the time since that, and with a time of zero before it. -/
def sinceOrigin : List NavSample → List NavSample
  | [] => []
  | sample :: rest =>
    if 0 ≤ sample.tS then (sample :: rest).map (UiApp.since sample.tS)
    else { sample with tS := 0 } :: sinceOrigin rest

theorem sinceOrigin_concat (samples : List NavSample) (sample : NavSample) :
    sinceOrigin (samples ++ [sample]) =
      sinceOrigin samples ++ [UiApp.since ((timeOrigin samples).getD sample.tS) sample] := by
  induction samples with
  | nil =>
    simp [sinceOrigin, timeOrigin, UiApp.since]
  | cons first rest ih =>
    by_cases hfirst : 0 ≤ first.tS
    · simp [sinceOrigin, timeOrigin, hfirst]
    · have horigin : timeOrigin (first :: rest) = timeOrigin rest := by
        simp [timeOrigin, hfirst]
      rw [List.cons_append, sinceOrigin, if_neg hfirst, ih, sinceOrigin, if_neg hfirst, horigin,
        List.cons_append]

theorem timeOrigin_concat (samples : List NavSample) (sample : NavSample) :
    timeOrigin (samples ++ [sample]) =
      (timeOrigin samples).or (if 0 ≤ sample.tS then some sample.tS else none) := by
  rw [timeOrigin, List.find?_append, timeOrigin]
  cases samples.find? fun sample => decide (0 ≤ sample.tS) with
  | none =>
    by_cases hsample : 0 ≤ sample.tS
    · simp [hsample]
    · simp [hsample]
  | some first => rfl

/-- The last elements of a list that grows: the oldest of too many goes. -/
theorem rtake_concat {α : Type} (l : List α) (x : α) (n : ℕ) :
    (l ++ [x]).rtake (n + 1) =
      if n + 1 < (l.rtake (n + 1) ++ [x]).length then (l.rtake (n + 1) ++ [x]).tail
      else l.rtake (n + 1) ++ [x] := by
  have hlength : (l.rtake (n + 1)).length = min l.length (n + 1) := by
    rw [List.rtake, List.length_drop]
    omega
  rw [List.rtake_concat_succ, List.length_append, List.length_singleton, hlength]
  split
  · have hne : l.rtake (n + 1) ≠ [] := by
      rw [← List.length_pos_iff, hlength]
      omega
    rw [List.tail_append_of_ne_nil hne, List.rtake, List.rtake, List.tail_drop]
    congr 2
    omega
  · rw [List.rtake, List.rtake]
    congr 2
    omega

namespace UiApp

variable (round : ℝ → ℚ)

/-- The live state after these calls, by the events that they bring. -/
structure Shows (calls : List (UiCall ServerEvent)) (s : UiApp) : Prop where
  samples : s.samples =
    (sinceOrigin ((UiCall.sinceStop calls).filterMap (·.sample round))).rtake maxSamples
  status : s.status = ((UiCall.sinceStop calls).filterMap (·.statusText)).getLast?.getD "idle"
  measRead : s.measRead = ((UiCall.sinceStop calls).filterMap (·.count)).getLast?.getD 0
  schemaReceived : s.schemaReceived =
    ((UiCall.messages calls).filterMap (·.schemaOf)).getLast?.isSome
  schema : s.schema =
    ((UiCall.messages calls).filterMap (·.schemaOf)).getLast?.getD .null

/-- The same, with the time of the first sample. -/
structure Follows (calls : List (UiCall ServerEvent)) (s : UiApp) : Prop
    extends Shows round calls s where
  t0 : timeOrigin ((UiCall.sinceStop calls).filterMap (·.sample round)) =
    if s.t0 < 0 then none else some s.t0

/-! ### One call -/

/-- The last of some values, after one more element. -/
theorem getLast?_filterMap_concat {α β : Type} (f : α → Option β) (l : List α) (a : α) :
    ((l ++ [a]).filterMap f).getLast? = (f a).or (l.filterMap f).getLast? := by
  rw [List.filterMap_append, List.getLast?_append]
  cases h : f a with
  | none => simp [h]
  | some b => simp [h]

theorem follows_nil : Follows round [] {} where
  samples := (List.rtake_nil _).symm
  status := rfl
  measRead := rfl
  schemaReceived := rfl
  schema := rfl
  t0 := by
    rw [if_pos (by norm_num)]
    rfl

variable {round} {calls : List (UiCall ServerEvent)} {s : UiApp}

/-- The time that a sample is relative to. -/
theorem Follows.origin (h : Follows round calls s) (time : ℚ) :
    (timeOrigin ((UiCall.sinceStop calls).filterMap (·.sample round))).getD time =
      if s.t0 < 0 then time else s.t0 := by
  rw [h.t0]
  split
  · rfl
  · rfl

theorem Follows.event (h : Follows round calls s) (ev : ServerEvent) :
    Follows round (calls ++ [.message ev]) (s.after round ev) where
  samples := by
    rw [UiCall.sinceStop_message, List.filterMap_append, after]
    cases hsample : ev.sample round with
    | none =>
      rw [List.filterMap_cons_none hsample, List.filterMap_nil, List.append_nil]
      exact h.samples
    | some sample =>
      rw [List.filterMap_cons_some hsample, List.filterMap_nil, sinceOrigin_concat, h.origin]
      show trim (s.samples ++ [since _ sample]) = _
      rw [h.samples]
      exact (rtake_concat _ _ 2999).symm
  status := by
    rw [UiCall.sinceStop_message, getLast?_filterMap_concat, Option.getD_or, ← h.status]
    rfl
  measRead := by
    rw [UiCall.sinceStop_message, getLast?_filterMap_concat, Option.getD_or, ← h.measRead]
    rfl
  schemaReceived := by
    rw [UiCall.messages_message, getLast?_filterMap_concat, Option.isSome_or, ← h.schemaReceived,
      Bool.or_comm]
    rfl
  schema := by
    rw [UiCall.messages_message, getLast?_filterMap_concat, Option.getD_or, ← h.schema]
    rfl
  t0 := by
    rw [UiCall.sinceStop_message, List.filterMap_append, after]
    cases hsample : ev.sample round with
    | none =>
      rw [List.filterMap_cons_none hsample, List.filterMap_nil, List.append_nil]
      exact h.t0
    | some sample =>
      rw [List.filterMap_cons_some hsample, List.filterMap_nil, timeOrigin_concat, h.t0]
      show _ = if (if s.t0 < 0 then sample.tS else s.t0) < 0 then none
        else some (if s.t0 < 0 then sample.tS else s.t0)
      by_cases ht0 : s.t0 < 0
      · rw [if_pos ht0, if_pos ht0, Option.none_or]
        by_cases hsample : sample.tS < 0
        · rw [if_pos hsample, if_neg (not_le.mpr hsample)]
        · rw [if_neg hsample, if_pos (not_lt.mp hsample)]
      · rw [if_neg ht0, if_neg ht0, if_neg ht0, Option.some_or]

/-- Stopping the session sets everything back but the schema. -/
theorem Follows.stopSession (h : Follows round calls s) :
    Follows round (calls ++ [.stopSession]) s.stopSession where
  samples := by
    rw [UiCall.sinceStop_stopSession]
    exact (List.rtake_nil _).symm
  status := by
    rw [UiCall.sinceStop_stopSession]
    rfl
  measRead := by
    rw [UiCall.sinceStop_stopSession]
    rfl
  schemaReceived := by
    rw [UiCall.messages_stopSession]
    exact h.schemaReceived
  schema := by
    rw [UiCall.messages_stopSession]
    exact h.schema
  t0 := by
    rw [UiCall.sinceStop_stopSession, UiApp.stopSession, if_pos (by norm_num)]
    rfl

end UiApp

/-! ### The session's messages -/

section Session

variable {Ω M : Type}

/-- What a session sends to the user interface: `OnNavigationState`, and the replies of
    `HandleWsCommand`. -/
inductive Sends (env : Environment Ω M) (round : ℝ → ℚ) : Json → Prop
  | navState (state : NavigationState) (h : (ServerEvent.navState state).InRange) :
    Sends env round (navStateJson round state)
  | reply (session session' : Session Ω M) (cmd reply : Json)
    (h : Program.run (Session.handleWsCommand env cmd) session = .ok reply session') :
    Sends env round reply

/-- The event of a reply. -/
def IsEvent (round : ℝ → ℚ) (reply : Json) (_ : Session Ω M) : Prop :=
  ∃ ev : ServerEvent, ev.InRange ∧ ev.json round = reply

variable {P : Session Ω M → Prop} (round : ℝ → ℚ)

theorem ensures_event (ev : ServerEvent) (h : ev.InRange) {E : String → Session Ω M → Prop} :
    Program.Ensures P (pure (ev.json round)) (IsEvent round) E :=
  Program.ensures_pure fun _ _ => ⟨ev, h, rfl⟩

theorem ensures_ack {α : Type} (m : Program (Session Ω M) α) (verb : String) :
    Program.Ensures P (m >>= fun _ => pure (Session.ackReply verb)) (IsEvent round)
      (fun _ _ => True) :=
  Program.Ensures.bind Program.ensures_true fun _ => ensures_event round (.ack verb) trivial

/-- **Every reply** of the handler is an event of the server. -/
theorem ensures_handleWsCommand (env : Environment Ω M) (cmd : Json) :
    Program.Ensures P (Session.handleWsCommand env cmd) (IsEvent round) (fun _ _ => True) := by
  unfold Session.handleWsCommand
  refine Program.Ensures.bind Program.ensures_true fun verb => ?_
  split
  · exact ensures_ack round _ verb
  · split
    · exact ensures_ack round _ verb
    · split
      · exact ensures_ack round _ verb
      · split
        · exact ensures_ack round _ verb
        · split
          · exact ensures_ack round _ verb
          · split
            · exact Program.Ensures.bind Program.ensures_true fun s =>
                ensures_event round (.status s.status.toString s.datasetReader.count) trivial
            · split
              · exact ensures_event round (.schema env.schema) trivial
              · split
                · exact Program.Ensures.tryCatch
                    (Program.Ensures.bind Program.ensures_true fun _ =>
                      Program.Ensures.bind Program.ensures_true fun _ =>
                        ensures_event round .configured trivial)
                    fun what => ensures_event round (.error ("configure failed: " ++ what)) trivial
                · exact ensures_event round (.ack verb) trivial

variable {round}

/-- What a session sends is an event of the server. -/
theorem Sends.exists_event {env : Environment Ω M} {msg : Json} (h : Sends env round msg) :
    ∃ ev : ServerEvent, ev.InRange ∧ ev.json round = msg := by
  cases h with
  | navState state h => exact ⟨.navState state, h, rfl⟩
  | reply session session' cmd _ h =>
    have hreply := ensures_handleWsCommand (P := fun _ => True) round env cmd session trivial
    rw [h] at hreply
    exact hreply

/-- One call, whatever the session sends with it. -/
theorem UiApp.Follows.call {env : Environment Ω M} {evs : List (UiCall ServerEvent)} {s : UiApp}
    (h : UiApp.Follows round evs s) (c : UiCall Json)
    (hc : ∀ msg ∈ c.message?, Sends env round msg) :
    ∃ ev s', ev.map (ServerEvent.json round) = c ∧ s.readCall c = some s' ∧
      UiApp.Follows round (evs ++ [ev]) s' := by
  cases c with
  | stopSession => exact ⟨.stopSession, _, rfl, rfl, h.stopSession⟩
  | message msg =>
    obtain ⟨ev, hrange, rfl⟩ := (hc msg rfl).exists_event
    refine ⟨.message ev, _, rfl, ?_, h.event ev⟩
    rw [UiApp.readCall, UiApp.onMessage_event round s ev hrange]

/-- **The user interface follows the session.** Whatever the session sends between its stops is
    read without an exception, and what is shown are the last 3000 states, with the time since the
    first one, and the last of everything else. -/
theorem ui_shows (env : Environment Ω M) (round : ℝ → ℚ) (calls : List (UiCall Json))
    (h : ∀ msg ∈ UiCall.messages calls, Sends env round msg) :
    ∃ evs s, evs.map (UiCall.map (ServerEvent.json round)) = calls ∧
      UiApp.readAll {} calls = some s ∧ UiApp.run {} calls = some s ∧ UiApp.Shows round evs s := by
  obtain ⟨evs, s, hevs, hread, hfollows⟩ : ∃ evs s,
      evs.map (UiCall.map (ServerEvent.json round)) = calls ∧ UiApp.readAll {} calls = some s ∧
        UiApp.Follows round evs s := by
    induction calls using List.reverseRecOn with
    | nil => exact ⟨[], {}, rfl, rfl, UiApp.follows_nil round⟩
    | append_singleton calls c ih =>
      have hmessages : UiCall.messages (calls ++ [c]) =
          UiCall.messages calls ++ UiCall.messages [c] := List.filterMap_append
      rw [hmessages] at h
      obtain ⟨evs, s, rfl, hread, hfollows⟩ :=
        ih fun msg hmsg => h msg (List.mem_append_left _ hmsg)
      obtain ⟨ev, s', rfl, hcall, hnext⟩ := hfollows.call c fun msg hmsg =>
        h msg (List.mem_append_right _
          (List.mem_filterMap.mpr ⟨c, List.mem_singleton_self c, hmsg⟩))
      refine ⟨evs ++ [ev], s', List.map_append, ?_, hnext⟩
      rw [UiApp.readAll] at hread ⊢
      rw [List.foldlM_append, hread]
      exact (bind_pure (UiApp.readCall s _)).trans hcall
  exact ⟨evs, s, hevs, hread, UiApp.run_of_readAll hread, hfollows.toShows⟩

/-- A state, a stop, a later state and a status. -/
def shownEvents : List (UiCall ServerEvent) :=
  [.message (.navState {}), .stopSession,
    .message (.navState { timestamp := .ofSteady 2000000000 }), .message (.status "configured" 0)]

/-- They are read, and the later state and the status are shown. -/
theorem ui_shows_events :
    ∃ evs s, evs.map (UiCall.map (ServerEvent.json fun _ => 7)) =
        shownEvents.map (UiCall.map (ServerEvent.json fun _ => 7)) ∧
      UiApp.readAll {} (shownEvents.map (UiCall.map (ServerEvent.json fun _ => 7))) = some s ∧
      UiApp.run {} (shownEvents.map (UiCall.map (ServerEvent.json fun _ => 7))) = some s ∧
      UiApp.Shows (fun _ => 7) evs s := by
  refine ui_shows Session.plainEnv (fun _ => 7) _ fun msg hmsg => ?_
  have hcases : msg = navStateJson (fun _ => 7) {} ∨
      navStateJson (fun _ => 7) { timestamp := .ofSteady 2000000000 } = msg ∨
      Session.statusEvent "configured" 0 = msg := by
    simpa [UiCall.messages, UiCall.message?, shownEvents, UiCall.map, ServerEvent.json] using hmsg
  rcases hcases with rfl | rfl | rfl
  · exact .navState {} (by unfold ServerEvent.InRange; decide)
  · exact .navState { timestamp := .ofSteady 2000000000 } (by unfold ServerEvent.InRange; decide)
  · exact .reply (Session.listening "flight.csv") (Session.listening "flight.csv")
      (.obj [("cmd", .str "get_status")]) _ rfl

end Session

end FalconGuide
