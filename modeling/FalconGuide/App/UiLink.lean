import FalconGuide.App.UiApp
import FalconGuide.App.WsDelivery

namespace FalconGuide

open Lib

/-!
# From the session to the user interface

The session's events over the connection, down to what the user interface shows.

* `StoresObjects` — a JSON value after `dump` and `parse`, whose objects are ordered by key;
* `UiApp.onMessage_stored` — the order makes no difference to `OnMessage`;
* `UiApp.hear` — the receive loop of `WsClient` with `UiApp` as its handler;
* `WsLink.FromSession` — the condition that the server sends what a session gives it;
* `ui_link_shows` — the main result: what is shown, in every reachable state of a connection.
-/

/-! ### Values that were sent -/

/-- What `parse` returns for a dump: the same value, with the members of its objects in another
    order. -/
structure StoresObjects (stored : Json → Json) : Prop where
  null : stored .null = .null
  bool : ∀ b, stored (.bool b) = .bool b
  int : ∀ n, stored (.int n) = .int n
  num : ∀ x, stored (.num x) = .num x
  str : ∀ s, stored (.str s) = .str s
  arr : ∀ elems, stored (.arr elems) = .arr (elems.map stored)
  obj : ∀ fields, ∃ fields', stored (.obj fields) = .obj fields' ∧
    ∀ key, fields'.lookup key = (fields.lookup key).map stored

namespace StoresObjects

variable {stored : Json → Json} (h : StoresObjects stored)
include h

/-- The type of a value stays. -/
theorem typeName (j : Json) : (stored j).typeName = j.typeName := by
  cases j with
  | null => rw [h.null]
  | bool b => rw [h.bool]
  | int n => rw [h.int]
  | num x => rw [h.num]
  | str s => rw [h.str]
  | arr elems =>
    rw [h.arr]
    rfl
  | obj fields =>
    obtain ⟨fields', heq, -⟩ := h.obj fields
    rw [heq]
    rfl

/-- A conversion to something that is neither an array nor an object. -/
theorem conversion {α : Type} {conv : Json → Except String α}
    (harr : ∀ elems elems', conv (.arr elems) = conv (.arr elems'))
    (hobj : ∀ fields fields', conv (.obj fields) = conv (.obj fields')) (j : Json) :
    conv (stored j) = conv j := by
  cases j with
  | null => rw [h.null]
  | bool b => rw [h.bool]
  | int n => rw [h.int]
  | num x => rw [h.num]
  | str s => rw [h.str]
  | arr elems =>
    rw [h.arr]
    exact harr _ _
  | obj fields =>
    obtain ⟨fields', heq, -⟩ := h.obj fields
    rw [heq]
    exact hobj _ _

/-- A member is found, as it is stored. -/
theorem find? (j : Json) (key : String) : (stored j).find? key = (j.find? key).map stored := by
  cases j with
  | null => rw [h.null]; rfl
  | bool b => rw [h.bool]; rfl
  | int n => rw [h.int]; rfl
  | num x => rw [h.num]; rfl
  | str s => rw [h.str]; rfl
  | arr elems => rw [h.arr]; rfl
  | obj fields =>
    obtain ⟨fields', heq, hlookup⟩ := h.obj fields
    rw [heq]
    exact hlookup key

/-- Members are found by their keys. -/
theorem value {α : Type} {conv : Json → Except String α} (hconv : ∀ j, conv (stored j) = conv j)
    (j : Json) (key : String) (default : α) :
    (stored j).value conv key default = j.value conv key default := by
  cases j with
  | null => rw [h.null]
  | bool b => rw [h.bool]
  | int n => rw [h.int]
  | num x => rw [h.num]
  | str s => rw [h.str]
  | arr elems =>
    rw [h.arr]
    rfl
  | obj fields =>
    obtain ⟨fields', heq, hlookup⟩ := h.obj fields
    rw [heq, Json.value, Json.value, hlookup]
    cases fields.lookup key with
    | none => rfl
    | some v => exact hconv v

/-- A text is read alike. -/
theorem toStr (j : Json) : (stored j).toStr = j.toStr :=
  h.conversion (fun _ _ => rfl) (fun _ _ => rfl) j

/-- A number is read alike. -/
theorem toDouble (j : Json) : (stored j).toDouble = j.toDouble :=
  h.conversion (fun _ _ => rfl) (fun _ _ => rfl) j

/-- A signed integer is read alike. -/
theorem toInt64 (j : Json) : (stored j).toInt64 = j.toInt64 :=
  h.conversion (fun _ _ => rfl) (fun _ _ => rfl) j

/-- An unsigned one too. -/
theorem toUInt64 (j : Json) : (stored j).toUInt64 = j.toUInt64 :=
  h.conversion (fun _ _ => rfl) (fun _ _ => rfl) j

end StoresObjects

namespace UiApp

variable {stored : Json → Json} (h : StoresObjects stored)
include h

/-- A field of a message is read alike. -/
theorem readField_stored (msg : Json) (key : String) :
    readField (stored msg) key = readField msg key := by
  rw [readField, readField, Json.valueDouble, Json.valueDouble, h.value h.toDouble]

/-- So is an element of an array. -/
theorem readElement_stored (elems : List Json) (i : ℕ) :
    readElement (elems.map stored) i = readElement elems i := by
  rw [readElement, readElement, List.getElem?_map]
  cases elems[i]? with
  | none => rfl
  | some elem => exact congrArg (Except.mapError UiFault.thrown) (h.toDouble elem)

/-- So is the velocity. -/
theorem readVelocity_stored (msg : Json) : readVelocity (stored msg) = readVelocity msg := by
  rw [readVelocity, readVelocity, h.find?]
  cases msg.find? "vel_enu_mps" with
  | none => rfl
  | some v =>
    cases v with
    | arr elems => simp only [Option.map_some, h.arr, readElement_stored h]
    | obj fields =>
      obtain ⟨fields', heq, -⟩ := h.obj fields
      simp only [Option.map_some, heq]
    | null => simp only [Option.map_some, h.null]
    | bool b => simp only [Option.map_some, h.bool]
    | int n => simp only [Option.map_some, h.int]
    | num x => simp only [Option.map_some, h.num]
    | str s => simp only [Option.map_some, h.str]

/-- So is a whole sample. -/
theorem readSample_stored (msg : Json) : readSample (stored msg) = readSample msg := by
  have htime : ∀ key default,
      (stored msg).value Json.toInt64 key default = msg.value Json.toInt64 key default :=
    h.value h.toInt64 msg
  simp only [readSample, readField_stored h, readVelocity_stored h, htime]

/-- **The order of the members** makes no difference, but to the schema that is kept. -/
theorem onMessage_stored (s : UiApp) (msg : Json)
    (hevent : msg.valueString "event" "" ≠ .ok "schema") :
    s.onMessage (stored msg) = s.onMessage msg := by
  have hstring : ∀ key default,
      (stored msg).valueString key default = msg.valueString key default :=
    h.value h.toStr msg
  have hcount : ∀ default, (stored msg).value Json.toUInt64 "measurements_read" default
      = msg.value Json.toUInt64 "measurements_read" default :=
    h.value h.toUInt64 msg _
  unfold onMessage
  simp only [hstring, readSample_stored h, hcount]
  cases hev : msg.valueString "event" "" with
  | error what => rfl
  | ok ev =>
    have hne : ev ≠ "schema" := by
      rintro rfl
      exact hevent hev
    simp only [if_neg hne]

end UiApp

namespace ServerEvent

/-- An event whose schema was sent. -/
def stored (f : Json → Json) : ServerEvent → ServerEvent
  | .schema j => .schema (f j)
  | ev => ev

/-- All events but one have another name. -/
theorem valueString_event_ne (round : ℝ → ℚ) {ev : ServerEvent} (h : ∀ j, ev ≠ .schema j) :
    (ev.json round).valueString "event" "" ≠ .ok "schema" := by
  cases ev with
  | schema j => exact absurd rfl (h j)
  | navState _ | status _ _ | configured | error _ | ack _ =>
    simp [json, navStateJson, Session.statusEvent, Session.configuredReply, Session.errorEvent,
      Session.ackReply, Json.valueString, Json.value, Json.toStr]

/-- Only a schema has an order of members to lose. -/
theorem stored_of_ne (f : Json → Json) {ev : ServerEvent} (h : ∀ j, ev ≠ .schema j) :
    ev.stored f = ev := by
  cases ev with
  | schema j => exact absurd rfl (h j)
  | navState _ | status _ _ | configured | error _ | ack _ => rfl

end ServerEvent

/-- What an event does that was sent. -/
theorem UiApp.onMessage_stored_event {stored : Json → Json} (h : StoresObjects stored)
    (round : ℝ → ℚ) (s : UiApp) (ev : ServerEvent) (hrange : ev.InRange) :
    s.onMessage (stored (ev.json round)) = (s.after round (ev.stored stored), .ok ()) := by
  by_cases hschema : ∃ j, ev = .schema j
  · obtain ⟨j, rfl⟩ := hschema
    obtain ⟨fields', heq, hlookup⟩ := h.obj [("event", .str "schema"), ("schema", j)]
    have hevent : fields'.lookup "event" = some (.str "schema") := by
      rw [hlookup]
      simp [h.str]
    have hmember : fields'.lookup "schema" = some (stored j) := by
      rw [hlookup]
      simp [List.lookup_cons]
    show s.onMessage (stored (.obj [("event", .str "schema"), ("schema", j)])) = _
    rw [heq]
    simp [UiApp.onMessage, Json.valueString, Json.value, hevent, hmember, Json.toStr,
      ServerEvent.stored, UiApp.after, ServerEvent.sample, ServerEvent.statusText,
      ServerEvent.count, ServerEvent.schemaOf]
  · rw [not_exists] at hschema
    rw [UiApp.onMessage_stored h _ _ (ServerEvent.valueString_event_ne round hschema),
      ServerEvent.stored_of_ne stored hschema]
    exact UiApp.onMessage_event round s ev hrange

/-! ### The receive loop -/

namespace UiApp

/-- `Loop`, for the payloads that `RecvFrame` returns: one that does not parse is skipped. -/
def hear (parse : List UInt8 → Option Json) (s : UiApp) (texts : List (List UInt8)) :
    Option UiApp :=
  texts.foldlM (fun s text =>
    match parse text with
    | none => some s
    | some msg => s.receive msg) s

/-- The same, `none` also for a payload that does not parse, and when `OnMessage` throws. -/
def hearAll (parse : List UInt8 → Option Json) (s : UiApp) (texts : List (List UInt8)) :
    Option UiApp :=
  texts.foldlM (fun s text => (parse text).bind fun msg => s.readCall (.message msg)) s

/-- Texts that are all read are heard. -/
theorem hear_of_hearAll {parse : List UInt8 → Option Json} {s s' : UiApp}
    {texts : List (List UInt8)} (h : hearAll parse s texts = some s') :
    hear parse s texts = some s' := by
  induction texts generalizing s with
  | nil => exact h
  | cons text texts ih =>
    rw [hearAll, List.foldlM_cons] at h
    obtain ⟨t, htext, hrest⟩ := Option.bind_eq_some_iff.mp h
    obtain ⟨msg, hparse, hread⟩ := Option.bind_eq_some_iff.mp htext
    have hreceive : s.receive msg = some t := call_of_readCall hread
    rw [hear, List.foldlM_cons, hparse]
    dsimp only
    rw [hreceive]
    exact ih hrest

/-- A payload is the text of an event. -/
def IsText (parse : List UInt8 → Option Json) (stored : Json → Json) (round : ℝ → ℚ)
    (text : List UInt8) (ev : ServerEvent) : Prop :=
  ev.InRange ∧ parse text = some (stored (ev.json round))

/-- Payloads that are the texts of events. -/
theorem Follows.hear {parse : List UInt8 → Option Json} {stored : Json → Json}
    (hstored : StoresObjects stored) {round : ℝ → ℚ} {calls : List (UiCall ServerEvent)} {s : UiApp}
    (h : Follows round calls s) {texts : List (List UInt8)} {evs : List ServerEvent}
    (htexts : List.Forall₂ (IsText parse stored round) texts evs) :
    ∃ s', UiApp.hearAll parse s texts = some s' ∧
      Follows round (calls ++ evs.map fun ev => .message (ev.stored stored)) s' := by
  induction htexts generalizing s calls with
  | nil =>
    refine ⟨s, rfl, ?_⟩
    rw [List.map_nil, List.append_nil]
    exact h
  | @cons text ev texts evs htext _ ih =>
    obtain ⟨hrange, hparse⟩ := htext
    obtain ⟨s', hhear, hfollows⟩ := ih (h.event (ev.stored stored))
    refine ⟨s', ?_, ?_⟩
    · rw [UiApp.hearAll, List.foldlM_cons, hparse, Option.bind_some, readCall,
        onMessage_stored_event hstored round s ev hrange]
      exact hhear
    · rw [List.map_cons, List.append_cons]
      exact hfollows

end UiApp

/-! ### The server's side -/

namespace WsLink

/-- What the server sends comes from the session: its events, and the replies of its handler. -/
def FromSession (sends : Json → Prop) (_ : WsLink) : Action → Prop
  | .read _ replies _ => ∀ reply ∈ replies, ∀ j ∈ reply, sends j
  | .broadcast event _ => sends event
  | _ => True

variable {texts : WsTexts} {sends : Json → Prop} {l l' : WsLink}

/-- The texts of what the session sends, and of the answer to what is no command. -/
theorem replyTexts_sent {reply : Option Json} (h : ∀ j ∈ reply, sends j) {text : List UInt8}
    (htext : text ∈ texts.replyTexts reply) :
    text = badJson ∨ ∃ j, sends j ∧ text = texts.dump j := by
  cases reply with
  | none => exact .inl (List.mem_singleton.mp htext)
  | some j =>
    cases j with
    | null => cases htext
    | _ =>
      simp only [WsTexts.replyTexts, List.mem_filter, List.mem_singleton] at htext
      exact .inr ⟨_, h _ rfl, htext.1⟩

/-- **Nothing else is sent.** -/
theorem messages_sent (texts : WsTexts) {S : System WsLink Action}
    (hinit : ∀ l, S.init l → l.messages = [])
    (hstep : ∀ l a l', S.step l a l' → Step texts l a l')
    (h : (S.guarded (FromSession sends)).Reachable l) :
    ∀ text ∈ l.messages, text = badJson ∨ ∃ j, sends j ∧ text = texts.dump j := by
  refine h.invariant
    (I := fun l => ∀ text ∈ l.messages, text = badJson ∨ ∃ j, sends j ∧ text = texts.dump j) ?_ ?_
  · intro l hl text htext
    rw [hinit l hl] at htext
    cases htext
  · intro l a l' _ hsent hguarded text htext
    obtain ⟨hfrom, hst⟩ := hguarded
    cases hstep l a l' hst with
    | push => exact hsent text htext
    | send => exact hsent text htext
    | receive => exact hsent text htext
    | leave => exact hsent text htext
    | hangUp => exact hsent text htext
    | read chunk rest replies accepted server =>
      rcases List.mem_append.mp htext with hold | hnew
      · exact hsent text hold
      · obtain ⟨reply, hreply, hmem⟩ := List.mem_flatMap.mp hnew
        exact replyTexts_sent (hfrom reply hreply) hmem
    | broadcast event accepted =>
      rcases List.mem_append.mp htext with hold | hnew
      · exact hsent text hold
      · exact .inr ⟨event, hfrom, List.mem_singleton.mp (List.mem_of_mem_filter hnew)⟩

end WsLink

/-- The texts of the JSON library: what is parsed is the value that was dumped. -/
structure ReadsBack (parse : List UInt8 → Option Json) (dump : Json → List UInt8)
    (stored : Json → Json) (sends : Json → Prop) : Prop where
  objects : StoresObjects stored
  dumped : ∀ j, sends j → parse (dump j) = some (stored j)
  badJson : parse badJson = some (stored (Session.errorEvent "bad JSON"))

/-- **From the session to what is shown.** In every reachable state of a connection that takes the
    server's writes whole, the user interface has read without an exception what it has received,
    and shows the first of the events that the session has sent; all of them, when none is on its
    way. -/
theorem ui_link_shows {Ω M : Type} (env : Environment Ω M) (round : ℝ → ℚ) (host : List UInt8)
    (hhost : PlainText host) (port : UInt16) (keyBytes : List UInt8) (dump : Json → List UInt8)
    (page : List UInt8) (parse : List UInt8 → Option Json) (stored : Json → Json)
    (sends : Json → Prop) (hsends : ∀ j, sends j → Sends env round j)
    (hreads : ReadsBack parse dump stored sends) (l : WsLink)
    (h : ((uiLink host port keyBytes dump page).guarded (WsLink.FromSession sends)).Reachable l) :
    ∃ evs s, List.Forall₂ (UiApp.IsText parse stored round) l.messages evs ∧
      UiApp.hearAll parse {} l.received = some s ∧ UiApp.hear parse {} l.received = some s ∧
      UiApp.Shows round
        ((evs.take l.received.length).map fun ev => .message (ev.stored stored)) s ∧
      (l.phase ≠ .closed → l.toClient = [] → l.received.length = evs.length) := by
  have hreliable := WsLink.reachable_reliable hhost h.of_guarded
  have hsent : ∀ text ∈ l.messages, text = badJson ∨ ∃ j, sends j ∧ text = dump j := by
    refine WsLink.messages_sent (serverTexts dump page) ?_ ?_ h
    · rintro _ rfl
      rfl
    · intro l a l' hst
      exact hst.2
  -- every text is that of an event
  have hevent : ∀ text ∈ l.messages, ∃ ev, UiApp.IsText parse stored round text ev := by
    intro text htext
    rcases hsent text htext with rfl | ⟨j, hj, rfl⟩
    · exact ⟨.error "bad JSON", trivial, hreads.badJson⟩
    · obtain ⟨ev, hrange, rfl⟩ := (hsends j hj).exists_event
      exact ⟨ev, hrange, hreads.dumped _ hj⟩
  have : Nonempty ServerEvent := ⟨.configured⟩
  choose! event hevent using hevent
  have htexts : List.Forall₂ (UiApp.IsText parse stored round) l.messages (l.messages.map event) :=
    List.forall₂_map_right_iff.mpr (List.forall₂_same.mpr hevent)
  -- the received ones are the first of them
  obtain ⟨rest, hrest⟩ := hreliable.messages
  have htake : (l.messages.map event).take l.received.length = l.received.map event := by
    rw [← hrest, List.map_append, List.take_left' (List.length_map _)]
  have hreceived : List.Forall₂ (UiApp.IsText parse stored round) l.received
      (l.received.map event) := by
    refine List.forall₂_map_right_iff.mpr (List.forall₂_same.mpr fun text htext => hevent text ?_)
    rw [← hrest]
    exact List.mem_append_left _ htext
  obtain ⟨s, hhear, hfollows⟩ := (UiApp.follows_nil round).hear hreads.objects hreceived
  refine ⟨l.messages.map event, s, htexts, hhear, UiApp.hear_of_hearAll hhear, ?_, ?_⟩
  · rw [htake]
    exact hfollows.toShows
  · intro hphase htoClient
    rw [List.length_map, hreliable.allMessages hphase htoClient]

/-- The text of the schema event of a session with an empty schema. -/
def schemaText : List UInt8 := ascii "\x7b\"event\":\"schema\",\"schema\":\x7b\x7d\x7d"

/-- A parser of two texts. -/
def parseSchemaText (text : List UInt8) : Option Json :=
  if text = badJson then some (Session.errorEvent "bad JSON")
  else if text = schemaText then some (Session.schemaEvent (.obj []))
  else none

/-- A client has received the schema. -/
theorem ui_link_shows_schema :
    ∃ evs s, List.Forall₂ (UiApp.IsText parseSchemaText id fun _ => 7) [schemaText] evs ∧
      UiApp.hearAll parseSchemaText {} [schemaText] = some s ∧
      UiApp.hear parseSchemaText {} [schemaText] = some s ∧
      UiApp.Shows (fun _ => 7) ((evs.take 1).map fun ev => .message (ev.stored id)) s ∧
      (UiWsClient.Phase.connected [] ≠ .closed → [] = ([] : List UInt8) → 1 = evs.length) := by
  have hobjects : StoresObjects id :=
    ⟨rfl, fun _ => rfl, fun _ => rfl, fun _ => rfl, fun _ => rfl, by simp, by simp⟩
  have hconnected : ((uiLink (ascii "127.0.0.1") 8765 [] (fun _ => schemaText) []).guarded
      (WsLink.FromSession (· = Session.schemaEvent (.obj [])))).Reachable _ :=
    WsLink.reachable_connected plainText_loopback (fun _ _ => trivial)
      (fun _ _ _ reply hreply => by cases hreply) (fun _ => trivial)
      (Session.schemaEvent (.obj [])) (fun _ _ => rfl) ⟨by decide, by decide⟩ (by decide +kernel)
  refine ui_link_shows Session.plainEnv (fun _ => 7) (ascii "127.0.0.1") plainText_loopback 8765 []
    (fun _ => schemaText) [] _ id (· = Session.schemaEvent (.obj [])) ?_ ⟨hobjects, ?_, if_pos rfl⟩
    _ hconnected
  · rintro _ rfl
    exact .reply (Session.listening "flight.csv") (Session.listening "flight.csv")
      (.obj [("cmd", .str "get_schema")]) _ rfl
  · rintro _ rfl
    have hne : schemaText ≠ badJson := by decide
    rw [parseSchemaText, if_neg hne, if_pos rfl]
    rfl

end FalconGuide
