import FalconGuide.App.WsBase64
import FalconGuide.App.WsRoundTrip
import FalconGuide.Lib.TextSearch

namespace FalconGuide

open Lib

/-!
# The handshake between the user interface and the server

`WsClient::Handshake` of the user interface against `WsServer::HandleRead` and
`WsServer::DoUpgrade`.

* `UiWsClient.request`, `UiWsClient.recvAnswer` — what `Handshake` sends, and how it reads the
  answer;
* `WsServer.accept` — the value that `DoUpgrade` computes from the key;
* `request_handshake`, `upgradeKey_request` — the request asks for an upgrade with this key;
* `recvAnswer_upgradeAnswer` — the client takes the answer off the socket, and no more.
-/

/-! ### The two sides -/

namespace UiWsClient

/-- `req`, with the text of the key. -/
def request (host : List UInt8) (port : UInt16) (key : List UInt8) : List UInt8 :=
  ascii "GET / HTTP/1.1\r\nHost: " ++ host ++ ascii ":" ++ ascii (toString port.toNat)
    ++ ascii "\r\nUpgrade: websocket\r\nConnection: Upgrade\r\nSec-WebSocket-Key: " ++ key
    ++ ascii "\r\nSec-WebSocket-Version: 13\r\n\r\n"

/-- The loop over the bytes of the answer, of which `resp` are there; `n` more fit. -/
def answerLoop : ℕ → List UInt8 → Socket (List UInt8)
  | 0, resp => pure resp
  | n + 1, resp => do
    let ch ← recv1
    let resp := resp ++ [ch]
    if (crlf ++ crlf).isSuffixOf resp then pure resp else answerLoop n resp

/-- The answer in `Handshake`: `none` when a byte does not come, else what it returns. -/
def recvAnswer : Socket Bool :=
  (fun resp => (afterFirst (ascii "101") resp).isSome) <$> answerLoop 4096 []

end UiWsClient

/-- `accept`, for the value of the key. -/
def WsServer.accept (key : List UInt8) : List UInt8 :=
  WsServer.base64 (WsServer.sha1 (key ++ ascii "258EAFA5-E914-47DA-95CA-C5AB0DC85B11"))

/-! ### Texts without a line end -/

/-- Neither a space nor the beginning of a line end. -/
def PlainText (text : List UInt8) : Prop := ∀ b ∈ text, b ≠ 13 ∧ b ≠ 32

namespace PlainText

variable {text more : List UInt8}

/-- Plain text stays plain when it is joined. -/
theorem append (h : PlainText text) (hmore : PlainText more) : PlainText (text ++ more) := by
  intro b hb
  rcases List.mem_append.mp hb with hb | hb
  · exact h b hb
  · exact hmore b hb

theorem cr_notMem (h : PlainText text) : 13 ∉ text := fun hb => (h 13 hb).1 rfl

theorem space_notMem (h : PlainText text) : 32 ∉ text := fun hb => (h 32 hb).2 rfl

end PlainText

/-- Numbers are printed as plain text. -/
theorem plainText_digits (n : ℕ) : PlainText (ascii (toString n)) := by
  intro b hb
  obtain ⟨c, hc, rfl⟩ := List.mem_map.mp hb
  have hc' : c ∈ Nat.toDigits 10 n := by simpa using hc
  have hdigit := Nat.isDigit_of_mem_toDigits (by decide) (by decide) hc'
  rw [Char.isDigit_iff_toNat] at hdigit
  have hlow : '0'.toNat = 48 := rfl
  have hhigh : '9'.toNat = 57 := rfl
  have hbyte : (c.toNat.toUInt8).toNat = c.toNat := by
    have hsmall : c.toNat < 256 := by omega
    simp [Nat.toUInt8, Nat.mod_eq_of_lt hsmall]
  constructor
  · intro h
    rw [h] at hbyte
    have hthirteen : (13 : UInt8).toNat = 13 := rfl
    omega
  · intro h
    rw [h] at hbyte
    have hspace : (32 : UInt8).toNat = 32 := rfl
    omega

/-- Base64 is plain text. -/
theorem plainText_encode (bytes : List UInt8) : PlainText (Base64.encode bytes) := by
  have hcharacter : ∀ v : BitVec 6, Base64.character v ≠ 13 ∧ Base64.character v ≠ 32 := by decide
  intro b hb
  rw [Base64.encode, List.mem_append] at hb
  rcases hb with hb | hb
  · obtain ⟨i, -, rfl⟩ := List.mem_map.mp hb
    exact hcharacter _
  · rw [List.eq_of_mem_replicate hb]
    decide

theorem plainText_base64 (bytes : List UInt8) : PlainText (WsServer.base64 bytes) := by
  rw [WsServer.base64_eq]
  exact plainText_encode bytes

/-! ### The request -/

section Request

variable {host : List UInt8} {port : UInt16} {key : List UInt8}

/-- The line with the host. -/
def hostLine (host : List UInt8) (port : UInt16) : List UInt8 :=
  ascii "Host: " ++ (host ++ (ascii ":" ++ ascii (toString port.toNat)))

/-- The lines of the request. -/
def requestLines (host : List UInt8) (port : UInt16) (key : List UInt8) : List (List UInt8) :=
  [ascii "GET / HTTP/1.1", hostLine host port, ascii "Upgrade: websocket",
    ascii "Connection: Upgrade", ascii "Sec-WebSocket-Key: " ++ key,
    ascii "Sec-WebSocket-Version: 13"]

/-- The request is made of lines, and an empty one. -/
theorem request_eq (host : List UInt8) (port : UInt16) (key : List UInt8) :
    UiWsClient.request host port key = headerText crlf (requestLines host port key) := by
  have hfirst :
      ascii "GET / HTTP/1.1\r\nHost: " = ascii "GET / HTTP/1.1" ++ crlf ++ ascii "Host: " := by
    decide
  have hmiddle : ascii "\r\nUpgrade: websocket\r\nConnection: Upgrade\r\nSec-WebSocket-Key: "
      = crlf ++ ascii "Upgrade: websocket" ++ crlf ++ ascii "Connection: Upgrade" ++ crlf
        ++ ascii "Sec-WebSocket-Key: " := by
    decide
  have hlast : ascii "\r\nSec-WebSocket-Version: 13\r\n\r\n"
      = crlf ++ ascii "Sec-WebSocket-Version: 13" ++ crlf ++ crlf := by
    decide
  rw [UiWsClient.request, hfirst, hmiddle, hlast]
  simp [headerText, requestLines, hostLine]

/-- The rest of the host line is plain text. -/
theorem plainText_hostRest (hhost : PlainText host) (port : UInt16) :
    PlainText (host ++ (ascii ":" ++ ascii (toString port.toNat))) := by
  have hcolon : PlainText (ascii ":") := by
    intro b hb
    rw [List.mem_singleton.mp hb]
    decide
  exact hhost.append (hcolon.append (plainText_digits _))

/-- The host line is one line. -/
theorem cr_notMem_hostLine (hhost : PlainText host) (port : UInt16) : 13 ∉ hostLine host port := by
  have hname : 13 ∉ ascii "Host: " := by decide
  rw [hostLine, List.mem_append, not_or]
  exact ⟨hname, (plainText_hostRest hhost port).cr_notMem⟩

/-- No line has a line end in it. -/
theorem requestLines_plain (hhost : PlainText host) (hkey : PlainText key) :
    ∀ line ∈ requestLines host port key, line ≠ [] ∧ 13 ∉ line := by
  have hname : 13 ∉ ascii "Sec-WebSocket-Key: " := by decide
  have hkeyLine : 13 ∉ ascii "Sec-WebSocket-Key: " ++ key := by
    rw [List.mem_append, not_or]
    exact ⟨hname, hkey.cr_notMem⟩
  intro line hline
  simp only [requestLines, List.mem_cons, List.not_mem_nil, or_false] at hline
  rcases hline with rfl | rfl | rfl | rfl | rfl | rfl
  · decide
  · exact ⟨List.cons_ne_nil _ _, cr_notMem_hostLine hhost port⟩
  · decide
  · decide
  · exact ⟨List.cons_ne_nil _ _, hkeyLine⟩
  · decide

/-- A search for a pattern without line ends goes on behind a line that does not have it. -/
theorem afterFirst_headerText_cons {pat line : List UInt8} (hpat : pat ≠ [])
    (hcr : 13 ∉ pat) (hlf : 10 ∉ pat) (hline : afterFirst pat line = none)
    (lines : List (List UInt8)) :
    afterFirst pat (headerText crlf (line :: lines)) = afterFirst pat (headerText crlf lines) := by
  have hnil : afterFirst pat [] = none := by
    rw [afterFirst, if_neg hpat]
  rw [headerText_cons, crlf, List.cons_append, List.cons_append, List.nil_append,
    afterFirst_line hpat hcr hline]
  exact afterFirst_line hpat hlf hnil _

/-- **The key of the request** is the first thing that the server finds for one. -/
theorem afterFirst_key_request (hhost : PlainText host) :
    afterFirst (ascii "Sec-WebSocket-Key: ") (UiWsClient.request host port key)
      = some (key ++ (crlf ++ headerText crlf [ascii "Sec-WebSocket-Version: 13"])) := by
  -- the only space of the line with the host comes too early
  have hhostLine : afterFirst (ascii "Sec-WebSocket-Key: ") (hostLine host port) = none := by
    have hlast : ascii "Sec-WebSocket-Key: " = ascii "Sec-WebSocket-Key:" ++ [32] := by decide
    have hname : afterFirst (ascii "Sec-WebSocket-Key:" ++ [32]) (ascii "Host: ") = none := by
      decide
    rw [hlast]
    exact afterFirst_append_eq_none (plainText_hostRest hhost port).space_notMem hname
  have hskip := fun (line : List UInt8)
      (hline : afterFirst (ascii "Sec-WebSocket-Key: ") line = none) =>
    afterFirst_headerText_cons (by decide) (by decide) (by decide) hline
  rw [request_eq, requestLines, hskip _ (by decide), hskip _ hhostLine, hskip _ (by decide),
    hskip _ (by decide), headerText_cons, List.append_assoc]
  exact afterFirst_self (by decide) _

/-- **The request** asks for an upgrade, and ends with the blank line. -/
theorem request_handshake (hhost : PlainText host) (hkey : PlainText key) :
    Handshake (UiWsClient.request host port key) where
  headers := by
    rw [request_eq]
    exact afterFirst_headerText (by decide) (List.cons_ne_nil _ _) (requestLines_plain hhost hkey)
  upgrade := by
    left
    apply afterFirst_isSome
    rw [request_eq, requestLines, headerText_cons, headerText_cons, headerText_cons]
    exact ⟨ascii "GET / HTTP/1.1" ++ crlf ++ hostLine host port ++ crlf, _,
      by simp only [List.append_assoc]; rfl⟩
  key := by
    rw [afterFirst_key_request hhost]
    apply afterFirst_isSome
    exact ⟨key, _, by rw [List.append_assoc]⟩

/-- `DoUpgrade` gets the key that was sent. -/
theorem upgradeKey_request (hhost : PlainText host) (hkey : PlainText key) :
    upgradeKey (UiWsClient.request host port key) = some key := by
  have hend : afterFirst crlf (key ++ (crlf ++ headerText crlf [ascii "Sec-WebSocket-Version: 13"]))
      = some (headerText crlf [ascii "Sec-WebSocket-Version: 13"]) :=
    (afterFirst_append_of_notMem hkey.cr_notMem _).trans (afterFirst_self (by decide) _)
  rw [upgradeKey, afterFirst_key_request hhost, Option.bind_some, hend, Option.map_some]
  congr 1
  apply List.take_left'
  simp only [List.length_append]
  have htwo : crlf.length = 2 := rfl
  omega

end Request

/-! ### The answer -/

namespace UiWsClient

/-- What a reader of the socket returns does not change when more bytes are behind. -/
def Stable {α : Type} (x : Socket α) : Prop :=
  ∀ ⦃bytes rest : List UInt8⦄ ⦃a : α⦄, x bytes = some (a, rest) →
    ∀ more, x (bytes ++ more) = some (a, rest ++ more)

section Stable

variable {α β : Type} {x : Socket α} {f : α → Socket β}

theorem stable_pure (a : α) : Stable (pure a : Socket α) := by
  rintro bytes rest _ ⟨⟩ more
  rfl

theorem stable_failure : Stable (failure : Socket α) := by
  intro bytes rest a h
  cases h

/-- One byte is received or awaited. -/
theorem stable_recv1 : Stable recv1 := by
  intro bytes rest a h more
  cases bytes with
  | nil => cases h
  | cons b bs =>
    cases h
    rfl

/-- Stability goes through a sequence of reads. -/
theorem Stable.bind (hx : Stable x) (hf : ∀ a, Stable (f a)) : Stable (x >>= f) := by
  intro bytes rest b h more
  obtain ⟨⟨a, between⟩, ha, hb⟩ := Option.bind_eq_some_iff.mp h
  exact (bind_of_some (hx ha more)).trans (hf a hb more)

theorem Stable.map {g : α → β} (hx : Stable x) : Stable (g <$> x) := by
  intro bytes rest b h more
  obtain ⟨⟨a, between⟩, ha, hb⟩ := Option.bind_eq_some_iff.mp h
  cases hb
  exact map_of_some (hx ha more)

theorem Stable.ite {c : Prop} [Decidable c] {y : Socket α} (hx : Stable x) (hy : Stable y) :
    Stable (if c then x else y) := by
  split
  · exact hx
  · exact hy

/-- It waits for the end of what it returns for. -/
theorem Stable.eq_none (hx : Stable x) {bytes more : List UInt8} {a : α}
    (h : x (bytes ++ more) = some (a, [])) (hmore : more ≠ []) : x bytes = none := by
  cases hbytes : x bytes with
  | none => rfl
  | some r =>
    have hall := hx hbytes more
    rw [h, Option.some.injEq, Prod.mk.injEq] at hall
    exact absurd (List.append_eq_nil_iff.mp hall.2.symm).2 hmore

theorem stable_recvN (n : ℕ) : Stable (recvN n) := by
  induction n with
  | zero => exact stable_pure []
  | succ n ih => exact stable_recv1.bind fun b => ih.bind fun bs => stable_pure _

theorem stable_recvLength (len7 : ℕ) : Stable (recvLength len7) :=
  (stable_recvN 2).map.ite ((stable_recvN 8).map.ite (stable_pure _))

theorem stable_recvMask (masked : Bool) : Stable (recvMask masked) :=
  (stable_recvN 4).ite (stable_pure _)

/-- **A frame** is received whole or awaited. -/
theorem stable_recvFrame : Stable recvFrame :=
  stable_recv1.bind fun _ => stable_recv1.bind fun _ => stable_failure.ite <|
    (stable_recvLength _).bind fun _ => (stable_recvMask _).bind fun _ => stable_failure.ite <|
      (stable_recvN _).bind fun _ => stable_pure _

theorem stable_answerLoop (n : ℕ) (resp : List UInt8) : Stable (answerLoop n resp) := by
  induction n generalizing resp with
  | zero => exact stable_pure resp
  | succ n ih => exact stable_recv1.bind fun ch => (stable_pure _).ite (ih _)

/-- So is the answer to the handshake. -/
theorem stable_recvAnswer : Stable recvAnswer := (stable_answerLoop 4096 []).map

end Stable

/-- The loop stops at the blank line, and leaves what is behind it. -/
theorem answerLoop_append {n : ℕ} {resp xs : List UInt8} (hxs : xs ≠ []) (hlen : xs.length ≤ n)
    (hend : afterFirst (crlf ++ crlf) (resp ++ xs) = some []) (rest : List UInt8) :
    answerLoop n resp (xs ++ rest) = some (resp ++ xs, rest) := by
  induction xs generalizing n resp with
  | nil => exact absurd rfl hxs
  | cons x xs ih =>
    obtain ⟨n, rfl⟩ : ∃ m, n = m + 1 := ⟨n - 1, by rw [List.length_cons] at hlen; omega⟩
    have hall : resp ++ x :: xs = (resp ++ [x]) ++ xs := by simp
    rw [hall] at hend ⊢
    rw [answerLoop]
    refine (bind_of_some rfl).trans ?_
    by_cases hsuffix : (crlf ++ crlf).isSuffixOf (resp ++ [x])
    · -- the blank line is there: nothing is behind it
      obtain ⟨behind, hbehind⟩ := Option.isSome_iff_exists.mp
        (afterFirst_isSome (List.isSuffixOf_iff_suffix.mp hsuffix).isInfix)
      have hmore := afterFirst_append hbehind xs
      rw [hend, Option.some.injEq] at hmore
      obtain rfl := (List.append_eq_nil_iff.mp hmore.symm).2
      rw [if_pos hsuffix, List.append_nil]
      rfl
    · rw [if_neg hsuffix]
      refine ih ?_ ?_ hend
      · rintro rfl
        -- what is found at the end is a suffix
        rw [List.append_nil] at hend
        obtain ⟨front, hfront⟩ := eq_of_afterFirst hend
        rw [List.append_nil] at hfront
        exact hsuffix (List.isSuffixOf_iff_suffix.mpr ⟨front, hfront.symm⟩)
      · rw [List.length_cons] at hlen
        omega

end UiWsClient

section Answer

variable {texts : WsTexts} {key : List UInt8}

/-- The lines of the answer. -/
def answerLines (texts : WsTexts) (key : List UInt8) : List (List UInt8) :=
  [ascii "HTTP/1.1 101 Switching Protocols", ascii "Upgrade: websocket",
    ascii "Connection: Upgrade", ascii "Sec-WebSocket-Accept: " ++ texts.accept key]

/-- The answer of the server, line by line. -/
theorem upgradeAnswer_eq (texts : WsTexts) (key : List UInt8) :
    texts.upgradeAnswer key = headerText crlf (answerLines texts key) := by
  have hfirst : ascii "HTTP/1.1 101 Switching Protocols\r\nUpgrade: websocket\r\n"
      = ascii "HTTP/1.1 101 Switching Protocols" ++ crlf ++ ascii "Upgrade: websocket" ++ crlf := by
    decide
  have hsecond : ascii "Connection: Upgrade\r\nSec-WebSocket-Accept: "
      = ascii "Connection: Upgrade" ++ crlf ++ ascii "Sec-WebSocket-Accept: " := by
    decide
  rw [WsTexts.upgradeAnswer, hfirst, hsecond]
  simp [headerText, answerLines]

/-- **The answer** ends with its blank line. -/
theorem afterFirst_upgradeAnswer (haccept : PlainText (texts.accept key)) :
    afterFirst (crlf ++ crlf) (texts.upgradeAnswer key) = some [] := by
  have hname : 13 ∉ ascii "Sec-WebSocket-Accept: " := by decide
  have hline : 13 ∉ ascii "Sec-WebSocket-Accept: " ++ texts.accept key := by
    rw [List.mem_append, not_or]
    exact ⟨hname, haccept.cr_notMem⟩
  rw [upgradeAnswer_eq]
  refine afterFirst_headerText (by decide) (List.cons_ne_nil _ _) fun l hl => ?_
  simp only [answerLines, List.mem_cons, List.not_mem_nil, or_false] at hl
  rcases hl with rfl | rfl | rfl | rfl
  · decide
  · decide
  · decide
  · exact ⟨List.cons_ne_nil _ _, hline⟩

/-- **The client** takes the answer off the socket, no more, and goes on. -/
theorem recvAnswer_upgradeAnswer (haccept : PlainText (texts.accept key))
    (hlen : (texts.accept key).length = 28) (rest : List UInt8) :
    UiWsClient.recvAnswer (texts.upgradeAnswer key ++ rest) = some (true, rest) := by
  have hsize : (texts.upgradeAnswer key).length ≤ 4096 := by
    have hconst : (ascii "HTTP/1.1 101 Switching Protocols\r\nUpgrade: websocket\r\n").length
        + (ascii "Connection: Upgrade\r\nSec-WebSocket-Accept: ").length + crlf.length
        + crlf.length ≤ 150 := by
      decide
    simp only [WsTexts.upgradeAnswer, List.length_append]
    omega
  have hne : texts.upgradeAnswer key ≠ [] := List.cons_ne_nil _ _
  have hloop : UiWsClient.answerLoop 4096 [] (texts.upgradeAnswer key ++ rest) = _ :=
    UiWsClient.answerLoop_append hne hsize (afterFirst_upgradeAnswer haccept) rest
  have hfound : (afterFirst (ascii "101") (texts.upgradeAnswer key)).isSome := by
    apply afterFirst_isSome
    exact ⟨ascii "HTTP/1.1 ", _, rfl⟩
  rw [UiWsClient.recvAnswer, UiWsClient.map_of_some hloop, List.nil_append, hfound]

/-- The value has 28 characters. -/
theorem length_accept (key : List UInt8) : (WsServer.accept key).length = 28 := by
  have hdigest : ∀ data, (WsServer.sha1 data).length = 20 := fun _ => rfl
  rw [WsServer.accept, WsServer.base64_eq, Base64.length_encode, hdigest]

end Answer

end FalconGuide
