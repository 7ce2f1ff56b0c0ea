import FalconGuide.App.IpcClients
import FalconGuide.App.Json
import FalconGuide.Lib.PartialWrites

namespace FalconGuide

open Lib

/-!
# What the IPC server writes

`IpcServer::Broadcast` and `IpcServer::WriteToClient` over the runs of the server.  Every `::write`
is on a non-blocking socket: it takes any prefix of the message, or it fails.

* `ipcMessage` — an event as a line;
* `IpcRun.WriteAction`, `IpcRun.WriteStep` — the steps of a server with the results of its writes;
* `IpcRun.writes` — what a step writes to a connection;
* `IpcRun.writing` — the runs of a server with what was written.
-/

/-- An event as it is sent.  `dump` is `json::dump`. -/
def ipcMessage (dump : Json → List UInt8) (event : Json) : List UInt8 :=
  dump event ++ [IpcRun.newline]

/-- What `HandleData` answers when the line is not JSON or the handler throws. -/
def invalidJsonEvent : Json :=
  .obj [("event", .str "error"), ("message", .str "invalid JSON")]

namespace IpcRun

/-- A step with the results of its writes. -/
inductive WriteAction
  | other (a : Action)
  /-- A successful `read`; for every line that is answered, how much of the answer was taken. -/
  | read (accepted : List ℕ)
  /-- `Broadcast`; the result of the `::write` to each client, `none` for an error. -/
  | broadcast (event : Json) (results : ℕ → Option ℕ)

/-- The clients that `Broadcast` could not write to. -/
def failed (s : IpcRun) (results : ℕ → Option ℕ) : List ℕ :=
  s.clients.filter fun fd => (results fd).isNone

/-- The connection that is being read. -/
def readFrom (s : IpcRun) : Option ℕ :=
  match s.loop with
  | .reading _ (fd :: _) _ => s.fds.table fd
  | _ => none

/-- The lines given to `HandleData` that are not empty, when `chunk` is read from `fd`. -/
def linesRead (s : IpcRun) (fd : ℕ) (chunk : List UInt8) : List (List UInt8) :=
  ((lineParser newline).drain (s.bufferOf fd ++ chunk)).1.filter (· ≠ [])

/-- One step, with the results of its writes. -/
inductive WriteStep (dump : Json → List UInt8) (maxClients : ℕ) :
    IpcRun → WriteAction → IpcRun → Prop
  /-- A step that writes nothing. -/
  | other (s a t) (ha : ∀ dead, a ≠ .broadcast dead) (hst : Step maxClients s a t) :
      WriteStep dump maxClients s (.other a) t
  /-- `HandleData` answers some of the lines. -/
  | read (s) (rfds fd rest toRemove c chunk accepted)
      (hl : s.loop = .reading rfds (fd :: rest) toRemove) (hset : fd ∈ rfds)
      (hopen : s.fds.table fd = some c) (hchunk : chunk ≠ []) (hsize : chunk.length ≤ 4096)
      (hanswered : accepted.length ≤ (s.linesRead fd chunk).length)
      (haccepted : ∀ n ∈ accepted, n ≤ (ipcMessage dump invalidJsonEvent).length) :
      WriteStep dump maxClients s (.read accepted)
        { s.readChunk fd c chunk with loop := .reading rfds rest toRemove }
  | broadcast (s) (event results) (hk : s.loop.locks = false)
      (hresults : ∀ fd n, results fd = some n → n ≤ (ipcMessage dump event).length) :
      WriteStep dump maxClients s (.broadcast event results) (s.dropAll (s.failed results))

variable {dump : Json → List UInt8} {maxClients : ℕ} {s t : IpcRun}

/-- With the results forgotten, it is a step of the server. -/
theorem WriteStep.toStep {a : WriteAction} (h : WriteStep dump maxClients s a t) :
    ∃ a', Step maxClients s a' t := by
  cases h with
  | other a _ ha hst => exact ⟨a, hst⟩
  | read rfds fd rest toRemove c chunk accepted hl hset hopen hchunk hsize hanswered haccepted =>
    exact ⟨.loop, .read s rfds fd rest toRemove c chunk hl hset hopen hchunk hsize⟩
  | broadcast event results hk hresults =>
    exact ⟨.broadcast _, .broadcast s _ List.filter_sublist hk⟩

/-- What a step writes to the connection `c`. -/
def writes (dump : Json → List UInt8) (s : IpcRun) : WriteAction → ℕ → List (Write UInt8)
  | .other _, _ => []
  | .read accepted, c =>
    if s.readFrom = some c then accepted.map (Write.mk (ipcMessage dump invalidJsonEvent)) else []
  | .broadcast event results, c =>
    (s.clients.filter (s.fds.table · = some c)).map fun fd =>
      ⟨ipcMessage dump event, (results fd).getD 0⟩

/-- Every message is an event as a line. -/
theorem message_writes {a : WriteAction} {c : ℕ} {w : Write UInt8} (h : w ∈ s.writes dump a c) :
    ∃ event, w.message = ipcMessage dump event := by
  cases a with
  | other a => cases h
  | read accepted =>
    rw [writes] at h
    split at h
    · obtain ⟨n, -, rfl⟩ := List.mem_map.mp h
      exact ⟨_, rfl⟩
    · cases h
  | broadcast event results =>
    obtain ⟨fd, -, rfl⟩ := List.mem_map.mp h
    exact ⟨_, rfl⟩

/-- The runs of a server with what it writes. -/
def writing (dump : Json → List UInt8) (maxClients : ℕ) :
    System (Sending IpcRun UInt8) WriteAction :=
  System.sending { init := fun s => s = {}, step := WriteStep dump maxClients } (writes dump)

/-- A run with what is written is a run of the server. -/
theorem reachable_of_writing {s : Sending IpcRun UInt8}
    (h : (writing dump maxClients).Reachable s) : (system maxClients).Reachable s.state := by
  have hrun := h.of_sending
  generalize s.state = r at hrun
  induction hrun with
  | init hs => exact .init hs
  | step _ hst ih =>
    obtain ⟨a, hstep⟩ := WriteStep.toStep hst
    exact ih.step hstep

/-- A run without a `Broadcast` writes nothing. -/
theorem writing_of_reachable {G : Sending IpcRun UInt8 → WriteAction → Prop}
    (hG : ∀ s a, G { state := s } (.other a)) {s : IpcRun}
    (h : ((system maxClients).guarded fun _ a => ∀ dead, a ≠ .broadcast dead).Reachable s) :
    ((writing dump maxClients).guarded G).Reachable { state := s } := by
  induction h with
  | init hs => exact .init ⟨hs, rfl⟩
  | @step s t a _ hst ih => exact ih.step ⟨hG s a, .other s a t hst.1 hst.2, rfl⟩

end IpcRun

end FalconGuide
