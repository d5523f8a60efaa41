import CrumbleCracker.Client.Recv
import Mathlib.Logic.Function.Basic
import Mathlib.Logic.Relation

/-!
# Concurrent calls on one client (`IPCClient.call`)

`call` runs under `self._lock`: it checks `_closed`, builds the header with
`encode_header`, `sendall`s the header and then the payload, reads the response with
`_recv_exact(HEADER_SIZE)`, `decode_header` and `_recv_exact(resp_len)`, and turns an
`MSG_ERROR` response into an exception.  Here any number of threads run `call` on one
client.  A thread's `Pc` says where in `call` it is; `Sys` is the client (its lock and
`_closed`), the two byte streams of the socket, and the helper at the other end.

Every step of every thread, and every step of the helper, is one constructor of `Step`, and
a run is any sequence of them: any interleaving.  A `sendall` sends its bytes in any number
of pieces (`Step.send`) and a `recv` returns any nonempty part of what it asked for that has
arrived (`Step.recvHeader`, `Step.recvPayload`), so a run also fixes a fragmentation of both
streams.  The two `sendall` calls of one `call` send the frame `encode_header(t, len(p)) ++ p`
in order with the lock held, so they are one `sending` state over the whole frame.

The helper takes a complete request frame from the front of what it has received and
writes one response frame: to its `i`-th request `F` it answers `answer i F`.

The fields `sent`, `finished` and `served` are ghost state: they record what was sent, which
threads returned after sending a request, and which requests the helper answered, and no
step reads them.
-/

namespace CrumbleCracker

/-- A thread calling `IPCClient.call`. -/
abbrev Tid := Nat

/-- Where a thread is in `call`. -/
inductive Pc
  /-- `call(msg_type, payload)` entered, the lock not yet taken -/
  | start
  /-- the lock taken; the bytes of the request frame `sendall` has still to send -/
  | sending (rem : Bytes)
  /-- in `_recv_exact(HEADER_SIZE)`, holding `data` -/
  | recvHeader (data : Bytes)
  /-- in `_recv_exact(resp_len)`, holding `data` -/
  | recvPayload (respType : Int) (respLen : Nat) (data : Bytes)
  /-- `call` returned or raised -/
  | done (r : Except PyExc Bytes)

/-- Inside `with self._lock`. -/
def Pc.Busy : Pc → Prop
  | .sending _ | .recvHeader _ | .recvPayload .. => True
  | .start | .done _ => False

/-- `CCError("Client closed", code=4)`. -/
def clientClosed : PyExc := .cc (CCError.plain "Client closed" 4)

/-- The end of `call` once the response is read: an `MSG_ERROR` response raises the error
    `Decoder(resp_payload).error()` decodes, or `CCError("Unknown error from helper",
    code=99)` when it decodes none; any other response returns its payload. -/
def finishCall (respType : Int) (respPayload : Bytes) : Except PyExc Bytes :=
  if respType = MSG_ERROR then
    match (Decoder.error).run (Decoder.new respPayload) with
    | (.ok (some err), _) => .error (.cc err)
    | (.ok none, _) => .error (.cc (CCError.plain "Unknown error from helper" 99))
    | (.error e, _) => .error e
  else .ok respPayload

/-- The client, its socket and the helper. -/
structure Sys where
  /-- where each thread is -/
  pc : Tid → Pc
  /-- the thread holding `_lock` -/
  holder : Option Tid
  /-- `_closed` -/
  closed : Bool
  /-- bytes sent to the helper that it has not read -/
  toHelper : Bytes
  /-- bytes the helper wrote that the client has not read -/
  toClient : Bytes
  /-- every byte sent to the helper -/
  sent : Bytes
  /-- the threads that sent a request and returned, in order -/
  finished : List Tid
  /-- the request frames the helper answered, in order -/
  served : List Frame

namespace Sys

/-- No thread has called yet; the client is open. -/
def init : Sys := ⟨fun _ => .start, none, false, [], [], [], [], []⟩

/-- Thread `c` moves to `p`. -/
def setPc (s : Sys) (c : Tid) (p : Pc) : Sys := { s with pc := Function.update s.pc c p }

/-- Thread `c` leaves `with self._lock` with outcome `r`. -/
def release (s : Sys) (c : Tid) (r : Except PyExc Bytes) : Sys :=
  { s.setPc c (.done r) with holder := none }

/-- Thread `c` leaves `with self._lock` with outcome `r` after its request was answered. -/
def complete (s : Sys) (c : Tid) (r : Except PyExc Bytes) : Sys :=
  { s.release c r with finished := s.finished ++ [c] }

/-- `with self._lock:`, `if self._closed: raise`, `header = encode_header(msg_type,
    len(payload))`. -/
def acquire (s : Sys) (c : Tid) (msgType : Int) (payload : Bytes) : Sys :=
  if s.closed then s.release c (.error clientClosed)
  else match encodeHeader msgType payload.length with
    | .ok header => { s.setPc c (.sending (header ++ payload)) with holder := some c }
    | .error e => s.release c (.error e)

/-- `resp_type, resp_len = decode_header(resp_header)`, then the payload read, or the end
    of `call` when `resp_len` is `0`. -/
def afterHeader (s : Sys) (c : Tid) (respHeader : Bytes) : Sys :=
  match decodeHeader respHeader with
  | .ok (respType, respLen) =>
    if respLen > 0 then s.setPc c (.recvPayload respType respLen.toNat [])
    else s.complete c (finishCall respType [])
  | .error e => s.complete c (.error e)

/-- The helper reads the request frame `F` and writes the response `G`. -/
def serve (s : Sys) (F G : Frame) (rest : Bytes) : Sys :=
  { s with toHelper := rest, toClient := s.toClient ++ G.bytes, served := s.served ++ [F] }

@[simp] theorem setPc_pc (s : Sys) (c : Tid) (p : Pc) : (s.setPc c p).pc = Function.update s.pc c p :=
  rfl
@[simp] theorem setPc_holder (s : Sys) (c : Tid) (p : Pc) : (s.setPc c p).holder = s.holder := rfl
@[simp] theorem setPc_closed (s : Sys) (c : Tid) (p : Pc) : (s.setPc c p).closed = s.closed := rfl
@[simp] theorem setPc_toHelper (s : Sys) (c : Tid) (p : Pc) : (s.setPc c p).toHelper = s.toHelper :=
  rfl
@[simp] theorem setPc_toClient (s : Sys) (c : Tid) (p : Pc) : (s.setPc c p).toClient = s.toClient :=
  rfl
@[simp] theorem setPc_sent (s : Sys) (c : Tid) (p : Pc) : (s.setPc c p).sent = s.sent := rfl
@[simp] theorem setPc_finished (s : Sys) (c : Tid) (p : Pc) : (s.setPc c p).finished = s.finished :=
  rfl
@[simp] theorem setPc_served (s : Sys) (c : Tid) (p : Pc) : (s.setPc c p).served = s.served := rfl

end Sys

section Step

variable (req : Tid → Int × Bytes) (answer : Nat → Frame → Frame)

/-- One step of one thread, each thread `c` calling `call(*req c)`, or of the helper. -/
inductive Step : Sys → Sys → Prop
  | acquire {s c} : s.pc c = .start → s.holder = none → Step s (s.acquire c (req c).1 (req c).2)
  | send {s c chunk rem} : s.pc c = .sending (chunk ++ rem) → chunk ≠ [] →
      Step s { s.setPc c (.sending rem) with
        toHelper := s.toHelper ++ chunk, sent := s.sent ++ chunk }
  | sent {s c} : s.pc c = .sending [] → Step s (s.setPc c (.recvHeader []))
  | recvHeader {s c data chunk rest} : s.pc c = .recvHeader data → s.toClient = chunk ++ rest →
      chunk ≠ [] → chunk.length ≤ HEADER_SIZE - data.length →
      Step s { s.setPc c (.recvHeader (data ++ chunk)) with toClient := rest }
  | recvPayload {s c t n data chunk rest} : s.pc c = .recvPayload t n data →
      s.toClient = chunk ++ rest → chunk ≠ [] → chunk.length ≤ n - data.length →
      Step s { s.setPc c (.recvPayload t n (data ++ chunk)) with toClient := rest }
  | header {s c data} : s.pc c = .recvHeader data → data.length = HEADER_SIZE →
      Step s (s.afterHeader c data)
  | finish {s c t n data} : s.pc c = .recvPayload t n data → data.length = n →
      Step s (s.complete c (finishCall t data))
  | serve {s rest} (F : Frame) : s.toHelper = F.bytes ++ rest →
      Step s (s.serve F (answer s.served.length F) rest)

/-- The states some interleaving reaches. -/
def Reachable (s : Sys) : Prop := Relation.ReflTransGen (Step req answer) Sys.init s

end Step

end CrumbleCracker
