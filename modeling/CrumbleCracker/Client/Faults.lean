import CrumbleCracker.Client.Progress

/-!
# A call that fails midway (`IPCClient.call` when a statement raises)

Any statement inside `with self._lock` can raise: `sendall` and `recv` raise `OSError`,
`_recv_exact` raises `CCError(code=7)` when the helper closes, and `KeyboardInterrupt` can
arrive between any two statements.  `call` has no handler: the exception leaves
`with self._lock`, which releases the lock, and `_closed` stays as it was; nothing drains
or resets the socket.  `FaultStep` adds that step, `fail`, to `Step`.

* `failure_in_step`: from any state a run without failures reaches, a failing call leaves
  the client open, and leaves both byte streams empty exactly when it had sent nothing of
  its request, or had read the whole response to it.
* `interrupted_call_misroutes`: a run in which thread `0` is interrupted after the helper
  answered it, and thread `1`'s next call returns thread `0`'s answer.
-/

namespace CrumbleCracker

section Faults

variable (req : Tid → Int × Bytes) (answer : Nat → Frame → Frame)

/-- A step of `Step`, or a thread inside the lock raising `e`. -/
inductive FaultStep : Sys → Sys → Prop
  | step {s s'} : Step req answer s s' → FaultStep s s'
  | fail {s c} (e : PyExc) : (s.pc c).Busy → FaultStep s (s.release c (.error e))

/-- The states some interleaving with failures reaches. -/
def FaultReachable (s : Sys) : Prop := Relation.ReflTransGen (FaultStep req answer) Sys.init s

end Faults

/-- Both byte streams are empty: the next request starts a frame, and so does the next
    response the client reads. -/
def InStep (s : Sys) : Prop := s.toHelper = [] ∧ s.toClient = []

/-- `call` has read the whole response: a header announcing no payload, or the whole
    payload. -/
def Pc.ResponseRead : Pc → Prop
  | .recvHeader data => data.length = HEADER_SIZE ∧ ∃ t, decodeHeader data = .ok (t, 0)
  | .recvPayload _ n data => data.length = n
  | _ => False

/-- Once the helper answered with `G`, nothing of `G` is left to read exactly when `call`
    has read the whole response. -/
theorem Pc.responseRead_iff {p : Pc} {G : Frame} {toClient : Bytes} (hR : p.Reading G toClient)
    (hb : p.Bounded) : p.ResponseRead ↔ toClient = [] := by
  cases p with
  | sending => exact iff_of_false id (by rw [show toClient = G.bytes from hR]; exact G.bytes_ne_nil)
  | recvHeader data =>
    constructor
    · rintro ⟨hlen, t, hd⟩
      obtain ⟨hd', rfl⟩ := header_split hR hlen
      rw [hd] at hd'
      simp only [Except.ok.injEq, Prod.mk.injEq] at hd'
      exact List.length_eq_zero.1 (by omega)
    · rintro rfl
      have hlen : data.length = HEADER_SIZE := by
        have := congrArg List.length hR
        simp only [List.append_nil, Frame.bytes, List.length_append, G.length_header] at this
        exact le_antisymm hb (by omega)
      obtain ⟨hd, hp⟩ := header_split hR hlen
      exact ⟨hlen, G.type, by rw [hd, ← hp]; rfl⟩
  | recvPayload t n data =>
    obtain ⟨-, rfl, hp⟩ := hR
    have := congrArg List.length hp
    simp only [List.length_append] at this
    exact ⟨fun h => List.length_eq_zero.1 (by simp only [Pc.ResponseRead] at h; omega),
      fun h => by simp only [Pc.ResponseRead]; rw [h] at this; simpa using this⟩
  | start | done => exact iff_of_false id hR.elim

theorem Requests.unique {req : Tid → Int × Bytes} {c : Tid} {F F' : Frame}
    (h : Requests req c F) (h' : Requests req c F') : F = F' :=
  Except.ok.inj (h.symm.trans h')

/-- **A failure inside `call`.** From any state a fault-free run reaches, a thread inside
    the lock that raises leaves the client open, and leaves both streams empty exactly when
    it had sent nothing of its request frame, or had read the whole response to it. -/
theorem failure_in_step (req : Tid → Int × Bytes) (answer : Nat → Frame → Frame) (s : Sys)
    (hs : Reachable req answer s) (c : Tid) (hc : (s.pc c).Busy) (e : PyExc) :
    (s.release c (.error e)).closed = false ∧
      (InStep (s.release c (.error e)) ↔
        (∃ F, Requests req c F ∧ s.pc c = .sending F.bytes) ∨ (s.pc c).ResponseRead) := by
  have hi := Inv.reachable req answer hs
  refine ⟨hi.threads.isOpen, ?_⟩
  show InStep s ↔ _
  obtain ⟨F, hF, ⟨-, hu, htc, hw⟩ | ⟨-, -, -, hth, hu, hR⟩⟩ :=
    (streams_some_iff (hi.holder_of_busy hc)).1 hi.streams
  · -- the helper has not answered: only an unsent request leaves nothing in flight
    have hr : ¬(s.pc c).ResponseRead := by
      revert hw
      cases s.pc c <;> simp +contextual [Pc.Waiting, Pc.ResponseRead, HEADER_SIZE]
    rw [or_iff_left hr]
    constructor
    · rintro ⟨hth, -⟩
      rw [hth, List.nil_append] at hu
      refine ⟨F, hF, ?_⟩
      revert hu hw
      cases s.pc c <;> simp_all [Pc.unsent, Pc.Waiting, F.bytes_ne_nil, eq_comm]
    · rintro ⟨F', hF', hpc⟩
      rw [hpc, ← hF.unique hF'] at hu
      exact ⟨List.append_left_eq_self.1 hu, htc⟩
  · -- the helper has answered: in step once the answer is read
    rw [InStep, hth, ← Pc.responseRead_iff hR (ReadsBounded.reachable hs c),
      or_iff_right, and_iff_right rfl]
    rintro ⟨F', hF', hpc⟩
    rw [hpc, ← hF.unique hF'] at hu
    exact F.bytes_ne_nil hu

/-- Thread `0` is interrupted after reading the whole echo of its request: the streams are
    empty. -/
theorem failure_in_step_after_response : ∃ s, Reachable tagged echo s ∧
    s.pc 0 = .recvPayload MSG_RESPONSE 1 [byte 0] ∧
    (s.release 0 (.error .keyboardInterrupt)).closed = false ∧
    InStep (s.release 0 (.error .keyboardInterrupt)) :=
  have hs : Reachable tagged echo _ :=
    .head (.acquire (c := 0) rfl rfl) <|
    .head (@Step.send tagged echo _ 0 (taggedFrame 0).bytes [] rfl (by decide)) <|
    .head (.sent (c := 0) rfl) <|
    .head (@Step.serve tagged echo _ [] (taggedFrame 0) rfl) <|
    .head (@Step.recvHeader tagged echo _ 0 [] (echo 0 (taggedFrame 0)).header
      [byte 0] rfl rfl (by decide) (by decide)) <|
    .head (.header (c := 0) rfl rfl) <|
    .single (@Step.recvPayload tagged echo _ 0 MSG_RESPONSE 1 [] [byte 0] []
      rfl rfl (by decide) (by decide))
  let ⟨hopen, hstep⟩ := failure_in_step tagged echo _ hs 0 trivial .keyboardInterrupt
  ⟨_, hs, rfl, hopen, hstep.2 (.inr rfl)⟩

/-! ## The interleaving that misroutes a response -/

/-- Thread `0` sends its request, the helper answers it, and a `KeyboardInterrupt` ends
    thread `0`'s call before it reads the answer.  The client stays open; thread `1` then
    calls, and returns the echo of thread `0`'s payload instead of its own. -/
theorem interrupted_call_misroutes :
    ∃ s, FaultReachable tagged echo s ∧ s.closed = false ∧
      s.pc 0 = .done (.error .keyboardInterrupt) ∧ s.pc 1 = .done (.ok [byte 0]) :=
  ⟨_, .head (.step (.acquire (c := 0) rfl rfl)) <|
    .head (.step (@Step.send tagged echo _ 0 (taggedFrame 0).bytes [] rfl (by decide))) <|
    .head (.step (@Step.serve tagged echo _ [] (taggedFrame 0) rfl)) <|
    .head (.fail .keyboardInterrupt (c := 0) trivial) <|
    .head (.step (.acquire (c := 1) rfl rfl)) <|
    .head (.step (@Step.send tagged echo _ 1 (taggedFrame 1).bytes [] rfl (by decide))) <|
    .head (.step (.sent (c := 1) rfl)) <|
    .head (.step (@Step.recvHeader tagged echo _ 1 [] (echo 0 (taggedFrame 0)).header
      [byte 0] rfl rfl (by decide) (by decide))) <|
    .head (.step (.header (c := 1) rfl rfl)) <|
    .head (.step (@Step.recvPayload tagged echo _ 1 MSG_RESPONSE 1 [] [byte 0] []
      rfl rfl (by decide) (by decide))) <|
    .single (.step (.finish (c := 1) rfl rfl)),
    rfl, rfl, rfl⟩

end CrumbleCracker
