import CrumbleCracker.Errors

/-!
# The wrappers and the handles they hold (`instance.py`, `cmd.py`)

`File`, `Snapshot`, `Listener`, `Conn`, `Cmd` and `Instance` each hold one resource of the
helper (IPC) or of the native library (FFI).  Every method has an IPC branch, which calls
`_ffi.get_ipc_backend()`, and an FFI branch, which calls `lib.cc_…`; a wrapper's `_ipc`
picks the branch.  Here a method is a statement over the wrapper's attributes that records
each call it makes, with the operation's name, the handle it passes and whether the call
succeeded; `ans` says which calls succeed, the same for both branches.  An IPC call raises
when it fails; a native call raises only when `check_error` follows it.

`File`, `Snapshot`, `Listener` and `Conn` have one shape (`Closable`): `close()` releases the
handle once and sets `_closed`, and every other method first checks `_closed`.  `Cmd` and
`Instance` have bodies of their own.

## Results

* `Closable.run_noUseAfterRelease`: for `File`, `Snapshot`, `Listener` and `Conn`, under
  either backend and for every sequence of method calls, no call names the handle after a
  release that succeeded.
* `Cmd.ffi_noUseAfterRelease`, `Instance.ffi_noUseAfterRelease`: the same for the FFI
  branches of `Cmd` and `Instance`, whose methods go through the `handle` properties.
* `cmd_used_after_kill`: the IPC branches read `self._handle` past those checks: under IPC,
  `cmd.kill()` then `cmd.set_dir(d)` sends `cmd_set_dir` with the killed command's handle,
  and `instance.close()` then `instance.command(name)` sends `cmd_new`.

The proofs share one argument (`runAll_noUseAfterRelease`): a method that does nothing once
its release flag is up, and otherwise makes at most one call and raises the flag when that
call was a release that succeeded (`Guards`), keeps the log free of uses after a release.
-/

namespace CrumbleCracker

/-! ## 1. Calls -/

/-- The branch a wrapper runs: `_ipc`. -/
inductive Backend
  | ipc
  | ffi
  deriving DecidableEq, Repr

/-- A call of a wrapper: the operation, by the name of its `IPCBackend` method (the native
    function is `cc_` and the same name), and the handle it passes (`none` for the
    instance's own calls under IPC, which pass none). -/
structure Call where
  op : String
  handle : Option Int
  deriving DecidableEq, Repr

/-- A wrapper's attributes, and the calls it has made, each with whether it succeeded. -/
structure Wrapped (σ : Type) where
  self : σ
  calls : List (Call × Bool)

/-- A method of a wrapper. -/
abbrev WrapperM (σ α : Type) := PyM (Wrapped σ) α

/-- A branch raises a failed call's error: always under IPC, and under FFI when the
    native call is followed by `check_error` (`ffiChecked`). -/
def Backend.checks (b : Backend) (ffiChecked : Bool) : Bool :=
  match b with
  | .ipc => true
  | .ffi => ffiChecked

/-- The answer under which every call succeeds. -/
def allSucceed (_ : Call) : Except PyExc Unit := .ok ()

section Calls

variable {σ : Type} (ans : Call → Except PyExc Unit)

/-- The log after the call `c`. -/
def Wrapped.push (w : Wrapped σ) (c : Call) : Wrapped σ :=
  { w with calls := w.calls ++ [(c, (ans c).isOk)] }

/-- The call `c`, raising its error when `checked`. -/
def callOn (checked : Bool) (c : Call) : WrapperM σ Unit := do
  modify fun w => w.push ans c
  if checked then PyM.ofExcept (ans c)

/-- `self.attr = value`. -/
def setSelf (f : σ → σ) : WrapperM σ Unit := modify fun w => { w with self := f w.self }

@[simp] theorem Wrapped.push_self (w : Wrapped σ) (c : Call) : (w.push ans c).self = w.self :=
  rfl

@[simp] theorem Wrapped.push_calls (w : Wrapped σ) (c : Call) :
    (w.push ans c).calls = w.calls ++ [(c, (ans c).isOk)] := rfl

theorem run_callOn (checked : Bool) (c : Call) (w : Wrapped σ) :
    (callOn ans checked c).run w = (if checked then ans c else .ok (), w.push ans c) := by
  unfold callOn
  cases checked <;> cases ans c <;> rfl

@[simp] theorem run_setSelf (f : σ → σ) (w : Wrapped σ) :
    (setSelf f).run w = (.ok (), { w with self := f w.self }) := rfl

/-! What a method leaves, statement by statement. -/

theorem snd_run_get_bind {α : Type} (f : Wrapped σ → WrapperM σ α) (w : Wrapped σ) :
    ((get >>= f).run w).2 = ((f w).run w).2 := rfl

theorem snd_run_throw_bind {α β : Type} (e : PyExc) (f : α → WrapperM σ β) (w : Wrapped σ) :
    ((throw e >>= f).run w).2 = w := rfl

theorem snd_run_setSelf_bind {α : Type} (g : σ → σ) (f : Unit → WrapperM σ α) (w : Wrapped σ) :
    ((setSelf g >>= f).run w).2 = ((f ()).run { w with self := g w.self }).2 := rfl

theorem snd_run_callOn (checked : Bool) (c : Call) (w : Wrapped σ) :
    ((callOn ans checked c).run w).2 = w.push ans c := by
  rw [run_callOn]

/-- A call that raises ends the method. -/
theorem snd_run_callOn_bind {α : Type} (checked : Bool) (c : Call) (f : Unit → WrapperM σ α)
    (w : Wrapped σ) :
    ((callOn ans checked c >>= f).run w).2 =
      if checked = true ∧ (ans c).isOk = false then w.push ans c
      else ((f ()).run (w.push ans c)).2 := by
  rw [PyM.run_bind, run_callOn]
  cases checked <;> cases ans c <;> rfl

end Calls

/-- A method sequence: each method runs on what the last one left, whether it returned or
    raised (a caller that catches the exception and goes on). -/
def runAll {σ : Type} (ms : List (WrapperM σ Unit)) (w : Wrapped σ) : Wrapped σ :=
  ms.foldl (fun w m => (m.run w).2) w

/-- A property every method of a sequence keeps holds after the sequence. -/
theorem runAll_inv {σ : Type} (P : Wrapped σ → Prop) {ms : List (WrapperM σ Unit)}
    (hm : ∀ m ∈ ms, ∀ w, P w → P (m.run w).2) {w : Wrapped σ} (hw : P w) : P (runAll ms w) := by
  induction ms generalizing w with
  | nil => exact hw
  | cons m ms ih =>
    exact ih (fun m' hm' => hm m' (List.mem_cons_of_mem _ hm')) (hm m (List.mem_cons_self _ _) w hw)

/-! ## 2. Releases -/

/-- The calls that release a resource. -/
def releaseOps : List String :=
  ["file_close", "snapshot_close", "listener_close", "conn_close", "cmd_free", "cmd_kill",
    "instance_close"]

/-- No call of the log is a release that succeeded. -/
def NoRelease (calls : List (Call × Bool)) : Prop :=
  ∀ x ∈ calls, x.2 = true → x.1.op ∉ releaseOps

/-- After a release that succeeded, no call names the released handle. -/
def NoUseAfterRelease (calls : List (Call × Bool)) : Prop :=
  ∀ pre c post, calls = pre ++ (c, true) :: post → c.op ∈ releaseOps →
    ∀ d ∈ post, d.1.handle ≠ c.handle

theorem NoRelease.append {calls : List (Call × Bool)} (h : NoRelease calls) {x : Call × Bool}
    (hx : x.2 = true → x.1.op ∉ releaseOps) : NoRelease (calls ++ [x]) := by
  intro y hy
  rcases List.mem_append.1 hy with hy | hy
  · exact h y hy
  · rw [List.mem_singleton.1 hy]
    exact hx

/-- A log without a successful release, followed by one more call, has no use after a
    release: only the last call can be one. -/
theorem NoRelease.noUseAfterRelease_append {calls : List (Call × Bool)} (h : NoRelease calls)
    (x : Call × Bool) : NoUseAfterRelease (calls ++ [x]) := by
  intro pre c post he hc d hd
  obtain ⟨post, y, rfl⟩ := (List.eq_nil_or_concat post).resolve_left (List.ne_nil_of_mem hd)
  rw [List.concat_eq_append, ← List.cons_append, ← List.append_assoc] at he
  obtain ⟨rfl, -⟩ := List.append_inj' he rfl
  exact (h (c, true) (List.mem_append_right _ (List.mem_cons_self _ _)) rfl hc).elim

/-- A log where no call was made. -/
theorem NoRelease.nil : NoRelease [] := fun _ h => nomatch h

/-! ## 3. Methods guarded by a release flag -/

section Guards

variable {σ : Type} (released : σ → Bool)

/-- What a method may do to a wrapper whose flag is down: no call, or one call, after which
    the flag is up when that call is a release that succeeded. -/
def ReleaseStep (w w' : Wrapped σ) : Prop :=
  w'.calls = w.calls ∨ ∃ x, w'.calls = w.calls ++ [x] ∧
    (x.2 = true → x.1.op ∈ releaseOps → released w'.self = true)

/-- A method that does nothing once `released` holds, and otherwise takes a `ReleaseStep`. -/
def Guards (m : WrapperM σ Unit) : Prop :=
  ∀ w : Wrapped σ, (released w.self = true → (m.run w).2 = w) ∧
    (released w.self = false → ReleaseStep released w (m.run w).2)

/-- No release succeeded while the flag is down, and nothing named a handle after its
    release. -/
def ReleaseInv (w : Wrapped σ) : Prop :=
  (released w.self = false → NoRelease w.calls) ∧ NoUseAfterRelease w.calls

variable {released} (ans : Call → Except PyExc Unit) {w : Wrapped σ}

theorem ReleaseStep.refl : ReleaseStep released w w := .inl rfl

/-- One call, after which the attributes are `s`. -/
theorem ReleaseStep.push (c : Call) (s : σ)
    (h : (ans c).isOk = true → c.op ∈ releaseOps → released s = true) :
    ReleaseStep released w ⟨s, (w.push ans c).calls⟩ :=
  .inr ⟨_, rfl, h⟩

theorem ReleaseStep.push_of_not_release {c : Call} (hc : c.op ∉ releaseOps) (s : σ) :
    ReleaseStep released w ⟨s, (w.push ans c).calls⟩ :=
  .push ans c s fun _ h => absurd h hc

theorem ReleaseStep.ite {p : Prop} [Decidable p] {a b : Wrapped σ}
    (ha : p → ReleaseStep released w a) (hb : ¬p → ReleaseStep released w b) :
    ReleaseStep released w (if p then a else b) := by
  split_ifs with h
  exacts [ha h, hb h]

theorem ReleaseInv.fresh (s : σ) : ReleaseInv released ⟨s, []⟩ :=
  ⟨fun _ => NoRelease.nil, fun pre _ _ he => absurd he (by simp)⟩

theorem ReleaseInv.step {m : WrapperM σ Unit} (hm : Guards released m)
    (hw : ReleaseInv released w) : ReleaseInv released (m.run w).2 := by
  cases hr : released w.self
  · rcases (hm w).2 hr with he | ⟨x, hx, hrel⟩
    · exact ⟨fun _ => he ▸ hw.1 hr, he ▸ hw.2⟩
    · have hnr := hw.1 hr
      refine ⟨fun hr' => hx ▸ hnr.append fun h1 h2 => ?_, hx ▸ hnr.noUseAfterRelease_append x⟩
      simpa [hr'] using hrel h1 h2
  · rw [(hm w).1 hr]
    exact hw

/-- **No use after release.** When every method of a sequence is guarded by the release
    flag, no call of the sequence names a handle after its release succeeded. -/
theorem runAll_noUseAfterRelease {ms : List (WrapperM σ Unit)} (hms : ∀ m ∈ ms, Guards released m)
    (hw : ReleaseInv released w) : NoUseAfterRelease (runAll ms w).calls :=
  (runAll_inv (ReleaseInv released) (fun m hm _ hw => hw.step (hms m hm)) hw).2

end Guards

/-! ## 4. `File`, `Snapshot`, `Listener`, `Conn` -/

/-- The attributes the four closable wrappers share: the handle and `_closed`. -/
structure Closable where
  handle : Option Int
  closed : Bool
  deriving DecidableEq, Repr

/-- What a closable class fixes: its release call, and the message of the
    `CCError(…, code=4)` its methods raise once closed. -/
structure ClosableClass where
  release : String
  closedMessage : String

/-- A method of a closable wrapper. -/
inductive ClosableMethod
  /-- `close()`, and `__exit__` and `__del__`, which call it -/
  | close
  /-- a method that raises once closed, and calls `op` (`check_error` after it under FFI
      when `ffiChecked`) -/
  | guarded (op : String) (ffiChecked : Bool)
  /-- a property that returns its closed-state value once closed, and calls `op` -/
  | query (op : String) (ffiChecked : Bool)
  deriving DecidableEq, Repr

namespace Closable

variable (K : ClosableClass) (b : Backend) (ans : Call → Except PyExc Unit)

/-- `close()`: `if not self._closed and self._handle is not None:` the release call (raised
    under IPC; `lib.cc_…_close(self._handle, byref(err))` leaves `err` unread under FFI),
    then `self._closed = True`. -/
def close : WrapperM Closable Unit := do
  let w ← get
  if !w.self.closed && w.self.handle.isSome then
    callOn ans (b.checks false) ⟨K.release, w.self.handle⟩
    setSelf fun s => { s with closed := true }

/-- `if self._closed: raise CCError(closedMessage, code=4)`, then the call. -/
def guarded (op : String) (ffiChecked : Bool) : WrapperM Closable Unit := do
  let w ← get
  if w.self.closed then throw (.cc (CCError.plain K.closedMessage 4))
  callOn ans (b.checks ffiChecked) ⟨op, w.self.handle⟩

/-- `if self._closed: return <closed-state value>`, then the call. -/
def query (op : String) (ffiChecked : Bool) : WrapperM Closable Unit := do
  let w ← get
  if !w.self.closed then callOn ans (b.checks ffiChecked) ⟨op, w.self.handle⟩

end Closable

/-- The method run. -/
def ClosableMethod.run (K : ClosableClass) (b : Backend) (ans : Call → Except PyExc Unit) :
    ClosableMethod → WrapperM Closable Unit
  | .close => Closable.close K b ans
  | .guarded op c => Closable.guarded K b ans op c
  | .query op c => Closable.query b ans op c

/-- The operation a method other than `close` calls. -/
def ClosableMethod.op? : ClosableMethod → Option String
  | .close => none
  | .guarded op _ | .query op _ => some op

section Members

variable (b : Backend) (ans : Call → Except PyExc Unit)

def fileClass : ClosableClass := ⟨"file_close", "File is closed"⟩
def snapshotClass : ClosableClass := ⟨"snapshot_close", "Snapshot is closed"⟩
def listenerClass : ClosableClass := ⟨"listener_close", "Listener is closed"⟩
def connClass : ClosableClass := ⟨"conn_close", "Connection is closed"⟩

/-- The methods of `File`: `close`, `name` (the path once closed), `read`, `write`, `seek`,
    `sync`, `truncate`, `stat`. -/
def fileMethods : List ClosableMethod :=
  [.close, .query "file_name" false, .guarded "file_read" true, .guarded "file_write" true,
    .guarded "file_seek" true, .guarded "file_sync" true, .guarded "file_truncate" true,
    .guarded "file_stat" true]

/-- The methods of `Snapshot`: `close`, `cache_key`, `parent`, `as_source`. -/
def snapshotMethods : List ClosableMethod :=
  [.close, .guarded "snapshot_cache_key" false, .guarded "snapshot_parent" false,
    .guarded "snapshot_as_source" false]

/-- The methods of `Listener`: `close`, `addr` (`""` once closed), `accept`. -/
def listenerMethods : List ClosableMethod :=
  [.close, .query "listener_addr" false, .guarded "listener_accept" true]

/-- The methods of `Conn`: `close`, `local_addr` and `remote_addr` (`""` once closed),
    `read`, `write`. -/
def connMethods : List ClosableMethod :=
  [.close, .query "conn_local_addr" false, .query "conn_remote_addr" false,
    .guarded "conn_read" true, .guarded "conn_write" true]

end Members

/-! ### The closable law -/

section ClosableLaw

variable (K : ClosableClass) (b : Backend) (ans : Call → Except PyExc Unit)

theorem Closable.run_close (w : Wrapped Closable) :
    ((Closable.close K b ans).run w).2 =
      if w.self.closed = false ∧ w.self.handle.isSome = true then
        if b.checks false = true ∧ (ans ⟨K.release, w.self.handle⟩).isOk = false then
          w.push ans ⟨K.release, w.self.handle⟩
        else { w.push ans ⟨K.release, w.self.handle⟩ with self := { w.self with closed := true } }
      else w := by
  unfold Closable.close
  rw [PyM.run_bind, PyM.run_get]
  dsimp only
  by_cases h : w.self.closed = false ∧ w.self.handle.isSome = true
  · rw [if_pos (by simpa using h), if_pos h, PyM.run_bind, run_callOn]
    cases b.checks false <;> cases hc : ans ⟨K.release, w.self.handle⟩ <;>
      simp [hc, Except.isOk, Except.toBool]
  · rw [if_neg (by simpa using h), if_neg h]
    rfl

theorem Closable.run_guarded (op : String) (c : Bool) (w : Wrapped Closable) :
    ((Closable.guarded K b ans op c).run w).2 =
      if w.self.closed then w else w.push ans ⟨op, w.self.handle⟩ := by
  unfold Closable.guarded
  rw [PyM.run_bind, PyM.run_get]
  cases hc : w.self.closed <;> simp only [hc, Bool.false_eq_true, if_false, if_true, pure_bind,
    PyM.run_bind, PyM.run_throw, run_callOn]

theorem Closable.run_query (op : String) (c : Bool) (w : Wrapped Closable) :
    ((Closable.query b ans op c).run w).2 =
      if w.self.closed then w else w.push ans ⟨op, w.self.handle⟩ := by
  unfold Closable.query
  rw [PyM.run_bind, PyM.run_get]
  cases hc : w.self.closed <;> simp only [hc, Bool.not_false, Bool.not_true, Bool.false_eq_true,
    if_false, if_true, run_callOn, PyM.run_pure]

/-- Every method of a closable class is guarded by `_closed`, when the calls other than its
    release are not releases. -/
theorem ClosableMethod.guards (m : ClosableMethod)
    (hm : ∀ op ∈ m.op?, op ∉ releaseOps) : Guards Closable.closed (m.run K b ans) := by
  intro w
  cases m with
  | close =>
    simp only [ClosableMethod.run, Closable.run_close]
    refine ⟨fun h => by simp [h], fun _ => .ite (fun _ => .ite (fun h => ?_) fun _ => ?_) fun _ => .refl⟩
    · exact .push ans _ _ fun h₁ => absurd h₁ (by simp [h.2])
    · exact .push ans _ _ fun _ _ => rfl
  | guarded op c | query op c =>
    simp only [ClosableMethod.run, Closable.run_guarded, Closable.run_query]
    refine ⟨fun h => by simp [h], fun _ => .ite (fun _ => .refl) fun _ => ?_⟩
    exact .push_of_not_release ans (hm op rfl) w.self

end ClosableLaw

/-- **`File`, `Snapshot`, `Listener` and `Conn` never use a released handle.** Under either
    backend, whatever the calls report, after any sequence of method calls on a new wrapper
    no call names the handle after a release that succeeded. -/
theorem Closable.run_noUseAfterRelease (b : Backend) (ans : Call → Except PyExc Unit) :
    ∀ K methods, (K, methods) ∈ [(fileClass, fileMethods), (snapshotClass, snapshotMethods),
        (listenerClass, listenerMethods), (connClass, connMethods)] →
      ∀ (ms : List ClosableMethod), (∀ m ∈ ms, m ∈ methods) → ∀ s : Closable,
        NoUseAfterRelease (runAll (ms.map (·.run K b ans)) ⟨s, []⟩).calls := by
  intro K methods hK ms hms s
  have hsafe : ∀ m ∈ methods, ∀ op ∈ m.op?, op ∉ releaseOps := by
    simp only [List.mem_cons, Prod.mk.injEq, List.mem_nil_iff, or_false] at hK
    rcases hK with ⟨rfl, rfl⟩ | ⟨rfl, rfl⟩ | ⟨rfl, rfl⟩ | ⟨rfl, rfl⟩ <;> decide
  refine runAll_noUseAfterRelease (fun m hm => ?_) (.fresh s : ReleaseInv Closable.closed ⟨s, []⟩)
  obtain ⟨m, hm', rfl⟩ := List.mem_map.1 hm
  exact m.guards K b ans (hsafe m (hms m hm'))

/-- `f.read()`, `f.close()`, `f.read()` on a `File` under IPC. -/
theorem run_noUseAfterRelease_file :
    ((fileClass, fileMethods) ∈ [(fileClass, fileMethods), (snapshotClass, snapshotMethods),
        (listenerClass, listenerMethods), (connClass, connMethods)] ∧
      ∀ m ∈ [ClosableMethod.guarded "file_read" true, .close, .guarded "file_read" true],
        m ∈ fileMethods) ∧
    NoUseAfterRelease (runAll ([ClosableMethod.guarded "file_read" true, .close,
      .guarded "file_read" true].map (·.run fileClass .ipc allSucceed)) ⟨⟨some 3, false⟩, []⟩).calls :=
  ⟨⟨List.mem_cons_self _ _, by decide⟩,
    Closable.run_noUseAfterRelease .ipc allSucceed _ _ (List.mem_cons_self _ _) _ (by decide) _⟩

/-! ## 5. `Cmd` -/

/-- A `Cmd`: `_handle` (`0` for a null handle), `_started` and `_freed`. -/
structure Cmd where
  handle : Int
  started : Bool
  freed : Bool
  deriving DecidableEq, Repr

/-- `CCError("Cmd has been freed", code=4)`. -/
def cmdFreed : PyExc := .cc (CCError.plain "Cmd has been freed" 4)

/-- `CCError("Cmd has already been started", code=2)`. -/
def cmdAlreadyStarted : PyExc := .cc (CCError.plain "Cmd has already been started" 2)

/-- `CCError("Cmd has not been started", code=2)`. -/
def cmdNotStarted : PyExc := .cc (CCError.plain "Cmd has not been started" 2)

namespace Cmd

variable (b : Backend) (ans : Call → Except PyExc Unit)

/-- The handle a branch passes: `self._handle` under IPC; under FFI the `handle` property,
    which raises `CCError("Cmd has been freed", code=4)` once `_freed`. -/
def handleFor : WrapperM Cmd Int := do
  let w ← get
  match b with
  | .ipc => return w.self.handle
  | .ffi => if w.self.freed then throw cmdFreed else return w.self.handle

/-- `set_dir`, `set_env`, `get_env`, `environ` and `exit_code`: the call on the handle, its
    error raised under FFI when `ffiChecked`. -/
def onHandle (op : String) (ffiChecked : Bool) : WrapperM Cmd Unit := do
  let h ← handleFor b
  callOn ans (b.checks ffiChecked) ⟨op, some h⟩

def setDir : WrapperM Cmd Unit := onHandle b ans "cmd_set_dir" true
def setEnv : WrapperM Cmd Unit := onHandle b ans "cmd_set_env" true
def getEnv : WrapperM Cmd Unit := onHandle b ans "cmd_get_env" false
def environ : WrapperM Cmd Unit := onHandle b ans "cmd_environ" true
def exitCode : WrapperM Cmd Unit := onHandle b ans "cmd_exit_code" false

/-- `start()`: `CCError("Cmd has already been started", code=2)` once `_started`; the call,
    then `self._started = True`. -/
def start : WrapperM Cmd Unit := do
  if (← get).self.started then throw cmdAlreadyStarted
  let h ← handleFor b
  callOn ans true ⟨"cmd_start", some h⟩
  setSelf fun s => { s with started := true }

/-- `wait()`: `CCError("Cmd has not been started", code=2)` until `_started`; the call. -/
def wait : WrapperM Cmd Unit := do
  if !(← get).self.started then throw cmdNotStarted
  let h ← handleFor b
  callOn ans true ⟨"cmd_wait", some h⟩

/-- `run()`, `output()` and `combined_output()`: under IPC `self._started = True` before the
    call; under FFI after the native call and before `check_error`. -/
def runOp (op : String) : WrapperM Cmd Unit :=
  match b with
  | .ipc => do
    setSelf fun s => { s with started := true }
    let h ← handleFor .ipc
    callOn ans true ⟨op, some h⟩
  | .ffi => do
    let h ← handleFor .ffi
    callOn ans false ⟨op, some h⟩
    setSelf fun s => { s with started := true }
    PyM.ofExcept (ans ⟨op, some h⟩)

def run : WrapperM Cmd Unit := runOp b ans "cmd_run"
def output : WrapperM Cmd Unit := runOp b ans "cmd_output"
def combinedOutput : WrapperM Cmd Unit := runOp b ans "cmd_combined_output"

/-- `kill()`: nothing once `_freed`; the call, then `self._freed = True`. -/
def kill : WrapperM Cmd Unit := do
  if (← get).self.freed then return
  let h ← handleFor b
  callOn ans true ⟨"cmd_kill", some h⟩
  setSelf fun s => { s with freed := true }

/-- `_free()`, which `__del__` runs: `if not self._freed and not self._started and
    self._handle:` the call on `self._handle` (`cc_cmd_free` reports nothing), then
    `self._freed = True`. -/
def free : WrapperM Cmd Unit := do
  let w ← get
  if !w.self.freed && !w.self.started && w.self.handle != 0 then
    callOn ans (b.checks false) ⟨"cmd_free", some w.self.handle⟩
    setSelf fun s => { s with freed := true }

/-- The methods of a `Cmd`. -/
def methods : List (WrapperM Cmd Unit) :=
  [setDir b ans, setEnv b ans, getEnv b ans, environ b ans, exitCode b ans, start b ans,
    wait b ans, run b ans, output b ans, combinedOutput b ans, kill b ans, free b ans]

/-! ### The FFI branch -/

theorem run_handleFor_ffi (w : Wrapped Cmd) :
    (handleFor .ffi).run w = if w.self.freed then (.error cmdFreed, w) else (.ok w.self.handle, w) := by
  rw [handleFor, PyM.run_bind, PyM.run_get]
  cases hc : w.self.freed <;> simp only [hc, if_true, if_false, Bool.false_eq_true] <;> rfl

theorem snd_run_handleFor_ffi_bind {α : Type} (f : Int → WrapperM Cmd α) (w : Wrapped Cmd) :
    ((handleFor .ffi >>= f).run w).2 = if w.self.freed then w else ((f w.self.handle).run w).2 := by
  rw [PyM.run_bind, run_handleFor_ffi]
  cases w.self.freed <;> rfl

theorem guards_onHandle {op : String} (hop : op ∉ releaseOps) (c : Bool) :
    Guards Cmd.freed (onHandle .ffi ans op c) := by
  intro w
  simp only [onHandle, snd_run_handleFor_ffi_bind, snd_run_callOn]
  refine ⟨fun h => by simp [h], fun h => ?_⟩
  rw [h, if_neg Bool.false_ne_true]
  exact .push_of_not_release ans hop w.self

theorem guards_start : Guards Cmd.freed (start .ffi ans) := by
  intro w
  simp only [start, snd_run_get_bind]
  cases hs : w.self.started <;>
    simp only [if_true, if_false, Bool.false_eq_true, pure_bind, snd_run_throw_bind,
      snd_run_handleFor_ffi_bind, snd_run_callOn_bind, run_setSelf]
  · refine ⟨fun h => by simp [h], fun h => ?_⟩
    rw [h, if_neg Bool.false_ne_true]
    have hop : "cmd_start" ∉ releaseOps := by decide
    exact .ite (fun _ => .push_of_not_release ans hop _) fun _ => .push_of_not_release ans hop _
  · exact ⟨fun _ => trivial, fun _ => .refl⟩

theorem guards_wait : Guards Cmd.freed (wait .ffi ans) := by
  intro w
  simp only [wait, snd_run_get_bind]
  cases hs : w.self.started <;>
    simp only [Bool.not_false, Bool.not_true, if_true, if_false, Bool.false_eq_true, pure_bind,
      snd_run_throw_bind, snd_run_handleFor_ffi_bind, snd_run_callOn]
  · exact ⟨fun _ => trivial, fun _ => .refl⟩
  · refine ⟨fun h => by simp [h], fun h => ?_⟩
    rw [h, if_neg Bool.false_ne_true]
    exact .push_of_not_release ans (by decide : "cmd_wait" ∉ releaseOps) _

theorem guards_runOp {op : String} (hop : op ∉ releaseOps) :
    Guards Cmd.freed (runOp .ffi ans op) := by
  intro w
  simp only [runOp, snd_run_handleFor_ffi_bind, snd_run_callOn_bind, snd_run_setSelf_bind,
    PyM.run_ofExcept, Bool.false_eq_true, false_and, if_false]
  refine ⟨fun h => by simp [h], fun h => ?_⟩
  rw [h, if_neg Bool.false_ne_true]
  exact .push_of_not_release ans hop _

theorem guards_kill : Guards Cmd.freed (kill .ffi ans) := by
  refine fun w => ⟨fun h => ?_, fun h => ?_⟩ <;>
    simp only [kill, snd_run_get_bind, h, if_true, if_false, Bool.false_eq_true, pure_bind,
      PyM.run_pure, snd_run_handleFor_ffi_bind, snd_run_callOn_bind, run_setSelf]
  exact .ite (fun h => .push ans _ _ fun h' => absurd h' (by simp [h.2]))
    fun _ => .push ans _ _ fun _ _ => rfl

theorem guards_free : Guards Cmd.freed (free .ffi ans) := by
  intro w
  simp only [free, snd_run_get_bind]
  split_ifs with h
  · simp only [snd_run_callOn_bind, Backend.checks, Bool.false_eq_true, false_and, if_false,
      run_setSelf]
    exact ⟨fun h' => by simp [h'] at h, fun _ => .push ans _ _ fun _ _ => rfl⟩
  · exact ⟨fun _ => rfl, fun _ => .refl⟩

/-- **The FFI branch of `Cmd` never uses a freed handle.** After any sequence of its
    methods on any command, whatever the native calls report, no call names the handle after
    `cmd_kill` or `cmd_free` succeeded. -/
theorem ffi_noUseAfterRelease (ms : List (WrapperM Cmd Unit)) (hms : ∀ m ∈ ms, m ∈ methods .ffi ans)
    (s : Cmd) : NoUseAfterRelease (runAll ms ⟨s, []⟩).calls := by
  have hg : ∀ m ∈ methods .ffi ans, Guards Cmd.freed m := by
    simp only [methods, List.mem_cons, List.mem_nil_iff, or_false]
    rintro m (rfl | rfl | rfl | rfl | rfl | rfl | rfl | rfl | rfl | rfl | rfl | rfl)
    exacts [guards_onHandle ans (by decide : "cmd_set_dir" ∉ releaseOps) true,
      guards_onHandle ans (by decide : "cmd_set_env" ∉ releaseOps) true,
      guards_onHandle ans (by decide : "cmd_get_env" ∉ releaseOps) false,
      guards_onHandle ans (by decide : "cmd_environ" ∉ releaseOps) true,
      guards_onHandle ans (by decide : "cmd_exit_code" ∉ releaseOps) false,
      guards_start ans, guards_wait ans,
      guards_runOp ans (by decide : "cmd_run" ∉ releaseOps),
      guards_runOp ans (by decide : "cmd_output" ∉ releaseOps),
      guards_runOp ans (by decide : "cmd_combined_output" ∉ releaseOps),
      guards_kill ans, guards_free ans]
  exact runAll_noUseAfterRelease (fun m hm => hg m (hms m hm)) (.fresh s)

end Cmd

/-! ## 6. `Instance` -/

/-- The instance a wrapper created.  Its attributes are those of a closable wrapper: `_handle`
    (`None` under IPC, where the helper holds its one instance and the calls pass no handle)
    and `_closed`. -/
def instanceClass : ClosableClass := ⟨"instance_close", "Instance is closed"⟩

/-- The methods of `Instance` that check `_closed` as the closable wrappers do: `id` and
    `is_running` (`""` and `False` once closed), `wait` (nothing once closed), and the methods
    that raise `CCError("Instance is closed", code=4)` once closed. -/
def instanceOps : List ClosableMethod :=
  [.query "instance_id" false, .query "instance_is_running" false, .query "instance_wait" true,
    .guarded "instance_set_console" true, .guarded "instance_set_network" true,
    .guarded "fs_open" true, .guarded "fs_create" true, .guarded "fs_open_file" true,
    .guarded "fs_read_file" true, .guarded "fs_write_file" true, .guarded "fs_stat" true,
    .guarded "fs_lstat" true, .guarded "fs_remove" true, .guarded "fs_remove_all" true,
    .guarded "fs_mkdir" true, .guarded "fs_mkdir_all" true, .guarded "fs_rename" true,
    .guarded "fs_symlink" true, .guarded "fs_readlink" true, .guarded "fs_read_dir" true,
    .guarded "fs_chmod" true, .guarded "fs_chown" true, .guarded "fs_chtimes" true,
    .guarded "instance_exec" true, .guarded "net_listen" true, .guarded "fs_snapshot" true]

namespace Instance

variable (b : Backend) (ans : Call → Except PyExc Unit)

/-- `close()`: if not `_closed`, under IPC `instance_close()`, raised; under FFI, `elif
    self._handle:` the native call, whose error is not read; then `self._closed = True`. -/
def close : WrapperM Closable Unit := do
  let w ← get
  if !w.self.closed then
    match b with
    | .ipc => callOn ans true ⟨"instance_close", none⟩
    | .ffi => if w.self.handle.isSome then callOn ans false ⟨"instance_close", w.self.handle⟩
    setSelf fun s => { s with closed := true }

/-- `command(name, *args)` and `entrypoint_command(*args)`, which build a `Cmd` by `op`
    (`cmd_new`, `cmd_entrypoint`): under IPC the call, with no look at `_closed`; under FFI
    the call on `instance.handle`, the property that raises `CCError("Instance is closed",
    code=4)` once closed. -/
def command (op : String) : WrapperM Closable Unit :=
  match b with
  | .ipc => callOn ans true ⟨op, none⟩
  | .ffi => Closable.guarded instanceClass .ffi ans op true

/-- The methods of an `Instance`. -/
def methods : List (WrapperM Closable Unit) :=
  close b ans :: command b ans "cmd_new" :: command b ans "cmd_entrypoint" ::
    instanceOps.map (·.run instanceClass b ans)

theorem guards_close : Guards Closable.closed (close b ans) := by
  refine fun w => ⟨fun h => ?_, fun h => ?_⟩ <;>
    simp only [close, snd_run_get_bind, h, Bool.not_true, Bool.not_false, if_true, if_false,
      Bool.false_eq_true, PyM.run_pure]
  cases b with
  | ipc =>
    simp only [snd_run_callOn_bind, run_setSelf]
    exact .ite (fun h => .push ans _ _ fun h' => absurd h' (by simp [h.2]))
      fun _ => .push ans _ _ fun _ _ => rfl
  | ffi =>
    by_cases hs : w.self.handle.isSome <;>
      simp only [hs, if_true, if_false, Bool.false_eq_true, snd_run_callOn_bind, false_and,
        pure_bind, run_setSelf]
    exacts [.push ans _ _ fun _ _ => rfl, .inl rfl]

theorem guards_ops : ∀ m ∈ instanceOps, Guards Closable.closed (m.run instanceClass b ans) :=
  fun m hm => m.guards instanceClass b ans (by revert m; decide)

/-- **The FFI branch of `Instance` never uses a closed instance.** -/
theorem ffi_noUseAfterRelease (ms : List (WrapperM Closable Unit))
    (hms : ∀ m ∈ ms, m ∈ methods .ffi ans) (s : Closable) :
    NoUseAfterRelease (runAll ms ⟨s, []⟩).calls := by
  have hg : ∀ m ∈ methods .ffi ans, Guards Closable.closed m := by
    simp only [methods, List.mem_cons, List.mem_map]
    rintro m (rfl | rfl | rfl | ⟨o, ho, rfl⟩)
    · exact guards_close .ffi ans
    · exact ClosableMethod.guards instanceClass .ffi ans (.guarded "cmd_new" true) (by decide)
    · exact ClosableMethod.guards instanceClass .ffi ans (.guarded "cmd_entrypoint" true)
        (by decide)
    · exact guards_ops .ffi ans o ho
  exact runAll_noUseAfterRelease (fun m hm => hg m (hms m hm)) (.fresh s)

end Instance

/-- **The IPC branch uses released handles.** Under IPC, with every call succeeding, `kill()`
    then `set_dir(d)` on a started command sends `cmd_set_dir` with the handle `cmd_kill`
    released, and `close()` then `command(name)` on an instance sends `cmd_new` to the closed
    instance. -/
theorem cmd_used_after_kill :
    (runAll [Cmd.kill .ipc allSucceed, Cmd.setDir .ipc allSucceed] ⟨⟨5, true, false⟩, []⟩).calls =
        [(⟨"cmd_kill", some 5⟩, true), (⟨"cmd_set_dir", some 5⟩, true)] ∧
      ¬ NoUseAfterRelease
        (runAll [Cmd.kill .ipc allSucceed, Cmd.setDir .ipc allSucceed] ⟨⟨5, true, false⟩, []⟩).calls ∧
      (runAll [Instance.close .ipc allSucceed, Instance.command .ipc allSucceed "cmd_new"]
          ⟨⟨none, false⟩, []⟩).calls =
        [(⟨"instance_close", none⟩, true), (⟨"cmd_new", none⟩, true)] ∧
      ¬ NoUseAfterRelease
        (runAll [Instance.close .ipc allSucceed, Instance.command .ipc allSucceed "cmd_new"]
          ⟨⟨none, false⟩, []⟩).calls :=
  ⟨rfl, fun h => h [] _ _ rfl (by decide) _ (List.mem_singleton_self _) rfl, rfl,
    fun h => h [] _ _ rfl (by decide) _ (List.mem_singleton_self _) rfl⟩

end CrumbleCracker
