import CrumbleCracker.Wrappers.Handles
import CrumbleCracker.Backend.Sources

/-!
# The IPC branch against the FFI branch (`instance.py`, `cmd.py`, `client.py`)

`Wrappers/Handles.lean` runs every method under either branch.  Here the two branches of one
method are run on the same wrapper with the same answer for every call, the IPC call and the
native call reporting the same success or failure, and compared on what the method does
locally: whether it raises a `CCError` without making a call (`RejectsLocally`), and the
attributes it leaves (`_closed`, `_started`, `_freed`).

## Results

* `ClosableMethod.branches_agree`: for `File`, `Snapshot`, `Listener`, `Conn` and `Instance`,
  every method other than `close` leaves the same wrapper under both branches, and the two
  reject the same calls locally: exactly those on a closed wrapper, for the methods that
  raise once closed.
* `Closable.close_branches_agree`, `OCIClient.close_branches_agree`: `close()` agrees when its
  release call succeeds, and always for `OCIClient`.
* `Cmd.branches_agree`: on a command that is not freed, every method but `_free` leaves the
  same command under both branches.
* `closable_runs_agree`, `Cmd.cmd_runs_agree`: over whole runs, the two branches leave the
  same wrapper and make the same calls: for the closable wrappers when every release call
  succeeds, and for `Cmd` until `kill()` or `_free()`.
* `ipc_ffi_branches_diverge`: everywhere else the branches part.  After `kill()`, `set_dir`
  rejects locally under FFI and makes the call under IPC; `close()` whose release fails sets
  `_closed` under FFI only; `run()` after `_free()` sets `_started` under IPC and rejects
  locally under FFI; `command` on a closed instance and `cache_dir` on a closed client reject
  locally under FFI only.
-/

namespace CrumbleCracker

/-- `m` raises a `CCError` on `w` and leaves `w` as it was: no call, no attribute changed. -/
def RejectsLocally {σ α : Type} (m : WrapperM σ α) (w : Wrapped σ) : Prop :=
  ∃ e : CCError, m.run w = (.error (.cc e), w)

theorem Wrapped.push_ne {σ : Type} (ans : Call → Except PyExc Unit) (w : Wrapped σ) (c : Call) :
    w.push ans c ≠ w := fun h => by
  simpa using congrArg (fun w : Wrapped σ => w.calls.length) h

/-- A method that made a call did not reject locally. -/
theorem not_rejectsLocally_of_push {σ α : Type} {ans : Call → Except PyExc Unit}
    {m : WrapperM σ α} {w : Wrapped σ} {c : Call} (h : (m.run w).2 = w.push ans c) :
    ¬ RejectsLocally m w := fun ⟨_, he⟩ =>
  w.push_ne ans c (h.symm.trans (congrArg Prod.snd he))

/-! ## 1. The closable wrappers and `Instance` -/

section Closables

variable (K : ClosableClass) (ans : Call → Except PyExc Unit) (w : Wrapped Closable)

theorem Closable.rejectsLocally_guarded (b : Backend) (op : String) (c : Bool) :
    RejectsLocally (Closable.guarded K b ans op c) w ↔ w.self.closed = true := by
  refine ⟨fun hr => ?_, fun h => ⟨CCError.plain K.closedMessage 4, ?_⟩⟩
  · by_contra h
    have hp : ((Closable.guarded K b ans op c).run w).2 = w.push ans ⟨op, w.self.handle⟩ := by
      rw [Closable.run_guarded, if_neg h]
    exact not_rejectsLocally_of_push hp hr
  · rw [Closable.guarded, PyM.run_bind, PyM.run_get]
    simp only [h, if_true, PyM.run_bind, PyM.run_throw]

theorem Closable.not_rejectsLocally_query (b : Backend) (op : String) (c : Bool) :
    ¬ RejectsLocally (Closable.query b ans op c) w := fun ⟨_, he⟩ => by
  unfold Closable.query at he
  rw [PyM.run_bind, PyM.run_get] at he
  cases hc : w.self.closed <;>
    simp only [hc, Bool.not_false, Bool.not_true, if_true, if_false, Bool.false_eq_true,
      run_callOn, PyM.run_pure, Prod.mk.injEq, reduceCtorEq, false_and] at he
  exact w.push_ne ans _ he.2

/-- **The closable methods agree.** Every method other than `close` leaves the same wrapper
    under both branches, and rejects a call locally under one branch exactly when it does
    under the other. -/
theorem ClosableMethod.branches_agree (m : ClosableMethod) (hm : m ≠ .close) :
    ((m.run K .ipc ans).run w).2 = ((m.run K .ffi ans).run w).2 ∧
      (RejectsLocally (m.run K .ipc ans) w ↔ RejectsLocally (m.run K .ffi ans) w) := by
  cases m with
  | close => exact absurd rfl hm
  | guarded op c =>
    simp only [ClosableMethod.run, Closable.run_guarded, Closable.rejectsLocally_guarded,
      and_self]
  | query op c =>
    simp only [ClosableMethod.run, Closable.run_query, Closable.not_rejectsLocally_query,
      and_self]

/-- `close()` agrees when its release call succeeds. -/
theorem Closable.close_branches_agree (h : (ans ⟨K.release, w.self.handle⟩).isOk = true) :
    ((Closable.close K .ipc ans).run w).2 = ((Closable.close K .ffi ans).run w).2 := by
  simp only [Closable.run_close, h, Backend.checks, Bool.true_eq_false, and_false, if_false]

end Closables

/-! ## 2. `Cmd` -/

namespace Cmd

variable (ans : Call → Except PyExc Unit)

theorem snd_run_handleFor_ipc_bind {α : Type} (f : Int → WrapperM Cmd α) (w : Wrapped Cmd) :
    ((handleFor .ipc >>= f).run w).2 = ((f w.self.handle).run w).2 := rfl

theorem handleFor_bind_branches_agree {α : Type} (f : Int → WrapperM Cmd α) {w : Wrapped Cmd}
    (hw : w.self.freed = false) :
    ((handleFor .ipc >>= f).run w).2 = ((handleFor .ffi >>= f).run w).2 := by
  rw [snd_run_handleFor_ipc_bind, snd_run_handleFor_ffi_bind, hw, if_neg Bool.false_ne_true]

/-- **The `Cmd` branches agree until the command is freed.** On a command that is not freed,
    every method but `_free` leaves the same command under both branches. -/
theorem branches_agree {w : Wrapped Cmd} (hw : w.self.freed = false) :
    ∀ m ∈ [setDir, setEnv, getEnv, environ, exitCode, start, wait, run, output, combinedOutput,
      kill], ((m .ipc ans).run w).2 = ((m .ffi ans).run w).2 := by
  have hop : ∀ op c, ((onHandle .ipc ans op c).run w).2 = ((onHandle .ffi ans op c).run w).2 :=
    fun op c => by
      simp only [onHandle, snd_run_handleFor_ipc_bind, snd_run_handleFor_ffi_bind, hw,
        if_neg Bool.false_ne_true, snd_run_callOn]
  have hrun : ∀ op, ((runOp .ipc ans op).run w).2 = ((runOp .ffi ans op).run w).2 := fun op => by
    simp only [runOp, snd_run_setSelf_bind, snd_run_handleFor_ipc_bind, snd_run_handleFor_ffi_bind,
      hw, if_neg Bool.false_ne_true, snd_run_callOn, snd_run_callOn_bind, Bool.false_eq_true,
      false_and, if_false, PyM.run_ofExcept, Wrapped.push_self]
    rfl
  simp only [List.mem_cons, List.mem_nil_iff, or_false]
  rintro m (rfl | rfl | rfl | rfl | rfl | rfl | rfl | rfl | rfl | rfl | rfl)
  · exact hop _ _
  · exact hop _ _
  · exact hop _ _
  · exact hop _ _
  · exact hop _ _
  · simp only [start, snd_run_get_bind]
    split <;> simp only [snd_run_throw_bind, pure_bind]
    exact handleFor_bind_branches_agree _ hw
  · simp only [wait, snd_run_get_bind]
    split <;> simp only [snd_run_throw_bind, pure_bind]
    exact handleFor_bind_branches_agree _ hw
  · exact hrun _
  · exact hrun _
  · exact hrun _
  · simp only [kill, snd_run_get_bind, hw, Bool.false_eq_true, if_false, pure_bind]
    exact handleFor_bind_branches_agree _ hw

end Cmd

/-! ## 3. `OCIClient` -/

/-- `CCError("OCIClient is closed", code=4)`. -/
def ociClientClosed : PyExc := .cc (CCError.plain "OCIClient is closed" 4)

namespace OCIClient

variable (b : Backend) (ans : Call → Except PyExc Unit)

/-- `close()`: `if not self._closed:` under FFI `cc_oci_client_free(self._handle)`, which
    reports nothing (`self._handle` is `None` under IPC); then `self._closed = True`.  The
    client's own calls are recorded without a handle. -/
def close : WrapperM OCIClient Unit := do
  if !(← get).self.closed then
    match b with
    | .ipc => pure ()
    | .ffi => callOn ans false ⟨"oci_client_free", none⟩
    setSelf fun c => { c with closed := true }

/-- The `cache_dir` property: under IPC `self._cache_dir_str`; under FFI the string
    `cc_oci_client_cache_dir(self.handle)` returns, `native`, where the `handle` property
    raises `CCError("OCIClient is closed", code=4)` once closed. -/
def cacheDir (native : String) : WrapperM OCIClient String :=
  match b with
  | .ipc => return (← get).self.cacheDirStr
  | .ffi => do
    if (← get).self.closed then throw ociClientClosed
    callOn ans false ⟨"oci_client_cache_dir", none⟩
    return native

/-- `close()` leaves the same client under both branches. -/
theorem close_branches_agree (w : Wrapped OCIClient) :
    ((close .ipc ans).run w).2.self = ((close .ffi ans).run w).2.self := by
  simp only [close, snd_run_get_bind]
  split
  · simp only [PyM.run_pure, pure_bind, snd_run_callOn_bind, Bool.false_eq_true, false_and,
      if_false, run_setSelf, Wrapped.push_self]
  · rfl

end OCIClient

/-! ## 4. Where the branches part -/

/-- The answer under which every call fails with `e`. -/
def allFail (e : PyExc) (_ : Call) : Except PyExc Unit := .error e

/-- **The branches part.** With the same answers for both: `set_dir` after `kill()` rejects
    locally under FFI and makes its call under IPC; `close()` on a `File` whose `file_close`
    fails leaves `_closed` unset under IPC and sets it under FFI; `run()` after `_free()` sets
    `_started` under IPC and rejects locally under FFI; `command(name)` on a closed instance
    and `cache_dir` on a closed `OCIClient` reject locally under FFI and not under IPC. -/
theorem ipc_ffi_branches_diverge (e : PyExc) :
    RejectsLocally (Cmd.setDir .ffi allSucceed) ⟨⟨5, true, true⟩, []⟩ ∧
      ¬ RejectsLocally (Cmd.setDir .ipc allSucceed) ⟨⟨5, true, true⟩, []⟩ ∧
    ((Closable.close fileClass .ipc (allFail e)).run ⟨⟨some 3, false⟩, []⟩).2.self.closed = false ∧
      ((Closable.close fileClass .ffi (allFail e)).run ⟨⟨some 3, false⟩, []⟩).2.self.closed = true ∧
    ((Cmd.run .ipc allSucceed).run ⟨⟨5, false, true⟩, []⟩).2.self.started = true ∧
      RejectsLocally (Cmd.run .ffi allSucceed) ⟨⟨5, false, true⟩, []⟩ ∧
    RejectsLocally (Instance.command .ffi allSucceed "cmd_new") ⟨⟨some 1, true⟩, []⟩ ∧
      ¬ RejectsLocally (Instance.command .ipc allSucceed "cmd_new") ⟨⟨none, true⟩, []⟩ ∧
    RejectsLocally (OCIClient.cacheDir .ffi allSucceed "") ⟨⟨"", true⟩, []⟩ ∧
      ¬ RejectsLocally (OCIClient.cacheDir .ipc allSucceed "") ⟨⟨"", true⟩, []⟩ :=
  ⟨⟨_, rfl⟩, not_rejectsLocally_of_push rfl, rfl, rfl, rfl, ⟨_, rfl⟩, ⟨_, rfl⟩,
    not_rejectsLocally_of_push rfl, ⟨_, rfl⟩, fun ⟨_, he⟩ => nomatch he⟩

/-! ## 5. Whole runs -/

/-- Two branches of a sequence of methods end in the same state when each method leaves the
    same state under both from every state where `P` holds, and keeps `P`. -/
theorem runAll_map_agree {α σ : Type} (P : Wrapped σ → Prop) (f g : α → WrapperM σ Unit)
    {xs : List α} (h : ∀ x ∈ xs, ∀ w, P w → ((f x).run w).2 = ((g x).run w).2 ∧ P ((f x).run w).2)
    {w : Wrapped σ} (hw : P w) : runAll (xs.map f) w = runAll (xs.map g) w := by
  induction xs generalizing w with
  | nil => rfl
  | cons x xs ih =>
    obtain ⟨he, hp⟩ := h x (List.mem_cons_self _ _) w hw
    simp only [runAll, List.map_cons, List.foldl_cons] at ih ⊢
    rw [← he]
    exact ih (fun y hy => h y (List.mem_cons_of_mem _ hy)) hp

/-- **The closable wrappers behave alike under both branches.**  For `File`, `Snapshot`,
    `Listener` and `Conn`, with the IPC and the native calls reporting the same outcomes and
    every release call succeeding, any sequence of methods leaves the same wrapper and the
    same calls under both branches.  (`Instance` is not one of them: its `close` and
    `command` differ, see `Instance.close`.) -/
theorem closable_runs_agree (K : ClosableClass) (ans : Call → Except PyExc Unit)
    (hrel : ∀ h, (ans ⟨K.release, h⟩).isOk = true) (ms : List ClosableMethod)
    (w : Wrapped Closable) :
    runAll (ms.map (·.run K .ipc ans)) w = runAll (ms.map (·.run K .ffi ans)) w := by
  refine runAll_map_agree (fun _ => True) _ _ (fun m _ w _ => ⟨?_, trivial⟩) trivial
  by_cases hm : m = .close
  · subst hm
    exact Closable.close_branches_agree K ans w (hrel _)
  · exact (ClosableMethod.branches_agree K ans w m hm).1

/-- Every `File` method in turn, every call but `file_close` failing: both branches leave the
    same file and the same calls. -/
theorem closable_runs_agree_file :
    let ans : Call → Except PyExc Unit := fun c =>
      if c.op = "file_close" then .ok () else .error .structError
    (∀ h, (ans ⟨fileClass.release, h⟩).isOk = true) ∧
      runAll (fileMethods.map (·.run fileClass .ipc ans)) ⟨⟨some 3, false⟩, []⟩ =
        runAll (fileMethods.map (·.run fileClass .ffi ans)) ⟨⟨some 3, false⟩, []⟩ := by
  intro ans
  exact ⟨fun _ => rfl, closable_runs_agree fileClass ans (fun _ => rfl) fileMethods _⟩

namespace Cmd

variable (ans : Call → Except PyExc Unit)

/-- The methods that neither kill nor free the command. -/
def keepMethods : List (Backend → (Call → Except PyExc Unit) → WrapperM Cmd Unit) :=
  [setDir, setEnv, getEnv, environ, exitCode, start, wait, run, output, combinedOutput]

theorem freed_keepMethods {m : Backend → (Call → Except PyExc Unit) → WrapperM Cmd Unit}
    (hm : m ∈ keepMethods) (w : Wrapped Cmd) :
    ((m .ipc ans).run w).2.self.freed = w.self.freed := by
  have hop : ∀ op c, ((onHandle .ipc ans op c).run w).2.self.freed = w.self.freed := fun op c => by
    simp only [onHandle, snd_run_handleFor_ipc_bind, snd_run_callOn, Wrapped.push_self]
  have hrun : ∀ op, ((runOp .ipc ans op).run w).2.self.freed = w.self.freed := fun op => by
    simp only [runOp, snd_run_setSelf_bind, snd_run_handleFor_ipc_bind, snd_run_callOn,
      Wrapped.push_self]
  simp only [keepMethods, List.mem_cons, List.mem_nil_iff, or_false] at hm
  rcases hm with rfl | rfl | rfl | rfl | rfl | rfl | rfl | rfl | rfl | rfl
  · exact hop _ _
  · exact hop _ _
  · exact hop _ _
  · exact hop _ _
  · exact hop _ _
  · simp only [start, snd_run_get_bind]
    split
    · rfl
    · simp only [pure_bind, snd_run_handleFor_ipc_bind, snd_run_callOn_bind, run_setSelf]
      split_ifs <;> rfl
  · simp only [wait, snd_run_get_bind]
    split
    · rfl
    · simp only [pure_bind, snd_run_handleFor_ipc_bind, snd_run_callOn, Wrapped.push_self]
  · exact hrun _
  · exact hrun _
  · exact hrun _

/-- **`Cmd` behaves alike under both branches until it is killed or freed.**  With the IPC
    and the native calls reporting the same outcomes, any sequence of methods other than
    `kill()` and `_free()` on a command that is not freed leaves the same command and the
    same calls under both branches. -/
theorem cmd_runs_agree {ms : List (Backend → (Call → Except PyExc Unit) → WrapperM Cmd Unit)}
    (hms : ∀ m ∈ ms, m ∈ keepMethods) {w : Wrapped Cmd} (hw : w.self.freed = false) :
    runAll (ms.map fun m => m .ipc ans) w = runAll (ms.map fun m => m .ffi ans) w := by
  refine runAll_map_agree (fun w => w.self.freed = false) _ _ (fun m hm w hw =>
    ⟨?_, (freed_keepMethods ans (hms m hm) w).trans hw⟩) hw
  exact branches_agree ans hw m (List.mem_append_left [kill] (hms m hm))

/-- `start()`, `wait()`, `set_dir`, `run()` on a new command: both branches leave the same
    command and the same calls. -/
theorem cmd_runs_agree_start_wait :
    (∀ m ∈ [start, wait, setDir, run], m ∈ keepMethods) ∧
      (⟨⟨5, false, false⟩, []⟩ : Wrapped Cmd).self.freed = false ∧
      runAll ([start, wait, setDir, run].map fun m => m .ipc allSucceed) ⟨⟨5, false, false⟩, []⟩ =
        runAll ([start, wait, setDir, run].map fun m => m .ffi allSucceed)
          ⟨⟨5, false, false⟩, []⟩ := by
  have hms : ∀ m ∈ [start, wait, setDir, run], m ∈ keepMethods := by
    intro m hm
    simp only [List.mem_cons, List.mem_nil_iff, or_false] at hm
    rcases hm with rfl | rfl | rfl | rfl <;> simp [keepMethods]
  exact ⟨hms, rfl, cmd_runs_agree allSucceed hms rfl⟩

end Cmd

end CrumbleCracker
