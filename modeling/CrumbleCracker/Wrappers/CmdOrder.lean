import CrumbleCracker.Wrappers.Branches

/-!
# The order of a command's calls (`cmd.py`)

A `Cmd` sends `cmd_start` from `start()`, which raises `CCError("Cmd has already been
started", code=2)` once `_started`; `cmd_wait` from `wait()`, which raises `CCError("Cmd has
not been started", code=2)` until `_started`; and `cmd_free` from `_free()`, only while not
`_started`.  `start()` sets `_started` after its call returns; `run()`, `output()` and
`combined_output()` set it around their call whether or not the call succeeds.

The log of a command therefore keeps an order: a call *starts* the command when it is a
`cmd_start` that succeeded or one of the run operations, and `cmd_wait` comes only after such
a call, `cmd_start` and `cmd_free` only before one.  `_started` is exactly "the log holds a
call that started the command".

## Results

* `cmd_call_order`: under either branch, for every sequence of methods on a new command and
  whatever each call reports, `_started` is set exactly when the log holds a call that started
  the command, and every call of the log may follow the calls before it.
-/

namespace CrumbleCracker

namespace Cmd

/-- The calls of `run()`, `output()` and `combined_output()`. -/
def runOps : List String := ["cmd_run", "cmd_output", "cmd_combined_output"]

/-- A call that starts the command: a `cmd_start` that succeeded, or a run operation. -/
def startsCmd (x : Call × Bool) : Bool :=
  (x.1.op == "cmd_start" && x.2) || runOps.contains x.1.op

/-- Whether the call `x` may follow calls that have (`started`) or have not started the
    command: `cmd_wait` only after, `cmd_start` and `cmd_free` only before. -/
def mayFollow (started : Bool) (x : Call × Bool) : Bool :=
  if x.1.op == "cmd_wait" then started
  else if x.1.op == "cmd_start" || x.1.op == "cmd_free" then !started
  else true

/-- Every call of the log may follow those before it, `started` saying whether calls before
    the log started the command. -/
def inOrder : Bool → List (Call × Bool) → Bool
  | _, [] => true
  | started, x :: xs => mayFollow started x && inOrder (started || startsCmd x) xs

/-- An operation that neither starts the command nor depends on whether it has. -/
def neutral (op : String) : Bool :=
  !(op == "cmd_wait" || op == "cmd_start" || op == "cmd_free" || runOps.contains op)

example : inOrder false [(⟨"cmd_start", some 5⟩, false), (⟨"cmd_start", some 5⟩, true),
    (⟨"cmd_wait", some 5⟩, true)] = true := by decide

example : inOrder false [(⟨"cmd_run", some 5⟩, false), (⟨"cmd_start", some 5⟩, true)] = false := by
  decide

theorem inOrder_append_singleton (started : Bool) (xs : List (Call × Bool)) (x : Call × Bool) :
    inOrder started (xs ++ [x]) = (inOrder started xs && mayFollow (started || xs.any startsCmd) x) := by
  induction xs generalizing started with
  | nil => simp [inOrder]
  | cons y xs ih =>
    rw [List.cons_append, inOrder, inOrder, ih, List.any_cons, Bool.or_assoc, Bool.and_assoc]

theorem mayFollow_of_inOrder {started : Bool} {pre post : List (Call × Bool)} {x : Call × Bool}
    (h : inOrder started (pre ++ x :: post) = true) :
    mayFollow (started || pre.any startsCmd) x = true := by
  induction pre generalizing started with
  | nil =>
    simp only [List.nil_append, inOrder, Bool.and_eq_true] at h
    simpa using h.1
  | cons y pre ih =>
    simp only [List.cons_append, inOrder, Bool.and_eq_true] at h
    simpa only [List.any_cons, Bool.or_assoc] using ih h.2

theorem neutral_startsCmd {c : Call} (hc : neutral c.op = true) (ok : Bool) :
    startsCmd (c, ok) = false := by
  simp only [neutral, Bool.not_eq_true', Bool.or_eq_false_iff] at hc
  simp only [startsCmd, hc.1.1.2, hc.2, Bool.false_and, Bool.or_false]

theorem neutral_mayFollow {c : Call} (hc : neutral c.op = true) (started ok : Bool) :
    mayFollow started (c, ok) = true := by
  simp only [neutral, Bool.not_eq_true', Bool.or_eq_false_iff] at hc
  simp only [mayFollow, hc.1.1.1, hc.1.1.2, hc.1.2, Bool.or_false, Bool.false_eq_true, if_false]

/-! ## The invariant -/

/-- `_started` says whether the log holds a call that started the command, and the log keeps
    the order. -/
def CallOrder (w : Wrapped Cmd) : Prop :=
  w.self.started = w.calls.any startsCmd ∧ inOrder false w.calls = true

section Order

variable {w : Wrapped Cmd}

/-- A call that may follow the log keeps the order, with `_started` raised when it starts
    the command. -/
theorem CallOrder.push (h : CallOrder w) {x : Call × Bool} {s : Cmd}
    (hx : mayFollow w.self.started x = true) (hs : s.started = (w.self.started || startsCmd x)) :
    CallOrder ⟨s, w.calls ++ [x]⟩ := by
  obtain ⟨h₁, h₂⟩ := h
  refine ⟨by simp [hs, h₁], ?_⟩
  rw [inOrder_append_singleton, h₂, Bool.false_or, ← h₁, hx]
  rfl

theorem CallOrder.push_neutral (h : CallOrder w) {c : Call} (hc : neutral c.op = true) (ok : Bool)
    {s : Cmd} (hs : s.started = w.self.started) : CallOrder ⟨s, w.calls ++ [(c, ok)]⟩ :=
  h.push (neutral_mayFollow hc _ ok) (by rw [hs, neutral_startsCmd hc, Bool.or_false])

/-! ## One method at a time -/

theorem snd_run_handleFor_bind {α : Type} (b : Backend) (f : Int → WrapperM Cmd α) (w : Wrapped Cmd) :
    ((handleFor b >>= f).run w).2 =
      if b = .ffi ∧ w.self.freed = true then w else ((f w.self.handle).run w).2 := by
  cases b
  · simp [snd_run_handleFor_ipc_bind]
  · simp [snd_run_handleFor_ffi_bind]

theorem runOps_startsCmd {op : String} (hop : op ∈ runOps) (h : Option Int) (ok : Bool) :
    startsCmd (⟨op, h⟩, ok) = true := by
  simp [startsCmd, hop]

theorem runOps_mayFollow {op : String} (hop : op ∈ runOps) (started : Bool) (h : Option Int)
    (ok : Bool) : mayFollow started (⟨op, h⟩, ok) = true := by
  simp only [runOps, List.mem_cons, List.mem_singleton, List.not_mem_nil, or_false] at hop
  rcases hop with rfl | rfl | rfl <;> rfl

variable (b : Backend) (ans : Call → Except PyExc Unit)

theorem CallOrder.onHandle (h : CallOrder w) (op : String) (hop : neutral op = true) (c : Bool) :
    CallOrder ((onHandle b ans op c).run w).2 := by
  simp only [Cmd.onHandle, snd_run_handleFor_bind, snd_run_callOn]
  split_ifs
  · exact h
  · exact h.push_neutral (c := ⟨op, some w.self.handle⟩) hop _ rfl

theorem CallOrder.start (h : CallOrder w) : CallOrder ((start b ans).run w).2 := by
  simp only [Cmd.start, snd_run_get_bind]
  cases hs : w.self.started
  · simp only [Bool.false_eq_true, if_false, pure_bind, snd_run_handleFor_bind,
      snd_run_callOn_bind, run_setSelf]
    split_ifs with hf hok
    · exact h
    · exact h.push (by simp [mayFollow, hs]) (by simp [startsCmd, hs, hok.2, runOps])
    · exact h.push (by simp [mayFollow, hs]) (by simp_all [startsCmd, runOps])
  · simp only [if_true, snd_run_throw_bind]
    exact h

theorem CallOrder.wait (h : CallOrder w) : CallOrder ((wait b ans).run w).2 := by
  simp only [Cmd.wait, snd_run_get_bind]
  cases hs : w.self.started
  · simp only [Bool.not_false, if_true, snd_run_throw_bind]
    exact h
  · simp only [Bool.not_true, Bool.false_eq_true, if_false, pure_bind, snd_run_handleFor_bind,
      snd_run_callOn]
    split_ifs
    · exact h
    · exact h.push (by simp [mayFollow, hs]) (by simp [startsCmd, hs])

theorem CallOrder.runOp (h : CallOrder w) {op : String} (hop : op ∈ runOps) :
    CallOrder ((runOp b ans op).run w).2 := by
  cases b
  · simp only [Cmd.runOp, snd_run_setSelf_bind, snd_run_handleFor_ipc_bind, snd_run_callOn]
    exact h.push (runOps_mayFollow hop _ _ _) (by simp [runOps_startsCmd hop])
  · simp only [Cmd.runOp, snd_run_handleFor_ffi_bind, snd_run_callOn_bind, snd_run_setSelf_bind,
      PyM.run_ofExcept, Bool.false_eq_true, false_and, if_false]
    split_ifs
    · exact h
    · exact h.push (runOps_mayFollow hop _ _ _) (by simp [runOps_startsCmd hop])

theorem CallOrder.kill (h : CallOrder w) : CallOrder ((kill b ans).run w).2 := by
  simp only [Cmd.kill, snd_run_get_bind]
  split_ifs
  · exact h
  · simp only [pure_bind, snd_run_handleFor_bind, snd_run_callOn_bind, run_setSelf]
    split_ifs
    · exact h
    all_goals exact h.push_neutral (c := ⟨"cmd_kill", some w.self.handle⟩) rfl _ rfl

theorem CallOrder.free (h : CallOrder w) : CallOrder ((free b ans).run w).2 := by
  simp only [Cmd.free, snd_run_get_bind]
  split_ifs with hc
  · simp only [snd_run_callOn_bind, Backend.checks, run_setSelf]
    simp only [Bool.and_eq_true, Bool.not_eq_true'] at hc
    split_ifs <;>
      exact h.push (by simp [mayFollow, hc.1.2]) (by simp [startsCmd, hc.1.2, runOps])
  · exact h

theorem CallOrder.method {m : WrapperM Cmd Unit} (hm : m ∈ methods b ans) (h : CallOrder w) :
    CallOrder (m.run w).2 := by
  simp only [methods, List.mem_cons, List.mem_nil_iff, or_false] at hm
  rcases hm with rfl | rfl | rfl | rfl | rfl | rfl | rfl | rfl | rfl | rfl | rfl | rfl
  exacts [h.onHandle b ans "cmd_set_dir" rfl true, h.onHandle b ans "cmd_set_env" rfl true,
    h.onHandle b ans "cmd_get_env" rfl false, h.onHandle b ans "cmd_environ" rfl true,
    h.onHandle b ans "cmd_exit_code" rfl false, h.start b ans, h.wait b ans,
    h.runOp b ans (by decide), h.runOp b ans (by decide), h.runOp b ans (by decide),
    h.kill b ans, h.free b ans]

end Order

/-! ## Every method sequence -/

/-- **A command keeps its call order.**  Under either branch, after any sequence of methods on
    a new command and whatever each call reports, `_started` is set exactly when the log holds
    a call that started the command, and every call may follow the calls before it: no
    `cmd_wait` before a `cmd_start` succeeded or a run operation was sent, and no `cmd_start`
    or `cmd_free` after. -/
theorem cmd_call_order (b : Backend) (ans : Call → Except PyExc Unit)
    (ms : List (WrapperM Cmd Unit)) (hms : ∀ m ∈ ms, m ∈ methods b ans) (handle : Int) :
    (runAll ms ⟨⟨handle, false, false⟩, []⟩).self.started =
        (runAll ms ⟨⟨handle, false, false⟩, []⟩).calls.any startsCmd ∧
      ∀ pre x post, (runAll ms ⟨⟨handle, false, false⟩, []⟩).calls = pre ++ x :: post →
        mayFollow (pre.any startsCmd) x = true := by
  obtain ⟨h₁, h₂⟩ := runAll_inv CallOrder (fun m hm w hw => hw.method b ans (hms m hm))
    (⟨rfl, rfl⟩ : CallOrder ⟨⟨handle, false, false⟩, []⟩)
  exact ⟨h₁, fun pre x post he => by simpa using mayFollow_of_inOrder (he ▸ h₂)⟩

/-- `wait()` before `start()` raises without a call; `start()` twice sends one `cmd_start`. -/
theorem cmd_call_order_wait_start :
    let ms := [wait .ipc allSucceed, start .ipc allSucceed, start .ipc allSucceed,
      wait .ipc allSucceed]
    (∀ m ∈ ms, m ∈ methods .ipc allSucceed) ∧
      ((runAll ms ⟨⟨5, false, false⟩, []⟩).self.started =
          (runAll ms ⟨⟨5, false, false⟩, []⟩).calls.any startsCmd ∧
        ∀ pre x post, (runAll ms ⟨⟨5, false, false⟩, []⟩).calls = pre ++ x :: post →
          mayFollow (pre.any startsCmd) x = true) := by
  intro ms
  have hms : ∀ m ∈ ms, m ∈ methods .ipc allSucceed := by simp [ms, methods]
  exact ⟨hms, cmd_call_order .ipc allSucceed ms hms 5⟩

end Cmd

end CrumbleCracker
