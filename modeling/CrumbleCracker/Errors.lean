import Mathlib.Data.List.Basic

/-!
# The exception hierarchy (`errors.py`)

Every failure the IPC stack surfaces is one of the Python exceptions below.  `CCError` and
its subclasses carry the fields `CCError.__init__` sets (`code`, `op`, `path` and the
message); the table `_ERROR_MAP` and `error_from_code` pick the subclass for a numeric
code.  The other exceptions are those the codec lets through unchanged: `ValueError` from
`Decoder._check`, `UnicodeDecodeError` from `bytes.decode("utf-8")` and `struct.error` from
`struct.pack`, the socket's `OSError`, and the `UnboundLocalError` of `spawn_helper`'s
`except` clause.
-/

namespace CrumbleCracker

/-- The classes of `errors.py`, and `HelperNotFoundError` of `_ipc_client.py`. -/
inductive ErrorClass
  | CCError
  | InvalidHandleError
  | InvalidArgumentError
  | NotRunningError
  | AlreadyClosedError
  | TimeoutError
  | HypervisorUnavailableError
  | IOError
  | NetworkError
  | CancelledError
  | HelperNotFoundError
  deriving DecidableEq, Repr

/-- A raised `CCError`: its class and the attributes `CCError.__init__` sets. -/
structure CCError where
  cls : ErrorClass
  message : String
  code : Int
  op : Option String
  path : Option String
  deriving DecidableEq, Repr

/-- `_ERROR_MAP`: the subclass for each remote error code. -/
def errorMap : Int → Option ErrorClass
  | 1 => some .InvalidHandleError
  | 2 => some .InvalidArgumentError
  | 3 => some .NotRunningError
  | 4 => some .AlreadyClosedError
  | 5 => some .TimeoutError
  | 6 => some .HypervisorUnavailableError
  | 7 => some .IOError
  | 8 => some .NetworkError
  | 9 => some .CancelledError
  | _ => none

/-- `error_from_code(code, message, op, path)`. -/
def errorFromCode (code : Int) (message : String) (op path : Option String) : CCError :=
  { cls := (errorMap code).getD .CCError, message, code, op, path }

/-- `CCError(message, code=code)`: a plain `CCError` with no operation or path. -/
def CCError.plain (message : String) (code : Int) : CCError :=
  { cls := .CCError, message, code, op := none, path := none }

/-- The exceptions the modelled code raises. -/
inductive PyExc
  /-- a `CCError` or one of its subclasses -/
  | cc (e : CCError)
  /-- `ValueError(message)` -/
  | valueError (message : String)
  /-- `UnicodeDecodeError`, a subclass of `ValueError` -/
  | unicodeDecodeError
  /-- `struct.error` -/
  | structError
  /-- `TypeError` or `AttributeError`: a value of the wrong Python type -/
  | typeError
  /-- `OSError` from a socket call -/
  | osError
  /-- `KeyboardInterrupt`, which can arrive between any two statements -/
  | keyboardInterrupt
  /-- `UnboundLocalError`, a subclass of `NameError`: the local variable `name` read before
      any assignment to it -/
  | unboundLocalError (name : String)
  deriving DecidableEq, Repr

/-- The exception is an instance of `CCError`. -/
def PyExc.isCCError : PyExc → Bool
  | .cc _ => true
  | _ => false

/-! ### Python statements over an object's state

A method that reads and updates an object's attributes and may raise is an
`ExceptT PyExc (StateM σ)` computation: in Python the updates made before a raise stay made,
so `PyM.run` returns the state in both outcomes. -/

/-- A method of an object with state `σ`. -/
abbrev PyM (σ : Type) := ExceptT PyExc (StateM σ)

/-- The outcome of a method and the state after it. -/
def PyM.run {σ α : Type} (m : PyM σ α) (s : σ) : Except PyExc α × σ :=
  (ExceptT.run m).run s

namespace PyM

variable {σ α β : Type}

theorem run_bind (m : PyM σ α) (f : α → PyM σ β) (s : σ) :
    (m >>= f).run s = match m.run s with
      | (.ok a, s') => (f a).run s'
      | (.error e, s') => (.error e, s') := by
  show (ExceptT.run m >>= ExceptT.bindCont f).run s = _
  rw [StateT.run_bind]
  unfold PyM.run
  rcases (ExceptT.run m).run s with ⟨r, s'⟩
  cases r <;> rfl

theorem run_bind_ok {m : PyM σ α} {f : α → PyM σ β} {s s' : σ} {a : α}
    (h : m.run s = (.ok a, s')) : (m >>= f).run s = (f a).run s' := by
  rw [run_bind, h]

theorem run_bind_error {m : PyM σ α} {f : α → PyM σ β} {s s' : σ} {e : PyExc}
    (h : m.run s = (.error e, s')) : (m >>= f).run s = (.error e, s') := by
  rw [run_bind, h]

@[simp] theorem run_pure (a : α) (s : σ) : (pure a : PyM σ α).run s = (.ok a, s) := rfl

@[simp] theorem run_throw (e : PyExc) (s : σ) : (throw e : PyM σ α).run s = (.error e, s) :=
  rfl

@[simp] theorem run_get (s : σ) : (get : PyM σ σ).run s = (.ok s, s) := rfl

@[simp] theorem run_set (s s' : σ) : (set s' : PyM σ PUnit).run s = (.ok ⟨⟩, s') := rfl

@[simp] theorem run_map (f : α → β) (m : PyM σ α) (s : σ) :
    (f <$> m).run s = ((m.run s).1.map f, (m.run s).2) := by
  rw [map_eq_pure_bind, run_bind]
  rcases m.run s with ⟨_ | a, s'⟩ <;> rfl

/-- A statement that may raise and touches no state, such as a call of `decode_header`. -/
def ofExcept (x : Except PyExc α) : PyM σ α :=
  match x with
  | .ok a => pure a
  | .error e => throw e

@[simp] theorem run_ofExcept (x : Except PyExc α) (s : σ) :
    (ofExcept x : PyM σ α).run s = (x, s) := by
  cases x <;> rfl

/-- A method that raises leaves the state where it stopped, and one that returns has the
    value and the state it returned with. -/
theorem run_eq_ok_iff {m : PyM σ α} {s s' : σ} {a : α} :
    m.run s = (.ok a, s') ↔ (m.run s).1 = .ok a ∧ (m.run s).2 = s' := by
  constructor
  · intro h; rw [h]; exact ⟨rfl, rfl⟩
  · intro ⟨h1, h2⟩; exact Prod.ext h1 h2

end PyM

end CrumbleCracker
