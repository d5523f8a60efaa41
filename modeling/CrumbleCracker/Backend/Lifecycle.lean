import CrumbleCracker.Backend.Ops
import Mathlib.Logic.Relation

/-!
# The backend's helper connection (`IPCBackend._ensure_client`, `close`)

`IPCBackend` holds one `IPCClient`.  Every method reaches it through `self.client`, which is
`_ensure_client()`: when there is no client, or it is closed, it spawns a new helper and
connects to it.  `close()` closes the client and drops it.  A handle is a number that the
helper issuing it chose, unique only while that helper runs; a wrapper keeps the number and
nothing else, and sends it through whatever client `_ensure_client` gives it.

Helpers are numbered in the order the backend spawned them.  A `World` is the backend, the
handles the wrappers hold (each with the helper that issued it), and every request that has
named a handle; `World.epoch` counts the calls of `close()` and the closings of the client.

## Results

* `ensureClient_cases`: `_ensure_client` keeps an open client, or spawns helper number
  `spawned`.
* `sent_to_issuer_iff`: in every reachable world, a request that named a handle went to the
  helper that issued the handle exactly when neither `close()` ran nor the client was closed
  between the issue and the request.
* `stale_handle_reaches_new_helper`: the run `f = inst.open(…)`, `backend.close()`,
  `f.close()` sends `f`'s handle to a helper spawned after the close.
-/

namespace CrumbleCracker

/-! ## 1. The backend -/

/-- The `IPCClient` an `IPCBackend` holds: the helper it is connected to, and `_closed`. -/
structure Client where
  helper : Nat
  closed : Bool
  deriving DecidableEq, Repr

/-- An `IPCBackend`: `_client`, and how many helpers it has spawned. -/
structure IPCBackend where
  client : Option Client
  spawned : Nat
  deriving DecidableEq, Repr

namespace IPCBackend

/-- `IPCBackend()`. -/
def init : IPCBackend := ⟨none, 0⟩

/-- `self._client = spawn_helper()`, where `spawnResult` is what `spawn_helper()` raises
    (`HelperNotFoundError`, a failed connect), or `ok` when it connects. -/
def spawn (spawnResult : Except PyExc Unit) : PyM IPCBackend Nat := do
  PyM.ofExcept spawnResult
  let b ← get
  set ({ client := some ⟨b.spawned, false⟩, spawned := b.spawned + 1 } : IPCBackend)
  return b.spawned

/-- `_ensure_client()`: the helper the next request goes to. -/
def ensureClient (spawnResult : Except PyExc Unit) : PyM IPCBackend Nat := do
  match (← get).client with
  | some c => if c.closed then spawn spawnResult else pure c.helper
  | none => spawn spawnResult

/-- `close()`: `self._client.close()` when there is a client, then `self._client = None`. -/
def close (b : IPCBackend) : IPCBackend := { b with client := none }

theorem spawn_ok {r : Except PyExc Unit} {b b' : IPCBackend} {n : Nat}
    (h : (spawn r).run b = (.ok n, b')) :
    n = b.spawned ∧ b' = ⟨some ⟨b.spawned, false⟩, b.spawned + 1⟩ := by
  unfold spawn at h
  rcases r with e | ⟨⟩ <;> simp only [PyM.run_bind, PyM.run_ofExcept, PyM.run_get,
    PyM.run_set, PyM.run_pure, Prod.mk.injEq, reduceCtorEq, false_and, Except.ok.injEq] at h
  exact ⟨h.1.symm, h.2.symm⟩

/-- **What `_ensure_client` can do.** It returns the helper of an open client and changes
    nothing, or, when there is no open client, spawns helper number `spawned`. -/
theorem ensureClient_cases {r : Except PyExc Unit} {b b' : IPCBackend} {n : Nat}
    (h : (ensureClient r).run b = (.ok n, b')) :
    (b.client = some ⟨n, false⟩ ∧ b' = b) ∨
      ((∀ m, b.client ≠ some ⟨m, false⟩) ∧ n = b.spawned ∧
        b' = ⟨some ⟨b.spawned, false⟩, b.spawned + 1⟩) := by
  unfold ensureClient at h
  rw [PyM.run_bind, PyM.run_get] at h
  rcases hc : b.client with _ | ⟨m, _ | _⟩ <;> simp only [hc] at h
  · exact .inr ⟨fun _ => nofun, spawn_ok h⟩
  · simp only [Bool.false_eq_true, if_false, PyM.run_pure, Prod.mk.injEq,
      Except.ok.injEq] at h
    exact .inl ⟨by rw [h.1], h.2.symm⟩
  · exact .inr ⟨fun _ => by simp, spawn_ok h⟩

end IPCBackend

/-! ## 2. Runs of the IPC stack -/

/-- A handle a wrapper holds: the number, the helper whose response issued it, and the epoch
    it was issued in. -/
structure Held where
  handle : Int
  issuer : Nat
  epoch : Nat
  deriving DecidableEq, Repr

/-- A request that named a handle: the helper it went to, the handle, and the epoch it was
    sent in. -/
structure Sent where
  helper : Nat
  held : Held
  epoch : Nat
  deriving DecidableEq, Repr

/-- The backend, the wrappers' handles, and the requests that named one. -/
structure World where
  backend : IPCBackend
  held : List Held
  sent : List Sent
  epoch : Nat
  deriving DecidableEq, Repr

/-- No helper, no wrapper. -/
def World.init : World := ⟨IPCBackend.init, [], [], 0⟩

/-- One step of a program using the IPC stack. -/
inductive World.Step : World → World → Prop
  /-- a method whose response issues `handle` (`fs_open`, `cmd_new`, `net_listen`, …) -/
  | issue {w : World} {n : Nat} {b' : IPCBackend} (handle : Int) (r : Except PyExc Unit) :
      (IPCBackend.ensureClient r).run w.backend = (.ok n, b') →
      World.Step w { w with backend := b', held := w.held ++ [⟨handle, n, w.epoch⟩] }
  /-- a wrapper method or finalizer that sends its handle (`file_close`, `cmd_kill`, …) -/
  | use {w : World} {n : Nat} {b' : IPCBackend} {x : Held} (r : Except PyExc Unit) :
      x ∈ w.held → (IPCBackend.ensureClient r).run w.backend = (.ok n, b') →
      World.Step w { w with backend := b', sent := w.sent ++ [⟨n, x, w.epoch⟩] }
  /-- `IPCBackend.close()` -/
  | close {w : World} : World.Step w { w with backend := w.backend.close, epoch := w.epoch + 1 }
  /-- the backend's client is closed (`backend.client.close()`) -/
  | clientClose {w : World} {n : Nat} : w.backend.client = some ⟨n, false⟩ →
      World.Step w ⟨{ w.backend with client := some ⟨n, true⟩ }, w.held, w.sent, w.epoch + 1⟩

/-- The worlds some run reaches. -/
def World.Reachable (w : World) : Prop := Relation.ReflTransGen World.Step World.init w

/-! ## 3. The invariant -/

/-- A held handle's issuer is the open client exactly in the epoch it was issued. -/
def IssuerOpen (b : IPCBackend) (epoch : Nat) (x : Held) : Prop :=
  x.issuer < b.spawned ∧ x.epoch ≤ epoch ∧ (b.client = some ⟨x.issuer, false⟩ ↔ x.epoch = epoch)

/-- What every reachable world satisfies. -/
structure World.Inv (w : World) : Prop where
  client_lt : ∀ c, w.backend.client = some c → c.helper < w.backend.spawned
  held : ∀ x ∈ w.held, IssuerOpen w.backend w.epoch x
  sent : ∀ y ∈ w.sent, y.helper = y.held.issuer ↔ y.held.epoch = y.epoch

theorem World.Inv.init : World.init.Inv :=
  ⟨fun _ h => (nomatch h), fun _ h => (nomatch h), fun _ h => (nomatch h)⟩

section Ensure

variable {r : Except PyExc Unit} {w : World} {b' : IPCBackend} {n : Nat}

/-- `_ensure_client` keeps every held handle's `IssuerOpen`. -/
theorem IssuerOpen.ensure (hi : w.Inv) (h : (IPCBackend.ensureClient r).run w.backend = (.ok n, b'))
    {x : Held} (hx : x ∈ w.held) : IssuerOpen b' w.epoch x := by
  obtain ⟨hlt, hle, hiff⟩ := hi.held x hx
  rcases IPCBackend.ensureClient_cases h with ⟨-, rfl⟩ | ⟨hno, -, rfl⟩
  · exact ⟨hlt, hle, hiff⟩
  · refine ⟨Nat.lt_succ_of_lt hlt, hle, ?_⟩
    simp only [Option.some.injEq, Client.mk.injEq, and_true]
    exact iff_of_false (by omega) fun he => hno _ (hiff.2 he)

/-- The helper `_ensure_client` returns is open afterwards and below `spawned`. -/
theorem ensure_open (hi : w.Inv) (h : (IPCBackend.ensureClient r).run w.backend = (.ok n, b')) :
    b'.client = some ⟨n, false⟩ ∧ n < b'.spawned := by
  rcases IPCBackend.ensureClient_cases h with ⟨hc, rfl⟩ | ⟨-, rfl, rfl⟩
  · exact ⟨hc, hi.client_lt _ hc⟩
  · exact ⟨rfl, Nat.lt_succ_self _⟩

/-- A request with a held handle goes to its issuer exactly in the handle's epoch. -/
theorem sent_iff (hi : w.Inv) (h : (IPCBackend.ensureClient r).run w.backend = (.ok n, b'))
    {x : Held} (hx : x ∈ w.held) : n = x.issuer ↔ x.epoch = w.epoch := by
  obtain ⟨hlt, -, hiff⟩ := hi.held x hx
  rcases IPCBackend.ensureClient_cases h with ⟨hc, -⟩ | ⟨hno, rfl, -⟩
  · rw [← hiff, hc]
    simp [eq_comm]
  · exact iff_of_false (by omega) fun he => hno _ (hiff.2 he)

end Ensure

theorem World.Inv.step {w w' : World} (hi : w.Inv) (hs : World.Step w w') : w'.Inv := by
  cases hs with
  | issue handle r h =>
    refine ⟨fun c hc => ?_, fun x hx => ?_, hi.sent⟩
    · obtain ⟨ho, hlt⟩ := ensure_open hi h
      rw [ho] at hc
      cases hc
      exact hlt
    · rcases List.mem_append.1 hx with hx | hx
      · exact IssuerOpen.ensure hi h hx
      · rw [List.mem_singleton.1 hx]
        obtain ⟨ho, hlt⟩ := ensure_open hi h
        exact ⟨hlt, le_rfl, iff_of_true ho rfl⟩
  | use r hx h =>
    refine ⟨fun c hc => ?_, fun x hx' => IssuerOpen.ensure hi h hx', fun y hy => ?_⟩
    · obtain ⟨ho, hlt⟩ := ensure_open hi h
      rw [ho] at hc
      cases hc
      exact hlt
    · rcases List.mem_append.1 hy with hy | hy
      · exact hi.sent y hy
      · rw [List.mem_singleton.1 hy]
        exact sent_iff hi h hx
  | close =>
    refine ⟨fun _ hc => (nomatch hc), fun x hx => ?_, hi.sent⟩
    obtain ⟨hlt, hle, -⟩ := hi.held x hx
    dsimp only
    exact ⟨hlt, Nat.le_succ_of_le hle, iff_of_false nofun (by omega)⟩
  | clientClose hc =>
    refine ⟨fun c hc' => ?_, fun x hx => ?_, hi.sent⟩
    · cases hc'
      exact hi.client_lt ⟨_, false⟩ hc
    · obtain ⟨hlt, hle, -⟩ := hi.held x hx
      dsimp only
      exact ⟨hlt, Nat.le_succ_of_le hle, iff_of_false (by simp) (by omega)⟩

theorem World.Inv.reachable {w : World} (hw : World.Reachable w) : w.Inv := by
  induction hw with
  | refl => exact World.Inv.init
  | tail _ hs ih => exact ih.step hs

/-- **Where a handle goes.** In every reachable world, a request that named a handle went to
    the helper that issued the handle exactly when no `close()` and no closing of the client
    came between the issue and the request. -/
theorem sent_to_issuer_iff {w : World} (hw : World.Reachable w) :
    ∀ y ∈ w.sent, y.helper = y.held.issuer ↔ y.held.epoch = y.epoch :=
  (World.Inv.reachable hw).sent

/-- Helper `0` issues handle `7` and a request names it before any close: it goes to helper
    `0`. -/
theorem sent_to_issuer_iff_open :
    World.Reachable ⟨⟨some ⟨0, false⟩, 1⟩, [⟨7, 0, 0⟩], [⟨0, ⟨7, 0, 0⟩, 0⟩], 0⟩ ∧
      ∀ y ∈ (⟨⟨some ⟨0, false⟩, 1⟩, [⟨7, 0, 0⟩], [⟨0, ⟨7, 0, 0⟩, 0⟩], 0⟩ : World).sent,
        y.helper = y.held.issuer ↔ y.held.epoch = y.epoch := by
  have hw : World.Reachable ⟨⟨some ⟨0, false⟩, 1⟩, [⟨7, 0, 0⟩], [⟨0, ⟨7, 0, 0⟩, 0⟩], 0⟩ :=
    .tail (.single (.issue 7 (.ok ()) rfl)) (.use (x := ⟨7, 0, 0⟩) (.ok ()) (List.mem_singleton_self _) rfl)
  exact ⟨hw, sent_to_issuer_iff hw⟩

/-! ## 4. A stale handle -/

/-- **A stale handle reaches a new helper.** Helper `0` issues handle `7` (`f =
    inst.open(path)`), `backend.close()` runs, and `f.close()` (or `f.__del__`) sends
    `file_close(7)` through `_ensure_client`, which spawns helper `1`. -/
theorem stale_handle_reaches_new_helper :
    ∃ w, World.Reachable w ∧ w.sent = [⟨1, ⟨7, 0, 0⟩, 1⟩] :=
  ⟨_, .tail (.tail (.single (.issue 7 (.ok ()) rfl)) .close)
    (.use (x := ⟨7, 0, 0⟩) (.ok ()) (List.mem_singleton_self _) rfl), rfl⟩

end CrumbleCracker
