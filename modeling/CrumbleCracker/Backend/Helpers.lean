import CrumbleCracker.Client.Spawn
import CrumbleCracker.Client.SocketPaths
import CrumbleCracker.Backend.Lifecycle

/-!
# The helpers a backend leaves behind (`IPCClient.close`, `_ensure_client`, `IPCBackend.close`)

Every helper process is started by `spawn_helper` and stopped by `IPCClient.close`:
`_closed = True`, `self._sock.close()`, then `self._process.wait(timeout=2)` and, if that
times out, `self._process.kill()` and `self._process.wait(timeout=5)`, and last
`_remove_socket(self._socket_path)`, which drops the `OSError` of an `os.remove` that fails
(once on POSIX, five times on Windows) and leaves the endpoint in place.  The second wait has
no handler: when the killed helper outlives it, `close` raises `subprocess.TimeoutExpired`
before the endpoint is removed, with `_closed` already set, so that no later `close` removes
it.

`IPCBackend` holds one client.  `_ensure_client` spawns a helper when the client is missing
or closed, and `close()` closes the client and drops it, keeping it when its `close` raised.
A `Stack` is the backend's client and every helper the backend started, each with its
process, its sockets and its endpoint.  Whether each helper exits within its waits, whether
`os.remove` removes an endpoint, and what each round of `spawn_helper` meets, is the
environment's choice in every step.  A run is `strict` when every helper exits within one of
its two waits, every `_remove_socket` removes its endpoint, and no `spawn_helper` meets
`socket.socket` failing while `sock` is unbound.

## Results

* `close_serving`: `close()` on the open client of a running helper closes the socket and
  reaps the helper and removes its endpoint if `os.remove` can, unless the helper outlives
  both waits; then it raises `TimeoutExpired` with the helper killed and the endpoint in
  place.
* `StackInv.reachable`: the invariant of every run.
* `helpers_accounted`: in every run, the only helper with an open socket is the one the
  open client talks to; every other helper is reaped with its endpoint removed (or in place,
  when `os.remove` failed), or was never started, or was killed and outlived both waits, or
  was left running with no socket by `spawn_helper`'s `UnboundLocalError`.
* `backend_close_cleans_up`: after a strict run, `IPCBackend.close()` whose helper exits in
  time and whose endpoint `os.remove` removes returns and leaves no helper process unreaped,
  no endpoint and no open socket.
* `stack_refines_backend`: forgetting the processes, every run moves the backend as the
  steps of `Backend/Lifecycle` do, so that model of `IPCBackend` is an abstraction of this one.
-/

namespace CrumbleCracker

/-! ## 1. `IPCClient.close` -/

/-- `subprocess.TimeoutExpired`: the process was still running when `wait(timeout)` gave up. -/
structure TimeoutExpired where
  timeout : Nat
  deriving DecidableEq, Repr

/-- The attributes of an `IPCClient` that `close` reads: `_closed`; `_sock`, by its place
    among the helper's sockets; whether `_process` is set; and `_socket_path`. -/
structure ClientAttrs where
  closed : Bool
  sock : Nat
  process : Bool
  socketPath : String
  deriving DecidableEq, Repr

/-- A client, and the process, sockets and endpoint of its helper. -/
structure ClientWorld where
  client : ClientAttrs
  os : SpawnWorld

/-- A statement of `close`, which may raise `TimeoutExpired`. -/
abbrev CloseM := ExceptT TimeoutExpired (StateM ClientWorld)

/-- The outcome of `close` and what it leaves. -/
def CloseM.run {α : Type} (m : CloseM α) (w : ClientWorld) : Except TimeoutExpired α × ClientWorld :=
  (ExceptT.run m).run w

namespace IPCClient

/-- `self._sock.close()`; an `OSError` from it is caught and dropped. -/
def closeSock : CloseM Unit :=
  modify fun w => { w with os := { w.os with socks := w.os.socks.set w.client.sock .closed } }

/-- `self._process.wait(timeout=timeout)`: the helper exits in time (`exits`) and is reaped,
    or `TimeoutExpired`. -/
def waitFor (timeout : Nat) (exits : Bool) : CloseM Unit :=
  if exits then modify fun w => { w with os := { w.os with helper := .reaped } }
  else throw ⟨timeout⟩

/-- `self._process.kill()`. -/
def kill : CloseM Unit := modify fun w => { w with os := { w.os with helper := .killed } }

/-- `_remove_socket(self._socket_path)`: the endpoint is gone when `os.remove` removes it
    (`removes`), and stays when every try raises `OSError`, which is dropped. -/
def removeSocket (removes : Bool) : CloseM Unit :=
  modify fun w => { w with os := { w.os with endpointRemoved := w.os.endpointRemoved || removes } }

/-- `IPCClient.close()`.  `exits₂` says whether the helper exits within `wait(timeout=2)`,
    `exits₅` whether, once killed, it exits within `wait(timeout=5)`, and `removes` whether
    `os.remove` removes the endpoint. -/
def close (exits₂ exits₅ removes : Bool) : CloseM Unit := do
  if (← get).client.closed then return
  modify fun w => { w with client := { w.client with closed := true } }
  closeSock
  if (← get).client.process then
    try waitFor 2 exits₂
    catch _ => do
      kill
      waitFor 5 exits₅
  if (← get).client.socketPath ≠ "" then removeSocket removes

end IPCClient

/-! ## 2. What a helper may be left as -/

/-- The helper of an open client: it runs, its endpoint is in place, and the client's socket
    is its one open socket. -/
def Serving (c : ClientAttrs) (w : SpawnWorld) : Prop :=
  c.closed = false ∧ c.process = true ∧ c.socketPath ≠ "" ∧ w.helper = .running ∧
    w.endpointRemoved = false ∧
    ∃ closed, (∀ s ∈ closed, s = .closed) ∧ w.socks = closed ++ [.connected] ∧ c.sock = closed.length

/-- What a helper no open client talks to may be left as; in a strict run only the first
    two, with the endpoint removed. -/
inductive Left : Bool → SpawnWorld → Prop
  /-- `_find_helper` found nothing, and nothing was started -/
  | notSpawned {strict} : Left strict SpawnWorld.init
  /-- reaped, every socket closed, and its endpoint removed unless `os.remove` failed -/
  | reaped {strict socks removed} : (∀ s ∈ socks, s = .closed) → (strict = true → removed = true) →
      Left strict ⟨.reaped, socks, removed⟩
  /-- killed after outliving `wait(timeout=2)`, and still running after `wait(timeout=5)` -/
  | killed {socks} : (∀ s ∈ socks, s = .closed) → Left false ⟨.killed, socks, false⟩
  /-- left running by `spawn_helper`'s `UnboundLocalError`, before any socket -/
  | orphaned : Left false ⟨.running, [], false⟩

theorem Left.weaken {strict : Bool} {w : SpawnWorld} (h : Left strict w) : Left false w := by
  cases h with
  | notSpawned => exact .notSpawned
  | reaped hs _ => exact .reaped hs nofun
  | killed hs => exact .killed hs
  | orphaned => exact .orphaned

/-- A strict leftover holds no process and no endpoint. -/
theorem Left.clean {w : SpawnWorld} (h : Left true w) :
    (w.helper = .notSpawned ∨ w.helper = .reaped ∧ w.endpointRemoved = true) ∧
      ∀ s ∈ w.socks, s = .closed := by
  cases h with
  | notSpawned => exact ⟨.inl rfl, nofun⟩
  | reaped hs hr => exact ⟨.inr ⟨rfl, hr rfl⟩, hs⟩

theorem run_close_closed {c : ClientAttrs} (hc : c.closed = true) (exits₂ exits₅ removes : Bool)
    (w : SpawnWorld) : (IPCClient.close exits₂ exits₅ removes).run ⟨c, w⟩ = (.ok (), ⟨c, w⟩) := by
  obtain ⟨_, _, _, _⟩ := c
  obtain rfl := hc
  rfl

/-- `close()` on an open client of a helper process, with a socket path. -/
theorem run_close_open {c : ClientAttrs} (hc : c.closed = false) (hp : c.process = true)
    (hs : c.socketPath ≠ "") (exits₂ exits₅ removes : Bool) (w : SpawnWorld) :
    (IPCClient.close exits₂ exits₅ removes).run ⟨c, w⟩ =
      (if exits₂ || exits₅ then .ok () else .error ⟨5⟩,
        ⟨{ c with closed := true }, ⟨if exits₂ || exits₅ then .reaped else .killed,
          w.socks.set c.sock .closed, w.endpointRemoved || (exits₂ || exits₅) && removes⟩⟩) := by
  obtain ⟨_, _, _, ⟨_ | ⟨_, _⟩⟩⟩ := c
  · exact absurd rfl hs
  · obtain rfl := hc
    obtain rfl := hp
    obtain ⟨_, _, _ | _⟩ := w <;> cases exits₂ <;> cases exits₅ <;> cases removes <;> rfl

/-- **`close()` on a serving helper.**  It closes the client and its socket; the helper is
    reaped when it exits within one of the waits, its endpoint removed when `os.remove` can,
    and is otherwise left killed with its endpoint, `close` raising `TimeoutExpired`. -/
theorem close_serving {c : ClientAttrs} {w : SpawnWorld} (h : Serving c w)
    (exits₂ exits₅ removes : Bool) :
    ((IPCClient.close exits₂ exits₅ removes).run ⟨c, w⟩).2.client = { c with closed := true } ∧
      Left ((exits₂ || exits₅) && removes) ((IPCClient.close exits₂ exits₅ removes).run ⟨c, w⟩).2.os ∧
      (((IPCClient.close exits₂ exits₅ removes).run ⟨c, w⟩).1 = .ok () ↔
        (exits₂ || exits₅) = true) := by
  obtain ⟨hc, hp, hs, -, he, closed, hcl, hw, hk⟩ := h
  have hset : w.socks.set c.sock .closed = closed ++ [.closed] := by simp [hw, hk]
  have hcl' : ∀ s ∈ closed ++ [SockState.closed], s = .closed := fun s hs =>
    (List.mem_append.1 hs).elim (hcl s) List.eq_of_mem_singleton
  rw [run_close_open hc hp hs, hset, he]
  cases exits₂ <;> cases exits₅ <;> cases removes
  all_goals first
    | exact ⟨rfl, .reaped hcl' id, iff_of_true rfl rfl⟩
    | exact ⟨rfl, .killed hcl', iff_of_false nofun nofun⟩

/-! ## 3. The stack -/

/-- The IPC stack at the level of processes: `IPCBackend._client`, with the number of its
    helper; what each helper `spawn_helper` returned a client for has, by number; and what each
    `spawn_helper` that raised left. -/
structure Stack where
  client : Option (Nat × ClientAttrs)
  helpers : List SpawnWorld
  failed : List SpawnWorld

namespace Stack

/-- No client, no helper. -/
def init : Stack := ⟨none, [], []⟩

/-- `self._client = spawn_helper()`, with what `_find_helper()` found, whether `os.remove`
    removes the endpoint, the rounds before the deadline and the path `_next_socket_path()`
    gave; a raise leaves `_client` as it was. -/
def spawn (helperPath : Option String) (searched : String) (removes : Bool) (rounds : List Poll)
    (path : String) (s : Stack) : Except PyExc Nat × Stack :=
  match (spawnHelper helperPath searched removes rounds).run SpawnWorld.init with
  | (.ok c, w) => (.ok s.helpers.length,
      { s with client := some (s.helpers.length, ⟨false, c.sock, true, path⟩),
               helpers := s.helpers ++ [w] })
  | (.error e, w) => (.error e, { s with failed := s.failed ++ [w] })

/-- `_ensure_client()`: the client when it is open, otherwise a new one. -/
def ensureClient (helperPath : Option String) (searched : String) (removes : Bool)
    (rounds : List Poll) (path : String) (s : Stack) : Except PyExc Nat × Stack :=
  match s.client with
  | some (i, c) => if c.closed then s.spawn helperPath searched removes rounds path else (.ok i, s)
  | none => s.spawn helperPath searched removes rounds path

/-- `close()` on the client `c` of helper `i`: its outcome, the client after it, and the
    stack with the helper's new state. -/
def closeClient (exits₂ exits₅ removes : Bool) (i : Nat) (c : ClientAttrs) (s : Stack) :
    Except TimeoutExpired Unit × ClientAttrs × Stack :=
  let r := (IPCClient.close exits₂ exits₅ removes).run ⟨c, s.helpers.getD i SpawnWorld.init⟩
  (r.1, r.2.client, { s with helpers := s.helpers.set i r.2.os })

/-- `IPCBackend.close()`: `self._client.close()`, then `self._client = None`; a raise from
    `close` leaves `_client` set. -/
def close (exits₂ exits₅ removes : Bool) (s : Stack) : Except TimeoutExpired Unit × Stack :=
  match s.client with
  | none => (.ok (), s)
  | some (i, c) =>
    match s.closeClient exits₂ exits₅ removes i c with
    | (.ok (), _, s') => (.ok (), { s' with client := none })
    | (.error e, c', s') => (.error e, { s' with client := some (i, c') })

end Stack

section Steps

variable (strict : Bool)

/-- One step of a program over the stack.  Calls on the client change no process, socket or
    endpoint, so they are not steps here. -/
inductive StackStep : Stack → Stack → Prop
  /-- a method reaching `self.client`, which runs `_ensure_client()`; a spawn takes its path
      from `_next_socket_path()` -/
  | ensure {s} (helperPath : Option String) (searched : String) (removes : Bool)
      (rounds : List Poll) (windows : Bool) (tmp : String) (pid ns count : Nat) :
      (strict = true → ¬ FirstAttemptFails rounds ∧ removes = true) →
      StackStep s
        (s.ensureClient helperPath searched removes rounds (socketPath windows tmp pid ns count)).2
  /-- `backend.client.close()`, or the client's `__exit__` -/
  | closeClient {s i c} (exits₂ exits₅ removes : Bool) : s.client = some (i, c) →
      (strict = true → ((exits₂ || exits₅) && removes) = true) →
      StackStep s { (s.closeClient exits₂ exits₅ removes i c).2.2 with
        client := some (i, (s.closeClient exits₂ exits₅ removes i c).2.1) }
  /-- `IPCBackend.close()` -/
  | close {s} (exits₂ exits₅ removes : Bool) :
      (strict = true → ((exits₂ || exits₅) && removes) = true) →
      StackStep s (s.close exits₂ exits₅ removes).2

/-- The stacks some run reaches. -/
def StackReachable (s : Stack) : Prop := Relation.ReflTransGen (StackStep strict) Stack.init s

/-! ## 4. The invariant -/

/-- Helper `i` is accounted for: the open client's helper is serving, any other is `Left`. -/
def Accounted (client : Option (Nat × ClientAttrs)) (i : Nat) (w : SpawnWorld) : Prop :=
  match client with
  | some (j, c) => if j = i ∧ c.closed = false then Serving c w else Left strict w
  | none => Left strict w

/-- What every reachable stack satisfies. -/
structure StackInv (s : Stack) : Prop where
  client : ∀ i c, s.client = some (i, c) → i < s.helpers.length
  helpers : ∀ i w, s.helpers[i]? = some w → Accounted strict s.client i w
  failed : ∀ w ∈ s.failed, Left strict w

end Steps

/-! ## 5. Every step keeps the invariant -/

section Invariant

variable {strict : Bool}

theorem getElem?_append_singleton_eq {α : Type} {l : List α} {a b : α} {i : Nat}
    (h : (l ++ [a])[i]? = some b) : l[i]? = some b ∨ i = l.length ∧ a = b := by
  rcases lt_or_ge i l.length with hlt | hge
  · exact .inl (by rwa [List.getElem?_append_left hlt] at h)
  · rw [List.getElem?_append_right hge, List.getElem?_eq_some_iff] at h
    obtain ⟨hi, rfl⟩ := h
    exact .inr ⟨by simp at hi; omega, by simp⟩

theorem Left.mono {b : Bool} {w : SpawnWorld} (h : Left b w) (hb : strict = true → b = true) :
    Left strict w := by
  cases strict
  · exact h.weaken
  · exact hb rfl ▸ h

/-- A helper that is not the open client's is accounted for exactly when it is `Left`. -/
theorem accounted_iff_left {client : Option (Nat × ClientAttrs)} {i : Nat} {w : SpawnWorld}
    (h : ∀ c, client = some (i, c) → c.closed = true) :
    Accounted strict client i w ↔ Left strict w := by
  rcases client with _ | ⟨j, c⟩
  · rfl
  · by_cases hj : j = i
    · subst hj
      simp [Accounted, h c rfl]
    · simp [Accounted, hj]

/-- A stack whose client, if it has one, is closed keeps the invariant when every helper and
    every failed spawn is `Left`. -/
theorem StackInv.of_left {s : Stack}
    (hc : ∀ i c, s.client = some (i, c) → i < s.helpers.length ∧ c.closed = true)
    (hh : ∀ (i : Nat) (w : SpawnWorld), s.helpers[i]? = some w → Left strict w) (hf : ∀ w ∈ s.failed, Left strict w) :
    StackInv strict s :=
  ⟨fun i c h => (hc i c h).1,
    fun i w h => (accounted_iff_left fun c h' => (hc i c h').2).2 (hh i w h), hf⟩

/-- With no open client, every helper is `Left`. -/
theorem StackInv.left {s : Stack} (hi : StackInv strict s)
    (hno : ∀ i c, s.client = some (i, c) → c.closed = true) {i : Nat} {w : SpawnWorld}
    (h : s.helpers[i]? = some w) : Left strict w :=
  (accounted_iff_left fun c hc => hno i c hc).1 (hi.helpers i w h)

theorem StackInv.init : StackInv strict Stack.init := ⟨nofun, fun _ _ h => (nomatch h), nofun⟩

/-- `self._client = spawn_helper()` keeps the invariant when no client is open. -/
theorem StackInv.spawn {s : Stack} {helperPath : Option String} {searched path : String}
    {removes : Bool} {rounds : List Poll} (hi : StackInv strict s)
    (hno : ∀ i c, s.client = some (i, c) → c.closed = true)
    (hf : strict = true → ¬ FirstAttemptFails rounds ∧ removes = true) (hp : path ≠ "") :
    StackInv strict (s.spawn helperPath searched removes rounds path).2 := by
  have fail : ∀ {w}, Left strict w → StackInv strict { s with failed := s.failed ++ [w] } :=
    fun hw => ⟨hi.client, hi.helpers, fun w' h =>
      (List.mem_append.1 h).elim (hi.failed w') fun h => List.eq_of_mem_singleton h ▸ hw⟩
  rcases spawnHelper_cases helperPath searched removes rounds with ⟨-, h⟩ | ⟨-, hfa, h⟩ | ⟨-, -, ho⟩
  · rw [Stack.spawn, h]
    exact fail .notSpawned
  · cases strict
    · rw [Stack.spawn, h]
      exact fail .orphaned
    · exact absurd hfa (hf rfl).1
  · unfold Stack.spawn
    revert ho
    generalize (spawnHelper helperPath searched removes rounds).run SpawnWorld.init = p
    obtain ⟨_ | c, ⟨wh, ws, we⟩⟩ := p
    · rintro ⟨-, rfl, rfl, hc⟩
      exact fail (.reaped hc fun h => (hf h).2)
    · rintro ⟨hr, he, closed, hcl, hw, hk⟩
      refine ⟨fun i c h => ?_, fun i w h => ?_, hi.failed⟩
      · cases h
        simp
      · rcases getElem?_append_singleton_eq h with h | ⟨rfl, rfl⟩
        · have hlt : i < s.helpers.length := (List.getElem?_eq_some_iff.1 h).1
          exact (accounted_iff_left fun c hc =>
            absurd (congrArg Prod.fst (Option.some.inj hc)) hlt.ne').2 (hi.left hno h)
        · simp only [Accounted, and_self, if_true]
          exact ⟨rfl, rfl, hp, hr, he, closed, hcl, hw, hk⟩

/-- `close()` on the client of an accounted helper closes the client and leaves the helper
    `Left`, and returns when the helper exits within one of the waits. -/
theorem close_accounted {i : Nat} {c : ClientAttrs} {w : SpawnWorld}
    (hw : Accounted strict (some (i, c)) i w) {exits₂ exits₅ removes : Bool}
    (he : strict = true → ((exits₂ || exits₅) && removes) = true) :
    ((IPCClient.close exits₂ exits₅ removes).run ⟨c, w⟩).2.client.closed = true ∧
      Left strict ((IPCClient.close exits₂ exits₅ removes).run ⟨c, w⟩).2.os ∧
      ((exits₂ || exits₅) = true →
        ((IPCClient.close exits₂ exits₅ removes).run ⟨c, w⟩).1 = .ok ()) := by
  cases hc : c.closed
  · simp only [Accounted, hc, and_self, if_true] at hw
    obtain ⟨h₁, h₂, h₃⟩ := close_serving hw exits₂ exits₅ removes
    exact ⟨by rw [h₁], h₂.mono he, h₃.2⟩
  · simp only [Accounted, hc, and_false, if_false] at hw
    rw [run_close_closed hc]
    exact ⟨hc, hw, fun _ => rfl⟩

/-- `close()` on the client of helper `i` closes it and leaves every helper `Left`. -/
theorem StackInv.closeClient {s : Stack} {i : Nat} {c : ClientAttrs} (hi : StackInv strict s)
    (hc : s.client = some (i, c)) {exits₂ exits₅ removes : Bool}
    (he : strict = true → ((exits₂ || exits₅) && removes) = true) :
    (s.closeClient exits₂ exits₅ removes i c).2.1.closed = true ∧
      (s.closeClient exits₂ exits₅ removes i c).2.2.helpers.length = s.helpers.length ∧
      (s.closeClient exits₂ exits₅ removes i c).2.2.failed = s.failed ∧
      (∀ (k : Nat) (w : SpawnWorld), (s.closeClient exits₂ exits₅ removes i c).2.2.helpers[k]? = some w →
        Left strict w) ∧
      ((exits₂ || exits₅) = true → (s.closeClient exits₂ exits₅ removes i c).1 = .ok ()) := by
  have hlt := hi.client i c hc
  have hget : s.helpers[i]? = some (s.helpers.getD i SpawnWorld.init) := by
    simp [List.getElem?_eq_getElem hlt]
  have hacc := hi.helpers i _ hget
  rw [hc] at hacc
  obtain ⟨h₁, h₂, h₃⟩ := close_accounted hacc he
  refine ⟨h₁, List.length_set .., rfl, fun k w h => ?_, h₃⟩
  by_cases hk : i = k
  · subst hk
    rw [Stack.closeClient, List.getElem?_set_self hlt] at h
    exact Option.some.inj h ▸ h₂
  · rw [Stack.closeClient, List.getElem?_set_ne hk] at h
    have := hi.helpers k w h
    rw [hc] at this
    exact (accounted_iff_left fun c' h' => absurd (congrArg Prod.fst (Option.some.inj h')) hk).1 this

/-- After `close()` on the client of helper `i`, the stack keeps the invariant with no client
    or with the closed one. -/
theorem StackInv.closeClient_with {s s' : Stack} {i : Nat} {c c' : ClientAttrs}
    {r : Except TimeoutExpired Unit} (hi : StackInv strict s) (hc : s.client = some (i, c))
    {exits₂ exits₅ removes : Bool} (he : strict = true → ((exits₂ || exits₅) && removes) = true)
    (hr : s.closeClient exits₂ exits₅ removes i c = (r, c', s')) {client : Option (Nat × ClientAttrs)}
    (hcl : ∀ j c'', client = some (j, c'') → j = i ∧ c'' = c') :
    StackInv strict { s' with client := client } := by
  obtain ⟨h₁, h₂, h₃, h₄, -⟩ := hi.closeClient hc he
  rw [hr] at h₁ h₂ h₃ h₄
  refine StackInv.of_left (fun j c'' h => ?_) h₄ (h₃ ▸ hi.failed)
  obtain ⟨rfl, rfl⟩ := hcl j c'' h
  exact ⟨h₂ ▸ hi.client _ _ hc, h₁⟩

/-- **One step keeps the invariant.** -/
theorem StackInv.step {s s' : Stack} (hi : StackInv strict s) (h : StackStep strict s s') :
    StackInv strict s' := by
  cases h with
  | ensure helperPath searched removes rounds windows tmp pid ns count hf =>
    have hp := socketPath_ne_empty windows tmp pid ns count
    unfold Stack.ensureClient
    split
    · next i c hc =>
      split
      · exact hi.spawn (fun j c' h => by rw [hc] at h; cases h; assumption) hf hp
      · exact hi
    · next hc => exact hi.spawn (fun j c' h => by simp [hc] at h) hf hp
  | closeClient exits₂ exits₅ removes hc he =>
    exact hi.closeClient_with hc he rfl fun j c'' h => by cases h; exact ⟨rfl, rfl⟩
  | close exits₂ exits₅ removes he =>
    unfold Stack.close
    split
    · exact hi
    · next i c hc =>
      split
      · next c' s' hr => exact hi.closeClient_with hc he hr nofun
      · next e c' s' hr => exact hi.closeClient_with hc he hr fun j c'' h => by cases h; exact ⟨rfl, rfl⟩

/-- **Every run keeps the invariant.** -/
theorem StackInv.reachable {s : Stack} (hs : StackReachable strict s) : StackInv strict s := by
  induction hs with
  | refl => exact .init
  | tail _ h ih => exact ih.step h

/-- `IPCBackend.close()` returns and drops the client when the client's helper, if it
    serves, exits within one of the waits and its endpoint can be removed. -/
theorem StackInv.close_ok {s : Stack} (hi : StackInv strict s) {exits₂ exits₅ removes : Bool}
    (he : ((exits₂ || exits₅) && removes) = true) :
    (s.close exits₂ exits₅ removes).1 = .ok () ∧ (s.close exits₂ exits₅ removes).2.client = none := by
  unfold Stack.close
  split
  · next hc => exact ⟨rfl, hc⟩
  · next i c hc =>
    have hok := (hi.closeClient hc fun _ => he).2.2.2.2 (by rw [Bool.and_eq_true] at he; exact he.1)
    split
    · exact ⟨rfl, rfl⟩
    · next e c' s' hr => rw [hr] at hok; cases hok

end Invariant

/-! ## 6. What a run leaves -/

/-- **`IPCBackend.close()` after a strict run leaves nothing behind**: when the helper exits
    within one of the waits and `os.remove` removes its endpoint, it returns, drops the
    client, and no helper process is left unreaped, no endpoint in place and no socket
    open. -/
theorem backend_close_cleans_up {s : Stack} (hs : StackReachable true s)
    {exits₂ exits₅ removes : Bool} (he : (exits₂ || exits₅) = true) (hr : removes = true) :
    (s.close exits₂ exits₅ removes).1 = .ok () ∧ (s.close exits₂ exits₅ removes).2.client = none ∧
      ∀ w ∈ (s.close exits₂ exits₅ removes).2.helpers ++ (s.close exits₂ exits₅ removes).2.failed,
        (w.helper = .notSpawned ∨ w.helper = .reaped ∧ w.endpointRemoved = true) ∧
          ∀ k ∈ w.socks, k = .closed := by
  have hi := StackInv.reachable hs
  have hc : ((exits₂ || exits₅) && removes) = true := by rw [he, hr]; rfl
  obtain ⟨hok, hnone⟩ := hi.close_ok hc
  have hi' := hi.step (.close exits₂ exits₅ removes fun _ => hc)
  refine ⟨hok, hnone, fun w hw => Left.clean ?_⟩
  rcases List.mem_append.1 hw with hw | hw
  · obtain ⟨i, h⟩ := List.getElem?_of_mem hw
    exact hi'.left (fun j c hc => by rw [hnone] at hc; cases hc) h
  · exact hi'.failed w hw

/-- A helper spawned on the second round, then the backend closed with the helper exiting
    after the kill and its endpoint removed. -/
theorem backend_close_cleans_up_after_spawn :
    let s : Stack := ⟨some (0, ⟨false, 1, true, socketPath false "/tmp" 7 10 1⟩),
      [⟨.running, [.closed, .connected], false⟩], []⟩
    StackReachable true s ∧ (false || true) = true ∧
      ((s.close false true true).1 = .ok () ∧ (s.close false true true).2.client = none ∧
        ∀ w ∈ (s.close false true true).2.helpers ++ (s.close false true true).2.failed,
          (w.helper = .notSpawned ∨ w.helper = .reaped ∧ w.endpointRemoved = true) ∧
            ∀ k ∈ w.socks, k = .closed) := by
  intro s
  have h₁ := @StackStep.ensure true Stack.init (some "cc-helper") "" true
    [.connectFails "[Errno 111] Connection refused", .connects] false "/tmp" 7 10 1
    fun _ => ⟨not_firstAttemptFails_connectFails _ _, rfl⟩
  have hs : StackReachable true s := .single h₁
  exact ⟨hs, rfl, backend_close_cleans_up hs rfl rfl⟩

/-! ## 7. The stack refines the backend of `Backend/Lifecycle` -/

/-- The backend a stack is, at the level of `Backend/Lifecycle`: the client's helper and its
    `_closed`, and how many helpers were spawned. -/
def Stack.backend (s : Stack) : IPCBackend :=
  ⟨s.client.map fun p => ⟨p.1, p.2.closed⟩, s.helpers.length⟩

/-- Whether `spawn_helper` returned or what it raised: all `IPCBackend.spawn` sees of it. -/
def spawnResult (helperPath : Option String) (searched : String) (removes : Bool)
    (rounds : List Poll) : Except PyExc Unit :=
  ((spawnHelper helperPath searched removes rounds).run SpawnWorld.init).1.map fun _ => ()

/-- `close()` closes the client whatever it holds. -/
theorem close_client (c : ClientAttrs) (w : SpawnWorld) (exits₂ exits₅ removes : Bool) :
    ((IPCClient.close exits₂ exits₅ removes).run ⟨c, w⟩).2.client = { c with closed := true } := by
  obtain ⟨_ | _, _, _ | _, ⟨_ | ⟨_, _⟩⟩⟩ := c <;> cases exits₂ <;> cases exits₅ <;> rfl

theorem spawn_refines (s : Stack) (helperPath : Option String) (searched path : String)
    (removes : Bool) (rounds : List Poll) :
    (IPCBackend.spawn (spawnResult helperPath searched removes rounds)).run s.backend =
      ((s.spawn helperPath searched removes rounds path).1,
        (s.spawn helperPath searched removes rounds path).2.backend) := by
  unfold Stack.spawn spawnResult
  rcases (spawnHelper helperPath searched removes rounds).run SpawnWorld.init with ⟨_ | c, w⟩
  · rfl
  · show _ = (_, ⟨_, (s.helpers ++ [w]).length⟩)
    rw [List.length_append]
    rfl


theorem ensureClient_refines (s : Stack) (helperPath : Option String) (searched path : String)
    (removes : Bool) (rounds : List Poll) :
    (IPCBackend.ensureClient (spawnResult helperPath searched removes rounds)).run s.backend =
      ((s.ensureClient helperPath searched removes rounds path).1,
        (s.ensureClient helperPath searched removes rounds path).2.backend) := by
  rw [IPCBackend.ensureClient, PyM.run_bind, PyM.run_get]
  have hb : s.backend.client = s.client.map fun p => ⟨p.1, p.2.closed⟩ := rfl
  rcases hc : s.client with _ | ⟨i, c⟩ <;> simp only [Stack.ensureClient, hb, hc, Option.map]
  · exact spawn_refines s helperPath searched path removes rounds
  · cases c.closed
    · rfl
    · exact spawn_refines s helperPath searched path removes rounds


/-- What a step of the stack does to the backend: what a step of `World.Step` does to it in
    `Backend/Lifecycle`, or nothing. -/
inductive BackendMove : IPCBackend → IPCBackend → Prop
  /-- `_ensure_client` returned a helper, as in `World.Step.issue` and `World.Step.use` -/
  | ensure {b b' : IPCBackend} {n : Nat} (r : Except PyExc Unit) :
      (IPCBackend.ensureClient r).run b = (.ok n, b') → BackendMove b b'
  /-- `IPCBackend.close()`, as in `World.Step.close` -/
  | close {b : IPCBackend} : BackendMove b b.close
  /-- the client was closed, as in `World.Step.clientClose` -/
  | clientClose {b : IPCBackend} {n : Nat} :
      b.client = some ⟨n, false⟩ → BackendMove b { b with client := some ⟨n, true⟩ }
  /-- nothing: a spawn that raised, or `close()` on a closed client -/
  | stay {b : IPCBackend} : BackendMove b b

theorem ensureClient_error_state {r : Except PyExc Unit} {b b' : IPCBackend} {e : PyExc}
    (h : (IPCBackend.ensureClient r).run b = (.error e, b')) : b' = b := by
  unfold IPCBackend.ensureClient IPCBackend.spawn at h
  rw [PyM.run_bind, PyM.run_get] at h
  rcases r with e' | ⟨⟩ <;> rcases hc : b.client with _ | ⟨n, _ | _⟩ <;>
    simp_all [PyM.run_bind, PyM.run_ofExcept, PyM.run_get, PyM.run_set, PyM.run_pure, Except.map]

theorem closeClient_backend (s : Stack) (exits₂ exits₅ removes : Bool) (i : Nat)
    (c : ClientAttrs) (client : Option (Nat × ClientAttrs)) :
    ({ (s.closeClient exits₂ exits₅ removes i c).2.2 with client := client } : Stack).backend =
      ⟨client.map fun p => ⟨p.1, p.2.closed⟩, s.helpers.length⟩ := by
  simp [Stack.backend, Stack.closeClient]

theorem closeClient_client_closed (s : Stack) (exits₂ exits₅ removes : Bool) (i : Nat)
    (c : ClientAttrs) :
    (s.closeClient exits₂ exits₅ removes i c).2.1.closed = true := by
  simp [Stack.closeClient, close_client]

/-- Closing the client of helper `i` is a client close, or nothing when it was closed. -/
theorem backendMove_close_client {s : Stack} {i : Nat} {c : ClientAttrs}
    (hc : s.client = some (i, c)) : BackendMove s.backend ⟨some ⟨i, true⟩, s.helpers.length⟩ := by
  have hb : s.backend.client = some ⟨i, c.closed⟩ := by simp [Stack.backend, hc]
  cases h : c.closed
  · rw [h] at hb
    exact .clientClose hb
  · rw [h] at hb
    rw [show (⟨some ⟨i, true⟩, s.helpers.length⟩ : IPCBackend) = s.backend from by
      rw [← hb]; rfl]
    exact .stay

/-- Every step of the process-level stack moves its backend as a step of `World.Step` moves
    the backend there: `_ensure_client` through `IPCBackend.ensureClient` with what
    `spawn_helper` did, `IPCBackend.close`, or the client's close; or it leaves it as it was. -/
theorem StackStep.backendMove {strict : Bool} {s s' : Stack} (h : StackStep strict s s') :
    BackendMove s.backend s'.backend := by
  cases h with
  | ensure helperPath searched removes rounds windows tmp pid ns count _ =>
    have hr := ensureClient_refines s helperPath searched (socketPath windows tmp pid ns count)
      removes rounds
    rcases he : (s.ensureClient helperPath searched removes rounds
      (socketPath windows tmp pid ns count)).1
      with e | n <;> rw [he] at hr
    · rw [← ensureClient_error_state hr]
      exact .stay
    · exact .ensure _ hr
  | closeClient exits₂ exits₅ removes hc _ =>
    rw [closeClient_backend, Option.map_some', closeClient_client_closed]
    exact backendMove_close_client hc
  | close exits₂ exits₅ removes _ =>
    unfold Stack.close
    split
    · exact .stay
    · next i c hc =>
      split
      · next c' s'' hr =>
        have := congrArg (fun r => ({ r.2.2 with client := none } : Stack).backend) hr
        simp only at this
        rw [← this, closeClient_backend]
        exact .close
      · next e c' s'' hr =>
        have := congrArg (fun r => ({ r.2.2 with client := some (i, r.2.1) } : Stack).backend) hr
        simp only at this
        rw [← this, closeClient_backend, Option.map_some', closeClient_client_closed]
        exact backendMove_close_client hc

/-- **The stack refines the backend of `Backend/Lifecycle`.**  The backend of every stack a
    run reaches is reached from `IPCBackend()` by the moves `World.Step` makes on it, so what
    `Backend/Lifecycle` proves of its backend holds of the processes. -/
theorem stack_refines_backend {strict : Bool} {s : Stack} (hs : StackReachable strict s) :
    Relation.ReflTransGen BackendMove IPCBackend.init s.backend := by
  induction hs with
  | refl => exact .refl
  | tail _ h ih => exact ih.tail h.backendMove

/-- A spawn that connects on the first round, then `backend.client.close()`. -/
theorem stack_refines_backend_spawn_close :
    StackReachable false ⟨some (0, ⟨true, 0, true, socketPath false "/tmp" 7 10 1⟩),
      [⟨.reaped, [.closed], true⟩], []⟩ ∧
    Relation.ReflTransGen BackendMove IPCBackend.init
      (Stack.backend ⟨some (0, ⟨true, 0, true, socketPath false "/tmp" 7 10 1⟩),
        [⟨.reaped, [.closed], true⟩], []⟩) := by
  have h₁ := @StackStep.ensure false Stack.init (some "cc-helper") "" true [.connects] false "/tmp"
    7 10 1 nofun
  have h₂ := @StackStep.closeClient false
    ⟨some (0, ⟨false, 0, true, socketPath false "/tmp" 7 10 1⟩), [⟨.running, [.connected], false⟩],
      []⟩ _ _ true false true rfl nofun
  have hs : StackReachable false ⟨some (0, ⟨true, 0, true, socketPath false "/tmp" 7 10 1⟩),
      [⟨.reaped, [.closed], true⟩], []⟩ := .tail (.single h₁) h₂
  exact ⟨hs, stack_refines_backend hs⟩

end CrumbleCracker
