import CrumbleCracker.Backend.Ops

/-!
# Spawning the helper (`spawn_helper`)

`spawn_helper` starts `cc-helper` with `subprocess.Popen` and polls for its socket until a
deadline ten seconds on.  In each round, if the endpoint exists, it creates a socket with
`socket.socket` and connects it, and returns `IPCClient(sock, socket_path, process)`; an
`OSError` from either call is kept in `last_err`, and the `except` clause closes `sock`.
When the deadline has passed it kills and reaps the process, removes the endpoint with
`_remove_socket` and raises `CCError(f"Failed to connect to cc-helper: {last_err}", code=7)`.

What the environment decides is the list of `Poll` outcomes of the rounds that start before
the deadline, so a list of any length is a deadline expiring after that many rounds, and
whether `os.remove` removes the endpoint when `_remove_socket` tries (`removes`): it drops the
`OSError` otherwise, after one try on POSIX and five on Windows, and returns.  `SpawnWorld` is
what the loop leaves behind: the helper process, the sockets the loop created, and whether the
endpoint was removed; `time.sleep` changes none of it.  `sock` is a local that
is unbound until the first `socket.socket` returns, and `sock.close()` on it then raises
`UnboundLocalError`.

## Results

* `pollLoop_cases`: from any state of the loop, the run returns a client that owns the
  running helper and the one open socket, or raises code `7` after killing and reaping the
  helper and removing the endpoint if `os.remove` can; or, exactly when `sock` is unbound and
  the next round that finds the endpoint fails to create a socket, it raises
  `UnboundLocalError` and leaves the helper running and the endpoint in place.
* `spawnHelper_cases`: the same for `spawn_helper`, on every list of rounds.
* `spawn_helper_leaks_helper`: a socket that cannot be created in the first round leaves the
  helper running with no client; after one failed connect, the same failure is cleaned up.
-/

namespace CrumbleCracker

/-- What one round of the polling loop meets. -/
inductive Poll
  /-- `os.path.exists(socket_path)` is false -/
  | absent
  /-- `socket.socket(socket.AF_UNIX, socket.SOCK_STREAM)` raises an `OSError` reading `err` -/
  | socketFails (err : String)
  /-- the socket is created and `sock.connect(socket_path)` raises an `OSError` reading `err` -/
  | connectFails (err : String)
  /-- the socket is created and connects -/
  | connects
  deriving DecidableEq, Repr

/-- The process `Popen` starts. -/
inductive HelperProc
  | notSpawned
  | running
  /-- `process.kill()` -/
  | killed
  /-- `process.wait()` after the kill -/
  | reaped
  deriving DecidableEq, Repr

/-- A socket the loop created. -/
inductive SockState
  | fresh
  | connected
  | closed
  deriving DecidableEq, Repr

/-- What `spawn_helper` leaves behind. -/
structure SpawnWorld where
  helper : HelperProc
  /-- the sockets `socket.socket` returned, oldest first -/
  socks : List SockState
  /-- `_remove_socket(socket_path)` has removed the endpoint -/
  endpointRemoved : Bool
  deriving DecidableEq, Repr

/-- Before `spawn_helper`. -/
def SpawnWorld.init : SpawnWorld := ⟨.notSpawned, [], false⟩

/-- `IPCClient(sock, socket_path, process)`: the socket it holds, by its place in
    `SpawnWorld.socks`, with the loop's `socket_path` and the spawned `process`. -/
structure Spawned where
  sock : Nat
  deriving DecidableEq, Repr

/-- A statement of `spawn_helper`. -/
abbrev SpawnM := PyM SpawnWorld

namespace Spawn

/-- `subprocess.Popen([helper_path, "-socket", socket_path], **kwargs)`. -/
def popen : SpawnM Unit := modify fun w => { w with helper := .running }

/-- `socket.socket(socket.AF_UNIX, socket.SOCK_STREAM)`. -/
def socket : SpawnM Nat := modifyGet fun w => (w.socks.length, { w with socks := w.socks ++ [.fresh] })

/-- The socket numbered `k` is now in state `s`. -/
def setSock (k : Nat) (s : SockState) : SpawnM Unit :=
  modify fun w => { w with socks := w.socks.set k s }

/-- `sock.close()` on the local `sock`, unbound before the first socket. -/
def closeLocal : Option Nat → SpawnM Unit
  | none => throw (.unboundLocalError "sock")
  | some k => setSock k .closed

/-- `process.kill()`. -/
def kill : SpawnM Unit := modify fun w => { w with helper := .killed }

/-- `process.wait()`. -/
def wait : SpawnM Unit := modify fun w => { w with helper := .reaped }

/-- `_remove_socket(socket_path)`: the endpoint is gone when `os.remove` removes it, and
    stays when every try raises `OSError`, which is dropped. -/
def removeSocket (removes : Bool) : SpawnM Unit :=
  modify fun w => { w with endpointRemoved := w.endpointRemoved || removes }

end Spawn

/-- The `while` loop and the cleanup after it, from the values of `sock` and `last_err`
    (`None` is `str(None)`); the rounds are those that start before the deadline. -/
def pollLoop (removes : Bool) : List Poll → Option Nat → Option String → SpawnM Spawned
  | [], _, lastErr => do
    Spawn.kill
    Spawn.wait
    Spawn.removeSocket removes
    throw (.cc (connectFailed (lastErr.getD "None")))
  | .absent :: rounds, sock, lastErr => pollLoop removes rounds sock lastErr
  | .socketFails err :: rounds, sock, _ => do
    Spawn.closeLocal sock
    pollLoop removes rounds sock (some err)
  | .connectFails err :: rounds, _, _ => do
    let k ← Spawn.socket
    Spawn.closeLocal (some k)
    pollLoop removes rounds (some k) (some err)
  | .connects :: _, _, _ => do
    let k ← Spawn.socket
    Spawn.setSock k .connected
    return ⟨k⟩

/-- `spawn_helper()`: `helperPath` is what `_find_helper()` found and `searched` the paths it
    tried. -/
def spawnHelper (helperPath : Option String) (searched : String) (removes : Bool)
    (rounds : List Poll) : SpawnM Spawned :=
  match helperPath with
  | none => throw (.cc (helperNotFound searched))
  | some _ => do
    Spawn.popen
    pollLoop removes rounds none none

/-! ## What a run leaves -/

/-- Between rounds: the helper runs, the endpoint is in place, every socket created so far is
    closed, and none has been created while `sock` is unbound. -/
def LoopInv (w : SpawnWorld) (sock : Option Nat) : Prop :=
  w.helper = .running ∧ w.endpointRemoved = false ∧ (∀ s ∈ w.socks, s = .closed) ∧
    (sock = none → w.socks = [])

/-- What `spawn_helper` may leave: a client that owns the running helper, its endpoint in
    place, and the one open socket, every other socket closed; or `CCError` with code `7`
    after the helper was killed and reaped and the endpoint removed when `os.remove` removes
    it, every socket closed. -/
def Owns (removes : Bool) (w : SpawnWorld) : Except PyExc Spawned → Prop
  | .ok c => w.helper = .running ∧ w.endpointRemoved = false ∧
      ∃ closed, (∀ s ∈ closed, s = .closed) ∧ w.socks = closed ++ [.connected] ∧
        c.sock = closed.length
  | .error e => (∃ err : CCError, e = .cc err ∧ err.cls = .CCError ∧ err.code = 7) ∧
      w.helper = .reaped ∧ w.endpointRemoved = removes ∧ ∀ s ∈ w.socks, s = .closed

/-- The first round that finds the endpoint fails to create a socket. -/
def FirstAttemptFails (rounds : List Poll) : Prop :=
  ∃ err, (rounds.dropWhile (· == .absent)).head? = some (.socketFails err)

@[simp] theorem firstAttemptFails_nil : ¬ FirstAttemptFails [] := fun ⟨_, h⟩ => nomatch h

@[simp] theorem firstAttemptFails_absent (rounds : List Poll) :
    FirstAttemptFails (.absent :: rounds) ↔ FirstAttemptFails rounds := by
  simp only [FirstAttemptFails, List.dropWhile_cons, beq_self_eq_true, if_true]

@[simp] theorem firstAttemptFails_socketFails (err : String) (rounds : List Poll) :
    FirstAttemptFails (.socketFails err :: rounds) := ⟨err, rfl⟩

@[simp] theorem not_firstAttemptFails_connectFails (err : String) (rounds : List Poll) :
    ¬ FirstAttemptFails (.connectFails err :: rounds) := fun ⟨_, h⟩ => nomatch h

@[simp] theorem not_firstAttemptFails_connects (rounds : List Poll) :
    ¬ FirstAttemptFails (.connects :: rounds) := fun ⟨_, h⟩ => nomatch h

/-! ### One round -/

section Rounds

variable (removes : Bool) (rounds : List Poll) (lastErr : Option String) (w : SpawnWorld)

theorem run_pollLoop_nil (sock : Option Nat) :
    (pollLoop removes [] sock lastErr).run w = (.error (.cc (connectFailed (lastErr.getD "None"))),
      { w with helper := .reaped, endpointRemoved := w.endpointRemoved || removes }) := rfl

theorem run_pollLoop_absent (sock : Option Nat) :
    (pollLoop removes (.absent :: rounds) sock lastErr).run w =
      (pollLoop removes rounds sock lastErr).run w := rfl

theorem run_pollLoop_socketFails_none (err : String) :
    (pollLoop removes (.socketFails err :: rounds) none lastErr).run w =
      (.error (.unboundLocalError "sock"), w) := rfl

theorem run_pollLoop_socketFails_some (err : String) (k : Nat) :
    (pollLoop removes (.socketFails err :: rounds) (some k) lastErr).run w =
      (pollLoop removes rounds (some k) (some err)).run { w with socks := w.socks.set k .closed } :=
  rfl

theorem run_pollLoop_connectFails (err : String) (sock : Option Nat) :
    (pollLoop removes (.connectFails err :: rounds) sock lastErr).run w =
      (pollLoop removes rounds (some w.socks.length) (some err)).run
        { w with socks := w.socks ++ [.closed] } := by
  rw [show w.socks ++ [SockState.closed] = (w.socks ++ [SockState.fresh]).set w.socks.length SockState.closed by
    simp]
  rfl

theorem run_pollLoop_connects (sock : Option Nat) :
    (pollLoop removes (.connects :: rounds) sock lastErr).run w =
      (.ok ⟨w.socks.length⟩, { w with socks := w.socks ++ [.connected] }) := by
  rw [show w.socks ++ [SockState.connected] =
      (w.socks ++ [SockState.fresh]).set w.socks.length SockState.connected by
    simp]
  rfl

end Rounds

/-- **Every run of the loop.** From a state between rounds, the loop either hands the helper
    to a client or cleans it up and raises code `7`; or, exactly when `sock` is unbound and
    the next round that finds the endpoint fails to create a socket, `sock.close()` raises
    `UnboundLocalError` and nothing is cleaned up. -/
theorem pollLoop_cases (removes : Bool) (rounds : List Poll) (sock : Option Nat)
    (lastErr : Option String) (w : SpawnWorld) (hw : LoopInv w sock) :
    (sock = none ∧ FirstAttemptFails rounds ∧
      (pollLoop removes rounds sock lastErr).run w = (.error (.unboundLocalError "sock"), w)) ∨
    (¬ (sock = none ∧ FirstAttemptFails rounds) ∧
      Owns removes ((pollLoop removes rounds sock lastErr).run w).2
        ((pollLoop removes rounds sock lastErr).run w).1) := by
  obtain ⟨hh, he, hc, hn⟩ := hw
  induction rounds generalizing sock lastErr w with
  | nil =>
    rw [run_pollLoop_nil]
    refine .inr ⟨by simp, ?_⟩
    unfold Owns
    exact ⟨⟨_, rfl, rfl, rfl⟩, rfl, by rw [he, Bool.false_or], hc⟩
  | cons poll rounds ih =>
    cases poll with
    | absent =>
      rw [run_pollLoop_absent, firstAttemptFails_absent]
      exact ih sock lastErr w hh he hc hn
    | socketFails err =>
      cases sock with
      | none => exact .inl ⟨rfl, firstAttemptFails_socketFails _ _, rfl⟩
      | some k =>
        rw [run_pollLoop_socketFails_some]
        refine .inr ⟨fun h => (nomatch h.1), ?_⟩
        exact ((ih (some k) (some err) { w with socks := w.socks.set k .closed } hh he
          (fun s hs => (List.mem_or_eq_of_mem_set hs).elim (hc s) id) (fun h => nomatch h)).resolve_left
          fun h => nomatch h.1).2
    | connectFails err =>
      rw [run_pollLoop_connectFails]
      refine .inr ⟨fun h => not_firstAttemptFails_connectFails err rounds h.2, ?_⟩
      have hc' : ∀ s ∈ w.socks ++ [.closed], s = .closed := fun s hs =>
        (List.mem_append.1 hs).elim (hc s) List.eq_of_mem_singleton
      exact ((ih (some w.socks.length) (some err) { w with socks := w.socks ++ [.closed] } hh he hc'
        (fun h => nomatch h)).resolve_left fun h => nomatch h.1).2
    | connects =>
      rw [run_pollLoop_connects]
      refine .inr ⟨fun h => not_firstAttemptFails_connects rounds h.2, ?_⟩
      unfold Owns
      exact ⟨hh, he, w.socks, hc, rfl, rfl⟩

/-- **Every run of `spawn_helper`.** Without a helper binary it raises `HelperNotFoundError`
    and spawns nothing.  Otherwise, unless the first round that finds the endpoint fails to
    create a socket, it returns a client owning the helper and the one open socket, or raises
    code `7` after killing and reaping the helper and removing the endpoint if `os.remove`
    can; and when that round does fail, it raises `UnboundLocalError` with the helper running
    and the endpoint in place. -/
theorem spawnHelper_cases (helperPath : Option String) (searched : String) (removes : Bool)
    (rounds : List Poll) :
    (helperPath = none ∧ (spawnHelper helperPath searched removes rounds).run SpawnWorld.init =
      (.error (.cc (helperNotFound searched)), SpawnWorld.init)) ∨
    (helperPath.isSome ∧ FirstAttemptFails rounds ∧
      (spawnHelper helperPath searched removes rounds).run SpawnWorld.init =
        (.error (.unboundLocalError "sock"), ⟨.running, [], false⟩)) ∨
    (helperPath.isSome ∧ ¬ FirstAttemptFails rounds ∧
      Owns removes ((spawnHelper helperPath searched removes rounds).run SpawnWorld.init).2
        ((spawnHelper helperPath searched removes rounds).run SpawnWorld.init).1) := by
  cases helperPath with
  | none => exact .inl ⟨rfl, rfl⟩
  | some path =>
    have hrun : (spawnHelper (some path) searched removes rounds).run SpawnWorld.init =
        (pollLoop removes rounds none none).run ⟨.running, [], false⟩ := rfl
    rw [hrun]
    rcases pollLoop_cases removes rounds none none ⟨.running, [], false⟩
      ⟨rfl, rfl, nofun, fun _ => rfl⟩ with
      ⟨-, hf, h⟩ | ⟨hf, ho⟩
    · exact .inr (.inl ⟨rfl, hf, h⟩)
    · exact .inr (.inr ⟨rfl, fun h => hf ⟨rfl, h⟩, ho⟩)

/-- **`spawn_helper` leaves the helper running.** When the endpoint is there in the first
    round but `socket.socket` raises `OSError`, `sock.close()` raises `UnboundLocalError`: no
    client is returned, the helper is neither killed nor reaped and the endpoint stays.  After
    one failed connect, the same failure closes the earlier socket and the deadline ends in
    `CCError` with code `7` and the cleanup. -/
theorem spawn_helper_leaks_helper :
    (spawnHelper (some "cc-helper") "" true [.socketFails "[Errno 24] Too many open files"]).run
        SpawnWorld.init = (.error (.unboundLocalError "sock"), ⟨.running, [], false⟩) ∧
    (spawnHelper (some "cc-helper") "" true
        [.connectFails "[Errno 111] Connection refused", .socketFails "[Errno 24] Too many open files"]).run
        SpawnWorld.init =
      (.error (.cc (connectFailed "[Errno 24] Too many open files")), ⟨.reaped, [.closed], true⟩) :=
  ⟨rfl, rfl⟩

end CrumbleCracker
