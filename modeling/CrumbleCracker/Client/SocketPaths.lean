import CrumbleCracker.Client.Threads
import CrumbleCracker.Digits
import Mathlib.Data.List.Nodup

/-!
# Socket paths (`_next_socket_path`)

`spawn_helper` starts every helper on a path from `_next_socket_path()`.  Under
`_socket_counter_lock` that function adds one to the module's `_socket_counter` and reads it
back as `count`; it then joins the temporary directory with
`cc-helper-{pid}-{time.time_ns()}-{count}.sock`, or on Windows joins the directory `cc` under
it with `h-{pid}-{count}.sock`.

Any number of threads call it, each any number of times, in any interleaving.  A thread's
`PathPc` says where it is; `_socket_counter += 1` reads the global and writes it back, two
steps.  The statements after the `with` block read no shared variable, so the path is made
in the step that leaves the block, from whatever the clock reads then.  `returned` is ghost
state: every count a call has left the lock with, and the path it returned.

## Results

* `PathInv.reachable`: the invariant of every interleaving.  Only the lock's holder is inside
  the block, so nobody else touches the counter between its read and its write.
* `socketPath_inj`, `socketPath_pid_inj`: two paths are equal only for equal counts and
  equal pids, whatever the clock read.
* `socket_paths_unique`: no two calls, in one process or in processes with different pids,
  ever return the same path.
-/

namespace CrumbleCracker

/-! ## 1. The path -/

/-- A separator: `/` for `posixpath`; `\` and `/` for `ntpath`. -/
def isPathSep (windows : Bool) (c : Char) : Bool := c = '/' || (windows && c = '\\')

/-- `ntpath.splitroot(a)` leaves nothing but a drive: `a` is `X:`, or a UNC drive
    `\\server\share` (after `\\?\UNC\` when it starts so) with at most one separator after
    its first two characters. -/
def ntDriveOnly (a : List Char) : Bool :=
  match a with
  | c :: d :: rest =>
    if isPathSep true c then
      isPathSep true d &&
        ((a.drop (if (a.take 8).map (fun c => (if c = '/' then '\\' else c).toUpper) =
          "\\\\?\\UNC\\".toList then 8 else 2)).filter (isPathSep true)).length ≤ 1
    else d = ':' && rest.isEmpty
  | _ => false

/-- `os.path.join(a, b)` for a file name `b`: `a`, then a separator unless `a` is empty,
    already ends with one, or is (under `ntpath`) a drive ending in `:`, then `b`.
    `posixpath` separates with `/`, `ntpath` (as of Python 3.12, with `splitroot`) with `\`. -/
def joinPath (windows : Bool) (a b : String) : String :=
  if a.isEmpty || isPathSep windows a.back || (windows && a.back = ':' && ntDriveOnly a.data) then
    a ++ b
  else a ++ (if windows then "\\" else "/") ++ b

example : joinPath true "C:" "cc" = "C:cc" := by decide
example : joinPath true "\\\\srv\\share" "cc" = "\\\\srv\\share\\cc" := by decide

/-- What `_next_socket_path()` returns for `count`, in the process `pid` whose temporary
    directory is `tmp`, when `time.time_ns()` reads `ns`. -/
def socketPath (windows : Bool) (tmp : String) (pid ns count : Nat) : String :=
  if windows then joinPath true (joinPath true tmp "cc") s!"h-{pid}-{count}.sock"
  else joinPath false tmp s!"cc-helper-{pid}-{ns}-{count}.sock"

example : socketPath false "/tmp" 7 10 1 = "/tmp/cc-helper-7-10-1.sock" := by decide
example : socketPath true "C:\\Temp" 7 10 1 = "C:\\Temp\\cc\\h-7-1.sock" := by decide

theorem joinPath_inj {windows : Bool} {a b b' : String} (h : joinPath windows a b = joinPath windows a b') :
    b = b' := by
  unfold joinPath at h
  split_ifs at h <;>
    simpa only [String.ext_iff, String.data_append, List.append_assoc, List.append_cancel_left_eq]
      using h

/-- The field after the last `-` of a text determines it. -/
theorem last_field_eq {a b d e : List Char} (hd : '-' ∉ d) (he : '-' ∉ e)
    (h : a ++ '-' :: d = b ++ '-' :: e) : d = e := by
  have key : ∀ {a d : List Char}, '-' ∉ d →
      (a ++ '-' :: d).reverse.takeWhile (· != '-') = d.reverse := fun {a d} hd => by
    rw [List.reverse_append, List.reverse_cons, List.append_assoc, List.singleton_append,
      List.takeWhile_append_of_pos]
    · simp
    · intro c hc
      simp only [bne_iff_ne, ne_eq]
      rintro rfl
      exact hd (List.mem_reverse.1 hc)
  exact List.reverse_injective ((key hd).symm.trans (h ▸ key he))

theorem not_mem_toDigits_dash (n : Nat) : '-' ∉ Nat.toDigits 10 n := fun h => by
  obtain ⟨k, hk, e⟩ := mem_toDigits (by decide) h
  have : ∀ k : Fin 10, Nat.digitChar k ≠ '-' := by decide
  exact this ⟨k, hk⟩ e.symm

/-- **Two paths of one process differ when their counts differ**, whatever the clock read
    for each. -/
theorem socketPath_inj {windows : Bool} {tmp : String} {pid ns ns' c c' : Nat}
    (h : socketPath windows tmp pid ns c = socketPath windows tmp pid ns' c') : c = c' := by
  have field : ∀ {a b : List Char}, a ++ '-' :: (Nat.toDigits 10 c ++ ".sock".data) =
      b ++ '-' :: (Nat.toDigits 10 c' ++ ".sock".data) → c = c' := fun h =>
    toDigits_inj (by decide) (by decide) (last_field_eq (not_mem_toDigits_dash c)
      (not_mem_toDigits_dash c') (List.append_cancel_right (by simpa only [List.append_assoc,
        List.cons_append] using h)))
  unfold socketPath at h
  cases windows <;>
    simp only [Bool.false_eq_true, if_false, if_true] at h <;>
    have h := congrArg String.data (joinPath_inj h) <;>
    simp only [String.data_append, List.append_assoc, List.cons_append, List.nil_append] at h
  · exact field (a := "cc-helper-".data ++ (toString pid).data ++ '-' :: (toString ns).data)
      (b := "cc-helper-".data ++ (toString pid).data ++ '-' :: (toString ns').data)
      (by simpa only [List.append_assoc, List.cons_append] using h)
  · exact field (a := "h-".data ++ (toString pid).data) (b := "h-".data ++ (toString pid).data)
      (by simpa only [List.append_assoc, List.cons_append] using h)

/-- The field before the first `-` of a text determines it. -/
theorem first_field_eq {a b d e : List Char} (hd : '-' ∉ d) (he : '-' ∉ e)
    (h : d ++ '-' :: a = e ++ '-' :: b) : d = e := by
  have key : ∀ {a d : List Char}, '-' ∉ d → (d ++ '-' :: a).takeWhile (· != '-') = d :=
    fun {a d} hd => by
      rw [List.takeWhile_append_of_pos]
      · simp
      · intro c hc
        simp only [bne_iff_ne, ne_eq]
        rintro rfl
        exact hd hc
  exact (key hd).symm.trans (h ▸ key he)

/-- **Paths of different processes differ**: a path names the process that made it. -/
theorem socketPath_pid_inj {windows : Bool} {tmp : String} {pid pid' ns ns' c c' : Nat}
    (h : socketPath windows tmp pid ns c = socketPath windows tmp pid' ns' c') : pid = pid' := by
  have field : ∀ {a b : List Char}, Nat.toDigits 10 pid ++ '-' :: a =
      Nat.toDigits 10 pid' ++ '-' :: b → pid = pid' := fun h =>
    toDigits_inj (by decide) (by decide)
      (first_field_eq (not_mem_toDigits_dash pid) (not_mem_toDigits_dash pid') h)
  unfold socketPath at h
  cases windows <;>
    simp only [Bool.false_eq_true, if_false, if_true] at h <;>
    have h := congrArg String.data (joinPath_inj h) <;>
    simp only [String.data_append, List.append_assoc, List.cons_append, List.nil_append] at h
  all_goals exact field (List.append_cancel_left h)

theorem joinPath_ne_empty {windows : Bool} {a b : String} (hb : b ≠ "") : joinPath windows a b ≠ "" := by
  have hb' : b.data ≠ [] := fun h => hb (String.ext h)
  unfold joinPath
  split_ifs <;> simp [String.ext_iff, hb']

/-- A path is never empty, so `close()` removes the endpoint of every helper it reaps. -/
theorem socketPath_ne_empty (windows : Bool) (tmp : String) (pid ns count : Nat) :
    socketPath windows tmp pid ns count ≠ "" := by
  unfold socketPath
  split_ifs <;> exact joinPath_ne_empty fun h => nomatch congrArg String.data h

/-! ## 2. The threads -/

/-- Where a thread is in `_next_socket_path`. -/
inductive PathPc
  /-- outside it -/
  | idle
  /-- holding the lock, `_socket_counter += 1` about to read the global -/
  | load
  /-- ... about to write `v + 1` back -/
  | store (v : Nat)
  /-- `count = _socket_counter` -/
  | read
  /-- leaving the `with` block with `count` -/
  | release (count : Nat)
  deriving DecidableEq, Repr

/-- The module's globals and the threads. -/
structure PathSys where
  /-- where each thread is -/
  pc : Tid → PathPc
  /-- the thread holding `_socket_counter_lock` -/
  holder : Option Tid
  /-- `_socket_counter` -/
  counter : Nat
  /-- each count a call left the lock with, and the path it returned, in order -/
  returned : List (Nat × String)

namespace PathSys

/-- The module just imported: `_socket_counter = 0`, nobody in the function. -/
def init : PathSys := ⟨fun _ => .idle, none, 0, []⟩

/-- Thread `t` moves to `p`. -/
def setPc (s : PathSys) (t : Tid) (p : PathPc) : PathSys := { s with pc := Function.update s.pc t p }

@[simp] theorem setPc_pc (s : PathSys) (t : Tid) (p : PathPc) :
    (s.setPc t p).pc = Function.update s.pc t p := rfl
@[simp] theorem setPc_holder (s : PathSys) (t : Tid) (p : PathPc) : (s.setPc t p).holder = s.holder :=
  rfl
@[simp] theorem setPc_counter (s : PathSys) (t : Tid) (p : PathPc) :
    (s.setPc t p).counter = s.counter := rfl
@[simp] theorem setPc_returned (s : PathSys) (t : Tid) (p : PathPc) :
    (s.setPc t p).returned = s.returned := rfl

end PathSys

section Step

variable (windows : Bool) (tmp : String) (pid : Nat)

/-- One step of one thread of the process `pid`. -/
inductive PathStep : PathSys → PathSys → Prop
  /-- `with _socket_counter_lock:` when the lock is free -/
  | acquire {s t} : s.pc t = .idle → s.holder = none →
      PathStep s { s.setPc t .load with holder := some t }
  | load {s t} : s.pc t = .load → PathStep s (s.setPc t (.store s.counter))
  | store {s t v} : s.pc t = .store v → PathStep s { s.setPc t .read with counter := v + 1 }
  | read {s t} : s.pc t = .read → PathStep s (s.setPc t (.release s.counter))
  /-- the lock released, and the path made with the clock reading `ns` -/
  | release {s t c} (ns : Nat) : s.pc t = .release c →
      PathStep s { s.setPc t .idle with
        holder := none, returned := s.returned ++ [(c, socketPath windows tmp pid ns c)] }

/-- The states some interleaving reaches. -/
def PathReachable (s : PathSys) : Prop :=
  Relation.ReflTransGen (PathStep windows tmp pid) PathSys.init s

/-! ## 3. The invariant -/

/-- What the lock's holder knows at each point of the block: a thread at `idle` is not
    inside it. -/
def HolderAt (s : PathSys) : PathPc → Prop
  | .idle => False
  | .load => True
  | .store v => v = s.counter
  | .read => ∀ p ∈ s.returned, p.1 < s.counter
  | .release c => c = s.counter ∧ ∀ p ∈ s.returned, p.1 < s.counter

/-- What every reachable state satisfies. -/
structure PathInv (s : PathSys) : Prop where
  /-- a thread not holding the lock is outside the block -/
  idle : ∀ t, s.holder ≠ some t → s.pc t = .idle
  /-- the holder is where `HolderAt` says -/
  holder : ∀ t, s.holder = some t → HolderAt s (s.pc t)
  /-- every count returned is at most the counter -/
  below : ∀ p ∈ s.returned, p.1 ≤ s.counter
  /-- no count was returned twice -/
  distinct : (s.returned.map Prod.fst).Nodup
  /-- each path is the one made from its count -/
  path : ∀ p ∈ s.returned, ∃ ns, p.2 = socketPath windows tmp pid ns p.1

theorem PathInv.init : PathInv windows tmp pid PathSys.init :=
  ⟨fun _ _ => rfl, fun _ => nofun, fun _ => nofun, List.nodup_nil, fun _ => nofun⟩

variable {windows tmp pid}

/-- A thread inside the block holds the lock. -/
theorem PathInv.holds {s : PathSys} (hi : PathInv windows tmp pid s) {t : Tid}
    (h : s.pc t ≠ .idle) : s.holder = some t :=
  by_contra fun hne => h (hi.idle t hne)

/-- A step of the holder `t` that keeps the lock, the counter's lower bound and the returned
    paths, moving `t` to a point `p` of the block that `HolderAt` allows afterwards. -/
theorem PathInv.holderStep {s s' : PathSys} (hi : PathInv windows tmp pid s) {t : Tid}
    (ht : s.holder = some t) {p : PathPc} (hpc : s'.pc = Function.update s.pc t p)
    (hh : s'.holder = s.holder) (hr : s'.returned = s.returned) (hc : s.counter ≤ s'.counter)
    (hp : HolderAt s' p) : PathInv windows tmp pid s' := by
  refine ⟨fun u hu => ?_, fun u hu => ?_, fun q hq => ?_, hr ▸ hi.distinct, hr ▸ hi.path⟩
  · have hut : u ≠ t := fun e => hu (e ▸ hh.trans ht)
    rw [hpc, Function.update_noteq hut]
    exact hi.idle u (hh ▸ hu)
  · obtain rfl : u = t := Option.some.inj ((hh.symm.trans hu).symm.trans ht)
    rwa [hpc, Function.update_same]
  · exact (hi.below q (hr ▸ hq)).trans hc

theorem PathInv.step {s s' : PathSys} (hi : PathInv windows tmp pid s)
    (h : PathStep windows tmp pid s s') : PathInv windows tmp pid s' := by
  cases h with
  | @acquire t hpc hfree =>
    refine ⟨fun u hu => ?_, fun u hu => ?_, hi.below, hi.distinct, hi.path⟩
    · have hut : u ≠ t := fun e => hu (e ▸ rfl)
      simp only [PathSys.setPc_pc, Function.update_noteq hut]
      exact hi.idle u (by simp [hfree])
    · obtain rfl : u = t := (Option.some.inj hu).symm
      simp [HolderAt]
  | @load t hpc =>
    have ht := hi.holds (t := t) (by simp [hpc])
    exact hi.holderStep ht rfl rfl rfl le_rfl rfl
  | @store t v hpc =>
    have ht := hi.holds (t := t) (by simp [hpc])
    have hv : v = s.counter := by simpa [hpc, HolderAt] using hi.holder t ht
    exact hi.holderStep ht rfl rfl rfl (show s.counter ≤ v + 1 by omega) fun q hq => by
      have := hi.below q hq
      simp only [PathSys.setPc_counter]
      omega
  | @read t hpc =>
    have ht := hi.holds (t := t) (by simp [hpc])
    have hlt : ∀ q ∈ s.returned, q.1 < s.counter := by simpa [hpc, HolderAt] using hi.holder t ht
    exact hi.holderStep ht rfl rfl rfl le_rfl ⟨rfl, hlt⟩
  | @release t c ns hpc =>
    have ht := hi.holds (t := t) (by simp [hpc])
    obtain ⟨rfl, hlt⟩ : c = s.counter ∧ ∀ q ∈ s.returned, q.1 < s.counter := by
      simpa [hpc, HolderAt] using hi.holder t ht
    refine ⟨fun u _ => ?_, fun u hu => (nomatch hu), fun q hq => ?_, ?_, fun q hq => ?_⟩
    · by_cases e : u = t
      · subst e; simp
      · simpa [Function.update_noteq e] using hi.idle u (by rw [ht]; simpa [eq_comm] using e)
    · rcases List.mem_append.1 hq with hq | hq
      · exact hi.below q hq
      · rw [List.mem_singleton.1 hq]
        exact le_rfl
    · simp only [List.map_append, List.map_cons, List.map_nil]
      exact hi.distinct.append (List.nodup_singleton _) fun x hx hx' => by
        obtain ⟨q, hq, rfl⟩ := List.mem_map.1 hx
        exact absurd (List.mem_singleton.1 hx') (hlt q hq).ne
    · rcases List.mem_append.1 hq with hq | hq
      · exact hi.path q hq
      · exact ⟨ns, by rw [List.mem_singleton.1 hq]⟩

theorem PathInv.reachable {s : PathSys} (hs : PathReachable windows tmp pid s) :
    PathInv windows tmp pid s := by
  induction hs with
  | refl => exact .init windows tmp pid
  | tail _ hst ih => exact ih.step hst

/-- The paths one process returns are pairwise different. -/
theorem returned_paths_nodup {s : PathSys} (hs : PathReachable windows tmp pid s) :
    (s.returned.map Prod.snd).Nodup := by
  have hi := PathInv.reachable hs
  refine (hi.distinct.of_map _).map_on fun p hp q hq e => ?_
  obtain ⟨ns, hp'⟩ := hi.path p hp
  obtain ⟨ns', hq'⟩ := hi.path q hq
  have hc : p.1 = q.1 := socketPath_inj (hp'.symm.trans (e.trans hq'))
  exact Prod.ext hc e

/-- **`_next_socket_path` never returns a path twice.** In every interleaving of any number
    of threads of any number of processes, with different pids and one temporary directory,
    each thread calling it any number of times, the paths returned so far are pairwise
    different, whatever the clock read in each call.  The processes share no variable, so
    an interleaving of them is a run of each. -/
theorem socket_paths_unique {procs : List (Nat × PathSys)} (hpid : (procs.map Prod.fst).Nodup)
    (hs : ∀ p ∈ procs, PathReachable windows tmp p.1 p.2) :
    (procs.flatMap fun p => p.2.returned.map Prod.snd).Nodup := by
  refine List.nodup_flatMap.2 ⟨fun p hp => returned_paths_nodup (hs p hp), ?_⟩
  refine (List.pairwise_map.1 hpid).imp_of_mem fun {p q} hp hq hne x hxp hxq => hne ?_
  obtain ⟨⟨c, _⟩, hc, rfl⟩ := List.mem_map.1 hxp
  obtain ⟨⟨c', _⟩, hc', he⟩ := List.mem_map.1 hxq
  obtain ⟨ns, hx⟩ := (PathInv.reachable (hs p hp)).path _ hc
  obtain ⟨ns', hx'⟩ := (PathInv.reachable (hs q hq)).path _ hc'
  exact socketPath_pid_inj (hx.symm.trans (he.symm.trans hx'))

/-- A call that runs alone, the lock free and its thread outside the function, adds one to
    the counter and returns the path of the new count. -/
theorem PathReachable.call {s : PathSys} (hs : PathReachable windows tmp pid s) {t : Tid}
    (hidle : s.pc t = .idle) (hfree : s.holder = none) (ns : Nat) :
    PathReachable windows tmp pid ⟨s.pc, none, s.counter + 1,
      s.returned ++ [(s.counter + 1, socketPath windows tmp pid ns (s.counter + 1))]⟩ := by
  have h := ((((hs.tail (.acquire hidle hfree)).tail (.load (t := t) (by simp))).tail
    (.store (t := t) (v := s.counter) (by simp))).tail (.read (t := t) (by simp))).tail
    (.release (t := t) (c := s.counter + 1) ns (by simp))
  convert h using 2
  funext u
  by_cases hu : u = t
  · subst hu
    simp [hidle]
  · simp [Function.update_noteq hu]

/-- Process `7` calls twice, the clock reading `10` and `11`, and process `8` once, the clock
    reading `10`: the three paths differ. -/
theorem socket_paths_unique_two_processes :
    let s₇ : PathSys := ⟨fun _ => .idle, none, 2,
      [(1, socketPath false "/tmp" 7 10 1), (2, socketPath false "/tmp" 7 11 2)]⟩
    let s₈ : PathSys := ⟨fun _ => .idle, none, 1, [(1, socketPath false "/tmp" 8 10 1)]⟩
    ([(7, s₇), (8, s₈)].map Prod.fst).Nodup ∧
      (∀ p ∈ [(7, s₇), (8, s₈)], PathReachable false "/tmp" p.1 p.2) ∧
      ([(7, s₇), (8, s₈)].flatMap fun p => p.2.returned.map Prod.snd).Nodup := by
  intro s₇ s₈
  have h₇ : PathReachable false "/tmp" 7 s₇ :=
    (PathReachable.call (s := .init) .refl (t := 0) rfl rfl 10).call (t := 0) rfl rfl 11
  have h₈ : PathReachable false "/tmp" 8 s₈ := PathReachable.call (s := .init) .refl (t := 0) rfl rfl 10
  have hpid : ([(7, s₇), (8, s₈)].map Prod.fst).Nodup := by decide
  have hs : ∀ p ∈ [(7, s₇), (8, s₈)], PathReachable false "/tmp" p.1 p.2 := by
    simp only [List.mem_cons, List.mem_singleton, List.not_mem_nil, or_false]
    rintro p (rfl | rfl)
    exacts [h₇, h₈]
  exact ⟨hpid, hs, socket_paths_unique hpid hs⟩

end Step

end CrumbleCracker
