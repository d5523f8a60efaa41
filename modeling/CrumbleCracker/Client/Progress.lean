import CrumbleCracker.Client.Isolation

/-!
# No call gets stuck, and every call returns (`IPCClient.call`)

`Client/Isolation` shows what concurrent calls return; this module shows that they return.
The helper of `Client/Threads` answers every complete request frame, so a call can only
wait for bytes that are on their way.

* In every reachable state in which a thread is inside `with self._lock` or waiting to
  enter it, some step can be taken: by the lock's holder, or by the helper.
* No run keeps one thread inside `with self._lock` forever: each step of the holder or of
  the helper brings its call closer to its end, first until the helper has read the request
  and then until the holder has read the response.

Both use one more invariant of every run: `_recv_exact(n)` never holds more than `n` bytes
(`ReadsBounded`).

## Results

* `calls_never_stuck`: in every reachable state in which some thread is in `call`, a step can
  be taken.
* `holder_steps_wellFounded`: the steps taken while one thread holds the lock form no infinite
  run.
* `call_finishes`: from every reachable state, a call that holds the lock can be run to its
  return.
-/

namespace CrumbleCracker

/-! ## 1. What `_recv_exact` holds -/

/-- `_recv_exact(n)` holds at most `n` bytes. -/
def Pc.Bounded : Pc → Prop
  | .recvHeader data => data.length ≤ HEADER_SIZE
  | .recvPayload _ n data => data.length ≤ n
  | _ => True

/-- Every thread's reads are within what it asked for. -/
def ReadsBounded (s : Sys) : Prop := ∀ c, (s.pc c).Bounded

theorem ReadsBounded.update {s s' : Sys} (h : ReadsBounded s) {c : Tid} {p : Pc}
    (he : s'.pc = Function.update s.pc c p) (hp : p.Bounded) : ReadsBounded s' := by
  intro c'
  rw [he]
  by_cases e : c' = c
  · subst e
    rwa [Function.update_same]
  · rw [Function.update_noteq e]
    exact h c'

namespace Sys

theorem acquire_pc (s : Sys) (c : Tid) (t : Int) (p : Bytes) :
    ∃ q : Pc, (s.acquire c t p).pc = Function.update s.pc c q ∧ q.Bounded := by
  unfold acquire
  split
  · exact ⟨_, rfl, trivial⟩
  · split <;> exact ⟨_, rfl, trivial⟩

/-- After `decode_header` a call reads its payload, or ends. -/
theorem afterHeader_cases (s : Sys) (c : Tid) (d : Bytes) :
    (∃ t n, s.afterHeader c d = s.setPc c (.recvPayload t n [])) ∨
      ∃ r, s.afterHeader c d = s.complete c r := by
  unfold afterHeader
  split
  · split
    · exact .inl ⟨_, _, rfl⟩
    · exact .inr ⟨_, rfl⟩
  · exact .inr ⟨_, rfl⟩

end Sys

section Bounds

variable {req : Tid → Int × Bytes} {answer : Nat → Frame → Frame}

theorem ReadsBounded.step {s s' : Sys} (hb : ReadsBounded s) (h : Step req answer s s') :
    ReadsBounded s' := by
  cases h with
  | @acquire c =>
    obtain ⟨q, he, hq⟩ := s.acquire_pc c (req c).1 (req c).2
    exact hb.update he hq
  | send => exact hb.update rfl trivial
  | sent => exact hb.update rfl (Nat.zero_le _)
  | @recvHeader c data chunk _ _ _ hne hle =>
    have := List.length_pos.2 hne
    exact hb.update rfl (show (data ++ chunk).length ≤ HEADER_SIZE by simp only [List.length_append]; omega)
  | @recvPayload c _ n data chunk _ _ _ hne hle =>
    have := List.length_pos.2 hne
    exact hb.update rfl (show (data ++ chunk).length ≤ n by simp only [List.length_append]; omega)
  | @header c data =>
    rcases s.afterHeader_cases c data with ⟨t, n, he⟩ | ⟨r, he⟩ <;> rw [he]
    · exact hb.update rfl (Nat.zero_le _)
    · exact hb.update rfl trivial
  | finish => exact hb.update rfl trivial
  | serve => exact hb

theorem ReadsBounded.reachable {s : Sys} (hs : Reachable req answer s) : ReadsBounded s := by
  induction hs with
  | refl => exact fun _ => trivial
  | tail _ h ih => exact ih.step h

end Bounds

/-! ## 2. A step can always be taken -/

section Progress

variable {req : Tid → Int × Bytes} {answer : Nat → Frame → Frame} {s : Sys} {c : Tid}

/-- `_recv_exact` takes a nonempty part of what it still asks for from bytes that arrived. -/
theorem exists_chunk (toClient : Bytes) {k : Nat} (hk : 0 < k) (ht : toClient ≠ []) :
    ∃ chunk rest, toClient = chunk ++ rest ∧ chunk ≠ [] ∧ chunk.length ≤ k :=
  ⟨toClient.take k, toClient.drop k, (List.take_append_drop k toClient).symm,
    by simpa [List.take_eq_nil_iff, ht] using hk.ne', List.length_take_le k toClient⟩

/-- The thread holding the lock, or the helper, can always take a step. -/
theorem Inv.step_of_busy (hi : Inv req answer s) (hb : ReadsBounded s) (hc : (s.pc c).Busy) :
    ∃ s', Step req answer s s' := by
  have hh := hi.holder_of_busy hc
  obtain ⟨F, -, ⟨-, hu, -, hw⟩ | ⟨pre, -, -, -, hu, hR⟩⟩ := (streams_some_iff hh).1 hi.streams
  · -- the helper has not answered: the holder sends, or the helper reads the request
    cases hp : s.pc c with
    | sending rem =>
      by_cases hr : rem = []
      · exact ⟨_, .sent (hr ▸ hp)⟩
      · exact ⟨_, @Step.send req answer s c rem [] (by rw [hp, List.append_nil]) hr⟩
    | recvHeader data =>
      rw [hp] at hu
      exact ⟨_, @Step.serve req answer s [] F (by simpa [Pc.unsent] using hu)⟩
    | _ => rw [hp] at hw; exact hw.elim
  · -- the helper has answered with `G`: the holder reads it
    cases hp : s.pc c with
    | sending rem =>
      have hr : rem = [] := by rwa [hp] at hu
      exact ⟨_, .sent (hr ▸ hp)⟩
    | recvHeader data =>
      rw [hp] at hR
      by_cases hl : data.length = HEADER_SIZE
      · exact ⟨_, .header hp hl⟩
      · have hle : data.length ≤ HEADER_SIZE := by simpa [hp, Pc.Bounded] using hb c
        have hG := congrArg List.length hR
        simp only [List.length_append, Frame.bytes, Frame.length_header] at hG
        obtain ⟨chunk, rest, he, hne, hk⟩ := exists_chunk s.toClient
          (k := HEADER_SIZE - data.length) (by omega) (fun h => by simp [h] at hG; omega)
        exact ⟨_, .recvHeader hp he hne hk⟩
    | recvPayload t n data =>
      rw [hp] at hR
      obtain ⟨-, rfl, hR⟩ := hR
      by_cases hl : data.length = (answer s.finished.length F).payload.length
      · exact ⟨_, .finish hp hl⟩
      · have hle : data.length ≤ (answer s.finished.length F).payload.length := by
          simpa [hp, Pc.Bounded] using hb c
        have hG := congrArg List.length hR
        simp only [List.length_append] at hG
        exact ⟨_, @Step.recvPayload req answer s c _ _ data _ [] hp (List.append_nil _).symm
          (fun h => by simp [h] at hG; omega) (by omega)⟩
    | _ => rw [hp] at hc; exact hc.elim

end Progress

section Run

variable (req : Tid → Int × Bytes) (answer : Nat → Frame → Frame)

/-- **No call gets stuck.**  In every reachable state in which some thread is inside
    `with self._lock` or waiting to enter it, a step can be taken: the waiting thread takes
    the free lock, or the holder sends, reads or returns, or the helper reads a request. -/
theorem calls_never_stuck {s : Sys} (hs : Reachable req answer s)
    (h : ∃ c, s.pc c = .start ∨ (s.pc c).Busy) : ∃ s', Step req answer s s' := by
  have hi := Inv.reachable req answer hs
  cases hh : s.holder with
  | none =>
    obtain ⟨c, hc | hc⟩ := h
    · exact ⟨_, .acquire hc hh⟩
    · exact absurd (hi.holder_of_busy hc) (by rw [hh]; exact Option.noConfusion)
  | some c => exact hi.step_of_busy (ReadsBounded.reachable hs) ((hi.threads.lock c).1 hh)

/-- After thread `0`'s call returned, thread `1`, inside the lock with its request unsent,
    is not stuck. -/
theorem calls_never_stuck_inside_call : ∃ s, Reachable tagged echo s ∧ s.holder = some 1 ∧
    s.pc 1 = .sending (taggedFrame 1).bytes ∧ ∃ s', Step tagged echo s s' :=
  let ⟨s, hs, _, _, hh, h1⟩ := run_after_call
  ⟨s, hs, hh, h1, calls_never_stuck _ _ hs ⟨1, .inr (by rw [h1]; trivial)⟩⟩

end Run

/-! ## 3. Every call returns -/

/-- The moves a thread has left inside `call` once the bytes it waits for have arrived; the
    send loop makes one per byte left to send, at most. -/
def Pc.moves : Pc → Nat
  | .sending rem => rem.length + 3
  | .recvHeader _ => 2
  | .recvPayload .. => 1
  | _ => 0

/-- How far the call of thread `c` is from its end: whether the helper still has to read its
    request, then the bytes the client still has to read and the moves left. -/
def Sys.remaining (s : Sys) (c : Tid) : Nat × Nat :=
  (s.finished.length + 1 - s.served.length, s.toClient.length + (s.pc c).moves)

section Returns

variable {req : Tid → Int × Bytes} {answer : Nat → Frame → Frame} {s s' : Sys} {c : Tid}

theorem remaining_lt_of_moves (hs : s'.served = s.served) (hf : s'.finished = s.finished)
    (hm : s'.toClient.length + (s'.pc c).moves < s.toClient.length + (s.pc c).moves) :
    Prod.Lex (· < ·) (· < ·) (s'.remaining c) (s.remaining c) := by
  unfold Sys.remaining
  rw [hs, hf]
  exact .right _ hm

/-- Only the lock's holder moves inside `call`. -/
theorem Inv.eq_of_busy {c' : Tid} {p : Pc} (hi : Inv req answer s) (hh : s.holder = some c)
    (hc : s.pc c' = p) (hp : p.Busy) : c' = c :=
  Option.some.inj ((hi.holder_of_busy (by rw [hc]; exact hp)).symm.trans hh)

/-- Each step taken while `c` keeps the lock brings its call closer to its end. -/
theorem Inv.remaining_lt (hi : Inv req answer s) (hh : s.holder = some c)
    (h : Step req answer s s') (hh' : s'.holder = some c) :
    Prod.Lex (· < ·) (· < ·) (s'.remaining c) (s.remaining c) := by
  cases h with
  | acquire _ hn => rw [hh] at hn; cases hn
  | @send c' chunk rem hc hne =>
    obtain rfl := hi.eq_of_busy hh hc trivial
    have := List.length_pos.2 hne
    exact remaining_lt_of_moves rfl rfl (by simp [hc, Pc.moves]; omega)
  | sent hc =>
    obtain rfl := hi.eq_of_busy hh hc trivial
    exact remaining_lt_of_moves rfl rfl (by simp [hc, Pc.moves])
  | @recvHeader c' data chunk rest hc ht hne _ =>
    obtain rfl := hi.eq_of_busy hh hc trivial
    have := List.length_pos.2 hne
    exact remaining_lt_of_moves rfl rfl (by simp [hc, ht, Pc.moves]; omega)
  | @recvPayload c' t n data chunk rest hc ht hne _ =>
    obtain rfl := hi.eq_of_busy hh hc trivial
    have := List.length_pos.2 hne
    exact remaining_lt_of_moves rfl rfl (by simp [hc, ht, Pc.moves]; omega)
  | @header c' data hc _ =>
    obtain rfl := hi.eq_of_busy hh hc trivial
    rcases s.afterHeader_cases c' data with ⟨t, n, he⟩ | ⟨r, he⟩ <;> rw [he] at hh' ⊢
    · exact remaining_lt_of_moves rfl rfl (by simp [hc, Pc.moves])
    · cases hh'
  | finish => cases hh'
  | @serve rest F hs =>
    -- the helper reads the request, which it had not answered
    obtain ⟨G, -, ⟨hsf, -⟩ | ⟨-, -, -, ht, -⟩⟩ := (streams_some_iff hh).1 hi.streams
    · exact .left _ _ (by simp only [Sys.remaining, Sys.serve, List.length_append,
        List.length_singleton]; omega)
    · exact absurd (hs.symm.trans ht) (by simp [F.bytes_ne_nil])

/-- **No run keeps a thread in `call` forever.**  The steps taken while thread `c` holds
    the lock, by `c` or by the helper, form no infinite run from a reachable state. -/
theorem holder_steps_wellFounded (c : Tid) :
    WellFounded fun s' s => Reachable req answer s ∧ s.holder = some c ∧
      s'.holder = some c ∧ Step req answer s s' := by
  refine Subrelation.wf ?_
    (InvImage.wf (fun s : Sys => s.remaining c) (wellFounded_lt.prod_lex wellFounded_lt))
  rintro _ _ ⟨hs, hh, hh', h⟩
  exact (Inv.reachable req answer hs).remaining_lt hh h hh'

/-- The step that releases the lock is its holder's last move in `call`. -/
theorem Inv.done_of_release (hi : Inv req answer s) (hh : s.holder = some c)
    (h : Step req answer s s') (hh' : s'.holder ≠ some c) : ∃ r, s'.pc c = .done r := by
  cases h with
  | acquire _ hn => rw [hh] at hn; cases hn
  | @header c' data hc _ =>
    obtain rfl := hi.eq_of_busy hh hc trivial
    rcases s.afterHeader_cases c' data with ⟨t, n, he⟩ | ⟨r, he⟩ <;> rw [he] at hh' ⊢
    · exact absurd hh hh'
    · exact ⟨r, Function.update_same _ _ _⟩
  | @finish c' t n data hc _ =>
    obtain rfl := hi.eq_of_busy hh hc trivial
    exact ⟨_, Function.update_same _ _ _⟩
  | _ => exact absurd hh hh'

/-- **Every call returns.**  From every reachable state in which thread `c` holds the lock, the
    threads and the helper can run on until `call` has returned in `c`. -/
theorem call_finishes {s : Sys} (hs : Reachable req answer s) (hh : s.holder = some c) :
    ∃ s' r, Relation.ReflTransGen (Step req answer) s s' ∧ s'.pc c = .done r := by
  induction (InvImage.wf (fun s : Sys => s.remaining c)
    (wellFounded_lt.prod_lex wellFounded_lt)).apply s with
  | intro s _ ih =>
    have hi := Inv.reachable req answer hs
    obtain ⟨s₁, h₁⟩ := hi.step_of_busy (ReadsBounded.reachable hs) ((hi.threads.lock c).1 hh)
    by_cases hh₁ : s₁.holder = some c
    · obtain ⟨s', r, hrun, hd⟩ := ih _ (hi.remaining_lt hh h₁ hh₁) (hs.tail h₁) hh₁
      exact ⟨s', r, .head h₁ hrun, hd⟩
    · obtain ⟨r, hd⟩ := hi.done_of_release hh h₁ hh₁
      exact ⟨s₁, r, .single h₁, hd⟩

/-- Thread `0`'s first call, once it holds the lock, returns. -/
theorem call_finishes_first :
    let s := Sys.init.acquire 0 1 []
    Reachable (fun _ => (1, [])) (fun _ F => F) s ∧ s.holder = some 0 ∧
      ∃ s' r, Relation.ReflTransGen (Step (fun _ => (1, [])) (fun _ F => F)) s s' ∧
        s'.pc 0 = .done r :=
  ⟨.single (.acquire rfl rfl), rfl, call_finishes (.single (.acquire rfl rfl)) rfl⟩

end Returns

end CrumbleCracker
