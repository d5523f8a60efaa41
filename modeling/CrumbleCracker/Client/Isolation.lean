import CrumbleCracker.Client.Threads
import Mathlib.Data.List.Forall2
import Mathlib.Data.List.Nodup

/-!
# Concurrent calls never see each other's responses

The invariant `Inv` of every reachable state has two parts.

* `ThreadsInv`: `_lock` is held exactly by the thread inside `with self._lock`; the
  threads that returned after sending a request are distinct, their requests are the
  first frames the helper answered, in the same order, and each returned the outcome of
  the answer to its own request; every other thread that returned failed to build its
  header.
* `Streams`: the bytes in flight.  With the lock free both streams are empty.  With the
  lock held by `c`, either the helper has not answered `c` yet (what it has not read, then
  what `c` has still to send, is `c`'s request frame, and nothing is on its way back), or
  it has (it read `c`'s request, and what `c` has read, then what is on its way, is the
  answer).

`Inv.step` shows one step keeps `Inv`, by one case per constructor of `Step`, and
`calls_isolated` states the two guarantees for every reachable state.
-/

namespace CrumbleCracker

/-! ## 1. Shapes of the holder's program counter -/

namespace Pc

/-- The bytes of the request still to send. -/
def unsent : Pc → Bytes
  | .sending rem => rem
  | _ => []

/-- Before the helper answered: nothing read yet. -/
def Waiting : Pc → Prop
  | .sending _ => True
  | .recvHeader data => data = []
  | _ => False

/-- After the helper answered with `G`: what the thread has read, then `toClient`, is `G`. -/
def Reading (G : Frame) (toClient : Bytes) : Pc → Prop
  | .sending _ => toClient = G.bytes
  | .recvHeader data => data ++ toClient = G.bytes
  | .recvPayload t n data => t = G.type ∧ n = G.payload.length ∧ data ++ toClient = G.payload
  | _ => False

end Pc

section Invariant

variable (req : Tid → Int × Bytes) (answer : Nat → Frame → Frame)

/-- The outcome of `call` when the helper answers its request `F` as its `i`-th. -/
def respond (i : Nat) (F : Frame) : Except PyExc Bytes :=
  finishCall (answer i F).type (answer i F).payload

/-- Thread `c`'s request frame is `F`. -/
def Requests (c : Tid) (F : Frame) : Prop := Frame.make (req c).1 (req c).2 = .ok F

/-- The thread part of the invariant. -/
structure ThreadsInv (pc : Tid → Pc) (holder : Option Tid) (closed : Bool) (finished : List Tid)
    (served : List Frame) : Prop where
  isOpen : closed = false
  lock : ∀ c, holder = some c ↔ (pc c).Busy
  nodup : finished.Nodup
  fresh : ∀ c, holder = some c → c ∉ finished
  requests : List.Forall₂ (Requests req) finished (served.take finished.length)
  answered : ∀ i (hi : i < finished.length), ∃ F, served[i]? = some F ∧
    pc finished[i] = .done (respond answer i F)
  failed : ∀ c r, pc c = .done r → c ∉ finished →
    ∃ e, encodeHeader (req c).1 (req c).2.length = .error e ∧ r = .error e

/-- The stream part of the invariant. -/
def Streams (s : Sys) : Prop :=
  match s.holder with
  | none => s.served.length = s.finished.length ∧ s.toHelper = [] ∧ s.toClient = []
  | some c => ∃ F, Requests req c F ∧
    ((s.served.length = s.finished.length ∧ s.toHelper ++ (s.pc c).unsent = F.bytes ∧
        s.toClient = [] ∧ (s.pc c).Waiting) ∨
      (∃ pre, s.served = pre ++ [F] ∧ pre.length = s.finished.length ∧ s.toHelper = [] ∧
        (s.pc c).unsent = [] ∧ (s.pc c).Reading (answer s.finished.length F) s.toClient))

/-- The invariant of every reachable state. -/
structure Inv (s : Sys) : Prop where
  threads : ThreadsInv req answer s.pc s.holder s.closed s.finished s.served
  sent_eq : s.sent = (s.served.map Frame.bytes).flatten ++ s.toHelper
  streams : Streams req answer s

end Invariant

/-! ## 2. The thread part under each kind of step -/

section ThreadsSteps

variable {req : Tid → Int × Bytes} {answer : Nat → Frame → Frame} {pc : Tid → Pc}
  {holder : Option Tid} {closed : Bool} {finished : List Tid} {served : List Frame} {c : Tid}

theorem ThreadsInv.not_mem_of_start (h : ThreadsInv req answer pc holder closed finished served)
    (hc : pc c = .start) : c ∉ finished := by
  intro hm
  obtain ⟨i, hi, rfl⟩ := List.getElem_of_mem hm
  obtain ⟨F, -, hF⟩ := h.answered i hi
  rw [hc] at hF
  cases hF

/-- The holder moves to another state inside the lock. -/
theorem ThreadsInv.busy (h : ThreadsInv req answer pc holder closed finished served)
    (hc : holder = some c) {p : Pc} (hp : p.Busy) :
    ThreadsInv req answer (Function.update pc c p) holder closed finished served where
  isOpen := h.isOpen
  lock c' := by
    by_cases e : c' = c
    · subst e; simp [hc, hp]
    · rw [Function.update_noteq e, h.lock]
  nodup := h.nodup
  fresh := h.fresh
  requests := h.requests
  answered i hi := by
    rw [Function.update_noteq (ne_of_mem_of_not_mem (List.getElem_mem hi) (h.fresh c hc))]
    exact h.answered i hi
  failed c' r hr := by
    by_cases e : c' = c
    · subst e; rw [Function.update_same] at hr; subst hr; cases hp
    · rw [Function.update_noteq e] at hr; exact h.failed c' r hr

/-- A thread takes the free lock and enters it. -/
theorem ThreadsInv.enter (h : ThreadsInv req answer pc none closed finished served)
    (hc : pc c = .start) {p : Pc} (hp : p.Busy) :
    ThreadsInv req answer (Function.update pc c p) (some c) closed finished served where
  isOpen := h.isOpen
  lock c' := by
    by_cases e : c' = c
    · subst e; simp [hp]
    · rw [Function.update_noteq e, ← h.lock]; simp [Ne.symm e]
  nodup := h.nodup
  fresh c' hc' := by cases hc'; exact h.not_mem_of_start hc
  requests := h.requests
  answered i hi := by
    rw [Function.update_noteq (ne_of_mem_of_not_mem (List.getElem_mem hi) (h.not_mem_of_start hc))]
    exact h.answered i hi
  failed c' r hr := by
    by_cases e : c' = c
    · subst e; rw [Function.update_same] at hr; subst hr; cases hp
    · rw [Function.update_noteq e] at hr; exact h.failed c' r hr

/-- A thread takes the free lock and raises before sending: `encode_header` failed. -/
theorem ThreadsInv.reject (h : ThreadsInv req answer pc none closed finished served)
    (hc : pc c = .start) {e : PyExc} (he : encodeHeader (req c).1 (req c).2.length = .error e) :
    ThreadsInv req answer (Function.update pc c (.done (.error e))) none closed finished served where
  isOpen := h.isOpen
  lock c' := by
    by_cases e : c' = c
    · subst e; simp [Pc.Busy]
    · rw [Function.update_noteq e, ← h.lock]
  nodup := h.nodup
  fresh _ h' := by cases h'
  requests := h.requests
  answered i hi := by
    rw [Function.update_noteq (ne_of_mem_of_not_mem (List.getElem_mem hi) (h.not_mem_of_start hc))]
    exact h.answered i hi
  failed c' r hr hn := by
    by_cases e' : c' = c
    · subst e'; rw [Function.update_same] at hr; cases hr; exact ⟨e, he, rfl⟩
    · rw [Function.update_noteq e'] at hr; exact h.failed c' r hr hn

/-- The holder returns the outcome of the answer `G` to its request `F`, the helper's
    answer to the request after those of the threads that returned before. -/
theorem ThreadsInv.complete (h : ThreadsInv req answer pc (some c) closed finished served)
    {F : Frame} (hF : Requests req c F) {pre : List Frame} (hs : served = pre ++ [F])
    (hpre : pre.length = finished.length) :
    ThreadsInv req answer (Function.update pc c (.done (respond answer finished.length F))) none
      closed (finished ++ [c]) served where
  isOpen := h.isOpen
  lock c' := by
    by_cases e : c' = c
    · subst e; simp [Pc.Busy]
    · rw [Function.update_noteq e, ← h.lock]; simp [Ne.symm e]
  nodup := List.nodup_append.2 ⟨h.nodup, List.nodup_singleton c,
    List.disjoint_singleton.2 (h.fresh c rfl)⟩
  fresh _ h' := by cases h'
  requests := by
    have htake : served.take finished.length = pre := by
      rw [hs, ← hpre, List.take_left' rfl]
    have h1 := h.requests
    rw [htake] at h1
    rw [List.length_append, List.length_singleton, hs, ← hpre,
      List.take_of_length_le (by simp)]
    exact List.rel_append h1 (.cons hF .nil)
  answered i hi := by
    rw [List.length_append, List.length_singleton] at hi
    rcases Nat.lt_succ_iff_lt_or_eq.1 hi with hi | rfl
    · rw [List.getElem_append_left hi, Function.update_noteq (ne_of_mem_of_not_mem (List.getElem_mem hi) (h.fresh c rfl))]
      exact h.answered i hi
    · rw [List.getElem_concat_length _ _ _ rfl, Function.update_same, hs, ← hpre,
        List.getElem?_concat_length]
      exact ⟨F, rfl, rfl⟩
  failed c' r hr hn := by
    have e : c' ≠ c := fun e => hn (by simp [e])
    rw [Function.update_noteq e] at hr
    exact h.failed c' r hr (fun hm => hn (List.mem_append_left _ hm))

/-- The helper answers the holder's request. -/
theorem ThreadsInv.serve (h : ThreadsInv req answer pc holder closed finished served)
    (hlen : served.length = finished.length) (F : Frame) :
    ThreadsInv req answer pc holder closed finished (served ++ [F]) where
  isOpen := h.isOpen
  lock := h.lock
  nodup := h.nodup
  fresh := h.fresh
  requests := by
    have h1 := h.requests
    rw [← hlen, List.take_length] at h1
    rwa [← hlen, List.take_left' rfl]
  answered i hi := by
    obtain ⟨G, hG, hpc⟩ := h.answered i hi
    exact ⟨G, by rw [List.getElem?_append_left (by omega)]; exact hG, hpc⟩
  failed := h.failed

end ThreadsSteps

/-! ## 3. One step keeps the invariant -/

theorem Pc.reading_of_waiting {p : Pc} {G : Frame} (hw : p.Waiting) (hu : p.unsent = []) :
    p.Reading G G.bytes := by
  cases p <;> simp_all [Waiting, Reading, unsent]

section Step

variable {req : Tid → Int × Bytes} {answer : Nat → Frame → Frame} {s : Sys} {c : Tid}

theorem Inv.holder_of_busy (hi : Inv req answer s) (hb : (s.pc c).Busy) : s.holder = some c :=
  (hi.threads.lock c).2 hb

theorem streams_none_iff (hh : s.holder = none) : Streams req answer s ↔
    s.served.length = s.finished.length ∧ s.toHelper = [] ∧ s.toClient = [] := by
  unfold Streams
  rw [hh]

theorem streams_some_iff (hh : s.holder = some c) : Streams req answer s ↔
    ∃ F, Requests req c F ∧
    ((s.served.length = s.finished.length ∧ s.toHelper ++ (s.pc c).unsent = F.bytes ∧
        s.toClient = [] ∧ (s.pc c).Waiting) ∨
      (∃ pre, s.served = pre ++ [F] ∧ pre.length = s.finished.length ∧ s.toHelper = [] ∧
        (s.pc c).unsent = [] ∧ (s.pc c).Reading (answer s.finished.length F) s.toClient)) := by
  unfold Streams
  rw [hh]

/-- A thread takes the lock; it sends its frame, or raises. -/
theorem Inv.acquire (hi : Inv req answer s) (hc : s.pc c = .start) (hn : s.holder = none) :
    Inv req answer (s.acquire c (req c).1 (req c).2) := by
  have ht := hi.threads
  rw [hn] at ht
  obtain ⟨hlen, hth, htc⟩ := (streams_none_iff hn).1 hi.streams
  unfold Sys.acquire
  rw [if_neg (by simp [ht.isOpen])]
  split
  · rename_i header he
    refine ⟨ht.enter hc trivial, hi.sent_eq, (streams_some_iff rfl).2
      ⟨_, Frame.make_eq_ok he, .inl ⟨hlen, ?_, htc, by simp [Pc.Waiting]⟩⟩⟩
    simp [hth, Pc.unsent, Frame.bytes]
  · rename_i e he
    exact ⟨ht.reject hc he, hi.sent_eq, (streams_none_iff rfl).2 ⟨hlen, hth, htc⟩⟩

/-- `sendall` sends a piece of the frame. -/
theorem Inv.send {chunk rem : Bytes} (hi : Inv req answer s) (hc : s.pc c = .sending (chunk ++ rem))
    (hne : chunk ≠ []) : Inv req answer
      { s.setPc c (.sending rem) with toHelper := s.toHelper ++ chunk, sent := s.sent ++ chunk } := by
  have hh := hi.holder_of_busy (by rw [hc]; trivial)
  obtain ⟨F, hF, ⟨hlen, hu, htc, -⟩ | ⟨-, -, -, -, hu, -⟩⟩ := (streams_some_iff hh).1 hi.streams
  · rw [hc] at hu
    refine ⟨hi.threads.busy hh trivial, by simp [hi.sent_eq], (streams_some_iff (by exact hh)).2
      ⟨F, hF, .inl ⟨hlen, ?_, htc, by simp [Pc.Waiting]⟩⟩⟩
    simpa [Pc.unsent] using hu
  · rw [hc] at hu
    exact absurd (List.append_eq_nil.1 hu).1 hne

/-- Both `sendall` calls returned. -/
theorem Inv.sent (hi : Inv req answer s) (hc : s.pc c = .sending []) :
    Inv req answer (s.setPc c (.recvHeader [])) := by
  have hh := hi.holder_of_busy (by rw [hc]; trivial)
  refine ⟨hi.threads.busy hh trivial, hi.sent_eq, (streams_some_iff (by exact hh)).2 ?_⟩
  obtain ⟨F, hF, ⟨hlen, hu, htc, -⟩ | ⟨pre, hs, hpre, hth, -, hR⟩⟩ := (streams_some_iff hh).1 hi.streams
  · rw [hc] at hu
    exact ⟨F, hF, .inl ⟨hlen, by simpa [Pc.unsent] using hu, htc, by simp [Pc.Waiting]⟩⟩
  · rw [hc] at hR
    exact ⟨F, hF, .inr ⟨pre, hs, hpre, hth, by simp [Pc.unsent], by simpa [Pc.Reading] using hR⟩⟩

/-- A step of the holder that reads from `toClient`: the helper has answered it. -/
theorem Inv.read (hi : Inv req answer s) (hh : s.holder = some c) {p : Pc} (hp : p.Busy)
    (rest : Bytes) (hu : p.unsent = []) (hw : ¬(s.pc c).Waiting ∨ s.toClient ≠ [])
    (hr : ∀ G, (s.pc c).Reading G s.toClient → p.Reading G rest) :
    Inv req answer { s.setPc c p with toClient := rest } := by
  refine ⟨hi.threads.busy hh hp, hi.sent_eq, (streams_some_iff (by exact hh)).2 ?_⟩
  obtain ⟨F, hF, ⟨-, -, hc, hw'⟩ | ⟨pre, hs, hpre, hth, -, hR⟩⟩ := (streams_some_iff hh).1 hi.streams
  · rcases hw with hw | hw
    exacts [absurd hw' hw, absurd hc hw]
  · exact ⟨F, hF, .inr ⟨pre, hs, hpre, hth, by simpa using hu, by simpa using hr _ hR⟩⟩

/-- The holder returns `r` after reading the whole answer to its request. -/
theorem Inv.complete (hi : Inv req answer s) (hh : s.holder = some c) {r : Except PyExc Bytes}
    (hw : ¬(s.pc c).Waiting)
    (hdone : ∀ F, (s.pc c).Reading (answer s.finished.length F) s.toClient →
      r = respond answer s.finished.length F ∧ s.toClient = []) :
    Inv req answer (s.complete c r) := by
  obtain ⟨F, hF, ⟨-, -, -, hw'⟩ | ⟨pre, hs, hpre, hth, -, hR⟩⟩ := (streams_some_iff hh).1 hi.streams
  · exact absurd hw' hw
  obtain ⟨rfl, htc⟩ := hdone F hR
  have ht := hi.threads
  rw [hh] at ht
  exact ⟨ht.complete hF hs hpre, hi.sent_eq,
    (streams_none_iff rfl).2 ⟨by simp [Sys.complete, Sys.release, hs, hpre], hth, htc⟩⟩

/-- Six bytes read of a frame are its header, and the rest of it is the payload. -/
theorem header_split {data toClient : Bytes} {G : Frame} (hR : data ++ toClient = G.bytes)
    (hlen : data.length = HEADER_SIZE) :
    decodeHeader data = .ok (G.type, G.payload.length) ∧ toClient = G.payload := by
  obtain ⟨rfl, rfl⟩ := List.append_inj hR (by rw [hlen, G.length_header])
  exact ⟨by simpa using decodeHeader_encodeHeader G.encodes [], rfl⟩

/-- `decode_header`, then the payload read or the end of `call`. -/
theorem Inv.header {data : Bytes} (hi : Inv req answer s) (hc : s.pc c = .recvHeader data)
    (hlen : data.length = HEADER_SIZE) : Inv req answer (s.afterHeader c data) := by
  have hh := hi.holder_of_busy (by rw [hc]; trivial)
  have hne : data ≠ [] := fun h => by simp [h, HEADER_SIZE] at hlen
  obtain ⟨F, hF, ⟨-, -, -, hw⟩ | ⟨pre, hs, hpre, hth, -, hR⟩⟩ := (streams_some_iff hh).1 hi.streams
  · rw [hc] at hw; exact absurd hw hne
  rw [hc] at hR
  obtain ⟨hd, -⟩ := header_split hR hlen
  unfold Sys.afterHeader
  rw [hd]
  dsimp only
  split_ifs with hp
  · refine hi.read hh (by exact trivial) s.toClient rfl (.inl (by rw [hc]; exact hne)) fun G hG => ?_
    rw [hc] at hG
    obtain ⟨hd', htc⟩ := header_split hG hlen
    rw [hd] at hd'
    simp only [Except.ok.injEq, Prod.mk.injEq, Int.ofNat_inj] at hd'
    exact ⟨hd'.1, by rw [Int.toNat_ofNat, hd'.2], by simpa using htc⟩
  · refine hi.complete hh (by rw [hc]; exact hne) fun F' hG => ?_
    rw [hc] at hG
    obtain ⟨hd', htc⟩ := header_split hG hlen
    rw [hd] at hd'
    simp only [Except.ok.injEq, Prod.mk.injEq, Int.ofNat_inj] at hd'
    have h0 : (answer s.finished.length F').payload = [] := by
      rw [← List.length_eq_zero, ← hd'.2]; omega
    exact ⟨by rw [respond, ← hd'.1, h0], htc.trans h0⟩

/-- The last piece of the payload arrived: `call` ends. -/
theorem Inv.finish {t : Int} {n : Nat} {data : Bytes} (hi : Inv req answer s)
    (hc : s.pc c = .recvPayload t n data) (hlen : data.length = n) :
    Inv req answer (s.complete c (finishCall t data)) := by
  refine hi.complete (hi.holder_of_busy (by rw [hc]; trivial)) (by rw [hc]; exact id)
    fun F hR => ?_
  rw [hc] at hR
  obtain ⟨rfl, rfl, hp⟩ := hR
  have htc : s.toClient = [] := by
    have := congrArg List.length hp
    rw [List.length_append, hlen] at this
    exact List.length_eq_zero.1 (by omega)
  rw [htc, List.append_nil] at hp
  exact ⟨by rw [hp, respond], htc⟩

/-- The helper reads the holder's request and writes its answer. -/
theorem Inv.serve {F' : Frame} {rest : Bytes} (hi : Inv req answer s)
    (hs : s.toHelper = F'.bytes ++ rest) :
    Inv req answer (s.serve F' (answer s.served.length F') rest) := by
  cases hh : s.holder with
  | none =>
    obtain ⟨-, hth, -⟩ := (streams_none_iff hh).1 hi.streams
    exact absurd (List.append_eq_nil.1 (hs.symm.trans hth)).1 F'.bytes_ne_nil
  | some c =>
    obtain ⟨F, hF, ⟨hlen, hu, htc, hw⟩ | ⟨-, -, -, hth, -, -⟩⟩ := (streams_some_iff hh).1 hi.streams
    · rw [hs, List.append_assoc, ← List.append_nil F.bytes] at hu
      obtain ⟨rfl, hr⟩ := Frame.eq_of_bytes_append hu
      obtain ⟨rfl, hu'⟩ := List.append_eq_nil.1 hr
      refine ⟨hi.threads.serve hlen F', by simp [Sys.serve, hi.sent_eq, hs],
        (streams_some_iff (by exact hh)).2 ⟨F', hF, .inr ⟨s.served, rfl, hlen, rfl, hu', ?_⟩⟩⟩
      simpa [Sys.serve, htc, hlen] using Pc.reading_of_waiting hw hu'
    · exact absurd (hs.symm.trans hth) (by simp [F'.bytes_ne_nil])

/-- **One step keeps the invariant.** -/
theorem Inv.step {s' : Sys} (hi : Inv req answer s) (h : Step req answer s s') :
    Inv req answer s' := by
  cases h with
  | acquire hc hn => exact hi.acquire hc hn
  | send hc hne => exact hi.send hc hne
  | sent hc => exact hi.sent hc
  | recvHeader hc hsplit hne _ =>
    refine hi.read (hi.holder_of_busy (by rw [hc]; trivial)) (by exact trivial) _ rfl
      (.inr (by rw [hsplit]; simp [hne])) fun G hG => ?_
    rw [hc, hsplit] at hG
    simpa [Pc.Reading] using hG
  | recvPayload hc hsplit hne _ =>
    refine hi.read (hi.holder_of_busy (by rw [hc]; trivial)) (by exact trivial) _ rfl
      (.inr (by rw [hsplit]; simp [hne])) fun G hG => ?_
    rw [hc, hsplit] at hG
    simpa [Pc.Reading] using hG
  | header hc hlen => exact hi.header hc hlen
  | finish hc hlen => exact hi.finish hc hlen
  | serve F hs => exact hi.serve hs

end Step

/-! ## 4. Every reachable state -/

section Run

variable (req : Tid → Int × Bytes) (answer : Nat → Frame → Frame)

theorem Inv.init : Inv req answer Sys.init where
  threads :=
    { isOpen := rfl
      lock := fun _ => by simp [Sys.init, Pc.Busy]
      nodup := List.nodup_nil
      fresh := fun _ h => by cases h
      requests := .nil
      answered := fun _ hi => absurd hi (Nat.not_lt_zero _)
      failed := fun _ _ h => by cases h }
  sent_eq := rfl
  streams := (streams_none_iff rfl).2 ⟨rfl, rfl, rfl⟩

theorem Inv.reachable {s : Sys} (hs : Reachable req answer s) : Inv req answer s := by
  induction hs with
  | refl => exact Inv.init req answer
  | tail _ hstep ih => exact ih.step hstep

/-- The two guarantees.  (1) The calls that sent a request, those that returned and the
    one holding the lock, are distinct, and the bytes the helper received are the request
    frames of the returned calls in order, then a prefix of the holder's frame.  (2) A call
    that returned either got the outcome of the response the helper wrote to its own
    request, its `i`-th, or raised before sending anything because `encode_header` failed. -/
def Isolated (s : Sys) : Prop :=
  (∃ Fs : List Frame, List.Forall₂ (Requests req) (s.finished ++ s.holder.toList) Fs ∧
    (s.finished ++ s.holder.toList).Nodup ∧
    ((Fs.take s.finished.length).map Frame.bytes).flatten <+: s.sent ∧
    s.sent <+: (Fs.map Frame.bytes).flatten) ∧
  ∀ c r, s.pc c = .done r →
    (∃ i F, s.finished[i]? = some c ∧ s.served[i]? = some F ∧ Requests req c F ∧
      r = finishCall (answer i F).type (answer i F).payload) ∨
    (c ∉ s.finished ∧ ∃ e, encodeHeader (req c).1 (req c).2.length = .error e ∧ r = .error e)

theorem Inv.frames {s : Sys} (hi : Inv req answer s) :
    ∃ Fs : List Frame, List.Forall₂ (Requests req) (s.finished ++ s.holder.toList) Fs ∧
      (s.finished ++ s.holder.toList).Nodup ∧
      ((Fs.take s.finished.length).map Frame.bytes).flatten <+: s.sent ∧
      s.sent <+: (Fs.map Frame.bytes).flatten := by
  have hreq := hi.threads.requests
  rw [hi.sent_eq]
  cases hh : s.holder with
  | none =>
    obtain ⟨hlen, hth, -⟩ := (streams_none_iff hh).1 hi.streams
    rw [← hlen, List.take_length] at hreq
    refine ⟨s.served, by simpa using hreq, by simpa using hi.threads.nodup, ?_, ?_⟩ <;>
      simp [hth, ← hlen]
  | some c =>
    have hn : (s.finished ++ [c]).Nodup := List.nodup_append.2 ⟨hi.threads.nodup,
      List.nodup_singleton c, List.disjoint_singleton.2 (hi.threads.fresh c hh)⟩
    obtain ⟨F, hF, ⟨hlen, hu, -, -⟩ | ⟨pre, hs, hpre, hth, -, -⟩⟩ :=
      (streams_some_iff hh).1 hi.streams
    · rw [← hlen, List.take_length] at hreq
      refine ⟨s.served ++ [F], List.rel_append hreq (.cons hF .nil), hn, ?_, ?_⟩
      · simp [← hlen]
      · simp only [List.map_append, List.flatten_append, List.map_singleton, List.flatten_singleton]
        exact (List.prefix_append_right_inj _).2 (hu ▸ List.prefix_append _ _)
    · rw [hs, ← hpre, List.take_left' rfl] at hreq
      refine ⟨s.served, hs ▸ List.rel_append hreq (.cons hF .nil), hn, ?_, ?_⟩
      · simp [hth, hs, ← hpre]
      · simp [hth]

theorem Inv.outcomes {s : Sys} (hi : Inv req answer s) (c : Tid) (r : Except PyExc Bytes)
    (hc : s.pc c = .done r) :
    (∃ i F, s.finished[i]? = some c ∧ s.served[i]? = some F ∧ Requests req c F ∧
      r = finishCall (answer i F).type (answer i F).payload) ∨
    (c ∉ s.finished ∧ ∃ e, encodeHeader (req c).1 (req c).2.length = .error e ∧ r = .error e) := by
  by_cases hm : c ∈ s.finished
  · obtain ⟨i, hi', rfl⟩ := List.getElem_of_mem hm
    obtain ⟨F, hF, hpc⟩ := hi.threads.answered i hi'
    rw [hpc] at hc
    cases hc
    refine .inl ⟨i, F, List.getElem?_eq_getElem hi', hF, ?_, rfl⟩
    have hR := hi.threads.requests.get hi' (hi.threads.requests.length_eq ▸ hi')
    obtain ⟨_, hFe⟩ := List.getElem?_eq_some_iff.1 hF
    simpa [List.getElem_take, hFe] using hR
  · exact .inr ⟨hm, hi.threads.failed c r hc hm⟩

/-- **Concurrent calls on one client never get each other's responses.** -/
theorem calls_isolated (s : Sys) (hs : Reachable req answer s) : Isolated req answer s :=
  let hi := Inv.reachable req answer hs
  ⟨hi.frames, hi.outcomes⟩

end Run

/-! ## 5. A run of two calls -/

/-- Thread `c` calls `call(0x0100, bytes([c]))`. -/
def tagged (c : Tid) : Int × Bytes := (0x0100, [byte c])

/-- A helper that answers every request with an `MSG_RESPONSE` echoing its payload. -/
def echo (_ : Nat) (F : Frame) : Frame where
  type := MSG_RESPONSE
  payload := F.payload
  header := packBits .H MSG_RESPONSE ++ packBits .I F.payload.length
  encodes := encodeHeader_eq_ok.2 ⟨by decide, (encodeHeader_eq_ok.1 F.encodes).2.1, rfl⟩

/-- Thread `c`'s request frame. -/
def taggedFrame (c : Tid) : Frame :=
  ⟨0x0100, [byte c], packBits .H 0x0100 ++ packBits .I 1,
    encodeHeader_eq_ok.2 ⟨by decide, show IntFormat.I.Fits 1 by decide, rfl⟩⟩

/-- Thread `0` sends its request in one piece, the helper answers it, thread `0` reads the
    header and the payload and returns the echo of its payload; then thread `1` takes the
    lock. -/
theorem run_after_call : ∃ s, Reachable tagged echo s ∧ s.finished = [0] ∧
    s.pc 0 = .done (.ok [byte 0]) ∧ s.holder = some 1 ∧ s.pc 1 = .sending (taggedFrame 1).bytes :=
  ⟨_, .head (.acquire (c := 0) rfl rfl) <|
    .head (@Step.send tagged echo _ 0 (taggedFrame 0).bytes [] rfl (by decide)) <|
    .head (.sent (c := 0) rfl) <|
    .head (@Step.serve tagged echo _ [] (taggedFrame 0) rfl) <|
    .head (@Step.recvHeader tagged echo _ 0 [] (echo 0 (taggedFrame 0)).header
      [byte 0] rfl rfl (by decide) (by decide)) <|
    .head (.header (c := 0) rfl rfl) <|
    .head (@Step.recvPayload tagged echo _ 0 MSG_RESPONSE 1 [] [byte 0] []
      rfl rfl (by decide) (by decide)) <|
    .head (.finish (c := 0) rfl rfl) <|
    .single (.acquire (c := 1) rfl rfl),
    rfl, rfl, rfl, rfl⟩

/-- After thread `0`'s call returned and with thread `1` inside the lock, the calls are
    isolated. -/
theorem calls_isolated_after_call : ∃ s, Reachable tagged echo s ∧ s.finished = [0] ∧
    s.pc 0 = .done (.ok [byte 0]) ∧ s.holder = some 1 ∧ Isolated tagged echo s :=
  let ⟨s, hs, h0, hd, h1, _⟩ := run_after_call
  ⟨s, hs, h0, hd, h1, calls_isolated tagged echo s hs⟩

end CrumbleCracker
