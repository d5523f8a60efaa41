import CrumbleCracker.Wire.Decoder

/-!
# Reading a response (`IPCClient._recv_exact` and the response half of `call`)

The socket is what `recv` can do: return between `1` and `k` of the bytes the helper has
written and the client has not read yet, or `b""` once there are none.  Which count it
returns is chosen by the schedule `chunk`, one choice per call, so a theorem over every
`chunk` is a theorem over every fragmentation of the stream.

`_recv_exact(n)` loops until it holds `n` bytes and raises `CCError("Connection closed by
helper", code=7)` when `recv` returns `b""`.  The response half of `call` is
`_recv_exact(HEADER_SIZE)`, `decode_header`, and `_recv_exact(resp_len)` when
`resp_len > 0`: `readResponse`.

## Results

* `run_recvExactFrom`: whatever the schedule, `_recv_exact` reads the next `n` bytes, or
  raises after reading all there are when fewer are left; it makes at most one `recv` call
  per byte, and one more.
* `readResponse_eq`: the response half of `call` computes `parseFrame`, a function of the
  unread bytes alone, with no schedule in it.
* `parseFrame_eq_ok`: `parseFrame` returns `(t, p)` and the rest exactly when the bytes
  start with `encode_header(t, len(p)) ++ p`.
-/

namespace CrumbleCracker

/-! ## 1. The socket -/

/-- The client's end of the helper connection, as `recv` sees it. -/
structure Sock where
  /-- what the helper has written and the client has not read -/
  inbox : Bytes
  /-- the `i`-th `recv(k)` returns at most `chunk i + 1` bytes -/
  chunk : Nat → Nat
  /-- the `recv` calls made so far -/
  calls : Nat

namespace Sock

/-- `sock.recv(k)`. -/
def recv (s : Sock) (k : Nat) : Bytes × Sock :=
  let m := min k (s.chunk s.calls + 1)
  (s.inbox.take m, { s with inbox := s.inbox.drop m, calls := s.calls + 1 })

/-- `recv` as a statement of the client. -/
def recvM (k : Nat) : PyM Sock Bytes := modifyGet fun s => s.recv k

@[simp] theorem run_recvM (k : Nat) (s : Sock) : (recvM k).run s = (.ok (s.recv k).1, (s.recv k).2) :=
  rfl

/-- What one `recv(k)` can do: return at most `k` of the next bytes and remove them. -/
theorem recv_spec (s : Sock) (k : Nat) : ∃ c rest, s.inbox = c ++ rest ∧ c.length ≤ k ∧
    s.recv k = (c, { s with inbox := rest, calls := s.calls + 1 }) :=
  ⟨_, _, (List.take_append_drop _ _).symm, by simp only [recv, List.length_take]; omega, rfl⟩

/-- A `recv` for at least one byte returns at least one byte unless nothing is left. -/
theorem recv_eq_nil_iff {s : Sock} {k : Nat} (hk : 0 < k) : (s.recv k).1 = [] ↔ s.inbox = [] := by
  simp only [recv, List.take_eq_nil_iff, or_iff_right_iff_imp]
  exact fun h => absurd h (by omega)

end Sock

/-- `CCError("Connection closed by helper", code=7)`. -/
def connectionClosed : PyExc := .cc (CCError.plain "Connection closed by helper" 7)

/-! ## 2. `_recv_exact` -/

/-- The loop of `_recv_exact(n)` once it holds `data`. -/
def recvExactFrom (n : Nat) (data : Bytes) : PyM Sock Bytes :=
  if _h : data.length < n then do
    let chunk ← Sock.recvM (n - data.length)
    if _hc : chunk = [] then throw connectionClosed
    else recvExactFrom n (data ++ chunk)
  else pure data
termination_by n - data.length
decreasing_by
  have := List.length_pos.2 _hc
  simp only [List.length_append]
  omega

/-- `_recv_exact(n)`. -/
def recvExact (n : Nat) : PyM Sock Bytes := recvExactFrom n []

/-- The outcome of reading `r` more bytes from `inbox` on top of `data`. -/
def readOutcome (data inbox : Bytes) (r : Nat) : Except PyExc Bytes :=
  if r ≤ inbox.length then .ok (data ++ inbox.take r) else .error connectionClosed

/-- Reading the first bytes `c` of the `r` first leaves the outcome unchanged. -/
theorem readOutcome_append {data c rest : Bytes} {r : Nat} (h : c.length ≤ r) :
    readOutcome (data ++ c) rest (r - c.length) = readOutcome data (c ++ rest) r := by
  unfold readOutcome
  rw [List.length_append, List.take_append_eq_append_take, List.take_of_length_le h,
    List.append_assoc]
  congr 1
  exact propext (by omega)

/-- **`_recv_exact` under any schedule.** It reads the next `n - len(data)` bytes, or all
    there are and then raises; the schedule decides only how many `recv` calls it takes. -/
theorem run_recvExactFrom (n : Nat) (data : Bytes) (s : Sock) :
    ∃ k ≤ min (n - data.length) s.inbox.length + 1, (recvExactFrom n data).run s =
      (readOutcome data s.inbox (n - data.length),
        { s with inbox := s.inbox.drop (n - data.length), calls := s.calls + k }) := by
  induction data using recvExactFrom.induct n generalizing s with
  | case1 data h ih =>
    rw [recvExactFrom, dif_pos h, PyM.run_bind, Sock.run_recvM]
    dsimp only
    by_cases hc : (s.recv (n - data.length)).1 = []
    · have hi : s.inbox = [] := (Sock.recv_eq_nil_iff (by omega)).1 hc
      rw [dif_pos hc, PyM.run_throw]
      refine ⟨1, by simp [hi], ?_⟩
      simp [Sock.recv, readOutcome, hi, connectionClosed]
      rw [if_neg (by omega)]
    · rw [dif_neg hc]
      obtain ⟨c, rest, hin, hck, hrecv⟩ := s.recv_spec (n - data.length)
      rw [hrecv] at hc ⊢
      obtain ⟨k, hk, he⟩ := ih c hc { s with inbox := rest, calls := s.calls + 1 }
      have hpos : 0 < c.length := List.length_pos.2 hc
      rw [List.length_append] at hk he
      have hlen : s.inbox.length = c.length + rest.length := by rw [hin, List.length_append]
      have hk' : k + 1 ≤ min (n - data.length) s.inbox.length + 1 := by
        dsimp only at hk
        omega
      rw [he, hin, show n - (data.length + c.length) = n - data.length - c.length by omega,
        readOutcome_append hck, List.drop_append_eq_append_drop, List.drop_eq_nil_of_le hck]
      rw [hin] at hk'
      refine ⟨k + 1, hk', ?_⟩
      simp only [List.nil_append, Nat.add_assoc, Nat.add_comm 1 k]
  | case2 data h =>
    rw [recvExactFrom, dif_neg h]
    refine ⟨0, by omega, ?_⟩
    simp [readOutcome, show n - data.length = 0 by omega]

/-! ## 3. The response half of `call` -/

/-- `resp_header = self._recv_exact(HEADER_SIZE)`, `decode_header(resp_header)`, and
    `self._recv_exact(resp_len) if resp_len > 0 else b""`. -/
def readResponse : PyM Sock (Int × Bytes) := do
  let respHeader ← recvExact HEADER_SIZE
  let (respType, respLen) ← PyM.ofExcept (decodeHeader respHeader)
  let respPayload ← if respLen > 0 then recvExact respLen.toNat else pure []
  return (respType, respPayload)

/-- The response at the start of the unread bytes, read in one go: its type, its payload
    and what follows it, or `connectionClosed` when the bytes end first. -/
def parseFrame (inbox : Bytes) : Except PyExc ((Int × Bytes) × Bytes) :=
  if inbox.length < HEADER_SIZE then .error connectionClosed
  else match decodeHeader (inbox.take HEADER_SIZE) with
    | .error e => .error e
    | .ok (t, n) =>
      if inbox.length < HEADER_SIZE + n.toNat then .error connectionClosed
      else .ok ((t, (inbox.drop HEADER_SIZE).take n.toNat), inbox.drop (HEADER_SIZE + n.toNat))

/-- The state a response read leaves: the rest of the bytes after a frame, none after a
    raise. -/
def afterFrame (s : Sock) (k : Nat) : Except PyExc ((Int × Bytes) × Bytes) →
    Except PyExc (Int × Bytes) × Sock
  | .ok (r, rest) => (.ok r, { s with inbox := rest, calls := s.calls + k })
  | .error e => (.error e, { s with inbox := [], calls := s.calls + k })

/-- **The response read refines `parseFrame`.** Under every schedule the response half of
    `call` computes the frame at the start of the stream, with at most two more `recv` calls
    than there are bytes. -/
theorem readResponse_eq (s : Sock) :
    ∃ k ≤ s.inbox.length + 2, readResponse.run s = afterFrame s k (parseFrame s.inbox) := by
  obtain ⟨k₁, hk₁, h₁⟩ := run_recvExactFrom HEADER_SIZE [] s
  simp only [List.length_nil, Nat.sub_zero] at hk₁ h₁
  rw [readResponse, PyM.run_bind, recvExact, h₁, parseFrame]
  by_cases hs : s.inbox.length < HEADER_SIZE
  · refine ⟨k₁, by omega, ?_⟩
    rw [readOutcome, if_neg (by omega), if_pos hs, afterFrame, List.drop_eq_nil_of_le (by omega)]
  have hh : (s.inbox.take HEADER_SIZE).length = HEADER_SIZE := by simp [HEADER_SIZE] at hs ⊢; omega
  rw [readOutcome, if_pos (by omega), List.nil_append, if_neg hs, decodeHeader_of_length hh]
  dsimp only
  rw [PyM.run_bind, PyM.run_ofExcept, decodeHeader_of_length hh]
  dsimp only
  have hn : 0 ≤ unpack .I ((s.inbox.take HEADER_SIZE).drop 2) :=
    (unpack_fits .I (by simp [HEADER_SIZE, IntFormat.size] at hs ⊢; omega)).1
  generalize unpack .I ((s.inbox.take HEADER_SIZE).drop 2) = n at hn ⊢
  generalize unpack .H ((s.inbox.take HEADER_SIZE).take 2) = t
  by_cases hpos : n > 0
  · rw [if_pos hpos, PyM.run_bind]
    obtain ⟨k₂, hk₂, h₂⟩ := run_recvExactFrom n.toNat []
      { s with inbox := s.inbox.drop HEADER_SIZE, calls := s.calls + k₁ }
    simp only [List.length_nil, Nat.sub_zero, List.length_drop] at hk₂ h₂
    rw [recvExact, h₂, readOutcome]
    refine ⟨k₁ + k₂, by omega, ?_⟩
    by_cases hl : s.inbox.length < HEADER_SIZE + n.toNat
    · rw [if_neg (by simp; omega), if_pos hl]
      simp [afterFrame, Nat.add_assoc]
      omega
    · rw [if_pos (by simp; omega), if_neg hl]
      simp [afterFrame, Nat.add_assoc]
  · obtain rfl : n = 0 := by omega
    rw [if_neg hpos]
    refine ⟨k₁, by omega, ?_⟩
    rw [if_neg (by simp; omega)]
    simp [afterFrame]

/-- **Framing.** `parseFrame` returns `(t, p)` and `rest` exactly when the bytes are a
    header `encode_header(t, len(p))`, then `p`, then `rest`. -/
theorem parseFrame_eq_ok {inbox rest : Bytes} {t : Int} {p : Bytes} :
    parseFrame inbox = .ok ((t, p), rest) ↔
      ∃ h, encodeHeader t p.length = .ok h ∧ inbox = h ++ p ++ rest := by
  constructor
  · intro hp
    unfold parseFrame at hp
    split_ifs at hp with hs
    have h6 : (inbox.take HEADER_SIZE).length = HEADER_SIZE := by simp; omega
    obtain ⟨t', n, hd, he⟩ := encodeHeader_decodeHeader h6
    rw [hd] at hp
    dsimp only at hp
    split_ifs at hp with hl
    obtain ⟨⟨rfl, rfl⟩, rfl⟩ := Prod.mk.inj_iff.1 (Except.ok.inj hp)
    have hn : 0 ≤ n := (encodeHeader_eq_ok.1 he).2.1.1
    refine ⟨inbox.take HEADER_SIZE, ?_, ?_⟩
    · rwa [List.length_take, List.length_drop, min_eq_left (by omega), Int.toNat_of_nonneg hn]
    · rw [← List.drop_drop, List.append_assoc, List.take_append_drop, List.take_append_drop]
  · rintro ⟨h, he, rfl⟩
    have h6 := length_of_encodeHeader he
    have hd : decodeHeader h = .ok (t, p.length) := by
      simpa using decodeHeader_encodeHeader he []
    unfold parseFrame
    rw [List.append_assoc, if_neg (by simp; omega), List.take_left' h6, hd]
    simp [← List.drop_drop, List.drop_left' h6]
    omega

/-- A stream that ends inside the header, or inside the payload the header announces, is
    read as `connectionClosed`. -/
theorem parseFrame_short {inbox : Bytes} (h : inbox.length < HEADER_SIZE ∨ ∃ t n,
      decodeHeader (inbox.take HEADER_SIZE) = .ok (t, n) ∧ inbox.length < HEADER_SIZE + n) :
    parseFrame inbox = .error connectionClosed := by
  unfold parseFrame
  rcases h with hs | ⟨t, n, hd, hl⟩
  · rw [if_pos hs]
  · split_ifs with hs
    · rfl
    · rw [hd]
      dsimp only
      rw [if_pos (by omega)]

theorem parseFrame_of_readResponse {s s' : Sock} {r : Int × Bytes}
    (h : readResponse.run s = (.ok r, s')) : parseFrame s.inbox = .ok (r, s'.inbox) := by
  obtain ⟨k, -, he⟩ := readResponse_eq s
  rw [he] at h
  revert h
  rcases parseFrame s.inbox with _ | ⟨r', rest⟩ <;> simp only [afterFrame, Prod.mk.injEq,
    reduceCtorEq, false_and, false_imp_iff, Except.ok.injEq]
  rintro ⟨rfl, rfl⟩
  exact ⟨rfl, rfl⟩

/-! ## 4. Whole frames -/

/-- A frame `encode_header(type, len(payload)) ++ payload`: the header has been built, so
    the type and the length fit their formats. -/
structure Frame where
  type : Int
  payload : Bytes
  header : Bytes
  encodes : encodeHeader type payload.length = .ok header

namespace Frame

/-- The frame on the wire. -/
def bytes (F : Frame) : Bytes := F.header ++ F.payload

/-- `encode_header(t, len(p))`, and the frame it heads. -/
def make (t : Int) (p : Bytes) : Except PyExc Frame :=
  match h : encodeHeader t p.length with
  | .ok header => .ok ⟨t, p, header, h⟩
  | .error e => .error e

theorem length_header (F : Frame) : F.header.length = HEADER_SIZE :=
  length_of_encodeHeader F.encodes

theorem make_eq_ok {t : Int} {p h : Bytes} (he : encodeHeader t p.length = .ok h) :
    Frame.make t p = .ok ⟨t, p, h, he⟩ := by
  unfold make
  split <;> rename_i heq <;> rw [he] at heq <;> cases heq
  rfl

theorem bytes_ne_nil (F : Frame) : F.bytes ≠ [] := by
  intro h
  have := congrArg List.length h
  simp [bytes, F.length_header, HEADER_SIZE] at this

/-- A frame is determined by its bytes, and so is what follows it. -/
theorem eq_of_bytes_append {F G : Frame} {x y : Bytes} (h : F.bytes ++ x = G.bytes ++ y) :
    F = G ∧ x = y := by
  simp only [bytes, List.append_assoc] at h
  obtain ⟨hh, hp⟩ := List.append_inj h (by rw [F.length_header, G.length_header])
  have hd := (decodeHeader_encodeHeader F.encodes []).symm.trans
    (hh ▸ decodeHeader_encodeHeader G.encodes [])
  simp only [Except.ok.injEq, Prod.mk.injEq] at hd
  obtain ⟨hpay, hxy⟩ := List.append_inj hp (Int.ofNat_inj.1 hd.2)
  cases F; cases G
  simp_all

end Frame

theorem parseFrame_bytes (F : Frame) (rest : Bytes) :
    parseFrame (F.bytes ++ rest) = .ok ((F.type, F.payload), rest) :=
  parseFrame_eq_ok.2 ⟨_, F.encodes, rfl⟩

/-- What `parseFrame` returns is a frame at the start of the bytes. -/
theorem parseFrame_eq_ok_frame {inbox rest : Bytes} {t : Int} {p : Bytes}
    (h : parseFrame inbox = .ok ((t, p), rest)) :
    ∃ F : Frame, F.type = t ∧ F.payload = p ∧ inbox = F.bytes ++ rest := by
  obtain ⟨hd, he, hin⟩ := parseFrame_eq_ok.1 h
  exact ⟨⟨t, p, hd, he⟩, rfl, rfl, hin⟩

/-- **The response half of `call` frames responses correctly under any chunking.** It makes
    at most two more `recv` calls than there are bytes; it returns `(t, p)` exactly when the
    stream starts with `encode_header(t, len(p)) ++ p`, and then has read exactly those
    bytes; it raises `CCError` with code `7` when the stream ends inside the header or the
    payload; and `decode_header` inverts `encode_header`. -/
theorem response_framing :
    (∀ s : Sock, (readResponse.run s).2.calls ≤ s.calls + s.inbox.length + 2) ∧
    (∀ (s : Sock) (t : Int) (p : Bytes), (∃ s', readResponse.run s = (.ok (t, p), s')) ↔
      ∃ h rest, encodeHeader t p.length = .ok h ∧ s.inbox = h ++ p ++ rest) ∧
    (∀ (s s' : Sock) (t : Int) (p : Bytes), readResponse.run s = (.ok (t, p), s') →
      s'.inbox = s.inbox.drop (HEADER_SIZE + p.length)) ∧
    (∀ s : Sock, (s.inbox.length < HEADER_SIZE ∨ ∃ t n,
        decodeHeader (s.inbox.take HEADER_SIZE) = .ok (t, n) ∧ s.inbox.length < HEADER_SIZE + n) →
      (readResponse.run s).1 = .error (.cc (CCError.plain "Connection closed by helper" 7))) ∧
    (∀ t n : Nat, t < 2 ^ 16 → n < 2 ^ 32 →
      ∃ b, encodeHeader t n = .ok b ∧ decodeHeader b = .ok (t, n)) := by
  refine ⟨fun s => ?_, fun s t p => ⟨fun ⟨s', h⟩ => ?_, fun ⟨h, rest, he, hin⟩ => ?_⟩,
    fun s s' t p h => ?_, fun s h => ?_, fun t n ht hn => ?_⟩
  · obtain ⟨k, hk, he⟩ := readResponse_eq s
    rw [he]
    rcases parseFrame s.inbox with _ | ⟨r, rest⟩ <;> simp only [afterFrame] <;> omega
  · obtain ⟨h, he, hin⟩ := parseFrame_eq_ok.1 (parseFrame_of_readResponse h)
    exact ⟨h, s'.inbox, he, hin⟩
  · obtain ⟨k, -, hr⟩ := readResponse_eq s
    rw [hr, parseFrame_eq_ok.2 ⟨h, he, hin⟩]
    exact ⟨_, rfl⟩
  · obtain ⟨h, he, hin⟩ := parseFrame_eq_ok.1 (parseFrame_of_readResponse h)
    rw [hin, List.append_assoc, ← List.drop_drop, List.drop_left' (length_of_encodeHeader he),
      List.drop_left' rfl]
  · obtain ⟨k, -, hr⟩ := readResponse_eq s
    rw [hr, parseFrame_short h]
    rfl
  · obtain ⟨b, hb⟩ : ∃ b, encodeHeader t n = .ok b :=
      ⟨_, encodeHeader_eq_ok.2 ⟨by simp [IntFormat.Fits, IntFormat.lo, IntFormat.hi]; omega,
        by simp [IntFormat.Fits, IntFormat.lo, IntFormat.hi]; omega, rfl⟩⟩
    exact ⟨b, hb, by simpa using decodeHeader_encodeHeader hb []⟩

/-- One `recv` per byte.  A stream holding the frame of type `1` with payload `[7, 8]`, then
    a byte of the next frame, gives that frame and leaves the byte; a stream whose header
    announces three bytes of payload and which ends after one raises. -/
theorem response_framing_frame_and_cut :
    (∃ s', readResponse.run ⟨[0, 1, 0, 0, 0, 2, 7, 8, 9], fun _ => 0, 0⟩ = (.ok (1, [7, 8]), s') ∧
      s'.inbox = [9]) ∧
    (readResponse.run ⟨[0, 1, 0, 0, 0, 3, 7], fun _ => 0, 0⟩).1 =
      .error (.cc (CCError.plain "Connection closed by helper" 7)) := by
  obtain ⟨s', hs'⟩ := (response_framing.2.1 ⟨[0, 1, 0, 0, 0, 2, 7, 8, 9], fun _ => 0, 0⟩ 1 [7, 8]).2
    ⟨[0, 1, 0, 0, 0, 2], [9], rfl, rfl⟩
  refine ⟨⟨s', hs', ?_⟩, response_framing.2.2.2.1 _ (.inr ⟨1, 3, rfl, by decide⟩)⟩
  rw [response_framing.2.2.1 _ s' 1 [7, 8] hs']
  rfl

end CrumbleCracker
