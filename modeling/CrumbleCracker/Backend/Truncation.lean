import CrumbleCracker.Backend.Ops
import CrumbleCracker.Wire.Schema
import Mathlib.Data.List.Infix

/-!
# Reading past the end (`Decoder`, and the readers of `IPCBackend`)

Every `Decoder` method is `Confined` (`Wire/Readers`): it raises only `ValueError` or
`UnicodeDecodeError`, keeps `_pos` within its buffer and computes what it returns from the
bytes it consumed alone.  Here that is carried to any sequence of method calls, to the records
of the round-trip law, and to every operation of `IPCBackend`, whose reader is confined by
construction (`Op.result_confined`).

## Results

* `DecoderCall.runAll_inBounds`: after any sequence of calls, each of which may raise,
  `0 <= _pos <= len(buf)`.
* `decodeFields_truncated`: every strict prefix of the encoding of a record makes the record's
  decoder raise.
* `Op.decode_truncated`: an operation returns its value from a response cut anywhere after the
  bytes its reader consumed, and raises on a response cut anywhere before.
* `Op.invoke_eq_ok`: what an operation returns was decoded from the payload of the frame the
  helper wrote.
* `decoder_never_reads_past_end`: all of these, for the methods, the records and every
  operation.
-/

namespace CrumbleCracker

/-! ## 1. Any sequence of calls -/

/-- The methods of `Decoder`. -/
inductive DecoderCall
  | uint8 | uint16 | uint32 | uint64 | int32 | int64 | decodeBool | string | readBytes
  | stringSlice | fileInfo | dirEntry | error
  deriving DecidableEq, Repr

/-- What a method returns. -/
def DecoderCall.Result : DecoderCall → Type
  | .decodeBool => Bool
  | .string => String
  | .readBytes => Bytes
  | .stringSlice => List String
  | .fileInfo => Decoder.FileInfo
  | .dirEntry => Decoder.DirEntry
  | .error => Option CCError
  | _ => Int

namespace DecoderCall

open Decoder

/-- The method a call runs. -/
def method : (c : DecoderCall) → DecodeM c.Result
  | .uint8 => Decoder.uint8
  | .uint16 => Decoder.uint16
  | .uint32 => Decoder.uint32
  | .uint64 => Decoder.uint64
  | .int32 => Decoder.int32
  | .int64 => Decoder.int64
  | .decodeBool => Decoder.decodeBool
  | .string => Decoder.string
  | .readBytes => Decoder.readBytes
  | .stringSlice => Decoder.stringSlice
  | .fileInfo => Decoder.fileInfo
  | .dirEntry => Decoder.dirEntry
  | .error => Decoder.error

/-- Calls one after another on one decoder, each from where the one before stopped, whether
    it returned or raised: a caller may catch the `ValueError` and call again. -/
def runAll (cs : List DecoderCall) (d : Decoder) : Decoder :=
  cs.foldl (fun d c => (c.method.run d).2) d

/-- **Every method is confined to its buffer.** -/
theorem confined : ∀ c : DecoderCall, Confined c.method
  | .uint8 | .uint16 | .uint32 | .uint64 | .int32 | .int64 => confined_unpackField _
  | .decodeBool => .bool
  | .string => .string
  | .readBytes => .readBytes
  | .stringSlice => .stringSlice
  | .fileInfo => .fileInfo
  | .dirEntry => .dirEntry
  | .error => .error

/-- **`0 <= _pos <= len(buf)` after every call.** -/
theorem runAll_inBounds (cs : List DecoderCall) (d : Decoder) (hd : d.pos ≤ d.buf.length) :
    (runAll cs d).buf = d.buf ∧ d.pos ≤ (runAll cs d).pos ∧ (runAll cs d).pos ≤ d.buf.length := by
  induction cs generalizing d with
  | nil => exact ⟨rfl, le_rfl, hd⟩
  | cons c cs ih =>
    obtain ⟨hb, hp, hl⟩ := (confined c).inBounds d hd
    obtain ⟨hb', hp', hl'⟩ := ih _ (hb ▸ hl)
    exact ⟨hb'.trans hb, hp.trans hp', hb ▸ hl'⟩

end DecoderCall

/-! ## 2. Records -/

open Decoder in
theorem confined_decodeField : ∀ k : FieldKind, Confined (decodeField k)
  | .int f => (confined_unpackField f).map _
  | .bool => Confined.bool.map _
  | .string => Confined.string.map _
  | .bytes => Confined.readBytes.map _
  | .stringSlice => Confined.stringSlice.map _

theorem confined_decodeFields : ∀ ks : List FieldKind, Decoder.Confined (decodeFields ks)
  | [] => .pure _
  | k :: ks => (confined_decodeField k).bind fun _ => (confined_decodeFields ks).bind fun _ => .pure _

/-- **Truncated records are rejected.** Whatever the schema and the values the encoder
    accepted, decoding any strict prefix of their encoding raises `ValueError` or
    `UnicodeDecodeError`. -/
theorem decodeFields_truncated {ks : List FieldKind} {vs : List Value} {e : Encoder}
    (h : encodeFields Encoder.new ks vs = .ok e) {n : Nat} (hn : n < e.getBytes.length) :
    ∃ x, ((decodeFields ks).run (Decoder.new (e.getBytes.take n))).1 = .error x ∧
      x.IsDecodeError := by
  have hb : e.getBytes = fieldsBytes ks vs := by simpa using getBytes_of_encodeFields h
  have hrun := decodeFields_forward (fits_of_encodeFields h) (d := Decoder.new e.getBytes) (r := [])
    (by rw [Decoder.rest_new, hb, List.append_nil])
  obtain ⟨k, hk, -, -, cut⟩ := (confined_decodeFields ks).reads hrun
  have hk' : k = e.getBytes.length := by
    have := congrArg Decoder.pos hk
    simp only [Decoder.advance_pos, Decoder.new, Nat.zero_add] at this
    rw [hb]
    exact this.symm
  have hcut := cut (Decoder.new (e.getBytes.take n)) (Nat.zero_le _)
    (by rw [Decoder.rest_new, Decoder.rest_new, hk', List.take_length]; exact List.take_prefix _ _)
    (by rw [Decoder.rest_new, List.length_take]; omega)
  have hs := (confined_decodeFields ks).errors (Decoder.new (e.getBytes.take n))
  rcases hr : ((decodeFields ks).run (Decoder.new (e.getBytes.take n))).1 with x | v
  · rw [hr] at hs
    exact ⟨x, rfl, hs⟩
  · rw [hr] at hcut
    cases hcut

/-! ## 3. The readers of the operations -/

theorem readsConsumed_checkError : Decoder.ReadsConsumed checkError :=
  Decoder.Confined.error.reads.bind fun
    | some _ => .throw _
    | none => .pure _

namespace Op

variable {α : Type} (o : Op α)

/-- The value `v` of the response `resp` is decoded from its first `k` bytes: the method
    raises on `resp` cut anywhere before them, and returns `v` on `resp` cut anywhere after. -/
def RejectsTruncation (resp : Bytes) (v : α) : Prop :=
  ∃ k ≤ resp.length, ∀ n, (n < k → (o.decode (resp.take n)).isOk = false) ∧
    (k ≤ n → o.decode (resp.take n) = .ok v)

/-- **No value from a truncated response.** A method decodes each response it accepts from a
    prefix, and raises on every shorter one. -/
theorem decode_truncated {resp : Bytes} {v : α} (h : o.decode resp = .ok v) :
    o.RejectsTruncation resp v := by
  obtain ⟨d', hr⟩ : ∃ d', (checkError >>= fun _ => o.result).run (Decoder.new resp) = (.ok v, d') :=
    ⟨_, Prod.ext h rfl⟩
  obtain ⟨k, -, hk, same, cut⟩ := (readsConsumed_checkError.bind fun _ => o.result_confined.reads) hr
  rw [Decoder.rest_new] at hk same cut
  refine ⟨k, hk, fun n => ⟨fun hn => cut _ (Nat.zero_le _) ?_ ?_, fun hn => ?_⟩⟩
  · rw [Decoder.rest_new, List.prefix_take_iff, List.length_take]
    exact ⟨List.take_prefix _ _, by omega⟩
  · rw [Decoder.rest_new, List.length_take]
    omega
  · exact congrArg Prod.fst (same _ (Nat.zero_le _)
      (by rw [Decoder.rest_new, List.take_take, Nat.min_eq_left hn]))

theorem finishCall_eq_ok {t : Int} {p r : Bytes} (h : finishCall t p = .ok r) : r = p := by
  unfold finishCall at h
  split_ifs at h
  · split at h <;> cases h
  · exact (Except.ok.inj h).symm

/-- What a method returns was decoded from the payload of the frame at the start of the
    helper's bytes. -/
theorem invoke_eq_ok {closed : Bool} {s : Sock} {v : α} (h : ((o.invoke closed).run s).1 = .ok v) :
    ∃ t resp rest, parseFrame s.inbox = .ok ((t, resp), rest) ∧ o.decode resp = .ok v := by
  have hs : Sat (fun w => ∃ t resp rest, parseFrame s.inbox = .ok ((t, resp), rest) ∧
      o.decode resp = .ok w) (fun _ => True) (o.outcome closed (parseFrame s.inbox)) := by
    unfold outcome
    refine ((Sat.self _).mono (fun _ _ => trivial) fun _ _ => trivial).bind fun enc _ => ?_
    cases closed
    · simp only [Bool.false_eq_true, if_false, pure_bind]
      refine ((Sat.self _).mono (fun _ _ => trivial) fun _ _ => trivial).bind fun _ _ => ?_
      refine ((Sat.self _).mono (fun _ h => h) fun _ _ => trivial).bind fun ⟨⟨t, p⟩, rest⟩ hf => ?_
      refine ((Sat.self _).mono (fun _ h => h) fun _ _ => trivial).bind fun r hr => ?_
      rw [finishCall_eq_ok hr]
      exact (Sat.self _).mono (fun w hw => ⟨t, p, rest, hf, hw⟩) fun _ _ => trivial
    · trivial
  rw [← invoke_eq, h] at hs
  exact hs

end Op

/-- **The decoder never reads out of bounds and never accepts truncated input.** Every method
    raises only `ValueError` or `UnicodeDecodeError`, keeps `_pos` within the buffer and
    computes what it returns from the bytes it consumed alone; after any sequence of calls
    `0 <= _pos <= len(buf)`; every strict prefix of an encoded record is rejected; and every
    operation of `IPCBackend`, the count-driven readers of `fs_read_dir` and `string_slice`
    included, returns only a value decoded from a prefix of the payload the helper sent, every
    shorter cut of which makes it raise. -/
theorem decoder_never_reads_past_end :
    (∀ c : DecoderCall, Decoder.Confined c.method) ∧
    (∀ (buf : Bytes) (cs : List DecoderCall),
      (DecoderCall.runAll cs (Decoder.new buf)).buf = buf ∧
        (DecoderCall.runAll cs (Decoder.new buf)).pos ≤ buf.length) ∧
    (∀ (ks : List FieldKind) (vs : List Value) (e : Encoder),
      encodeFields Encoder.new ks vs = .ok e → ∀ n < e.getBytes.length, ∃ x,
        ((decodeFields ks).run (Decoder.new (e.getBytes.take n))).1 = .error x ∧
          x.IsDecodeError) ∧
    (∀ {α : Type} (o : Op α) (closed : Bool) (s : Sock) (v : α),
      ((o.invoke closed).run s).1 = .ok v →
        ∃ t resp rest, parseFrame s.inbox = .ok ((t, resp), rest) ∧ o.RejectsTruncation resp v) :=
  ⟨DecoderCall.confined,
    fun _ cs => have h := DecoderCall.runAll_inBounds cs _ (Nat.zero_le _); ⟨h.1, h.2.2⟩,
    fun _ _ _ h _ hn => decodeFields_truncated h hn,
    fun o _ _ _ h => let ⟨t, resp, rest, hf, hd⟩ := o.invoke_eq_ok h
      ⟨t, resp, rest, hf, o.decode_truncated hd⟩⟩

/-- A record `string, uint32` holding `"ab"` and `7`, every strict prefix of which is rejected;
    and `fs_read_dir("/")` on a response frame listing one directory `a` with mode `0o755`,
    read one byte per `recv`. -/
theorem decoder_never_reads_past_end_read_dir :
    (∃ e, encodeFields Encoder.new [.string, .int .I] [.str "ab", .int 7] = .ok e ∧
      ∀ n < e.getBytes.length, ∃ x,
        ((decodeFields [.string, .int .I]).run (Decoder.new (e.getBytes.take n))).1 = .error x ∧
          x.IsDecodeError) ∧
    ((((fsReadDir "/").invoke false).run
        ⟨[0xFF, 0, 0, 0, 0, 15, 0, 0, 0, 0, 1, 0, 0, 0, 1, 97, 1, 0, 0, 1, 0xED], fun _ => 0, 0⟩).1 =
      .ok [⟨"a", true, 0o755⟩] ∧
    ∃ t resp rest, parseFrame [0xFF, 0, 0, 0, 0, 15, 0, 0, 0, 0, 1, 0, 0, 0, 1, 97, 1, 0, 0, 1, 0xED] =
        .ok ((t, resp), rest) ∧ (fsReadDir "/").RejectsTruncation resp [⟨"a", true, 0o755⟩]) :=
  have hrun : (((fsReadDir "/").invoke false).run
      ⟨[0xFF, 0, 0, 0, 0, 15, 0, 0, 0, 0, 1, 0, 0, 0, 1, 97, 1, 0, 0, 1, 0xED], fun _ => 0, 0⟩).1 =
      .ok [⟨"a", true, 0o755⟩] := by
    rw [Op.invoke_eq]
    rfl
  ⟨⟨_, rfl, decoder_never_reads_past_end.2.2.1 _ [.str "ab", .int 7] _ rfl⟩,
    hrun, decoder_never_reads_past_end.2.2.2 (fsReadDir "/") false _ _ hrun⟩

end CrumbleCracker
