import CrumbleCracker.Backend.Ops
import CrumbleCracker.Wire.RoundTrip

/-!
# Error records on both channels (`Decoder.error`, `_check_error`, `IPCClient.call`)

The helper reports a failure as an error record: the code as a `uint8`, then the message,
the operation and the path, each as `Encoder.string` writes it.  The record is either the
whole payload of an `MSG_ERROR` frame, which `IPCClient.call` turns into the exception it
raises, or the start of an `MSG_RESPONSE` payload, which every operation reads first through
`_check_error`.  The code `0` means no error: `_check_error` then reads that byte alone,
and `call` raises its own `CCError` with code `99`.

## Results

* `run_error_errorRecord`: `Decoder.error` reads a record back, whatever follows it, as the
  exception `error_from_code` makes of its fields.
* `clientCall_errorFrame`: an `MSG_ERROR` frame holding a record makes `call` raise it.
* `Op.invoke_errorRecord`: an `MSG_RESPONSE` payload that starts with a record makes every
  operation raise it.
* `run_checkError_zero`, `Op.decode_zero`, `finishCall_zero`: the code `0`.
* `error_records_decode_exactly`: all of these.
-/

namespace CrumbleCracker

open Decoder PyM

/-- `bytes([code]) + enc_string(message) + enc_string(op) + enc_string(path)`. -/
def errorRecord (code : Int) (message op path : String) : Bytes :=
  packBits .B code ++ prefixBytes (Utf8.encode message) ++ prefixBytes (Utf8.encode op) ++
    prefixBytes (Utf8.encode path)

section Record

variable {c : Int} {message op path : String} (hc : 1 ≤ c ∧ c ≤ 255)
  (hm : IntFormat.I.Fits (Utf8.encode message).length)
  (ho : IntFormat.I.Fits (Utf8.encode op).length)
  (hp : IntFormat.I.Fits (Utf8.encode path).length)
include hc hm ho hp

/-- **`error()` reads a record back.** The code, the message, and the operation and path
    (`None` when empty) are those written, whatever follows the record. -/
theorem run_error_errorRecord {d : Decoder} {r : Bytes} (hd : d.rest = errorRecord c message op path ++ r) :
    Decoder.error.run d =
      (.ok (some (errorFromCode c message (orNone op) (orNone path))),
        d.advance (errorRecord c message op path).length) := by
  have hB : IntFormat.B.Fits c := by
    simp only [IntFormat.Fits, IntFormat.lo, IntFormat.hi]
    omega
  simp only [errorRecord, List.append_assoc] at hd
  have h₁ := (reads_unpackField .B).forward hB hd
  have h₂ := reads_string.forward hm (by rw [rest_advance, hd, List.drop_left' rfl])
  have h₃ := reads_string.forward ho
    (by rw [rest_advance, rest_advance, hd, List.drop_left' rfl, List.drop_left' rfl])
  have h₄ := reads_string.forward hp (by
    rw [rest_advance, rest_advance, rest_advance, hd, List.drop_left' rfl, List.drop_left' rfl,
      List.drop_left' rfl])
  unfold Decoder.error Decoder.uint8
  rw [run_bind_ok h₁]
  dsimp only
  rw [if_neg (by simp only [beq_iff_eq]; omega), pure_bind, run_bind_ok h₂, run_bind_ok h₃,
    run_bind_ok h₄, run_pure]
  simp only [advance_advance, errorRecord, List.length_append, Nat.add_assoc]

theorem run_checkError_errorRecord {d : Decoder} {r : Bytes}
    (hd : d.rest = errorRecord c message op path ++ r) :
    checkError.run d =
      (.error (.cc (errorFromCode c message (orNone op) (orNone path))),
        d.advance (errorRecord c message op path).length) := by
  unfold checkError
  rw [run_bind_ok (run_error_errorRecord hc hm ho hp hd)]
  rfl

/-- `call` raises the record of an `MSG_ERROR` payload. -/
theorem finishCall_errorRecord (r : Bytes) :
    finishCall MSG_ERROR (errorRecord c message op path ++ r) =
      .error (.cc (errorFromCode c message (orNone op) (orNone path))) := by
  unfold finishCall
  rw [if_pos rfl, run_error_errorRecord hc hm ho hp (Decoder.rest_new _)]

/-- **The `MSG_ERROR` channel.** When the helper answers with an `MSG_ERROR` frame holding a
    record, `call` raises it. -/
theorem clientCall_errorFrame {msgType : Int} {req h : Bytes}
    (hreq : encodeHeader msgType req.length = .ok h) (F : Frame) (hF : F.type = MSG_ERROR)
    (hP : F.payload = errorRecord c message op path) (s : Sock) (rest : Bytes)
    (hs : s.inbox = F.bytes ++ rest) :
    ((clientCall false msgType req).run s).1 =
      .error (.cc (errorFromCode c message (orNone op) (orNone path))) := by
  obtain ⟨k, -, hr⟩ := readResponse_eq s
  rw [hs, parseFrame_bytes, hF, hP] at hr
  unfold clientCall
  simp only [Bool.false_eq_true, if_false, pure_bind, run_bind, run_ofExcept, hreq, hr,
    afterFrame]
  rw [← List.append_nil (errorRecord c message op path), finishCall_errorRecord hc hm ho hp]

namespace Op

variable {α : Type} (o : Op α)

/-- Every operation raises a record at the start of its response through `_check_error`. -/
theorem decode_errorRecord (tail : Bytes) :
    o.decode (errorRecord c message op path ++ tail) =
      .error (.cc (errorFromCode c message (orNone op) (orNone path))) := by
  unfold decode
  rw [run_bind_error (run_checkError_errorRecord hc hm ho hp (Decoder.rest_new _))]

/-- **The `MSG_RESPONSE` channel.** When the helper answers a method with an `MSG_RESPONSE`
    frame whose payload starts with a record, the method raises it. -/
theorem invoke_errorRecord {enc : Encoder} (he : o.encode Encoder.new = .ok enc) {h : Bytes}
    (hh : encodeHeader o.msgType enc.getBytes.length = .ok h) (F : Frame)
    (hF : F.type = MSG_RESPONSE) (tail : Bytes) (hP : F.payload = errorRecord c message op path ++ tail)
    (s : Sock) (rest : Bytes) (hs : s.inbox = F.bytes ++ rest) :
    ((o.invoke false).run s).1 = .error (.cc (errorFromCode c message (orNone op) (orNone path))) := by
  rw [o.invoke_eq, hs, parseFrame_bytes, hF, hP]
  simp only [outcome, he, hh, except_ok_bind, Bool.false_eq_true, ↓reduceIte, pure_bind]
  rw [finishCall, if_neg (by decide), except_ok_bind]
  exact o.decode_errorRecord hc hm ho hp tail

end Op

end Record

/-! ### The code `0` -/

/-- A status byte `0` passes `_check_error`, which reads that byte alone. -/
theorem run_checkError_zero {d : Decoder} {r : Bytes} (hd : d.rest = 0 :: r) :
    checkError.run d = (.ok (), d.advance 1) := by
  have h₁ := (reads_unpackField .B).forward (a := 0) (by decide) (r := r) (by rw [hd]; rfl)
  unfold checkError Decoder.error Decoder.uint8
  rw [run_bind, run_bind_ok h₁]
  rfl

/-- After a status byte `0` an operation reads its result from the byte after it. -/
theorem Op.decode_zero {α : Type} (o : Op α) (r : Bytes) :
    o.decode (0 :: r) = (o.result.run ⟨0 :: r, 1⟩).1 := by
  unfold Op.decode
  rw [run_bind_ok (run_checkError_zero (Decoder.rest_new _))]
  rfl

/-- An `MSG_ERROR` payload with code `0` makes `call` raise `CCError` with code `99`. -/
theorem finishCall_zero (r : Bytes) :
    finishCall MSG_ERROR (0 :: r) = .error (.cc (CCError.plain "Unknown error from helper" 99)) := by
  have h₁ := (reads_unpackField .B).forward (a := 0) (d := Decoder.new (0 :: r)) (by decide)
    (r := r) rfl
  unfold finishCall
  rw [if_pos rfl]
  unfold Decoder.error Decoder.uint8
  rw [run_bind_ok h₁]
  rfl

/-! ### Both channels -/

/-- **Error records decode exactly on both channels.** For a code `1 ≤ c ≤ 255` and strings
    the encoder accepts, an `MSG_ERROR` frame holding the record makes `call` raise
    `error_from_code(c, message, op or None, path or None)`, and so does every operation whose
    `MSG_RESPONSE` payload starts with the record.  A status byte `0` passes `_check_error`,
    which reads that byte alone; under `MSG_ERROR` it gives `CCError` with code `99`. -/
theorem error_records_decode_exactly (c : Int) (message op path : String) (hc : 1 ≤ c ∧ c ≤ 255)
    (hm : IntFormat.I.Fits (Utf8.encode message).length)
    (ho : IntFormat.I.Fits (Utf8.encode op).length)
    (hp : IntFormat.I.Fits (Utf8.encode path).length) :
    (∀ (msgType : Int) (req h : Bytes) (F : Frame) (s : Sock) (rest : Bytes),
      encodeHeader msgType req.length = .ok h → F.type = MSG_ERROR →
      F.payload = errorRecord c message op path → s.inbox = F.bytes ++ rest →
      ((clientCall false msgType req).run s).1 =
        .error (.cc (errorFromCode c message (orNone op) (orNone path)))) ∧
    (∀ {α : Type} (o : Op α) (tail : Bytes), o.decode (errorRecord c message op path ++ tail) =
      .error (.cc (errorFromCode c message (orNone op) (orNone path)))) ∧
    (∀ {α : Type} (o : Op α) (enc : Encoder) (h : Bytes) (F : Frame) (tail : Bytes) (s : Sock)
      (rest : Bytes), o.encode Encoder.new = .ok enc →
      encodeHeader o.msgType enc.getBytes.length = .ok h → F.type = MSG_RESPONSE →
      F.payload = errorRecord c message op path ++ tail → s.inbox = F.bytes ++ rest →
      ((o.invoke false).run s).1 = .error (.cc (errorFromCode c message (orNone op) (orNone path)))) ∧
    (∀ r : Bytes, checkError.run (Decoder.new (0 :: r)) = (.ok (), ⟨0 :: r, 1⟩)) ∧
    (∀ {α : Type} (o : Op α) (r : Bytes), o.decode (0 :: r) = (o.result.run ⟨0 :: r, 1⟩).1) ∧
    (∀ r : Bytes,
      finishCall MSG_ERROR (0 :: r) = .error (.cc (CCError.plain "Unknown error from helper" 99))) :=
  ⟨fun _ _ _ F s rest hreq hF hP hs => clientCall_errorFrame hc hm ho hp hreq F hF hP s rest hs,
    fun o tail => o.decode_errorRecord hc hm ho hp tail,
    fun o _ _ F tail s rest he hh hF hP hs => o.invoke_errorRecord hc hm ho hp he hh F hF tail hP s rest hs,
    fun _ => run_checkError_zero (Decoder.rest_new _), Op.decode_zero, finishCall_zero⟩

/-- `instance_id` answered with the record of an invalid handle raises `InvalidHandleError`
    with the operation named and no path. -/
theorem error_records_decode_exactly_instanceId :
    instanceId.decode (errorRecord 1 "invalid handle" "instance_id" "") =
      .error (.cc ⟨.InvalidHandleError, "invalid handle", 1, some "instance_id", none⟩) := by
  have h := (error_records_decode_exactly 1 "invalid handle" "instance_id" "" (by decide)
    (by decide) (by decide) (by decide)).2.1 instanceId []
  rw [List.append_nil] at h
  exact h

end CrumbleCracker
