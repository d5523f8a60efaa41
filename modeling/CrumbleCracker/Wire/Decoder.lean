import CrumbleCracker.Wire.Encoder

/-!
# The decoder (`_ipc_protocol.Decoder`, `decode_header`)

A `Decoder` is the buffer and the read position `_pos`.  A decoder method reads at `_pos`,
moves it on, and returns a value or raises; in Python the moves made before a raise stay
made, so a method is a `PyM Decoder` computation and `PyM.run` returns the decoder's
state in both outcomes.

`_check(n)` raises `ValueError("Unexpected end of buffer")` when fewer than `n` bytes are
left; `string` raises `UnicodeDecodeError` on ill-formed UTF-8 and then leaves `_pos` just
past the length prefix.  `decode_header` is `struct.unpack("!HI", data[:6])`.
-/

namespace CrumbleCracker

/-- `Decoder`: `_buf` and `_pos`. -/
structure Decoder where
  buf : Bytes
  pos : Nat
  deriving DecidableEq, Repr

namespace Decoder

/-- `Decoder(buf)`. -/
def new (buf : Bytes) : Decoder := ⟨buf, 0⟩

/-- `remaining`. -/
def remaining (d : Decoder) : Nat := d.buf.length - d.pos

/-- The bytes from `_pos` on. -/
def rest (d : Decoder) : Bytes := d.buf.drop d.pos

/-- `_pos += n`. -/
def advance (d : Decoder) (n : Nat) : Decoder := { d with pos := d.pos + n }

@[simp] theorem advance_buf (d : Decoder) (n : Nat) : (d.advance n).buf = d.buf := rfl

@[simp] theorem advance_pos (d : Decoder) (n : Nat) : (d.advance n).pos = d.pos + n := rfl

theorem advance_advance (d : Decoder) (m n : Nat) : (d.advance m).advance n = d.advance (m + n) := by
  simp [advance, Nat.add_assoc]

@[simp] theorem rest_new (buf : Bytes) : (new buf).rest = buf := rfl

theorem rest_advance (d : Decoder) (n : Nat) : (d.advance n).rest = d.rest.drop n := by
  simp [rest, advance, Nat.add_comm]

end Decoder

/-- A decoder method. -/
abbrev DecodeM := PyM Decoder

namespace Decoder

open PyM

/-- `_check(n)`. -/
def check (n : Nat) : DecodeM Unit := do
  let d ← get
  if d.pos + n > d.buf.length then throw (.valueError "Unexpected end of buffer")

/-- The `n` bytes at `_pos`, then `_pos += n` (`self._buf[self._pos : self._pos + n]`). -/
def take (n : Nat) : DecodeM Bytes := do
  let d ← get
  set (d.advance n)
  return (d.buf.drop d.pos).take n

/-- The shape of `uint8` … `int64`: `_check`, `struct.unpack_from(fmt, buf, pos)`, advance. -/
def unpackField (f : IntFormat) : DecodeM Int := do
  check f.size
  return unpack f (← take f.size)

def uint8 : DecodeM Int := unpackField .B
def uint16 : DecodeM Int := unpackField .H
def uint32 : DecodeM Int := unpackField .I
def uint64 : DecodeM Int := unpackField .Q
def int32 : DecodeM Int := unpackField .i
def int64 : DecodeM Int := unpackField .q

/-- `decode_bool`: `self.uint8() != 0`. -/
def decodeBool : DecodeM Bool := do
  return (← uint8) != 0

/-- The shape of `string` and `read_bytes`: a `!I` length, `_check(length)`, the slice
    `self._buf[self._pos : self._pos + length]` converted by `conv`, and `_pos += length`
    once the conversion has succeeded. -/
def prefixed {α : Type} (conv : Bytes → Except PyExc α) : DecodeM α := do
  let length ← uint32
  check length.toNat
  let d ← get
  match conv ((d.buf.drop d.pos).take length.toNat) with
  | .ok a => do
    set (d.advance length.toNat)
    return a
  | .error e => throw e

/-- `bytes.decode("utf-8")`, raising `UnicodeDecodeError`. -/
def decodeUtf8 (b : Bytes) : Except PyExc String :=
  match Utf8.decode b with
  | some s => .ok s
  | none => .error .unicodeDecodeError

/-- `string`. -/
def string : DecodeM String := prefixed decodeUtf8

/-- `read_bytes`. -/
def readBytes : DecodeM Bytes := prefixed .ok

/-- `[m() for _ in range(n)]`. -/
def times {α : Type} (m : DecodeM α) : Nat → DecodeM (List α)
  | 0 => pure []
  | n + 1 => do
    let a ← m
    let as ← times m n
    return a :: as

/-- `string_slice`. -/
def stringSlice : DecodeM (List String) := do
  let count ← uint32
  times string count.toNat

/-- The dict `file_info` returns. -/
structure FileInfo where
  name : String
  size : Int
  mode : Int
  modTimeUnix : Int
  isDir : Bool
  isSymlink : Bool
  deriving DecidableEq, Repr

/-- The dict `dir_entry` returns. -/
structure DirEntry where
  name : String
  isDir : Bool
  mode : Int
  deriving DecidableEq, Repr

/-- `file_info`: the dict's values are read in the order they are written. -/
def fileInfo : DecodeM FileInfo := do
  let name ← string
  let size ← int64
  let mode ← uint32
  let modTimeUnix ← int64
  let isDir ← decodeBool
  let isSymlink ← decodeBool
  return { name, size, mode, modTimeUnix, isDir, isSymlink }

/-- `dir_entry`. -/
def dirEntry : DecodeM DirEntry := do
  let name ← string
  let isDir ← decodeBool
  let mode ← uint32
  return { name, isDir, mode }

/-- `s or None`. -/
def orNone (s : String) : Option String := if s.isEmpty then none else some s

/-- `error`: `None` for code `0`, else the error the message, operation and path name. -/
def error : DecodeM (Option CCError) := do
  let code ← uint8
  if code == 0 then return none
  let message ← string
  let op ← string
  let path ← string
  return some (errorFromCode code message (orNone op) (orNone path))

/-! ### One lemma per method -/

theorem run_check (n : Nat) (d : Decoder) :
    (check n).run d = (if d.pos + n > d.buf.length then
      .error (.valueError "Unexpected end of buffer") else .ok (), d) := by
  unfold check
  rw [run_bind, run_get]
  dsimp only
  split_ifs <;> rfl

theorem run_take (n : Nat) (d : Decoder) : (take n).run d = (.ok (d.rest.take n), d.advance n) :=
  rfl

theorem length_rest_ge {d : Decoder} {n : Nat} (h : n ≤ d.rest.length) (hn : 0 < n) :
    d.pos + n ≤ d.buf.length := by
  simp only [rest, List.length_drop] at h
  omega

theorem run_unpackField_of_rest {f : IntFormat} {d : Decoder} {bs r : Bytes}
    (h : d.rest = bs ++ r) (hl : bs.length = f.size) :
    (unpackField f).run d = (.ok (unpack f bs), d.advance f.size) := by
  have hle : d.pos + f.size ≤ d.buf.length :=
    length_rest_ge (by rw [h, List.length_append]; omega) (by cases f <;> decide)
  unfold unpackField
  rw [run_bind, run_check, if_neg (by omega)]
  dsimp only
  rw [run_bind, run_take, h, List.take_left' hl]
  rfl

/-- A field method that returns read an in-range value and consumed its bytes. -/
theorem rest_of_run_unpackField {f : IntFormat} {d d' : Decoder} {v : Int}
    (h : (unpackField f).run d = (.ok v, d')) :
    f.Fits v ∧ d.rest = packBits f v ++ d'.rest ∧ d' = d.advance f.size := by
  unfold unpackField at h
  rw [run_bind, run_check] at h
  split_ifs at h with hle
  · cases h
  · dsimp only at h
    rw [run_bind, run_take] at h
    simp only [run_pure, Prod.mk.injEq, Except.ok.injEq] at h
    obtain ⟨rfl, rfl⟩ := h
    have hlen : (d.rest.take f.size).length = f.size := by
      simp only [Decoder.rest, List.length_take, List.length_drop]; omega
    refine ⟨unpack_fits f hlen, ?_, rfl⟩
    rw [packBits_unpack hlen, Decoder.rest_advance, List.take_append_drop]

end Decoder

/-! ### Frame headers -/

/-- `decode_header(data)`: `struct.unpack("!HI", data[:HEADER_SIZE])`. -/
def decodeHeader (data : Bytes) : Except PyExc (Int × Int) :=
  let h := data.take HEADER_SIZE
  if h.length = HEADER_SIZE then .ok (unpack .H (h.take 2), unpack .I (h.drop 2))
  else .error .structError

theorem decodeHeader_of_length {data : Bytes} (h : data.length = HEADER_SIZE) :
    decodeHeader data = .ok (unpack .H (data.take 2), unpack .I (data.drop 2)) := by
  unfold decodeHeader
  rw [List.take_of_length_le (by omega), if_pos h]

/-- **Header round trip.** `decode_header(encode_header(t, n)) == (t, n)` whenever
    `encode_header` accepts `t` and `n`, that is for `t < 2 ^ 16` and `n < 2 ^ 32`. -/
theorem decodeHeader_encodeHeader {t n : Int} {b : Bytes} (h : encodeHeader t n = .ok b)
    (rest : Bytes) : decodeHeader (b ++ rest) = .ok (t, n) := by
  obtain ⟨ht, hn, rfl⟩ := encodeHeader_eq_ok.1 h
  have h2 : (packBits .H t).length = 2 := length_packBits _ _
  have h4 : (packBits .I n).length = 4 := length_packBits _ _
  have h6 : (packBits .H t ++ packBits .I n ++ rest).take HEADER_SIZE =
      packBits .H t ++ packBits .I n := by
    rw [List.take_left']
    simp [h2, h4, HEADER_SIZE]
  unfold decodeHeader
  dsimp only
  rw [h6, if_pos (by simp [h2, h4, HEADER_SIZE]), List.take_left' h2, List.drop_left' h2,
    unpack_packBits ht, unpack_packBits hn]

/-- Any six bytes are the header of what they decode to. -/
theorem encodeHeader_decodeHeader {data : Bytes} (h : data.length = HEADER_SIZE) :
    ∃ t n, decodeHeader data = .ok (t, n) ∧ encodeHeader t n = .ok data := by
  have h2 : (data.take 2).length = IntFormat.H.size := by simp [h, HEADER_SIZE, IntFormat.size]
  have h4 : (data.drop 2).length = IntFormat.I.size := by simp [h, HEADER_SIZE, IntFormat.size]
  refine ⟨unpack .H (data.take 2), unpack .I (data.drop 2), decodeHeader_of_length h, ?_⟩
  rw [encodeHeader_eq_ok]
  exact ⟨unpack_fits _ h2, unpack_fits _ h4, by
    rw [packBits_unpack h2, packBits_unpack h4, List.take_append_drop]⟩

end CrumbleCracker
