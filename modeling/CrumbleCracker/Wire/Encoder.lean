import CrumbleCracker.Errors
import CrumbleCracker.Wire.Utf8

/-!
# The encoder (`_ipc_protocol.Encoder`, `encode_header`)

An `Encoder` holds `_parts`, the byte strings appended so far; `get_bytes` joins them.
Every method appends one or two parts and returns the encoder; a method raises where
`struct.pack` raises (`struct.error` for an integer out of its format's range, which is
also how a string or byte string of `2 ^ 32` bytes or more fails), so methods return
`Except PyExc Encoder`.  `encode_bool` cannot fail.

The six integer methods are one definition, `packInto`, at six formats.  The compound
encoders are written as the source writes them, as sequences of the primitive methods;
`Wire/Schema.lean` shows each is an instance of a field schema.

`instance_options` converts `timeout_seconds` with `int(timeout_seconds * 1e9)`, a
floating-point computation; it is left abstract as the parameter `nanos`.
-/

namespace CrumbleCracker

/-- `struct.pack("!<f>", v)`. -/
def pack (f : IntFormat) (v : Int) : Except PyExc Bytes :=
  if f.Fits v then .ok (packBits f v) else .error .structError

theorem pack_of_fits {f : IntFormat} {v : Int} (h : f.Fits v) : pack f v = .ok (packBits f v) :=
  if_pos h

theorem fits_of_pack {f : IntFormat} {v : Int} {b : Bytes} (h : pack f v = .ok b) :
    f.Fits v ∧ b = packBits f v := by
  unfold pack at h
  split_ifs at h with hf
  · exact ⟨hf, (Except.ok.inj h).symm⟩

/-- A string-keyed `dict[str, str]`: its items in insertion order, keys distinct. -/
structure StrDict where
  items : List (String × String)
  nodup : (items.map Prod.fst).Nodup

/-- `Encoder`: `_parts`. -/
structure Encoder where
  parts : List Bytes

namespace Encoder

/-- `Encoder()`. -/
def new : Encoder := ⟨[]⟩

/-- `get_bytes`: `b"".join(self._parts)`. -/
def getBytes (e : Encoder) : Bytes := e.parts.flatten

/-- `self._parts.append(b)`. -/
def push (e : Encoder) (b : Bytes) : Encoder := ⟨e.parts ++ [b]⟩

@[simp] theorem getBytes_new : new.getBytes = [] := rfl

@[simp] theorem getBytes_push (e : Encoder) (b : Bytes) : (e.push b).getBytes = e.getBytes ++ b := by
  simp [getBytes, push]

/-- The shape of `uint8` … `int64`: `self._parts.append(struct.pack(fmt, v))`. -/
def packInto (f : IntFormat) (e : Encoder) (v : Int) : Except PyExc Encoder := do
  return e.push (← pack f v)

def uint8 (e : Encoder) (v : Int) : Except PyExc Encoder := e.packInto .B v
def uint16 (e : Encoder) (v : Int) : Except PyExc Encoder := e.packInto .H v
def uint32 (e : Encoder) (v : Int) : Except PyExc Encoder := e.packInto .I v
def uint64 (e : Encoder) (v : Int) : Except PyExc Encoder := e.packInto .Q v
def int32 (e : Encoder) (v : Int) : Except PyExc Encoder := e.packInto .i v
def int64 (e : Encoder) (v : Int) : Except PyExc Encoder := e.packInto .q v

/-- `encode_bool`: one byte, `0x01` or `0x00`. -/
def encodeBool (e : Encoder) (v : Bool) : Encoder := e.push (if v then [1] else [0])

/-- The shape of `string` and `write_bytes`: the length as `!I`, then the bytes. -/
def putPrefixed (e : Encoder) (data : Bytes) : Except PyExc Encoder := do
  return (e.push (← pack .I data.length)).push data

/-- `string`: `data = s.encode("utf-8")`, length-prefixed. -/
def string (e : Encoder) (s : String) : Except PyExc Encoder := e.putPrefixed (Utf8.encode s)

/-- `write_bytes`. -/
def writeBytes (e : Encoder) (b : Bytes) : Except PyExc Encoder := e.putPrefixed b

/-- `string_slice`: the count as `!I`, then each string. -/
def stringSlice (e : Encoder) (ss : List String) : Except PyExc Encoder := do
  let e ← e.uint32 ss.length
  ss.foldlM (fun e s => e.string s) e

/-- `mount_config`. -/
def mountConfig (e : Encoder) (tag hostPath : String) (writable : Bool) :
    Except PyExc Encoder := do
  let e ← e.string tag
  let e ← e.string hostPath
  return e.encodeBool writable

/-- `instance_options`, with `int(timeout_seconds * 1e9)` given by `nanos`. -/
def instanceOptions (nanos : Float → Int) (e : Encoder) (memoryMb cpus : Int)
    (timeoutSeconds : Float) (user : String) (enableDmesg : Bool)
    (mounts : List (String × String × Bool)) : Except PyExc Encoder := do
  let e ← e.uint64 memoryMb
  let e ← e.int32 cpus
  let e ← e.uint64 (nanos timeoutSeconds)
  let e ← e.string user
  let e := e.encodeBool enableDmesg
  let e ← e.uint32 mounts.length
  mounts.foldlM (fun e (tag, hostPath, writable) => e.mountConfig tag hostPath writable) e

/-- `snapshot_options`. -/
def snapshotOptions (e : Encoder) (excludes : List String) (cacheDir : String) :
    Except PyExc Encoder := do
  let e ← e.stringSlice excludes
  e.string cacheDir

/-- `dockerfile_options`: the build arguments in the dict's insertion order. -/
def dockerfileOptions (e : Encoder) (dockerfile : Bytes) (contextDir cacheDir : String)
    (buildArgs : StrDict) : Except PyExc Encoder := do
  let e ← e.writeBytes dockerfile
  let e ← e.string contextDir
  let e ← e.string cacheDir
  let e ← e.uint32 buildArgs.items.length
  buildArgs.items.foldlM (fun e (k, v) => do
    let e ← e.string k
    e.string v) e

/-! ### One lemma per primitive -/

theorem packInto_eq_ok {f : IntFormat} {e e' : Encoder} {v : Int} :
    e.packInto f v = .ok e' ↔ f.Fits v ∧ e' = e.push (packBits f v) := by
  unfold packInto pack
  split_ifs with h <;> simp [h, bind, Except.bind, pure, Except.pure, eq_comm]

theorem putPrefixed_eq_ok {e e' : Encoder} {data : Bytes} :
    e.putPrefixed data = .ok e' ↔ IntFormat.I.Fits data.length ∧
      e' = (e.push (packBits .I data.length)).push data := by
  unfold putPrefixed pack
  split_ifs with h <;> simp [h, bind, Except.bind, pure, Except.pure, eq_comm]

end Encoder

/-! ### Frame headers -/

/-- `HEADER_SIZE`. -/
def HEADER_SIZE : Nat := 6

/-- `MSG_RESPONSE`. -/
def MSG_RESPONSE : Int := 0xFF00

/-- `MSG_ERROR`. -/
def MSG_ERROR : Int := 0xFF01

/-- `encode_header(msg_type, payload_len)`: `struct.pack("!HI", msg_type, payload_len)`. -/
def encodeHeader (msgType payloadLen : Int) : Except PyExc Bytes := do
  let t ← pack .H msgType
  let n ← pack .I payloadLen
  return t ++ n

theorem encodeHeader_eq_ok {t n : Int} {b : Bytes} :
    encodeHeader t n = .ok b ↔ IntFormat.H.Fits t ∧ IntFormat.I.Fits n ∧
      b = packBits .H t ++ packBits .I n := by
  unfold encodeHeader pack
  by_cases h1 : IntFormat.H.Fits t <;> by_cases h2 : IntFormat.I.Fits n <;>
    simp [h1, h2, bind, Except.bind, pure, Except.pure, eq_comm]

theorem length_of_encodeHeader {t n : Int} {b : Bytes} (h : encodeHeader t n = .ok b) :
    b.length = HEADER_SIZE := by
  obtain ⟨-, -, rfl⟩ := encodeHeader_eq_ok.1 h
  simp [length_packBits, IntFormat.size, HEADER_SIZE]

end CrumbleCracker
