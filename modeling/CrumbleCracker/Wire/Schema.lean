import CrumbleCracker.Wire.RoundTrip

/-!
# Records of fields and the round-trip law

A record is a list of fields, each written by one `Encoder` method and read by the matching
`Decoder` method: the six integer widths, `encode_bool`/`decode_bool`, `string`,
`write_bytes`/`read_bytes` and `string_slice`.  `encodeFields` runs the encoder methods of a
schema over a list of values in order, `decodeFields` runs the decoder methods.

`Fits k v` is the range the encoder accepts: an integer within its format, a string or
byte string of fewer than `2 ^ 32` bytes, a list of fewer than `2 ^ 32` strings.

* `decodeFields_encodeFields`: encoding fitting values and decoding from the result followed
  by any bytes `s` returns the values and leaves exactly `s` unread.
* `encodeFields_of_decodeFields`: if decoding succeeds on `b` after consuming `k` bytes, and
  every byte `decode_bool` read was `0` or `1`, re-encoding the values gives `b[:k]`.
* `mountConfig_eq`, `snapshotOptions_eq`, `dockerfileOptions_eq`, `instanceOptions_eq`: the
  compound encoders are `encodeFields` at a schema fixed by the lengths of their lists.
-/

namespace CrumbleCracker

open Decoder PyM

/-- An `Encoder`/`Decoder` method pair. -/
inductive FieldKind
  /-- `uint8` … `int64`, by `struct` format -/
  | int (f : IntFormat)
  | bool
  | string
  | bytes
  | stringSlice
  deriving DecidableEq, Repr

/-- The Python value of a field. -/
inductive Value
  | int (v : Int)
  | bool (b : Bool)
  | str (s : String)
  | bytes (b : Bytes)
  | strs (ss : List String)
  deriving DecidableEq, Repr

/-- The encoder method of a kind, applied to a value (`TypeError` for a value of the wrong
    type). -/
def encodeField (e : Encoder) : FieldKind → Value → Except PyExc Encoder
  | .int f, .int v => e.packInto f v
  | .bool, .bool b => pure (e.encodeBool b)
  | .string, .str s => e.string s
  | .bytes, .bytes b => e.writeBytes b
  | .stringSlice, .strs ss => e.stringSlice ss
  | _, _ => .error .typeError

/-- The decoder method of a kind. -/
def decodeField : FieldKind → DecodeM Value
  | .int f => .int <$> unpackField f
  | .bool => .bool <$> decodeBool
  | .string => .str <$> Decoder.string
  | .bytes => .bytes <$> readBytes
  | .stringSlice => .strs <$> Decoder.stringSlice

/-- The encoder methods of a schema, in order. -/
def encodeFields (e : Encoder) : List FieldKind → List Value → Except PyExc Encoder
  | [], [] => pure e
  | k :: ks, v :: vs => do
    let e ← encodeField e k v
    encodeFields e ks vs
  | _, _ => .error .typeError

/-- The decoder methods of a schema, in order. -/
def decodeFields : List FieldKind → DecodeM (List Value)
  | [] => pure []
  | k :: ks => do
    let v ← decodeField k
    let vs ← decodeFields ks
    return v :: vs

/-- The bytes a field's value is written as. -/
def fieldBytes : FieldKind → Value → Bytes
  | .int f, .int v => packBits f v
  | .bool, .bool b => boolBytes b
  | .string, .str s => prefixBytes (Utf8.encode s)
  | .bytes, .bytes b => prefixBytes b
  | .stringSlice, .strs ss => stringsBytes ss
  | _, _ => []

/-- The bytes a record is written as. -/
def fieldsBytes (ks : List FieldKind) (vs : List Value) : Bytes :=
  (List.zipWith fieldBytes ks vs).flatten

/-- The value is of the kind's type and within the range its encoder accepts. -/
def Fits : FieldKind → Value → Prop
  | .int f, .int v => f.Fits v
  | .bool, .bool _ => True
  | .string, .str s => IntFormat.I.Fits (Utf8.encode s).length
  | .bytes, .bytes b => IntFormat.I.Fits b.length
  | .stringSlice, .strs ss =>
    IntFormat.I.Fits ss.length ∧ ∀ s ∈ ss, IntFormat.I.Fits (Utf8.encode s).length
  | _, _ => False

/-- The byte `decode_bool` would read first, if the kind is `bool`, is `0` or `1`. -/
def CanonicalAt (k : FieldKind) (d : Decoder) : Prop := k = .bool → BoolByteCanonical d

/-- Every byte a `decode_bool` of `decodeFields ks` reads, starting from `d`, is `0` or `1`. -/
def BoolsCanonical : List FieldKind → Decoder → Prop
  | [], _ => True
  | k :: ks, d => CanonicalAt k d ∧
      ∀ v d', (decodeField k).run d = (.ok v, d') → BoolsCanonical ks d'

@[simp] theorem fieldsBytes_nil : fieldsBytes [] [] = [] := rfl

@[simp] theorem fieldsBytes_cons (k : FieldKind) (ks : List FieldKind) (v : Value)
    (vs : List Value) : fieldsBytes (k :: ks) (v :: vs) = fieldBytes k v ++ fieldsBytes ks vs :=
  rfl

/-! ### Encoding -/

theorem stringSlice_foldlM (e : Encoder) (ss : List String)
    (h : ∀ s ∈ ss, IntFormat.I.Fits (Utf8.encode s).length) :
    ∃ e', ss.foldlM (fun e s => e.string s) e = .ok e' ∧
      e'.getBytes = e.getBytes ++ ss.flatMap fun s => prefixBytes (Utf8.encode s) := by
  induction ss generalizing e with
  | nil => exact ⟨e, rfl, by simp⟩
  | cons s ss ih =>
    obtain ⟨e', he', hb⟩ := ih ((e.push (packBits .I (Utf8.encode s).length)).push
      (Utf8.encode s)) fun t ht => h t (List.mem_cons_of_mem _ ht)
    refine ⟨e', ?_, ?_⟩
    · rw [List.foldlM_cons, show e.string s = .ok _ from
        Encoder.putPrefixed_eq_ok.2 ⟨h s (List.mem_cons_self _ _), rfl⟩]
      exact he'
    · rw [hb]; simp [prefixBytes]

/-- A fitting value is written as its `fieldBytes`. -/
theorem encodeField_of_fits {k : FieldKind} {v : Value} (e : Encoder) (h : Fits k v) :
    ∃ e', encodeField e k v = .ok e' ∧ e'.getBytes = e.getBytes ++ fieldBytes k v := by
  cases k <;> cases v <;> simp only [Fits] at h
  case int.int f v => exact ⟨_, Encoder.packInto_eq_ok.2 ⟨h, rfl⟩, by simp [fieldBytes]⟩
  case bool.bool b => exact ⟨_, rfl, by cases b <;> simp [fieldBytes, boolBytes, Encoder.encodeBool]⟩
  case string.str s => exact ⟨_, Encoder.putPrefixed_eq_ok.2 ⟨h, rfl⟩, by simp [fieldBytes, prefixBytes]⟩
  case bytes.bytes b => exact ⟨_, Encoder.putPrefixed_eq_ok.2 ⟨h, rfl⟩, by simp [fieldBytes, prefixBytes]⟩
  case stringSlice.strs ss =>
    obtain ⟨e', he', hb⟩ := stringSlice_foldlM (e.push (packBits .I ss.length)) ss h.2
    refine ⟨e', ?_, ?_⟩
    · simp only [encodeField, Encoder.stringSlice, Encoder.uint32]
      rw [show e.packInto .I ss.length = .ok _ from Encoder.packInto_eq_ok.2 ⟨h.1, rfl⟩]
      exact he'
    · rw [hb]; simp [fieldBytes, stringsBytes]

/-- Fitting values are written as their `fieldsBytes`. -/
theorem encodeFields_of_fits {ks : List FieldKind} {vs : List Value} (e : Encoder)
    (h : List.Forall₂ Fits ks vs) :
    ∃ e', encodeFields e ks vs = .ok e' ∧ e'.getBytes = e.getBytes ++ fieldsBytes ks vs := by
  induction h generalizing e with
  | nil => exact ⟨e, rfl, by simp⟩
  | cons hkv _ ih =>
    obtain ⟨e₁, he₁, hb₁⟩ := encodeField_of_fits e hkv
    obtain ⟨e₂, he₂, hb₂⟩ := ih e₁
    exact ⟨e₂, by simp only [encodeFields, he₁, bind, Except.bind, he₂], by simp [hb₂, hb₁]⟩

/-- Every string a `string` loop wrote fits its length prefix. -/
theorem foldlM_string_fits {ss : List String} {e e' : Encoder}
    (h : ss.foldlM (fun e s => e.string s) e = .ok e') :
    ∀ s ∈ ss, IntFormat.I.Fits (Utf8.encode s).length := by
  induction ss generalizing e with
  | nil => simp
  | cons s ss ih =>
    rw [List.foldlM_cons] at h
    rcases hs : e.string s with _ | e₁ <;> rw [hs] at h
    · cases h
    · intro t ht
      rcases List.mem_cons.1 ht with rfl | ht
      · exact (Encoder.putPrefixed_eq_ok.1 hs).1
      · exact ih h t ht

/-- A value the encoder method accepted fits its kind. -/
theorem fits_of_encodeField {e e' : Encoder} {k : FieldKind} {v : Value}
    (h : encodeField e k v = .ok e') : Fits k v := by
  cases k <;> cases v <;> simp only [encodeField, reduceCtorEq] at h
  case int.int f v => exact (Encoder.packInto_eq_ok.1 h).1
  case bool.bool => trivial
  case string.str s => exact (Encoder.putPrefixed_eq_ok.1 h).1
  case bytes.bytes b => exact (Encoder.putPrefixed_eq_ok.1 h).1
  case stringSlice.strs ss =>
    simp only [Encoder.stringSlice] at h
    rcases hl : e.uint32 ss.length with _ | e₁ <;> rw [hl] at h
    · cases h
    · exact ⟨(Encoder.packInto_eq_ok.1 hl).1, foldlM_string_fits h⟩

/-- Values the encoder methods accepted fit the schema. -/
theorem fits_of_encodeFields {e e' : Encoder} {ks : List FieldKind} {vs : List Value}
    (h : encodeFields e ks vs = .ok e') : List.Forall₂ Fits ks vs := by
  induction ks generalizing vs e with
  | nil => cases vs <;> first | exact .nil | cases h
  | cons k ks ih =>
    cases vs with
    | nil => cases h
    | cons v vs =>
      simp only [encodeFields] at h
      rcases hv : encodeField e k v with _ | e₁ <;> rw [hv] at h
      · cases h
      · exact .cons (fits_of_encodeField hv) (ih h)

/-- What the encoder methods of a schema append is the record's `fieldsBytes`. -/
theorem getBytes_of_encodeFields {e e' : Encoder} {ks : List FieldKind} {vs : List Value}
    (h : encodeFields e ks vs = .ok e') : e'.getBytes = e.getBytes ++ fieldsBytes ks vs := by
  obtain ⟨e'', he, hb⟩ := encodeFields_of_fits e (fits_of_encodeFields h)
  rw [h] at he
  cases he
  exact hb

/-! ### Decoding -/

/-- A decoder method wrapped into a `Value` constructor reads the kind's field bytes. -/
theorem Decoder.Reads.value {β : Type} {m : DecodeM β} {enc : β → Bytes} {ok : β → Prop}
    {canon : Decoder → Prop} (hm : Reads m enc ok canon) (g : β → Value) (k : FieldKind)
    (hf : ∀ v, Fits k v → ∃ a, ok a ∧ v = g a) (he : ∀ a, fieldBytes k (g a) = enc a)
    (ho : ∀ a, ok a → Fits k (g a)) : Reads (g <$> m) (fieldBytes k) (Fits k) canon where
  forward hv hr := by
    obtain ⟨a, ha, rfl⟩ := hf _ hv
    rw [he] at hr ⊢
    rw [run_map, hm.forward ha hr]
    rfl
  backward hc h := by
    rw [run_map] at h
    rcases hr : m.run _ with ⟨_ | a, d₁⟩ <;> rw [hr] at h <;> simp only [Prod.mk.injEq] at h
    · cases h.1
    · obtain ⟨h1, rfl⟩ := h
      cases h1
      obtain ⟨ha, hrest, rfl⟩ := hm.backward hc hr
      exact ⟨ho a ha, by rw [he]; exact hrest, by rw [he]⟩

theorem reads_decodeField (k : FieldKind) :
    Reads (decodeField k) (fieldBytes k) (Fits k) (CanonicalAt k) := by
  cases k with
  | int f =>
    refine ((reads_unpackField f).value .int (.int f) ?_ (fun _ => rfl) (fun _ h => h)).mono
      fun _ _ => trivial
    rintro (_ | _ | _ | _ | _) h <;> simp only [Fits] at h
    exact ⟨_, h, rfl⟩
  | bool =>
    refine (reads_decodeBool.value .bool .bool ?_ (fun _ => rfl) (fun _ _ => trivial)).mono
      fun _ h => h rfl
    rintro (_ | _ | _ | _ | _) h <;> simp only [Fits] at h
    exact ⟨_, trivial, rfl⟩
  | string =>
    refine (reads_string.value .str .string ?_ (fun _ => rfl) (fun _ h => h)).mono
      fun _ _ => trivial
    rintro (_ | _ | _ | _ | _) h <;> simp only [Fits] at h
    exact ⟨_, h, rfl⟩
  | bytes =>
    refine (reads_readBytes.value .bytes .bytes ?_ (fun _ => rfl) (fun _ h => h)).mono
      fun _ _ => trivial
    rintro (_ | _ | _ | _ | _) h <;> simp only [Fits] at h
    exact ⟨_, h, rfl⟩
  | stringSlice =>
    refine (reads_stringSlice.value .strs .stringSlice ?_ (fun _ => rfl) (fun _ h => h)).mono
      fun _ _ => trivial
    rintro (_ | _ | _ | _ | _) h <;> simp only [Fits] at h
    exact ⟨_, h, rfl⟩

theorem decodeFields_forward {ks : List FieldKind} {vs : List Value} {d : Decoder} {r : Bytes}
    (h : List.Forall₂ Fits ks vs) (hr : d.rest = fieldsBytes ks vs ++ r) :
    (decodeFields ks).run d = (.ok vs, d.advance (fieldsBytes ks vs).length) := by
  induction h generalizing d with
  | nil => rfl
  | @cons k v ks vs hkv _ ih =>
    rw [fieldsBytes_cons, List.append_assoc] at hr
    have h1 := (reads_decodeField k).forward hkv hr
    have h2 := ih (d := d.advance (fieldBytes k v).length)
      (by rw [Decoder.rest_advance, hr, List.drop_left' rfl])
    simp only [decodeFields]
    rw [run_bind_ok h1, run_bind_ok h2, run_pure, Decoder.advance_advance, fieldsBytes_cons,
      List.length_append]

theorem decodeFields_backward {ks : List FieldKind} {vs : List Value} {d d' : Decoder}
    (hc : BoolsCanonical ks d) (h : (decodeFields ks).run d = (.ok vs, d')) :
    List.Forall₂ Fits ks vs ∧ d.rest = fieldsBytes ks vs ++ d'.rest ∧
      d' = d.advance (fieldsBytes ks vs).length := by
  induction ks generalizing d vs with
  | nil =>
    cases h
    exact ⟨.nil, rfl, by simp [Decoder.advance]⟩
  | cons k ks ih =>
    simp only [decodeFields] at h
    rw [run_bind] at h
    rcases h1 : (decodeField k).run d with ⟨_ | v, d₁⟩ <;> rw [h1] at h
    · cases h
    dsimp only at h
    rw [run_bind] at h
    rcases h2 : (decodeFields ks).run d₁ with ⟨_ | vs', d₂⟩ <;> rw [h2] at h
    · cases h
    simp only [run_pure, Prod.mk.injEq, Except.ok.injEq] at h
    obtain ⟨rfl, rfl⟩ := h
    obtain ⟨hv, hr₁, rfl⟩ := (reads_decodeField k).backward hc.1 h1
    obtain ⟨hvs, hr₂, rfl⟩ := ih (hc.2 _ _ h1) h2
    exact ⟨.cons hv hvs, by rw [hr₁, hr₂, fieldsBytes_cons, List.append_assoc],
      by rw [Decoder.advance_advance, fieldsBytes_cons, List.length_append]⟩

/-- **Records are read back from any prefix.** Two fitting records whose encodings begin
    the same bytes are the same record. -/
theorem eq_of_fieldsBytes_append {ks : List FieldKind} {vs vs' : List Value} {r r' : Bytes}
    (h : List.Forall₂ Fits ks vs) (h' : List.Forall₂ Fits ks vs')
    (he : fieldsBytes ks vs ++ r = fieldsBytes ks vs' ++ r') : vs = vs' := by
  have h₁ := decodeFields_forward h (d := Decoder.new (fieldsBytes ks vs ++ r)) rfl
  have h₂ := decodeFields_forward h' (d := Decoder.new (fieldsBytes ks vs ++ r)) he
  rw [h₁] at h₂
  exact Except.ok.inj (Prod.mk.inj h₂).1

/-! ### The law -/

/-- **Decoding inverts encoding, whatever follows.** -/
theorem decodeFields_encodeFields {ks : List FieldKind} {vs : List Value}
    (h : List.Forall₂ Fits ks vs) :
    ∃ e, encodeFields Encoder.new ks vs = .ok e ∧ ∀ s : Bytes, ∃ d',
      (decodeFields ks).run (Decoder.new (e.getBytes ++ s)) = (.ok vs, d') ∧
      d'.remaining = s.length := by
  obtain ⟨e, he, hb⟩ := encodeFields_of_fits Encoder.new h
  simp only [Encoder.getBytes_new, List.nil_append] at hb
  refine ⟨e, he, fun s => ⟨_, decodeFields_forward h (by rw [hb]; rfl), ?_⟩⟩
  simp [Decoder.remaining, Decoder.new, hb]

/-- **Anything decoding accepts with canonical booleans is the encoding of its values.** -/
theorem encodeFields_of_decodeFields {ks : List FieldKind} {vs : List Value} {b : Bytes}
    {d' : Decoder} (h : (decodeFields ks).run (Decoder.new b) = (.ok vs, d'))
    (hc : BoolsCanonical ks (Decoder.new b)) :
    ∃ e, encodeFields Encoder.new ks vs = .ok e ∧ e.getBytes = b.take d'.pos := by
  obtain ⟨hf, hr, rfl⟩ := decodeFields_backward hc h
  obtain ⟨e, he, hb⟩ := encodeFields_of_fits Encoder.new hf
  refine ⟨e, he, ?_⟩
  simp only [Encoder.getBytes_new, List.nil_append] at hb
  simp only [Decoder.rest_new] at hr
  rw [hb, Decoder.advance_pos, Decoder.new, Nat.zero_add, hr, List.take_left' rfl]

/-! ### The compound encoders as schemas -/

theorem encodeFields_append {ks : List FieldKind} {vs : List Value} (ks' : List FieldKind)
    (vs' : List Value) (e : Encoder) (h : ks.length = vs.length) :
    encodeFields e (ks ++ ks') (vs ++ vs') = encodeFields e ks vs >>= fun e => encodeFields e ks' vs' := by
  induction ks generalizing vs e with
  | nil => cases vs <;> simp_all; rfl
  | cons k ks ih =>
    cases vs with
    | nil => simp at h
    | cons v vs =>
      simp only [List.cons_append, encodeFields]
      cases encodeField e k v
      · rfl
      · exact ih _ (Nat.succ.inj h)

/-- A loop of `foldlM` writing one record per element is the schema repeated. -/
theorem foldlM_encodeFields {α : Type} (ks : List FieldKind) (f : α → List Value)
    (hf : ∀ x, (f x).length = ks.length) (l : List α) (e : Encoder) :
    l.foldlM (fun e x => encodeFields e ks (f x)) e =
      encodeFields e (List.replicate l.length ks).flatten (l.flatMap f) := by
  induction l generalizing e with
  | nil => rfl
  | cons x l ih =>
    rw [List.foldlM_cons, List.length_cons, List.replicate_succ, List.flatten_cons,
      List.flatMap_cons, encodeFields_append _ _ _ (hf x).symm]
    simp only [ih]

/-- `mount_config`: tag, host path, writable. -/
def mountSchema : List FieldKind := [.string, .string, .bool]

def mountValues : String × String × Bool → List Value
  | (tag, hostPath, writable) => [.str tag, .str hostPath, .bool writable]

theorem mountConfig_eq (e : Encoder) (tag hostPath : String) (writable : Bool) :
    e.mountConfig tag hostPath writable = encodeFields e mountSchema (mountValues (tag, hostPath, writable)) := by
  simp only [Encoder.mountConfig, encodeFields, encodeField, mountValues, mountSchema]
  rfl

/-- `snapshot_options`: excludes, cache directory. -/
def snapshotOptionsSchema : List FieldKind := [.stringSlice, .string]

theorem snapshotOptions_eq (e : Encoder) (excludes : List String) (cacheDir : String) :
    e.snapshotOptions excludes cacheDir =
      encodeFields e snapshotOptionsSchema [.strs excludes, .str cacheDir] := by
  simp only [Encoder.snapshotOptions, snapshotOptionsSchema, encodeFields, encodeField, bind_pure]

/-- A build argument of `dockerfile_options`: key, value. -/
def buildArgSchema : List FieldKind := [.string, .string]

def buildArgValues : String × String → List Value
  | (k, v) => [.str k, .str v]

/-- `dockerfile_options` with `m` build arguments. -/
def dockerfileOptionsSchema (m : Nat) : List FieldKind :=
  [.bytes, .string, .string, .int .I] ++ (List.replicate m buildArgSchema).flatten

def dockerfileOptionsValues (dockerfile : Bytes) (contextDir cacheDir : String)
    (buildArgs : StrDict) : List Value :=
  [.bytes dockerfile, .str contextDir, .str cacheDir, .int buildArgs.items.length] ++
    buildArgs.items.flatMap buildArgValues

theorem dockerfileOptions_eq (e : Encoder) (dockerfile : Bytes) (contextDir cacheDir : String)
    (buildArgs : StrDict) :
    e.dockerfileOptions dockerfile contextDir cacheDir buildArgs =
      encodeFields e (dockerfileOptionsSchema buildArgs.items.length)
        (dockerfileOptionsValues dockerfile contextDir cacheDir buildArgs) := by
  have hloop : (fun e x => encodeFields e buildArgSchema (buildArgValues x)) =
      fun (e : Encoder) (x : String × String) => e.string x.1 >>= fun e => e.string x.2 := by
    funext e ⟨k, v⟩
    simp only [buildArgSchema, buildArgValues, encodeFields, encodeField, bind_pure]
  rw [dockerfileOptionsSchema, dockerfileOptionsValues, encodeFields_append _ _ _ rfl]
  simp only [← foldlM_encodeFields buildArgSchema buildArgValues (fun _ => rfl), hloop]
  simp only [Encoder.dockerfileOptions, Encoder.uint32, encodeFields, encodeField, bind_assoc,
    pure_bind]

/-- `instance_options` with `m` mounts. -/
def instanceOptionsSchema (m : Nat) : List FieldKind :=
  [.int .Q, .int .i, .int .Q, .string, .bool, .int .I] ++ (List.replicate m mountSchema).flatten

def instanceOptionsValues (nanos : Float → Int) (memoryMb cpus : Int) (timeoutSeconds : Float)
    (user : String) (enableDmesg : Bool) (mounts : List (String × String × Bool)) : List Value :=
  [.int memoryMb, .int cpus, .int (nanos timeoutSeconds), .str user, .bool enableDmesg,
    .int mounts.length] ++ mounts.flatMap mountValues

theorem instanceOptions_eq (nanos : Float → Int) (e : Encoder) (memoryMb cpus : Int)
    (timeoutSeconds : Float) (user : String) (enableDmesg : Bool)
    (mounts : List (String × String × Bool)) :
    e.instanceOptions nanos memoryMb cpus timeoutSeconds user enableDmesg mounts =
      encodeFields e (instanceOptionsSchema mounts.length)
        (instanceOptionsValues nanos memoryMb cpus timeoutSeconds user enableDmesg mounts) := by
  have hloop : (fun e x => encodeFields e mountSchema (mountValues x)) =
      fun (e : Encoder) (x : String × String × Bool) => e.mountConfig x.1 x.2.1 x.2.2 := by
    funext e ⟨tag, hostPath, writable⟩
    exact (mountConfig_eq e tag hostPath writable).symm
  rw [instanceOptionsSchema, instanceOptionsValues, encodeFields_append _ _ _ rfl]
  simp only [← foldlM_encodeFields mountSchema mountValues (fun _ => rfl), hloop]
  simp only [Encoder.instanceOptions, Encoder.uint64, Encoder.int32, Encoder.uint32, encodeFields,
    encodeField, bind_assoc, pure_bind]

/-! ### The codec law -/

/-- Over every schema the decoder inverts the encoder, whatever bytes follow; the decoder
    accepts only encodings, once its booleans are `0` or `1`; and the four compound encoders
    are schemas. -/
theorem encoder_decoder_inverse :
    (∀ (ks : List FieldKind) (vs : List Value), List.Forall₂ Fits ks vs →
      ∃ e, encodeFields Encoder.new ks vs = .ok e ∧ ∀ s : Bytes, ∃ d',
        (decodeFields ks).run (Decoder.new (e.getBytes ++ s)) = (.ok vs, d') ∧
        d'.remaining = s.length) ∧
    (∀ (ks : List FieldKind) (vs : List Value) (b : Bytes) (d' : Decoder),
      (decodeFields ks).run (Decoder.new b) = (.ok vs, d') → BoolsCanonical ks (Decoder.new b) →
      ∃ e, encodeFields Encoder.new ks vs = .ok e ∧ e.getBytes = b.take d'.pos) ∧
    (∀ e tag hostPath writable, e.mountConfig tag hostPath writable =
      encodeFields e mountSchema (mountValues (tag, hostPath, writable))) ∧
    (∀ e excludes cacheDir, e.snapshotOptions excludes cacheDir =
      encodeFields e snapshotOptionsSchema [.strs excludes, .str cacheDir]) ∧
    (∀ e dockerfile contextDir cacheDir buildArgs,
      e.dockerfileOptions dockerfile contextDir cacheDir buildArgs =
        encodeFields e (dockerfileOptionsSchema buildArgs.items.length)
          (dockerfileOptionsValues dockerfile contextDir cacheDir buildArgs)) ∧
    (∀ nanos e memoryMb cpus timeoutSeconds user enableDmesg mounts,
      e.instanceOptions nanos memoryMb cpus timeoutSeconds user enableDmesg mounts =
        encodeFields e (instanceOptionsSchema mounts.length)
          (instanceOptionsValues nanos memoryMb cpus timeoutSeconds user enableDmesg mounts)) :=
  ⟨fun _ _ => decodeFields_encodeFields, fun _ _ _ _ => encodeFields_of_decodeFields,
    mountConfig_eq, snapshotOptions_eq, dockerfileOptions_eq, instanceOptions_eq⟩

theorem encoder_decoder_inverse_bool :
    (∃ e, encodeFields Encoder.new [.bool] [.bool true] = .ok e ∧ ∀ s : Bytes, ∃ d',
      (decodeFields [.bool]).run (Decoder.new (e.getBytes ++ s)) = (.ok [.bool true], d') ∧
      d'.remaining = s.length) ∧
    (∃ e, encodeFields Encoder.new [.bool] [.bool true] = .ok e ∧ e.getBytes = [1]) :=
  ⟨encoder_decoder_inverse.1 _ _ (.cons trivial .nil),
    encoder_decoder_inverse.2.1 [.bool] [.bool true] [1] ⟨[1], 1⟩ rfl
      ⟨fun _ x hx => by cases hx; decide, fun _ _ _ => trivial⟩⟩

end CrumbleCracker
