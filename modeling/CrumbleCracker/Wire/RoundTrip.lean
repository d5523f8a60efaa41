import CrumbleCracker.Wire.Decoder

/-!
# Round trips, one decoder method at a time

`Reads m enc ok canon` says that the decoder method `m` reads back exactly the encodings
`enc a` of the values `a` with `ok a`.  It has two halves.  Forward: from any decoder whose
unread bytes start with `enc a`, `m` returns `a` and moves `_pos` past those bytes.
Backward: whenever `m` returns from a decoder satisfying `canon`, the value is `ok` and the
bytes it moved past are its encoding.  `canon` is `True` for every method except
`decode_bool`, which maps every nonzero byte to `True`, so that only the bytes `0` and `1`
are encodings.

Each primitive method gets its `Reads` instance here, and so do the loops
`[m() for _ in range(n)]` built from them; `Wire/Schema.lean` chains them into records.
-/

namespace CrumbleCracker.Decoder

open PyM

variable {α : Type}

/-- `m` reads back exactly the encodings `enc a` of the values `a` with `ok a`. -/
structure Reads (m : DecodeM α) (enc : α → Bytes) (ok : α → Prop) (canon : Decoder → Prop) :
    Prop where
  forward : ∀ {a d r}, ok a → d.rest = enc a ++ r → m.run d = (.ok a, d.advance (enc a).length)
  backward : ∀ {a d d'}, canon d → m.run d = (.ok a, d') →
    ok a ∧ d.rest = enc a ++ d'.rest ∧ d' = d.advance (enc a).length

/-- A stronger precondition for the backward half. -/
theorem Reads.mono {m : DecodeM α} {enc : α → Bytes} {ok : α → Prop} {canon canon' : Decoder → Prop}
    (h : Reads m enc ok canon) (hc : ∀ d, canon' d → canon d) : Reads m enc ok canon' :=
  ⟨h.forward, fun hd hm => h.backward (hc _ hd) hm⟩

/-! ### Integer fields -/

theorem reads_unpackField (f : IntFormat) :
    Reads (unpackField f) (packBits f) f.Fits (fun _ => True) where
  forward hv hr := by
    rw [run_unpackField_of_rest hr (length_packBits f _), unpack_packBits hv, length_packBits]
  backward _ h := by
    obtain ⟨hv, hr, rfl⟩ := rest_of_run_unpackField h
    exact ⟨hv, hr, by rw [length_packBits]⟩

/-! ### `decode_bool` -/

/-- What `encode_bool` writes. -/
def boolBytes (b : Bool) : Bytes := if b then [1] else [0]

/-- The byte at `_pos`, if any, is `0` or `1`. -/
def BoolByteCanonical (d : Decoder) : Prop := ∀ x ∈ d.rest.head?, x.toNat ≤ 1

theorem reads_decodeBool : Reads decodeBool boolBytes (fun _ => True) BoolByteCanonical where
  forward {b d r} _ hr := by
    have h := (reads_unpackField .B).forward (a := if b then 1 else 0) (d := d) (r := r)
      (by cases b <;> decide) (by cases b <;> exact hr)
    unfold decodeBool uint8
    rw [run_bind_ok h]
    cases b <;> rfl
  backward {b d d'} hc h := by
    unfold decodeBool uint8 at h
    rw [run_bind] at h
    rcases hu : (unpackField .B).run d with ⟨_ | v, d₁⟩
    · rw [hu] at h; cases h
    · rw [hu] at h
      simp only [run_pure, Prod.mk.injEq, Except.ok.injEq] at h
      obtain ⟨rfl, rfl⟩ := h
      obtain ⟨hv, hr, rfl⟩ := (reads_unpackField .B).backward trivial hu
      have hv1 : v = 0 ∨ v = 1 := by
        have := hc _ (by rw [hr]; rfl)
        simp only [IntFormat.Fits, IntFormat.lo, IntFormat.hi] at hv
        revert this
        simp only [packBits, IntFormat.size, packBE, List.nil_append, List.head_cons,
          toNat_byte]
        omega
      rcases hv1 with rfl | rfl <;> exact ⟨trivial, hr, rfl⟩

/-! ### Length-prefixed fields -/

/-- What `Encoder.putPrefixed` writes. -/
def prefixBytes (data : Bytes) : Bytes := packBits .I data.length ++ data

theorem prefixed_forward {conv : Bytes → Except PyExc α} {data : Bytes} {a : α} {d : Decoder}
    {r : Bytes} (hc : conv data = .ok a) (hl : IntFormat.I.Fits data.length)
    (hr : d.rest = prefixBytes data ++ r) :
    (prefixed conv).run d = (.ok a, d.advance (prefixBytes data).length) := by
  have hp : (packBits .I (data.length : Int)).length = 4 := length_packBits _ _
  have h4 := (reads_unpackField .I).forward hl (by rw [hr, prefixBytes, List.append_assoc])
  rw [hp] at h4
  have hr₁ : (d.advance 4).rest = data ++ r := by
    rw [Decoder.rest_advance, hr, prefixBytes, List.append_assoc, List.drop_left' hp]
  have hle : (d.advance 4).pos + data.length ≤ (d.advance 4).buf.length := by
    have := congrArg List.length hr
    simp only [Decoder.rest, List.length_drop, List.length_append, prefixBytes, hp] at this
    simp only [Decoder.advance_pos, Decoder.advance_buf]
    omega
  unfold prefixed uint32
  rw [run_bind_ok h4]
  simp only [length_packBits, IntFormat.size, Int.toNat_ofNat]
  rw [run_bind, run_check, if_neg (by omega)]
  dsimp only
  rw [run_bind, run_get]
  dsimp only
  have hslice : ((d.advance 4).buf.drop (d.advance 4).pos).take data.length = data := by
    change (d.advance 4).rest.take data.length = data
    rw [hr₁, List.take_left' rfl]
  rw [hslice, hc]
  simp [prefixBytes, hp, Decoder.advance_advance, Nat.add_comm, Except.map]

theorem prefixed_backward {conv : Bytes → Except PyExc α} {a : α} {d d' : Decoder}
    (h : (prefixed conv).run d = (.ok a, d')) :
    ∃ data, conv data = .ok a ∧ IntFormat.I.Fits data.length ∧
      d.rest = prefixBytes data ++ d'.rest ∧ d' = d.advance (prefixBytes data).length := by
  unfold prefixed uint32 at h
  rw [run_bind] at h
  rcases hu : (unpackField .I).run d with ⟨_ | n, d₁⟩
  · rw [hu] at h; cases h
  rw [hu] at h
  dsimp only at h
  obtain ⟨hn, hr, rfl⟩ := (reads_unpackField .I).backward trivial hu
  rw [run_bind, run_check] at h
  split_ifs at h with hle
  · cases h
  dsimp only at h
  rw [run_bind, run_get] at h
  dsimp only at h
  set data := ((d.advance (packBits .I n).length).buf.drop
    (d.advance (packBits .I n).length).pos).take n.toNat with hdata
  have hlen : data.length = n.toNat := by
    simp only [hdata, List.length_take, List.length_drop]; omega
  have hn' : (n.toNat : Int) = n := Int.toNat_of_nonneg hn.1
  split at h
  · rename_i a' hconv
    simp only [run_bind, run_set, run_pure, Prod.mk.injEq, Except.ok.injEq] at h
    obtain ⟨rfl, rfl⟩ := h
    have hsplit : data ++ ((d.advance (packBits .I n).length).advance n.toNat).rest =
        (d.advance (packBits .I n).length).rest := by
      rw [Decoder.rest_advance]; exact List.take_append_drop _ _
    refine ⟨data, hconv, by rw [hlen, hn']; exact hn, ?_, ?_⟩
    · rw [prefixBytes, hlen, hn', List.append_assoc, hsplit]; exact hr
    · rw [Decoder.advance_advance, prefixBytes, List.length_append, hlen, hn']
  · cases h

/-- `read_bytes` reads back `write_bytes`. -/
theorem reads_readBytes :
    Reads readBytes prefixBytes (fun b => IntFormat.I.Fits b.length) (fun _ => True) where
  forward hl hr := prefixed_forward rfl hl hr
  backward _ h := by
    obtain ⟨data, hc, hl, hr, rfl⟩ := prefixed_backward h
    cases hc
    exact ⟨hl, hr, rfl⟩

theorem decodeUtf8_eq_ok {b : Bytes} {s : String} : decodeUtf8 b = .ok s ↔ Utf8.decode b = some s := by
  unfold decodeUtf8
  split <;> simp_all

/-- `string` reads back `Encoder.string`. -/
theorem reads_string :
    Reads string (fun s => prefixBytes (Utf8.encode s))
      (fun s => IntFormat.I.Fits (Utf8.encode s).length) (fun _ => True) where
  forward hl hr := prefixed_forward (decodeUtf8_eq_ok.2 (Utf8.decode_encode _)) hl hr
  backward _ h := by
    obtain ⟨data, hc, hl, hr, rfl⟩ := prefixed_backward h
    rw [Utf8.encode_of_decode (decodeUtf8_eq_ok.1 hc)]
    exact ⟨hl, hr, rfl⟩

/-! ### Loops -/

theorem reads_times {m : DecodeM α} {enc : α → Bytes} {ok : α → Prop}
    (hm : Reads m enc ok (fun _ => True)) (n : Nat) :
    Reads (times m n) (fun as => as.flatMap enc) (fun as => as.length = n ∧ ∀ a ∈ as, ok a)
      (fun _ => True) := by
  induction n with
  | zero =>
    refine ⟨fun {as d r} ⟨hl, _⟩ _ => ?_, fun {as d d'} _ h => ?_⟩
    · rw [List.length_eq_zero.1 hl]; rfl
    · cases h; exact ⟨⟨rfl, nofun⟩, rfl, rfl⟩
  | succ n ih =>
    refine ⟨fun {as d r} ⟨hl, hok⟩ hr => ?_, fun {as d d'} _ h => ?_⟩
    · obtain ⟨a, as, rfl⟩ := List.exists_cons_of_length_eq_add_one hl
      rw [List.flatMap_cons, List.append_assoc] at hr
      have h1 := hm.forward (hok a (List.mem_cons_self _ _)) hr
      have h2 := ih.forward (a := as) (d := d.advance (enc a).length) (r := r)
        ⟨by simpa using hl, fun b hb => hok b (List.mem_cons_of_mem _ hb)⟩
        (by rw [Decoder.rest_advance, hr, List.drop_left' rfl])
      simp only [times]
      rw [run_bind_ok h1, run_bind_ok h2, run_pure, Decoder.advance_advance, List.flatMap_cons,
        List.length_append]
    · simp only [times] at h
      rw [run_bind] at h
      rcases h1 : m.run d with ⟨_ | a, d₁⟩
      · rw [h1] at h; cases h
      rw [h1] at h
      dsimp only at h
      rw [run_bind] at h
      rcases h2 : (times m n).run d₁ with ⟨_ | as', d₂⟩
      · rw [h2] at h; cases h
      rw [h2] at h
      simp only [run_pure, Prod.mk.injEq, Except.ok.injEq] at h
      obtain ⟨rfl, rfl⟩ := h
      obtain ⟨ha, hr₁, rfl⟩ := hm.backward trivial h1
      obtain ⟨⟨hl, hok⟩, hr₂, rfl⟩ := ih.backward trivial h2
      refine ⟨⟨by simp [hl], ?_⟩, ?_, ?_⟩
      · intro b hb
        rcases List.mem_cons.1 hb with rfl | hb
        exacts [ha, hok b hb]
      · rw [hr₁, hr₂, List.flatMap_cons, List.append_assoc]
      · rw [Decoder.advance_advance, List.flatMap_cons, List.length_append]

/-- What `Encoder.string_slice` writes. -/
def stringsBytes (ss : List String) : Bytes :=
  packBits .I ss.length ++ ss.flatMap fun s => prefixBytes (Utf8.encode s)

/-- `string_slice` reads back `Encoder.string_slice`. -/
theorem reads_stringSlice :
    Reads stringSlice stringsBytes
      (fun ss => IntFormat.I.Fits ss.length ∧ ∀ s ∈ ss, IntFormat.I.Fits (Utf8.encode s).length)
      (fun _ => True) where
  forward {ss d r} hok hr := by
    rw [stringsBytes, List.append_assoc] at hr
    have h1 := (reads_unpackField .I).forward hok.1 hr
    have h2 := (reads_times reads_string ss.length).forward (a := ss) (r := r)
      ⟨rfl, hok.2⟩ (by rw [Decoder.rest_advance, hr, List.drop_left' rfl])
    unfold stringSlice uint32
    rw [run_bind_ok h1]
    simp only [Int.toNat_ofNat]
    rw [h2, Decoder.advance_advance, stringsBytes, List.length_append]
  backward {ss d d'} _ h := by
    unfold stringSlice uint32 at h
    rw [run_bind] at h
    rcases h1 : (unpackField .I).run d with ⟨_ | n, d₁⟩
    · rw [h1] at h; cases h
    rw [h1] at h
    dsimp only at h
    obtain ⟨hn, hr₁, rfl⟩ := (reads_unpackField .I).backward trivial h1
    obtain ⟨⟨hl, hok⟩, hr₂, rfl⟩ := (reads_times reads_string n.toNat).backward trivial h
    have hn' : (ss.length : Int) = n := by rw [hl]; exact Int.toNat_of_nonneg hn.1
    refine ⟨⟨by rw [hn']; exact hn, hok⟩, ?_, ?_⟩
    · rw [hr₁, hr₂, stringsBytes, hn', List.append_assoc]
    · rw [Decoder.advance_advance, stringsBytes, List.length_append, hn']

end CrumbleCracker.Decoder
