import CrumbleCracker.Wire.Bytes

/-!
# UTF-8 (`str.encode("utf-8")` and strict `bytes.decode("utf-8")`)

`Encoder.string` writes `s.encode("utf-8")` and `Decoder.string` reads with
`bytes.decode("utf-8")`, which raises `UnicodeDecodeError` on any ill-formed input.  Both
are modelled in the arithmetic form of the Unicode standard's table of well-formed byte
sequences: a lead byte fixes the length, each continuation byte carries six bits, and the
decoded value must be a scalar value that needs that many bytes (no overlong forms, no
surrogates, nothing past `U+10FFFF`).

A Lean `String` is a list of scalar values, which is exactly the set of Python strings
`encode` accepts without `UnicodeEncodeError`.  The two laws proved here are
`decode_encode` and `encode_of_decode`: decoding inverts encoding, and anything decoding
accepts is an encoding.
-/

namespace CrumbleCracker.Utf8

/-- One scalar value as UTF-8. -/
def encodeChar (c : Char) : Bytes :=
  let n := c.toNat
  if n < 0x80 then [byte n]
  else if n < 0x800 then [byte (0xC0 + n / 64), byte (0x80 + n % 64)]
  else if n < 0x10000 then
    [byte (0xE0 + n / 4096), byte (0x80 + n / 64 % 64), byte (0x80 + n % 64)]
  else
    [byte (0xF0 + n / 262144), byte (0x80 + n / 4096 % 64), byte (0x80 + n / 64 % 64),
      byte (0x80 + n % 64)]

/-- `s.encode("utf-8")`. -/
def encode (s : String) : Bytes := s.data.flatMap encodeChar

/-- The length of the sequence a lead byte opens; `0` for a byte that opens none. -/
def leadWidth (b : UInt8) : Nat :=
  if b.toNat < 0x80 then 1
  else if b.toNat < 0xC0 then 0
  else if b.toNat < 0xE0 then 2
  else if b.toNat < 0xF0 then 3
  else if b.toNat < 0xF8 then 4
  else 0

/-- A continuation byte `10xxxxxx`. -/
def isCont (b : UInt8) : Bool := 0x80 ≤ b.toNat && b.toNat < 0xC0

/-- The payload bits of a continuation byte. -/
def cont (b : UInt8) : Nat := b.toNat % 64

/-- The scalar value `n`, provided it is at least `lo` (the shortest-form bound). -/
def scalarFrom (lo n : Nat) : Option Char :=
  if h : lo ≤ n ∧ n.isValidChar then some (Char.ofNatAux n h.2) else none

def char2 (b0 b1 : UInt8) : Option Char :=
  if isCont b1 then scalarFrom 0x80 (b0.toNat % 32 * 64 + cont b1) else none

def char3 (b0 b1 b2 : UInt8) : Option Char :=
  if isCont b1 && isCont b2 then
    scalarFrom 0x800 (b0.toNat % 16 * 4096 + cont b1 * 64 + cont b2)
  else none

def char4 (b0 b1 b2 b3 : UInt8) : Option Char :=
  if isCont b1 && isCont b2 && isCont b3 then
    scalarFrom 0x10000 (b0.toNat % 8 * 262144 + cont b1 * 4096 + cont b2 * 64 + cont b3)
  else none

/-- Prepend a decoded character; fail if either part failed. -/
def consChar : Option Char → Option (List Char) → Option (List Char)
  | some c, some cs => some (c :: cs)
  | _, _ => none

/-- `bytes.decode("utf-8")`: the characters, or `none` where Python raises
    `UnicodeDecodeError`. -/
def decodeChars : Bytes → Option (List Char)
  | [] => some []
  | b0 :: bs =>
    match leadWidth b0, bs with
    | 1, bs => consChar (scalarFrom 0 b0.toNat) (decodeChars bs)
    | 2, b1 :: bs => consChar (char2 b0 b1) (decodeChars bs)
    | 3, b1 :: b2 :: bs => consChar (char3 b0 b1 b2) (decodeChars bs)
    | 4, b1 :: b2 :: b3 :: bs => consChar (char4 b0 b1 b2 b3) (decodeChars bs)
    | _, _ => none

/-- `bytes.decode("utf-8")` as a string. -/
def decode (bs : Bytes) : Option String := (decodeChars bs).map String.mk

example : decode [0x68, 0xC3, 0xA9, 0xE2, 0x82, 0xAC, 0xF0, 0x9F, 0x98, 0x80] = some "hé€😀" := by
  decide

/-! ### Lead bytes and sequences -/

theorem toNat_isValidChar (c : Char) : c.toNat.isValidChar := c.valid

theorem toNat_byte_of_lt {n : Nat} (h : n < 256) : (byte n).toNat = n := by simp; omega

@[simp] theorem isCont_iff (b : UInt8) : isCont b = true ↔ 0x80 ≤ b.toNat ∧ b.toNat < 0xC0 := by
  simp [isCont]

theorem cont_lt (b : UInt8) : cont b < 64 := Nat.mod_lt _ (by decide)

/-- A continuation byte carrying the six bits `k`. -/
theorem cont_byte {k : Nat} (h : k < 64) :
    isCont (byte (0x80 + k)) = true ∧ cont (byte (0x80 + k)) = k := by
  simp only [isCont_iff, cont, toNat_byte]; omega

/-- A continuation byte is `0x80` plus its payload. -/
theorem byte_cont {b : UInt8} (h : isCont b = true) : byte (0x80 + cont b) = b := by
  rw [isCont_iff] at h
  rw [byte_eq_iff, cont]
  omega

theorem leadWidth_eq_one_iff (b : UInt8) : leadWidth b = 1 ↔ b.toNat < 0x80 := by
  unfold leadWidth; split_ifs <;> simp <;> omega

theorem leadWidth_eq_two_iff (b : UInt8) :
    leadWidth b = 2 ↔ 0xC0 ≤ b.toNat ∧ b.toNat < 0xE0 := by
  unfold leadWidth; split_ifs <;> simp <;> omega

theorem leadWidth_eq_three_iff (b : UInt8) :
    leadWidth b = 3 ↔ 0xE0 ≤ b.toNat ∧ b.toNat < 0xF0 := by
  unfold leadWidth; split_ifs <;> simp <;> omega

theorem leadWidth_eq_four_iff (b : UInt8) :
    leadWidth b = 4 ↔ 0xF0 ≤ b.toNat ∧ b.toNat < 0xF8 := by
  unfold leadWidth; split_ifs <;> simp <;> omega

theorem scalarFrom_eq_some {lo n : Nat} {c : Char} :
    scalarFrom lo n = some c ↔ lo ≤ n ∧ c.toNat = n := by
  unfold scalarFrom
  split_ifs with h
  · refine ⟨fun e => ⟨h.1, ?_⟩, fun ⟨_, hc⟩ => ?_⟩
    · cases Option.some.inj e; rfl
    · exact congrArg some (Char.ext (UInt32.toNat.inj hc.symm))
  · exact ⟨nofun, fun ⟨hlo, hc⟩ => absurd ⟨hlo, hc ▸ toNat_isValidChar c⟩ h⟩

theorem scalarFrom_toNat {lo : Nat} {c : Char} (h : lo ≤ c.toNat) :
    scalarFrom lo c.toNat = some c :=
  scalarFrom_eq_some.2 ⟨h, rfl⟩

theorem consChar_eq_some {oc : Option Char} {ocs : Option (List Char)} {l : List Char} :
    consChar oc ocs = some l ↔ ∃ c cs, oc = some c ∧ ocs = some cs ∧ l = c :: cs := by
  unfold consChar
  split <;> simp_all [eq_comm]

theorem char2_eq_some {b0 b1 : UInt8} {c : Char} :
    char2 b0 b1 = some c ↔ isCont b1 ∧ 0x80 ≤ b0.toNat % 32 * 64 + cont b1 ∧
      c.toNat = b0.toNat % 32 * 64 + cont b1 := by
  unfold char2; split_ifs with h <;> simp [h, scalarFrom_eq_some]

theorem char3_eq_some {b0 b1 b2 : UInt8} {c : Char} :
    char3 b0 b1 b2 = some c ↔ isCont b1 ∧ isCont b2 ∧
      0x800 ≤ b0.toNat % 16 * 4096 + cont b1 * 64 + cont b2 ∧
      c.toNat = b0.toNat % 16 * 4096 + cont b1 * 64 + cont b2 := by
  unfold char3; split_ifs with h <;> simp_all [scalarFrom_eq_some]

theorem char4_eq_some {b0 b1 b2 b3 : UInt8} {c : Char} :
    char4 b0 b1 b2 b3 = some c ↔ isCont b1 ∧ isCont b2 ∧ isCont b3 ∧
      0x10000 ≤ b0.toNat % 8 * 262144 + cont b1 * 4096 + cont b2 * 64 + cont b3 ∧
      c.toNat = b0.toNat % 8 * 262144 + cont b1 * 4096 + cont b2 * 64 + cont b3 := by
  unfold char4; split_ifs with h <;> simp_all [scalarFrom_eq_some]

theorem decodeChars_one {b0 : UInt8} (bs : Bytes) (hw : leadWidth b0 = 1) :
    decodeChars (b0 :: bs) = consChar (scalarFrom 0 b0.toNat) (decodeChars bs) := by
  simp [decodeChars, hw]

theorem decodeChars_two {b0 b1 : UInt8} (bs : Bytes) (hw : leadWidth b0 = 2) :
    decodeChars (b0 :: b1 :: bs) = consChar (char2 b0 b1) (decodeChars bs) := by
  simp [decodeChars, hw]

theorem decodeChars_three {b0 b1 b2 : UInt8} (bs : Bytes) (hw : leadWidth b0 = 3) :
    decodeChars (b0 :: b1 :: b2 :: bs) = consChar (char3 b0 b1 b2) (decodeChars bs) := by
  simp [decodeChars, hw]

theorem decodeChars_four {b0 b1 b2 b3 : UInt8} (bs : Bytes) (hw : leadWidth b0 = 4) :
    decodeChars (b0 :: b1 :: b2 :: b3 :: bs) = consChar (char4 b0 b1 b2 b3) (decodeChars bs) := by
  simp [decodeChars, hw]

/-! ### Decoding inverts encoding -/

/-- The sequence of one character, whatever follows it. -/
theorem decodeChars_encodeChar (c : Char) (bs : Bytes) :
    decodeChars (encodeChar c ++ bs) = consChar (some c) (decodeChars bs) := by
  have hv : c.toNat < 0x110000 := by have := toNat_isValidChar c; omega
  have h64 (m : Nat) : m % 64 < 64 := Nat.mod_lt _ (by decide)
  obtain ⟨i0, k0⟩ := cont_byte (h64 c.toNat)
  obtain ⟨i1, k1⟩ := cont_byte (h64 (c.toNat / 64))
  obtain ⟨i2, k2⟩ := cont_byte (h64 (c.toNat / 4096))
  simp only [encodeChar]
  split_ifs with h1 h2 h3
  · rw [List.singleton_append, decodeChars_one _ ((leadWidth_eq_one_iff _).2 (by simp; omega)),
      toNat_byte_of_lt (by omega), scalarFrom_toNat (Nat.zero_le _)]
  · have hl := toNat_byte_of_lt (n := 0xC0 + c.toNat / 64) (by omega)
    rw [List.cons_append, List.singleton_append,
      decodeChars_two _ ((leadWidth_eq_two_iff _).2 (by rw [hl]; omega)),
      (char2_eq_some (c := c)).2 ⟨i0, by rw [hl, k0]; omega, by rw [hl, k0]; omega⟩]
  · have hl := toNat_byte_of_lt (n := 0xE0 + c.toNat / 4096) (by omega)
    rw [List.cons_append, List.cons_append, List.singleton_append,
      decodeChars_three _ ((leadWidth_eq_three_iff _).2 (by rw [hl]; omega)),
      (char3_eq_some (c := c)).2 ⟨i1, i0, by rw [hl, k1, k0]; omega, by rw [hl, k1, k0]; omega⟩]
  · have hl := toNat_byte_of_lt (n := 0xF0 + c.toNat / 262144) (by omega)
    rw [List.cons_append, List.cons_append, List.cons_append, List.singleton_append,
      decodeChars_four _ ((leadWidth_eq_four_iff _).2 (by rw [hl]; omega)),
      (char4_eq_some (c := c)).2 ⟨i2, i1, i0, by rw [hl, k2, k1, k0]; omega,
        by rw [hl, k2, k1, k0]; omega⟩]

theorem decodeChars_flatMap (cs : List Char) (bs : Bytes) :
    decodeChars (cs.flatMap encodeChar ++ bs) = (decodeChars bs).map (cs ++ ·) := by
  induction cs with
  | nil => simp
  | cons c cs ih =>
    rw [List.flatMap_cons, List.append_assoc, decodeChars_encodeChar, ih]
    cases decodeChars bs <;> rfl

/-- **Decoding inverts encoding.** -/
theorem decode_encode (s : String) : decode (encode s) = some s := by
  have := decodeChars_flatMap s.data []
  simp only [List.append_nil] at this
  simp [decode, encode, this, decodeChars]

/-! ### Everything decoding accepts is an encoding -/

theorem encodeChar_of_decodeChars {bs : Bytes} {cs : List Char} (h : decodeChars bs = some cs) :
    cs.flatMap encodeChar = bs := by
  induction bs using decodeChars.induct generalizing cs with
  | case1 => cases h; rfl
  | case2 b0 bs hw ih =>
    rw [decodeChars_one _ hw] at h
    obtain ⟨c, cs, hc, hcs, rfl⟩ := consChar_eq_some.1 h
    have hb := (leadWidth_eq_one_iff _).1 hw
    have hc := (scalarFrom_eq_some.1 hc).2
    rw [List.flatMap_cons, ih hcs, encodeChar, if_pos (by omega), hc, byte_toNat]
    rfl
  | case3 b0 b1 bs hw ih =>
    rw [decodeChars_two _ hw] at h
    obtain ⟨c, cs, hc, hcs, rfl⟩ := consChar_eq_some.1 h
    have hb := (leadWidth_eq_two_iff _).1 hw
    obtain ⟨i1, hlo, hc⟩ := char2_eq_some.1 hc
    have := cont_lt b1
    rw [List.flatMap_cons, ih hcs, encodeChar, if_neg (by omega), if_pos (by omega),
      show c.toNat / 64 = b0.toNat % 32 by omega, show c.toNat % 64 = cont b1 by omega,
      byte_cont i1, byte_eq_iff.2 (show (0xC0 + b0.toNat % 32) % 256 = b0.toNat by omega)]
    rfl
  | case4 b0 b1 b2 bs hw ih =>
    rw [decodeChars_three _ hw] at h
    obtain ⟨c, cs, hc, hcs, rfl⟩ := consChar_eq_some.1 h
    have hb := (leadWidth_eq_three_iff _).1 hw
    obtain ⟨i1, i2, hlo, hc⟩ := char3_eq_some.1 hc
    have := cont_lt b1
    have := cont_lt b2
    rw [List.flatMap_cons, ih hcs, encodeChar, if_neg (by omega), if_neg (by omega),
      if_pos (by omega), show c.toNat / 4096 = b0.toNat % 16 by omega,
      show c.toNat / 64 % 64 = cont b1 by omega, show c.toNat % 64 = cont b2 by omega,
      byte_cont i1, byte_cont i2, byte_eq_iff.2 (show (0xE0 + b0.toNat % 16) % 256 = b0.toNat by omega)]
    rfl
  | case5 b0 b1 b2 b3 bs hw ih =>
    rw [decodeChars_four _ hw] at h
    obtain ⟨c, cs, hc, hcs, rfl⟩ := consChar_eq_some.1 h
    have hb := (leadWidth_eq_four_iff _).1 hw
    obtain ⟨i1, i2, i3, hlo, hc⟩ := char4_eq_some.1 hc
    have := cont_lt b1
    have := cont_lt b2
    have := cont_lt b3
    rw [List.flatMap_cons, ih hcs, encodeChar, if_neg (by omega), if_neg (by omega),
      if_neg (by omega), show c.toNat / 262144 = b0.toNat % 8 by omega,
      show c.toNat / 4096 % 64 = cont b1 by omega, show c.toNat / 64 % 64 = cont b2 by omega,
      show c.toNat % 64 = cont b3 by omega, byte_cont i1, byte_cont i2, byte_cont i3,
      byte_eq_iff.2 (show (0xF0 + b0.toNat % 8) % 256 = b0.toNat by omega)]
    rfl
  | case6 b0 bs h1 h2 h3 h4 =>
    unfold decodeChars at h
    split at h
    · exact (h1 ‹_›).elim
    · exact (h2 _ _ ‹_› rfl).elim
    · exact (h3 _ _ _ ‹_› rfl).elim
    · exact (h4 _ _ _ _ ‹_› rfl).elim
    · cases h

/-- **Anything decoding accepts is the encoding of what it returns.** -/
theorem encode_of_decode {bs : Bytes} {s : String} (h : decode bs = some s) : encode s = bs := by
  obtain ⟨cs, hcs, rfl⟩ := Option.map_eq_some'.1 h
  exact encodeChar_of_decodeChars hcs

end CrumbleCracker.Utf8
