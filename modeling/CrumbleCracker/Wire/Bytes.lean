import Mathlib.Algebra.Group.Int
import Mathlib.Data.List.Basic

/-!
# Byte strings and `struct` integer fields

`_ipc_protocol.py` writes every integer with `struct.pack("!<c>", v)` for one of six
format characters and reads it back with `struct.unpack_from`.  Python `bytes` are
modelled as `List UInt8`; the network byte order (`!`, big-endian) is `packBE` /
`unpackBE`; the six formats are `IntFormat`.  `pack` raises `struct.error` outside the
format's range, as CPython does, and `unpack` reads the two's complement of the signed
formats back.

The two round trips proved here (`unpack_pack`, `pack_unpack`) are the integer half of
the codec's round-trip law; `Wire/Schema.lean` lifts them to whole records.
-/

namespace CrumbleCracker

/-- Python `bytes`. -/
abbrev Bytes := List UInt8

/-- The octet `n mod 256`. -/
def byte (n : Nat) : UInt8 := UInt8.ofNat n

@[simp] theorem toNat_byte (n : Nat) : (byte n).toNat = n % 256 := by
  simp [byte, UInt8.ofNat, UInt8.toNat, BitVec.toNat_ofNat]

theorem toNat_lt_256 (b : UInt8) : b.toNat < 256 := b.toNat_lt_size

theorem byte_eq_iff {n : Nat} {b : UInt8} : byte n = b ↔ n % 256 = b.toNat :=
  ⟨fun h => h ▸ toNat_byte n, fun h => UInt8.toNat.inj (by rw [toNat_byte, h])⟩

@[simp] theorem byte_toNat (b : UInt8) : byte b.toNat = b :=
  byte_eq_iff.2 (Nat.mod_eq_of_lt (toNat_lt_256 b))

/-! ### Network byte order -/

/-- The `w` low octets of `n`, most significant first. -/
def packBE : Nat → Nat → Bytes
  | 0, _ => []
  | w + 1, n => packBE w (n / 256) ++ [byte n]

/-- The number a big-endian byte string denotes. -/
def unpackBE (bs : Bytes) : Nat := bs.foldl (fun acc b => acc * 256 + b.toNat) 0

@[simp] theorem unpackBE_nil : unpackBE [] = 0 := rfl

@[simp] theorem unpackBE_append_singleton (bs : Bytes) (b : UInt8) :
    unpackBE (bs ++ [b]) = unpackBE bs * 256 + b.toNat := by
  simp [unpackBE]

@[simp] theorem length_packBE (w n : Nat) : (packBE w n).length = w := by
  induction w generalizing n <;> simp [packBE, *]

theorem unpackBE_packBE (w n : Nat) : unpackBE (packBE w n) = n % 256 ^ w := by
  induction w generalizing n with
  | zero => simp [packBE, Nat.mod_one]
  | succ w ih =>
    simp only [packBE, unpackBE_append_singleton, ih, toNat_byte, Nat.pow_succ', Nat.mod_mul]
    omega

theorem unpackBE_lt (bs : Bytes) : unpackBE bs < 256 ^ bs.length := by
  induction bs using List.reverseRecOn with
  | nil => simp
  | append_singleton bs b ih =>
    have := toNat_lt_256 b
    simp only [unpackBE_append_singleton, List.length_append, List.length_singleton, Nat.pow_succ]
    omega

theorem packBE_unpackBE (bs : Bytes) : packBE bs.length (unpackBE bs) = bs := by
  induction bs using List.reverseRecOn with
  | nil => rfl
  | append_singleton bs b ih =>
    have := toNat_lt_256 b
    have hdiv : (unpackBE bs * 256 + b.toNat) / 256 = unpackBE bs := by omega
    have hlow : byte (unpackBE bs * 256 + b.toNat) = b := byte_eq_iff.2 (by omega)
    simp only [List.length_append, List.length_singleton, packBE, unpackBE_append_singleton,
      hdiv, hlow, ih]

/-! ### The six integer formats -/

/-- The `struct` format characters of the codec: `B H I Q` unsigned, `i q` signed. -/
inductive IntFormat
  | B | H | I | Q | i | q
  deriving DecidableEq, Repr

namespace IntFormat

/-- Bytes per field (`struct.calcsize`). -/
def size : IntFormat → Nat
  | B => 1 | H => 2 | I => 4 | Q => 8 | i => 4 | q => 8

/-- The least value `struct.pack` accepts. -/
def lo : IntFormat → Int
  | i => -2 ^ 31 | q => -2 ^ 63 | _ => 0

/-- One past the greatest value `struct.pack` accepts. -/
def hi : IntFormat → Int
  | B => 2 ^ 8 | H => 2 ^ 16 | I => 2 ^ 32 | Q => 2 ^ 64 | i => 2 ^ 31 | q => 2 ^ 63

/-- `v` is in the range of the format. -/
def Fits (f : IntFormat) (v : Int) : Prop := f.lo ≤ v ∧ v < f.hi

instance (f : IntFormat) (v : Int) : Decidable (f.Fits v) :=
  inferInstanceAs (Decidable (_ ∧ _))

end IntFormat

/-- The value of a field's octets: unsigned, or two's complement for `i` and `q`. -/
def unpack (f : IntFormat) (bs : Bytes) : Int :=
  match f with
  | .i | .q => if f.hi ≤ unpackBE bs then unpackBE bs - 2 * f.hi else unpackBE bs
  | _ => unpackBE bs

/-- The octets `struct.pack` writes for an in-range value. -/
def packBits (f : IntFormat) (v : Int) : Bytes :=
  packBE f.size (v % 2 ^ (8 * f.size)).toNat

theorem length_packBits (f : IntFormat) (v : Int) : (packBits f v).length = f.size :=
  length_packBE _ _

theorem unpack_packBits {f : IntFormat} {v : Int} (h : f.Fits v) :
    unpack f (packBits f v) = v := by
  obtain ⟨h1, h2⟩ := h
  cases f <;> simp only [unpack, packBits, unpackBE_packBE, IntFormat.size, IntFormat.lo,
    IntFormat.hi] at * <;> (try split_ifs) <;> omega

theorem packBits_unpack {f : IntFormat} {bs : Bytes} (h : bs.length = f.size) :
    packBits f (unpack f bs) = bs := by
  have hlt : unpackBE bs < 256 ^ f.size := h ▸ unpackBE_lt bs
  conv_rhs => rw [← packBE_unpackBE bs]
  rw [packBits, h]
  congr 1
  cases f <;> simp only [unpack, IntFormat.size, IntFormat.hi] at * <;> (try split_ifs) <;> omega

theorem unpack_fits (f : IntFormat) {bs : Bytes} (h : bs.length = f.size) :
    f.Fits (unpack f bs) := by
  have hlt : unpackBE bs < 256 ^ f.size := h ▸ unpackBE_lt bs
  cases f <;> simp only [unpack, IntFormat.Fits, IntFormat.size, IntFormat.lo,
    IntFormat.hi] at * <;> (try split_ifs) <;> omega

end CrumbleCracker
