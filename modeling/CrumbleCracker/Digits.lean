import Mathlib.Algebra.Group.Int
import Mathlib.Data.List.Basic
import Mathlib.Tactic.Ring
import Mathlib.Data.Nat.Digits

/-!
# Digits (`str(n)`, `f"{n:x}"` and `int(s, base)`)

Python writes a natural number in a base up to sixteen with the digits `0`–`9` and `a`–`f`,
most significant first, which is Lean's `Nat.toDigits`; `int(s, base)` reads such digits
back.  `readDigits_toDigits` says that reading inverts writing, so that two numbers never
share a rendering (`toDigits_inj`), and `mem_toDigits` that a rendering holds digit
characters only.
-/

namespace CrumbleCracker

/-- The value `int(…, base)` gives the digit `c`: `0`–`9`, then `a`–`f` or `A`–`F` as ten to
    fifteen. -/
def digitValue (c : Char) : Nat :=
  if c.isDigit then c.toNat - '0'.toNat
  else if 'a' ≤ c && c ≤ 'f' then c.toNat - 'a'.toNat + 10 else c.toNat - 'A'.toNat + 10

/-- `int(s, base)` on the digits `ds` of `s`. -/
def readDigits (base : Nat) (ds : List Char) : Nat :=
  ds.foldl (fun v c => base * v + digitValue c) 0

example : readDigits 16 "7fffffff".toList = 0x7FFFFFFF := by decide

theorem digitValue_digitChar {k : Nat} (hk : k < 16) : digitValue (Nat.digitChar k) = k := by
  have h : ∀ k : Fin 16, digitValue (Nat.digitChar k) = k := by decide
  exact h ⟨k, hk⟩

theorem foldl_digits (base a : Nat) (ds : List Char) :
    ds.foldl (fun v c => base * v + digitValue c) a =
      a * base ^ ds.length + readDigits base ds := by
  induction ds generalizing a with
  | nil => simp [readDigits]
  | cons c ds ih =>
    simp only [List.foldl_cons, readDigits, List.length_cons] at ih ⊢
    rw [ih, ih (base * 0 + digitValue c)]
    ring

theorem readDigits_cons (base : Nat) (c : Char) (ds : List Char) :
    readDigits base (c :: ds) = digitValue c * base ^ ds.length + readDigits base ds := by
  rw [readDigits, List.foldl_cons, foldl_digits]
  simp

section Base

variable {base : Nat} (hb : 2 ≤ base) (hb' : base ≤ 16)
include hb hb'

/-- Writing `n` in front of `ds` adds `n` times the weight of `ds`'s first digit. -/
theorem readDigits_toDigitsCore {fuel n : Nat} (hn : n < fuel) (ds : List Char) :
    readDigits base (Nat.toDigitsCore base fuel n ds) = n * base ^ ds.length + readDigits base ds := by
  induction fuel generalizing n ds with
  | zero => omega
  | succ fuel ih =>
    have hd := digitValue_digitChar (k := n % base) (by have := Nat.mod_lt n (by omega : 0 < base); omega)
    have hn' := Nat.div_add_mod n base
    unfold Nat.toDigitsCore
    dsimp only
    split_ifs with h0
    · rw [readDigits_cons, hd, Nat.mod_eq_of_lt ((Nat.div_eq_zero_iff (by omega)).1 h0)]
    · have hlt : n / base < fuel := by
        have := Nat.div_lt_self (Nat.pos_of_ne_zero fun (h : n = 0) => h0 (by rw [h, Nat.zero_div]))
          (by omega : 1 < base)
        omega
      rw [ih hlt, readDigits_cons, hd, List.length_cons, pow_succ]
      conv_rhs => rw [← hn']
      ring

/-- **`int(str(n), base)` is `n`.** -/
theorem readDigits_toDigits (n : Nat) : readDigits base (Nat.toDigits base n) = n := by
  have := readDigits_toDigitsCore hb hb' (Nat.lt_succ_self n) []
  simpa [readDigits] using this

theorem toDigits_inj {m n : Nat} (h : Nat.toDigits base m = Nat.toDigits base n) : m = n := by
  rw [← readDigits_toDigits hb hb' m, h, readDigits_toDigits hb hb' n]

end Base

theorem mem_toDigitsCore {base fuel n : Nat} {ds : List Char} {c : Char} (hb : 0 < base)
    (h : c ∈ Nat.toDigitsCore base fuel n ds) : c ∈ ds ∨ ∃ k < base, c = Nat.digitChar k := by
  induction fuel generalizing n ds with
  | zero => exact .inl h
  | succ fuel ih =>
    have hd : ∀ {c}, c ∈ Nat.digitChar (n % base) :: ds → c ∈ ds ∨ ∃ k < base, c = Nat.digitChar k :=
      fun hc => (List.mem_cons.1 hc).elim (fun e => .inr ⟨_, Nat.mod_lt n hb, e⟩) .inl
    unfold Nat.toDigitsCore at h
    dsimp only at h
    split_ifs at h
    · exact hd h
    · exact (ih h).elim hd .inr

/-- A rendering holds digit characters only. -/
theorem mem_toDigits {base n : Nat} {c : Char} (hb : 0 < base) (h : c ∈ Nat.toDigits base n) :
    ∃ k < base, c = Nat.digitChar k :=
  (mem_toDigitsCore hb h).resolve_left (List.not_mem_nil _)

end CrumbleCracker
