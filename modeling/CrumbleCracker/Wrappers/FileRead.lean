import CrumbleCracker.Errors
import CrumbleCracker.Wire.Bytes

/-!
# Reading a file to its end (`File.read(-1)`, `File._read_chunk`)

`read(-1)` calls `_read_chunk(65536)` until it returns `b""` and joins the chunks.
`_read_chunk(size)` is one read of the helper's file: `file_read(handle, size)` under IPC,
`cc_file_read` and `check_error` under FFI.  It returns between `1` and `size` of the bytes
after the file's offset, or `b""` at the end of the file, or raises.  Which count each read
returns, and which read raises, is the schedule `reply`, one choice per read, so a theorem
over every `reply` is a theorem over every way the helper splits the file and every failure.

## Results

* `readAllFrom_cases`: under every schedule, `read(-1)` returns the rest of the file and
  leaves the offset at its end, with at most one read per byte and one more; or it raises the
  error of the reply to its last read, made after at most one read per byte.
-/

namespace CrumbleCracker

/-! ## 1. The file -/

/-- An open file, as `_read_chunk` sees it. -/
structure OpenFile where
  /-- the bytes from the file's offset to its end -/
  rest : Bytes
  /-- the `i`-th read returns at most `c + 1` bytes when `reply i = .ok c`, and raises `e`
      when `reply i = .error e` -/
  reply : Nat → Except PyExc Nat
  /-- the reads made so far -/
  calls : Nat

/-- `_read_chunk(size)`. -/
def readChunk (size : Nat) : PyM OpenFile Bytes := do
  let f ← get
  set { f with calls := f.calls + 1 }
  let c ← PyM.ofExcept (f.reply f.calls)
  let m := min size (c + 1)
  set { f with rest := f.rest.drop m, calls := f.calls + 1 }
  return f.rest.take m

/-- What one read can do: raise its reply's error, or return at most `size` of the next bytes
    and remove them. -/
theorem readChunk_cases (size : Nat) (f : OpenFile) :
    (∃ e, f.reply f.calls = .error e ∧
      (readChunk size).run f = (.error e, { f with calls := f.calls + 1 })) ∨
    (∃ c rest, f.rest = c ++ rest ∧ c.length ≤ size ∧ (0 < size → 0 < f.rest.length → c ≠ []) ∧
      (readChunk size).run f = (.ok c, { f with rest := rest, calls := f.calls + 1 })) := by
  rcases h : f.reply f.calls with e | c
  · refine .inl ⟨e, rfl, ?_⟩
    simp only [readChunk, PyM.run_bind, PyM.run_get, PyM.run_set, h, PyM.run_ofExcept]
  · refine .inr ⟨_, _, (List.take_append_drop (min size (c + 1)) f.rest).symm,
      (by simp only [List.length_take]; omega), fun hs hl => ?_, ?_⟩
    · simpa only [ne_eq, List.take_eq_nil_iff, not_or] using
        ⟨by omega, List.ne_nil_of_length_pos hl⟩
    · simp only [readChunk, PyM.run_bind, PyM.run_get, PyM.run_set, h, PyM.run_ofExcept]
      rfl

theorem rest_length_lt_of_readChunk {size : Nat} {f f' : OpenFile} {data : Bytes}
    (h : (readChunk size).run f = (.ok data, f')) (hd : data ≠ []) :
    f'.rest.length < f.rest.length := by
  rcases readChunk_cases size f with ⟨e, -, he⟩ | ⟨c, rest, hr, -, -, hc⟩
  · rw [he] at h
    cases h
  · rw [hc] at h
    cases h
    have := List.length_pos.2 hd
    simp only [hr, List.length_append]
    omega

/-! ## 2. `read(-1)` -/

/-- The loop of `read(-1)` once it holds `chunks`: `_read_chunk(65536)` until it returns
    `b""`, then `b"".join(chunks)`. -/
def readAllFrom (chunks : List Bytes) (f : OpenFile) : Except PyExc Bytes × OpenFile :=
  match _h : (readChunk 65536).run f with
  | (.error e, f') => (.error e, f')
  | (.ok data, f') =>
    if _hd : data = [] then (.ok chunks.flatten, f')
    else readAllFrom (chunks ++ [data]) f'
termination_by f.rest.length
decreasing_by exact rest_length_lt_of_readChunk _h _hd

/-- `read(-1)` on an open file. -/
def readAll (f : OpenFile) : Except PyExc Bytes × OpenFile := readAllFrom [] f

section Steps

variable {chunks : List Bytes} {f f' : OpenFile}

theorem readAllFrom_error {e : PyExc} (h : (readChunk 65536).run f = (.error e, f')) :
    readAllFrom chunks f = (.error e, f') := by
  rw [readAllFrom]
  split <;> simp_all

theorem readAllFrom_nil (h : (readChunk 65536).run f = (.ok [], f')) :
    readAllFrom chunks f = (.ok chunks.flatten, f') := by
  rw [readAllFrom]
  split <;> simp_all

theorem readAllFrom_chunk {data : Bytes} (h : (readChunk 65536).run f = (.ok data, f'))
    (hd : data ≠ []) : readAllFrom chunks f = readAllFrom (chunks ++ [data]) f' := by
  rw [readAllFrom]
  split <;> simp_all

end Steps

/-- **`read(-1)` under any schedule.**  It returns the chunks it holds followed by the rest of
    the file, leaving nothing after the offset, with at most one read per byte and one more;
    or it raises the error of the reply to its last read, made after at most one read per byte.
    So when no read fails, `read(-1)` returns exactly the rest of the file, however the helper
    splits it. -/
theorem readAllFrom_cases (chunks : List Bytes) (f : OpenFile) :
    (∃ k ≤ f.rest.length + 1, readAllFrom chunks f =
      (.ok (chunks.flatten ++ f.rest), { f with rest := [], calls := f.calls + k })) ∨
    (∃ i, f.calls ≤ i ∧ i ≤ f.calls + f.rest.length ∧ ∃ e, f.reply i = .error e ∧
      (readAllFrom chunks f).1 = .error e ∧ (readAllFrom chunks f).2.calls = i + 1) := by
  induction chunks, f using readAllFrom.induct with
  | case1 chunks f e f' h =>
    rw [readAllFrom_error h]
    rcases readChunk_cases 65536 f with ⟨e', he, hr⟩ | ⟨c, rest, -, -, -, hr⟩ <;>
      rw [hr] at h <;> cases h
    exact .inr ⟨f.calls, le_rfl, Nat.le_add_right _ _, e, he, rfl, rfl⟩
  | case2 chunks f f' h =>
    rw [readAllFrom_nil h]
    rcases readChunk_cases 65536 f with ⟨e', he, hr⟩ | ⟨c, rest, hf, -, hne, hr⟩ <;>
      rw [hr] at h <;> cases h
    have hrest : f.rest = [] :=
      List.eq_nil_of_length_eq_zero (by by_contra h0; exact hne (by decide) (by omega) rfl)
    rw [hrest, List.nil_append] at hf
    subst hf
    exact .inl ⟨1, by simp, by rw [hrest, List.append_nil]⟩
  | case3 chunks f data f' h hd ih =>
    rw [readAllFrom_chunk h hd]
    rcases readChunk_cases 65536 f with ⟨e', he, hr⟩ | ⟨c, rest, hf, -, -, hr⟩ <;>
      rw [hr] at h <;> cases h
    have hlen : 0 < data.length := List.length_pos.2 hd
    rcases ih with ⟨k, hk, he⟩ | ⟨i, hi, hi', e, he, hr, hc⟩
    · refine .inl ⟨k + 1, by simp only [hf, List.length_append] at hk ⊢; omega, ?_⟩
      rw [he, List.flatten_concat, List.append_assoc, ← hf]
      simp only [Nat.add_assoc, Nat.add_comm 1 k]
    · simp only [hf, List.length_append] at hi hi' ⊢
      exact .inr ⟨i, by omega, by omega, e, he, hr, hc⟩

end CrumbleCracker
