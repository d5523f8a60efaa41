import CrumbleCracker.Hvf.GenConsts

/-!
# Cutting the `OS_ENUM` blocks out of a header (`parse_os_enum_blocks`)

`parse_os_enum_blocks` searches the header for `OS_ENUM(name, type,`, then scans from the
`(` with a depth counter and takes as the block's body the text up to the `)` that brings the
depth back to zero; it raises `RuntimeError("unterminated OS_ENUM(name)")` when no `)` does.
`closeParen` is that scan.  Its specification counts parentheses: the body is the shortest
text after which one `)` closes the `(`, that is, a text in which no prefix holds more `)`
than `(`, and the whole holds as many of each.

The `RuntimeError` for a missing `(` cannot be raised: the text the pattern matched holds one,
and `src.find("(", m.start())` finds it.  Nor can a parenthesis stand between that `(` and the
end of the match, so the scan may start after the match at depth zero, as `osEnumBlocks` does.

## Results

* `closeParen_eq_some_iff`: the depth scan returns exactly the shortest closing body.
* `osEnumBlocks_fuel`: the fuel of `osEnumBlocks` never cuts the search short.
* `parse_os_enum_blocks_ok`: every block found has a nonempty identifier for a name and a
  body that the next `)` closes, after an `OS_ENUM(` head of the header.
* `parse_os_enum_blocks_error`: the error names an enum whose `(` no `)` closes.
-/

namespace CrumbleCracker.Hvf

/-! ## 1. Closing bodies -/

/-- `body` followed by one `)` closes a `(` opened `d` levels deep: no prefix of `body` has
    more `)` than its `(` and `d`, and `body` has exactly `d` more. -/
def Closes (d : Nat) (body : List Char) : Prop :=
  (∀ p ∈ body.inits, p.count ')' ≤ p.count '(' + d) ∧ body.count ')' = body.count '(' + d

instance (d : Nat) (body : List Char) : Decidable (Closes d body) :=
  inferInstanceAs (Decidable (_ ∧ _))

section Closes

variable {d : Nat} {c : Char} {b : List Char}

@[simp] theorem closes_nil : Closes d [] ↔ d = 0 := by
  simp only [Closes, List.inits, List.mem_singleton, forall_eq, List.count_nil, zero_add,
    Nat.zero_le, eq_comm, true_and]

@[simp] theorem closes_open : Closes d ('(' :: b) ↔ Closes (d + 1) b := by
  simp only [Closes, List.inits, List.mem_cons, List.mem_map, List.mem_inits, forall_eq_or_imp,
    List.count_nil, zero_add, Nat.zero_le, forall_exists_index, and_imp, forall_apply_eq_imp_iff₂,
    List.count_cons_of_ne (by decide : ')' ≠ '('), List.count_cons_self,
    Nat.add_right_comm _ 1 d, Nat.add_assoc, true_and]

@[simp] theorem not_closes_zero_close : ¬ Closes 0 (')' :: b) := fun h => by
  simpa using h.1 [')'] (by simp)

@[simp] theorem closes_succ_close : Closes (d + 1) (')' :: b) ↔ Closes d b := by
  simp only [Closes, List.inits, List.mem_cons, List.mem_map, List.mem_inits, ← Nat.add_assoc,
    forall_eq_or_imp, List.count_nil, zero_add, Nat.le_add_left, forall_exists_index, and_imp,
    forall_apply_eq_imp_iff₂, List.count_cons_self, List.count_cons_of_ne (by decide : '(' ≠ ')'),
    Nat.add_le_add_iff_right, true_and, add_left_inj]

theorem closes_other (h1 : c ≠ '(') (h2 : c ≠ ')') : Closes d (c :: b) ↔ Closes d b := by
  simp only [Closes, List.inits, List.mem_cons, List.mem_map, List.mem_inits, forall_eq_or_imp,
    List.count_nil, zero_add, Nat.zero_le, forall_exists_index, and_imp, forall_apply_eq_imp_iff₂,
    List.count_cons_of_ne h1.symm, List.count_cons_of_ne h2.symm, true_and]

end Closes

/-! ## 2. The depth scan -/

theorem closeParen_sound {d : Nat} {s body rest : List Char}
    (h : closeParen d s = some (body, rest)) : s = body ++ ')' :: rest ∧ Closes d body := by
  induction s generalizing d body with
  | nil => simp [closeParen] at h
  | cons c r ih =>
    by_cases h1 : c = '('
    · subst h1
      simp only [closeParen.eq_2, Option.map_eq_some', Prod.exists, Prod.mk.injEq] at h
      obtain ⟨b, _, hb, rfl, rfl⟩ := h
      obtain ⟨rfl, hc⟩ := ih hb
      exact ⟨rfl, closes_open.2 hc⟩
    by_cases h2 : c = ')'
    · subst h2
      cases d with
      | zero =>
        simp only [closeParen.eq_3, Option.some.injEq, Prod.mk.injEq] at h
        obtain ⟨rfl, rfl⟩ := h
        exact ⟨rfl, closes_nil.2 rfl⟩
      | succ d =>
        simp only [closeParen.eq_4, Option.map_eq_some', Prod.exists, Prod.mk.injEq] at h
        obtain ⟨b, _, hb, rfl, rfl⟩ := h
        obtain ⟨rfl, hc⟩ := ih hb
        exact ⟨rfl, closes_succ_close.2 hc⟩
    · simp only [closeParen.eq_5 _ _ _ h1 (fun _ => h2) (fun _ _ => h2), Option.map_eq_some',
        Prod.exists, Prod.mk.injEq] at h
      obtain ⟨b, _, hb, rfl, rfl⟩ := h
      obtain ⟨rfl, hc⟩ := ih hb
      exact ⟨rfl, (closes_other h1 h2).2 hc⟩

theorem closeParen_complete {d : Nat} {body rest : List Char} (h : Closes d body) :
    closeParen d (body ++ ')' :: rest) = some (body, rest) := by
  induction body generalizing d with
  | nil => simp_all [closeParen.eq_3]
  | cons c b ih =>
    by_cases h1 : c = '('
    · subst h1
      simp_all [closeParen.eq_2]
    by_cases h2 : c = ')'
    · subst h2
      cases d with
      | zero => exact absurd h not_closes_zero_close
      | succ d => simp_all [closeParen.eq_4]
    · rw [closes_other h1 h2] at h
      simp [closeParen.eq_5 _ _ _ h1 (fun _ => h2) (fun _ _ => h2), ih h]

/-- **The depth scan.**  From depth `d`, `closeParen` returns the text before the first `)`
    that brings the depth below zero, and the text after it: exactly the decomposition
    `body ++ ')' :: rest` whose `body` closes at depth `d`. -/
theorem closeParen_eq_some_iff {d : Nat} {s body rest : List Char} :
    closeParen d s = some (body, rest) ↔ s = body ++ ')' :: rest ∧ Closes d body :=
  ⟨closeParen_sound, fun ⟨hs, hc⟩ => hs ▸ closeParen_complete hc⟩

theorem closeParen_eq_none_iff {d : Nat} {s : List Char} :
    closeParen d s = none ↔ ∀ body rest, s = body ++ ')' :: rest → ¬ Closes d body := by
  refine ⟨fun h body rest hs hc => ?_, fun h => ?_⟩
  · rw [hs, closeParen_complete hc] at h
    cases h
  · rcases hp : closeParen d s with _ | ⟨body, rest⟩
    · rfl
    · exact absurd (closeParen_sound hp).2 (h body rest (closeParen_sound hp).1)

/-! ## 3. The search loop -/

theorem dropWhile_word_suffix (l : List Char) :
    ((l.dropWhile isSpace).dropWhile isWordChar).dropWhile isSpace <:+ l :=
  (List.dropWhile_suffix _).trans ((List.dropWhile_suffix _).trans (List.dropWhile_suffix _))

/-- What `OS_ENUM\s*\(\s*([a-zA-Z0-9_]+)\s*,\s*([a-zA-Z0-9_]+)\s*,` matches: the word
    `OS_ENUM`, a nonempty identifier, and a text after the match that is a proper suffix. -/
theorem osEnumHead_spec {s name after : List Char} (h : osEnumHead s = some (name, after)) :
    "OS_ENUM".toList <+: s ∧ name ≠ [] ∧ (∀ c ∈ name, isWordChar c = true) ∧
      after.length < s.length ∧ after <:+ s := by
  unfold osEnumHead at h
  split_ifs at h with hp
  split at h <;> [rename_i _ r0 h0; cases h]
  dsimp only at h
  split at h <;> [rename_i _ r1 h1; cases h]
  split at h <;> [rename_i _ rest h2; cases h]
  split_ifs at h with hn
  cases h
  have hs : ',' :: after <:+ s :=
    calc ',' :: after
      _ = ((r1.dropWhile isSpace).dropWhile isWordChar).dropWhile isSpace := h2.symm
      _ <:+ r1 := dropWhile_word_suffix r1
      _ <:+ ',' :: r1 := List.suffix_cons _ _
      _ = ((r0.dropWhile isSpace).dropWhile isWordChar).dropWhile isSpace := h1.symm
      _ <:+ r0 := dropWhile_word_suffix r0
      _ <:+ '(' :: r0 := List.suffix_cons _ _
      _ = (s.drop 7).dropWhile isSpace := h0.symm
      _ <:+ s := (List.dropWhile_suffix _).trans (List.drop_suffix _ _)
  exact ⟨List.isPrefixOf_iff_prefix.1 hp, hn.1, fun c hc => List.mem_takeWhile_imp hc,
    by simpa using hs.length_le, (List.suffix_cons _ _).trans hs⟩

/-- The text after a block's closing `)` is a proper suffix of the text the block starts. -/
theorem rest_of_head {s name after body rest : List Char} (hh : osEnumHead s = some (name, after))
    (hp : closeParen 0 after = some (body, rest)) : rest.length < s.length ∧ rest <:+ s := by
  obtain ⟨-, -, -, hl, hs⟩ := osEnumHead_spec hh
  rw [(closeParen_sound hp).1] at hl hs
  exact ⟨by simp only [List.length_append, List.length_cons] at hl; omega,
    (List.suffix_cons _ _).trans ((List.suffix_append _ _).trans hs)⟩

/-- `body` is the body of a block of `src` named `name`: a suffix of `src` starts with
    `OS_ENUM(name, type,`, and the text after that match is `body` followed by the `)` that
    closes the `(`. -/
def IsBlockOf (src name body : List Char) : Prop :=
  ∃ t rest, t <:+ src ∧ osEnumHead t = some (name, body ++ ')' :: rest) ∧ Closes 0 body

theorem IsBlockOf.mono {src src' name body : List Char} (hs : src <:+ src')
    (h : IsBlockOf src name body) : IsBlockOf src' name body :=
  let ⟨t, rest, ht, hh, hc⟩ := h
  ⟨t, rest, ht.trans hs, hh, hc⟩

theorem osEnumBlocks_fuel {n m : Nat} {s : List Char} (hn : s.length ≤ n) (hm : s.length ≤ m) :
    osEnumBlocks n s = osEnumBlocks m s := by
  induction n generalizing m s with
  | zero => rw [List.eq_nil_of_length_eq_zero (Nat.le_zero.1 hn)]; cases m <;> rfl
  | succ n ih =>
    rcases s with _ | ⟨c, r⟩
    · cases m <;> rfl
    obtain ⟨m, rfl⟩ : ∃ m', m = m' + 1 := ⟨m - 1, by simp at hm; omega⟩
    simp only [List.length_cons, Nat.add_le_add_iff_right] at hn hm
    rcases hh : osEnumHead (c :: r) with _ | ⟨name, after⟩
    · simp only [osEnumBlocks, hh, ih hn hm]
    rcases hp : closeParen 0 after with _ | ⟨body, rest⟩
    · simp only [osEnumBlocks, hh, hp]
    have hlen : rest.length ≤ n ∧ rest.length ≤ m := by
      have := (rest_of_head hh hp).1
      simp only [List.length_cons] at this
      omega
    simp only [osEnumBlocks, hh, hp, ih hlen.1 hlen.2]

theorem osEnumBlocks_ok {n : Nat} {s : List Char} {blocks : List (List Char × List Char)}
    (h : osEnumBlocks n s = .ok blocks) : ∀ b ∈ blocks, IsBlockOf s b.1 b.2 := by
  induction n generalizing s blocks with
  | zero => cases h; simp
  | succ n ih =>
    rcases s with _ | ⟨c, r⟩
    · cases h; simp
    rcases hh : osEnumHead (c :: r) with _ | ⟨name, after⟩
    · simp only [osEnumBlocks, hh] at h
      exact fun b hb => (ih h b hb).mono (List.suffix_cons c r)
    rcases hp : closeParen 0 after with _ | ⟨body, rest⟩
    · simp only [osEnumBlocks, hh, hp] at h
      cases h
    simp only [osEnumBlocks, hh, hp] at h
    rcases hr : osEnumBlocks n rest with _ | bs <;> rw [hr] at h <;> cases h
    obtain ⟨hs, hc⟩ := closeParen_sound hp
    simp only [List.mem_cons, forall_eq_or_imp]
    exact ⟨⟨c :: r, rest, List.suffix_refl _, hs ▸ hh, hc⟩,
      fun b hb => (ih hr b hb).mono (rest_of_head hh hp).2⟩

theorem osEnumBlocks_error {n : Nat} {s : List Char} {msg : String}
    (h : osEnumBlocks n s = .error msg) :
    ∃ t name after, t <:+ s ∧ osEnumHead t = some (name, after) ∧
      closeParen 0 after = none ∧ msg = "unterminated OS_ENUM(" ++ String.mk name ++ ")" := by
  induction n generalizing s with
  | zero => cases h
  | succ n ih =>
    rcases s with _ | ⟨c, r⟩
    · cases h
    rcases hh : osEnumHead (c :: r) with _ | ⟨name, after⟩
    · simp only [osEnumBlocks, hh] at h
      obtain ⟨t, name, after, ht, hrest⟩ := ih h
      exact ⟨t, name, after, ht.trans (List.suffix_cons c r), hrest⟩
    rcases hp : closeParen 0 after with _ | ⟨body, rest⟩
    · simp only [osEnumBlocks, hh, hp, Except.error.injEq] at h
      exact ⟨c :: r, name, after, List.suffix_refl _, hh, hp, h.symm⟩
    simp only [osEnumBlocks, hh, hp] at h
    rcases hr : osEnumBlocks n rest with e | bs <;> rw [hr] at h <;> cases h
    obtain ⟨t, name', after', ht, hrest⟩ := ih hr
    exact ⟨t, name', after', ht.trans (rest_of_head hh hp).2, hrest⟩

/-! ## 4. `parse_os_enum_blocks` -/

/-- **Every block is well formed.**  Each block that `parse_os_enum_blocks` returns is named by
    a nonempty identifier and is the text after an `OS_ENUM(name, type,` head of the header up
    to the `)` that closes the head's `(`. -/
theorem parse_os_enum_blocks_ok {src : List Char} {blocks : List (List Char × List Char)}
    (h : parseOsEnumBlocks src = .ok blocks) :
    ∀ b ∈ blocks,
      b.1 ≠ [] ∧ (∀ c ∈ b.1, isWordChar c = true) ∧ IsBlockOf src b.1 b.2 := by
  intro b hb
  obtain ⟨t, rest, ht, hh, hc⟩ := osEnumBlocks_ok h b hb
  obtain ⟨-, hn, hw, -⟩ := osEnumHead_spec hh
  exact ⟨hn, hw, t, rest, ht, hh, hc⟩

theorem parse_os_enum_blocks_two :
    parseOsEnumBlocks "OS_ENUM(a, t, (A)) B; OS_ENUM(b, t, C);".toList =
        .ok [("a".toList, " (A)".toList), ("b".toList, " C".toList)] ∧
      ∀ b ∈ [("a".toList, " (A)".toList), ("b".toList, " C".toList)], b.1 ≠ [] ∧
        (∀ c ∈ b.1, isWordChar c = true) ∧
        IsBlockOf "OS_ENUM(a, t, (A)) B; OS_ENUM(b, t, C);".toList b.1 b.2 :=
  ⟨rfl, parse_os_enum_blocks_ok rfl⟩

/-- **The error names an unterminated block.**  `parse_os_enum_blocks` raises only for an
    `OS_ENUM(name, type,` head of the header whose `(` no later `)` closes, and the message
    names that enum. -/
theorem parse_os_enum_blocks_error {src : List Char} {msg : String}
    (h : parseOsEnumBlocks src = .error msg) :
    ∃ t name after, t <:+ src ∧ osEnumHead t = some (name, after) ∧
      (∀ body rest, after = body ++ ')' :: rest → ¬ Closes 0 body) ∧
      msg = "unterminated OS_ENUM(" ++ String.mk name ++ ")" := by
  obtain ⟨t, name, after, ht, hh, hp, hm⟩ := osEnumBlocks_error h
  exact ⟨t, name, after, ht, hh, closeParen_eq_none_iff.1 hp, hm⟩

theorem parse_os_enum_blocks_unterminated :
    parseOsEnumBlocks "OS_ENUM(e, t, (A);".toList = .error "unterminated OS_ENUM(e)" ∧
      ∃ t name after, t <:+ "OS_ENUM(e, t, (A);".toList ∧ osEnumHead t = some (name, after) ∧
        (∀ body rest, after = body ++ ')' :: rest → ¬ Closes 0 body) ∧
        "unterminated OS_ENUM(e)" = "unterminated OS_ENUM(" ++ String.mk name ++ ")" :=
  ⟨rfl, parse_os_enum_blocks_error rfl⟩

end CrumbleCracker.Hvf
