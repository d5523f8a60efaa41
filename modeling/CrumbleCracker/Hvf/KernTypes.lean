import CrumbleCracker.Hvf.GoText

/-!
# The kernel header's return codes and memory flags (`parse_hv_kern_types`)

`hv_kern_types.h` gives each `hv_return_t` code as a Mach macro, with its 32-bit pattern in a
comment `/* (0x…) */`, and `HV_SUCCESS` as `0`; it gives the `HV_MEMORY_*` flags as
`(1ull << n)`.  `parse_hv_kern_types` matches each stripped line against three patterns and
writes two Go `const (…)` blocks: the codes as `Return` constants through `to_int32_literal`,
and the flags as `MemoryFlags` constants `0x{v:x}`.

Each pattern is modelled as `re.match` runs it.  Only the `\s*[^,]+` before a code's comment
can match in more than one way: `blanksThenRun` tries the splits in the order of the
backtracking search, and the first that lets the comment match gives the code.

## Results

* `return_code_match_sound`: a line the code pattern accepts starts with the constant's name,
  and the code is `0x` and hex digits standing in parentheses in the line.
* `kern_types_mean`: read as Go, the text `parse_hv_kern_types` writes is a block of `Return`
  constants whose values are the `int32`s with the codes' bits, then a block of `MemoryFlags`
  constants with the flags' values; each block is there when the header has such lines.
-/

namespace CrumbleCracker.Hvf

/-! ## 1. The lines of a header -/

/-- The line boundaries of `str.splitlines`. -/
def isLineBreak (c : Char) : Bool :=
  c == '\n' || c == '\r' || c == '\x0b' || c == '\x0c' || c == '\x1c' || c == '\x1d' ||
    c == '\x1e' || c == '\x85' || c == '\u2028' || c == '\u2029'

/-- `str.splitlines()`, given the current line so far, reversed: the lines without their
    breaks, where `\r\n` is one break and a break at the end opens no line. -/
def splitLinesFrom (line : List Char) : List Char → List (List Char)
  | [] => if line = [] then [] else [line.reverse]
  | '\r' :: '\n' :: r => line.reverse :: splitLinesFrom [] r
  | c :: r =>
    if isLineBreak c then line.reverse :: splitLinesFrom [] r else splitLinesFrom (c :: line) r

/-- `src.splitlines()`. -/
def splitLines (src : List Char) : List (List Char) := splitLinesFrom [] src

example : splitLines "a\r\nb\n\nc\n".toList = ["a".toList, "b".toList, [], "c".toList] := by
  decide

/-! ## 2. The three patterns -/

/-- `[A-Z0-9_]`. -/
def isNameChar (c : Char) : Bool := ('A' ≤ c && c ≤ 'Z') || c.isDigit || c == '_'

/-- `,?`: a comma, if there is one. -/
def dropComma : List Char → List Char
  | ',' :: r => r
  | s => s

/-- `,?\s*/\*\s*\((0x[0-9a-fA-F]+)\)\s*\*/` from the start of `s`, where `,?`, each `\s*`
    and the hex digits can only take all they can: the captured code. -/
def commentCode (s : List Char) : Option (List Char) :=
  match (dropComma s).dropWhile isSpace with
  | '/' :: '*' :: r =>
    match r.dropWhile isSpace with
    | '(' :: '0' :: 'x' :: r =>
      match r.dropWhile isHexDigit with
      | ')' :: r' =>
        if r.takeWhile isHexDigit ≠ [] ∧ "*/".toList.isPrefixOf (r'.dropWhile isSpace) then
          some ('0' :: 'x' :: r.takeWhile isHexDigit)
        else none
      | _ => none
    | _ => none
  | _ => none

/-- `\s*[^,]+` and then `tail`, as `re` backtracks: the most blanks first and, for each, the
    longest run without a comma first. -/
def blanksThenRun {α : Type} (tail : List Char → Option α) (u : List Char) : Option α :=
  (List.range ((u.takeWhile isSpace).length + 1)).reverse.findSome? fun j =>
    (List.range' (j + 1) ((u.takeWhile (· != ',')).length - j)).reverse.findSome? fun i =>
      tail (u.drop i)

/-- `re.match(r"^(HV_[A-Z0-9_]+)\s*=\s*[^,]+,?\s*/\*\s*\((0x[0-9a-fA-F]+)\)\s*\*/", line)`:
    the name and the code. -/
def returnCodeMatch (line : List Char) : Option (List Char × List Char) :=
  if "HV_".toList.isPrefixOf line ∧ (line.drop 3).takeWhile isNameChar ≠ [] then
    match ((line.drop 3).dropWhile isNameChar).dropWhile isSpace with
    | '=' :: u =>
      (blanksThenRun commentCode u).map fun code =>
        ("HV_".toList ++ (line.drop 3).takeWhile isNameChar, code)
    | _ => none
  else none

/-- `re.match(r"^(HV_SUCCESS)\s*=\s*([0-9]+)\s*,?$", line)`: the name and the digits. -/
def successMatch (line : List Char) : Option (List Char × List Char) :=
  if "HV_SUCCESS".toList.isPrefixOf line then
    match (line.drop 10).dropWhile isSpace with
    | '=' :: r =>
      let r := r.dropWhile isSpace
      let rest := (r.dropWhile Char.isDigit).dropWhile isSpace
      if r.takeWhile Char.isDigit ≠ [] ∧ (rest = [] ∨ rest = [',']) then
        some ("HV_SUCCESS".toList, r.takeWhile Char.isDigit)
      else none
    | _ => none
  else none

/-- `=\s*\(\s*1ull\s*<<\s*([0-9]+)\s*\)\s*,?$` from the start of `s`: `int(n, 10)`. -/
def shiftTail : List Char → Option Nat
  | '=' :: r =>
    match r.dropWhile isSpace with
    | '(' :: r =>
      match r.dropWhile isSpace with
      | '1' :: 'u' :: 'l' :: 'l' :: r =>
        match r.dropWhile isSpace with
        | '<' :: '<' :: r =>
          match ((r.dropWhile isSpace).dropWhile Char.isDigit).dropWhile isSpace with
          | ')' :: r' =>
            if (r.dropWhile isSpace).takeWhile Char.isDigit ≠ [] ∧
                (r'.dropWhile isSpace = [] ∨ r'.dropWhile isSpace = [',']) then
              some (readDigits 10 ((r.dropWhile isSpace).takeWhile Char.isDigit))
            else none
          | _ => none
        | _ => none
      | _ => none
    | _ => none
  | _ => none

/-- `re.match(r"^(HV_MEMORY_[A-Z0-9_]+)\s*=\s*\(\s*1ull\s*<<\s*([0-9]+)\s*\)\s*,?$", line)`:
    the name and `1 << int(n, 10)`. -/
def memoryFlagMatch (line : List Char) : Option (List Char × Nat) :=
  if "HV_MEMORY_".toList.isPrefixOf line ∧ (line.drop 10).takeWhile isNameChar ≠ [] then
    (shiftTail (((line.drop 10).dropWhile isNameChar).dropWhile isSpace)).map fun n =>
      ("HV_MEMORY_".toList ++ (line.drop 10).takeWhile isNameChar, 2 ^ n)
  else none

/-! ## 3. `parse_hv_kern_types` -/

/-- The `return_codes` loop: for each stripped line, what each of the two patterns matches. -/
def returnCodes (src : List Char) : List (List Char × List Char) :=
  (splitLines src).flatMap fun line =>
    (returnCodeMatch (strip line)).toList ++ (successMatch (strip line)).toList

/-- The `mem_flags` loop. -/
def memoryFlags (src : List Char) : List (List Char × Nat) :=
  (splitLines src).filterMap fun line => memoryFlagMatch (strip line)

/-- `f"\t{name} Return = {to_int32_literal(val)}"`. -/
def returnLine (c : List Char × List Char) : List Char :=
  '\t' :: c.1 ++ " Return = ".toList ++ toInt32Literal c.2

/-- `f"\t{name} MemoryFlags = 0x{v:x}"`. -/
def memoryLine (f : List Char × Nat) : List Char :=
  '\t' :: f.1 ++ " MemoryFlags = 0x".toList ++ Nat.toDigits 16 f.2

/-- `parse_hv_kern_types()`, on the text of `hv_kern_types.h`. -/
def parseHvKernTypes (src : List Char) : List Char :=
  ['\n'].intercalate
    ((if returnCodes src = [] then [] else
        "const (".toList :: (returnCodes src).map returnLine ++ [")\n".toList]) ++
      (if memoryFlags src = [] then [] else
        "const (".toList :: (memoryFlags src).map memoryLine ++ [")\n".toList]))

/-- The number a captured code stands for: hex after `0x`, decimal otherwise. -/
def codeValue (val : List Char) : Nat :=
  if val.take 2 = ['0', 'x'] then readDigits 16 (val.drop 2) else readDigits 10 val

/-! ## 4. What each pattern accepts -/

theorem dropComma_suffix (s : List Char) : dropComma s <:+ s := by
  unfold dropComma
  split
  · exact List.suffix_cons _ _
  · exact List.suffix_refl _

theorem all_takeWhile (p : Char → Bool) (l : List Char) : (l.takeWhile p).all p = true :=
  List.all_eq_true.2 fun _ hx => List.mem_takeWhile_imp hx

/-- The comment a code is read from: `0x` and hex digits, in parentheses. -/
theorem commentCode_sound {s code : List Char} (h : commentCode s = some code) :
    ∃ hex, hex ≠ [] ∧ hex.all isHexDigit = true ∧ code = '0' :: 'x' :: hex ∧
      '(' :: code ++ [')'] <:+: s := by
  unfold commentCode at h
  split at h
  · next r hr =>
    split at h
    · next r₁ hr₁ =>
      split at h
      · next r₂ hr₂ =>
        split_ifs at h with hc
        cases h
        refine ⟨_, hc.1, all_takeWhile _ _, rfl, ?_⟩
        have hp : '(' :: ('0' :: 'x' :: r₁.takeWhile isHexDigit) ++ [')'] <+:
            r.dropWhile isSpace := by
          rw [hr₁]
          refine ⟨r₂, ?_⟩
          simp only [List.cons_append, List.append_assoc, List.singleton_append, List.nil_append,
            List.cons.injEq, true_and]
          rw [← hr₂, List.takeWhile_append_dropWhile]
        have hs : r.dropWhile isSpace <:+ s :=
          (List.dropWhile_suffix _).trans ((List.suffix_cons _ _).trans ((List.suffix_cons _ _).trans
            ((hr ▸ List.dropWhile_suffix isSpace).trans (dropComma_suffix s))))
        exact hp.isInfix.trans hs.isInfix
      · cases h
    · cases h
  · cases h

/-- What `re`'s search finds is a match of the tail at one split. -/
theorem blanksThenRun_sound {α : Type} {tail : List Char → Option α} {u : List Char} {a : α}
    (h : blanksThenRun tail u = some a) : ∃ i, tail (u.drop i) = some a := by
  obtain ⟨_, -, hj⟩ := List.exists_of_findSome?_eq_some h
  obtain ⟨i, -, hi⟩ := List.exists_of_findSome?_eq_some hj
  exact ⟨i, hi⟩

/-- A prefix the pattern starts with, and the name chars after it. -/
theorem prefix_takeWhile {pre line : List Char} (h : pre.isPrefixOf line = true) (p : Char → Bool) :
    pre ++ (line.drop pre.length).takeWhile p <+: line := by
  obtain ⟨t, rfl⟩ := List.isPrefixOf_iff_prefix.1 h
  rw [List.drop_left]
  exact (List.prefix_append_right_inj pre).2 (List.takeWhile_prefix p)

theorem returnCodeMatch_spec {line name code : List Char}
    (h : returnCodeMatch line = some (name, code)) :
    name <+: line ∧ (∀ c ∈ name, isNameChar c = true) ∧
      ∃ hex, hex ≠ [] ∧ hex.all isHexDigit = true ∧ code = '0' :: 'x' :: hex ∧
        '(' :: code ++ [')'] <:+: line := by
  unfold returnCodeMatch at h
  split_ifs at h with hc
  split at h
  · next u hu =>
    obtain ⟨code', hcode, he⟩ := Option.map_eq_some'.1 h
    obtain ⟨rfl, rfl⟩ := Prod.mk.inj he
    obtain ⟨i, hi⟩ := blanksThenRun_sound hcode
    obtain ⟨hex, hne, hhex, rfl, hin⟩ := commentCode_sound hi
    have hu' : u <:+ line :=
      (List.suffix_cons _ _).trans ((hu ▸ List.dropWhile_suffix isSpace).trans
        ((List.dropWhile_suffix _).trans (List.drop_suffix _ _)))
    refine ⟨prefix_takeWhile hc.1 isNameChar, ?_, hex, hne, hhex, rfl,
      hin.trans ((List.drop_suffix i u).trans hu').isInfix⟩
    intro c hc'
    rcases List.mem_append.1 hc' with hc' | hc'
    · exact (by decide : ∀ c ∈ "HV_".toList, isNameChar c = true) c hc'
    · exact List.mem_takeWhile_imp hc'
  · cases h

theorem successMatch_spec {line name code : List Char}
    (h : successMatch line = some (name, code)) :
    name = "HV_SUCCESS".toList ∧ name <+: line ∧ code ≠ [] ∧ code.all Char.isDigit = true ∧
      code <:+: line := by
  unfold successMatch at h
  split_ifs at h with hc
  split at h
  · next r hr =>
    dsimp only at h
    split_ifs at h with hd
    obtain ⟨rfl, rfl⟩ := Prod.mk.inj (Option.some.inj h)
    refine ⟨rfl, List.isPrefixOf_iff_prefix.1 hc, hd.1, all_takeWhile _ _, ?_⟩
    exact (List.takeWhile_prefix _).isInfix.trans ((List.dropWhile_suffix _).trans
      ((List.suffix_cons _ _).trans ((hr ▸ List.dropWhile_suffix isSpace).trans
        (List.drop_suffix _ _)))).isInfix
  · cases h

theorem memoryFlagMatch_names {line name : List Char} {v : Nat}
    (h : memoryFlagMatch line = some (name, v)) : ∀ c ∈ name, isNameChar c = true := by
  unfold memoryFlagMatch at h
  split_ifs at h
  obtain ⟨n, -, he⟩ := Option.map_eq_some'.1 h
  obtain ⟨rfl, -⟩ := Prod.mk.inj he
  intro c hc
  rcases List.mem_append.1 hc with hc | hc
  · exact (by decide : ∀ c ∈ "HV_MEMORY_".toList, isNameChar c = true) c hc
  · exact List.mem_takeWhile_imp hc

/-! ## 5. The codes of a header -/

theorem mem_returnCodes {src : List Char} {c : List Char × List Char} :
    c ∈ returnCodes src ↔ ∃ line ∈ splitLines src,
      returnCodeMatch (strip line) = some c ∨ successMatch (strip line) = some c := by
  simp only [returnCodes, List.mem_flatMap, List.mem_append, Option.mem_toList, Option.mem_def]

/-- **Every code comes from a line of the header.**  Each code `parse_hv_kern_types` collects
    is read from one stripped line of the header, which starts with the constant's name: the
    code is `0x` and hex digits in parentheses in that line, or the line is `HV_SUCCESS`'s and
    the code is decimal digits in it. -/
theorem return_codes_from_lines {src : List Char} {c : List Char × List Char}
    (hc : c ∈ returnCodes src) :
    ∃ line ∈ splitLines src, c.1 <+: strip line ∧
      ((∃ hex, hex ≠ [] ∧ hex.all isHexDigit = true ∧ c.2 = '0' :: 'x' :: hex ∧
          '(' :: c.2 ++ [')'] <:+: strip line) ∨
        (c.1 = "HV_SUCCESS".toList ∧ c.2 ≠ [] ∧ c.2.all Char.isDigit = true ∧
          c.2 <:+: strip line)) := by
  obtain ⟨line, hl, hm | hm⟩ := mem_returnCodes.1 hc
  · obtain ⟨hp, -, hcode⟩ := returnCodeMatch_spec hm
    exact ⟨line, hl, hp, .inl hcode⟩
  · obtain ⟨hn, hp, hd⟩ := successMatch_spec hm
    exact ⟨line, hl, hp, .inr ⟨hn, hd⟩⟩

/-- `HV_ERROR`'s code is read from the comment of its line. -/
theorem return_codes_from_lines_error :
    let src := "HV_ERROR = err_include_hypervisor | 0x01, /* (0xfae94001) */".toList
    let c := ("HV_ERROR".toList, "0xfae94001".toList)
    c ∈ returnCodes src ∧ ∃ line ∈ splitLines src, c.1 <+: strip line ∧
      ((∃ hex, hex ≠ [] ∧ hex.all isHexDigit = true ∧ c.2 = '0' :: 'x' :: hex ∧
          '(' :: c.2 ++ [')'] <:+: strip line) ∨
        (c.1 = "HV_SUCCESS".toList ∧ c.2 ≠ [] ∧ c.2.all Char.isDigit = true ∧
          c.2 <:+: strip line)) := by
  intro src c
  have hc : c ∈ returnCodes src := by decide
  exact ⟨hc, return_codes_from_lines hc⟩

/-! ## 6. The text, read as Go -/

theorem isNameChar_ne {c : Char} (h : isNameChar c = true) : c ≠ ' ' ∧ c ≠ '\n' := by
  constructor <;> rintro rfl <;> cases h

/-- A line `\t<name><sep><value>` whose separator is ` <type> = `. -/
theorem goConstLine_sep {name sep ty v : List Char} (hsep : sep = ' ' :: ty ++ [' ', '=', ' '])
    (hn : ∀ c ∈ name, c ≠ ' ') (ht : ∀ c ∈ ty, c ≠ ' ') :
    goConstLine ('\t' :: name ++ sep ++ v) = some (name, ty, v) := by
  subst hsep
  rw [← goConstLine_line hn ht]
  simp only [List.cons_append, List.append_assoc, List.nil_append]

/-- A line of a name, a separator and a Go literal holds no line break. -/
theorem line_noBreak {name sep v : List Char} {x : Int} (hn : ∀ c ∈ name, isNameChar c = true)
    (hsep : '\n' ∉ sep) (hv : goIntLiteral v = some x) : '\n' ∉ '\t' :: name ++ sep ++ v := by
  simp only [List.cons_append, List.mem_cons, List.mem_append, not_or]
  refine ⟨by decide, ⟨fun h => (isNameChar_ne (hn _ h)).2 rfl, hsep⟩, fun h => ?_⟩
  rcases (goIntLiteral_words hv).1 _ h with h | h
  · cases h
  · exact (isWordChar_ne h).2 rfl

theorem returnCodes_line {src : List Char} {c : List Char × List Char} (hc : c ∈ returnCodes src)
    (hv : codeValue c.2 < 2 ^ 32) :
    goConstLine (returnLine c) = some (c.1, "Return".toList, toInt32Literal c.2) ∧
      goIntLiteral (toInt32Literal c.2) = some ((codeValue c.2 : Int).bmod (2 ^ 32)) ∧
      '\n' ∉ returnLine c := by
  obtain ⟨name, code⟩ := c
  have hsep : " Return = ".toList = ' ' :: "Return".toList ++ [' ', '=', ' '] := rfl
  obtain ⟨line, -, hm | hm⟩ := mem_returnCodes.1 hc
  · obtain ⟨-, hn, hex, -, hh, rfl, -⟩ := returnCodeMatch_spec hm
    have hval : codeValue ('0' :: 'x' :: hex) = readDigits 16 hex := if_pos rfl
    have hlit := to_int32_literal_value hh (hval ▸ hv)
    rw [← hval] at hlit
    exact ⟨goConstLine_sep hsep (fun c h => (isNameChar_ne (hn c h)).1) (by decide), hlit,
      line_noBreak hn (by decide) hlit⟩
  · obtain ⟨rfl, -, -, hd, -⟩ := successMatch_spec hm
    have hval : codeValue code = readDigits 10 code := by
      refine if_neg fun h => absurd (List.all_eq_true.1 hd 'x' ?_) (by decide)
      exact List.mem_of_mem_take (h ▸ List.mem_cons_of_mem _ (List.mem_singleton_self _))
    have hlit := to_int32_literal_decimal hd (hval ▸ hv)
    rw [← hval] at hlit
    have hn : ∀ c ∈ "HV_SUCCESS".toList, isNameChar c = true := by decide
    exact ⟨goConstLine_sep hsep (fun c h => (isNameChar_ne (hn c h)).1) (by decide), hlit,
      line_noBreak hn (by decide) hlit⟩

theorem memoryFlags_line {src : List Char} {f : List Char × Nat} (hf : f ∈ memoryFlags src) :
    goConstLine (memoryLine f) = some (f.1, "MemoryFlags".toList, '0' :: 'x' :: Nat.toDigits 16 f.2) ∧
      goIntLiteral ('0' :: 'x' :: Nat.toDigits 16 f.2) = some (f.2 : Int) ∧
      '\n' ∉ memoryLine f := by
  obtain ⟨name, v⟩ := f
  obtain ⟨line, -, hm⟩ := List.mem_filterMap.1 hf
  have hn := memoryFlagMatch_names hm
  have hlit : goIntLiteral ('0' :: 'x' :: Nat.toDigits 16 v) = some (v : Int) := by
    simpa using goIntLiteral_hex_int (v : Int)
  have he : memoryLine (name, v) =
      '\t' :: name ++ " MemoryFlags = ".toList ++ ('0' :: 'x' :: Nat.toDigits 16 v) := by
    simp only [memoryLine, List.append_assoc]
    rfl
  rw [he]
  exact ⟨goConstLine_sep rfl (fun c h => (isNameChar_ne (hn c h)).1) (by decide), hlit,
    line_noBreak hn (by decide) hlit⟩

/-- `parse_hv_kern_types` writes the blocks it has lines for. -/
theorem parseHvKernTypes_eq (src : List Char) :
    parseHvKernTypes src = blocksText
      ((if returnCodes src = [] then [] else [(returnCodes src).map returnLine]) ++
        (if memoryFlags src = [] then [] else [(memoryFlags src).map memoryLine])) := by
  unfold parseHvKernTypes blocksText
  split_ifs <;> simp

/-- The constants the kernel header's text holds, block by block: each code's name, `Return`
    and its literal, and each flag's name, `MemoryFlags` and its literal. -/
def kernBlocks (src : List Char) : List (List (List Char × List Char × List Char)) :=
  (if returnCodes src = [] then [] else
    [(returnCodes src).map fun c => (c.1, "Return".toList, toInt32Literal c.2)]) ++
  (if memoryFlags src = [] then [] else
    [(memoryFlags src).map fun f => (f.1, "MemoryFlags".toList, '0' :: 'x' :: Nat.toDigits 16 f.2)])

/-- The Go values of the kernel header's constants: the `int32`s with the codes' bits, and
    the flags. -/
def kernValues (src : List Char) : List (List (List Char × Option Int)) :=
  (if returnCodes src = [] then [] else
    [(returnCodes src).map fun c => (c.1, some ((codeValue c.2 : Int).bmod (2 ^ 32)))]) ++
  (if memoryFlags src = [] then [] else
    [(memoryFlags src).map fun f => (f.1, some (f.2 : Int))])

section Read

variable {src : List Char} (hv : ∀ c ∈ returnCodes src, codeValue c.2 < 2 ^ 32)
include hv

theorem goFile_parseHvKernTypes : goFile (parseHvKernTypes src) = some (kernBlocks src) := by
  have hC : ((returnCodes src).map returnLine).map (fun l => (goConstLine l).getD ([], [], [])) =
      (returnCodes src).map fun c => (c.1, "Return".toList, toInt32Literal c.2) := by
    rw [List.map_map]
    exact List.map_congr_left fun c hc => by simp [(returnCodes_line hc (hv c hc)).1]
  have hM : ((memoryFlags src).map memoryLine).map (fun l => (goConstLine l).getD ([], [], [])) =
      (memoryFlags src).map fun f =>
        (f.1, "MemoryFlags".toList, '0' :: 'x' :: Nat.toDigits 16 f.2) := by
    rw [List.map_map]
    exact List.map_congr_left fun f hf => by simp [(memoryFlags_line hf).1]
  have hk : ∀ b ∈ (if returnCodes src = [] then [] else [(returnCodes src).map returnLine]) ++
      (if memoryFlags src = [] then [] else [(memoryFlags src).map memoryLine]),
      ∀ l ∈ b, '\n' ∉ l ∧ ∃ k, goConstLine l = some k := by
    intro b hb l hl
    have hb' : b = (returnCodes src).map returnLine ∨ b = (memoryFlags src).map memoryLine := by
      split_ifs at hb <;> simp_all
    rcases hb' with rfl | rfl <;> obtain ⟨x, hx, rfl⟩ := List.mem_map.1 hl
    · exact ⟨(returnCodes_line hx (hv x hx)).2.2, _, (returnCodes_line hx (hv x hx)).1⟩
    · exact ⟨(memoryFlags_line hx).2.2, _, (memoryFlags_line hx).1⟩
  rw [parseHvKernTypes_eq, goFile_blocksText hk, kernBlocks]
  split_ifs <;> simp only [List.map_append, List.map_cons, List.map_nil, hC, hM]

theorem kernBlocks_values : (kernBlocks src).map goBlockValues = kernValues src := by
  have hCv : goBlockValues ((returnCodes src).map fun c =>
      (c.1, "Return".toList, toInt32Literal c.2)) =
      (returnCodes src).map fun c => (c.1, some ((codeValue c.2 : Int).bmod (2 ^ 32))) := by
    rw [goBlockValues, List.map_map, goConstValues_literals, List.map_map]
    · exact List.map_congr_left fun c hc => by simp [(returnCodes_line hc (hv c hc)).2.1]
    · simp only [List.mem_map]
      rintro _ ⟨c, hc, rfl⟩
      exact ⟨_, (returnCodes_line hc (hv c hc)).2.1⟩
  have hMv : goBlockValues ((memoryFlags src).map fun f =>
      (f.1, "MemoryFlags".toList, '0' :: 'x' :: Nat.toDigits 16 f.2)) =
      (memoryFlags src).map fun f => (f.1, some (f.2 : Int)) := by
    rw [goBlockValues, List.map_map, goConstValues_literals, List.map_map]
    · exact List.map_congr_left fun f hf => by simp [(memoryFlags_line hf).2.1]
    · simp only [List.mem_map]
      rintro _ ⟨f, hf, rfl⟩
      exact ⟨_, (memoryFlags_line hf).2.1⟩
  rw [kernBlocks, kernValues]
  split_ifs <;> simp only [List.map_append, List.map_cons, List.map_nil, hCv, hMv]

end Read

/-- **The kernel header's constants, read as Go.**  For every header whose codes fit in
    32 bits, the text `parse_hv_kern_types` writes reads back as a block of `Return` constants,
    one for each code in order, whose Go values are the `int32`s with the codes' bits, then a
    block of `MemoryFlags` constants whose Go values are the flags'; a block is there exactly
    when the header has lines for it. -/
theorem kern_types_mean (src : List Char)
    (hv : ∀ c ∈ returnCodes src, codeValue c.2 < 2 ^ 32) :
    ∃ blocks, goFile (parseHvKernTypes src) = some blocks ∧
      blocks.map (List.map fun k => (k.1, k.2.1)) =
        (if returnCodes src = [] then [] else
          [(returnCodes src).map fun c => (c.1, "Return".toList)]) ++
        (if memoryFlags src = [] then [] else
          [(memoryFlags src).map fun f => (f.1, "MemoryFlags".toList)]) ∧
      blocks.map goBlockValues =
        (if returnCodes src = [] then [] else
          [(returnCodes src).map fun c => (c.1, some ((codeValue c.2 : Int).bmod (2 ^ 32)))]) ++
        (if memoryFlags src = [] then [] else
          [(memoryFlags src).map fun f => (f.1, some (f.2 : Int))]) := by
  refine ⟨_, goFile_parseHvKernTypes hv, ?_, kernBlocks_values hv⟩
  rw [kernBlocks]
  split_ifs <;> simp only [List.map_append, List.map_cons, List.map_nil, List.map_map] <;> rfl

/-- `HV_SUCCESS`, `HV_ERROR` and `HV_MEMORY_READ`: a block with `0` and `-0x516bfff`, and a
    block with `1`. -/
theorem kern_types_mean_sample :
    let src := "HV_SUCCESS = 0,\nHV_ERROR = e | 0x01, /* (0xfae94001) */\nHV_MEMORY_READ = (1ull << 0),\n".toList
    (∀ c ∈ returnCodes src, codeValue c.2 < 2 ^ 32) ∧
    ∃ blocks, goFile (parseHvKernTypes src) = some blocks ∧
      blocks.map (List.map fun k => (k.1, k.2.1)) =
        (if returnCodes src = [] then [] else
          [(returnCodes src).map fun c => (c.1, "Return".toList)]) ++
        (if memoryFlags src = [] then [] else
          [(memoryFlags src).map fun f => (f.1, "MemoryFlags".toList)]) ∧
      blocks.map goBlockValues =
        (if returnCodes src = [] then [] else
          [(returnCodes src).map fun c => (c.1, some ((codeValue c.2 : Int).bmod (2 ^ 32)))]) ++
        (if memoryFlags src = [] then [] else
          [(memoryFlags src).map fun f => (f.1, some (f.2 : Int))]) := by
  intro src
  have hv : ∀ c ∈ returnCodes src, codeValue c.2 < 2 ^ 32 := by decide
  exact ⟨hv, kern_types_mean src hv⟩

end CrumbleCracker.Hvf
