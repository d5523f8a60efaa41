import Mathlib.Algebra.Group.Int
import Mathlib.Data.List.Basic
import Mathlib.Data.List.Infix
import CrumbleCracker.Digits

/-!
# The constant generator for Hypervisor.framework (`gen_consts_from_sdk.py`)

`generate_go_consts_for_os_enum` turns one `OS_ENUM(name, type, …)` block of an SDK header
into a Go `const (…)` block.  `parse_os_enum_blocks` cuts the block's body out of the header
text, `clean_enum_body` removes comments and availability attributes, `parse_enum_items`
splits the enumerators at commas, and the generator numbers them, keeping the last value in
`cur` and every value it has computed in `known`.  Text is a list of characters, and each
regular expression is the scan that `re.sub` or `re.search` makes with it.

C numbers an enumerator without an initializer one past the enumerator before it, and the
first one `0`; an initializer gives its value.  `enumValues` is that rule over any evaluation
of initializers: `cEnumValues` evaluates them as C does, and the generator evaluates them
with `toolInit`.

## Results

* `genLoop_names`: the generator emits one constant per enumerator, in order.
* `genLoop_values`: when `toolInit` evaluates every initializer, the constants carry the
  values of `enumValues toolInit`: the loop implements C's numbering.
* `genStep_restart`: when it cannot, the constant is emitted verbatim and the next
  enumerator without an initializer restarts at `0`.
* `toolInit_decimal`, `toolInit_hex`, `toolInit_shift`, `toolInit_name`: the initializers
  `toolInit` evaluates as C does.
* `enum_values_diverge`: inputs where the generated constants and C part.
-/

namespace CrumbleCracker.Hvf

/-! ## 1. Characters and `re.sub` -/

/-- Python's whitespace: what `\s` matches and `str.strip()` removes. -/
def isSpace (c : Char) : Bool :=
  c == ' ' || ('\t' ≤ c && c ≤ '\r') || (0x1c ≤ c.toNat && c.toNat ≤ 0x1f) ||
    (0x2000 ≤ c.toNat && c.toNat ≤ 0x200a) ||
    [0x85, 0xa0, 0x1680, 0x2028, 0x2029, 0x202f, 0x205f, 0x3000].contains c.toNat

/-- `\w` on the ASCII text of the headers, and `[a-zA-Z0-9_]`. -/
def isWordChar (c : Char) : Bool := c.isAlphanum || c == '_'

/-- `[0-9a-fA-F]`. -/
def isHexDigit (c : Char) : Bool :=
  c.isDigit || ('a' ≤ c && c ≤ 'f') || ('A' ≤ c && c ≤ 'F')

/-- `str.strip()`. -/
def strip (s : List Char) : List Char :=
  ((s.dropWhile isSpace).reverse.dropWhile isSpace).reverse

/-- One match of a pattern at one position of a text, given the character before the
    position (`none` at the start, for `\b` and `^`): the replacement and the text after the
    match.  Every pattern here matches at least one character. -/
abbrev Matcher := Option Char → List Char → Option (List Char × List Char)

/-- The scan of `re.sub`: from the left, at each position the pattern either matches, and
    the match is replaced and the scan goes on after it, or the character is kept. -/
def subScan (m : Matcher) : Nat → Option Char → List Char → List Char
  | 0, _, s => s
  | _ + 1, _, [] => []
  | n + 1, prev, c :: r =>
    match m prev (c :: r) with
    | some (repl, rest) =>
      repl ++ subScan m n (((c :: r).take ((c :: r).length - rest.length)).getLast?) rest
    | none => c :: subScan m n (some c) r

/-- `re.sub(pattern, repl, s)`. -/
def reSub (m : Matcher) (s : List Char) : List Char := subScan m s.length none s

/-- `\b` before a word character: the character before is not one. -/
def wordStart (prev : Option Char) : Bool := !(prev.any isWordChar)

/-- `s.replace(old, "")`: the occurrences of `old`, from the left, not overlapping. -/
def literal (old : String) : Matcher := fun _ s =>
  if old.toList.isPrefixOf s then some ([], s.drop old.length) else none

/-! ## 2. Comments and attributes (`strip_comments`, `clean_enum_body`) -/

/-- The text after the first `*/`. -/
def afterClose : List Char → Option (List Char)
  | '*' :: '/' :: r => some r
  | _ :: r => afterClose r
  | [] => none

/-- `/\*.*?\*/` with `re.S`. -/
def blockComment : Matcher
  | _, '/' :: '*' :: r => (afterClose r).map fun rest => ([], rest)
  | _, _ => none

/-- `//.*?$` with `re.M`: up to the end of the line. -/
def lineComment : Matcher
  | _, '/' :: '/' :: r => some ([], r.dropWhile (· != '\n'))
  | _, _ => none

/-- `strip_comments`. -/
def stripComments (s : List Char) : List Char := reSub lineComment (reSub blockComment s)

/-- `(?:[^()]|\([^()]*\))*\)`, greedy, after the opening parenthesis; `inGroup` inside an
    inner `(…)`.  A parenthesis nested deeper ends the match without a closing one. -/
def attrArgs : Bool → List Char → Option (List Char)
  | false, ')' :: r => some r
  | false, '(' :: r => attrArgs true r
  | false, _ :: r => attrArgs false r
  | true, ')' :: r => attrArgs false r
  | true, '(' :: _ => none
  | true, _ :: r => attrArgs true r
  | _, [] => none

/-- `\bname\s*\((?:[^()]|\([^()]*\))*\)`, for `API_AVAILABLE` and `API_UNAVAILABLE`. -/
def availability (name : String) : Matcher := fun prev s =>
  if name.toList.isPrefixOf s && wordStart prev then
    match (s.drop name.length).dropWhile isSpace with
    | '(' :: r => (attrArgs false r).map fun rest => ([], rest)
    | _ => none
  else none

/-- `\bOS_ENUM\b.*?$` with `re.M`. -/
def osEnumLine : Matcher := fun prev s =>
  if "OS_ENUM".toList.isPrefixOf s && wordStart prev && !((s.drop 7).head?.any isWordChar) then
    some ([], (s.drop 7).dropWhile (· != '\n'))
  else none

/-- The position of the last newline. -/
def lastNewline : List Char → Option Nat
  | [] => none
  | c :: r =>
    match lastNewline r with
    | some p => some (p + 1)
    | none => if c = '\n' then some 0 else none

/-- Where a greedy `\s*$` with `re.M` ends: after all the whitespace if it reaches the end of
    the text, else before the last newline of the whitespace. -/
def spaceToEol (r : List Char) : Option Nat :=
  if (r.dropWhile isSpace).isEmpty then some r.length else lastNewline (r.takeWhile isSpace)

/-- `^\s*\)\s*$` with `re.M`: a line of whitespace and one `)`. -/
def parenLine : Matcher := fun prev s =>
  if prev = none ∨ prev = some '\n' then
    match s.dropWhile isSpace with
    | ')' :: r => (spaceToEol r).map fun p => ([], r.drop p)
    | _ => none
  else none

/-- `clean_enum_body`. -/
def cleanEnumBody (body : List Char) : List Char :=
  reSub parenLine <| reSub osEnumLine <| reSub (availability "API_UNAVAILABLE") <|
    reSub (availability "API_AVAILABLE") (stripComments body)

/-! ## 3. Initializers (`normalize_expr`, `try_parse_int`) -/

/-- `\bname\s*\(\s*([0-9]+)\s*\)` replaced by the digits, for `UINT64_C` and `UINT32_C`. -/
def uintMacro (name : String) : Matcher := fun prev s =>
  if name.toList.isPrefixOf s && wordStart prev then
    match (s.drop name.length).dropWhile isSpace with
    | '(' :: r =>
      let r := r.dropWhile isSpace
      match (r.dropWhile Char.isDigit).dropWhile isSpace with
      | ')' :: rest => if r.takeWhile Char.isDigit = [] then none else some (r.takeWhile Char.isDigit, rest)
      | _ => none
    | _ => none
  else none

/-- `normalize_expr`. -/
def normalizeExpr (expr : List Char) : List Char :=
  let e := reSub (uintMacro "UINT32_C") (reSub (uintMacro "UINT64_C") (strip expr))
  strip (reSub (literal "UL") (reSub (literal "ul") (reSub (literal "ULL") (reSub (literal "ull") e))))

/-- `\(\s*1\s*<<\s*([0-9]+)\s*\)`: the shift. -/
def shiftOperand : List Char → Option Nat
  | '(' :: r =>
    match r.dropWhile isSpace with
    | '1' :: r =>
      match r.dropWhile isSpace with
      | '<' :: '<' :: r =>
        let r := r.dropWhile isSpace
        if r.takeWhile Char.isDigit ≠ [] ∧ (r.dropWhile Char.isDigit).dropWhile isSpace = [')'] then
          some (readDigits 10 (r.takeWhile Char.isDigit))
        else none
      | _ => none
    | _ => none
  | _ => none

/-- `try_parse_int`: `0x[0-9a-fA-F]+`, then `[0-9]+`, then `(1 << n)`, after
    `normalize_expr`.  (The source tests the shift eight times over; one test does the same.) -/
def tryParseInt (expr : List Char) : Option Nat :=
  let e := normalizeExpr expr
  if e.take 2 = ['0', 'x'] ∧ e.drop 2 ≠ [] ∧ (e.drop 2).all isHexDigit then
    some (readDigits 16 (e.drop 2))
  else if e ≠ [] ∧ e.all Char.isDigit then some (readDigits 10 e)
  else (shiftOperand e).map (2 ^ ·)

/-- `[A-Za-z_][A-Za-z0-9_]*`. -/
def isIdentifier : List Char → Bool
  | c :: r => (c.isAlpha || c == '_') && r.all isWordChar
  | [] => false

/-! ## 4. The enumerators and the generator -/

/-- `parse_enum_items`: the comma-separated pieces of the cleaned body that are not blank,
    each a name and, after its first `=`, an initializer. -/
def parseEnumItems (body : List Char) : List (List Char × Option (List Char)) :=
  ((cleanEnumBody body).splitOn ',').filterMap fun raw =>
    if strip raw = [] then none
    else if '=' ∈ strip raw then
      some (strip ((strip raw).takeWhile (· != '=')),
        some (strip (((strip raw).dropWhile (· != '=')).drop 1)))
    else some (strip raw, none)

/-- The right-hand side of a generated constant. -/
inductive Rhs
  /-- `{cur}`, for an enumerator without an initializer -/
  | implicit (v : Nat)
  /-- `0x{v:x}` from 16 on, else `{v}` -/
  | value (v : Nat)
  /-- the name of an earlier constant -/
  | alias (target : List Char)
  /-- the normalized initializer, as it stands -/
  | verbatim (expr : List Char)
  deriving DecidableEq, Repr

/-- The generator's variables: `known`, newest first, `cur`, and the lines so far. -/
structure GenState where
  known : List (List Char × Nat)
  cur : Option Nat
  lines : List (List Char × Rhs)
  deriving DecidableEq, Repr

/-- `known[name]`. -/
def lookupKnown (known : List (List Char × Nat)) (name : List Char) : Option Nat :=
  known.lookup name

/-- One enumerator of the loop of `generate_go_consts_for_os_enum`. -/
def genStep (g : GenState) : List Char × Option (List Char) → GenState
  | (name, none) =>
    let cur := (g.cur.map (· + 1)).getD 0
    ⟨(name, cur) :: g.known, some cur, g.lines ++ [(name, .implicit cur)]⟩
  | (name, some expr) =>
    let e := normalizeExpr expr
    match (if isIdentifier e then lookupKnown g.known e else none) with
    | some v => ⟨(name, v) :: g.known, some v, g.lines ++ [(name, .alias e)]⟩
    | none =>
      match tryParseInt e with
      | some v => ⟨(name, v) :: g.known, some v, g.lines ++ [(name, .value v)]⟩
      | none => ⟨g.known, none, g.lines ++ [(name, .verbatim e)]⟩

/-- The loop over the enumerators. -/
def genLoop (items : List (List Char × Option (List Char))) : GenState :=
  items.foldl genStep ⟨[], none, []⟩

/-- `ENUM_MAP`. -/
def enumMap : List (String × String) :=
  [("hv_exit_reason", "ExitReason"), ("hv_reg", "Reg"), ("hv_simd_fp_reg", "SIMDReg"),
    ("hv_sme_z_reg", "SMEZReg"), ("hv_sme_p_reg", "SMEPReg"), ("hv_sys_reg", "SysReg"),
    ("hv_interrupt_type", "InterruptType"), ("hv_cache_type", "CacheType"),
    ("hv_feature_reg", "FeatureReg"), ("hv_gic_intid", "GICIntID"),
    ("hv_gic_distributor_reg", "GICDistributorReg"),
    ("hv_gic_redistributor_reg", "GICRedistributorReg"), ("hv_gic_icc_reg", "GICICCReg"),
    ("hv_gic_ich_reg", "GICICHReg"), ("hv_gic_icv_reg", "GICICVReg"),
    ("hv_gic_msi_reg", "GICMSIReg")]

/-- The text of a right-hand side. -/
def Rhs.render : Rhs → List Char
  | .implicit v => Nat.toDigits 10 v
  | .value v => if 16 ≤ v then '0' :: 'x' :: Nat.toDigits 16 v else Nat.toDigits 10 v
  | .alias target => target
  | .verbatim expr => expr

/-- `f"\t{name} {go_type} = …"`. -/
def renderLine (goType : String) (line : List Char × Rhs) : List Char :=
  '\t' :: line.1 ++ ' ' :: goType.toList ++ [' ', '=', ' '] ++ line.2.render

/-- `generate_go_consts_for_os_enum`. -/
def generateGoConstsForOsEnum (enumName : String) (body : List Char) : Option (List Char) :=
  match enumMap.lookup enumName with
  | none => none
  | some goType =>
    let g := genLoop (parseEnumItems body)
    if g.lines = [] then none
    else some ("const (\n".toList ++ ['\n'].intercalate (g.lines.map (renderLine goType)) ++
      "\n)\n".toList)

/-! ## 5. The blocks of a header (`parse_os_enum_blocks`) -/

/-- `OS_ENUM\s*\(\s*([a-zA-Z0-9_]+)\s*,\s*([a-zA-Z0-9_]+)\s*,` at one position: the enum
    name and the text after the match. -/
def osEnumHead (s : List Char) : Option (List Char × List Char) :=
  if "OS_ENUM".toList.isPrefixOf s then
    match (s.drop 7).dropWhile isSpace with
    | '(' :: r =>
      let r := r.dropWhile isSpace
      match (r.dropWhile isWordChar).dropWhile isSpace with
      | ',' :: r' =>
        let r' := r'.dropWhile isSpace
        match (r'.dropWhile isWordChar).dropWhile isSpace with
        | ',' :: rest =>
          if r.takeWhile isWordChar ≠ [] ∧ r'.takeWhile isWordChar ≠ [] then
            some (r.takeWhile isWordChar, rest)
          else none
        | _ => none
      | _ => none
    | _ => none
  else none

/-- The depth scan from the `(` of `OS_ENUM(`: the text up to the `)` that brings the depth
    back to zero, and the text after it; `depth` is the depth less one. -/
def closeParen : Nat → List Char → Option (List Char × List Char)
  | _, [] => none
  | depth, '(' :: r => (closeParen (depth + 1) r).map fun p => ('(' :: p.1, p.2)
  | 0, ')' :: r => some ([], r)
  | depth + 1, ')' :: r => (closeParen depth r).map fun p => (')' :: p.1, p.2)
  | depth, c :: r => (closeParen depth r).map fun p => (c :: p.1, p.2)

/-- The search loop of `parse_os_enum_blocks`, with the `RuntimeError` it raises. -/
def osEnumBlocks : Nat → List Char → Except String (List (List Char × List Char))
  | 0, _ => .ok []
  | _ + 1, [] => .ok []
  | n + 1, c :: r =>
    match osEnumHead (c :: r) with
    | some (name, afterHead) =>
      match closeParen 0 afterHead with
      | some (body, rest) => ((name, body) :: ·) <$> osEnumBlocks n rest
      | none => .error ("unterminated OS_ENUM(" ++ String.mk name ++ ")")
    | none => osEnumBlocks n r

/-- `parse_os_enum_blocks`. -/
def parseOsEnumBlocks (src : List Char) : Except String (List (List Char × List Char)) :=
  osEnumBlocks src.length src

/-! ## 6. Numbering enumerators -/

/-- The value of one enumerator, given the values so far (newest first) and the value of the
    enumerator before it: its initializer's value under `eval`, or one past the enumerator
    before it, `0` for the first. -/
def nextValue (eval : List (List Char × Nat) → List Char → Option Nat)
    (env : List (List Char × Nat)) (prev : Option Nat) : Option (List Char) → Option Nat
  | none => some ((prev.map (· + 1)).getD 0)
  | some e => eval env e

/-- C's numbering of the enumerators under an evaluation of initializers; `none` when an
    initializer has no value under it. -/
def enumValues (eval : List (List Char × Nat) → List Char → Option Nat) :
    List (List Char × Nat) → Option Nat → List (List Char × Option (List Char)) →
      Option (List (List Char × Nat))
  | _, _, [] => some []
  | env, prev, (name, init) :: items =>
    match nextValue eval env prev init with
    | some v => ((name, v) :: ·) <$> enumValues eval ((name, v) :: env) (some v) items
    | none => none

/-- How the generator evaluates an initializer: the name of a constant it knows, else
    `try_parse_int`, both after `normalize_expr`. -/
def toolInit (known : List (List Char × Nat)) (expr : List Char) : Option Nat :=
  (if isIdentifier (normalizeExpr expr) then lookupKnown known (normalizeExpr expr) else none).orElse
    fun _ => tryParseInt (normalizeExpr expr)

/-- One step of the loop extends the lines by one constant, named after the enumerator. -/
theorem genStep_lines (g : GenState) (item : List Char × Option (List Char)) :
    ∃ r, (genStep g item).lines = g.lines ++ [(item.1, r)] := by
  obtain ⟨name, _ | e⟩ := item
  · exact ⟨_, rfl⟩
  · simp only [genStep]
    split
    · exact ⟨_, rfl⟩
    · split <;> exact ⟨_, rfl⟩

theorem foldl_genStep_names (items : List (List Char × Option (List Char))) (g : GenState) :
    (items.foldl genStep g).lines.map Prod.fst = g.lines.map Prod.fst ++ items.map Prod.fst := by
  induction items generalizing g with
  | nil => simp
  | cons item items ih =>
    obtain ⟨r, hr⟩ := genStep_lines g item
    simp [ih, hr]

/-- **One constant per enumerator.** The generator emits a constant for every enumerator it
    is given, under the enumerator's name and in the same order. -/
theorem genLoop_names (items : List (List Char × Option (List Char))) :
    (genLoop items).lines.map Prod.fst = items.map Prod.fst := by
  simpa using foldl_genStep_names items ⟨[], none, []⟩

/-- **The numbering restarts.** An initializer `toolInit` cannot evaluate is copied as it
    stands and empties `cur`, so an enumerator without an initializer right after it gets
    `0`, whatever came before. -/
theorem genStep_restart {g : GenState} {name name' e : List Char} (h : toolInit g.known e = none) :
    (genStep (genStep g (name, some e)) (name', none)).lines =
      g.lines ++ [(name, .verbatim (normalizeExpr e)), (name', .implicit 0)] := by
  simp only [toolInit, Option.orElse] at h
  simp only [genStep]
  split
  · next v hv => rw [hv] at h; cases h
  · next hv =>
    rw [hv] at h
    dsimp only at h
    rw [h]
    simp

/-! ## 7. The values C gives -/

/-- C's integer suffixes: none, `u`, `l` or `ll`, and `u` with `l` or `ll` in either order,
    each in either case. -/
def cSuffixes : List (List Char) :=
  ["", "u", "U", "l", "L", "ll", "LL", "ul", "uL", "Ul", "UL", "lu", "lU", "Lu", "LU", "ull",
    "uLL", "Ull", "ULL", "llu", "llU", "LLu", "LLU"].map String.toList

/-- The value of a C integer literal: hexadecimal after `0x` or `0X`, octal after a leading
    `0`, decimal otherwise, and then an integer suffix. -/
def cLiteral (s : List Char) : Option Nat :=
  if s.take 2 = ['0', 'x'] ∨ s.take 2 = ['0', 'X'] then
    if (s.drop 2).takeWhile isHexDigit ≠ [] ∧ (s.drop 2).dropWhile isHexDigit ∈ cSuffixes then
      some (readDigits 16 ((s.drop 2).takeWhile isHexDigit))
    else none
  else if s.takeWhile Char.isDigit ≠ [] ∧ s.dropWhile Char.isDigit ∈ cSuffixes then
    if s.head? = some '0' then
      if (s.takeWhile Char.isDigit).all (· ≤ '7') then
        some (readDigits 8 (s.takeWhile Char.isDigit))
      else none
    else some (readDigits 10 (s.takeWhile Char.isDigit))
  else none

/-- C's white space. -/
def isCSpace (c : Char) : Bool := c == ' ' || ('\t' ≤ c && c ≤ '\r')

/-- `(1 << n)`, with white space between the tokens. -/
def cShift : List Char → Option Nat
  | '(' :: r =>
    let r := r.dropWhile isCSpace
    match (r.dropWhile Char.isAlphanum).dropWhile isCSpace with
    | '<' :: '<' :: r' =>
      let r' := r'.dropWhile isCSpace
      if cLiteral (r.takeWhile Char.isAlphanum) = some 1 ∧
          (r'.dropWhile Char.isAlphanum).dropWhile isCSpace = [')'] then
        (cLiteral (r'.takeWhile Char.isAlphanum)).map (2 ^ ·)
      else none
    | _ => none
  | _ => none

/-- The value C gives an initializer as `parse_enum_items` leaves it: an integer literal,
    `(1 << n)`, or the name of an earlier enumerator; `none` for anything else. -/
def cInitValue (env : List (List Char × Nat)) (e : List Char) : Option Nat :=
  (cLiteral e).orElse fun _ => (cShift e).orElse fun _ =>
    if isIdentifier e then env.lookup e else none

/-- The values C gives the enumerators. -/
def cEnumValues (items : List (List Char × Option (List Char))) :
    Option (List (List Char × Nat)) :=
  enumValues cInitValue [] none items

/-! ## 8. Where the generator evaluates as C does -/

section Chars

theorem char_le_iff {a b : Char} : a ≤ b ↔ a.toNat ≤ b.toNat := by
  simp only [Char.le_def, UInt32.le_def, BitVec.le_def]
  rfl

theorem char_eq_iff {a b : Char} : a = b ↔ a.toNat = b.toNat :=
  ⟨congrArg Char.toNat, fun h => Char.ext (UInt32.eq_of_toBitVec_eq (BitVec.eq_of_toNat_eq h))⟩

theorem char_val_ge {c : Char} {n : UInt32} : c.val ≥ n ↔ n.toNat ≤ c.toNat := by
  simp only [ge_iff_le, UInt32.le_def, BitVec.le_def]
  rfl

theorem char_val_le {c : Char} {n : UInt32} : c.val ≤ n ↔ c.toNat ≤ n.toNat := by
  simp only [UInt32.le_def, BitVec.le_def]
  rfl

theorem isWordChar_toNat {c : Char} (h : isWordChar c = true) :
    (65 ≤ c.toNat ∧ c.toNat ≤ 90) ∨ (97 ≤ c.toNat ∧ c.toNat ≤ 122) ∨
      (48 ≤ c.toNat ∧ c.toNat ≤ 57) ∨ c.toNat = 95 := by
  simp only [isWordChar, Char.isAlphanum, Char.isAlpha, Char.isUpper, Char.isLower,
    Char.isDigit, Bool.or_eq_true, Bool.and_eq_true, decide_eq_true_eq, beq_iff_eq,
    char_val_ge, char_val_le, char_eq_iff, UInt32.reduceToNat] at h
  have : '_'.toNat = 95 := rfl
  omega

theorem isSpace_toNat {c : Char} (h : isSpace c = true) :
    c.toNat = 32 ∨ (9 ≤ c.toNat ∧ c.toNat ≤ 13) ∨ (28 ≤ c.toNat ∧ c.toNat ≤ 31) ∨
      128 ≤ c.toNat := by
  simp only [isSpace, Bool.or_eq_true, Bool.and_eq_true, decide_eq_true_eq, beq_iff_eq,
    char_le_iff, char_eq_iff, List.contains, List.elem_iff, List.mem_cons, List.mem_singleton,
    List.not_mem_nil, or_false] at h
  have : ' '.toNat = 32 ∧ '\t'.toNat = 9 ∧ '\r'.toNat = 13 := ⟨rfl, rfl, rfl⟩
  omega

/-- A word character is not white space. -/
theorem isWordChar_not_isSpace {c : Char} (h : isWordChar c = true) : isSpace c = false := by
  cases hs : isSpace c
  · rfl
  · have := isWordChar_toNat h
    have := isSpace_toNat hs
    omega

theorem isHexDigit_isWordChar {c : Char} (h : isHexDigit c = true) : isWordChar c = true := by
  simp only [isHexDigit, isWordChar, Char.isAlphanum, Char.isAlpha, Char.isUpper,
    Char.isLower, Char.isDigit, Bool.or_eq_true, Bool.and_eq_true, decide_eq_true_eq,
    beq_iff_eq, char_val_ge, char_val_le, char_le_iff, UInt32.reduceToNat] at h ⊢
  have : 'a'.toNat = 97 ∧ 'f'.toNat = 102 ∧ 'A'.toNat = 65 ∧ 'F'.toNat = 70 :=
    ⟨rfl, rfl, rfl, rfl⟩
  omega

theorem isDigit_isHexDigit {c : Char} (h : c.isDigit = true) : isHexDigit c = true := by
  simp [isHexDigit, h]

theorem isDigit_toNat {c : Char} (h : c.isDigit = true) : 48 ≤ c.toNat ∧ c.toNat ≤ 57 := by
  simpa only [Char.isDigit, Bool.and_eq_true, decide_eq_true_eq, char_val_ge, char_val_le,
    UInt32.reduceToNat] using h

theorem isHexDigit_toNat {c : Char} (h : isHexDigit c = true) :
    (48 ≤ c.toNat ∧ c.toNat ≤ 57) ∨ (97 ≤ c.toNat ∧ c.toNat ≤ 102) ∨ (65 ≤ c.toNat ∧ c.toNat ≤ 70) := by
  simp only [isHexDigit, Char.isDigit, Bool.or_eq_true, Bool.and_eq_true, decide_eq_true_eq,
    char_val_ge, char_val_le, char_le_iff, UInt32.reduceToNat] at h
  have : 'a'.toNat = 97 ∧ 'f'.toNat = 102 ∧ 'A'.toNat = 65 ∧ 'F'.toNat = 70 :=
    ⟨rfl, rfl, rfl, rfl⟩
  omega

theorem isDigit_isAlphanum {c : Char} (h : c.isDigit = true) : c.isAlphanum = true := by
  simp only [Char.isAlphanum, h, Bool.or_true]

end Chars


/-! ### Text the scans leave as it is -/

theorem dropWhile_of_head {p : Char → Bool} {l : List Char} (h : ∀ c ∈ l.head?, p c = false) :
    l.dropWhile p = l := by
  cases l with
  | nil => rfl
  | cons c r => exact List.dropWhile_cons_of_neg (by simpa using h)

theorem strip_eq_self {s : List Char} (hh : ∀ c ∈ s.head?, isSpace c = false)
    (hl : ∀ c ∈ s.getLast?, isSpace c = false) : strip s = s := by
  rw [strip, dropWhile_of_head hh, dropWhile_of_head (by rwa [List.head?_reverse]),
    List.reverse_reverse]

theorem subScan_append {m : Matcher} {ds : List Char} (hm : ∀ c ∈ ds, ∀ p t, m p (c :: t) = none)
    (k : Nat) (prev : Option Char) (t : List Char) :
    subScan m (ds.length + k) prev (ds ++ t) = ds ++ subScan m k (ds.getLast?.or prev) t := by
  induction ds generalizing prev with
  | nil => simp
  | cons c ds ih =>
    rw [List.length_cons, Nat.add_right_comm, List.cons_append, subScan,
      hm c (List.mem_cons_self _ _), ih fun c' hc' => hm c' (List.mem_cons_of_mem _ hc')]
    cases ds <;> simp [List.getLast?_cons]

theorem reSub_append {m : Matcher} {ds : List Char} (hm : ∀ c ∈ ds, ∀ p t, m p (c :: t) = none)
    (t : List Char) : reSub m (ds ++ t) = ds ++ subScan m t.length ds.getLast? t := by
  rw [reSub, List.length_append, subScan_append hm, Option.or_none]

theorem literal_cons {old : String} {a c : Char} {l t : List Char} (hold : old.toList = a :: l)
    (hac : a ≠ c) (p : Option Char) : literal old p (c :: t) = none := by
  have : (a == c) = false := beq_eq_false_iff_ne.2 hac
  simp only [literal, hold, List.isPrefixOf, this, Bool.false_and, Bool.false_eq_true, if_false]

theorem uintMacro_cons {name : String} {a c : Char} {l t : List Char} (hname : name.toList = a :: l)
    (hac : a ≠ c) (p : Option Char) : uintMacro name p (c :: t) = none := by
  have : (a == c) = false := beq_eq_false_iff_ne.2 hac
  simp only [uintMacro, hname, List.isPrefixOf, this, Bool.false_and, Bool.false_eq_true, if_false]

/-- The suffixes `normalize_expr` removes whole. -/
def toolSuffixes : List (List Char) := ["", "ull", "ULL", "ul", "UL"].map String.toList

theorem subScan_eq_self {m : Matcher} {s : List Char}
    (h : ∀ p t, t <:+ s → t ≠ [] → m p t = none) (n : Nat) (prev : Option Char) :
    subScan m n prev s = s := by
  induction s generalizing n prev with
  | nil => cases n <;> rfl
  | cons c r ih =>
    cases n with
    | zero => rfl
    | succ n =>
      rw [subScan, h prev _ (List.suffix_refl _) (List.cons_ne_nil _ _),
        ih fun p t ht hne => h p t (ht.trans (List.suffix_cons _ _)) hne]

theorem reSub_eq_self {m : Matcher} {s : List Char}
    (h : ∀ p t, t <:+ s → t ≠ [] → m p t = none) : reSub m s = s :=
  subScan_eq_self h _ _

theorem literal_of_not_infix {old : String} {s t : List Char} (hs : ¬ old.toList <:+: s)
    (ht : t <:+ s) (p : Option Char) : literal old p t = none := by
  unfold literal
  rw [if_neg fun h => hs ((List.isPrefixOf_iff_prefix.1 h).isInfix.trans ht.isInfix)]

theorem subScan_nil (m : Matcher) (n : Nat) (p : Option Char) : subScan m n p [] = [] := by
  cases n <;> rfl

theorem subScan_literal_self {old : String} (h : old.toList ≠ []) (p : Option Char) :
    subScan (literal old) old.toList.length p old.toList = [] := by
  obtain ⟨a, l, e⟩ := List.exists_cons_of_ne_nil h
  have hm : literal old p old.toList = some ([], []) := by
    simp only [literal, List.isPrefixOf_iff_prefix.2 (List.prefix_refl _), if_true]
    exact congrArg (fun l => some ([], l)) (List.drop_length _)
  rw [e] at hm ⊢
  simp only [List.length_cons, subScan, hm, List.nil_append, subScan_nil]

theorem subScan_literal_of_not_infix {old : String} {s : List Char} (hs : ¬ old.toList <:+: s)
    (n : Nat) (p : Option Char) : subScan (literal old) n p s = s :=
  subScan_eq_self (fun p _ ht _ => literal_of_not_infix hs ht p) n p

theorem uintMacro_of_not_infix {name : String} {s t : List Char} (hs : ¬ name.toList <:+: s)
    (ht : t <:+ s) (p : Option Char) : uintMacro name p t = none := by
  unfold uintMacro
  rw [if_neg fun h => hs (((List.isPrefixOf_iff_prefix.1 (Bool.and_eq_true _ _ ▸ h).1).isInfix).trans ht.isInfix)]

theorem subScan_uintMacro_of_not_infix {name : String} {s : List Char} (hs : ¬ name.toList <:+: s)
    (n : Nat) (p : Option Char) : subScan (uintMacro name) n p s = s :=
  subScan_eq_self (fun p _ ht _ => uintMacro_of_not_infix hs ht p) n p

theorem normalizeExpr_append_suffix {ds s : List Char} (hne : ds ≠ []) (hu : 'u' ∉ ds)
    (hU : 'U' ∉ ds) (hh : ∀ c ∈ ds.head?, isSpace c = false)
    (hl : ∀ c ∈ ds.getLast?, isSpace c = false) (hs : s ∈ toolSuffixes) :
    normalizeExpr (ds ++ s) = ds := by
  have hlit : ∀ (old : String) (a : Char) (l : List Char), old.toList = a :: l → a = 'u' ∨ a = 'U' →
      ∀ c ∈ ds, ∀ p t, literal old p (c :: t) = none := by
    rintro old a l h (rfl | rfl) c hc p t
    · exact literal_cons h (fun e => hu (e ▸ hc)) p
    · exact literal_cons h (fun e => hU (e ▸ hc)) p
  have huint : ∀ (name : String) (l : List Char), name.toList = 'U' :: l →
      ∀ c ∈ ds, ∀ p t, uintMacro name p (c :: t) = none :=
    fun name l h c hc p t => uintMacro_cons h (fun e => hU (e ▸ hc)) p
  have hls : ∀ c ∈ s.getLast?, isSpace c = false := by
    simp only [toolSuffixes, List.map, List.mem_cons, List.mem_singleton, List.not_mem_nil,
      or_false] at hs
    rcases hs with rfl | rfl | rfl | rfl | rfl <;> decide
  have hstrip : strip (ds ++ s) = ds ++ s := by
    refine strip_eq_self (by rwa [List.head?_append_of_ne_nil _ hne]) ?_
    rw [List.getLast?_append]
    cases h : s.getLast? with
    | none => simpa using hl
    | some c => simpa [h] using hls
  simp only [normalizeExpr, hstrip]
  rw [reSub_append (huint "UINT64_C" _ rfl), reSub_append (huint "UINT32_C" _ rfl),
    reSub_append (hlit "ull" _ _ rfl (.inl rfl)), reSub_append (hlit "ULL" _ _ rfl (.inr rfl)),
    reSub_append (hlit "ul" _ _ rfl (.inl rfl)), reSub_append (hlit "UL" _ _ rfl (.inr rfl))]
  simp only [toolSuffixes, List.map, List.mem_cons, List.mem_singleton, List.not_mem_nil,
    or_false] at hs
  rcases hs with rfl | rfl | rfl | rfl | rfl <;>
    simp (disch := decide) only [subScan_nil, subScan_literal_self, subScan_literal_of_not_infix,
      subScan_uintMacro_of_not_infix, List.length_nil, List.append_nil, strip_eq_self hh hl,
      show "".toList = [] from rfl]

theorem isWordChar_ne_paren {c : Char} (h : isWordChar c = true) : c ≠ '(' := fun e => by
  have := isWordChar_toNat h
  rw [e] at this
  have : '('.toNat = 40 := rfl
  omega

theorem uintMacro_of_words {name : String} {t : List Char} (ht : ∀ c ∈ t, isWordChar c = true)
    (p : Option Char) : uintMacro name p t = none := by
  have hw : ∀ c ∈ t.drop name.length, isWordChar c = true := fun c hc => ht c (List.mem_of_mem_drop hc)
  unfold uintMacro
  split
  · rw [dropWhile_of_head fun c hc => isWordChar_not_isSpace (hw c (List.mem_of_mem_head? hc))]
    split
    · next r hr => exact absurd (hw '(' (hr ▸ List.mem_cons_self _ _)) (fun h => isWordChar_ne_paren h rfl)
    · rfl
  · rfl

theorem isIdentifier_words {x : List Char} (hx : isIdentifier x = true) : ∀ c ∈ x, isWordChar c = true := by
  cases x with
  | nil => cases hx
  | cons a r =>
    simp only [isIdentifier, Bool.and_eq_true, List.all_eq_true] at hx
    intro c hc
    rcases List.mem_cons.1 hc with rfl | hc
    · simp only [isWordChar, Char.isAlphanum, Bool.or_eq_true] at hx ⊢
      tauto
    · exact hx.2 c hc

theorem normalizeExpr_identifier {x : List Char} (hx : isIdentifier x = true)
    (hul : ¬ "ul".toList <:+: x) (hUL : ¬ "UL".toList <:+: x) : normalizeExpr x = x := by
  have hw := isIdentifier_words hx
  have hns : ∀ c ∈ x, isSpace c = false := fun c hc => isWordChar_not_isSpace (hw c hc)
  have hstrip : strip x = x := strip_eq_self (fun c hc => hns c (List.mem_of_mem_head? hc))
    (fun c hc => hns c (List.mem_of_mem_getLast? hc))
  have huint : ∀ name, reSub (uintMacro name) x = x := fun name =>
    reSub_eq_self fun p t ht _ => uintMacro_of_words (fun c hc => hw c (ht.subset hc)) p
  have hlit : ∀ old : String, ¬ old.toList <:+: x → reSub (literal old) x = x := fun _ h =>
    subScan_literal_of_not_infix h _ _
  simp only [normalizeExpr, hstrip, huint]
  rw [hlit "ull" fun h => hul ((List.prefix_append _ ['l']).isInfix.trans h),
    hlit "ULL" fun h => hUL ((List.prefix_append _ ['L']).isInfix.trans h), hlit "ul" hul,
    hlit "UL" hUL, hstrip]

/-! ### Literals -/

theorem mem_toolSuffixes {s : List Char} (hs : s ∈ toolSuffixes) :
    s ∈ cSuffixes ∧ ∀ c ∈ s, c = 'u' ∨ c = 'l' ∨ c = 'U' ∨ c = 'L' := by
  simp only [toolSuffixes, List.map, List.mem_cons, List.mem_singleton, List.not_mem_nil,
    or_false] at hs
  rcases hs with rfl | rfl | rfl | rfl | rfl <;> decide

theorem takeWhile_append_suffix {p : Char → Bool} {ds s : List Char} (hds : ∀ c ∈ ds, p c = true)
    (hs : ∀ c ∈ s.head?, p c = false) : (ds ++ s).takeWhile p = ds := by
  rw [List.takeWhile_append_of_pos hds]
  cases s with
  | nil => simp
  | cons c s => simp [List.takeWhile_cons_of_neg (by simpa using hs)]

theorem dropWhile_append_suffix {p : Char → Bool} {ds s : List Char} (hds : ∀ c ∈ ds, p c = true)
    (hs : ∀ c ∈ s.head?, p c = false) : (ds ++ s).dropWhile p = s := by
  rw [List.dropWhile_append, if_pos (by simpa [List.dropWhile_eq_nil_iff] using hds),
    dropWhile_of_head hs]

theorem toolSuffix_char {c : Char} (h : c = 'u' ∨ c = 'l' ∨ c = 'U' ∨ c = 'L') :
    c.isDigit = false ∧ isHexDigit c = false ∧ c ≠ 'x' ∧ c ≠ 'X' := by
  rcases h with rfl | rfl | rfl | rfl <;> decide

theorem isDigit_identStart {c : Char} (h : c.isDigit = true) : (c.isAlpha || c == '_') = false := by
  have := isDigit_toNat h
  cases ha : (c.isAlpha || c == '_')
  · rfl
  · simp only [Char.isAlpha, Char.isUpper, Char.isLower, Bool.or_eq_true, Bool.and_eq_true,
      decide_eq_true_eq, beq_iff_eq, char_val_ge, char_val_le, char_eq_iff,
      UInt32.reduceToNat] at ha
    have : '_'.toNat = 95 := rfl
    omega

theorem isDigit_ne {c d : Char} (h : c.isDigit = true) (hd : d.isDigit = false) : c ≠ d := by
  rintro rfl
  rw [h] at hd
  cases hd

theorem toolInit_decimal_value (env : List (List Char × Nat)) {ds s : List Char} (hd : ds ≠ [])
    (hdig : ∀ c ∈ ds, c.isDigit = true) (hs : s ∈ toolSuffixes) :
    toolInit env (ds ++ s) = some (readDigits 10 ds) := by
  have hns : ∀ c ∈ ds, isSpace c = false := fun c hc =>
    isWordChar_not_isSpace (by simp only [isWordChar, Char.isAlphanum, hdig c hc, Bool.or_true, Bool.true_or])
  have hu : 'u' ∉ ds := fun h => absurd (hdig _ h) (by decide)
  have hU : 'U' ∉ ds := fun h => absurd (hdig _ h) (by decide)
  have hn : ∀ t ∈ toolSuffixes, normalizeExpr (ds ++ t) = ds := fun t ht =>
    normalizeExpr_append_suffix hd hu hU
      (fun c hc => hns c (List.mem_of_mem_head? hc))
      (fun c hc => hns c (List.mem_of_mem_getLast? hc)) ht
  have hn0 : normalizeExpr ds = ds := by simpa using hn [] (by decide)
  have hid : isIdentifier ds = false := by
    obtain ⟨a, r, rfl⟩ := List.exists_cons_of_ne_nil hd
    simp only [isIdentifier, isDigit_identStart (hdig a (List.mem_cons_self _ _)), Bool.false_and]
  have hx : ¬ ds.take 2 = ['0', 'x'] := fun h =>
    absurd (hdig 'x' (List.mem_of_mem_take (by rw [h]; simp))) (by decide)
  unfold toolInit
  rw [hn s hs, hid, if_neg Bool.false_ne_true]
  simp only [Option.orElse]
  unfold tryParseInt
  simp only [hn0]
  rw [if_neg fun h => hx h.1, if_pos ⟨hd, List.all_eq_true.2 hdig⟩]

theorem cLiteral_decimal {ds s : List Char} (hd : ds ≠ [])
    (hdig : ∀ c ∈ ds, c.isDigit = true) (h0 : ds.head? = some '0' → ds = ['0'])
    (hs : s ∈ toolSuffixes) : cLiteral (ds ++ s) = some (readDigits 10 ds) := by
  obtain ⟨hsc, hsch⟩ := mem_toolSuffixes hs
  have hsh : ∀ c ∈ s.head?, c.isDigit = false := fun c hc =>
    (toolSuffix_char (hsch c (List.mem_of_mem_head? hc))).1
  have hx : ∀ c ∈ (ds ++ s).take 2, c ≠ 'x' ∧ c ≠ 'X' := fun c hc => by
    rcases List.mem_append.1 (List.mem_of_mem_take hc) with hc | hc
    · exact ⟨isDigit_ne (hdig c hc) (by decide), isDigit_ne (hdig c hc) (by decide)⟩
    · exact (toolSuffix_char (hsch c hc)).2.2
  unfold cLiteral
  rw [if_neg (by rintro (h | h) <;> simp [h] at hx), takeWhile_append_suffix hdig hsh,
    dropWhile_append_suffix hdig hsh, if_pos ⟨hd, hsc⟩, List.head?_append_of_ne_nil _ hd]
  by_cases hz : ds.head? = some '0'
  · obtain rfl := h0 hz
    rfl
  · rw [if_neg hz]

theorem cInitValue_decimal (env : List (List Char × Nat)) {ds s : List Char} (hd : ds ≠ [])
    (hdig : ∀ c ∈ ds, c.isDigit = true) (h0 : ds.head? = some '0' → ds = ['0'])
    (hs : s ∈ toolSuffixes) : cInitValue env (ds ++ s) = some (readDigits 10 ds) := by
  rw [cInitValue, cLiteral_decimal hd hdig h0 hs]
  rfl

/-- **Decimal literals.** `try_parse_int` reads a decimal literal with no suffix or one of
    `ull`, `ULL`, `ul`, `UL` as C does, unless it has a leading zero, which C reads in octal. -/
theorem toolInit_decimal (env : List (List Char × Nat)) {ds s : List Char} (hd : ds ≠ [])
    (hdig : ∀ c ∈ ds, c.isDigit = true) (h0 : ds.head? = some '0' → ds = ['0'])
    (hs : s ∈ toolSuffixes) : toolInit env (ds ++ s) = cInitValue env (ds ++ s) := by
  rw [toolInit_decimal_value env hd hdig hs, cInitValue_decimal env hd hdig h0 hs]

theorem isHexDigit_ne {c d : Char} (h : isHexDigit c = true) (hd : isHexDigit d = false) : c ≠ d := by
  rintro rfl
  rw [h] at hd
  cases hd

theorem toolInit_hex_value (env : List (List Char × Nat)) {hs s : List Char} (hne : hs ≠ [])
    (hhex : ∀ c ∈ hs, isHexDigit c = true) (hs' : s ∈ toolSuffixes) :
    toolInit env (['0', 'x'] ++ hs ++ s) = some (readDigits 16 hs) := by
  have hns : ∀ c ∈ ['0', 'x'] ++ hs, isSpace c = false := fun c hc => by
    rcases List.mem_append.1 hc with hc | hc
    · simp only [List.mem_cons, List.mem_singleton, List.not_mem_nil, or_false] at hc
      rcases hc with rfl | rfl <;> decide
    · exact isWordChar_not_isSpace (isHexDigit_isWordChar (hhex c hc))
  have hnu : ∀ d, isHexDigit d = false → d ≠ '0' → d ≠ 'x' → d ∉ ['0', 'x'] ++ hs :=
    fun d hd h0 hx hc => by
      rcases List.mem_append.1 hc with hc | hc
      · simp only [List.mem_cons, List.mem_singleton, List.not_mem_nil, or_false] at hc
        exact hc.elim h0 hx
      · exact isHexDigit_ne (hhex d hc) hd rfl
  have hn : ∀ t ∈ toolSuffixes, normalizeExpr (['0', 'x'] ++ hs ++ t) = ['0', 'x'] ++ hs :=
    fun t ht => normalizeExpr_append_suffix (by simp) (hnu 'u' (by decide) (by decide) (by decide))
      (hnu 'U' (by decide) (by decide) (by decide))
      (fun c hc => hns c (List.mem_of_mem_head? hc)) (fun c hc => hns c (List.mem_of_mem_getLast? hc)) ht
  have hn0 : normalizeExpr (['0', 'x'] ++ hs) = ['0', 'x'] ++ hs := by simpa using hn [] (by decide)
  unfold toolInit
  rw [hn s hs']
  simp only [isIdentifier, List.cons_append, List.nil_append] at hn0 ⊢
  rw [show ('0'.isAlpha || '0' == '_') = false from by decide, Bool.false_and,
    if_neg Bool.false_ne_true]
  simp only [Option.orElse]
  unfold tryParseInt
  simp only [hn0]
  rw [if_pos ⟨rfl, by simpa using hne, List.all_eq_true.2 hhex⟩]
  rfl

theorem cInitValue_hex (env : List (List Char × Nat)) {hs s : List Char} (hne : hs ≠ [])
    (hhex : ∀ c ∈ hs, isHexDigit c = true) (hs' : s ∈ toolSuffixes) :
    cInitValue env (['0', 'x'] ++ hs ++ s) = some (readDigits 16 hs) := by
  obtain ⟨hsc, hsch⟩ := mem_toolSuffixes hs'
  have hsh : ∀ c ∈ s.head?, isHexDigit c = false := fun c hc =>
    (toolSuffix_char (hsch c (List.mem_of_mem_head? hc))).2.1
  unfold cInitValue cLiteral
  simp only [List.append_assoc, List.cons_append, List.nil_append, List.take_succ_cons,
    List.take_zero, List.drop_succ_cons, List.drop_zero, true_or, if_true]
  rw [takeWhile_append_suffix hhex hsh, dropWhile_append_suffix hhex hsh, if_pos ⟨hne, hsc⟩]
  rfl

/-- **Hexadecimal literals.** `try_parse_int` reads `0x` and hexadecimal digits, with no
    suffix or one of `ull`, `ULL`, `ul`, `UL`, as C does. -/
theorem toolInit_hex (env : List (List Char × Nat)) {hs s : List Char} (hne : hs ≠ [])
    (hhex : ∀ c ∈ hs, isHexDigit c = true) (hs' : s ∈ toolSuffixes) :
    toolInit env (['0', 'x'] ++ hs ++ s) = cInitValue env (['0', 'x'] ++ hs ++ s) := by
  rw [toolInit_hex_value env hne hhex hs', cInitValue_hex env hne hhex hs']

/-! ### Names and shifts -/

theorem isIdentifier_head {a : Char} {r : List Char} (h : isIdentifier (a :: r) = true) :
    a.isDigit = false ∧ a ≠ '(' := by
  simp only [isIdentifier, Bool.and_eq_true] at h
  have ha := h.1
  cases hd : a.isDigit
  · refine ⟨rfl, fun e => ?_⟩
    subst e
    exact absurd ha (by decide)
  · rw [isDigit_identStart hd] at ha
    cases ha

theorem shiftOperand_cons {a : Char} {r : List Char} (h : a ≠ '(') : shiftOperand (a :: r) = none := by
  unfold shiftOperand
  split
  · next r' he => exact absurd (List.cons.inj he).1 h
  · rfl

theorem cShift_cons {a : Char} {r : List Char} (h : a ≠ '(') : cShift (a :: r) = none := by
  unfold cShift
  split
  · next r' he => exact absurd (List.cons.inj he).1 h
  · rfl

/-- **Names.** An earlier enumerator's name is evaluated as C does, unless it holds `ul` or
    `UL`, which `normalize_expr` deletes. -/
theorem toolInit_name (env : List (List Char × Nat)) {x : List Char} (hx : isIdentifier x = true)
    (hul : ¬ "ul".toList <:+: x) (hUL : ¬ "UL".toList <:+: x) :
    toolInit env x = cInitValue env x := by
  obtain ⟨a, r, rfl⟩ : ∃ a r, x = a :: r := by
    cases x with
    | nil => cases hx
    | cons a r => exact ⟨a, r, rfl⟩
  obtain ⟨had, hap⟩ := isIdentifier_head hx
  have hx0 : ¬ (a :: r).take 2 = ['0', 'x'] ∧ ¬ (a :: r).take 2 = ['0', 'X'] := by
    constructor <;> intro h <;> simp only [List.take_succ_cons, List.cons.injEq] at h <;>
      exact absurd (h.1 ▸ had) (by decide)
  have hdig : ¬ ((a :: r) ≠ [] ∧ (a :: r).all Char.isDigit = true) := fun h => by
    simp [had] at h
  unfold toolInit cInitValue
  rw [normalizeExpr_identifier hx hul hUL, if_pos hx]
  unfold tryParseInt cLiteral
  rw [normalizeExpr_identifier hx hul hUL, if_neg fun h => hx0.1 h.1, if_neg hdig,
    shiftOperand_cons hap, if_neg fun h => h.elim hx0.1 hx0.2, List.takeWhile_cons_of_neg (by simp [had]),
    if_neg fun h => h.1 rfl, cShift_cons hap, if_pos hx]
  simp only [lookupKnown, Option.orElse, Option.map_none']
  cases List.lookup (a :: r) env <;> rfl

theorem shift_text_eq (ds : List Char) :
    "(1 << ".toList ++ ds ++ [')'] = '(' :: '1' :: ' ' :: '<' :: '<' :: ' ' :: (ds ++ [')']) := rfl

theorem shiftOperand_shift {ds : List Char} (hd : ds ≠ []) (hdig : ∀ c ∈ ds, c.isDigit = true) :
    shiftOperand ("(1 << ".toList ++ ds ++ [')']) = some (readDigits 10 ds) := by
  have hsp : (ds ++ [')']).dropWhile isSpace = ds ++ [')'] :=
    dropWhile_of_head fun c hc => by
      rw [List.head?_append_of_ne_nil _ hd] at hc
      exact isWordChar_not_isSpace (by simp only [isWordChar, Char.isAlphanum,
        hdig c (List.mem_of_mem_head? hc), Bool.or_true, Bool.true_or])
  have hs : isSpace '1' = false ∧ isSpace ' ' = true ∧ isSpace '<' = false := by decide
  simp only [shift_text_eq, shiftOperand, List.dropWhile_cons, hs, if_true, if_false,
    Bool.false_eq_true, hsp, takeWhile_append_suffix hdig (s := [')']) (by decide),
    dropWhile_append_suffix hdig (s := [')']) (by decide)]
  rw [if_pos ⟨hd, rfl⟩]

theorem cShift_shift {ds : List Char} (hd : ds ≠ []) (hdig : ∀ c ∈ ds, c.isDigit = true) :
    cShift ("(1 << ".toList ++ ds ++ [')']) = (cLiteral ds).map (2 ^ ·) := by
  have hal : ∀ c ∈ ds, c.isAlphanum = true := fun c hc => isDigit_isAlphanum (hdig c hc)
  have hsp : (ds ++ [')']).dropWhile isCSpace = ds ++ [')'] := by
    refine dropWhile_of_head fun c hc => ?_
    rw [List.head?_append_of_ne_nil _ hd] at hc
    have := isDigit_toNat (hdig c (List.mem_of_mem_head? hc))
    cases h : isCSpace c
    · rfl
    · simp only [isCSpace, Bool.or_eq_true, beq_iff_eq, Bool.and_eq_true, decide_eq_true_eq,
        char_le_iff, char_eq_iff] at h
      have : ' '.toNat = 32 ∧ '\t'.toNat = 9 ∧ '\r'.toNat = 13 := ⟨rfl, rfl, rfl⟩
      omega
  have hc : isCSpace '1' = false ∧ isCSpace ' ' = true ∧ isCSpace '<' = false ∧
      isCSpace ')' = false ∧ Char.isAlphanum '1' = true ∧ Char.isAlphanum ' ' = false ∧
      Char.isAlphanum ')' = false := by decide
  simp only [shift_text_eq, cShift, List.dropWhile_cons, List.takeWhile_cons, hc, if_true,
    if_false, Bool.false_eq_true, hsp, List.dropWhile_nil, List.takeWhile_nil,
    takeWhile_append_suffix hal (s := [')']) (by decide),
    dropWhile_append_suffix hal (s := [')']) (by decide)]
  rw [if_pos ⟨rfl, trivial⟩]

/-- **Shifts.** `(1 << n)` with a decimal `n` is evaluated as C does, unless `n` has a
    leading zero, which C reads in octal. -/
theorem toolInit_shift (env : List (List Char × Nat)) {ds : List Char} (hd : ds ≠ [])
    (hdig : ∀ c ∈ ds, c.isDigit = true) (h0 : ds.head? = some '0' → ds = ['0']) :
    toolInit env ("(1 << ".toList ++ ds ++ [')']) = cInitValue env ("(1 << ".toList ++ ds ++ [')']) := by
  have hmem : ∀ d, d.isDigit = false → d ∉ "(1 << ".toList → d ≠ ')' →
      d ∉ "(1 << ".toList ++ ds ++ [')'] := fun d hd hs hp hc => by
    rcases List.mem_append.1 hc with hc | hc
    · rcases List.mem_append.1 hc with hc | hc
      · exact hs hc
      · exact isDigit_ne (hdig d hc) hd rfl
    · exact hp (List.mem_singleton.1 hc)
  have hn : normalizeExpr ("(1 << ".toList ++ ds ++ [')']) = "(1 << ".toList ++ ds ++ [')'] := by
    simpa using normalizeExpr_append_suffix (s := []) (by simp)
      (hmem 'u' (by decide) (by decide) (by decide)) (hmem 'U' (by decide) (by decide) (by decide))
      (fun c hc => by cases hc; decide) (fun c hc => by
        rw [List.getLast?_concat] at hc
        cases hc
        decide) (by decide)
  have hid : isIdentifier ("(1 << ".toList ++ ds ++ [')']) = false := by rw [shift_text_eq]; rfl
  have hnl : cLiteral ("(1 << ".toList ++ ds ++ [')']) = none := by rw [shift_text_eq]; rfl
  have hcl : cLiteral ds = some (readDigits 10 ds) := by
    simpa using cLiteral_decimal hd hdig h0 (s := []) (by decide)
  unfold toolInit cInitValue
  rw [hn, hid, if_neg Bool.false_ne_true, hnl, cShift_shift hd hdig, hcl]
  simp only [Option.orElse]
  unfold tryParseInt
  rw [hn, shift_text_eq, if_neg (by simp), if_neg (by simp), ← shift_text_eq, shiftOperand_shift hd hdig]
  rfl

/-! ## 9. Where the generated constants and C part -/

/-- **The generator parts from C.** An alias to a name holding `UL` names a constant that
    does not exist and restarts the numbering at `0`; `010` is ten, where C reads eight;
    `1u` is copied as it stands and the numbering restarts; a `)` inside a comment ends
    the body. -/
theorem enum_values_diverge :
    parseOsEnumBlocks
        "OS_ENUM(hv_reg, uint32_t,\n\tHV_REG_FULL = 1,\n\tHV_REG_B = HV_REG_FULL,\n\tHV_REG_C,\n);".toList =
        .ok [("hv_reg".toList, "\n\tHV_REG_FULL = 1,\n\tHV_REG_B = HV_REG_FULL,\n\tHV_REG_C,\n".toList)] ∧
      generateGoConstsForOsEnum "hv_reg"
          "\n\tHV_REG_FULL = 1,\n\tHV_REG_B = HV_REG_FULL,\n\tHV_REG_C,\n".toList =
        some "const (\n\tHV_REG_FULL Reg = 1\n\tHV_REG_B Reg = HV_REG_F\n\tHV_REG_C Reg = 0\n)\n".toList ∧
      cEnumValues (parseEnumItems "\n\tHV_REG_FULL = 1,\n\tHV_REG_B = HV_REG_FULL,\n\tHV_REG_C,\n".toList) =
        some [("HV_REG_FULL".toList, 1), ("HV_REG_B".toList, 1), ("HV_REG_C".toList, 2)] ∧
    generateGoConstsForOsEnum "hv_reg" " A = 010".toList = some "const (\n\tA Reg = 10\n)\n".toList ∧
      cEnumValues (parseEnumItems " A = 010".toList) = some [("A".toList, 8)] ∧
    generateGoConstsForOsEnum "hv_reg" " A = 1u, B".toList =
        some "const (\n\tA Reg = 1u\n\tB Reg = 0\n)\n".toList ∧
      cEnumValues (parseEnumItems " A = 1u, B".toList) = some [("A".toList, 1), ("B".toList, 2)] ∧
    parseOsEnumBlocks "OS_ENUM(hv_reg, uint32_t, /* ) */ A = 1, B);".toList =
        .ok [("hv_reg".toList, " /* ".toList)] ∧
      generateGoConstsForOsEnum "hv_reg" " /* ".toList = some "const (\n\t/* Reg = 0\n)\n".toList :=
  ⟨rfl, by decide, by decide, by decide, by decide, by decide, by decide, rfl, by decide⟩

end CrumbleCracker.Hvf
