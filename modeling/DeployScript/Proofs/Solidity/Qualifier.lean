import DeployScript.Solidity.Declaration
import Mathlib.Data.List.Infix

/-!
# Which types are qualified

The compiler names a type by a base and any number of array suffixes. A type lives in memory if it
has a suffix or if its base is a string, a byte string or a struct. The rules add the qualifier to
those types but to arrays of contracts, whose rule comes before that for arrays. Byte strings of a
fixed size share their first letters with `bytes` and are left out of the main statement where they
have no suffix.
-/

namespace DeployScript.Solidity

open DeployScript.Text (isDecimalDigit)

/-! ### Types as the compiler names them -/

/-- May the code point stand in a name? Blanks and brackets may not. -/
def isNamePoint (c : CodePoint) : Bool := c != .char ' ' && c != .char '[' && c != .char ']'

/-- The name of a contract, a struct, an enum or a value type. -/
structure TypeName where
  text : Text
  text_ok : text.all isNamePoint = true

/-- The words that rules look for at the start of a type. -/
def ruleWords : List String := ["string", "bytes", "contract", "struct", "enum"]

inductive BaseType where
  | string
  | bytes
  | fixedBytes (size : Nat)
  | uint (bits : Nat)
  | int (bits : Nat)
  | bool
  | address
  | payableAddress
  | contract (name : TypeName)
  | enum (name : TypeName)
  | struct (name : TypeName)
  | value (name : TypeName) (apart : ∀ word ∈ ruleWords, startsWith word name.text = false)

/-- The brackets of an array type, with the digits of its length or none. -/
structure ArraySuffix where
  digits : List Char
  digits_ok : digits.all Char.isDigit = true

structure TypeExpr where
  base : BaseType
  suffixes : List ArraySuffix

/-- The keyword of a user-defined type, with the blank after it. -/
def BaseType.keyword : BaseType → Text
  | .contract _ => "contract "
  | .enum _ => "enum "
  | .struct _ => "struct "
  | _ => []

/-- The base without its keyword, as a declaration writes it. -/
def BaseType.declared : BaseType → Text
  | .string => "string"
  | .bytes => "bytes"
  | .fixedBytes size => "bytes" ++ Text.ofChars (Nat.toDigits 10 size)
  | .uint bits => "uint" ++ Text.ofChars (Nat.toDigits 10 bits)
  | .int bits => "int" ++ Text.ofChars (Nat.toDigits 10 bits)
  | .bool => "bool"
  | .address => "address"
  | .payableAddress => "address payable"
  | .contract name | .enum name | .struct name | .value name _ => name.text

def BaseType.text (b : BaseType) : Text := b.keyword ++ b.declared

def ArraySuffix.text (s : ArraySuffix) : Text :=
  .char '[' :: (Text.ofChars s.digits ++ [.char ']'])

def suffixText (suffixes : List ArraySuffix) : Text := suffixes.flatMap ArraySuffix.text

/-- The name that the compiler gives the type. -/
def TypeExpr.text (t : TypeExpr) : Text := t.base.text ++ suffixText t.suffixes

/-- Does a value of the base type live in memory? -/
def BaseType.isReference : BaseType → Bool
  | .string | .bytes | .struct _ => true
  | _ => false

def BaseType.isContract : BaseType → Bool
  | .contract _ => true
  | _ => false

def BaseType.isFixedBytes : BaseType → Bool
  | .fixedBytes _ => true
  | _ => false

def TypeExpr.isReference (t : TypeExpr) : Bool := !t.suffixes.isEmpty || t.base.isReference

/-! ### Reading the rules -/

/-- The rules as one case distinction. -/
theorem formatType_eq (t : Text) :
    formatType t =
      if startsWith "string" t || startsWith "bytes" t then t ++ memoryQualifier
      else if startsWith "contract" t then dropKeyword "contract" t
      else if isArray t then
        if startsWith "struct" t then dropKeyword "struct" t ++ memoryQualifier
        else if startsWith "enum" t then dropKeyword "enum" t ++ memoryQualifier
        else t ++ memoryQualifier
      else if startsWith "enum" t then dropKeyword "enum" t
      else if startsWith "struct" t then dropKeyword "struct" t ++ memoryQualifier
      else t := by
  simp only [formatType, TypeRule.all, List.find?, TypeRule.applies]
  cases startsWith "string" t <;> cases startsWith "bytes" t <;> cases startsWith "contract" t <;>
    cases startsWith "struct" t <;> cases startsWith "enum" t <;> cases isArray t <;> rfl

/-! ### Suffixes -/

/-- A word without brackets is found at the start of the base or not at all. -/
theorem startsWith_append_suffixText {word : String} (hword : '[' ∉ word.toList) (base : Text)
    (suffixes : List ArraySuffix) :
    startsWith word (base ++ suffixText suffixes) = startsWith word base := by
  rw [Bool.eq_iff_iff, startsWith, startsWith, List.isPrefixOf_iff_prefix,
    List.isPrefixOf_iff_prefix]
  refine ⟨?_, fun h => h.trans (List.prefix_append _ _)⟩
  intro h
  cases suffixes with
  | nil => simpa [suffixText] using h
  | cons s rest =>
    rcases List.prefix_or_prefix_of_prefix h (List.prefix_append _ _) with h' | ⟨more, hmore⟩
    · exact h'
    · -- what the word has beyond the base would start with the bracket
      rw [← hmore, List.prefix_append_right_inj] at h
      cases more with
      | nil => simp [← hmore]
      | cons c more =>
        have hc : c = .char '[' := (List.cons_prefix_cons.1 h).1
        have hmem : CodePoint.char '[' ∈ Text.ofString word := by simp [← hmore, hc]
        simp [Text.ofString, Text.ofChars] at hmem
        exact absurd hmem hword

theorem isDecimalDigit_of_isDigit {c : Char} (h : c.isDigit = true) : isDecimalDigit c = true := by
  have hrange : '0'.val ≤ c.val ∧ c.val ≤ '9'.val := by simpa [Char.isDigit] using h
  have hsmall : c.toNat < 0x80 := by
    have hle : c.val.toNat ≤ 57 := UInt32.le_iff_toNat_le.1 hrange.2
    exact Nat.lt_of_le_of_lt hle (by decide)
  rw [isDecimalDigit, if_pos hsmall, h]

theorem dropWhile_digits {digits : List Char} (h : digits.all Char.isDigit = true) (rest : Text) :
    (Text.ofChars digits ++ .char '[' :: rest).dropWhile (CodePoint.is isDecimalDigit) =
      .char '[' :: rest := by
  have hall : ∀ c ∈ Text.ofChars digits, CodePoint.is isDecimalDigit c = true := by
    intro c hc
    obtain ⟨d, hd, rfl⟩ := List.mem_map.1 hc
    exact isDecimalDigit_of_isDigit (List.all_eq_true.1 h d hd)
  have hstop : CodePoint.is isDecimalDigit (.char '[') = false := by decide
  rw [List.dropWhile_append_of_pos hall, List.dropWhile_cons_of_neg (by simp [hstop])]

/-- A text with a suffix at its end is an array. -/
theorem isArray_append_suffix (front : Text) (s : ArraySuffix) :
    isArray (front ++ s.text) = true := by
  have hreverse : (front ++ s.text).reverse =
      .char ']' :: (Text.ofChars s.digits.reverse ++ .char '[' :: front.reverse) := by
    simp [ArraySuffix.text, Text.ofChars]
  have hdigits : s.digits.reverse.all Char.isDigit = true := by simpa using s.digits_ok
  rw [isArray, hreverse]
  change (((Text.ofChars s.digits.reverse ++ .char '[' :: front.reverse).dropWhile
    (CodePoint.is isDecimalDigit)).head? == some (.char '[')) = true
  rw [dropWhile_digits hdigits]
  rfl

theorem isArray_of_not_mem {t : Text} (h : CodePoint.char ']' ∉ t) : isArray t = false := by
  rw [← List.mem_reverse] at h
  unfold isArray
  extract_lets back
  have hback : CodePoint.char ']' ∉ back := by
    -- one line end may follow the brackets
    unfold back
    split
    · next rest heq =>
      rw [heq] at h
      exact fun hmem => h (List.mem_cons_of_mem _ hmem)
    · exact h
  clear_value back
  split
  · exact absurd List.mem_cons_self hback
  · rfl

/-- A type is an array exactly if it has a suffix. -/
theorem isArray_append_suffixText {base : Text} (hbase : CodePoint.char ']' ∉ base)
    (suffixes : List ArraySuffix) :
    isArray (base ++ suffixText suffixes) = !suffixes.isEmpty := by
  rcases List.eq_nil_or_concat' suffixes with rfl | ⟨front, last, rfl⟩
  · simpa [suffixText] using isArray_of_not_mem hbase
  · have hlast : base ++ suffixText (front ++ [last]) = base ++ suffixText front ++ last.text := by
      simp [suffixText]
    rw [hlast, isArray_append_suffix]
    simp

/-! ### Names -/

theorem not_mem_of_all {t : Text} (h : t.all isNamePoint = true) {c : CodePoint}
    (hc : isNamePoint c = false) : c ∉ t := by
  intro hmem
  rw [List.all_eq_true.1 h c hmem] at hc
  exact absurd hc (by decide)

theorem all_isNamePoint_toDigits (n : Nat) :
    (Text.ofChars (Nat.toDigits 10 n)).all isNamePoint = true := by
  rw [List.all_eq_true]
  intro c hc
  obtain ⟨d, hd, rfl⟩ := List.mem_map.1 hc
  have hdigit : d.isDigit = true := Nat.isDigit_of_mem_toDigits (by decide) (by decide) hd
  simp only [isNamePoint, Bool.and_eq_true, bne_iff_ne, ne_eq, CodePoint.char.injEq]
  refine ⟨⟨?_, ?_⟩, ?_⟩ <;> rintro rfl <;> exact absurd hdigit (by decide)

theorem all_isNamePoint_declared {b : BaseType} (h : b ≠ .payableAddress) :
    b.declared.all isNamePoint = true := by
  cases b with
  | contract name | enum name | struct name | value name _ => exact name.text_ok
  | fixedBytes n | uint n | int n =>
    rw [BaseType.declared, List.all_append, all_isNamePoint_toDigits]
    decide
  | payableAddress => exact absurd rfl h
  | string | bytes | bool | address => decide

theorem bracket_not_mem_text (b : BaseType) : CodePoint.char ']' ∉ b.text := by
  have hkeyword : CodePoint.char ']' ∉ b.keyword := by
    cases b <;> simp [BaseType.keyword] <;> decide
  have hdeclared : CodePoint.char ']' ∉ b.declared := by
    by_cases hb : b = .payableAddress
    · rw [hb]
      decide
    · exact not_mem_of_all (all_isNamePoint_declared hb) (by decide)
  simp [BaseType.text, hkeyword, hdeclared]

theorem blank_not_mem_suffixText (suffixes : List ArraySuffix) :
    CodePoint.char ' ' ∉ suffixText suffixes := by
  intro hmem
  obtain ⟨s, -, hs⟩ := List.mem_flatMap.1 hmem
  have hdigits : CodePoint.char ' ' ∉ Text.ofChars s.digits := by
    intro hblank
    obtain ⟨d, hd, heq⟩ := List.mem_map.1 hblank
    rw [CodePoint.char.injEq] at heq
    have hdigit := List.all_eq_true.1 s.digits_ok d hd
    rw [heq] at hdigit
    exact absurd hdigit (by decide)
  simp [ArraySuffix.text, hdigits] at hs

/-! ### Formatted types -/

/-- Does the type, once formatted, say that it lives in memory? -/
def TypeExpr.isQualified (t : TypeExpr) : Bool :=
  match t.base with
  | .contract _ => false
  | .string | .bytes | .fixedBytes _ | .struct _ => true
  | _ => !t.suffixes.isEmpty

/-- A base with suffixes is formatted by what the base starts with and by whether there are
suffixes. -/
theorem formatType_append_suffixText {base : Text} (hbase : CodePoint.char ']' ∉ base)
    (suffixes : List ArraySuffix) :
    formatType (base ++ suffixText suffixes) =
      if startsWith "string" base || startsWith "bytes" base then
        base ++ suffixText suffixes ++ memoryQualifier
      else if startsWith "contract" base then dropKeyword "contract" (base ++ suffixText suffixes)
      else if suffixes.isEmpty then
        if startsWith "enum" base then dropKeyword "enum" (base ++ suffixText suffixes)
        else if startsWith "struct" base then
          dropKeyword "struct" (base ++ suffixText suffixes) ++ memoryQualifier
        else base ++ suffixText suffixes
      else if startsWith "struct" base then
        dropKeyword "struct" (base ++ suffixText suffixes) ++ memoryQualifier
      else if startsWith "enum" base then
        dropKeyword "enum" (base ++ suffixText suffixes) ++ memoryQualifier
      else base ++ suffixText suffixes ++ memoryQualifier := by
  rw [formatType_eq, startsWith_append_suffixText (by decide),
    startsWith_append_suffixText (by decide), startsWith_append_suffixText (by decide),
    startsWith_append_suffixText (by decide), startsWith_append_suffixText (by decide),
    isArray_append_suffixText hbase]
  cases suffixes.isEmpty <;> rfl

theorem formatType_text_eq (t : TypeExpr) :
    formatType t.text =
      if startsWith "string" t.base.text || startsWith "bytes" t.base.text then
        t.text ++ memoryQualifier
      else if startsWith "contract" t.base.text then dropKeyword "contract" t.text
      else if t.suffixes.isEmpty then
        if startsWith "enum" t.base.text then dropKeyword "enum" t.text
        else if startsWith "struct" t.base.text then dropKeyword "struct" t.text ++ memoryQualifier
        else t.text
      else if startsWith "struct" t.base.text then dropKeyword "struct" t.text ++ memoryQualifier
      else if startsWith "enum" t.base.text then dropKeyword "enum" t.text ++ memoryQualifier
      else t.text ++ memoryQualifier :=
  formatType_append_suffixText (bracket_not_mem_text t.base) t.suffixes

/-- The name of a value type meets no rule but the one for arrays. -/
theorem formatType_value (name : TypeName)
    (apart : ∀ word ∈ ruleWords, startsWith word name.text = false)
    (suffixes : List ArraySuffix) :
    formatType (TypeExpr.text ⟨.value name apart, suffixes⟩) =
      if suffixes.isEmpty then TypeExpr.text ⟨.value name apart, suffixes⟩
      else TypeExpr.text ⟨.value name apart, suffixes⟩ ++ memoryQualifier := by
  have hword : ∀ word ∈ ruleWords, startsWith word (BaseType.value name apart).text = false :=
    apart
  simp only [ruleWords, List.forall_mem_cons] at hword
  obtain ⟨hstring, hbytes, hcontract, hstruct, henum, -⟩ := hword
  rw [formatType_text_eq, hstring, hbytes, hcontract, hstruct, henum]
  rfl

theorem formatType_text_of_isQualified {t : TypeExpr} (h : t.isQualified = true) :
    formatType t.text = t.base.declared ++ suffixText t.suffixes ++ memoryQualifier := by
  obtain ⟨base, suffixes⟩ := t
  cases base with
  | contract name => exact absurd h Bool.false_ne_true
  | string | bytes | fixedBytes size => rw [formatType_text_eq]; rfl
  | struct name => rw [formatType_text_eq]; cases suffixes <;> rfl
  | enum name | uint bits | int bits | bool | address | payableAddress =>
    rw [formatType_text_eq]
    cases suffixes with
    | nil => exact absurd h Bool.false_ne_true
    | cons s rest => rfl
  | value name apart =>
    rw [formatType_value]
    cases suffixes with
    | nil => exact absurd h Bool.false_ne_true
    | cons s rest => rfl

theorem formatType_text_of_not_isQualified {t : TypeExpr} (h : t.isQualified = false) :
    formatType t.text = t.base.declared ++ suffixText t.suffixes := by
  obtain ⟨base, suffixes⟩ := t
  cases base with
  | contract name => rw [formatType_text_eq]; rfl
  | string | bytes | fixedBytes size | struct name => exact absurd h.symm Bool.false_ne_true
  | enum name | uint bits | int bits | bool | address | payableAddress =>
    rw [formatType_text_eq]
    cases suffixes with
    | nil => rfl
    | cons s rest => exact absurd h.symm Bool.false_ne_true
  | value name apart =>
    rw [formatType_value]
    cases suffixes with
    | nil => rfl
    | cons s rest => exact absurd h.symm Bool.false_ne_true

/-! ### Where the qualifier is -/

/-- A type that was not qualified does not end like one that was. -/
theorem not_suffix_of_not_isQualified {t : TypeExpr} (h : t.isQualified = false) :
    ¬ Text.ofString memoryQualifier <:+ t.base.declared ++ suffixText t.suffixes := by
  obtain ⟨base, suffixes⟩ := t
  by_cases hbase : base = .payableAddress
  · subst hbase
    cases suffixes with
    | nil => decide
    | cons s rest => exact absurd h.symm Bool.false_ne_true
  · intro hsuffix
    have hblank : CodePoint.char ' ' ∈ base.declared ++ suffixText suffixes :=
      hsuffix.subset (by decide)
    have hdeclared : CodePoint.char ' ' ∉ base.declared :=
      not_mem_of_all (all_isNamePoint_declared hbase) (by decide)
    rcases List.mem_append.1 hblank with hmem | hmem
    · exact hdeclared hmem
    · exact blank_not_mem_suffixText suffixes hmem

/-- Byte strings of a fixed size apart, the qualified types are those that live in memory, without
the arrays of contracts. -/
theorem isQualified_eq {t : TypeExpr} (h : t.base.isFixedBytes = true → t.suffixes ≠ []) :
    t.isQualified = (t.isReference && !t.base.isContract) := by
  obtain ⟨base, suffixes⟩ := t
  cases base with
  | fixedBytes size =>
    cases suffixes with
    | nil => exact absurd rfl (h rfl)
    | cons s rest => rfl
  | _ => cases suffixes <;> rfl

/-- The qualifier is added to the types that live in memory and to no others, arrays of contracts
apart, which go without it. -/
theorem memoryQualifier_suffix_formatType_iff (t : TypeExpr)
    (h : t.base.isFixedBytes = true → t.suffixes ≠ []) :
    Text.ofString memoryQualifier <:+ formatType t.text ↔
      t.isReference = true ∧ t.base.isContract = false := by
  have hqualified := isQualified_eq h
  cases hq : t.isQualified with
  | true =>
    rw [hq] at hqualified
    rw [formatType_text_of_isQualified hq]
    have hboth : t.isReference = true ∧ t.base.isContract = false := by
      simpa using hqualified.symm
    exact ⟨fun _ => hboth, fun _ => List.suffix_append _ _⟩
  | false =>
    rw [hq] at hqualified
    rw [formatType_text_of_not_isQualified hq]
    refine ⟨fun hsuffix => absurd hsuffix (not_suffix_of_not_isQualified hq), ?_⟩
    rintro ⟨hreference, hcontract⟩
    rw [hreference, hcontract] at hqualified
    exact absurd hqualified.symm (by decide)

/-- The array `bytes32[2]`. -/
def fixedBytesArray : TypeExpr := ⟨.fixedBytes 32, [⟨['2'], rfl⟩]⟩

theorem memoryQualifier_suffix_formatType_fixedBytesArray :
    (fixedBytesArray.base.isFixedBytes = true → fixedBytesArray.suffixes ≠ []) ∧
      Text.ofString memoryQualifier <:+ formatType fixedBytesArray.text := by
  have hsuffixes : fixedBytesArray.base.isFixedBytes = true → fixedBytesArray.suffixes ≠ [] :=
    fun _ => List.cons_ne_nil _ _
  exact ⟨hsuffixes,
    (memoryQualifier_suffix_formatType_iff fixedBytesArray hsuffixes).2 (by decide)⟩

/-- The array `contract IFoo[]` and the byte string `bytes32`. -/
def contractArray : TypeExpr := ⟨.contract ⟨"IFoo", by decide⟩, [⟨[], rfl⟩]⟩

def fixedBytes32 : TypeExpr := ⟨.fixedBytes 32, []⟩

/-- An array of contracts lives in memory and is not qualified; a byte string of a fixed size does
not live in memory and is qualified. -/
theorem not_forall_memoryQualifier_suffix_iff :
    ¬ (∀ t : TypeExpr,
        Text.ofString memoryQualifier <:+ formatType t.text ↔ t.isReference = true) ∧
      ¬ (Text.ofString memoryQualifier <:+ formatType fixedBytes32.text ↔
          fixedBytes32.isReference = true) := by
  refine ⟨fun h => ?_, by decide⟩
  exact absurd (h contractArray) (by decide)

end DeployScript.Solidity
