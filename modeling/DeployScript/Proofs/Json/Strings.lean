import DeployScript.Json.Printer
import DeployScript.Json.Reader
import Mathlib.Data.Nat.ModEq

/-!
# Strings that were written

A string is read back as the text that was written, code point by code point, with one exception:
each half of a surrogate pair is written by itself, and two of them that stand side by side are read
as the character of the pair. A text without such neighbours is read back as it is.
-/

namespace DeployScript

namespace Text

/-! ### Hexadecimal digits -/

theorem hexValue?_hexDigit : ∀ d : Fin 16, hexValue? (hexDigit d) = some d.val := by decide

theorem length_toHex (width n : Nat) : (toHex width n).length = width := by
  induction width generalizing n with
  | zero => rfl
  | succ width ih => rw [toHex, List.length_append, ih, List.length_singleton]

/-- Digits are read as the number that they were written for, as far as it fits. -/
theorem ofHex?_toHex (width n : Nat) : ofHex? (toHex width n) = some (n % 16 ^ width) := by
  induction width generalizing n with
  | zero => simp [toHex, ofHex?, Nat.mod_one]
  | succ width ih =>
    have hdigit := hexValue?_hexDigit ⟨n % 16, Nat.mod_lt n (by omega)⟩
    have hsplit : n % 16 ^ (width + 1) = 16 * (n / 16 % 16 ^ width) + n % 16 := by
      rw [pow_succ', Nat.mod_mul, Nat.add_comm]
    have hfront := ih (n / 16)
    rw [ofHex?] at hfront
    rw [ofHex?, toHex, List.foldlM_append, hfront, hsplit]
    simp [hdigit]

/-! ### Pairs -/

/-- Does the first half open a pair that the second one closes? -/
def isPair (opening closing : Nat) : Bool := opening < 0x400 && 0x400 ≤ closing

/-- The number of the character that two halves write together. -/
def pairNumber (opening closing : Nat) : Nat := 0x10000 + opening * 0x400 + (closing - 0x400)

theorem pairNumber_eq {opening closing : Nat} (h : isPair opening closing = true) :
    pairNumber opening closing =
      0x10000 + (0xd800 + opening - 0xd800) * 0x400 + (0xd800 + closing - 0xdc00) := by
  simp only [isPair, Bool.and_eq_true, decide_eq_true_eq] at h
  unfold pairNumber
  omega

theorem isValidChar_pairNumber {opening closing : Nat} (h : isPair opening closing = true)
    (hclosing : closing < 0x800) : (pairNumber opening closing).isValidChar := by
  simp only [isPair, Bool.and_eq_true, decide_eq_true_eq] at h
  have hrange : 0xdfff < pairNumber opening closing ∧ pairNumber opening closing < 0x110000 := by
    unfold pairNumber
    omega
  exact .inr hrange

/-- The text with each pair of halves side by side replaced by its character. -/
def paired : Text → Text
  | .half opening :: .half closing :: rest =>
    if isPair opening closing then .char (Char.ofNat (pairNumber opening closing)) :: paired rest
    else .half opening :: paired (.half closing :: rest)
  | p :: rest => p :: paired rest
  | [] => []

theorem paired_ofChars (cs : List Char) : paired (ofChars cs) = ofChars cs := by
  induction cs with
  | nil => rfl
  | cons c cs ih =>
    rw [ofChars, List.map_cons, ← ofChars, paired, ih]
    intro opening closing rest h
    cases h

end Text

namespace Json

open Text (toHex isPair pairNumber paired)

/-! ### Units -/

theorem unit?_toHex {n : Nat} (hn : n < 0x10000) (rest : List Char) :
    unit? (toHex 4 n ++ rest) = some (n, rest) := by
  have hlength : (toHex 4 n).length = 4 := Text.length_toHex 4 n
  have htake : (toHex 4 n ++ rest).take 4 = toHex 4 n := by
    rw [List.take_append_of_le_length (by omega), List.take_of_length_le (by omega)]
  have hdrop : (toHex 4 n ++ rest).drop 4 = rest := by
    rw [List.drop_append_of_le_length (by omega), List.drop_of_length_le (by omega),
      List.nil_append]
  rw [unit?, htake, hdrop, if_pos hlength, Text.ofHex?_toHex, Nat.mod_eq_of_lt (by omega),
    Option.map_some]

/-- What can follow the unit of an opening half so that the half is left alone. -/
inductive Apart (rest : List Char) : Prop
  | other (hne : rest ≠ []) (hunit : ∀ low, rest ≠ '\\' :: 'u' :: low)
  | unit {m : Nat} {more : List Char} (hrest : rest = escapeUnit m ++ more) (hm : m < 0x10000)
      (hlow : isLowSurrogate m = false)

theorem Apart.ne_nil {rest : List Char} (h : Apart rest) : rest ≠ [] := by
  cases h with
  | other hne _ => exact hne
  | unit hrest _ _ =>
    rw [hrest]
    exact List.cons_ne_nil _ _

/-- A unit that opens no pair, or whose pair is not closed, is read as itself. -/
theorem unicodeEscape_toHex {n : Nat} (hn : n < 0x10000) {rest : List Char} (hne : rest ≠ [])
    (hapart : isHighSurrogate n = true → Apart rest) :
    unicodeEscape (toHex 4 n ++ rest) = .ok (n, rest) := by
  obtain ⟨c, cs, rfl⟩ := List.exists_cons_of_ne_nil hne
  rw [unicodeEscape, unit?_toHex hn]
  dsimp only
  split
  · next low heq =>
    split
    · next hhigh =>
      obtain ⟨hhigh, -⟩ := Bool.and_eq_true_iff.1 hhigh
      cases hapart hhigh with
      | other _ hunit => exact absurd heq (hunit low)
      | @unit m more hrest hm hlow =>
        obtain rfl : low = toHex 4 m ++ more := by
          rw [heq, escapeUnit] at hrest
          simpa using hrest
        rw [unit?_toHex hm]
        simp [hlow]
    · rfl
  · rfl

/-- The units of a pair are read as its character. -/
theorem unicodeEscape_pair {n m : Nat} (hhigh : isHighSurrogate n = true)
    (hlow : isLowSurrogate m = true) {rest : List Char} (hne : rest ≠ []) :
    unicodeEscape (toHex 4 n ++ (escapeUnit m ++ rest)) =
      .ok (0x10000 + (n - 0xd800) * 0x400 + (m - 0xdc00), rest) := by
  have hn : n < 0x10000 := by
    simp only [isHighSurrogate, Bool.and_eq_true, decide_eq_true_eq] at hhigh
    omega
  have hm : m < 0x10000 := by
    simp only [isLowSurrogate, Bool.and_eq_true, decide_eq_true_eq] at hlow
    omega
  have hlength : ('\\' :: 'u' :: (toHex 4 m ++ rest)).length > 6 := by
    have hrest := List.length_pos_iff.2 hne
    simp only [List.length_cons, List.length_append, Text.length_toHex]
    omega
  rw [unicodeEscape, unit?_toHex hn, escapeUnit]
  simp only [List.cons_append]
  rw [if_pos (by simp only [hhigh, Bool.true_and, decide_eq_true_eq]; exact hlength),
    unit?_toHex hm]
  simp [hlow]

/-! ### Code points -/

variable {opening : List Char} {fuel : Nat} {points : Text} {rest : List Char}

theorem ofNumber?_toNat (c : Char) : CodePoint.ofNumber? c.toNat = some (.char c) := by
  have hvalid : c.toNat.isValidChar := c.valid
  rw [CodePoint.ofNumber?, dif_pos hvalid]
  exact congrArg (some ∘ CodePoint.char) (Char.ext rfl)

theorem number_half (offset : Fin 0x800) : (CodePoint.half offset).number = 0xd800 + offset := rfl

theorem ofNumber?_half (offset : Fin 0x800) :
    CodePoint.ofNumber? (CodePoint.half offset).number = some (.half offset) := by
  have hlt := offset.isLt
  have hinvalid : ¬ (0xd800 + offset.val).isValidChar := by
    simp only [Nat.isValidChar]
    omega
  have hback : 0xd800 + offset.val - CodePoint.firstHalf = offset := by
    simp only [CodePoint.firstHalf]
    omega
  rw [number_half, CodePoint.ofNumber?, dif_neg hinvalid, dif_pos (by rw [hback]; exact hlt)]
  simp [hback]

theorem readPoints_unicode {digits after : List Char} {n : Nat} {p : CodePoint}
    (hescape : unicodeEscape digits = .ok (n, after)) (hp : CodePoint.ofNumber? n = some p) :
    readPoints opening (fuel + 1) points ('\\' :: 'u' :: digits) =
      readPoints opening fuel (p :: points) after := by
  rw [readPoints, if_neg (by decide), if_pos rfl]
  simp only [hescape, bind, Except.bind, hp]

theorem readPoints_escapeUnit {n : Nat} {p : CodePoint} (hn : n < 0x10000) (hne : rest ≠ [])
    (hapart : isHighSurrogate n = true → Apart rest) (hp : CodePoint.ofNumber? n = some p) :
    readPoints opening (fuel + 1) points (escapeUnit n ++ rest) =
      readPoints opening fuel (p :: points) rest :=
  readPoints_unicode (unicodeEscape_toHex hn hne hapart) hp

theorem readPoints_simple {e d : Char} (hd : simpleEscape? e = some d) :
    readPoints opening (fuel + 1) points ('\\' :: e :: rest) =
      readPoints opening fuel (.char d :: points) rest := by
  have he : e ≠ 'u' := by
    rintro rfl
    simp [simpleEscape?] at hd
  rw [readPoints.eq_def]
  simp [hd]

theorem readPoints_plain {c : Char} (hquote : c ≠ '"') (hbackslash : c ≠ '\\')
    (hcontrol : ¬ c.toNat ≤ 0x1f) :
    readPoints opening (fuel + 1) points (c :: rest) =
      readPoints opening fuel (.char c :: points) rest := by
  rw [readPoints.eq_def]
  simp only [if_neg hquote, if_neg hbackslash, if_neg hcontrol]

theorem toNat_lt_or_lt (c : Char) : c.toNat < 0xd800 ∨ 0xdfff < c.toNat ∧ c.toNat < 0x110000 :=
  c.valid

/-- A character is read back. -/
theorem readPoints_escapeChar (c : Char) (hne : rest ≠ []) :
    readPoints opening (fuel + 1) points (escapeChar c ++ rest) =
      readPoints opening fuel (.char c :: points) rest := by
  have hvalid := toNat_lt_or_lt c
  rw [escapeChar]
  split_ifs with h₁ h₂ h₃ h₄ h₅ h₆ h₇ h₈ h₉
  · rw [h₁]
    exact readPoints_simple rfl
  · rw [h₂]
    exact readPoints_simple rfl
  · rw [h₃]
    exact readPoints_simple rfl
  · rw [h₄]
    exact readPoints_simple rfl
  · rw [h₅]
    exact readPoints_simple rfl
  · rw [h₆]
    exact readPoints_simple rfl
  · rw [h₇]
    exact readPoints_simple rfl
  · exact readPoints_plain h₁ h₂ (by omega)
  · have hhigh : isHighSurrogate c.toNat = false := by
      simp only [isHighSurrogate, Bool.and_eq_false_iff, decide_eq_false_iff_not]
      omega
    exact readPoints_escapeUnit h₉ hne (by simp [hhigh]) (ofNumber?_toNat c)
  · -- the two units of a character beyond the first plane
    have hhigh : isHighSurrogate (0xd800 + (c.toNat - 0x10000) / 0x400) = true := by
      simp only [isHighSurrogate, Bool.and_eq_true, decide_eq_true_eq]
      omega
    have hlow : isLowSurrogate (0xdc00 + (c.toNat - 0x10000) % 0x400) = true := by
      simp only [isLowSurrogate, Bool.and_eq_true, decide_eq_true_eq]
      omega
    have hnumber : 0x10000 + (0xd800 + (c.toNat - 0x10000) / 0x400 - 0xd800) * 0x400 +
        (0xdc00 + (c.toNat - 0x10000) % 0x400 - 0xdc00) = c.toNat := by
      omega
    rw [List.append_assoc]
    refine readPoints_unicode (unicodeEscape_pair hhigh hlow hne) ?_
    rw [hnumber, ofNumber?_toNat]

theorem isLowSurrogate_half (closing : Fin 0x800) :
    isLowSurrogate (CodePoint.half closing).number = decide (0x400 ≤ closing.val) := by
  have hlt := closing.isLt
  rw [number_half, isLowSurrogate, ← Bool.decide_and, decide_eq_decide]
  omega

theorem isHighSurrogate_half (opening : Fin 0x800) :
    isHighSurrogate (CodePoint.half opening).number = decide (opening.val < 0x400) := by
  rw [number_half, isHighSurrogate, ← Bool.decide_and, decide_eq_decide]
  omega

theorem number_half_lt (offset : Fin 0x800) : (CodePoint.half offset).number < 0x10000 := by
  have hlt := offset.isLt
  rw [number_half]
  omega

/-- Half of a pair is read back where the other half does not follow. -/
theorem readPoints_half (offset : Fin 0x800) (hne : rest ≠ [])
    (hapart : offset.val < 0x400 → Apart rest) :
    readPoints opening (fuel + 1) points (escapePoint (.half offset) ++ rest) =
      readPoints opening fuel (.half offset :: points) rest := by
  refine readPoints_escapeUnit (number_half_lt offset) hne ?_ (ofNumber?_half offset)
  intro hhigh
  rw [isHighSurrogate_half, decide_eq_true_eq] at hhigh
  exact hapart hhigh

/-- Two halves side by side are read as their character. -/
theorem readPoints_pair {first second : Fin 0x800} (hpair : isPair first second = true)
    (hne : rest ≠ []) :
    readPoints opening (fuel + 1) points
        (escapePoint (.half first) ++ (escapePoint (.half second) ++ rest)) =
      readPoints opening fuel (.char (Char.ofNat (pairNumber first second)) :: points) rest := by
  obtain ⟨hfirst, hsecond⟩ := Bool.and_eq_true_iff.1 hpair
  have hhigh : isHighSurrogate (CodePoint.half first).number = true := by
    rw [isHighSurrogate_half, hfirst]
  have hlow : isLowSurrogate (CodePoint.half second).number = true := by
    rw [isLowSurrogate_half, hsecond]
  refine readPoints_unicode (unicodeEscape_pair hhigh hlow hne) ?_
  have hvalid := Text.isValidChar_pairNumber hpair second.isLt
  rw [number_half, number_half, ← Text.pairNumber_eq hpair, CodePoint.ofNumber?, dif_pos hvalid,
    Char.ofNat, dif_pos hvalid]

theorem apart_quote (rest : List Char) : Apart ('"' :: rest) :=
  .other (List.cons_ne_nil _ _) (by simp)

theorem apart_escapeChar (c : Char) (rest : List Char) : Apart (escapeChar c ++ rest) := by
  have hvalid := toNat_lt_or_lt c
  rw [escapeChar]
  split_ifs with h₁ h₂ h₃ h₄ h₅ h₆ h₇ h₈ h₉
  -- a backslash and a letter that is no `u`
  case pos | pos | pos | pos | pos | pos | pos => exact .other (by simp) (by simp)
  case pos => exact .other (by simp) (by simp [h₂])
  · refine .unit rfl h₉ ?_
    simp only [isLowSurrogate, Bool.and_eq_false_iff, decide_eq_false_iff_not]
    omega
  · rw [List.append_assoc]
    refine .unit rfl (by omega) ?_
    simp only [isLowSurrogate, Bool.and_eq_false_iff, decide_eq_false_iff_not]
    omega

/-- What is written for a code point stands apart from an opening half, unless it is a closing
one. -/
theorem apart_escapePoint {p : CodePoint} (hp : ∀ offset, p = .half offset → offset.val < 0x400)
    (rest : List Char) : Apart (escapePoint p ++ rest) := by
  cases p with
  | char c => exact apart_escapeChar c rest
  | half offset =>
    have hopening := hp offset rfl
    refine .unit rfl (number_half_lt offset) ?_
    rw [isLowSurrogate_half, decide_eq_false_iff_not]
    omega

/-- What is written for code points is read up to the closing quote. -/
theorem readPoints_flatMap {text : Text} (hfuel : text.length < fuel) (points : Text)
    (rest : List Char) :
    readPoints opening fuel points (text.flatMap escapePoint ++ '"' :: rest) =
      .ok (points.reverse ++ paired text, rest) := by
  have hne (t : Text) : t.flatMap escapePoint ++ '"' :: rest ≠ [] := by simp
  induction text using Text.paired.induct generalizing fuel points with
  | case1 first second text hpair ih =>
    obtain ⟨fuel, rfl⟩ := Nat.exists_eq_succ_of_ne_zero (Nat.ne_zero_of_lt hfuel)
    simp only [List.length_cons] at hfuel
    rw [List.flatMap_cons, List.flatMap_cons, List.append_assoc, List.append_assoc,
      readPoints_pair hpair (hne text), ih (by omega), paired, if_pos hpair, List.reverse_cons,
      List.append_assoc, List.singleton_append]
  | case2 first second text hpair ih =>
    obtain ⟨fuel, rfl⟩ := Nat.exists_eq_succ_of_ne_zero (Nat.ne_zero_of_lt hfuel)
    simp only [List.length_cons] at hfuel
    have hapart : first.val < 0x400 →
        Apart ((CodePoint.half second :: text).flatMap escapePoint ++ '"' :: rest) := by
      intro hfirst
      rw [List.flatMap_cons, List.append_assoc]
      refine apart_escapePoint ?_ _
      intro offset hoffset
      cases hoffset
      by_contra hsecond
      refine hpair ?_
      rw [isPair, Bool.and_eq_true, decide_eq_true_eq, decide_eq_true_eq]
      exact ⟨hfirst, Nat.le_of_not_lt hsecond⟩
    rw [List.flatMap_cons, List.append_assoc, readPoints_half first (hne _) hapart,
      ih (by simp only [List.length_cons]; omega), paired, if_neg hpair, List.reverse_cons,
      List.append_assoc, List.singleton_append]
  | case3 p text hp ih =>
    obtain ⟨fuel, rfl⟩ := Nat.exists_eq_succ_of_ne_zero (Nat.ne_zero_of_lt hfuel)
    simp only [List.length_cons] at hfuel
    have hstep : readPoints opening (fuel + 1) points
        (escapePoint p ++ (text.flatMap escapePoint ++ '"' :: rest)) =
          readPoints opening fuel (p :: points) (text.flatMap escapePoint ++ '"' :: rest) := by
      cases p with
      | char c => exact readPoints_escapeChar c (hne text)
      | half offset =>
        refine readPoints_half offset (hne text) fun _ => ?_
        cases text with
        | nil => exact apart_quote rest
        | cons q text =>
          rw [List.flatMap_cons, List.append_assoc]
          refine apart_escapePoint (fun closing hq => ?_) _
          exact (hp offset closing text rfl (by rw [hq])).elim
    rw [List.flatMap_cons, List.append_assoc, hstep, ih (by omega), paired, List.reverse_cons,
      List.append_assoc, List.singleton_append]
    exact hp
  | case4 =>
    obtain ⟨fuel, rfl⟩ := Nat.exists_eq_succ_of_ne_zero (Nat.ne_zero_of_lt hfuel)
    rw [List.flatMap_nil, List.nil_append, readPoints.eq_def]
    simp [paired]

end Json

end DeployScript
