import DeployScript.Proofs.Solidity.Qualifier

/-!
# What is left of a type

The compiler puts a keyword and a blank in front of the name of a contract, a struct or an enum, and
a declaration goes without both. All else of a type should be in its declaration. The rules look for
the keyword alone and cut off one code point more, whatever it is: of a value type whose name starts
with a keyword a part is lost, and of one that is named like a keyword nothing is left. Where a
blank follows every keyword that a type starts with, its declaration is complete, and nowhere else.
-/

namespace DeployScript.Solidity

/-- The keywords that the compiler puts in front of the names of types. -/
def keywords : List String := ["contract", "struct", "enum"]

/-- What should be left of a type: all of it, or what its keyword and the blank have in front. -/
def Leaves (t s : Text) : Prop :=
  s = t ∨ ∃ word ∈ keywords, t = Text.ofString word ++ CodePoint.char ' ' :: s

/-- The type is declared by what should be left of it, with the qualifier or without. -/
def DeclaredInFull (t : Text) : Prop :=
  ∃ s, Leaves t s ∧ (formatType t = s ∨ formatType t = s ++ memoryQualifier)

variable {t : Text} {word other : String}

/-! ### Words at the start of a type -/

theorem startsWith_iff : startsWith word t = true ↔ Text.ofString word <+: t := by
  rw [startsWith, List.isPrefixOf_iff_prefix]

/-- A type starts with one of two words at most, unless one of them starts the other. -/
theorem startsWith_eq_false (h : startsWith word t = true)
    (hword : ¬ Text.ofString word <+: Text.ofString other)
    (hother : ¬ Text.ofString other <+: Text.ofString word) : startsWith other t = false := by
  rw [← Bool.not_eq_true, startsWith_iff]
  intro hstart
  rcases List.prefix_or_prefix_of_prefix (startsWith_iff.1 h) hstart with hprefix | hprefix
  · exact hword hprefix
  · exact hother hprefix

/-- A keyword is neither the start nor a continuation of another word that the rules look for. -/
theorem startsWith_of_keyword (hword : word ∈ keywords) (h : startsWith word t = true)
    (hother : other ∈ ruleWords) : startsWith other t = decide (other = word) := by
  by_cases hsame : other = word
  · rw [hsame, h]
    simp
  · have hapart : ∀ word ∈ keywords, ∀ other ∈ ruleWords, other ≠ word →
        ¬ Text.ofString word <+: Text.ofString other ∧
          ¬ Text.ofString other <+: Text.ofString word := by decide
    obtain ⟨hword, hother⟩ := hapart word hword other hother hsame
    rw [startsWith_eq_false h hword hother, decide_eq_false hsame]

/-! ### What the rules leave -/

/-- A keyword is cut off along with the code point behind it. -/
theorem formatType_of_keyword (hword : word ∈ keywords) (h : startsWith word t = true) :
    formatType t = dropKeyword word t ∨ formatType t = dropKeyword word t ++ memoryQualifier := by
  rw [formatType_eq, startsWith_of_keyword hword h (by decide),
    startsWith_of_keyword hword h (by decide), startsWith_of_keyword hword h (by decide),
    startsWith_of_keyword hword h (by decide), startsWith_of_keyword hword h (by decide)]
  simp only [keywords, List.mem_cons, List.not_mem_nil, or_false] at hword
  rcases hword with rfl | rfl | rfl
  · exact .inl rfl
  · cases isArray t <;> exact .inr rfl
  · cases isArray t
    · exact .inl rfl
    · exact .inr rfl

theorem formatType_of_no_keyword (h : ∀ word ∈ keywords, startsWith word t = false) :
    formatType t = t ∨ formatType t = t ++ memoryQualifier := by
  simp only [keywords, List.forall_mem_cons] at h
  obtain ⟨hcontract, hstruct, henum, -⟩ := h
  rw [formatType_eq, hcontract, hstruct, henum]
  cases startsWith "string" t || startsWith "bytes" t
  · cases isArray t
    · exact .inl rfl
    · exact .inr rfl
  · exact .inr rfl

/-- With a keyword goes the code point behind it, whatever it is. -/
theorem dropKeyword_append (word : String) (rest : Text) :
    dropKeyword word (Text.ofString word ++ rest) = rest.drop 1 := by
  have hlength : (Text.ofString word).length = word.length := by
    simp [Text.ofString, Text.ofChars, String.length_toList]
  rw [dropKeyword, ← hlength, List.drop_append, List.drop_of_length_le (Nat.le_succ _),
    Nat.add_sub_cancel_left, List.nil_append]

/-! ### Declarations in full -/

theorem declaredInFull_of_blank (h : ∀ word ∈ keywords, startsWith word t = true →
    startsWith (word ++ " ") t = true) : DeclaredInFull t := by
  by_cases hkeyword : ∃ word ∈ keywords, startsWith word t = true
  · obtain ⟨word, hword, hstart⟩ := hkeyword
    obtain ⟨s, hs⟩ := startsWith_iff.1 (h word hword hstart)
    have ht : t = Text.ofString word ++ CodePoint.char ' ' :: s := by
      rw [← hs]
      simp [Text.ofString, Text.ofChars]
    have hformat := formatType_of_keyword hword hstart
    rw [ht, dropKeyword_append, ← ht, List.drop_one, List.tail_cons] at hformat
    exact ⟨s, .inr ⟨word, hword, ht⟩, hformat⟩
  · have hnone : ∀ word ∈ keywords, startsWith word t = false := by
      intro word hword
      rw [← Bool.not_eq_true]
      exact fun hstart => hkeyword ⟨word, hword, hstart⟩
    exact ⟨t, .inl rfl, formatType_of_no_keyword hnone⟩

/-- A type that starts with a keyword is never declared as it is: every keyword has a letter that
the qualifier has not, and a declaration holds that letter less often than the type. -/
theorem formatType_ne_of_keyword (hword : word ∈ keywords) (h : startsWith word t = true) :
    formatType t ≠ t ∧ formatType t ≠ t ++ memoryQualifier := by
  have hletter : ∀ word ∈ keywords, ∃ c ∈ Text.ofString word,
      c ∉ Text.ofString memoryQualifier := by decide
  obtain ⟨c, hc, hqualifier⟩ := hletter word hword
  have hadded : List.count c (Text.ofString memoryQualifier) = 0 := List.count_eq_zero.2 hqualifier
  have hless : (formatType t).count c < t.count c := by
    obtain ⟨rest, rfl⟩ := startsWith_iff.1 h
    have hpositive : 0 < (Text.ofString word).count c := List.count_pos_iff.2 hc
    have hdropped : (dropKeyword word (Text.ofString word ++ rest)).count c ≤ rest.count c := by
      rw [dropKeyword_append]
      exact (List.drop_sublist 1 rest).count_le c
    have hcount : (formatType (Text.ofString word ++ rest)).count c =
        (dropKeyword word (Text.ofString word ++ rest)).count c := by
      rcases formatType_of_keyword hword h with hformat | hformat <;>
        simp [hformat, List.count_append, hadded]
    rw [hcount, List.count_append]
    omega
  constructor
  · intro heq
    rw [heq] at hless
    omega
  · intro heq
    rw [heq, List.count_append, hadded] at hless
    omega

theorem blank_of_declaredInFull (h : DeclaredInFull t) (hword : word ∈ keywords)
    (hstart : startsWith word t = true) : startsWith (word ++ " ") t = true := by
  obtain ⟨s, rfl | ⟨other, hother, ht⟩, hformat⟩ := h
  · obtain ⟨hbare, hqualified⟩ := formatType_ne_of_keyword hword hstart
    rcases hformat with hformat | hformat
    · exact absurd hformat hbare
    · exact absurd hformat hqualified
  · have hrule : ∀ other ∈ keywords, other ∈ ruleWords := by decide
    have hblank : startsWith (other ++ " ") t = true := by
      rw [startsWith_iff, ht]
      exact ⟨s, by simp [Text.ofString, Text.ofChars]⟩
    have hfound : startsWith other t = true := by
      rw [startsWith_iff, ht]
      exact List.prefix_append _ _
    rw [startsWith_of_keyword hword hstart (hrule other hother), decide_eq_true_eq] at hfound
    rwa [← hfound]

/-- A declaration loses nothing of a type but a keyword and a blank exactly if a blank follows the
keyword that the type starts with, should it start with one. -/
theorem declaredInFull_iff (t : Text) :
    DeclaredInFull t ↔
      ∀ word ∈ keywords, startsWith word t = true → startsWith (word ++ " ") t = true :=
  ⟨fun h _ hword hstart => blank_of_declaredInFull h hword hstart, declaredInFull_of_blank⟩

/-- Of a value type with the name `contractId` the declaration says `d`. -/
theorem not_forall_declaredInFull :
    formatType "contractId" = "d" ∧ ¬ ∀ t : Text, DeclaredInFull t := by
  refine ⟨by decide, fun h => ?_⟩
  have hblank : startsWith ("contract" ++ " ") "contractId" = true :=
    blank_of_declaredInFull (h "contractId") (by decide) (by decide)
  exact absurd hblank (by decide)

end DeployScript.Solidity
