import DeployScript.Template.Block
import Mathlib.Data.List.Infix
import Mathlib.Data.List.TakeWhile

/-!
# Written markers

How the markers of conditional blocks are written, and what the readers make of them. A marker
starts by two slashes, blanks and one of three words. No reader finds anything in a text in which
no marker starts, up to the end of its line: this is what text lines have in common with the part
of a marker line behind its first slash.
-/

namespace DeployScript.Template

open DeployScript.Text (dropWord? dropWord?_eq_some_iff isBlank isWord)

/-! ### Spelling -/

/-- Spaces and tabs. -/
abbrev Blanks := { cs : List Char // ∀ c ∈ cs, isBlank c = true }

/-- A feature key: word characters, one at least. -/
abbrev Key := { cs : List Char // cs ≠ [] ∧ ∀ c ∈ cs, isWord c = true }

/-- The word of an opener up to its key. -/
def openingWord (negated : Bool) : List Char :=
  if negated then "__IF_NOT_FEATURE_".toList else "__IF_FEATURE_".toList

/-- What the key of an opener ends with. -/
def keyEnd : List Char := "__".toList

/-- The words that a marker may start with, behind its slashes and blanks. -/
def markerWords : List (List Char) := [openingWord true, openingWord false, closingWord]

/-- No marker starts anywhere in the text. -/
def Unmarked (cs : List Char) : Prop :=
  ∀ word ∈ markerWords, ∀ blanks : Blanks, ¬ slashes ++ blanks.val ++ word <:+: cs

/-- The text of a line is over: nothing follows, or a line end. -/
def AtLineEnd (cs : List Char) : Prop := ∀ c ∈ cs.head?, c = '\n'

def lineEnd (ended : Bool) : List Char := if ended then ['\n'] else []

theorem openingWord_eq (negated : Bool) :
    openingWord negated =
      "__IF_".toList ++ if negated then "NOT_FEATURE_".toList else "FEATURE_".toList := by
  cases negated <;> rfl

theorem openingWord_mem (negated : Bool) : openingWord negated ∈ markerWords := by
  cases negated <;> simp [markerWords]

theorem closingWord_mem : closingWord ∈ markerWords := by
  simp [markerWords]

theorem exists_cons_of_mem_markerWords {word : List Char} (h : word ∈ markerWords) :
    ∃ rest, word = '_' :: rest := by
  simp only [markerWords, List.mem_cons, List.not_mem_nil, or_false] at h
  rcases h with rfl | rfl | rfl <;> exact ⟨_, rfl⟩

theorem slash_ne_of_isBlank {c : Char} (h : isBlank c = true) : '/' ≠ c := by
  rintro rfl
  exact absurd h (by decide)

theorem not_mem_of_isBlank {c : Char} (hc : isBlank c = false) (blanks : Blanks) :
    c ∉ blanks.val := by
  intro hmem
  rw [blanks.property c hmem] at hc
  exact Bool.noConfusion hc

theorem not_mem_of_isWord {c : Char} (hc : isWord c = false) (key : Key) : c ∉ key.val := by
  intro hmem
  rw [key.property.2 c hmem] at hc
  exact Bool.noConfusion hc

/-- A marker stays within its line. -/
theorem lineEnd_not_mem_head {word : List Char} (h : word ∈ markerWords) (blanks : Blanks) :
    '\n' ∉ slashes ++ blanks.val ++ word := by
  have hword : '\n' ∉ word := by
    simp only [markerWords, List.mem_cons, List.not_mem_nil, or_false] at h
    rcases h with rfl | rfl | rfl <;> decide
  simp only [List.mem_append, not_or]
  exact ⟨⟨by decide, not_mem_of_isBlank (by decide) blanks⟩, hword⟩

/-! ### Blanks -/

theorem skipBlanks_append (blanks : Blanks) (cs : List Char) :
    skipBlanks (blanks.val ++ cs) = skipBlanks cs :=
  List.dropWhile_append_of_pos blanks.property

theorem skipBlanks_of_head {c : Char} {cs : List Char} (hc : isBlank c = false) :
    skipBlanks (c :: cs) = c :: cs := by
  simp [skipBlanks, hc]

theorem exists_blanks (cs : List Char) : ∃ blanks : Blanks, cs = blanks.val ++ skipBlanks cs :=
  ⟨⟨cs.takeWhile isBlank, List.all_eq_true.1 List.all_takeWhile⟩,
    List.takeWhile_append_dropWhile.symm⟩

theorem skipBlanks_of_atLineEnd {cs : List Char} (h : AtLineEnd cs) : skipBlanks cs = cs := by
  cases cs with
  | nil => rfl
  | cons c rest =>
    have hc : c = '\n' := h c rfl
    subst hc
    exact skipBlanks_of_head (by decide)

/-- The blanks of a line are skipped without touching what follows the line. -/
theorem skipBlanks_append_of_atLineEnd (cs : List Char) {after : List Char}
    (h : AtLineEnd after) : skipBlanks (cs ++ after) = skipBlanks cs ++ after := by
  induction cs with
  | nil => exact skipBlanks_of_atLineEnd h
  | cons c cs ih =>
    by_cases hc : isBlank c = true
    · simpa [skipBlanks, hc] using ih
    · simp [skipBlanks, hc]

/-! ### Heads

Every reader of markers first takes the slashes, the blanks and one of the words off a text. -/

def headRest? (word cs : List Char) : Option (List Char) :=
  (dropWord? slashes cs).bind fun rest => dropWord? word (skipBlanks rest)

theorem headRest?_eq_some_iff {word cs rest : List Char} (hword : word ∈ markerWords) :
    headRest? word cs = some rest ↔
      ∃ blanks : Blanks, cs = slashes ++ blanks.val ++ word ++ rest := by
  simp only [headRest?, Option.bind_eq_some_iff, dropWord?_eq_some_iff]
  constructor
  · rintro ⟨afterSlashes, rfl, hskip⟩
    obtain ⟨blanks, hblanks⟩ := exists_blanks afterSlashes
    refine ⟨blanks, ?_⟩
    rw [hblanks, skipBlanks_append] at *
    simp [hskip]
  · rintro ⟨blanks, rfl⟩
    refine ⟨blanks.val ++ (word ++ rest), by simp, ?_⟩
    obtain ⟨w, rfl⟩ := exists_cons_of_mem_markerWords hword
    rw [skipBlanks_append]
    exact skipBlanks_of_head (by decide)

theorem openerHead?_eq_some_iff {cs rest : List Char} {negated : Bool} :
    openerHead? cs = some (negated, rest) ↔ headRest? (openingWord negated) cs = some rest := by
  simp only [openerHead?, headRest?, Option.bind_eq_some_iff, dropWord?_eq_some_iff,
    openingWord_eq, List.append_assoc]
  constructor
  · rintro ⟨afterSlashes, rfl, afterIf, hskip, hrest⟩
    refine ⟨afterSlashes, rfl, ?_⟩
    split at hrest
    · next r hnot =>
      simp only [Option.some.injEq, Prod.mk.injEq] at hrest
      obtain ⟨rfl, rfl⟩ := hrest
      rw [hskip, dropWord?_eq_some_iff.1 hnot]
      rfl
    · simp only [Option.map_eq_some_iff, Prod.mk.injEq] at hrest
      obtain ⟨r, hfeature, rfl, rfl⟩ := hrest
      rw [hskip, dropWord?_eq_some_iff.1 hfeature]
      rfl
  · rintro ⟨afterSlashes, rfl, hskip⟩
    refine ⟨afterSlashes, rfl, _, hskip, ?_⟩
    cases negated <;> rfl

theorem openerHead?_eq_none_iff {cs : List Char} :
    openerHead? cs = none ↔ ∀ negated, headRest? (openingWord negated) cs = none := by
  simp only [Option.eq_none_iff_forall_ne_some]
  constructor
  · intro h negated rest hrest
    exact h (negated, rest) (openerHead?_eq_some_iff.2 hrest)
  · rintro h ⟨negated, rest⟩ hrest
    exact h negated rest (openerHead?_eq_some_iff.1 hrest)

theorem headRest?_cons_of_ne {c : Char} (h : '/' ≠ c) (word cs : List Char) :
    headRest? word (c :: cs) = none := by
  rw [headRest?, slashes, dropWord?, if_neg h]
  rfl

theorem openerHead?_cons_of_ne {c : Char} (h : '/' ≠ c) (cs : List Char) :
    openerHead? (c :: cs) = none :=
  openerHead?_eq_none_iff.2 fun negated => headRest?_cons_of_ne h (openingWord negated) cs

/-- What follows the blanks up to the end of a line, and the line end. -/
def lineRest? (cs : List Char) : Option (List Char) :=
  match skipBlanks cs with
  | [] => some []
  | '\n' :: rest => some rest
  | _ => none

theorem closer?_eq (cs : List Char) :
    closer? cs = (headRest? closingWord (skipBlanks cs)).bind lineRest? := by
  simp only [closer?, headRest?, Option.bind_assoc]
  rfl

theorem markerRest?_eq_none {cs : List Char} (hopener : openerHead? cs = none)
    (hcloser : headRest? closingWord cs = none) : markerRest? cs = none := by
  simp only [headRest?] at hcloser
  simp [markerRest?, hopener, hcloser]

/-! ### Unmarked texts -/

theorem Unmarked.of_infix {cs part : List Char} (h : Unmarked cs) (hpart : part <:+: cs) :
    Unmarked part :=
  fun word hword blanks hfound => h word hword blanks (hfound.trans hpart)

theorem unmarked_iff (cs : List Char) :
    Unmarked cs ↔ ∀ word ∈ markerWords, ∀ part ∈ cs.tails, headRest? word part = none := by
  constructor
  · intro h word hword part hpart
    rw [Option.eq_none_iff_forall_ne_some]
    intro rest hrest
    obtain ⟨blanks, rfl⟩ := (headRest?_eq_some_iff hword).1 hrest
    have hsuffix := (List.mem_tails _ _).1 hpart
    exact h word hword blanks ((List.prefix_append _ rest).isInfix.trans hsuffix.isInfix)
  · rintro h word hword blanks ⟨front, rest, rfl⟩
    have hpart : slashes ++ blanks.val ++ word ++ rest ∈
        (front ++ (slashes ++ blanks.val ++ word) ++ rest).tails := by
      rw [List.mem_tails, List.append_assoc front]
      exact List.suffix_append front _
    have hnone := h word hword _ hpart
    rw [(headRest?_eq_some_iff hword).2 ⟨blanks, rfl⟩] at hnone
    exact Option.some_ne_none rest hnone

instance (cs : List Char) : Decidable (Unmarked cs) :=
  decidable_of_iff _ (unmarked_iff cs).symm

/-- A head takes two slashes. -/
theorem unmarked_of_count {cs : List Char} (h : cs.count '/' < 2) : Unmarked cs := by
  intro word hword blanks hfound
  have hcount : 2 ≤ (slashes ++ blanks.val ++ word).count '/' := by
    simp [slashes]
  have := hfound.sublist.count_le '/'
  omega

/-- What starts within a line and holds no line end, stays within the line. -/
theorem prefix_of_append_eq {line after start rest : List Char} (h : line ++ after = start ++ rest)
    (hstart : '\n' ∉ start) (hafter : AtLineEnd after) : start <+: line := by
  rcases List.append_eq_append_iff.1 h with ⟨more, rfl, rfl⟩ | ⟨more, rfl, -⟩
  · cases more with
    | nil => simp
    | cons c more =>
      have hc : c = '\n' := hafter c rfl
      subst hc
      simp at hstart
  · exact List.prefix_append start more

theorem headRest?_of_unmarked {word line after : List Char} (hword : word ∈ markerWords)
    (hline : Unmarked line) (hafter : AtLineEnd after) : headRest? word (line ++ after) = none := by
  rw [Option.eq_none_iff_forall_ne_some]
  intro rest hrest
  obtain ⟨blanks, heq⟩ := (headRest?_eq_some_iff hword).1 hrest
  have hprefix : slashes ++ blanks.val ++ word <+: line :=
    prefix_of_append_eq heq (lineEnd_not_mem_head hword blanks) hafter
  exact hline word hword blanks hprefix.isInfix

/-- Nothing that starts in the text can turn into a marker by what follows it, and no marker behind
it can claim its blanks. -/
def Sealed (cs : List Char) : Prop :=
  (∀ c ∈ cs.getLast?, isBlank c = false) ∧
    ∀ start, start ≠ [] → start <:+ cs → ∀ word ∈ markerWords, ∀ blanks : Blanks,
      ¬ start <+: slashes ++ blanks.val ++ word

theorem Sealed.of_suffix {cs part : List Char} (h : Sealed cs) (hpart : part <:+ cs) :
    Sealed part := by
  constructor
  · intro c hc
    obtain ⟨front, rfl⟩ := hpart
    apply h.1
    rw [Option.mem_def] at hc ⊢
    rw [List.getLast?_append, hc]
    rfl
  · intro start hne hstart
    exact h.2 start hne (hstart.trans hpart)

theorem headRest?_of_sealed {word line : List Char} (hword : word ∈ markerWords)
    (hline : Unmarked line) (hsealed : Sealed line) (hne : line ≠ []) (after : List Char) :
    headRest? word (line ++ after) = none := by
  rw [Option.eq_none_iff_forall_ne_some]
  intro rest hrest
  obtain ⟨blanks, heq⟩ := (headRest?_eq_some_iff hword).1 hrest
  rcases List.append_eq_append_iff.1 heq with ⟨more, hhead, -⟩ | ⟨more, rfl, -⟩
  · exact hsealed.2 line hne (List.suffix_refl line) word hword blanks ⟨more, hhead.symm⟩
  · exact hline word hword blanks (List.prefix_append _ more).isInfix

theorem skipBlanks_append_of_sealed {line : List Char} (h : Sealed line) (hne : line ≠ [])
    (after : List Char) :
    skipBlanks line ≠ [] ∧ skipBlanks (line ++ after) = skipBlanks line ++ after := by
  have hrest : skipBlanks line ≠ [] := by
    intro hnil
    have hall := List.dropWhile_eq_nil_iff.1 hnil (line.getLast hne) (List.getLast_mem hne)
    rw [h.1 _ (List.getLast?_eq_some_getLast hne)] at hall
    exact Bool.noConfusion hall
  refine ⟨hrest, ?_⟩
  rw [skipBlanks, List.dropWhile_append, if_neg]
  · rfl
  · rwa [List.isEmpty_iff]

/-! ### Places without a marker -/

/-- No marker starts here, and none behind the blanks here. -/
def Headless (cs : List Char) : Prop :=
  ∀ word ∈ markerWords, headRest? word cs = none ∧ headRest? word (skipBlanks cs) = none

theorem headless_of_unmarked {line after : List Char} (hline : Unmarked line)
    (hafter : AtLineEnd after) : Headless (line ++ after) := by
  intro word hword
  have hrest : Unmarked (skipBlanks line) := hline.of_infix (List.dropWhile_suffix _).isInfix
  rw [skipBlanks_append_of_atLineEnd line hafter]
  exact ⟨headRest?_of_unmarked hword hline hafter, headRest?_of_unmarked hword hrest hafter⟩

theorem headless_of_sealed {line : List Char} (hline : Unmarked line) (hsealed : Sealed line)
    (hne : line ≠ []) (after : List Char) : Headless (line ++ after) := by
  intro word hword
  obtain ⟨hrestne, hskip⟩ := skipBlanks_append_of_sealed hsealed hne after
  have hsuffix : skipBlanks line <:+ line := List.dropWhile_suffix _
  rw [hskip]
  exact ⟨headRest?_of_sealed hword hline hsealed hne after,
    headRest?_of_sealed hword (hline.of_infix hsuffix.isInfix) (hsealed.of_suffix hsuffix)
      hrestne after⟩

namespace Headless

variable {cs : List Char} (h : Headless cs)
include h

theorem openerHead?_eq_none : openerHead? cs = none :=
  DeployScript.Template.openerHead?_eq_none_iff.2 fun negated =>
    (h _ (openingWord_mem negated)).1

theorem opener?_eq_none : opener? cs = none := by
  have hskip : openerHead? (skipBlanks cs) = none :=
    openerHead?_eq_none_iff.2 fun negated => (h _ (openingWord_mem negated)).2
  rw [opener?, hskip]
  rfl

theorem closer?_eq_none : closer? cs = none := by
  rw [closer?_eq, (h _ closingWord_mem).2]
  rfl

theorem markerRest?_eq_none : markerRest? cs = none :=
  DeployScript.Template.markerRest?_eq_none h.openerHead?_eq_none (h _ closingWord_mem).1

theorem block?_eq_none : block? cs = none := by
  rw [block?, h.opener?_eq_none]
  rfl

end Headless

/-- No marker starts anywhere in the text where `after` follows it. -/
def Quiet (line after : List Char) : Prop :=
  ∀ part, part ≠ [] → part <:+ line → Headless (part ++ after)

theorem quiet_of_atLineEnd {line after : List Char} (hline : Unmarked line)
    (hafter : AtLineEnd after) : Quiet line after := by
  intro part _ hpart
  exact headless_of_unmarked (hline.of_infix hpart.isInfix) hafter

theorem quiet_of_sealed {line : List Char} (hline : Unmarked line) (hsealed : Sealed line)
    (after : List Char) : Quiet line after := by
  intro part hne hpart
  exact headless_of_sealed (hline.of_infix hpart.isInfix) (hsealed.of_suffix hpart) hne after

theorem Quiet.headless {c : Char} {line after : List Char} (h : Quiet (c :: line) after) :
    Headless (c :: (line ++ after)) :=
  h (c :: line) (List.cons_ne_nil c line) (List.suffix_refl _)

theorem Quiet.tail {c : Char} {line after : List Char} (h : Quiet (c :: line) after) :
    Quiet line after := by
  intro part hne hpart
  exact h part hne (hpart.trans (List.suffix_cons c line))

theorem unmarked_nil : Unmarked [] := unmarked_of_count (by simp)

theorem headless_lineEnd (after : List Char) : Headless ('\n' :: after) :=
  headless_of_unmarked unmarked_nil (by simp [AtLineEnd])

/-! ### Marker lines -/

/-- The blanks of a marker line: before the slashes, behind them and at the end. -/
structure Margins where
  before : Blanks
  between : Blanks
  after : Blanks

def openerWord (negated : Bool) (key : Key) : List Char :=
  openingWord negated ++ key.val ++ keyEnd

def Margins.inner (margins : Margins) (word : List Char) : List Char :=
  margins.between.val ++ word ++ margins.after.val

/-- A marker line without its line end. -/
def Margins.write (margins : Margins) (word : List Char) : List Char :=
  margins.before.val ++ (slashes ++ margins.inner word)

theorem slash_not_mem_openerWord (negated : Bool) (key : Key) : '/' ∉ openerWord negated key := by
  simp only [openerWord, List.mem_append, not_or]
  exact ⟨⟨by cases negated <;> decide, not_mem_of_isWord (by decide) key⟩, by decide⟩

theorem slash_not_mem_closingWord : '/' ∉ closingWord := by decide

/-- Behind its first slash a marker line is unmarked. -/
theorem unmarked_inner (margins : Margins) {word : List Char} (hword : '/' ∉ word) :
    Unmarked ('/' :: margins.inner word) := by
  apply unmarked_of_count
  have hinner : (margins.inner word).count '/' = 0 := by
    simp only [List.count_eq_zero, Margins.inner, List.mem_append, not_or]
    exact ⟨⟨not_mem_of_isBlank (by decide) _, hword⟩, not_mem_of_isBlank (by decide) _⟩
  simp [hinner]

theorem isWord_of_isBlank {c : Char} (h : isBlank c = true) : isWord c = false := by
  simp only [isBlank, Bool.or_eq_true, beq_iff_eq] at h
  rcases h with rfl | rfl <;> decide

theorem isWord_head_of_atLineEnd (blanks : Blanks) {after : List Char} (h : AtLineEnd after) :
    ∀ c ∈ (blanks.val ++ after).head?, isWord c = false := by
  obtain ⟨cs, hcs⟩ := blanks
  intro c hc
  cases cs with
  | nil =>
    have hend : c = '\n' := h c hc
    subst hend
    decide
  | cons b rest =>
    simp only [List.cons_append, List.head?_cons, Option.mem_def, Option.some.injEq] at hc
    exact isWord_of_isBlank (hc ▸ hcs b (by simp))

theorem keyOfRun?_append (key : Key) : keyOfRun? (key.val ++ keyEnd) = some key.val := by
  have hreverse : (key.val ++ keyEnd).reverse = '_' :: '_' :: key.val.reverse := by
    simp [keyEnd]
  have hkey : key.val.reverse.isEmpty = false := by
    simpa using key.property.1
  simp [keyOfRun?, hreverse, hkey]

/-- The run of word characters of an opener is its key and the two underscores. -/
theorem takeWhile_isWord_key (key : Key) {after : List Char}
    (h : ∀ c ∈ after.head?, isWord c = false) :
    (key.val ++ keyEnd ++ after).takeWhile isWord = key.val ++ keyEnd ∧
      (key.val ++ keyEnd ++ after).dropWhile isWord = after := by
  have hword : ∀ c ∈ key.val ++ keyEnd, isWord c = true := by
    intro c hc
    rcases List.mem_append.1 hc with hc | hc
    · exact key.property.2 c hc
    · have hend : c = '_' := by simpa [keyEnd] using hc
      subst hend
      decide
  rw [List.takeWhile_append_of_pos hword, List.dropWhile_append_of_pos hword]
  cases after with
  | nil => simp
  | cons c rest => simp [h c rfl]

theorem headRest?_inner (margins : Margins) (word written after : List Char) :
    headRest? word (slashes ++ margins.inner written ++ after) =
      dropWord? word (skipBlanks (written ++ (margins.after.val ++ after))) := by
  rw [headRest?, List.append_assoc, dropWord?_eq_some_iff.2 rfl, Option.bind_some, Margins.inner,
    List.append_assoc, List.append_assoc, skipBlanks_append]

theorem skipBlanks_write (margins : Margins) (word after : List Char) :
    skipBlanks (margins.write word ++ after) = slashes ++ margins.inner word ++ after := by
  rw [Margins.write, List.append_assoc, skipBlanks_append]
  exact skipBlanks_of_head (by decide)

theorem openerHead?_openerWord (margins : Margins) (negated : Bool) (key : Key)
    (after : List Char) :
    openerHead? (slashes ++ margins.inner (openerWord negated key) ++ after) =
      some (negated, key.val ++ keyEnd ++ (margins.after.val ++ after)) := by
  rw [openerHead?_eq_some_iff, headRest?_inner, openerWord, List.append_assoc, List.append_assoc,
    List.append_assoc]
  cases negated <;> rfl

/-- An opener that has a line end is read with its key, whatever underscores the key holds; one
without is none. -/
theorem opener?_write (margins : Margins) (negated : Bool) (key : Key) {after : List Char}
    (h : AtLineEnd after) :
    opener? (margins.write (openerWord negated key) ++ after) =
      after.head?.map fun _ => (⟨negated, key.val⟩, after.drop 1) := by
  obtain ⟨htake, hdrop⟩ := takeWhile_isWord_key key (isWord_head_of_atLineEnd margins.after h)
  simp only [opener?, skipBlanks_write, openerHead?_openerWord, Option.bind_some, htake, hdrop,
    keyOfRun?_append, skipBlanks_append, skipBlanks_of_atLineEnd h]
  cases after with
  | nil => rfl
  | cons c rest =>
    have hc : c = '\n' := h c rfl
    subst hc
    rfl

theorem lineRest?_append (blanks : Blanks) {after : List Char} (h : AtLineEnd after) :
    lineRest? (blanks.val ++ after) = some (after.drop 1) := by
  rw [lineRest?, skipBlanks_append, skipBlanks_of_atLineEnd h]
  cases after with
  | nil => rfl
  | cons c rest =>
    have hc : c = '\n' := h c rfl
    subst hc
    rfl

/-- A closer is read at the end of a line and at the end of the text. -/
theorem closer?_write (margins : Margins) {after : List Char} (h : AtLineEnd after) :
    closer? (margins.write closingWord ++ after) = some (after.drop 1) := by
  have hhead : headRest? closingWord (slashes ++ margins.inner closingWord ++ after) =
      some (margins.after.val ++ after) := by
    rw [headRest?_inner]
    rfl
  rw [closer?_eq, skipBlanks_write, hhead]
  exact lineRest?_append margins.after h

/-- The word of an opener is not that of a closer. -/
theorem closer?_write_opener (margins : Margins) (negated : Bool) (key : Key)
    (after : List Char) : closer? (margins.write (openerWord negated key) ++ after) = none := by
  have hhead : headRest? closingWord
      (slashes ++ margins.inner (openerWord negated key) ++ after) = none := by
    rw [headRest?_inner]
    cases negated <;> rfl
  rw [closer?_eq, skipBlanks_write, hhead]
  rfl

/-- The word of a closer is not that of an opener. -/
theorem opener?_write_closer (margins : Margins) (after : List Char) :
    opener? (margins.write closingWord ++ after) = none := by
  have hhead : openerHead? (slashes ++ margins.inner closingWord ++ after) = none := by
    rw [openerHead?_eq_none_iff]
    intro negated
    rw [headRest?_inner]
    cases negated <;> rfl
  rw [opener?, skipBlanks_write, hhead]
  rfl

end DeployScript.Template
