import DeployScript.Proofs.Template.Run
import DeployScript.Proofs.Template.Writing

/-!
# Shortening and filling

Runs of line ends are shortened after the holes are filled. No hole holds a line end, so that a
template that is shortened first has the same holes with the same text between them, up to its runs
of line ends. A value that is not empty, has no line end at either end and no three of them together
neither adds to a run nor has one itself. With such values it makes no difference which of the two
comes first.
-/

namespace DeployScript.Template

/-! ### Shortened texts -/

theorem shortenRuns_lineEnd (before : Nat) (t : Text) :
    shortenRuns before (.char '\n' :: t) =
      if before < 2 then .char '\n' :: shortenRuns (before + 1) t else shortenRuns before t := by
  rw [shortenRuns, if_pos rfl]

theorem shortenRuns_cons_of_ne {c : CodePoint} (hc : c ≠ .char '\n') (before : Nat) (t : Text) :
    shortenRuns before (c :: t) = c :: shortenRuns 0 t := by
  rw [shortenRuns, if_neg hc]

theorem shortenRuns_char_of_ne {c : Char} (hc : c ≠ '\n') (before : Nat) (t : Text) :
    shortenRuns before (.char c :: t) = .char c :: shortenRuns 0 t :=
  shortenRuns_cons_of_ne (fun heq => hc (CodePoint.char.inj heq)) before t

/-- A text without a run stays as it is, and ends the run that is before it; `before` line ends
stand in front of it. -/
theorem shortenRuns_append_of_noRun {before : Nat} {v : Text}
    (hrun : ¬ lineEnds 3 <:+: lineEnds before ++ v)
    (hend : (lineEnds before ++ v).getLast? ≠ some (.char '\n')) (t : Text) :
    shortenRuns before (v ++ t) = v ++ shortenRuns 0 t := by
  induction v generalizing before with
  | nil =>
    cases before with
    | zero => rfl
    | succ before => simp [lineEnds, List.getLast?_replicate] at hend
  | cons c v ih =>
    by_cases hc : c = .char '\n'
    · subst hc
      rw [← lineEnds_succ_append] at hrun hend
      have hbefore : before < 2 := by
        by_contra hlong
        refine hrun ⟨[], lineEnds (before + 1 - 3) ++ v, ?_⟩
        have hsplit : before + 1 = 3 + (before + 1 - 3) := by omega
        conv_rhs => rw [hsplit, lineEnds, List.replicate_add, List.append_assoc]
        rfl
      rw [List.cons_append, shortenRuns_lineEnd, if_pos hbefore, ih hrun hend]
      rfl
    · have hsuffix : v <:+ lineEnds before ++ c :: v :=
        (List.suffix_cons c v).trans (List.suffix_append _ _)
      have hrest : ¬ lineEnds 3 <:+: lineEnds 0 ++ v :=
        fun hfound => hrun (hfound.trans hsuffix.isInfix)
      have hlast : (lineEnds 0 ++ v).getLast? ≠ some (.char '\n') := by
        cases v with
        | nil => simp [lineEnds]
        | cons d v => simpa [lineEnds, List.getLast?_append, List.getLast?_cons_cons] using hend
      rw [List.cons_append, shortenRuns_cons_of_ne hc, ih hrest hlast]
      rfl

/-- A value that neither lengthens a run of line ends nor has one to shorten. -/
structure Compact (value : Text) : Prop where
  ne_nil : value ≠ []
  head : value.head? ≠ some (.char '\n')
  getLast : value.getLast? ≠ some (.char '\n')
  noRun : ¬ lineEnds 3 <:+: value

theorem Compact.shortenRuns_append {value : Text} (h : Compact value) (before : Nat) (t : Text) :
    shortenRuns before (value ++ t) = value ++ shortenRuns 0 t := by
  have hrun : ¬ lineEnds 3 <:+: lineEnds 0 ++ value := h.noRun
  have hvalue := shortenRuns_append_of_noRun hrun h.getLast t
  cases value with
  | nil => exact absurd rfl h.ne_nil
  | cons c rest =>
    have hc : c ≠ .char '\n' := fun heq => h.head (congrArg some heq)
    rw [← hvalue, List.cons_append, shortenRuns_cons_of_ne hc, shortenRuns_cons_of_ne hc]

/-! ### Shortened templates -/

/-- The characters of a template with its runs shortened, `before` line ends standing in front. -/
def shortenChars (before : Nat) (cs : List Char) : List Char :=
  (shortenRuns before (Text.ofChars cs)).filterMap CodePoint.char?

theorem shortenChars_lineEnd (before : Nat) (cs : List Char) :
    shortenChars before ('\n' :: cs) =
      if before < 2 then '\n' :: shortenChars (before + 1) cs else shortenChars before cs := by
  rw [shortenChars, Text.ofChars_cons, shortenRuns_lineEnd]
  split <;> rfl

theorem shortenChars_cons_of_ne {c : Char} (hc : c ≠ '\n') (before : Nat) (cs : List Char) :
    shortenChars before (c :: cs) = c :: shortenChars 0 cs := by
  rw [shortenChars, Text.ofChars_cons, shortenRuns_char_of_ne hc]
  rfl

theorem ofChars_shortenChars (before : Nat) (cs : List Char) :
    Text.ofChars (shortenChars before cs) = shortenRuns before (Text.ofChars cs) := by
  induction cs generalizing before with
  | nil => rfl
  | cons c cs ih =>
    rw [Text.ofChars_cons]
    by_cases hc : c = '\n'
    · subst hc
      rw [shortenChars_lineEnd, shortenRuns_lineEnd]
      split
      · exact congrArg (_ :: ·) (ih _)
      · exact ih _
    · rw [shortenChars_cons_of_ne hc, shortenRuns_char_of_ne hc]
      exact congrArg (_ :: ·) (ih 0)

theorem shortenChars_append {word : List Char} (hword : '\n' ∉ word) (cs : List Char) :
    shortenChars 0 (word ++ cs) = word ++ shortenChars 0 cs := by
  induction word with
  | nil => rfl
  | cons c word ih =>
    rw [List.mem_cons, not_or] at hword
    rw [List.cons_append, shortenChars_cons_of_ne (Ne.symm hword.1), ih hword.2]
    rfl

/-- What a shortened text starts with up to a line end, the text starts with. -/
theorem exists_append_of_shortenChars {word rest cs : List Char} (hword : '\n' ∉ word)
    (h : shortenChars 0 cs = word ++ rest) : ∃ behind, cs = word ++ behind := by
  induction word generalizing cs with
  | nil => exact ⟨cs, rfl⟩
  | cons d word ih =>
    rw [List.mem_cons, not_or] at hword
    cases cs with
    | nil => exact absurd h (by simp [shortenChars, shortenRuns, Text.ofChars])
    | cons c cs =>
      by_cases hc : c = '\n'
      · subst hc
        rw [shortenChars_lineEnd, if_pos (by decide), List.cons_append, List.cons.injEq] at h
        exact absurd h.1 hword.1
      · rw [shortenChars_cons_of_ne hc, List.cons_append, List.cons.injEq] at h
        obtain ⟨rfl, hrest⟩ := h
        obtain ⟨behind, rfl⟩ := ih hword.2 hrest
        exact ⟨behind, rfl⟩

/-! ### Reading shortened templates -/

/-- The parts of a template with runs of line ends shortened; a hole ends a run. -/
def shortenPieces : Nat → List Piece → List Piece
  | _, [] => []
  | _, .hole name :: rest => .hole name :: shortenPieces 0 rest
  | before, .char c :: rest =>
    if c = '\n' then
      if before < 2 then .char c :: shortenPieces (before + 1) rest else shortenPieces before rest
    else .char c :: shortenPieces 0 rest

theorem isNameChar_of_mem {name : List Char} (h : IsHoleName name) {c : Char} (hc : c ∈ name) :
    isNameChar c = true := by
  obtain ⟨first, letters, groups, hfirst, hletters, hgroups, rfl⟩ := h
  rcases List.mem_cons.1 hc with rfl | hrest
  · simp [isNameChar, hfirst]
  · rcases List.mem_append.1 hrest with hletter | hgroup
    · exact isNameChar_of_isNameLetter (hletters c hletter)
    · obtain ⟨group, hgroup, hmem⟩ := List.mem_flatMap.1 hgroup
      rcases List.mem_cons.1 hmem with rfl | hletter
      · decide
      · exact isNameChar_of_isNameLetter ((hgroups group hgroup).2 c hletter)

theorem lineEnd_not_mem_spell {name : List Char} (h : IsHoleName name) :
    '\n' ∉ (Segment.hole name).spell := by
  intro hmem
  simp only [Segment.spell, fence, List.mem_append, List.mem_cons, List.not_mem_nil] at hmem
  have hname : '\n' ∈ name := by simpa using hmem
  exact absurd (isNameChar_of_mem h hname) (by decide)

theorem shortenChars_spell {name : List Char} (h : IsHoleName name) (before : Nat)
    (cs : List Char) :
    shortenChars before ((Segment.hole name).spell ++ cs) =
      (Segment.hole name).spell ++ shortenChars 0 cs := by
  have hstart : (Segment.hole name).spell = '_' :: ('_' :: name ++ fence) := rfl
  rw [← shortenChars_append (lineEnd_not_mem_spell h), hstart, List.cons_append,
    shortenChars_cons_of_ne (by decide), shortenChars_cons_of_ne (by decide)]

theorem hole?_cons_shortenChars {c : Char} {cs : List Char} (hc : c ≠ '\n')
    (h : hole? (c :: cs) = none) : hole? (c :: shortenChars 0 cs) = none := by
  rw [← shortenChars_cons_of_ne hc 0 cs, Option.eq_none_iff_forall_ne_some]
  rintro ⟨name, rest⟩ hhole
  have hname : IsHoleName name := isHoleName_of_hole? hhole
  obtain ⟨behind, hbehind⟩ :=
    exists_append_of_shortenChars (lineEnd_not_mem_spell hname) (hole?_eq_some hhole).1
  rw [hbehind, hole?_spell hname] at h
  exact Option.some_ne_none _ h

theorem hole?_lineEnd (cs : List Char) : hole? ('\n' :: cs) = none := rfl

/-- Shortening a text first leaves the holes as they are. -/
theorem pieces_shortenChars (before : Nat) (cs : List Char) :
    pieces (shortenChars before cs) = shortenPieces before (pieces cs) := by
  fun_induction pieces cs generalizing before with
  | case1 cs name rest h ih =>
    have hname : IsHoleName name := isHoleName_of_hole? h
    rw [(hole?_eq_some h).1, shortenChars_spell hname,
      pieces_of_hole?_eq_some (hole?_spell hname _), shortenPieces, ih]
  | case2 => exact pieces_nil
  | case3 c rest h ih =>
    by_cases hc : c = '\n'
    · subst hc
      rw [shortenChars_lineEnd, shortenPieces, if_pos rfl]
      split
      · rw [pieces_cons_of_hole?_eq_none (hole?_lineEnd _), ih]
      · exact ih before
    · rw [shortenChars_cons_of_ne hc, shortenPieces, if_neg hc,
        pieces_cons_of_hole?_eq_none (hole?_cons_shortenChars hc h), ih]

theorem hole_mem_shortenPieces_iff (before : Nat) (parts : List Piece) (name : List Char) :
    .hole name ∈ shortenPieces before parts ↔ .hole name ∈ parts := by
  fun_induction shortenPieces before parts with
  | case1 => rfl
  | case2 before other rest ih => rw [List.mem_cons, List.mem_cons, ih]
  | case3 before rest hbefore ih => simpa using ih
  | case4 before rest hbefore ih => simpa using ih
  | case5 before c rest hc ih => simpa using ih

/-- Filling comes to the same before shortening and after it. -/
theorem shortenRuns_flatMap_fill {values : String → Option Text} {parts : List Piece}
    (h : ∀ name, .hole name ∈ parts → Compact ((values (String.ofList name)).getD []))
    (before : Nat) :
    shortenRuns before (parts.flatMap (Piece.fill values)) =
      (shortenPieces before parts).flatMap (Piece.fill values) := by
  induction parts generalizing before with
  | nil => rfl
  | cons part rest ih =>
    have hrest := ih fun name hname => h name (List.mem_cons_of_mem part hname)
    cases part with
    | hole name =>
      rw [List.flatMap_cons, Piece.fill, (h name List.mem_cons_self).shortenRuns_append, hrest,
        shortenPieces, List.flatMap_cons, Piece.fill]
    | char c =>
      rw [List.flatMap_cons, Piece.fill, List.singleton_append, shortenPieces]
      by_cases hc : c = '\n'
      · subst hc
        rw [shortenRuns_lineEnd, if_pos rfl]
        split
        · rw [hrest]
          rfl
        · exact hrest before
      · rw [shortenRuns_char_of_ne hc, if_neg hc, hrest]
        rfl

theorem fillHoles_pieces {values : String → Option Text} {cs : List Char}
    (h : ∀ name, .hole name ∈ pieces cs → (values (String.ofList name)).isSome) :
    fillHoles values cs = .ok ((pieces cs).flatMap (Piece.fill values)) := by
  have hpieces := pieces_eq_flatMap_segmentsOf cs
  rw [flatMap_fill_pieces hpieces]
  apply fillHoles_of_isSome hpieces
  intro name hname
  exact h name ((mem_pieces_iff hpieces name).2 hname)

/-- Where every hole has a compact value, shortening the filled template comes to the same as
filling the shortened one. -/
theorem fillHoles_shortened {values : String → Option Text} {cs : List Char}
    (h : ∀ name ∈ holes cs, ∃ value, values name = some value ∧ Compact value) :
    ∃ (shortened : List Char) (filled : Text),
      Text.ofChars shortened = shortenRuns 0 (Text.ofChars cs) ∧
        fillHoles values cs = .ok filled ∧
          fillHoles values shortened = .ok (shortenRuns 0 filled) := by
  have hvalue : ∀ name, .hole name ∈ pieces cs →
      ∃ value, values (String.ofList name) = some value ∧ Compact value := by
    intro name hname
    apply h
    rw [mem_holes_iff (pieces_eq_flatMap_segmentsOf cs), String.toList_ofList]
    exact (mem_pieces_iff (pieces_eq_flatMap_segmentsOf cs) name).1 hname
  have hsome : ∀ name, .hole name ∈ pieces cs → (values (String.ofList name)).isSome := by
    intro name hname
    obtain ⟨value, hvalue, -⟩ := hvalue name hname
    rw [hvalue]
    rfl
  have hcompact : ∀ name, .hole name ∈ pieces cs →
      Compact ((values (String.ofList name)).getD []) := by
    intro name hname
    obtain ⟨value, hvalue, hcompact⟩ := hvalue name hname
    rwa [hvalue]
  refine ⟨shortenChars 0 cs, (pieces cs).flatMap (Piece.fill values), ofChars_shortenChars 0 cs,
    fillHoles_pieces hsome, ?_⟩
  rw [shortenRuns_flatMap_fill hcompact, ← pieces_shortenChars]
  apply fillHoles_pieces
  intro name hname
  rw [pieces_shortenChars, hole_mem_shortenPieces_iff] at hname
  exact hsome name hname

/-- Holes at runs of line ends, in front of them, between and behind. -/
def looseText : List Char := "\n\n\n__A__\n\n\n\n__B____A__\n\n\n".toList

def compactValues (name : String) : Option Text :=
  if name = "A" then some "x\n\ny" else some "z"

theorem compact_compactValues (name : String) :
    ∃ value, compactValues name = some value ∧ Compact value := by
  rw [compactValues]
  split
  · exact ⟨_, rfl, by decide, by decide, by decide, by decide⟩
  · exact ⟨_, rfl, by decide, by decide, by decide, by decide⟩

theorem fillHoles_shortened_looseText :
    (∀ name ∈ holes looseText, ∃ value, compactValues name = some value ∧ Compact value) ∧
      ∃ (shortened : List Char) (filled : Text),
        Text.ofChars shortened = shortenRuns 0 (Text.ofChars looseText) ∧
          fillHoles compactValues looseText = .ok filled ∧
            fillHoles compactValues shortened = .ok (shortenRuns 0 filled) := by
  have hvalues : ∀ name ∈ holes looseText,
      ∃ value, compactValues name = some value ∧ Compact value :=
    fun name _ => compact_compactValues name
  exact ⟨hvalues, fillHoles_shortened hvalues⟩

end DeployScript.Template
