import DeployScript.Proofs.Template.Segment
import Mathlib.Data.List.Chain

/-!
# Written holes

A template is written segment by segment. Where no two literals stand next to each other, no hole
starts within a literal, and the names have single underscores only, reading the written text for
holes gives the segments back, whatever underscores meet at their ends.
-/

namespace DeployScript.Template

open DeployScript.Text (dropWord? dropWord?_eq_some_iff)

/-! ### Writing -/

def writing (segments : List Segment) : List Char := segments.flatMap Segment.spell

/-- A capital or a digit. -/
def isNameLetter (c : Char) : Bool := c.isUpper || c.isDigit

/-- Groups of capitals and digits with one underscore between them, a capital first. -/
def IsHoleName (name : List Char) : Prop :=
  ∃ (first : Char) (rest : List Char) (groups : List (List Char)),
    first.isUpper = true ∧ (∀ c ∈ rest, isNameLetter c = true) ∧
      (∀ group ∈ groups, group ≠ [] ∧ ∀ c ∈ group, isNameLetter c = true) ∧
      name = first :: (rest ++ groups.flatMap ('_' :: ·))

/-- No two underscores stand before a capital. -/
def Holeless (cs : List Char) : Prop :=
  ∀ c : Char, c.isUpper = true → ¬ ['_', '_', c] <:+: cs

/-- The segments of a template that is written without ambiguity. -/
structure WellWritten (segments : List Segment) : Prop where
  name : ∀ name, .hole name ∈ segments → IsHoleName name
  literal : ∀ chars, .literal chars ∈ segments → Holeless chars
  apart : segments.IsChain fun first second => first.isHole = true ∨ second.isHole = true

theorem WellWritten.tail {segment : Segment} {segments : List Segment}
    (h : WellWritten (segment :: segments)) : WellWritten segments where
  name name hname := h.name name (List.mem_cons_of_mem segment hname)
  literal chars hchars := h.literal chars (List.mem_cons_of_mem segment hchars)
  apart := h.apart.tail

/-! ### Reading names -/

theorem underscore_ne_of_isNameLetter {c : Char} (h : isNameLetter c = true) : '_' ≠ c := by
  rintro rfl
  exact absurd h (by decide)

theorem isNameChar_of_isNameLetter {c : Char} (h : isNameLetter c = true) :
    isNameChar c = true := by
  simp only [isNameLetter, Bool.or_eq_true] at h
  simp only [isNameChar, Bool.or_eq_true]
  exact Or.inl h

theorem nameRest?_cons {c : Char} {cs : List Char} (hc : isNameChar c = true)
    (hfence : dropWord? fence (c :: cs) = none) :
    nameRest? (c :: cs) = (nameRest? cs).map fun found => (c :: found.1, found.2) := by
  rw [nameRest?, hfence]
  simp [hc]

theorem nameRest?_append {letters : List Char} (h : ∀ c ∈ letters, isNameLetter c = true)
    (cs : List Char) :
    nameRest? (letters ++ cs) =
      (nameRest? cs).map fun found => (letters ++ found.1, found.2) := by
  induction letters with
  | nil => simp
  | cons c letters ih =>
    have hc : isNameLetter c = true := h c (by simp)
    have hfence : dropWord? fence (c :: (letters ++ cs)) = none := by
      simp [fence, dropWord?, underscore_ne_of_isNameLetter hc]
    have hrest := ih fun d hd => h d (List.mem_cons_of_mem c hd)
    rw [List.cons_append, nameRest?_cons (isNameChar_of_isNameLetter hc) hfence, hrest,
      Option.map_map]
    rfl

/-- A group behind a single underscore does not end the name. -/
theorem nameRest?_group {group : List Char} (hne : group ≠ [])
    (h : ∀ c ∈ group, isNameLetter c = true) (cs : List Char) :
    nameRest? ('_' :: (group ++ cs)) =
      (nameRest? cs).map fun found => ('_' :: (group ++ found.1), found.2) := by
  cases group with
  | nil => exact absurd rfl hne
  | cons c more =>
    have hfence : dropWord? fence ('_' :: (c :: more ++ cs)) = none := by
      simp [fence, dropWord?, underscore_ne_of_isNameLetter (h c (by simp))]
    rw [nameRest?_cons (by decide) hfence, nameRest?_append h, Option.map_map]
    rfl

theorem nameRest?_groups {groups : List (List Char)}
    (h : ∀ group ∈ groups, group ≠ [] ∧ ∀ c ∈ group, isNameLetter c = true) (rest : List Char) :
    nameRest? (groups.flatMap ('_' :: ·) ++ (fence ++ rest)) =
      some (groups.flatMap ('_' :: ·), rest) := by
  induction groups with
  | nil => rw [List.flatMap_nil, List.nil_append, nameRest?.eq_def, dropWord?_eq_some_iff.2 rfl]
  | cons group groups ih =>
    obtain ⟨hne, hgroup⟩ := h group (by simp)
    have hrest := ih fun other hother => h other (List.mem_cons_of_mem group hother)
    rw [List.flatMap_cons, List.append_assoc, List.cons_append,
      nameRest?_group hne hgroup, hrest]
    rfl

/-- The next two underscores behind the name are the closing ones. -/
theorem hole?_spell {name : List Char} (h : IsHoleName name) (rest : List Char) :
    hole? ((Segment.hole name).spell ++ rest) = some (name, rest) := by
  obtain ⟨first, letters, groups, hfirst, hletters, hgroups, rfl⟩ := h
  have hname : nameRest? (letters ++ (groups.flatMap ('_' :: ·) ++ (fence ++ rest))) =
      some (letters ++ groups.flatMap ('_' :: ·), rest) := by
    rw [nameRest?_append hletters, nameRest?_groups hgroups]
    rfl
  have hspell : (Segment.hole (first :: (letters ++ groups.flatMap ('_' :: ·)))).spell ++ rest =
      fence ++ first :: (letters ++ (groups.flatMap ('_' :: ·) ++ (fence ++ rest))) := by
    simp [Segment.spell]
  rw [hspell, hole?, dropWord?_eq_some_iff.2 rfl]
  simp only [hfirst, if_true, hname]
  rfl

/-- Where a name ends at the next two underscores, the underscores in it stand one by one and not
at its end. -/
theorem exists_groups_of_nameRest? {cs name rest : List Char}
    (h : nameRest? cs = some (name, rest)) :
    ∃ (letters : List Char) (groups : List (List Char)),
      (∀ c ∈ letters, isNameLetter c = true) ∧
        (∀ group ∈ groups, group ≠ [] ∧ ∀ c ∈ group, isNameLetter c = true) ∧
          name = letters ++ groups.flatMap ('_' :: ·) := by
  fun_induction nameRest? cs generalizing name rest with
  | case1 =>
    simp only [Option.some.injEq, Prod.mk.injEq] at h
    exact ⟨[], [], by simp, by simp, h.1.symm⟩
  | case2 => simp at h
  | case3 c after hc hfence ih =>
    simp only [Option.map_eq_some_iff, Prod.mk.injEq] at h
    obtain ⟨⟨more, behind⟩, hmore, rfl, rfl⟩ := h
    obtain ⟨letters, groups, hletters, hgroups, rfl⟩ := ih hmore
    by_cases hletter : isNameLetter c = true
    · exact ⟨c :: letters, groups, List.forall_mem_cons.2 ⟨hletter, hletters⟩, hgroups, rfl⟩
    · -- an underscore: what follows it is no underscore, since the name would have ended before it
      have hunderscore : c = '_' := by
        simp only [isNameLetter] at hletter
        simpa [isNameChar, hletter] using hc
      subst hunderscore
      have hne : letters ≠ [] := by
        rintro rfl
        have hafter := nameRest?_eq_some hmore
        cases groups with
        | nil => simp [hafter, fence, dropWord?] at hfence
        | cons group groups => simp [hafter, fence, dropWord?] at hfence
      exact ⟨[], letters :: groups, by simp, List.forall_mem_cons.2 ⟨⟨hne, hletters⟩, hgroups⟩, rfl⟩
  | case4 => simp at h

/-- The name of a hole that is read is written without ambiguity. -/
theorem isHoleName_of_hole? {cs name rest : List Char} (h : hole? cs = some (name, rest)) :
    IsHoleName name := by
  unfold hole? at h
  split at h
  · next c after _ =>
    split at h
    · next hc =>
      simp only [Option.map_eq_some_iff, Prod.mk.injEq] at h
      obtain ⟨⟨more, behind⟩, hmore, rfl, rfl⟩ := h
      obtain ⟨letters, groups, hletters, hgroups, rfl⟩ := exists_groups_of_nameRest? hmore
      exact ⟨c, letters, groups, hc, hletters, hgroups, rfl⟩
    · simp at h
  · simp at h

/-! ### Reading literals -/

theorem Holeless.of_infix {cs part : List Char} (h : Holeless cs) (hpart : part <:+: cs) :
    Holeless part :=
  fun c hc hfound => h c hc (hfound.trans hpart)

theorem holeless_of_not_isUpper {cs : List Char} (h : cs.any Char.isUpper = false) :
    Holeless cs := by
  intro c hc hfound
  have hmem : c ∈ cs := hfound.subset (by simp)
  exact List.any_eq_false.1 h c hmem hc

/-- No hole starts in a literal, also where the literal ends in underscores and a hole follows. -/
theorem hole?_append_of_holeless {c : Char} {chars rest : List Char} (h : Holeless (c :: chars))
    (hrest : rest = [] ∨ ∃ more, rest = fence ++ more) : hole? (c :: (chars ++ rest)) = none := by
  rw [Option.eq_none_iff_forall_ne_some]
  rintro ⟨name, after⟩ hhole
  obtain ⟨hspell, capital, more, hcapital, rfl⟩ := hole?_eq_some hhole
  have hunderscore : capital ≠ '_' := by
    rintro rfl
    exact absurd hcapital (by decide)
  simp only [Segment.spell, fence, List.cons_append, List.nil_append, List.cons.injEq] at hspell
  obtain ⟨rfl, hspell⟩ := hspell
  -- the capital stands in the literal, or where the first or second underscore of `rest` does
  cases chars with
  | nil =>
    rcases hrest with rfl | ⟨behind, rfl⟩
    · simp at hspell
    · simp only [fence, List.nil_append, List.cons_append, List.cons.injEq] at hspell
      exact hunderscore hspell.2.1.symm
  | cons d others =>
    cases others with
    | nil =>
      rcases hrest with rfl | ⟨behind, rfl⟩
      · simp at hspell
      · simp only [fence, List.nil_append, List.cons_append, List.cons.injEq] at hspell
        exact hunderscore hspell.2.1.symm
    | cons e others =>
      simp only [List.cons_append, List.cons.injEq] at hspell
      obtain ⟨rfl, rfl, -⟩ := hspell
      exact h e hcapital ⟨[], others, rfl⟩

theorem pieces_append_of_holeless {chars rest : List Char} (h : Holeless chars)
    (hrest : rest = [] ∨ ∃ more, rest = fence ++ more) :
    pieces (chars ++ rest) = (Segment.literal chars).pieces ++ pieces rest := by
  induction chars with
  | nil => rfl
  | cons c chars ih =>
    have htail : Holeless chars := h.of_infix (List.suffix_cons c chars).isInfix
    rw [List.cons_append, pieces_cons_of_hole?_eq_none (hole?_append_of_holeless h hrest), ih htail]
    rfl

/-! ### Reading what is written -/

/-- A literal is the last segment, or a hole follows it. -/
theorem WellWritten.writing_tail {chars : List Char} {segments : List Segment}
    (h : WellWritten (.literal chars :: segments)) :
    writing segments = [] ∨ ∃ more, writing segments = fence ++ more := by
  cases segments with
  | nil => exact Or.inl rfl
  | cons next rest =>
    have hnext := (List.isChain_cons_cons.1 h.apart).1
    cases next with
    | literal other => simp [Segment.isHole] at hnext
    | hole name =>
      right
      exact ⟨name ++ fence ++ writing rest, by simp [writing, Segment.spell]⟩

/-- The segments are read back as they were written. -/
theorem pieces_writing {segments : List Segment} (h : WellWritten segments) :
    pieces (writing segments) = segments.flatMap Segment.pieces := by
  induction segments with
  | nil => exact pieces_nil
  | cons segment segments ih =>
    have hrest := ih h.tail
    cases segment with
    | literal chars =>
      have hchars := h.literal chars (by simp)
      have hpieces := pieces_append_of_holeless hchars h.writing_tail
      rw [hrest] at hpieces
      exact hpieces
    | hole name =>
      have hname := h.name name (by simp)
      have hpieces := pieces_of_hole?_eq_some (hole?_spell hname (writing segments))
      rw [hrest] at hpieces
      exact hpieces

/-! ### Segments of a text -/

/-- The holes of a text of at most `fuel` characters, and the literals between them. -/
def readSegments : Nat → List Char → List Segment
  | 0, _ => []
  | fuel + 1, cs =>
    match hole? cs with
    | some (name, rest) => .hole name :: readSegments fuel rest
    | none =>
      match cs with
      | [] => []
      | c :: rest =>
        match readSegments fuel rest with
        | .literal chars :: segments => .literal (c :: chars) :: segments
        | segments => .literal [c] :: segments

theorem writing_readSegments {fuel : Nat} {cs : List Char} (h : cs.length ≤ fuel) :
    writing (readSegments fuel cs) = cs := by
  fun_induction readSegments fuel cs with
  | case1 cs => exact (List.length_eq_zero_iff.1 (Nat.le_zero.1 h)).symm
  | case2 fuel cs name rest hhole ih =>
    have hlength := length_of_hole? hhole
    have hrest : writing (readSegments fuel rest) = rest := ih (by omega)
    rw [writing, List.flatMap_cons, ← writing, hrest]
    exact (hole?_eq_some hhole).1.symm
  | case3 => rfl
  | case4 fuel c rest chars segments heq _ ih =>
    have hrest := ih (Nat.le_of_succ_le_succ h)
    rw [heq] at hrest
    exact congrArg (c :: ·) hrest
  | case5 fuel c rest _ _ ih =>
    have hrest := ih (Nat.le_of_succ_le_succ h)
    exact congrArg (c :: ·) hrest

theorem isHoleName_of_mem_readSegments {fuel : Nat} {cs name : List Char}
    (h : .hole name ∈ readSegments fuel cs) : IsHoleName name := by
  fun_induction readSegments fuel cs with
  | case1 => exact absurd h List.not_mem_nil
  | case2 fuel cs other rest hhole ih =>
    rcases List.mem_cons.1 h with heq | hrest
    · rw [Segment.hole.inj heq]
      exact isHoleName_of_hole? hhole
    · exact ih hrest
  | case3 => exact absurd h List.not_mem_nil
  | case4 fuel c rest chars segments heq _ ih =>
    apply ih
    rw [heq]
    rcases List.mem_cons.1 h with hliteral | hrest
    · exact Segment.noConfusion hliteral
    · exact List.mem_cons_of_mem _ hrest
  | case5 fuel c rest _ _ ih =>
    rcases List.mem_cons.1 h with hliteral | hrest
    · exact Segment.noConfusion hliteral
    · exact ih hrest

/-- No hole starts where no two underscores stand together. -/
theorem holeless_of_isChain {cs : List Char}
    (h : cs.IsChain fun first second => first ≠ '_' ∨ second ≠ '_') : Holeless cs := by
  rintro c - ⟨front, back, rfl⟩
  have hpair := (List.isChain_cons_cons.1 h.left_of_append.right_of_append).1
  simp at hpair

/-- The holes of a written template are the listed ones, and filling it with values for them gives
the literals and the values in their order. -/
theorem holes_and_fillHoles_writing {segments : List Segment} (h : WellWritten segments) :
    (∀ name, name ∈ holes (writing segments) ↔ .hole name.toList ∈ segments) ∧
      ∀ values : String → Option Text,
        (∀ name, .hole name ∈ segments → (values (String.ofList name)).isSome) →
          fillHoles values (writing segments) = .ok (segments.flatMap (Segment.fill values)) := by
  have hpieces := pieces_writing h
  constructor
  · intro name
    exact mem_holes_iff hpieces name
  · intro values hvalues
    exact fillHoles_of_isSome hpieces hvalues

/-- Holes that touch each other, and literals that end, start or consist of underscores. -/
def touchingSegments : List Segment :=
  [ .literal "a_".toList, .hole "A".toList, .hole "B1_C".toList, .literal "__".toList,
    .hole "A".toList, .literal "_ b".toList ]

theorem wellWritten_touchingSegments : WellWritten touchingSegments where
  name := by
    intro name hname
    simp only [touchingSegments, List.mem_cons, List.not_mem_nil, or_false, Segment.hole.injEq,
      reduceCtorEq, false_or] at hname
    rcases hname with rfl | rfl | rfl
    · exact ⟨'A', [], [], by decide, by simp, by simp, rfl⟩
    · exact ⟨'B', ['1'], [['C']], by decide, by simp [isNameLetter], by simp [isNameLetter], rfl⟩
    · exact ⟨'A', [], [], by decide, by simp, by simp, rfl⟩
  literal := by
    intro chars hchars
    apply holeless_of_not_isUpper
    simp only [touchingSegments, List.mem_cons, List.not_mem_nil, or_false, Segment.literal.injEq,
      reduceCtorEq, false_or] at hchars
    rcases hchars with rfl | rfl | rfl <;> decide
  apart := by decide

/-- The value of one hole is written like the other hole. -/
def holeLikeValues (name : String) : Option Text :=
  if name = "A" then some "__B1_C__" else some "1"

theorem holes_and_fillHoles_touchingSegments :
    writing touchingSegments = "a___A____B1_C______A___ b".toList ∧
      "B1_C" ∈ holes (writing touchingSegments) ∧ "C" ∉ holes (writing touchingSegments) ∧
        fillHoles holeLikeValues (writing touchingSegments) =
          .ok "a___B1_C__1____B1_C___ b" := by
  obtain ⟨hholes, hfill⟩ := holes_and_fillHoles_writing wellWritten_touchingSegments
  refine ⟨rfl, (hholes "B1_C").2 (by decide), fun hname => ?_, ?_⟩
  · exact absurd ((hholes "C").1 hname) (by decide)
  · refine hfill holeLikeValues fun name _ => ?_
    simp only [holeLikeValues]
    split <;> rfl

end DeployScript.Template
