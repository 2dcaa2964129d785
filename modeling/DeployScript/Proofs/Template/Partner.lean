import DeployScript.Proofs.Template.Line

/-!
# Lines without a partner

A walk with a stack finds the first line that has no partner. The same is said here without the
walk: all before the line is nested, and the line is a closer, or an opener that no closer behind it
closes. A template has such a line exactly if it is not nested.
-/

namespace DeployScript.Template

/-- The lines go on with a nested part and a closer, which closes what stands before them. -/
def ClosesFirst (lines : List Line) : Prop :=
  ∃ body margins ended rest, Nested body ∧ lines = body ++ .closer margins ended :: rest

/-- A marker behind nested lines has no partner with `after` behind it. -/
def Line.LacksPartner (after : List Line) : Line → Prop
  | .opener .. => ¬ ClosesFirst after
  | .closer .. => True
  | .text .. => False

section Closed

variable {margins margins' : Margins} {negated ended ended' : Bool} {key : Key} {body : List Line}

/-- An opener that is closed leaves the walk where it was. -/
theorem unmatched?_of_closed (hbody : Nested body) (opened rest : List Line) :
    unmatched? opened
        (.opener margins negated key ended :: (body ++ .closer margins' ended' :: rest)) =
      unmatched? opened rest := by
  simp only [unmatched?, unmatched?_append_of_nested hbody]

/-- What is nested behind a closed opener is nested with it. -/
theorem exists_nested_of_closed (hbody : Nested body) {before : List Line}
    (hbefore : Nested before) (rest : List Line) :
    ∃ front, Nested front ∧
      .opener margins negated key ended :: (body ++ .closer margins' ended' :: (before ++ rest)) =
        front ++ rest := by
  refine ⟨.opener margins negated key ended :: (body ++ .closer margins' ended' :: before),
    .block hbody hbefore, ?_⟩
  rw [List.cons_append, List.append_assoc, List.cons_append]

end Closed

/-- The opener on top of the stack is closed, or the one at its bottom waits for good. -/
theorem closesFirst_or_unmatched? {opened : List Line} (hopened : opened ≠ [])
    (lines : List Line) : ClosesFirst lines ∨ unmatched? opened lines = opened.getLast? := by
  -- on the length: behind an opener that is closed the walk goes on after its closer
  induction hlength : lines.length using Nat.strong_induction_on generalizing opened lines with
  | _ n ih =>
    subst hlength
    cases lines with
    | nil => exact Or.inr (by rw [unmatched?])
    | cons line rest =>
      have hlength : rest.length < (line :: rest).length := Nat.lt_succ_self _
      cases line with
      | text plain ended =>
        rcases ih rest.length hlength hopened rest rfl with
          ⟨body, margins, closed, after, hbody, rfl⟩ | hwaits
        · exact Or.inl ⟨_, margins, closed, after, .text hbody, rfl⟩
        · exact Or.inr (by rw [← hwaits]; simp only [unmatched?])
      | closer margins ended => exact Or.inl ⟨[], margins, ended, rest, .nil, rfl⟩
      | opener margins negated key ended =>
        have hpushed := List.cons_ne_nil (.opener margins negated key ended) opened
        rcases ih rest.length hlength hpushed rest rfl with
          ⟨body, margins', ended', after, hbody, rfl⟩ | hwaits
        · -- the opener is closed, and what comes behind its closer is shorter
          have hafter :
              after.length < (body ++ Line.closer margins' ended' :: after).length + 1 := by
            simp only [List.length_append, List.length_cons]
            omega
          rcases ih after.length hafter hopened after rfl with
            ⟨more, margins'', ended'', behind, hmore, rfl⟩ | hwaits
          · obtain ⟨front, hfront, heq⟩ := exists_nested_of_closed hbody hmore _
            exact Or.inl ⟨front, margins'', ended'', behind, hfront, heq⟩
          · exact Or.inr ((unmatched?_of_closed hbody opened after).trans hwaits)
        · -- nothing closes the new opener, so that the stack keeps its bottom
          right
          rw [unmatched?, hwaits, List.getLast?_cons, List.getLast?_eq_some_getLast hopened]
          rfl

/-- A template is nested, or the walk finds a line without a partner behind nested lines. -/
theorem nested_or_unmatched? (lines : List Line) :
    Nested lines ∨ ∃ before line after, lines = before ++ line :: after ∧ Nested before ∧
      line.LacksPartner after ∧ unmatched? [] lines = some line := by
  induction hlength : lines.length using Nat.strong_induction_on generalizing lines with
  | _ n ih =>
    subst hlength
    cases lines with
    | nil => exact Or.inl .nil
    | cons line rest =>
      cases line with
      | text plain ended =>
        rcases ih rest.length (by simp) rest rfl with
          hnested | ⟨before, line, after, rfl, hbefore, hline, hfound⟩
        · exact Or.inl (.text hnested)
        · exact Or.inr ⟨_, line, after, rfl, .text hbefore, hline, hfound⟩
      | closer margins ended => exact Or.inr ⟨[], _, rest, rfl, .nil, trivial, rfl⟩
      | opener margins negated key ended =>
        by_cases hcloses : ClosesFirst rest
        · obtain ⟨body, margins', ended', others, hbody, rfl⟩ := hcloses
          have hothers :
              others.length < (body ++ Line.closer margins' ended' :: others).length + 1 := by
            simp only [List.length_append, List.length_cons]
            omega
          rcases ih others.length hothers others rfl with
            hnested | ⟨before, line, after, rfl, hbefore, hline, hfound⟩
          · exact Or.inl (.block hbody hnested)
          · obtain ⟨front, hfront, heq⟩ := exists_nested_of_closed hbody hbefore _
            refine Or.inr ⟨front, line, after, heq, hfront, hline, ?_⟩
            rw [unmatched?_of_closed hbody, hfound]
        · right
          refine ⟨[], _, rest, rfl, .nil, hcloses, ?_⟩
          have hpushed : [Line.opener margins negated key ended] ≠ [] := List.cons_ne_nil _ _
          exact (closesFirst_or_unmatched? hpushed rest).resolve_left hcloses

/-- Nested templates are those in which every line has its partner. -/
theorem nested_iff_unmatched? (lines : List Line) : Nested lines ↔ unmatched? [] lines = none := by
  constructor
  · exact unmatched?_of_nested
  · intro hnone
    rcases nested_or_unmatched? lines with hnested | ⟨_, line, _, _, _, _, hfound⟩
    · exact hnested
    · exact absurd (hnone.symm.trans hfound) (Option.some_ne_none line).symm

end DeployScript.Template
