import DeployScript.Proofs.Template.Writing

/-!
# Names of holes

A hole ends at the first two underscores behind its first character. So no two underscores stand
together in the name that is read, nor does its last character make two with the first underscore
behind it: although every character of a name may be an underscore but the first, the names of holes
are groups of capitals and digits with one underscore between them. All of these are names of holes.
-/

namespace DeployScript.Template

open DeployScript.Text (dropWord? dropWord?_eq_some_iff)

/-! ### The end of a name -/

theorem dropWord?_fence_eq_none_iff (c : Char) (more rest : List Char) :
    dropWord? fence (c :: (more ++ fence ++ rest)) = none ↔ ¬ fence <+: c :: (more ++ ['_']) := by
  have hlonger : c :: (more ++ ['_']) <+: c :: (more ++ fence ++ rest) :=
    ⟨'_' :: rest, by simp [fence]⟩
  rw [Option.eq_none_iff_forall_ne_some, ← not_exists]
  refine not_congr ⟨?_, ?_⟩
  · -- two underscores do not reach beyond the first one behind the name
    rintro ⟨after, hafter⟩
    have hprefix : fence <+: c :: (more ++ fence ++ rest) :=
      ⟨after, (dropWord?_eq_some_iff.1 hafter).symm⟩
    exact List.prefix_of_prefix_length_le hprefix hlonger (by simp [fence])
  · intro hprefix
    obtain ⟨after, hafter⟩ := hprefix.trans hlonger
    exact ⟨after, dropWord?_eq_some_iff.2 hafter.symm⟩

/-- What is read up to the next two underscores is what has none in it, not even with one more
underscore behind it. -/
theorem nameRest?_eq_some_iff {cs name rest : List Char} :
    nameRest? cs = some (name, rest) ↔
      cs = name ++ fence ++ rest ∧ (∀ c ∈ name, isNameChar c = true) ∧
        ¬ fence <:+: name ++ ['_'] := by
  constructor
  · -- along the reader: it goes on only where no two underscores stand
    intro h
    fun_induction nameRest? cs generalizing name rest with
    | case1 cs after hafter =>
      simp only [Option.some.injEq, Prod.mk.injEq] at h
      obtain ⟨rfl, rfl⟩ := h
      exact ⟨dropWord?_eq_some_iff.1 hafter, by simp, by decide⟩
    | case2 => simp at h
    | case3 c after hc hfence ih =>
      simp only [Option.map_eq_some_iff, Prod.mk.injEq] at h
      obtain ⟨⟨more, behind⟩, hmore, rfl, rfl⟩ := h
      obtain ⟨rfl, hchars, hinfix⟩ := ih hmore
      refine ⟨rfl, List.forall_mem_cons.2 ⟨hc, hchars⟩, ?_⟩
      rw [List.cons_append, List.infix_cons_iff, not_or]
      exact ⟨(dropWord?_fence_eq_none_iff c more behind).1 hfence, hinfix⟩
    | case4 => simp at h
  · rintro ⟨rfl, hchars, hinfix⟩
    induction name with
    | nil => rw [nameRest?.eq_def, List.nil_append, dropWord?_eq_some_iff.2 rfl]
    | cons c more ih =>
      obtain ⟨hc, hmore⟩ := List.forall_mem_cons.1 hchars
      rw [List.cons_append, List.infix_cons_iff, not_or] at hinfix
      have hfence := (dropWord?_fence_eq_none_iff c more rest).2 hinfix.1
      rw [List.cons_append, List.cons_append, nameRest?_cons hc hfence, ih hmore hinfix.2]
      rfl

theorem fence_infix_append_iff (name : List Char) :
    fence <:+: name ++ ['_'] ↔ fence <:+: name ∨ name.getLast? = some '_' := by
  rw [List.infix_concat_iff, or_comm]
  refine or_congr_right ⟨?_, ?_⟩
  · rintro ⟨front, hfront⟩
    have hsplit : front ++ ['_'] ++ ['_'] = name ++ ['_'] := by simpa [fence] using hfront
    rw [← List.append_cancel_right hsplit, List.getLast?_concat]
  · intro hlast
    obtain ⟨front, rfl⟩ := List.getLast?_eq_some_iff.1 hlast
    exact ⟨front, by simp [fence]⟩

/-! ### Canonical names -/

theorem hole?_fence_cons {c : Char} (hc : c.isUpper = true) (after : List Char) :
    hole? (fence ++ c :: after) =
      (nameRest? after).map fun found => (c :: found.1, found.2) := by
  rw [hole?, dropWord?_eq_some_iff.2 rfl]
  simp only [hc, if_true]

theorem not_fence_prefix_of_isUpper {c : Char} (hc : c.isUpper = true) (more : List Char) :
    ¬ fence <+: c :: more := by
  intro hprefix
  obtain ⟨after, hafter⟩ := hprefix
  rw [fence, List.cons_append, List.cons.injEq] at hafter
  rw [← hafter.1] at hc
  exact absurd hc (by decide)

theorem hole?_spell_cons_iff {c : Char} (hc : c.isUpper = true) (more rest : List Char) :
    hole? ((Segment.hole (c :: more)).spell ++ rest) = some (c :: more, rest) ↔
      (∀ d ∈ more, isNameChar d = true) ∧ ¬ fence <:+: more ++ ['_'] := by
  have hspell : (Segment.hole (c :: more)).spell ++ rest =
      fence ++ c :: (more ++ fence ++ rest) := by
    simp [Segment.spell]
  rw [hspell, hole?_fence_cons hc, Option.map_eq_some_iff]
  constructor
  · rintro ⟨⟨name, behind⟩, hname, heq⟩
    simp only [Prod.mk.injEq, List.cons.injEq, true_and] at heq
    obtain ⟨rfl, rfl⟩ := heq
    exact (nameRest?_eq_some_iff.1 hname).2
  · intro hmore
    exact ⟨(more, rest), nameRest?_eq_some_iff.2 ⟨rfl, hmore⟩, rfl⟩

theorem isHoleName_iff_hole? {name : List Char} (rest : List Char) :
    IsHoleName name ↔ hole? ((Segment.hole name).spell ++ rest) = some (name, rest) :=
  ⟨fun h => hole?_spell h rest, isHoleName_of_hole?⟩

theorem isHoleName_cons_iff {c : Char} (hc : c.isUpper = true) (more : List Char) :
    IsHoleName (c :: more) ↔
      (∀ d ∈ c :: more, isNameChar d = true) ∧ ¬ fence <:+: c :: more ∧
        (c :: more).getLast? ≠ some '_' := by
  have hchar : isNameChar c = true := by simp [isNameChar, hc]
  -- a capital in front makes no two underscores
  have hend : fence <:+: more ++ ['_'] ↔
      fence <:+: c :: more ∨ (c :: more).getLast? = some '_' := by
    rw [← fence_infix_append_iff, List.cons_append, List.infix_cons_iff,
      or_iff_right (not_fence_prefix_of_isUpper hc _)]
  rw [isHoleName_iff_hole? [], hole?_spell_cons_iff hc, hend, not_or, List.forall_mem_cons,
    and_iff_right hchar]

/-- The names of holes by their characters: a capital first, no two underscores together, and none
at the end. -/
theorem isHoleName_iff {name : List Char} :
    IsHoleName name ↔
      (∃ c more, name = c :: more ∧ c.isUpper = true) ∧ (∀ c ∈ name, isNameChar c = true) ∧
        ¬ fence <:+: name ∧ name.getLast? ≠ some '_' := by
  constructor
  · intro h
    have hstart : ∃ c more, name = c :: more ∧ c.isUpper = true := by
      obtain ⟨first, letters, groups, hfirst, -, -, rfl⟩ := h
      exact ⟨first, _, rfl, hfirst⟩
    obtain ⟨c, more, rfl, hc⟩ := hstart
    exact ⟨⟨c, more, rfl, hc⟩, (isHoleName_cons_iff hc more).1 h⟩
  · rintro ⟨⟨c, more, rfl, hc⟩, hname⟩
    exact (isHoleName_cons_iff hc more).2 hname

/-! ### The holes of a text -/

theorem isHoleName_of_mem_pieces {cs name : List Char} (h : .hole name ∈ pieces cs) :
    IsHoleName name := by
  fun_induction pieces cs with
  | case1 cs other rest hhole ih =>
    rcases List.mem_cons.1 h with heq | hrest
    · rw [Piece.hole.inj heq]
      exact isHoleName_of_hole? hhole
    · exact ih hrest
  | case2 => exact absurd h List.not_mem_nil
  | case3 c rest hhole ih =>
    rcases List.mem_cons.1 h with hchar | hrest
    · exact Piece.noConfusion hchar
    · exact ih hrest

theorem mem_holes_iff_mem_pieces (cs : List Char) (name : String) :
    name ∈ holes cs ↔ .hole name.toList ∈ pieces cs := by
  rw [mem_holes_iff (pieces_eq_flatMap_segmentsOf cs),
    mem_pieces_iff (pieces_eq_flatMap_segmentsOf cs)]

theorem mem_holes_spell {name : String} (h : IsHoleName name.toList) :
    name ∈ holes (Segment.hole name.toList).spell := by
  have hhole := hole?_spell h []
  rw [List.append_nil] at hhole
  rw [mem_holes_iff_mem_pieces, pieces_of_hole?_eq_some hhole]
  exact List.mem_cons_self

/-- A text has a hole of that name just when the name is groups of capitals and digits with one
underscore between them, a capital first: when it has no two underscores together and none at its
end. -/
theorem exists_mem_holes_iff (name : String) :
    ((∃ cs, name ∈ holes cs) ↔ IsHoleName name.toList) ∧
      (IsHoleName name.toList ↔
        (∃ c more, name.toList = c :: more ∧ c.isUpper = true) ∧
          (∀ c ∈ name.toList, isNameChar c = true) ∧ ¬ fence <:+: name.toList ∧
            name.toList.getLast? ≠ some '_') := by
  refine ⟨⟨?_, fun h => ⟨_, mem_holes_spell h⟩⟩, isHoleName_iff⟩
  rintro ⟨cs, hname⟩
  exact isHoleName_of_mem_pieces ((mem_holes_iff_mem_pieces cs name).1 hname)

example : pieces "___C_1___D".toList =
    [.char '_', .hole "C_1".toList, .char '_', .char 'D'] := by decide +kernel

end DeployScript.Template
