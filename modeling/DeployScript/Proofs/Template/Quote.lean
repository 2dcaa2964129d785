import DeployScript.Proofs.Template.Line

/-!
# Quoted markers

A marker that is left without a partner is quoted from its slashes on, an opener with the shortest
key that can be read there: its key up to the first two underscores behind the first character. In
a template by lines the first marker that is found is that of the first marker line.
-/

namespace DeployScript.Template

open DeployScript.Text (dropWord? dropWord?_eq_some_iff isBlank isWord)

/-! ### Shortest keys -/

/-- The characters of a run up to the first two underscores behind its first character. -/
def shortKey : List Char → List Char
  | [] => []
  | c :: rest => if keyEnd <+: rest then [c] else c :: shortKey rest

/-- The shortest key ends at the first two underscores that can end one, whatever follows. -/
theorem exists_shortKeyRest? {cs : List Char} (hne : cs ≠ [])
    (hword : ∀ c ∈ cs, isWord c = true) :
    ∃ more, cs ++ keyEnd = shortKey (cs ++ keyEnd) ++ (keyEnd ++ more) ∧
      ∀ after, shortKeyRest? (cs ++ keyEnd ++ after) = some (more ++ after) := by
  induction cs with
  | nil => exact absurd rfl hne
  | cons c cs ih =>
    have hc : isWord c = true := hword c List.mem_cons_self
    simp only [List.cons_append, shortKey, shortKeyRest?, hc, if_true]
    -- the key may hold underscores itself: two of them behind `c` end the shortest key early
    by_cases hend : keyEnd <+: cs ++ keyEnd
    · obtain ⟨more, hmore⟩ := hend
      refine ⟨more, ?_, ?_⟩
      · rw [if_pos ⟨more, hmore⟩, ← hmore]
        rfl
      · intro after
        have hdrop : dropWord? ['_', '_'] (cs ++ keyEnd ++ after) = some (more ++ after) := by
          rw [dropWord?_eq_some_iff, ← hmore, List.append_assoc]
          rfl
        rw [hdrop]
    · have hcs : cs ≠ [] := by
        rintro rfl
        exact hend (List.prefix_refl _)
      obtain ⟨more, heq, hrest⟩ := ih hcs fun d hd => hword d (List.mem_cons_of_mem c hd)
      refine ⟨more, ?_, ?_⟩
      · rw [if_neg hend]
        exact congrArg (c :: ·) heq
      · intro after
        have hdrop : dropWord? ['_', '_'] (cs ++ keyEnd ++ after) = none := by
          -- the run is long enough for `keyEnd` to be looked for without `after`
          rw [Option.eq_none_iff_forall_ne_some]
          intro rest hfound
          have hprefix : keyEnd <+: cs ++ keyEnd ++ after :=
            ⟨rest, (dropWord?_eq_some_iff.1 hfound).symm⟩
          exact hend
            (List.prefix_of_prefix_length_le hprefix (List.prefix_append _ after) (by simp))
        rw [hdrop]
        exact hrest after

/-! ### Reading written markers -/

def Line.marker : Line → List Char
  | .opener margins negated key _ =>
      slashes ++ (margins.between.val ++
        (openingWord negated ++ (shortKey (key.val ++ keyEnd) ++ keyEnd)))
  | .closer margins _ => slashes ++ (margins.between.val ++ closingWord)
  | .text .. => []

theorem markerRest?_openerWord (margins : Margins) (negated : Bool) (key : Key)
    (after : List Char) :
    markerRest? (slashes ++ margins.inner (openerWord negated key) ++ after) =
      shortKeyRest? (key.val ++ keyEnd ++ (margins.after.val ++ after)) := by
  obtain ⟨more, -, hrest⟩ := exists_shortKeyRest? key.property.1 key.property.2
  rw [markerRest?, openerHead?_openerWord]
  simp only [Option.bind_some, hrest]

theorem markerRest?_closingWord (margins : Margins) (after : List Char) :
    markerRest? (slashes ++ margins.inner closingWord ++ after) =
      some (margins.after.val ++ after) := by
  have hopener : openerHead? (slashes ++ margins.inner closingWord ++ after) = none := by
    rw [openerHead?_eq_none_iff]
    intro negated
    rw [headRest?_inner]
    cases negated <;> rfl
  have hcloser : headRest? closingWord (slashes ++ margins.inner closingWord ++ after) =
      some (margins.after.val ++ after) := by
    rw [headRest?_inner]
    rfl
  rw [markerRest?, hopener]
  exact hcloser

/-- Behind the blanks at the start of a marker line its quoted marker is read. -/
theorem exists_content_eq_marker {line : Line} (hmarker : line.isMarker = true) :
    ∃ before : Blanks, ∃ more, line.content = before.val ++ (line.marker ++ more) ∧
      ∀ after, markerRest? (line.marker ++ (more ++ after)) = some (more ++ after) := by
  cases line with
  | opener margins negated key ended =>
    obtain ⟨more, hkey, hrest⟩ := exists_shortKeyRest? key.property.1 key.property.2
    have hinner : slashes ++ margins.inner (openerWord negated key) =
        (Line.opener margins negated key ended).marker ++ (more ++ margins.after.val) := by
      calc slashes ++ margins.inner (openerWord negated key)
          = slashes ++ (margins.between.val ++
              (openingWord negated ++ ((key.val ++ keyEnd) ++ margins.after.val))) := by
            simp only [Margins.inner, openerWord, List.append_assoc]
        _ = slashes ++ (margins.between.val ++ (openingWord negated ++
              ((shortKey (key.val ++ keyEnd) ++ (keyEnd ++ more)) ++ margins.after.val))) := by
            rw [← hkey]
        _ = (Line.opener margins negated key ended).marker ++ (more ++ margins.after.val) := by
            simp only [Line.marker, List.append_assoc]
    refine ⟨margins.before, more ++ margins.after.val, ?_, ?_⟩
    · rw [← hinner]
      rfl
    · intro after
      rw [← List.append_assoc, ← hinner, markerRest?_openerWord, hrest, List.append_assoc]
  | closer margins ended =>
    refine ⟨margins.before, margins.after.val, ?_, ?_⟩
    · simp only [Line.content, Margins.write, Margins.inner, Line.marker, List.append_assoc]
    · intro after
      have hread := markerRest?_closingWord margins after
      simpa only [Margins.inner, Line.marker, List.append_assoc] using hread
  | text => exact Bool.noConfusion hmarker

theorem marker_ne_nil {line : Line} (hmarker : line.isMarker = true) : line.marker ≠ [] := by
  cases line with
  | opener => exact List.cons_ne_nil _ _
  | closer => exact List.cons_ne_nil _ _
  | text => exact Bool.noConfusion hmarker

/-! ### The first marker -/

theorem firstMarker?_cons {c : Char} {cs : List Char} (h : markerRest? (c :: cs) = none) :
    firstMarker? (c :: cs) = firstMarker? cs := by
  rw [firstMarker?, h]

theorem firstMarker?_append_of_quiet {line after : List Char} (h : Quiet line after) :
    firstMarker? (line ++ after) = firstMarker? after := by
  induction line with
  | nil => rfl
  | cons c line ih =>
    rw [List.cons_append, firstMarker?_cons h.headless.markerRest?_eq_none, ih h.tail]

theorem firstMarker?_append_blanks (blanks : Blanks) (cs : List Char) :
    firstMarker? (blanks.val ++ cs) = firstMarker? cs := by
  obtain ⟨start, hstart⟩ := blanks
  induction start with
  | nil => rfl
  | cons c start ih =>
    have hslash : '/' ≠ c := slash_ne_of_isBlank (hstart c List.mem_cons_self)
    have hnone : markerRest? (c :: (start ++ cs)) = none :=
      markerRest?_eq_none (openerHead?_cons_of_ne hslash _) (headRest?_cons_of_ne hslash _ _)
    rw [List.cons_append, firstMarker?_cons hnone]
    exact ih fun d hd => hstart d (List.mem_cons_of_mem c hd)

theorem firstMarker?_lineEnd (ended : Bool) (rest : List Char) :
    firstMarker? (lineEnd ended ++ rest) = firstMarker? rest := by
  cases ended with
  | false => rfl
  | true => exact firstMarker?_cons (headless_lineEnd rest).markerRest?_eq_none

theorem firstMarker?_of_markerRest? {marker after : List Char} (hne : marker ≠ [])
    (h : markerRest? (marker ++ after) = some after) :
    firstMarker? (marker ++ after) = some marker := by
  cases marker with
  | nil => exact absurd rfl hne
  | cons c marker =>
    rw [List.cons_append] at h ⊢
    rw [firstMarker?, h]
    have hlength : (c :: (marker ++ after)).length - after.length = (c :: marker).length := by
      simp only [List.length_cons, List.length_append]
      omega
    exact congrArg some (hlength ▸ List.take_left)

/-- The first marker of a template is that of its first marker line. -/
theorem firstMarker?_spell {lines : List Line} (h : Separated lines) :
    firstMarker? (spell lines) = (lines.find? Line.isMarker).map Line.marker := by
  induction lines with
  | nil => rfl
  | cons line rest ih =>
    have hrest := ih h.tail
    rw [spell_cons]
    cases hmarker : line.isMarker with
    | true =>
      obtain ⟨before, more, hcontent, hread⟩ := exists_content_eq_marker hmarker
      rw [List.find?_cons_of_pos hmarker, hcontent, List.append_assoc, List.append_assoc,
        firstMarker?_append_blanks, firstMarker?_of_markerRest? (marker_ne_nil hmarker) (hread _)]
      rfl
    | false =>
      rw [List.find?_cons_of_neg (by rw [hmarker]; exact Bool.false_ne_true), ← hrest]
      cases line with
      | opener => exact Bool.noConfusion hmarker
      | closer => exact Bool.noConfusion hmarker
      | text plain ended =>
        exact (firstMarker?_append_of_quiet h.quiet).trans (firstMarker?_lineEnd ended _)

end DeployScript.Template
