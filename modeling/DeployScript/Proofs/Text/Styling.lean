import DeployScript.Text.Styling

/-!
# Broken texts and styling

A text is broken if half of a surrogate pair is in it. Styling sequences consist of characters, so
that a text stays broken, or whole, when it loses them.
-/

namespace DeployScript

namespace Text

variable {t rest : Text} {offset : Fin 0x800}

/-! ### Broken texts -/

theorem isBroken_iff_exists_half : t.isBroken = true ↔ ∃ offset, CodePoint.half offset ∈ t := by
  induction t with
  | nil => simp [isBroken, chars?]
  | cons p t ih =>
    cases p with
    | half offset => exact iff_of_true rfl ⟨offset, List.mem_cons_self⟩
    | char c =>
      have htail : isBroken (.char c :: t) = isBroken t := by
        simp only [isBroken, chars?, List.mapM_cons, CodePoint.char?]
        cases t.mapM CodePoint.char? <;> rfl
      rw [htail, ih]
      simp

theorem string?_eq_none_iff : t.string? = none ↔ t.isBroken = true := by
  simp [string?, isBroken]

theorem isBroken_ofString (s : String) : (ofString s).isBroken = false := by
  rw [isBroken, ofString, chars?_ofChars]
  rfl

theorem isBroken_append (t t' : Text) : (t ++ t').isBroken = (t.isBroken || t'.isBroken) := by
  rw [Bool.eq_iff_iff, Bool.or_eq_true, isBroken_iff_exists_half, isBroken_iff_exists_half,
    isBroken_iff_exists_half, ← exists_or]
  simp

/-! ### Texts without styling -/

theorem half_mem_dropWhile_iff (p : Char → Bool) :
    CodePoint.half offset ∈ t.dropWhile (CodePoint.is p) ↔ CodePoint.half offset ∈ t := by
  constructor
  · exact fun h => (List.dropWhile_suffix _).subset h
  · intro h
    rw [← List.takeWhile_append_dropWhile (p := CodePoint.is p) (l := t), List.mem_append] at h
    refine h.resolve_left ?_
    intro hfront
    have hclass : CodePoint.is p (.half offset) = true :=
      List.all_eq_true.1 List.all_takeWhile _ hfront
    cases hclass

theorem withoutStyle_of_afterStyle? (h : afterStyle? t = some rest) :
    withoutStyle t = withoutStyle rest := by
  rw [withoutStyle.eq_def]
  split
  · next h' => cases h'.symm.trans h; rfl
  · next h' => cases h'.symm.trans h

theorem withoutStyle_nil : withoutStyle [] = [] := by
  rw [withoutStyle.eq_def]
  rfl

theorem withoutStyle_cons {p : CodePoint} (h : afterStyle? (p :: t) = none) :
    withoutStyle (p :: t) = p :: withoutStyle t := by
  rw [withoutStyle.eq_def]
  split
  · next h' => cases h'.symm.trans h
  · rfl

/-- A styling sequence holds no half. -/
theorem half_mem_of_afterStyle? (h : afterStyle? t = some rest) :
    CodePoint.half offset ∈ t ↔ CodePoint.half offset ∈ rest := by
  simp only [afterStyle?, Option.bind_eq_some_iff, dropWord?_eq_some_iff] at h
  obtain ⟨inside, rfl, h⟩ := h
  have hopening : CodePoint.half offset ∉ ofString "\x1b[" := by
    simp [ofString, ofChars]
  rw [List.mem_append, or_iff_right hopening, ← half_mem_dropWhile_iff isStyleParameter,
    ← half_mem_dropWhile_iff isStyleIntermediate]
  split at h
  · next final after heq =>
    rw [heq]
    split at h
    · next hfinal =>
      cases h
      cases final with
      | char c => simp
      | half n => simp [CodePoint.is] at hfinal
    · simp at h
  · simp at h

theorem half_mem_withoutStyle (t : Text) (offset : Fin 0x800) :
    CodePoint.half offset ∈ withoutStyle t ↔ CodePoint.half offset ∈ t := by
  induction t using withoutStyle.induct with
  | case1 t rest h ih =>
    rw [withoutStyle_of_afterStyle? h, half_mem_of_afterStyle? h, ih]
  | case2 h => rw [withoutStyle_nil]
  | case3 p rest h ih => rw [withoutStyle_cons h, List.mem_cons, List.mem_cons, ih]

theorem isBroken_withoutStyle (t : Text) : (withoutStyle t).isBroken = t.isBroken := by
  rw [Bool.eq_iff_iff, isBroken_iff_exists_half, isBroken_iff_exists_half]
  exact exists_congr (half_mem_withoutStyle t)

end Text

end DeployScript
