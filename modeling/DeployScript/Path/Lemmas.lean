import DeployScript.Path

/-!
# Texts of paths

Splitting at slashes undoes joining with slashes, as long as no segment holds one. From this the
main statement follows: the text of a path reads back as the path, so that two paths with one text
are the same. Seeing one path from another comes last.
-/

namespace DeployScript

/-! ### Splitting -/

/-- A text without a slash is one segment. -/
theorem splitSlashes_of_not_mem {t : Text} (h : CodePoint.char '/' ∉ t) :
    splitSlashes t = [t] := by
  induction t with
  | nil => rfl
  | cons c rest ih =>
    simp only [List.mem_cons, not_or] at h
    obtain ⟨hc, hrest⟩ := h
    simp [splitSlashes, Ne.symm hc, ih hrest]

/-- There is always a segment. -/
theorem splitSlashes_ne_nil (t : Text) : splitSlashes t ≠ [] := by
  cases t with
  | nil => simp [splitSlashes]
  | cons c rest =>
    unfold splitSlashes
    split
    · simp
    · split <;> simp

/-- Segments on either side of a slash are split apart. -/
theorem splitSlashes_append (a b : Text) :
    splitSlashes (a ++ CodePoint.char '/' :: b) = splitSlashes a ++ splitSlashes b := by
  induction a with
  | nil => simp [splitSlashes]
  | cons c rest ih =>
    by_cases hc : c = .char '/'
    · simp [splitSlashes, hc, ih]
    · cases h : splitSlashes rest with
      | nil => exact absurd h (splitSlashes_ne_nil rest)
      | cons segment more => simp [splitSlashes, hc, ih, h]

/-- A slash stands between two segments that are joined. -/
theorem join_slash_cons_cons (s t : Text) (more : List Text) :
    Text.join "/" (s :: t :: more) = s ++ CodePoint.char '/' :: Text.join "/" (t :: more) := by
  simp [Text.join, Text.ofString, Text.ofChars, List.intercalate_cons_cons]

/-- Segments that were joined by slashes are found again. -/
theorem splitSlashes_join {segments : List Text} (hne : segments ≠ [])
    (h : ∀ s ∈ segments, CodePoint.char '/' ∉ s) :
    splitSlashes (Text.join "/" segments) = segments := by
  induction segments with
  | nil => exact absurd rfl hne
  | cons s rest ih =>
    cases rest with
    | nil => simpa [Text.join] using splitSlashes_of_not_mem (h s (by simp))
    | cons t more =>
      have hs : CodePoint.char '/' ∉ s := h s (by simp)
      rw [join_slash_cons_cons, splitSlashes_append, splitSlashes_of_not_mem hs,
        ih (by simp) fun x hx => h x (by simp [hx])]
      rfl

/-! ### Parts and roots -/

namespace Path

/-- A part of a path has at least one code point, and no slash. -/
theorem isPathPart_iff {part : Text} :
    isPathPart part = true ↔ isNamingSegment part = true ∧ CodePoint.char '/' ∉ part := by
  simp [isPathPart]

/-- The parts of a path that were joined by slashes are found again. -/
theorem partsOf_join {parts : List Text} (h : parts.all isPathPart = true) :
    partsOf (Text.join "/" parts) = parts := by
  have hall : ∀ part ∈ parts, isNamingSegment part = true ∧ CodePoint.char '/' ∉ part :=
    fun part hpart => isPathPart_iff.1 (List.all_eq_true.1 h part hpart)
  cases parts with
  | nil => rfl
  | cons first rest =>
    rw [partsOf, splitSlashes_join (by simp) fun part hpart => (hall part hpart).2,
      List.filter_eq_self.2 fun part hpart => (hall part hpart).1]

/-- A slash at the front names nothing. -/
theorem partsOf_cons_slash (t : Text) : partsOf (CodePoint.char '/' :: t) = partsOf t := by
  simp [partsOf, splitSlashes, isNamingSegment]

/-- A text that starts with a part starts with no slash. -/
theorem head?_join_ne {parts : List Text} (h : parts.all isPathPart = true) :
    (Text.join "/" parts).head? ≠ some (.char '/') := by
  cases parts with
  | nil => simp [Text.join, List.intercalate]
  | cons first rest =>
    have hfirst := isPathPart_iff.1 (List.all_eq_true.1 h first (by simp))
    cases first with
    | nil => simp [isNamingSegment] at hfirst
    | cons c cs =>
      have hc : c ≠ .char '/' := by
        rintro rfl
        simp at hfirst
      cases rest with
      | nil => simpa [Text.join, List.intercalate] using hc
      | cons second more => simpa [join_slash_cons_cons] using hc

/-- The root is found again before a text that starts with no slash. -/
theorem rootOf_rootText_append {root : PathRoot} {t : Text} (h : t.head? ≠ some (.char '/')) :
    rootOf (rootText root ++ t) = root := by
  have htake : List.takeWhile (· == CodePoint.char '/') t = [] := by
    cases t with
    | nil => rfl
    | cons c rest =>
      have hc : c ≠ .char '/' := by simpa using h
      simp [hc]
  cases root <;> simp [rootOf, rootText, Text.ofString, Text.ofChars, htake]

/-- The slashes of the root name nothing. -/
theorem partsOf_rootText_append (root : PathRoot) (t : Text) :
    partsOf (rootText root ++ t) = partsOf t := by
  cases root <;> simp [rootText, Text.ofString, Text.ofChars, partsOf_cons_slash]

/-- The text of a path reads back as the path. -/
theorem parse_text (p : Path) : parse p.text = p := by
  obtain ⟨root, parts, hparts⟩ := p
  by_cases h : root = .relative ∧ parts = []
  · obtain ⟨rfl, rfl⟩ := h
    rfl
  · simp only [text, h, if_false, parse, rootOf_rootText_append (head?_join_ne hparts),
      partsOf_rootText_append, partsOf_join hparts]

/-- Every path has a text, also the one without parts. -/
theorem text_ne_nil (p : Path) : p.text ≠ [] := by
  intro h
  have hhere : p = here := by
    rw [← parse_text p, h]
    rfl
  rw [hhere] at h
  exact absurd h (by decide)

theorem parse_of_isPathPart {part : Text} (h : isPathPart part = true) :
    parse part = ⟨.relative, [part], by simpa using h⟩ := by
  obtain ⟨hnaming, hslash⟩ := isPathPart_iff.1 h
  have hparts : partsOf part = [part] := by
    rw [partsOf, splitSlashes_of_not_mem hslash, List.filter_cons_of_pos hnaming, List.filter_nil]
  have hhead : part.head? ≠ some (.char '/') := by
    intro hhead
    exact hslash (List.mem_of_mem_head? hhead)
  have hroot : rootOf (rootText .relative ++ part) = .relative := rootOf_rootText_append hhead
  rw [rootText, List.nil_append] at hroot
  simp only [parse, hparts, hroot]

theorem parts_child_of_isPathPart (p : Path) {part : Text} (h : isPathPart part = true) :
    (p.child part).parts = p.parts ++ [part] := by
  rw [child, parse_of_isPathPart h]
  rfl

theorem root_child_of_isPathPart (p : Path) {part : Text} (h : isPathPart part = true) :
    (p.child part).root = p.root := by
  rw [child, parse_of_isPathPart h]
  rfl

/-! ### Joining -/

theorem join_of_isAbsolute (p : Path) {q : Path} (h : q.isAbsolute = true) : p.join q = q :=
  if_pos h

theorem parts_join_of_relative (p : Path) {q : Path} (h : q.isAbsolute = false) :
    (p.join q).parts = p.parts ++ q.parts := by
  rw [join, if_neg (by rw [h]; simp)]

theorem isAbsolute_join {p : Path} (h : p.isAbsolute = true) (q : Path) :
    (p.join q).isAbsolute = true := by
  rw [join]
  split
  · assumption
  · exact h

theorem join_assoc (p q r : Path) : (p.join q).join r = p.join (q.join r) := by
  by_cases hr : r.isAbsolute = true
  · simp only [join, hr, if_true]
  · by_cases hq : q.isAbsolute = true
    · have hqr : (q.join r).isAbsolute = true := by
        rw [join, if_neg hr]
        exact hq
      rw [join_of_isAbsolute p hq, join_of_isAbsolute p hqr]
    · simp only [join, hr, hq, if_false, List.append_assoc, Bool.false_eq_true]
      exact (if_neg hq).symm

/-- The directory above a path is seen from another like the path itself, as long as it has
parts. -/
theorem parent_join (p : Path) {q : Path} (h : q.parts ≠ []) :
    (p.join q).parent = p.join q.parent := by
  have habsolute : q.parent.isAbsolute = q.isAbsolute := rfl
  rw [join, join, habsolute]
  split
  · rfl
  · simp only [parent, List.dropLast_append_of_ne_nil h]

end Path

end DeployScript
