import DeployScript.Template.Render

/-!
# Holes and literals

A text with holes is a list of segments: literal text, and holes by their names. The reader takes a
text for one list of segments, which is spelled as the text and does not depend on any values;
filling the text is filling these segments.
-/

namespace DeployScript.Template

open DeployScript.Text (dropWord? dropWord?_eq_some_iff)

/-! ### Segments -/

/-- A part of a template as it is written: some text, or a hole. -/
inductive Segment where
  | literal (chars : List Char)
  | hole (name : List Char)
deriving DecidableEq, Repr

namespace Segment

def isHole : Segment → Bool
  | .literal _ => false
  | .hole _ => true

def spell : Segment → List Char
  | .literal chars => chars
  | .hole name => fence ++ name ++ fence

/-- A segment with its value in place of a hole; a hole without a value leaves nothing. -/
def fill (values : String → Option Text) : Segment → Text
  | .literal chars => Text.ofChars chars
  | .hole name => (values (String.ofList name)).getD []

def pieces : Segment → List Piece
  | .literal chars => chars.map .char
  | .hole name => [.hole name]

end Segment

/-! ### Reading pieces -/

theorem pieces_nil : pieces [] = [] := by
  rw [pieces]
  rfl

theorem pieces_of_hole?_eq_some {cs name rest : List Char} (h : hole? cs = some (name, rest)) :
    pieces cs = .hole name :: pieces rest := by
  rw [pieces]
  split
  · next name' rest' heq =>
    rw [h] at heq
    simp only [Option.some.injEq, Prod.mk.injEq] at heq
    obtain ⟨rfl, rfl⟩ := heq
    rfl
  · next heq => exact absurd (h.symm.trans heq) (by simp)

theorem pieces_cons_of_hole?_eq_none {c : Char} {cs : List Char} (h : hole? (c :: cs) = none) :
    pieces (c :: cs) = .char c :: pieces cs := by
  rw [pieces]
  split
  · next heq => exact absurd (h.symm.trans heq) (by simp)
  · rfl

theorem nameRest?_eq_some {cs name rest : List Char} (h : nameRest? cs = some (name, rest)) :
    cs = name ++ fence ++ rest := by
  fun_induction nameRest? cs generalizing name rest with
  | case1 cs r hr =>
    simp only [Option.some.injEq, Prod.mk.injEq] at h
    obtain ⟨rfl, rfl⟩ := h
    exact dropWord?_eq_some_iff.1 hr
  | case2 => simp at h
  | case3 c after _ _ ih =>
    simp only [Option.map_eq_some_iff, Prod.mk.injEq] at h
    obtain ⟨⟨n, r⟩, hn, rfl, rfl⟩ := h
    rw [ih hn]
    rfl
  | case4 => simp at h

/-- A hole is read as it is spelled, and starts by a capital. -/
theorem hole?_eq_some {cs name rest : List Char} (h : hole? cs = some (name, rest)) :
    cs = (Segment.hole name).spell ++ rest ∧ ∃ c more, c.isUpper = true ∧ name = c :: more := by
  unfold hole? at h
  split at h
  · next c after hfence =>
    split at h
    · next hc =>
      simp only [Option.map_eq_some_iff, Prod.mk.injEq] at h
      obtain ⟨⟨n, r⟩, hn, rfl, rfl⟩ := h
      rw [dropWord?_eq_some_iff.1 hfence, nameRest?_eq_some hn]
      exact ⟨by simp [Segment.spell], c, n, hc, rfl⟩
    · simp at h
  · simp at h

/-! ### Reading segments -/

def Piece.segment : Piece → Segment
  | .char c => .literal [c]
  | .hole name => .hole name

/-- The segments that a text is read as; every character outside of holes is a literal. -/
def segmentsOf (cs : List Char) : List Segment := (pieces cs).map Piece.segment

theorem pieces_eq_flatMap_segmentsOf (cs : List Char) :
    pieces cs = (segmentsOf cs).flatMap Segment.pieces := by
  rw [segmentsOf]
  induction pieces cs with
  | nil => rfl
  | cons piece rest ih =>
    rw [List.map_cons, List.flatMap_cons, ← ih]
    cases piece <;> rfl

/-- The segments of a text are spelled as the text. -/
theorem flatMap_spell_segmentsOf (cs : List Char) :
    (segmentsOf cs).flatMap Segment.spell = cs := by
  rw [segmentsOf]
  fun_induction pieces cs with
  | case1 cs name rest h ih =>
    rw [List.map_cons, List.flatMap_cons, ih]
    exact (hole?_eq_some h).1.symm
  | case2 => rfl
  | case3 c rest _ ih =>
    rw [List.map_cons, List.flatMap_cons, ih]
    rfl

/-! ### Filling -/

section Filling

variable {cs : List Char} {segments : List Segment}
  (h : pieces cs = segments.flatMap Segment.pieces)
include h

theorem mem_pieces_iff (name : List Char) : .hole name ∈ pieces cs ↔ .hole name ∈ segments := by
  rw [h, List.mem_flatMap]
  constructor
  · rintro ⟨segment, hsegment, hname⟩
    cases segment with
    | literal chars => simp [Segment.pieces] at hname
    | hole other =>
      simp only [Segment.pieces, List.mem_singleton, Piece.hole.injEq] at hname
      rwa [hname]
  · intro hname
    exact ⟨.hole name, hname, by simp [Segment.pieces]⟩

theorem mem_holes_iff (name : String) : name ∈ holes cs ↔ .hole name.toList ∈ segments := by
  rw [← mem_pieces_iff h, holes, List.mem_mergeSort, List.mem_eraseDups, List.mem_filterMap]
  constructor
  · rintro ⟨piece, hpiece, hname⟩
    cases piece with
    | char c => simp [Piece.name?] at hname
    | hole other =>
      simp only [Piece.name?, Option.some.injEq] at hname
      rwa [← hname, String.toList_ofList]
  · intro hname
    exact ⟨.hole name.toList, hname, by simp [Piece.name?]⟩

theorem mem_missingValues_iff (values : String → Option Text) (name : String) :
    name ∈ missingValues values cs ↔ .hole name.toList ∈ segments ∧ values name = none := by
  rw [missingValues, List.mem_filter, mem_holes_iff h, Option.isNone_iff_eq_none]

theorem flatMap_fill_pieces (values : String → Option Text) :
    (pieces cs).flatMap (Piece.fill values) = segments.flatMap (Segment.fill values) := by
  rw [h, List.flatMap_assoc]
  congr 1
  funext segment
  cases segment with
  | literal chars =>
    simp only [Segment.pieces, Segment.fill, Text.ofChars]
    induction chars with
    | nil => rfl
    | cons c chars ih => rw [List.map_cons, List.flatMap_cons, ih]; rfl
  | hole name => simp [Segment.pieces, Segment.fill, Piece.fill]

/-- Where every hole has a value, the holes give way to their values and all else stays. -/
theorem fillHoles_of_isSome {values : String → Option Text}
    (hvalues : ∀ name, .hole name ∈ segments → (values (String.ofList name)).isSome) :
    fillHoles values cs = .ok (segments.flatMap (Segment.fill values)) := by
  have hmissing : missingValues values cs = [] := by
    rw [List.eq_nil_iff_forall_not_mem]
    intro name hname
    obtain ⟨hsegment, hnone⟩ := (mem_missingValues_iff h values name).1 hname
    have hsome := hvalues name.toList hsegment
    rw [String.ofList_toList, hnone] at hsome
    exact Bool.noConfusion hsome
  rw [fillHoles, hmissing, flatMap_fill_pieces h]

/-- A hole without a value leaves the text unfilled. -/
theorem fillHoles_of_eq_none {values : String → Option Text} {name : List Char}
    (hname : .hole name ∈ segments) (hnone : values (String.ofList name) = none) :
    fillHoles values cs = .error (.missingValues (missingValues values cs)) := by
  have hmissing : String.ofList name ∈ missingValues values cs := by
    rw [mem_missingValues_iff h, String.toList_ofList]
    exact ⟨hname, hnone⟩
  rw [fillHoles]
  split
  · next heq =>
    rw [heq] at hmissing
    exact absurd hmissing List.not_mem_nil
  · next heq => rfl

end Filling

end DeployScript.Template
