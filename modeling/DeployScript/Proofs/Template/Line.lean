import DeployScript.Proofs.Template.Marker

/-!
# Templates by lines

A template whose markers stand on lines of their own is a list of lines: openers, closers and text.
`keptLines` says what is left of it and `unmatched?` which line has no partner, both by one walk
with the openers that wait for theirs on a stack. `passLines` settles every innermost block, as a
pass over the characters does; it changes neither answer, so that repeating it until nothing is
settled does not either.
-/

namespace DeployScript.Template

/-! ### Lines -/

/-- The text of a line in which no marker starts. -/
abbrev Plain := { cs : List Char // '\n' ∉ cs ∧ Unmarked cs }

/-- A line of a template, and whether it has a line end. -/
inductive Line where
  | opener (margins : Margins) (negated : Bool) (key : Key) (ended : Bool)
  | closer (margins : Margins) (ended : Bool)
  | text (plain : Plain) (ended : Bool)

namespace Line

def ended : Line → Bool
  | .opener _ _ _ ended => ended
  | .closer _ ended => ended
  | .text _ ended => ended

def isMarker : Line → Bool
  | .opener .. => true
  | .closer .. => true
  | .text .. => false

def content : Line → List Char
  | .opener margins negated key _ => margins.write (openerWord negated key)
  | .closer margins _ => margins.write closingWord
  | .text plain _ => plain.val

def spell (line : Line) : List Char :=
  line.content ++ lineEnd line.ended

end Line

def spell (lines : List Line) : List Char := lines.flatMap Line.spell

/-- Every line but the last has a line end. -/
def Whole (lines : List Line) : Prop := lines.Pairwise fun line _ => line.ended = true

instance (lines : List Line) : Decidable (Whole lines) :=
  inferInstanceAs (Decidable (lines.Pairwise fun line _ => line.ended = true))

/-- The line is over where the next one starts: it has a line end, or it is text that what follows
cannot turn into a marker. -/
def Line.Complete : Line → Prop
  | .opener _ _ _ ended => ended = true
  | .closer _ ended => ended = true
  | .text plain ended => ended = true ∨ Sealed plain.val

/-- Every line but the last is complete, so that text may stand before a marker on its line. -/
def Separated (lines : List Line) : Prop := lines.Pairwise fun line _ => line.Complete

/-- Every opener has its closer, and every closer its opener. -/
inductive Nested : List Line → Prop
  | nil : Nested []
  | text {plain ended rest} : Nested rest → Nested (.text plain ended :: rest)
  | block {margins negated key ended body margins' ended' rest} : Nested body → Nested rest →
      Nested (.opener margins negated key ended :: (body ++ .closer margins' ended' :: rest))

/-- The text lines all of whose enclosing blocks are kept; `enclosing` are the conditions of the
blocks around the first line, the innermost first. -/
def keptLines (on : String → Bool) : List Condition → List Line → List Line
  | _, [] => []
  | enclosing, .opener _ negated key _ :: rest =>
      keptLines on (⟨negated, key.val⟩ :: enclosing) rest
  | enclosing, .closer _ _ :: rest => keptLines on enclosing.tail rest
  | enclosing, .text plain ended :: rest =>
      if enclosing.all (·.holds on) then .text plain ended :: keptLines on enclosing rest
      else keptLines on enclosing rest

/-- The first line that has no partner; `opened` are the openers before that wait for theirs, the
last one first. -/
def unmatched? : List Line → List Line → Option Line
  | opened, [] => opened.getLast?
  | opened, .opener margins negated key ended :: rest =>
      unmatched? (.opener margins negated key ended :: opened) rest
  | [], .closer margins ended :: _ => some (.closer margins ended)
  | _ :: opened, .closer _ _ :: rest => unmatched? opened rest
  | opened, .text _ _ :: rest => unmatched? opened rest

@[simp] theorem spell_nil : spell [] = [] := rfl

@[simp] theorem spell_cons (line : Line) (lines : List Line) :
    spell (line :: lines) = line.content ++ (lineEnd line.ended ++ spell lines) := by
  simp [spell, Line.spell]

@[simp] theorem spell_append (lines more : List Line) :
    spell (lines ++ more) = spell lines ++ spell more :=
  List.flatMap_append

theorem Whole.of_sublist {lines more : List Line} (h : Whole more) (hsub : lines.Sublist more) :
    Whole lines :=
  List.Pairwise.sublist hsub h

theorem Line.complete_of_ended {line : Line} (h : line.ended = true) : line.Complete := by
  cases line with
  | opener => exact h
  | closer => exact h
  | text => exact Or.inl h

theorem Whole.separated {lines : List Line} (h : Whole lines) : Separated lines :=
  List.Pairwise.imp Line.complete_of_ended h

theorem Separated.tail {line : Line} {lines : List Line} (h : Separated (line :: lines)) :
    Separated lines :=
  (List.pairwise_cons.1 h).2

theorem Separated.of_sublist {lines more : List Line} (h : Separated more)
    (hsub : lines.Sublist more) : Separated lines :=
  List.Pairwise.sublist hsub h

theorem Separated.complete_or_nil {line : Line} {lines : List Line}
    (h : Separated (line :: lines)) : line.Complete ∨ lines = [] := by
  cases lines with
  | nil => exact Or.inr rfl
  | cons next rest => exact Or.inl ((List.pairwise_cons.1 h).1 next List.mem_cons_self)

/-- A marker line without a line end is the last line. -/
theorem Separated.ended_or_nil {line : Line} {lines : List Line} (h : Separated (line :: lines))
    (hmarker : line.isMarker = true) : line.ended = true ∨ lines = [] := by
  cases line with
  | opener => exact h.complete_or_nil
  | closer => exact h.complete_or_nil
  | text => exact Bool.noConfusion hmarker

section LineEnd

variable {ended : Bool} {lines : List Line} (h : ended = true ∨ lines = [])
include h

theorem atLineEnd_lineEnd : AtLineEnd (lineEnd ended ++ spell lines) := by
  rcases h with rfl | rfl
  · simp [AtLineEnd, lineEnd]
  · cases ended <;> simp [AtLineEnd, lineEnd]

theorem drop_lineEnd : (lineEnd ended ++ spell lines).drop 1 = spell lines := by
  rcases h with rfl | rfl
  · rfl
  · cases ended <;> rfl

end LineEnd

/-- No marker starts in the text of a line. -/
theorem Separated.quiet {plain : Plain} {ended : Bool} {lines : List Line}
    (h : Separated (.text plain ended :: lines)) :
    Quiet plain.val (lineEnd ended ++ spell lines) := by
  have hplain : Unmarked plain.val := plain.property.2
  rcases h.complete_or_nil with (hended | hsealed) | hnil
  · exact quiet_of_atLineEnd hplain (atLineEnd_lineEnd (Or.inl hended))
  · exact quiet_of_sealed hplain hsealed _
  · exact quiet_of_atLineEnd hplain (atLineEnd_lineEnd (Or.inr hnil))

/-! ### Nested lines have partners -/

theorem unmatched?_append_of_nested {body : List Line} (h : Nested body) (opened rest : List Line) :
    unmatched? opened (body ++ rest) = unmatched? opened rest := by
  induction h generalizing opened rest with
  | nil => rfl
  | text _ ih => simpa only [List.cons_append, unmatched?] using ih opened rest
  | block _ _ ihbody ihrest =>
    simp only [List.cons_append, List.append_assoc, unmatched?, ihbody, ihrest]

theorem unmatched?_of_nested {lines : List Line} (h : Nested lines) :
    unmatched? [] lines = none := by
  simpa [unmatched?] using unmatched?_append_of_nested h [] []

/-! ### Passes -/

/-- The text lines up to the first closer and the lines behind it, unless an opener comes first. -/
def bodyLines? : List Line → Option (List Line × List Line)
  | [] => none
  | .opener .. :: _ => none
  | .closer .. :: rest => some ([], rest)
  | .text plain ended :: rest =>
      (bodyLines? rest).map fun (body, after) => (.text plain ended :: body, after)

theorem bodyLines?_eq_some {lines body after : List Line}
    (h : bodyLines? lines = some (body, after)) :
    (∀ line ∈ body, line.isMarker = false) ∧
      ∃ margins ended, lines = body ++ .closer margins ended :: after := by
  induction lines generalizing body with
  | nil => simp [bodyLines?] at h
  | cons line rest ih =>
    cases line with
    | opener => simp [bodyLines?] at h
    | closer margins ended =>
      simp only [bodyLines?, Option.some.injEq, Prod.mk.injEq] at h
      obtain ⟨rfl, rfl⟩ := h
      exact ⟨by simp, margins, ended, rfl⟩
    | text plain ended =>
      simp only [bodyLines?, Option.map_eq_some_iff, Prod.mk.injEq] at h
      obtain ⟨⟨texts, others⟩, hrest, rfl, rfl⟩ := h
      obtain ⟨htexts, margins, closed, rfl⟩ := ih hrest
      refine ⟨?_, margins, closed, rfl⟩
      intro line hline
      rcases List.mem_cons.1 hline with rfl | hline
      · rfl
      · exact htexts line hline

/-- What a pass makes of lines, and how many blocks it settled. -/
structure LinePass where
  lines : List Line
  settled : Nat

/-- Settles every innermost block, from the front to the end. -/
def passLines (on : String → Bool) (lines : List Line) : LinePass :=
  match lines with
  | [] => ⟨[], 0⟩
  | .opener margins negated key ended :: rest =>
    match _h : bodyLines? rest with
    | some (body, after) =>
      let others := passLines on after
      ⟨(if Condition.holds ⟨negated, key.val⟩ on then body else []) ++ others.lines,
        others.settled + 1⟩
    | none =>
      let others := passLines on rest
      ⟨.opener margins negated key ended :: others.lines, others.settled⟩
  | line :: rest =>
    let others := passLines on rest
    ⟨line :: others.lines, others.settled⟩
termination_by lines.length
decreasing_by
  · obtain ⟨-, margins', ended', rfl⟩ := bodyLines?_eq_some _h
    simp only [List.length_cons, List.length_append]
    omega
  · simp
  · simp

/-- A settled block gives way to lines of its own. -/
theorem passLines_sublist (on : String → Bool) (lines : List Line) :
    (passLines on lines).lines.Sublist lines := by
  fun_induction passLines on lines with
  | case1 => exact List.Sublist.refl []
  | case2 margins negated key ended rest body after h others ih =>
    obtain ⟨-, margins', ended', rfl⟩ := bodyLines?_eq_some h
    apply List.Sublist.cons
    apply List.Sublist.append
    · split
      · exact List.Sublist.refl body
      · exact List.nil_sublist body
    · exact ih.cons _
  | case3 margins negated key ended rest h others ih => exact ih.cons_cons _
  | case4 line rest hline others ih => exact ih.cons_cons _

/-- A pass that settles nothing changes nothing. -/
theorem passLines_of_settled_eq_zero {on : String → Bool} {lines : List Line}
    (h : (passLines on lines).settled = 0) : (passLines on lines).lines = lines := by
  fun_induction passLines on lines with
  | case1 => rfl
  | case2 => simp at h
  | case3 margins negated key ended rest _ others ih => rw [ih h]
  | case4 line rest _ others ih => rw [ih h]

section TextLines

variable {body : List Line} (hbody : ∀ line ∈ body, line.isMarker = false)
include hbody

theorem keptLines_append_of_text (on : String → Bool) (enclosing : List Condition)
    (rest : List Line) :
    keptLines on enclosing (body ++ rest) =
      (if enclosing.all (·.holds on) then body else []) ++ keptLines on enclosing rest := by
  induction body with
  | nil => simp
  | cons line body ih =>
    have htail := ih fun other hother => hbody other (List.mem_cons_of_mem line hother)
    cases line with
    | opener => simp [Line.isMarker] at hbody
    | closer => simp [Line.isMarker] at hbody
    | text plain ended =>
      simp only [List.cons_append, keptLines, htail]
      split <;> simp

theorem unmatched?_append_of_text (opened rest : List Line) :
    unmatched? opened (body ++ rest) = unmatched? opened rest := by
  induction body with
  | nil => rfl
  | cons line body ih =>
    have htail := ih fun other hother => hbody other (List.mem_cons_of_mem line hother)
    cases line with
    | opener => simp [Line.isMarker] at hbody
    | closer => simp [Line.isMarker] at hbody
    | text plain ended => simpa only [List.cons_append, unmatched?] using htail

end TextLines

/-- What is left of a template is the same after a pass. -/
theorem keptLines_passLines (on : String → Bool) (enclosing : List Condition)
    (lines : List Line) :
    keptLines on enclosing (passLines on lines).lines = keptLines on enclosing lines := by
  fun_induction passLines on lines generalizing enclosing with
  | case1 => rfl
  | case2 margins negated key ended rest body after h others ih =>
    obtain ⟨hbody, margins', ended', rfl⟩ := bodyLines?_eq_some h
    rw [keptLines, keptLines_append_of_text hbody, keptLines, List.tail_cons, ← ih enclosing,
      List.all_cons]
    -- the body is kept if its own condition holds and those around it do
    cases Condition.holds ⟨negated, key.val⟩ on with
    | true => exact keptLines_append_of_text hbody on enclosing others.lines
    | false => rfl
  | case3 margins negated key ended rest _ others ih => exact ih _
  | case4 line rest hline others ih =>
    cases line with
    | opener margins negated key ended => exact (hline margins negated key ended rfl).elim
    | closer margins ended => exact ih _
    | text plain ended => simp only [keptLines, ih, others]

/-- The first line without a partner is the same after a pass. -/
theorem unmatched?_passLines (on : String → Bool) (opened lines : List Line) :
    unmatched? opened (passLines on lines).lines = unmatched? opened lines := by
  fun_induction passLines on lines generalizing opened with
  | case1 => rfl
  | case2 margins negated key ended rest body after h others ih =>
    obtain ⟨hbody, margins', ended', rfl⟩ := bodyLines?_eq_some h
    rw [unmatched?, unmatched?_append_of_text hbody, unmatched?, ← ih opened]
    split
    · exact unmatched?_append_of_text hbody opened others.lines
    · rfl
  | case3 margins negated key ended rest _ others ih => exact ih _
  | case4 line rest hline others ih =>
    cases line with
    | opener margins negated key ended => exact (hline margins negated key ended rfl).elim
    | closer margins ended =>
      cases opened with
      | nil => rfl
      | cons partner opened => exact ih opened
    | text plain ended => simpa only [unmatched?] using ih opened

/-- A settled block takes its two marker lines away. -/
theorem length_passLines (on : String → Bool) (lines : List Line) :
    (passLines on lines).lines.length + 2 * (passLines on lines).settled ≤ lines.length := by
  fun_induction passLines on lines with
  | case1 => simp
  | case2 margins negated key ended rest body after h others ih =>
    obtain ⟨-, margins', ended', rfl⟩ := bodyLines?_eq_some h
    have hkept : (if Condition.holds ⟨negated, key.val⟩ on then body else []).length ≤
        body.length := by
      split <;> simp
    simp only [List.length_append, List.length_cons, others]
    omega
  | case3 margins negated key ended rest _ others ih =>
    simp only [List.length_cons, others]
    omega
  | case4 line rest _ others ih =>
    simp only [List.length_cons, others]
    omega

/-! ### Repeated passes -/

/-- Passes repeated until one settles nothing. -/
def settleLines (on : String → Bool) (lines : List Line) : List Line :=
  if _h : (passLines on lines).settled = 0 then (passLines on lines).lines
  else settleLines on (passLines on lines).lines
termination_by lines.length
decreasing_by
  have := length_passLines on lines
  omega

theorem settled_settleLines (on : String → Bool) (lines : List Line) :
    (passLines on (settleLines on lines)).settled = 0 := by
  fun_induction settleLines on lines with
  | case1 lines h => rwa [passLines_of_settled_eq_zero h]
  | case2 lines _ ih => exact ih

theorem settleLines_sublist (on : String → Bool) (lines : List Line) :
    (settleLines on lines).Sublist lines := by
  fun_induction settleLines on lines with
  | case1 lines => exact passLines_sublist on lines
  | case2 lines _ ih => exact ih.trans (passLines_sublist on lines)

theorem keptLines_settleLines (on : String → Bool) (enclosing : List Condition)
    (lines : List Line) :
    keptLines on enclosing (settleLines on lines) = keptLines on enclosing lines := by
  fun_induction settleLines on lines with
  | case1 lines => exact keptLines_passLines on enclosing lines
  | case2 lines _ ih => rw [ih, keptLines_passLines]

theorem unmatched?_settleLines (on : String → Bool) (opened lines : List Line) :
    unmatched? opened (settleLines on lines) = unmatched? opened lines := by
  fun_induction settleLines on lines with
  | case1 lines => exact unmatched?_passLines on opened lines
  | case2 lines _ ih => rw [ih, unmatched?_passLines]

/-- Where no block is left and no closer follows, all openers wait for good. -/
theorem unmatched?_of_bodyLines?_eq_none {on : String → Bool} {lines : List Line}
    (hsettled : (passLines on lines).settled = 0) (hbody : bodyLines? lines = none)
    {opened : List Line} (hopened : opened ≠ []) :
    unmatched? opened lines = opened.getLast? := by
  fun_induction passLines on lines generalizing opened with
  | case1 => rfl
  | case2 => simp at hsettled
  | case3 margins negated key ended rest hrest others ih =>
    rw [unmatched?, ih hsettled hrest (List.cons_ne_nil _ _), List.getLast?_cons]
    simp [List.getLast?_eq_some_getLast hopened]
  | case4 line rest hline others ih =>
    cases line with
    | opener margins negated key ended => exact (hline margins negated key ended rfl).elim
    | closer margins ended => simp [bodyLines?] at hbody
    | text plain ended =>
      have hrest : bodyLines? rest = none := by
        simpa [bodyLines?] using hbody
      simpa only [unmatched?] using ih hsettled hrest hopened

/-- Where no block is left, the first marker has no partner. -/
theorem unmatched?_of_settled_eq_zero {on : String → Bool} {lines : List Line}
    (h : (passLines on lines).settled = 0) : unmatched? [] lines = lines.find? Line.isMarker := by
  fun_induction passLines on lines with
  | case1 => rfl
  | case2 => simp at h
  | case3 margins negated key ended rest hrest others ih =>
    rw [unmatched?, unmatched?_of_bodyLines?_eq_none h hrest (List.cons_ne_nil _ _)]
    rfl
  | case4 line rest hline others ih =>
    cases line with
    | opener margins negated key ended => exact (hline margins negated key ended rfl).elim
    | closer margins ended => rfl
    | text plain ended =>
      rw [unmatched?, ih h]
      rfl

theorem unmatched?_eq_find?_settleLines (on : String → Bool) (lines : List Line) :
    unmatched? [] lines = (settleLines on lines).find? Line.isMarker := by
  rw [← unmatched?_of_settled_eq_zero (settled_settleLines on lines), unmatched?_settleLines]

/-- Nested blocks settle to the text lines that they keep. -/
theorem settleLines_of_nested (on : String → Bool) {lines : List Line} (h : Nested lines) :
    settleLines on lines = keptLines on [] lines ∧
      ∀ line ∈ settleLines on lines, line.isMarker = false := by
  have hfind : (settleLines on lines).find? Line.isMarker = none := by
    rw [← unmatched?_eq_find?_settleLines, unmatched?_of_nested h]
  have htext : ∀ line ∈ settleLines on lines, line.isMarker = false := by
    intro line hline
    simpa using List.find?_eq_none.1 hfind line hline
  have hkept := keptLines_append_of_text htext on [] []
  simp only [List.append_nil, List.all_nil, if_true, keptLines] at hkept
  exact ⟨by rw [← hkept, keptLines_settleLines], htext⟩

end DeployScript.Template
