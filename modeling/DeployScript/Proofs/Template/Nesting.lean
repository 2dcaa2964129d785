import DeployScript.Proofs.Template.Quote
import DeployScript.Template.Render

/-!
# Nested blocks

Settling the blocks of a written template is settling its lines: a pass over the characters makes
of a template what a pass over its lines does. So templates whose blocks are nested to any depth
settle to the text lines that all blocks around them keep.
-/

namespace DeployScript.Template

open DeployScript.Text (isBlank isWord)

/-! ### Passes over characters -/

/-- A pass with characters put in front of what it makes. -/
def Pass.prepend (start : List Char) (p : Pass) : Pass := ⟨start ++ p.text, p.settled⟩

theorem Pass.prepend_prepend (first second : List Char) (p : Pass) :
    (p.prepend second).prepend first = p.prepend (first ++ second) := by
  simp [Pass.prepend]

theorem pass_nil (on : String → Bool) : pass on [] = ⟨[], 0⟩ := by
  rw [pass]
  rfl

theorem pass_of_block?_eq_some {on : String → Bool} {cs rest : List Char} {b : Block}
    (h : block? cs = some (b, rest)) :
    pass on cs = ⟨b.kept on ++ (pass on rest).text, (pass on rest).settled + 1⟩ := by
  rw [pass]
  split
  · next b' rest' heq =>
    rw [h] at heq
    simp only [Option.some.injEq, Prod.mk.injEq] at heq
    obtain ⟨rfl, rfl⟩ := heq
    rfl
  · next heq => exact absurd (h.symm.trans heq) (by simp)

theorem pass_cons_of_block?_eq_none {on : String → Bool} {c : Char} {cs : List Char}
    (h : block? (c :: cs) = none) : pass on (c :: cs) = (pass on cs).prepend [c] := by
  rw [pass]
  split
  · next heq => exact absurd (h.symm.trans heq) (by simp)
  · rfl

theorem body?_of_closer? {cs rest : List Char} (h : closer? cs = some rest) :
    body? cs = some ([], rest) := by
  rw [body?.eq_def, h]

theorem body?_cons {c : Char} {cs : List Char} (hcloser : closer? (c :: cs) = none)
    (hopener : openerHead? (c :: cs) = none) :
    body? (c :: cs) = (body? cs).map fun found => (c :: found.1, found.2) := by
  rw [body?, hcloser, hopener]
  rfl

/-! ### Quiet text is passed over -/

section Quiet

variable {line after : List Char} (h : Quiet line after)
include h

theorem pass_append_of_quiet (on : String → Bool) :
    pass on (line ++ after) = (pass on after).prepend line := by
  induction line with
  | nil => rfl
  | cons c line ih =>
    rw [List.cons_append, pass_cons_of_block?_eq_none h.headless.block?_eq_none, ih h.tail,
      Pass.prepend_prepend]
    rfl

theorem body?_append_of_quiet :
    body? (line ++ after) = (body? after).map fun found => (line ++ found.1, found.2) := by
  induction line with
  | nil => simp
  | cons c line ih =>
    rw [List.cons_append,
      body?_cons h.headless.closer?_eq_none h.headless.openerHead?_eq_none, ih h.tail,
      Option.map_map]
    rfl

end Quiet

theorem pass_lineEnd (on : String → Bool) (ended : Bool) (rest : List Char) :
    pass on (lineEnd ended ++ rest) = (pass on rest).prepend (lineEnd ended) := by
  cases ended with
  | false => rfl
  | true => exact pass_cons_of_block?_eq_none (headless_lineEnd rest).block?_eq_none

theorem body?_lineEnd (ended : Bool) (rest : List Char) :
    body? (lineEnd ended ++ rest) =
      (body? rest).map fun found => (lineEnd ended ++ found.1, found.2) := by
  cases ended with
  | false => simp [lineEnd]
  | true =>
    have hend := headless_lineEnd rest
    exact body?_cons hend.closer?_eq_none hend.openerHead?_eq_none

/-! ### Marker lines are passed over or read -/

theorem opener?_append_blanks (blanks : Blanks) (cs : List Char) :
    opener? (blanks.val ++ cs) = opener? cs := by
  simp only [opener?, skipBlanks_append]

theorem closer?_append_blanks (blanks : Blanks) (cs : List Char) :
    closer? (blanks.val ++ cs) = closer? cs := by
  simp only [closer?, skipBlanks_append]

theorem block?_append_blanks (blanks : Blanks) (cs : List Char) :
    block? (blanks.val ++ cs) = block? cs := by
  simp only [block?, opener?_append_blanks]

theorem pass_append_blanks {on : String → Bool} {cs : List Char} (h : block? cs = none)
    (blanks : Blanks) : pass on (blanks.val ++ cs) = (pass on cs).prepend blanks.val := by
  obtain ⟨start, hstart⟩ := blanks
  induction start with
  | nil => rfl
  | cons c start ih =>
    have hnone : block? (c :: (start ++ cs)) = none :=
      (block?_append_blanks ⟨c :: start, hstart⟩ cs).trans h
    have hrest := ih fun d hd => hstart d (List.mem_cons_of_mem c hd)
    rw [List.cons_append, pass_cons_of_block?_eq_none hnone, hrest, Pass.prepend_prepend]
    rfl

theorem body?_append_blanks_eq_none {cs : List Char} (hcloser : closer? cs = none)
    (hbody : body? cs = none) (blanks : Blanks) : body? (blanks.val ++ cs) = none := by
  obtain ⟨start, hstart⟩ := blanks
  induction start with
  | nil => exact hbody
  | cons c start ih =>
    have hnone : closer? (c :: (start ++ cs)) = none :=
      (closer?_append_blanks ⟨c :: start, hstart⟩ cs).trans hcloser
    have hopener : openerHead? (c :: (start ++ cs)) = none :=
      openerHead?_cons_of_ne (slash_ne_of_isBlank (hstart c List.mem_cons_self)) _
    have hrest := ih fun d hd => hstart d (List.mem_cons_of_mem c hd)
    rw [List.cons_append, body?_cons hnone hopener, hrest]
    rfl

/-- A body holds no opener. -/
theorem body?_write_opener (margins : Margins) (negated : Bool) (key : Key)
    (after : List Char) : body? (margins.write (openerWord negated key) ++ after) = none := by
  have hcloser := closer?_write_opener margins negated key after
  rw [Margins.write, List.append_assoc] at hcloser ⊢
  rw [closer?_append_blanks] at hcloser
  refine body?_append_blanks_eq_none hcloser ?_ margins.before
  rw [body?.eq_def, hcloser, openerHead?_openerWord]
  rfl

/-- A marker that starts no block is passed over with its line. -/
theorem pass_write {on : String → Bool} {margins : Margins} {word after : List Char}
    (hword : '/' ∉ word) (hafter : AtLineEnd after)
    (hblock : block? (margins.write word ++ after) = none) :
    pass on (margins.write word ++ after) = (pass on after).prepend (margins.write word) := by
  rw [Margins.write, List.append_assoc, block?_append_blanks] at hblock
  have hslash : pass on (slashes ++ margins.inner word ++ after) =
      (pass on after).prepend (slashes ++ margins.inner word) := by
    have hfirst : block? ('/' :: ('/' :: margins.inner word ++ after)) = none := hblock
    have hquiet : Quiet ('/' :: margins.inner word) after :=
      quiet_of_atLineEnd (unmarked_inner margins hword) hafter
    have hinner := pass_append_of_quiet hquiet on
    calc pass on (slashes ++ margins.inner word ++ after)
        = (pass on ('/' :: margins.inner word ++ after)).prepend ['/'] :=
          pass_cons_of_block?_eq_none hfirst
      _ = (pass on after).prepend (slashes ++ margins.inner word) := by
          rw [hinner, Pass.prepend_prepend]
          rfl
  rw [Margins.write, List.append_assoc, pass_append_blanks hblock, hslash, Pass.prepend_prepend]

/-! ### Templates by lines -/

theorem body?_spell {lines : List Line} (h : Separated lines) :
    body? (spell lines) =
      (bodyLines? lines).map fun found => (spell found.1, spell found.2) := by
  induction lines with
  | nil => rfl
  | cons line rest ih =>
    rw [spell_cons]
    cases line with
    | opener margins negated key ended => exact body?_write_opener margins negated key _
    | closer margins ended =>
      have hend := h.ended_or_nil rfl
      have hcloser := closer?_write margins (atLineEnd_lineEnd hend)
      rw [drop_lineEnd hend] at hcloser
      exact body?_of_closer? hcloser
    | text plain ended =>
      rw [Line.content, Line.ended, body?_append_of_quiet h.quiet, body?_lineEnd, ih h.tail]
      simp [bodyLines?, Line.content, Line.ended, Function.comp_def]

/-- The block of an opener has the lines up to the next closer, if only text stands between. -/
theorem block?_spell_opener {margins : Margins} {negated : Bool} {key : Key} {ended : Bool}
    {rest : List Line} (h : Separated (.opener margins negated key ended :: rest)) :
    block? (spell (.opener margins negated key ended :: rest)) =
      (bodyLines? rest).map fun found =>
        (⟨⟨negated, key.val⟩, spell found.1⟩, spell found.2) := by
  have hend := h.ended_or_nil rfl
  rw [spell_cons, block?, Line.content,
    opener?_write margins negated key (atLineEnd_lineEnd hend), drop_lineEnd hend]
  rcases hend with rfl | rfl
  · simp only [Line.ended, lineEnd, if_true, List.singleton_append, List.head?_cons,
      Option.map_some, Option.bind_some, body?_spell h.tail, Option.map_map, Function.comp_def]
  · cases ended <;> rfl

theorem block?_spell_closer (margins : Margins) (after : List Char) :
    block? (margins.write closingWord ++ after) = none := by
  rw [block?, opener?_write_closer]
  rfl

/-- Text and markers that start no block are left as they are by a pass. -/
theorem pass_spell_cons {on : String → Bool} {line : Line} {rest : List Line}
    (h : Separated (line :: rest))
    (hblock : line.isMarker = true → block? (spell (line :: rest)) = none) :
    pass on (spell (line :: rest)) = (pass on (spell rest)).prepend line.spell := by
  have hcontent : pass on (line.content ++ (lineEnd line.ended ++ spell rest)) =
      (pass on (lineEnd line.ended ++ spell rest)).prepend line.content := by
    rw [spell_cons] at hblock
    cases line with
    | opener margins negated key ended =>
      have hend := atLineEnd_lineEnd (h.ended_or_nil rfl)
      exact pass_write (slash_not_mem_openerWord negated key) hend (hblock rfl)
    | closer margins ended =>
      have hend := atLineEnd_lineEnd (h.ended_or_nil rfl)
      exact pass_write slash_not_mem_closingWord hend (hblock rfl)
    | text plain ended => exact pass_append_of_quiet h.quiet on
  rw [spell_cons, hcontent, pass_lineEnd, Pass.prepend_prepend]
  rfl

/-- A pass over the characters of a template is a pass over its lines. -/
theorem pass_spell (on : String → Bool) {lines : List Line} (h : Separated lines) :
    pass on (spell lines) =
      ⟨spell (passLines on lines).lines, (passLines on lines).settled⟩ := by
  fun_induction passLines on lines with
  | case1 => exact pass_nil on
  | case2 margins negated key ended rest body after hbody others ih =>
    obtain ⟨-, margins', ended', heq⟩ := bodyLines?_eq_some hbody
    have hafter : Separated after := by
      refine h.of_sublist ?_
      rw [heq]
      exact (((List.sublist_cons_self _ after).trans (List.sublist_append_right body _)).cons _)
    have hblock := block?_spell_opener h
    rw [hbody] at hblock
    rw [pass_of_block?_eq_some hblock, ih hafter]
    simp only [Block.kept, spell_append, others]
    split <;> rfl
  | case3 margins negated key ended rest hbody others ih =>
    have hblock := block?_spell_opener h
    rw [hbody] at hblock
    rw [pass_spell_cons h fun _ => hblock, ih h.tail]
    rfl
  | case4 line rest hline others ih =>
    have hblock : line.isMarker = true → block? (spell (line :: rest)) = none := by
      intro hmarker
      rw [spell_cons]
      cases line with
      | opener margins negated key ended => exact (hline margins negated key ended rfl).elim
      | closer margins ended => exact block?_spell_closer margins _
      | text => exact Bool.noConfusion hmarker
    rw [pass_spell_cons h hblock, ih h.tail]
    rfl

theorem settleBlocks_spell_of_separated (on : String → Bool) {lines : List Line}
    (h : Separated lines) : settleBlocks on (spell lines) = spell (settleLines on lines) := by
  fun_induction settleLines on lines with
  | case1 lines hsettled =>
    rw [settleBlocks, pass_spell on h, dif_pos hsettled]
  | case2 lines hsettled ih =>
    rw [settleBlocks, pass_spell on h, dif_neg hsettled]
    exact ih (h.of_sublist (passLines_sublist on lines))

/-- Repeated passes over the characters of a template are repeated passes over its lines. -/
theorem settleBlocks_spell (on : String → Bool) {lines : List Line} (h : Whole lines) :
    settleBlocks on (spell lines) = spell (settleLines on lines) :=
  settleBlocks_spell_of_separated on h.separated

theorem firstMarker?_spell_of_text {lines : List Line} (h : Whole lines)
    (htext : ∀ line ∈ lines, line.isMarker = false) : firstMarker? (spell lines) = none := by
  have hfind : lines.find? Line.isMarker = none := by
    rw [List.find?_eq_none]
    intro line hline
    rw [htext line hline]
    exact Bool.false_ne_true
  rw [firstMarker?_spell h.separated, hfind]
  rfl

/-- Blocks nested to any depth are settled to the text lines all of whose enclosing blocks are kept,
character for character and in their order. -/
theorem processBlocks_spell_of_nested (on : String → Bool) (lines : List Line)
    (hwhole : Whole lines) (hnested : Nested lines) :
    processBlocks on (spell lines) = .ok (spell (keptLines on [] lines)) := by
  obtain ⟨hkept, htext⟩ := settleLines_of_nested on hnested
  have hsettled : Whole (settleLines on lines) :=
    hwhole.of_sublist (settleLines_sublist on lines)
  rw [processBlocks, settleBlocks_spell on hwhole, firstMarker?_spell_of_text hsettled htext, hkept]

def blanks (cs : List Char) (h : cs.all isBlank = true) : Blanks := ⟨cs, List.all_eq_true.1 h⟩

def keyOf (s : String) (h : s.toList ≠ [] ∧ s.toList.all isWord = true) : Key :=
  ⟨s.toList, h.1, List.all_eq_true.1 h.2⟩

def indented : Margins :=
  ⟨blanks ['\t', ' '] (by decide), blanks [' '] (by decide), blanks [' '] (by decide)⟩

def textLine (c : Char) (h : '\n' ∉ [c] ∧ [c].count '/' < 2) : Line :=
  .text ⟨[c], h.1, unmarked_of_count h.2⟩ true

def innerLines : List Line := [textLine 'c' (by decide)]

def outerLines : List Line :=
  textLine 'b' (by decide) ::
    .opener indented true (keyOf "z" (by decide)) true ::
      (innerLines ++ [.closer indented true])

/-- A block within a block whose key ends in an underscore; the last closer has no line end. -/
def twoBlocks : List Line :=
  textLine 'a' (by decide) ::
    .opener indented false (keyOf "x__y_" (by decide)) true ::
      (outerLines ++ [.closer indented false])

theorem nested_twoBlocks : Nested twoBlocks :=
  .text (.block (.text (.block (.text .nil) .nil)) .nil)

theorem processBlocks_twoBlocks :
    Whole twoBlocks ∧ Nested twoBlocks ∧
      spell twoBlocks = ("a\n\t // __IF_FEATURE_x__y___ \nb\n\t // __IF_NOT_FEATURE_z__ \nc\n" ++
        "\t // __ENDIF__ \n\t // __ENDIF__ ").toList ∧
      processBlocks (· == "x__y_") (spell twoBlocks) = .ok "a\nb\nc\n".toList ∧
        processBlocks (fun _ => true) (spell twoBlocks) = .ok "a\nb\n".toList := by
  have hwhole : Whole twoBlocks := by decide
  refine ⟨hwhole, nested_twoBlocks, rfl, ?_, ?_⟩
  · exact processBlocks_spell_of_nested (· == "x__y_") twoBlocks hwhole nested_twoBlocks
  · exact processBlocks_spell_of_nested (fun _ => true) twoBlocks hwhole nested_twoBlocks

end DeployScript.Template
