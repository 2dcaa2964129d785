import DeployScript.Proofs.Template.Nesting
import DeployScript.Proofs.Template.Partner

/-!
# Balanced templates

Settling the blocks of a template by lines is matching its markers: it is rejected exactly if it is
not nested, and the marker that is quoted is that of the first line without a partner. So whether a
template is rejected does not depend on the features, as long as every marker ends its line and
nothing in front of one can be joined with what follows it. A closer with text behind it is no
closer to a pass, but counts where the markers that are left are looked for.
-/

namespace DeployScript.Template

open DeployScript.Text (isBlank)

/-! ### Rejected templates -/

theorem processBlocks_spell_of_nested_lines (on : String → Bool) {lines : List Line}
    (h : Separated lines) (hnested : Nested lines) :
    processBlocks on (spell lines) = .ok (spell (keptLines on [] lines)) := by
  obtain ⟨hkept, htext⟩ := settleLines_of_nested on hnested
  have hsettled : Separated (settleLines on lines) :=
    h.of_sublist (settleLines_sublist on lines)
  have hfind : (settleLines on lines).find? Line.isMarker = none := by
    rw [← unmatched?_eq_find?_settleLines, unmatched?_of_nested hnested]
  rw [processBlocks, settleBlocks_spell_of_separated on h, firstMarker?_spell hsettled, hfind,
    hkept]
  rfl

theorem processBlocks_spell_of_unmatched? (on : String → Bool) {lines : List Line}
    (h : Separated lines) {line : Line} (hline : unmatched? [] lines = some line) :
    processBlocks on (spell lines) = .error (.unbalanced (String.ofList line.marker)) := by
  have hsettled : Separated (settleLines on lines) :=
    h.of_sublist (settleLines_sublist on lines)
  have hfind : (settleLines on lines).find? Line.isMarker = some line := by
    rw [← unmatched?_eq_find?_settleLines, hline]
  rw [processBlocks, settleBlocks_spell_of_separated on h, firstMarker?_spell hsettled, hfind]
  rfl

theorem isMarker_of_lacksPartner {line : Line} {after : List Line} (h : line.LacksPartner after) :
    line.isMarker = true := by
  cases line with
  | opener => rfl
  | closer => rfl
  | text => exact h.elim

theorem marker_infix_content {line : Line} (hmarker : line.isMarker = true) :
    line.marker <:+: line.content := by
  obtain ⟨before, more, hcontent, -⟩ := exists_content_eq_marker hmarker
  rw [hcontent, ← List.append_assoc]
  exact List.infix_append _ _ _

theorem message_unbalanced (marker : List Char) :
    (Error.unbalanced (String.ofList marker)).message =
      "Unbalanced conditional marker: " ++ Text.ofChars marker := by
  have hchars : ("Unbalanced conditional marker: " ++ String.ofList marker).toList =
      "Unbalanced conditional marker: ".toList ++ marker :=
    String.toList_append.trans (congrArg (_ ++ ·) String.toList_ofList)
  exact (congrArg Text.ofChars hchars).trans List.map_append

/-- A template that is not nested is rejected whatever features are on, and the marker quoted is
that of the first line that is left without a partner. -/
theorem processBlocks_spell_of_not_nested (on : String → Bool) (lines : List Line)
    (hwhole : Whole lines) (hnested : ¬ Nested lines) :
    ∃ before line after, lines = before ++ line :: after ∧ Nested before ∧
      line.LacksPartner after ∧ unmatched? [] lines = some line ∧
        line.marker <:+: line.content ∧
          ∃ error, processBlocks on (spell lines) = .error error ∧
            error.message = "Unbalanced conditional marker: " ++ Text.ofChars line.marker := by
  rcases nested_or_unmatched? lines with h | ⟨before, line, after, heq, hbefore, hlacks, hfound⟩
  · exact absurd h hnested
  · have hmarker : line.isMarker = true := isMarker_of_lacksPartner hlacks
    exact ⟨before, line, after, heq, hbefore, hlacks, hfound, marker_infix_content hmarker, _,
      processBlocks_spell_of_unmatched? on hwhole.separated hfound, message_unbalanced line.marker⟩

/-- A kept block, then an opener that waits although the opener behind it is closed. -/
def strayLines : List Line :=
  .opener indented true (keyOf "a" (by decide)) true :: textLine 'x' (by decide) ::
    .closer indented true :: .opener indented false (keyOf "b__c" (by decide)) true ::
      .opener indented false (keyOf "a" (by decide)) true :: textLine 'y' (by decide) ::
        [.closer indented true]

theorem processBlocks_strayLines :
    Whole strayLines ∧ ¬ Nested strayLines ∧
      spell strayLines = ("\t // __IF_NOT_FEATURE_a__ \nx\n\t // __ENDIF__ \n" ++
        "\t // __IF_FEATURE_b__c__ \n\t // __IF_FEATURE_a__ \ny\n\t // __ENDIF__ \n").toList ∧
      ∃ error, processBlocks (fun _ => false) (spell strayLines) = .error error ∧
        error.message = "Unbalanced conditional marker: // __IF_FEATURE_b__" := by
  have hwhole : Whole strayLines := by decide
  have hstray : unmatched? [] strayLines =
      some (.opener indented false (keyOf "b__c" (by decide)) true) := rfl
  have hnested : ¬ Nested strayLines := by
    intro h
    exact Option.some_ne_none _ (hstray.symm.trans (unmatched?_of_nested h))
  obtain ⟨-, line, -, -, -, -, hfound, -, error, herror, hmessage⟩ :=
    processBlocks_spell_of_not_nested (fun _ => false) strayLines hwhole hnested
  obtain rfl := Option.some.inj (hstray.symm.trans hfound)
  refine ⟨hwhole, hnested, ?_, error, herror, hmessage.trans ?_⟩
  · rw [String.toList_append]
    repeat rw [String.toList_ofList]
    rfl
  · rw [Text.ofString, Text.ofString]
    repeat rw [String.toList_ofList]
    rfl

/-! ### Rejected for all features alike -/

/-- The template is one of lines: every marker ends its line, and the text in front of it cannot
be joined with what follows to a marker. -/
def Orderly (content : List Char) : Prop := ∃ lines, Separated lines ∧ spell lines = content

theorem processBlocks_spell_eq_error_iff (on : String → Bool) {lines : List Line}
    (h : Separated lines) (error : Error) :
    processBlocks on (spell lines) = .error error ↔
      ∃ line, unmatched? [] lines = some line ∧
        error = .unbalanced (String.ofList line.marker) := by
  constructor
  · intro herror
    cases hfound : unmatched? [] lines with
    | none =>
      have hnested := (nested_iff_unmatched? lines).2 hfound
      rw [processBlocks_spell_of_nested_lines on h hnested] at herror
      exact absurd herror (by simp)
    | some line =>
      rw [processBlocks_spell_of_unmatched? on h hfound] at herror
      exact ⟨line, rfl, (Except.error.inj herror).symm⟩
  · rintro ⟨line, hfound, rfl⟩
    exact processBlocks_spell_of_unmatched? on h hfound

/-- Whether an orderly template is rejected, and with which error, is the same for all features. -/
theorem processBlocks_eq_error_iff_of_orderly {content : List Char} (h : Orderly content)
    (on on' : String → Bool) (error : Error) :
    processBlocks on content = .error error ↔ processBlocks on' content = .error error := by
  obtain ⟨lines, hlines, rfl⟩ := h
  rw [processBlocks_spell_eq_error_iff on hlines, processBlocks_spell_eq_error_iff on' hlines]

/-- A text is sealed by a last character that no marker has up to its key. -/
theorem sealed_of_getLast? {cs : List Char} {c : Char} (hlast : cs.getLast? = some c)
    (hslash : c ∉ slashes) (hblank : isBlank c = false) (hwords : ∀ word ∈ markerWords, c ∉ word) :
    Sealed cs := by
  constructor
  · intro d hd
    rw [Option.mem_def, hlast] at hd
    exact Option.some.inj hd ▸ hblank
  · rintro start hne ⟨front, rfl⟩ word hword blanks hprefix
    have hstart : c ∈ start := by
      rw [List.getLast?_append, List.getLast?_eq_some_getLast hne] at hlast
      exact Option.some.inj hlast ▸ List.getLast_mem hne
    have hhead : c ∈ slashes ++ blanks.val ++ word := hprefix.subset hstart
    simp only [List.mem_append] at hhead
    rcases hhead with (h | h) | h
    · exact hslash h
    · exact not_mem_of_isBlank hblank blanks h
    · exact hwords word hword h

/-- Statements in front of an opener and of its closer, and a closer too many. -/
def inlineLines : List Line :=
  [ .text ⟨"f();".toList, by decide, unmarked_of_count (by decide)⟩ false,
    .opener indented false (keyOf "a" (by decide)) true,
    .text ⟨"g();".toList, by decide, unmarked_of_count (by decide)⟩ false,
    .closer indented true,
    .closer indented false ]

theorem separated_inlineLines : Separated inlineLines := by
  have hsealed (cs : List Char) (h : cs.getLast? = some ';') : Sealed cs :=
    sealed_of_getLast? h (by decide) (by decide) (by decide)
  simp [Separated, inlineLines, Line.Complete, hsealed]

theorem processBlocks_inlineLines :
    spell inlineLines =
        "f();\t // __IF_FEATURE_a__ \ng();\t // __ENDIF__ \n\t // __ENDIF__ ".toList ∧
      Orderly (spell inlineLines) ∧
        processBlocks (· == "a") (spell inlineLines) = .error (.unbalanced "// __ENDIF__") ∧
          processBlocks (fun _ => false) (spell inlineLines) =
            .error (.unbalanced "// __ENDIF__") := by
  have horderly : Orderly (spell inlineLines) := ⟨inlineLines, separated_inlineLines, rfl⟩
  have hkept : processBlocks (· == "a") (spell inlineLines) =
      .error (.unbalanced "// __ENDIF__") :=
    processBlocks_spell_of_unmatched? (· == "a") separated_inlineLines rfl
  exact ⟨rfl, horderly, hkept, (processBlocks_eq_error_iff_of_orderly horderly _ _ _).1 hkept⟩

/-- What stands in front of a dropped block can make a marker with what follows the block. -/
example : settleBlocks (fun _ => false)
    "/// __IF_FEATURE_a__\nx\n// __ENDIF__\n/ __ENDIF__\n".toList = "// __ENDIF__\n".toList := by
  decide +kernel

/-- A closer with text behind it goes with the block that is dropped around it, but is left where
the block is kept. -/
theorem not_forall_processBlocks_eq_error_iff :
    ¬ ∀ (content : List Char) (on on' : String → Bool),
      (∃ error, processBlocks on content = .error error) ↔
        ∃ error, processBlocks on' content = .error error := by
  intro h
  have hkept : settleBlocks (fun _ => true)
      "// __IF_FEATURE_a__\n// __ENDIF__ x\n// __ENDIF__\n".toList = "// __ENDIF__ x\n".toList := by
    decide +kernel
  have hdropped : settleBlocks (fun _ => false)
      "// __IF_FEATURE_a__\n// __ENDIF__ x\n// __ENDIF__\n".toList = [] := by
    decide +kernel
  have hmarker : firstMarker? "// __ENDIF__ x\n".toList = some "// __ENDIF__".toList := by
    decide
  obtain ⟨error, herror⟩ := (h _ (fun _ => true) (fun _ => false)).1
    ⟨_, by rw [processBlocks, hkept, hmarker]⟩
  rw [processBlocks, hdropped] at herror
  exact absurd herror (by simp [firstMarker?])

end DeployScript.Template
