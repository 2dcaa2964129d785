import DeployScript.Proofs.Template.Run
import DeployScript.Proofs.Template.Segment

/-!
# Values in a rendered template

The blocks of a template are settled before its holes are read, and its holes are read before a
value is put in. So the segments of a template are fixed by the template and the features, and the
values only stand in for the holes: a value is never read for holes or markers.
-/

namespace DeployScript.Template

theorem render_of_processBlocks {on : String → Bool} {content : String} {settled : List Char}
    (h : processBlocks on content.toList = .ok settled) (values : String → Option Text) :
    render on values content = (fillHoles values settled).map cutRuns := by
  rw [render, h]
  dsimp only
  cases fillHoles values settled with
  | error e => rfl
  | ok filled => exact congrArg Except.ok (shortenRuns_eq_cutRuns filled)

/-- The segments of the settled template are spelled as it and tell for all values what the template
renders to: an error if a hole has no value, and otherwise the literals and the values in their
order, with runs of line ends cut to two. -/
theorem render_segmentsOf (on : String → Bool) (content : String) (settled : List Char)
    (hsettled : processBlocks on content.toList = .ok settled) :
    (segmentsOf settled).flatMap Segment.spell = settled ∧
      ∀ values : String → Option Text,
        ((∃ error, render on values content = .error error) ↔
            ∃ name, .hole name ∈ segmentsOf settled ∧ values (String.ofList name) = none) ∧
          ((∀ name, .hole name ∈ segmentsOf settled → (values (String.ofList name)).isSome) →
            render on values content =
              .ok (cutRuns ((segmentsOf settled).flatMap (Segment.fill values)))) := by
  have hpieces := pieces_eq_flatMap_segmentsOf settled
  refine ⟨flatMap_spell_segmentsOf settled, ?_⟩
  intro values
  have hfilled (hvalues : ∀ name, .hole name ∈ segmentsOf settled →
      (values (String.ofList name)).isSome) :
      render on values content =
        .ok (cutRuns ((segmentsOf settled).flatMap (Segment.fill values))) := by
    rw [render_of_processBlocks hsettled, fillHoles_of_isSome hpieces hvalues]
    rfl
  refine ⟨⟨?_, ?_⟩, hfilled⟩
  · rintro ⟨error, herror⟩
    -- a rendered text is no error, so that some hole has no value
    by_contra hnone
    have hvalues : ∀ name, .hole name ∈ segmentsOf settled →
        (values (String.ofList name)).isSome := by
      intro name hname
      rw [Option.isSome_iff_ne_none]
      intro hvalue
      exact hnone ⟨name, hname, hvalue⟩
    rw [hfilled hvalues] at herror
    simp at herror
  · rintro ⟨name, hname, hvalue⟩
    refine ⟨.missingValues (missingValues values settled), ?_⟩
    rw [render_of_processBlocks hsettled, fillHoles_of_eq_none hpieces hname hvalue]
    rfl

/-- A block, two holes and a run of line ends between them. -/
def heldContent : String := "// __IF_FEATURE_a__\n__A__\n// __ENDIF__\n\n__B__"

/-- Values that are written like a hole, a line end and a marker. -/
def markerValues (name : String) : Option Text :=
  if name = "A" then some "__B__\n" else some "// __IF_FEATURE_b__\n"

theorem render_heldContent :
    processBlocks (· == "a") heldContent.toList = .ok "__A__\n\n__B__".toList ∧
      render (· == "a") markerValues heldContent = .ok "__B__\n\n// __IF_FEATURE_b__\n" := by
  have hblocks : settleBlocks (· == "a") heldContent.toList = "__A__\n\n__B__".toList := by
    decide +kernel
  have hmarker : firstMarker? "__A__\n\n__B__".toList = none := by decide
  have hsettled : processBlocks (· == "a") heldContent.toList = .ok "__A__\n\n__B__".toList := by
    rw [processBlocks, hblocks, hmarker]
  refine ⟨hsettled, ?_⟩
  have hsegments : segmentsOf "__A__\n\n__B__".toList =
      [.hole ['A'], .literal ['\n'], .literal ['\n'], .hole ['B']] := by
    decide +kernel
  have hrender := ((render_segmentsOf _ heldContent _ hsettled).2 markerValues).2
  rw [hsegments] at hrender
  refine hrender ?_
  intro name _
  simp only [markerValues]
  split <;> rfl

end DeployScript.Template
