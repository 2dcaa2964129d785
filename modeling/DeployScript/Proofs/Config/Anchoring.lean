import DeployScript.Config.Basic
import DeployScript.Path.Lemmas

/-!
# Anchored configurations

A path seen from an absolute directory gets the text of an absolute path, in the one form in which
paths are written: it reads back as that path, also where the root is written with two slashes, and
an absolute path is the same from everywhere. So a configuration whose paths all have that form is
left as it is, whatever directory it is seen from, and every configuration that is seen from an
absolute directory becomes one of them.
-/

namespace DeployScript

/-! ### Texts of absolute paths -/

/-- The text is that of an absolute path, in the form in which paths are written. -/
structure IsAbsoluteText (t : Text) : Prop where
  isAbsolute : (Path.parse t).isAbsolute = true
  text_parse : (Path.parse t).text = t

theorem Path.isAbsoluteText_text {p : Path} (h : p.isAbsolute = true) : IsAbsoluteText p.text where
  isAbsolute := by rw [Path.parse_text, h]
  text_parse := by rw [Path.parse_text]

theorem isAbsoluteText_anchorText {root : Path} (h : root.isAbsolute = true) (t : Text) :
    IsAbsoluteText (anchorText root t) :=
  Path.isAbsoluteText_text (Path.isAbsolute_join h (Path.parse t))

theorem IsAbsoluteText.anchorText_eq {t : Text} (h : IsAbsoluteText t) (root : Path) :
    anchorText root t = t := by
  rw [anchorText, Path.child, Path.join_of_isAbsolute root h.isAbsolute, h.text_parse]

/-! ### Configurations -/

namespace Config

variable {c : Config} {root : Path} {text : Text}

theorem template?_eq_some_iff :
    c.template? = some text ↔ c.template = some text ∧ text ≠ [] := by
  rw [template?, Option.filter_eq_some_iff, Bool.not_eq_true', List.isEmpty_eq_false_iff]

theorem template?_eq_none_iff :
    c.template? = none ↔ c.template = none ∨ c.template = some [] := by
  cases h : c.template with
  | none => simp [template?, h]
  | some text => simp [template?, h]

theorem template_anchor_of_none (h : c.template? = none) (root : Path) :
    (c.anchor root).template = c.template := by
  simp only [anchor, h]

theorem template_anchor_of_some (h : c.template? = some text) (root : Path) :
    (c.anchor root).template = some (anchorText root text) := by
  simp only [anchor, h]

theorem template?_anchor (c : Config) (root : Path) :
    (c.anchor root).template? = c.template?.map (anchorText root) := by
  cases h : c.template? with
  | none =>
    rw [template?, template_anchor_of_none h]
    exact h
  | some text =>
    rw [Option.map_some, template?_eq_some_iff]
    exact ⟨template_anchor_of_some h root, Path.text_ne_nil _⟩

/-- All paths that the configuration names are those of absolute paths. -/
structure Anchored (c : Config) : Prop where
  outputDir : IsAbsoluteText c.outputDir
  artifactsDir : IsAbsoluteText c.artifactsDir
  template : ∀ text, c.template? = some text → IsAbsoluteText text

theorem anchored_anchor (h : root.isAbsolute = true) (c : Config) : (c.anchor root).Anchored where
  outputDir := isAbsoluteText_anchorText h c.outputDir
  artifactsDir := isAbsoluteText_anchorText h c.artifactsDir
  template := by
    intro text htext
    rw [template?_anchor, Option.map_eq_some_iff] at htext
    obtain ⟨given, -, rfl⟩ := htext
    exact isAbsoluteText_anchorText h given

theorem Anchored.template_eq (h : c.Anchored) (root : Path) :
    (c.anchor root).template = c.template := by
  cases htemplate : c.template? with
  | none => exact template_anchor_of_none htemplate root
  | some text =>
    rw [template_anchor_of_some htemplate, (h.template text htemplate).anchorText_eq,
      (template?_eq_some_iff.1 htemplate).1]

theorem Anchored.anchor_eq (h : c.Anchored) (root : Path) : c.anchor root = c :=
  calc c.anchor root
    _ = { c with
          outputDir := anchorText root c.outputDir
          artifactsDir := anchorText root c.artifactsDir
          template := (c.anchor root).template } := rfl
    _ = { c with
          outputDir := c.outputDir
          artifactsDir := c.artifactsDir
          template := c.template } := by
      rw [h.outputDir.anchorText_eq, h.artifactsDir.anchorText_eq, h.template_eq]
    _ = c := rfl

/-- Seen from an absolute directory, a configuration has absolute paths and is the same from every
directory after that. A template that is not named and the commands stay from the start. -/
theorem anchor_anchor {directory : Path} (h : directory.isAbsolute = true) (c : Config) :
    (c.anchor directory).Anchored ∧
      (∀ other, (c.anchor directory).anchor other = c.anchor directory) ∧
        (c.template = none ∨ c.template = some [] →
          (c.anchor directory).template = c.template) ∧
          (c.anchor directory).build = c.build ∧ (c.anchor directory).format = c.format := by
  have hanchored := anchored_anchor h c
  refine ⟨hanchored, hanchored.anchor_eq, ?_, rfl, rfl⟩
  intro hunnamed
  exact template_anchor_of_none (template?_eq_none_iff.2 hunnamed) directory

/-- Paths with slashes and dots to spare, an empty one and one with two slashes at the front. -/
def looseConfig : Config :=
  { Config.default with
    outputDir := "./gen//x/"
    artifactsDir := ""
    template := some "//t/../u/." }

theorem anchor_anchor_looseConfig :
    (Path.parse "//net/.").isAbsolute = true ∧
      looseConfig.anchor (.parse "//net/.") =
        { looseConfig with
          outputDir := "//net/gen/x"
          artifactsDir := "//net"
          template := some "//t/../u" } ∧
        ∀ other, (looseConfig.anchor (.parse "//net/.")).anchor other =
          looseConfig.anchor (.parse "//net/.") := by
  have habsolute : (Path.parse "//net/.").isAbsolute = true := by decide
  exact ⟨habsolute, by decide, (anchor_anchor habsolute looseConfig).2.1⟩

end Config

end DeployScript
