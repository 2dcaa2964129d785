import DeployScript.Numeric.Binary64
import DeployScript.Path
import DeployScript.Request
import DeployScript.Validation

/-!
# Configurations

What a project can set: where scripts go, where artifacts are, a template of its own, and the
commands that build the sources and format a script. Every setting has a default.

`Config.anchor` turns the relative paths of a configuration into paths seen from a directory.
-/

namespace DeployScript

open Numeric (Binary64)
open Validation (Checked)

structure CommandConfig where
  enabled : Bool
  command : List Text
  /-- The time limit in seconds; none waits forever. -/
  timeout : Option Binary64
deriving DecidableEq, Repr

/-- The settings of a project. -/
structure Config where
  outputDir : Text
  artifactsDir : Text
  template : Option Text
  build : CommandConfig
  format : CommandConfig
deriving DecidableEq, Repr

/-! ### Defaults -/

def CommandConfig.defaultBuild : CommandConfig :=
  ⟨true, ["forge", "build", "--skip", "s.sol", "--skip", "t.sol"], none⟩

def CommandConfig.defaultFormat : CommandConfig := ⟨true, ["forge", "fmt"], none⟩

def Config.default : Config :=
  { outputDir := defaultOutputDir
    artifactsDir := defaultArtifactsDir
    template := none
    build := .defaultBuild
    format := .defaultFormat }

/-! ### Reading -/

def CommandConfig.ofDocument (d : Document) : Checked CommandConfig := do
  let entries ← Validation.record d
  (Checked.both (Validation.optional entries "enabled" true Validation.flag)
    (Checked.both
      (Validation.required entries "command" (Validation.list .notList Validation.text))
      (Validation.optional entries "timeout" none (Validation.nullable Validation.number)))).map
    fun (enabled, command, timeout) => ⟨enabled, command, timeout⟩

def Config.ofDocument (d : Document) : Checked Config := do
  let entries ← Validation.record d
  (Checked.both
    (Validation.optional entries "output_dir" Config.default.outputDir Validation.text)
    (Checked.both
      (Validation.optional entries "artifacts_dir" Config.default.artifactsDir Validation.text)
      (Checked.both
        (Validation.optional entries "template" none (Validation.nullable Validation.text))
        (Checked.both
          (Validation.optional entries "build" Config.default.build CommandConfig.ofDocument)
          (Validation.optional entries "format" Config.default.format
            CommandConfig.ofDocument))))).map
    fun (outputDir, artifactsDir, template, build, format) =>
      ⟨outputDir, artifactsDir, template, build, format⟩

/-- How deep the collections of a configuration are nested: settings, commands, arguments. -/
def Config.depth : Nat := 4

/-! ### Anchoring -/

def anchorText (root : Path) (text : Text) : Text := (root.child text).text

def Config.template? (c : Config) : Option Text := c.template.filter (!·.isEmpty)

/-- The configuration with its paths seen from a directory. A template that is not named stays as it
is. -/
def Config.anchor (c : Config) (root : Path) : Config :=
  { c with
    outputDir := anchorText root c.outputDir
    artifactsDir := anchorText root c.artifactsDir
    template := match c.template? with
      | some text => some (anchorText root text)
      | none => c.template }

end DeployScript
