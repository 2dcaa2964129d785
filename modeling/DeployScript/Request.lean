import DeployScript.Path
import DeployScript.Validation

/-!
# Requests

What to generate a deploy script for: a source file, and the contract in it. The file name is split
at its last dot into a stem, which names the contract unless the request does, and an extension.
-/

namespace DeployScript

open Validation (Checked)

structure Request where
  /-- The source file, as given. -/
  source : Text
  /-- The directory to write to, if not the configured one. -/
  outputDir : Option Text
  /-- The contract, if not named like the file. -/
  contract : Option Text
deriving DecidableEq, Repr

/-- Where scripts are written unless a request or a configuration says otherwise. -/
def defaultOutputDir : String := "script/deployers"

/-- Where the compiler writes its artifacts unless a configuration says otherwise. -/
def defaultArtifactsDir : String := "out"

/-- The extension of a file name that has none. -/
def defaultExtension : String := "sol"

namespace Request

def ofDocument (d : Document) : Checked Request := do
  let entries ← Validation.record d
  (Checked.both (Validation.required entries "source_path" Validation.text)
    (Checked.both
      (Validation.optional entries "output_dir" none (Validation.nullable Validation.text))
      (Validation.optional entries "contract_name" none (Validation.nullable Validation.text)))).map
    fun (source, outputDir, contract) => ⟨source, outputDir, contract⟩

/-- Backslashes as slashes. -/
def unifySlashes (t : Text) : Text := t.map (CodePoint.map fun c => if c = '\\' then '/' else c)

/-- The last part of the source path, either slash separating parts. -/
def fileName (r : Request) : Text := (Path.parse (unifySlashes r.source)).name

/-- The text before the last dot and the text after it; `none` without a dot. -/
def splitLastDot? (name : Text) : Option (Text × Text) :=
  let back := name.reverse
  if name.contains '.' then
    some (((back.dropWhile (· != .char '.')).drop 1).reverse,
      (back.takeWhile (· != .char '.')).reverse)
  else none

def stem (r : Request) : Text :=
  match splitLastDot? r.fileName with
  | some (stem, _) => stem
  | none => r.fileName

def extension (r : Request) : Text :=
  match splitLastDot? r.fileName with
  | some (_, ext) => if ext.isEmpty then defaultExtension else ext
  | none => defaultExtension

/-- `text` if it is given and not empty. -/
def given? (text : Option Text) : Option Text := text.filter (!·.isEmpty)

/-- The contract: the one named, else the one named like the file. -/
def contractName (r : Request) : Text := (given? r.contract).getD r.stem

/-- The directory to write to, where `fallback` is the configured one. -/
def resolveOutputDir (r : Request) (fallback : Text) : Text :=
  (given? r.outputDir).getD fallback

/-- Where the compiler puts the artifact of the contract: in a directory named like the source
file. -/
def artifactPath (r : Request) (artifactsDir : Text) : Path :=
  ((Path.parse artifactsDir).child (r.stem ++ "." ++ r.extension)).child (r.contractName ++ ".json")

end Request

end DeployScript
