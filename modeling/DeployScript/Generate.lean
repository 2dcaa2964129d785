import DeployScript.Command
import DeployScript.Deployer.Script
import DeployScript.Files.Access
import DeployScript.Json.Basic

/-!
# Generating a deploy script

A run builds the sources, reads the interface of the contract from its artifact, renders the script,
writes it and formats it. Every stage but the last ends the run if it fails; a formatter that fails
leaves the script as it was written and is told as a warning.

The report of a run holds what is known when it ends, so that a failed run still tells how far it
got.
-/

namespace DeployScript

variable {m : Type → Type} [Monad m] [Host m] [Depths]

/-! ### Reports -/

/-- What a run tells. -/
structure Report where
  ok : Bool
  contract : Text
  artifact : Option Path
  output : Option Path
  arguments : Option Abi.Arguments
  built : Bool
  formatted : Bool
  failure : Option Failure
  warnings : List Text
deriving DecidableEq

namespace Report

/-- The report before anything is done. -/
def start (contract : Text) : Report :=
  ⟨false, contract, none, none, none, false, false, none, []⟩

def textOrNull : Option Text → Json
  | some text => .string text
  | none => .null

def names (params : List Abi.Parameter) : Json := .array (params.map fun p => .string p.name)

def toJson (r : Report) : Json :=
  .object [
    ("ok", .bool r.ok),
    ("contract_name", .string r.contract),
    ("artifact_path", textOrNull (r.artifact.map Path.text)),
    ("output_path", textOrNull (r.output.map Path.text)),
    ("initializable", match r.arguments with
      | some a => .bool a.initializable
      | none => .null),
    ("constructor_params", match r.arguments with
      | some a => names a.constructor
      | none => .array []),
    ("init_params", match r.arguments.bind Abi.Arguments.init with
      | some params => names params
      | none => .null),
    ("built", .bool r.built),
    ("formatted", .bool r.formatted),
    ("error", textOrNull (r.failure.map Failure.message)),
    ("error_kind", textOrNull (r.failure.map fun f => f.kind)),
    ("warnings", .array (r.warnings.map .string)) ]

end Report

/-! ### Stages -/

namespace Artifact

def load (p : Path) : Action m (List Abi.Entry) := do
  match ← Action.readText p with
  | .error e =>
    Action.record (.debug logger ("Cannot read artifact " ++ p.text ++ ": " ++ e.message))
    Action.fail (.artifact (.notFound p.text))
  | .ok text =>
    match Json.read text with
    | .error (.malformed what place) =>
      Action.fail (.artifact (.invalidJson p.text what place))
    | .error .longInteger => Action.crash .longInteger
    | .error .nestedTooDeeply => Action.crash .nestedTooDeeply
    | .ok json =>
      match interfaceOf p.text (.ofJson json) with
      | .error e => Action.fail (.artifact e)
      | .ok entries =>
        Action.record (.debug logger (s!"Loaded {entries.length} ABI entries from " ++ p.text))
        return entries

end Artifact

namespace Template

/-- The text of a template file; `path` is how it is named, also in errors. -/
def load (path : Text) : Action m String := do
  match ← Action.readText (.parse path) with
  | .ok text => return text
  | .error e => Action.fail (.template (.unreadable path e))

end Template

namespace Generate

open DeployScript.Deployer (Script)

def logger : String := "deployer_kit.core.use_cases.generate"

/-- Writes a script, making the directories above it. -/
def write (s : Script) : Action m Path := do
  match ← Action.makeDirectories s.path.parent with
  | .error e => Action.fail (.write s.path.text e)
  | .ok () =>
    match ← Action.writeText s.path s.content with
    | .error e => Action.fail (.write s.path.text e)
    | .ok () =>
      Action.record
        (.info logger ("Wrote " ++ s.path.text ++ s!" ({s.content.length} bytes)"))
      return s.path

/-- What a run is asked to do besides generating. -/
structure Steps where
  build : Bool
  format : Bool
deriving DecidableEq, Repr

def resolve (abi : List Abi.Entry) : m Abi.Arguments := do
  (Abi.notices abi).forM fun notice => Host.record notice.record
  return Abi.resolve abi

def buildStage (c : Config) (wanted : Bool) : Action m Bool := do
  if wanted then
    match ← (Command.build c.build none : m _) with
    | .error c => Action.crash c
    | .ok receipt =>
      if receipt.isFailed then Action.fail (.build (receipt.error.getD []))
      else return receipt.isOk
  else return false

/-- What is reported of a run whose state so far is kept beside it. -/
abbrev Staged (m : Type → Type) (α : Type) := ExceptT Abort (StateT Report m) α

/-- A stage of a run that has its report beside it. -/
def stage {α : Type} (a : Action m α) : Staged m α := ExceptT.mk (StateT.lift a.run)

def templateStage (c : Config) : Action m (Option String) := do
  match c.template? with
  | some path => return some (← Template.load path)
  | none => return none

/-- Everything up to the written script. -/
def upToWriting (r : Request) (c : Config) (build : Bool) : Staged m Unit := do
  let built ← stage (buildStage c build)
  modify fun report => { report with built }
  let artifact := r.artifactPath c.artifactsDir
  modify fun report => { report with artifact := some artifact }
  let abi ← stage (Artifact.load artifact)
  let arguments ← stage (resolve abi : m Abi.Arguments)
  modify fun report => { report with arguments := some arguments }
  let template ← stage (templateStage c)
  match Deployer.script r arguments (r.resolveOutputDir c.outputDir) template with
  | .error e => stage (Action.fail (.template e))
  | .ok script =>
    let output ← stage (write script)
    modify fun report => { report with output := some output }

/-- What a run tells once the formatter has been run on the script. -/
def tellFormatted (report : Report) (output : Path) (receipt : Receipt) : m Report := do
  if receipt.isFailed then
    let reason := receipt.error.getD []
    Host.record (.info logger ("Formatter failed: " ++ reason))
    let warning := "Formatter failed, " ++ output.text ++ " left unformatted: " ++ reason
    return { report with warnings := report.warnings ++ [warning] }
  else return { report with formatted := receipt.isOk }

/-- Formats the written script, if that is asked for; a failure becomes a warning. -/
def formatStage (c : Config) (wanted : Bool) (report : Report) : m (Except Crash Report) := do
  match report.output with
  | some output =>
    if wanted then
      match ← (Command.format c.format output none : m _) with
      | .error crash => return .error crash
      | .ok receipt => return .ok (← tellFormatted report output receipt)
    else return .ok report
  | none => return .ok report

/-- Generates the script for a request. A failure is part of the report. -/
def run (r : Request) (c : Config) (steps : Steps) : m (Except Crash Report) := do
  let (result, report) ← (upToWriting r c steps.build).run.run (.start r.contractName)
  match result with
  | .error (.crash crash) => return .error crash
  | .error (.failure failure) =>
    Host.record
      (.debug logger (s!"Generation aborted ({failure.kind}): " ++ failure.message))
    return .ok { report with failure := some failure }
  | .ok () => formatStage c steps.format { report with ok := true }

end Generate

end DeployScript
