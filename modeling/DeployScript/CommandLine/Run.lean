import DeployScript.CommandLine.Text
import DeployScript.Config.Load
import DeployScript.Generate
import DeployScript.Json.Printer
import DeployScript.Log.Install

/-!
# Running the command

The arguments are sorted out, checked, and turned into an `Invocation`; then the log is set up, the
configuration loaded and the script generated. Exit status zero means that the script was written,
or that a text was asked for and shown.
-/

namespace DeployScript.CommandLine

variable {m : Type → Type} [Monad m] [Host m] [Depths]

/-! ### Checked arguments -/

/-- What a command line asks for, once it is checked. -/
structure Invocation where
  request : Request
  /-- The configuration file, if one is named. -/
  config : Option String
  steps : Generate.Steps
  json : Bool
  verbosity : Log.Verbosity
deriving DecidableEq, Repr

/-- What a command line comes to. -/
inductive Demand where
  | showVersion
  | showHelp
  | generate (invocation : Invocation)
deriving DecidableEq, Repr

def needOf : Setting → String
  | .output => "the path to a directory"
  | _ => "the name of the contract"

def checkHyphen (s : Setting) (value : String) : Except UsageError Unit :=
  if "-".toList.isPrefixOf value.toList then
    .error (.badValue s s!"requires {needOf s}, got '{value}'")
  else .ok ()

def checkConfig (value : String) : Action m (Except UsageError Unit) := do
  if value = "" then return .ok ()
  else
    Action.checkPath (.parse value)
    match ← (Host.isDirectory (.parse value) : m _) with
    | .ok true => return .error (.badValue .config s!"File {Text.quoted value} is a directory.")
    | _ => return .ok ()

def checkSetting (g : Given) (s : Setting) : Action m (Except UsageError Unit) :=
  match s, g.value? s with
  | .output, some value => return checkHyphen s value
  | .name, some value => return checkHyphen s value
  | .config, some value => checkConfig value
  | _, _ => return .ok ()

def checkAll (g : Given) : List Setting → Action m (Except UsageError Unit)
  | [] => return .ok ()
  | s :: rest => do
    match ← checkSetting g s with
    | .error e => return .error e
    | .ok () => checkAll g rest

def Given.demand (g : Given) : Demand :=
  match g.arguments with
  | [] => .showHelp
  | source :: _ => .generate {
      request :=
        ⟨source, (g.value? .output).map Text.ofString, (g.value? .name).map Text.ofString⟩
      config := (g.value? .config).filter (· != "")
      steps := ⟨!g.has .noBuild, !g.has .noFormat⟩
      json := g.has .json
      verbosity := ⟨g.has .debug, g.has .verbose, g.has .quiet⟩ }

/-- What a command line comes to: options that ask for a text act before values are checked. -/
def demand (arguments : List String) : Action m (Except UsageError Demand) := do
  match Given.parse arguments with
  | .error e => return .error e
  | .ok g =>
    match g.request? with
    | some .version => return .ok .showVersion
    | some _ => return .ok .showHelp
    | none =>
      match ← checkAll g g.settings with
      | .error e => return .error e
      | .ok () =>
        match g.arguments with
        | _ :: extra :: more => return .error (.extraArguments (extra :: more))
        | _ => return .ok g.demand

/-! ### Showing results -/

def exitOk : Nat := 0

def exitError : Nat := 1

def statusOf (r : Report) : Nat := if r.ok then exitOk else exitError

def failureLine (message : Text) : String := (Text.withoutStyle ("❌ " ++ message ++ "\n")).shown

def warningLine (message : Text) : String := (Text.withoutStyle ("⚠️  " ++ message ++ "\n")).shown

def reportOutput (i : Invocation) (r : Report) : Text :=
  if i.json then r.toJson.render ++ "\n"
  else if i.verbosity.quiet then []
  else match r.ok, r.output with
    | true, some path => Text.withoutStyle ("✅ generated " ++ path.text ++ "\n")
    | _, _ => []

def reportErrors (i : Invocation) (r : Report) : String :=
  if i.json then ""
  else match r.failure with
    | some failure => failureLine failure.message
    | none => String.join (r.warnings.map warningLine)

/-! ### Running -/

/-- Carries out an invocation, the log being set up: the exit status. Errors are shown first, since
a broken path cannot be shown on standard output. -/
def generate (i : Invocation) : Action m Nat := do
  let config ← Config.load (i.config.map fun text => Path.parse text) true
  match ← (Generate.run i.request config i.steps : m _) with
  | .error crash => Action.crash crash
  | .ok report =>
    (Host.complain (reportErrors i report) : m Unit)
    Action.print (reportOutput i report)
    return statusOf report

def perform (env : Environment) : Demand → Action m Nat
  | .showVersion => do
    Action.print versionText
    return exitOk
  | .showHelp => do
    Action.print helpText
    return exitOk
  | .generate i => do
    Log.install ⟨some (i.verbosity.levelName env), none, none⟩ env
    generate i

def command (arguments : List String) (env : Environment) : Action m Nat := do
  match ← demand arguments with
  | .ok d => perform env d
  | .error e =>
    (Host.complain e.text : m Unit)
    return exitError

/-- Runs the command: the exit status, or the crash that ended it. -/
def run (arguments : List String) (env : Environment) : m (Except Crash Nat) := do
  match ← (command arguments env : Action m Nat).run with
  | .error (.crash crash) => return .error crash
  | .error (.failure failure) =>
    Host.complain (failureLine failure.message)
    return .ok exitError
  | .ok status => return .ok status

end DeployScript.CommandLine
