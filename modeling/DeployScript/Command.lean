import DeployScript.Config.Basic
import DeployScript.Crash
import DeployScript.Host
import DeployScript.Program
import DeployScript.Text.Space

/-!
# Commands and receipts

What came of a command is told by a receipt, and whoever asked decides what a failed one means. Only
a start that crashes has none. `Command.run` starts a program; `Command.build` and `Command.format`
run the commands of a configuration, and skip those that are turned off.
-/

namespace DeployScript

/-- How a command went. -/
inductive Status where
  | ok
  | skipped
  | failed
deriving DecidableEq, Repr

def Status.word : Status → String
  | .ok => "ok"
  | .skipped => "skipped"
  | .failed => "failed"

/-- What else a receipt tells. -/
inductive Remark where
  | none
  /-- What the program wrote to standard error although it ended well. -/
  | errors (text : String)
  /-- The time limit that was reached. -/
  | timeout (limit : Option TimeLimit)
deriving DecidableEq, Repr

/-- What came of a command. -/
structure Receipt where
  command : List Text
  status : Status
  output : String
  error : Option Text
  returnCode : Option Int
  remark : Remark
deriving DecidableEq, Repr

namespace Receipt

def isOk (r : Receipt) : Bool := r.status == .ok

def isFailed (r : Receipt) : Bool := r.status == .failed

/-- A command that ended well. -/
def success (command : List Text) (output errors : String) : Receipt :=
  ⟨command, .ok, output, none, some 0, .errors errors⟩

/-- A command that failed before its program ended. -/
def failure (command : List Text) (error : Text) : Receipt :=
  ⟨command, .failed, "", some error, none, .none⟩

/-- A command whose program ended badly. -/
def badEnd (command : List Text) (error : Text) (code : Int) : Receipt :=
  ⟨command, .failed, "", some error, some code, .none⟩

def stopped (command : List Text) (limit : Option TimeLimit) : Receipt :=
  { failure command s!"Command timed out after {limitText}s" with remark := .timeout limit }
where
  limitText : String := match limit with
    | some limit => limit.text
    | none => "None"

def skip (command : List Text) (reason : String) : Receipt :=
  ⟨command, .skipped, reason, none, none, .none⟩

def firstNonEmpty (texts : List String) : String := (texts.find? (· != "")).getD ""

/-- The receipt for a program that ran to its end. -/
def ofEnd (s : Start) (code : Int) (output errors : String) : Receipt :=
  let output := Text.strip output
  let errors := Text.strip errors
  if code = 0 then success s.argv output errors
  else badEnd s.argv (firstNonEmpty [errors, output, s!"Command exited with code {code}"]) code

def ofOutcome (s : Start) : Outcome → Except Crash Receipt
  | .notFound => .ok (failure s.argv ("Command not found: " ++ s.argv.headD []))
  | .timedOut => .ok (stopped s.argv s.limit)
  | .refused reason => .ok (failure s.argv s!"Command execution error: {reason}")
  | .ended code output errors => .ok (ofEnd s code output errors)
  | .crashed fault => .error (.start fault)

end Receipt

/-! ### Running -/

namespace Command

variable {m : Type → Type} [Monad m] [Host m]

def startLogger : String := "deployer_kit.adapters.shell.command"

def toolLogger : String := "deployer_kit.adapters.forge"

def line (command : List Text) : Text := Text.join " " command

/-- What the log says of a directory. -/
def directoryText (directory : Option Path) : Text := match directory with
  | some p => p.text
  | none => "."

/-- Runs a command to its end. An empty one starts nothing. -/
def run (s : Start) : m (Except Crash Receipt) := do
  if s.argv.isEmpty then return .ok (.failure [] "Empty command")
  else
    Host.record (.debug startLogger
      ("Executing: " ++ line s.argv ++ " (cwd=" ++ directoryText s.directory ++ ")"))
    return Receipt.ofOutcome s (← Host.start s)

/-- Runs a configured command with arguments added; `verb` tells the log what it is for, and
`reason` the receipt why it was skipped. -/
def runConfigured (c : CommandConfig) (added : List Text) (directory : Option Path)
    (verb reason : String) : m (Except Crash Receipt) := do
  let command := c.command ++ added
  if c.enabled then
    Host.record (.info toolLogger (verb ++ ": " ++ line command))
    run ⟨command, directory, c.timeout.map .seconds⟩
  else return .ok (.skip command reason)

def build (c : CommandConfig) (directory : Option Path) : m (Except Crash Receipt) :=
  runConfigured c [] directory "Building" "build disabled"

def format (c : CommandConfig) (file : Path) (directory : Option Path) :
    m (Except Crash Receipt) :=
  runConfigured c [file.text] directory "Formatting" "format disabled"

end Command

end DeployScript
