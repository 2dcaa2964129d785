import DeployScript.Files.Access

/-!
# Setting up the log

The plan of the settings is carried out on a host: the handlers there were are taken away, one for
the console is added, and only then the log file is opened, so that a file that cannot be opened
leaves the console in place and the threshold as it was.
-/

namespace DeployScript.Log

variable {m : Type → Type} [Monad m] [Host m]

def change (f : State → State) : m Unit := do Host.setLogState (f (← Host.logState))

/-- Opens a log file and adds a handler for it. The path is made absolute first, two dots leading to
the directory above whatever is there. -/
def addFile (level : Level) (text : String) : Action m Unit := do
  let path ← Action.absolute (.parse text)
  Action.checkPath path
  match ← (Host.openForAppend path : m _) with
  | .error e => Action.crash (.file e)
  | .ok () => (change (.add (fileHandler level path)) : m Unit)

def install (settings : Settings) (env : Environment) : Action m Unit := do
  let plan := Plan.make settings env
  (change .clear : m Unit)
  (change (.add plan.console) : m Unit)
  match plan.file with
  | none => pure ()
  | some (level, text) => addFile level text
  (change (.setThreshold plan.threshold) : m Unit)

end DeployScript.Log
