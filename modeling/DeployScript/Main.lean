import DeployScript.CommandLine.Run
import DeployScript.Host.System

/-!
# The command

Runs the command line on the operating system. A crash is told on standard error, with exit status
one.
-/

namespace DeployScript

/-- The variables that a run reads, as far as they are set. -/
def readEnvironment : IO Environment := do
  let names := [logLevelVariable, logFileVariable, logFileLevelVariable]
  let values ← names.filterMapM fun name => do
    return (← IO.getEnv name).map fun value => (name, value)
  return ⟨values⟩

def runCommand [Depths] (arguments : List String) : OnSystem UInt32 := do
  match ← (CommandLine.run arguments (← readEnvironment) : OnSystem (Except Crash Nat)) with
  | .ok status => return UInt32.ofNat status
  | .error crash =>
    OnSystem.complain s!"{CommandLine.programName}: {crash.message}\n"
    return UInt32.ofNat CommandLine.exitError

end DeployScript

def main (arguments : List String) : IO UInt32 := do
  let _ : DeployScript.Depths := .ofThousand
  let (status, _) ← (DeployScript.runCommand arguments).run .initial
  return status
