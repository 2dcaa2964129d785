/-!
# Environment variables

The variables that a run is started with, and the names of those it reads.
-/

namespace DeployScript

/-- Environment variables with their values. -/
structure Environment where
  entries : List (String × String)
deriving DecidableEq, Repr

namespace Environment

def empty : Environment := ⟨[]⟩

def get? (env : Environment) (name : String) : Option String := env.entries.lookup name

/-- The value of a variable, if it is set and not empty. -/
def nonEmpty? (env : Environment) (name : String) : Option String :=
  (env.get? name).filter (· != "")

end Environment

def logLevelVariable : String := "DK_LOG_LEVEL"

def logFileVariable : String := "DK_LOG_FILE"

def logFileLevelVariable : String := "DK_LOG_FILE_LEVEL"

end DeployScript
