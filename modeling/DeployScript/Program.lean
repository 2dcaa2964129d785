import DeployScript.Numeric.Shortest
import DeployScript.Path

/-!
# External programs

What is asked of the operating system when a program is started, and what can come of it.
-/

namespace DeployScript

open Numeric (Binary64)

/-- A time limit in seconds: a whole number as a caller writes it, or any other number. -/
inductive TimeLimit where
  | whole (seconds : Int)
  | seconds (value : Binary64)
deriving DecidableEq, Repr

def TimeLimit.text : TimeLimit → String
  | .whole n => toString n
  | .seconds x => x.toText

/-- The start of a program: its name and arguments, the directory it runs in if not the current one,
and how long it may take. -/
structure Start where
  argv : List Text
  directory : Option Path
  limit : Option TimeLimit
deriving DecidableEq

/-- What is wrong with a start that is not even refused, or with what its program wrote. -/
inductive StartFault where
  /-- An argument or the directory holds a NUL character. -/
  | nul
  /-- An argument or the directory holds half of a surrogate pair that stands for no byte. -/
  | brokenText
  /-- The time limit is not a number. -/
  | limitNotNumber
  /-- The time limit is longer than can be waited for. -/
  | limitTooLong
  /-- What the program wrote is not UTF-8. -/
  | outputNotUtf8
deriving DecidableEq, Repr

def StartFault.text : StartFault → String
  | .nul => "a command holds a NUL character"
  | .brokenText => "a command holds half of a surrogate pair"
  | .limitNotNumber => "a time limit is not a number"
  | .limitTooLong => "a time limit is too long"
  | .outputNotUtf8 => "the output of a command is not UTF-8"

/-- What came of a start. -/
inductive Outcome where
  /-- The program ran to its end. -/
  | ended (code : Int) (output errors : String)
  /-- There is no such program. -/
  | notFound
  /-- The time limit was reached first. -/
  | timedOut
  /-- The operating system refused for another reason. -/
  | refused (reason : String)
  /-- An error came out of the start that is none of the operating system's. -/
  | crashed (fault : StartFault)
deriving DecidableEq, Repr

/-- A program that ends well and says nothing. -/
def Outcome.silent : Outcome := .ended 0 "" ""

end DeployScript
