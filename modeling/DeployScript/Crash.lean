import DeployScript.Files.Error
import DeployScript.Program

/-!
# Crashes

Inputs that end a run without a failure that the run foresees. They are kept apart from failures so
that it can be said which inputs they are.
-/

namespace DeployScript

/-- An input that stops a run without a failure of its own. -/
inductive Crash where
  /-- A path with a NUL character in it. -/
  | nulInPath
  /-- A file that is not UTF-8. -/
  | notUtf8
  /-- A text with half of a surrogate pair, where it is to be written or to be a path. -/
  | brokenText
  /-- An integer with more digits than are converted. -/
  | longInteger
  /-- A date that is in no calendar. -/
  | impossibleDate
  /-- A scalar that is said to be a number and is none. -/
  | unreadableNumber
  /-- A scalar that is said to be a number and is empty. -/
  | emptyNumber
  /-- A scalar that is said to be a flag and is none. -/
  | unknownFlag
  /-- A scalar that is said to be a date and is none. -/
  | unreadableDate
  /-- A mapping that is said to be a date, with a text under `=`. -/
  | dateOfMapping
  /-- An escape for a code point beyond the last one. -/
  | codePointTooLarge
  /-- A number that is too large to be calculated with. -/
  | overflow
  /-- More levels inside each other than are dealt with, in a file or of missing directories. -/
  | nestedTooDeeply
  /-- A file error where none is foreseen. -/
  | file (error : FileError)
  /-- A start of a program that no receipt can be given for. -/
  | start (fault : StartFault)
deriving DecidableEq, Repr

def Crash.message : Crash → String
  | .nulInPath => "a path holds a NUL character"
  | .notUtf8 => "a file is not UTF-8"
  | .brokenText => "a text holds half of a surrogate pair"
  | .longInteger => "an integer has too many digits"
  | .impossibleDate => "there is no such date"
  | .unreadableNumber => "a scalar is not a number"
  | .emptyNumber => "a number is empty"
  | .unknownFlag => "a scalar is not a flag"
  | .unreadableDate => "a scalar is not a date"
  | .dateOfMapping => "a mapping is not a date"
  | .codePointTooLarge => "there is no such code point"
  | .overflow => "a number is too large"
  | .nestedTooDeeply => "there are too many levels inside each other"
  | .file error => error.message
  | .start fault => fault.text

end DeployScript
