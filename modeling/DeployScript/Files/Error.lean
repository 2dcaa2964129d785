import DeployScript.Text.Quoted

/-!
# Errors of the file system

Why an operation on a file or directory failed, and how that is said: the number and text of the
cause as the operating system gives them, and the quoted path.
-/

namespace DeployScript

/-- Why an operation on a path failed. -/
inductive FileCause where
  /-- Nothing is there. -/
  | missing
  /-- Something is there already. -/
  | present
  /-- A directory was needed on the way. -/
  | notDirectory
  /-- A directory is there. -/
  | isDirectory
  /-- A name, or the path as a whole, is too long. -/
  | nameTooLong
  /-- Another cause that the operating system names. -/
  | other (code : Nat) (text : String)
deriving DecidableEq, Repr

def FileCause.code : FileCause → Nat
  | .missing => 2
  | .present => 17
  | .notDirectory => 20
  | .isDirectory => 21
  | .nameTooLong => 36
  | .other code _ => code

def FileCause.text : FileCause → String
  | .missing => "No such file or directory"
  | .present => "File exists"
  | .notDirectory => "Not a directory"
  | .isDirectory => "Is a directory"
  | .nameTooLong => "File name too long"
  | .other _ text => text

/-- A text that cannot be the name of a file. -/
def FileCause.noName : FileCause := .other 84 "Invalid or incomplete multibyte or wide character"

/-- A failed operation on the path with a text. -/
structure FileError where
  cause : FileCause
  path : Text
deriving DecidableEq, Repr

def FileError.message (e : FileError) : String :=
  s!"[Errno {e.cause.code}] {e.cause.text}: {Text.quoted e.path}"

end DeployScript
