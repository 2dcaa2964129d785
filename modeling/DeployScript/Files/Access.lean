import DeployScript.Crash
import DeployScript.Depths
import DeployScript.Failure
import DeployScript.Host
import DeployScript.Text.Lines

/-!
# Using the files of a host

`Action` is what a run does on a host: it may end early. The operations here work on whole texts and
on whole chains of directories. A path that cannot be written in bytes, or that has a NUL character
in it, never reaches the host.
-/

namespace DeployScript

/-- What a run does on a host. -/
abbrev Action (m : Type → Type) (α : Type) := ExceptT Abort m α

namespace Action

variable {m : Type → Type} [Monad m] [Host m] [Depths] {α : Type}

def fail (f : Failure) : Action m α := throw (.failure f)

def crash (c : Crash) : Action m α := throw (.crash c)

/-- Why no file can have the path, if none can. -/
def badPath? (p : Path) : Option Crash :=
  if p.text.nameBytes?.isNone then some .brokenText
  else if p.hasNul then some .nulInPath
  else none

/-- Refuses a path that no file can have. -/
def checkPath (p : Path) : Action m Unit :=
  match badPath? p with
  | some c => crash c
  | none => pure ()

def isFile (p : Path) : Action m Bool := do
  if (badPath? p).isSome then return false
  match ← (Host.isFile p : m _) with
  | .ok found => return found
  | .error e => crash (.file e)

def readText (p : Path) : Action m (Except FileError String) := do
  checkPath p
  match ← (Host.readBytes p : m _) with
  | .error e => return .error e
  | .ok bytes =>
    match Text.ofBytes? bytes with
    | some text => return .ok text
    | none => crash .notUtf8

/-- Writes a text to a file, in place of what it held. A broken text leaves the file empty. -/
def writeText (p : Path) (t : Text) : Action m (Except FileError Unit) := do
  checkPath p
  match ← (Host.writeBytes p (t.utf8?.getD ByteArray.empty) : m _) with
  | .error e => return .error e
  | .ok () => if t.isBroken then crash .brokenText else return .ok ()

/-- Makes a directory that may be there already. -/
def makeOne (p : Path) : Action m (Except FileError Unit) := do
  match ← (Host.makeDirectory p : m _) with
  | .ok () => return .ok ()
  | .error e =>
    if e.cause = .missing then return .error e
    else match ← (Host.isDirectory p : m _) with
      | .ok true => return .ok ()
      | .ok false => return .error e
      | .error e => return .error e

/-- Makes a directory and those above it that are missing, `levels` of them at most. -/
def makeAll : Nat → Path → Action m (Except FileError Unit)
  | 0, _ => crash .nestedTooDeeply
  | levels + 1, p => do
    match ← makeOne p with
    | .ok () => return .ok ()
    | .error e =>
      if e.cause ≠ .missing ∨ p.parts = [] then return .error e
      else match ← makeAll levels p.parent with
        | .error e => return .error e
        | .ok () => makeOne p

/-- Makes a directory and all those above it that are missing. -/
def makeDirectories (p : Path) : Action m (Except FileError Unit) := do
  checkPath p
  makeAll (Depths.directories + 1) p

def currentDirectory : Action m Path := do
  match ← (Host.currentDirectory : m _) with
  | .ok path => return path
  | .error e => crash (.file e)

/-- The absolute path that `p` means where no part is a link: two dots lead to the directory
above. -/
def absolute (p : Path) : Action m Path := do
  if p.isAbsolute then return .resolve .top p else return .resolve (← currentDirectory) p

/-- Writes a text to standard output, which takes none that is broken. -/
def print (t : Text) : Action m Unit := do
  match t.string? with
  | some text => (Host.print text : m Unit)
  | none => crash .brokenText

def record (r : Log.Record) : Action m Unit := (Host.record r : m Unit)

end Action

end DeployScript
