import DeployScript.Files.Error
import DeployScript.Log.Setup
import DeployScript.Program

/-!
# The host of a run

All that a run does to the world outside goes through `Host`: it reads and writes files, starts
programs, hands records to the log and prints. A run is a program over any monad with such a host,
so that it can be reasoned about on a machine that is a value.
-/

namespace DeployScript

/-- What a run needs of the world outside. -/
class Host (m : Type → Type) where
  /-- The absolute path of the current directory. Fails if it was taken away. -/
  currentDirectory : m (Except FileError Path)
  /-- Is there a file at the path? Fails only for what is neither "nothing is there" nor "a
  directory was needed". -/
  isFile : Path → m (Except FileError Bool)
  /-- Is there a directory at the path? -/
  isDirectory : Path → m (Except FileError Bool)
  readBytes : Path → m (Except FileError ByteArray)
  makeDirectory : Path → m (Except FileError Unit)
  writeBytes : Path → ByteArray → m (Except FileError Unit)
  /-- Makes a file ready for appending. -/
  openForAppend : Path → m (Except FileError Unit)
  start : Start → m Outcome
  /-- Hands a record to the log. -/
  record : Log.Record → m Unit
  logState : m Log.State
  setLogState : Log.State → m Unit
  /-- Writes to standard output. -/
  print : String → m Unit
  /-- Writes to standard error. -/
  complain : String → m Unit

end DeployScript
