import DeployScript.Host
import Std.Time.Format

/-!
# The operating system

The host that a command really runs on: its files are those of the operating system, records go to
standard error and to the log file, and the time is the time of day. Programs cannot be started from
here, and a start is refused.
-/

namespace DeployScript

/-- What runs on the operating system; the state is that of the log. -/
abbrev OnSystem := StateT Log.State IO

namespace OnSystem

def causeOf : IO.Error → FileCause
  | .noFileOrDirectory _ _ _ => .missing
  | .alreadyExists _ _ _ => .present
  | .inappropriateType _ 20 _ => .notDirectory
  | .inappropriateType _ 21 _ => .isDirectory
  | .invalidArgument _ 36 _ => .nameTooLong
  | .permissionDenied _ _ _ => .other 13 "Permission denied"
  | _ => .other 5 "Input/output error"

/-- What comes of an operation on a path. A broken path is refused. -/
def attempt {α : Type} (p : Path) (operation : String → IO α) : OnSystem (Except FileError α) := do
  match p.text.string? with
  | none => return .error ⟨.noName, p.text⟩
  | some text =>
    match ← (operation text).toBaseIO with
    | .ok a => return .ok a
    | .error e => return .error ⟨causeOf e, p.text⟩

def currentDirectory : OnSystem (Except FileError Path) :=
  attempt .here fun _ => return Path.resolve .top (.parse (← IO.currentDir).toString)

/-- Is there something at the path that `test` holds of? -/
def testType (p : Path) (test : IO.FS.FileType → Bool) : OnSystem (Except FileError Bool) := do
  match ← attempt p fun text => do (← IO.FS.realPath text).metadata with
  | .ok data => return .ok (test data.type)
  | .error e =>
    match e.cause with
    | .missing => return .ok false
    | .notDirectory => return .ok false
    | _ => return .error e

/-- Makes a file that takes what is written at its end. -/
def appendHandle (text : String) : IO IO.FS.Handle := IO.FS.Handle.mk text .append

def stamp : IO Log.Stamp := do
  let now ← Std.Time.PlainDateTime.now
  return ⟨now.format "uuuu-MM-dd", now.format "HH:mm:ss"⟩

def complain (text : String) : OnSystem Unit := do
  let stream ← IO.getStderr
  stream.putStr text
  stream.flush

/-- Lets a handler take a record. -/
def handle (r : Log.Record) (h : Log.Handler) : OnSystem Unit := do
  let line := h.line (← stamp) r
  match h.sink with
  | .console => complain line.shown
  | .file path => match line.string? with
    | none => pure ()
    | some line => let _ ← attempt path fun text => do (← appendHandle text).putStr line

def takeRecord (r : Log.Record) : OnSystem Unit := do
  ((← get).takers r).forM (handle r)

end OnSystem

instance : Host OnSystem where
  currentDirectory := OnSystem.currentDirectory
  isFile p := OnSystem.testType p fun | .file => true | _ => false
  isDirectory p := OnSystem.testType p fun | .dir => true | _ => false
  readBytes p := OnSystem.attempt p fun text => IO.FS.readBinFile text
  makeDirectory p := OnSystem.attempt p fun text => IO.FS.createDir text
  writeBytes p bytes := OnSystem.attempt p fun text => IO.FS.writeBinFile text bytes
  openForAppend p := OnSystem.attempt p fun text => do let _ ← OnSystem.appendHandle text
  start _ := return .refused "programs cannot be started here"
  record r := OnSystem.takeRecord r
  logState := get
  setLogState state := set state
  print text := do
    let stream ← IO.getStdout
    stream.putStr text
    stream.flush
  complain text := OnSystem.complain text

end DeployScript
