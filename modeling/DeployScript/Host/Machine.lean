import DeployScript.Files.Tree
import DeployScript.Host

/-!
# Machines

A machine is a host as a value: a file tree, the outcomes of the programs to be started, and what
has been started, recorded and printed so far. Programs do not touch its files.
-/

namespace DeployScript

/-- A host as a value. -/
structure Machine where
  tree : FileTree
  /-- The current directory. -/
  directory : Standing
  /-- The outcomes of the next starts; later programs end well and say nothing. -/
  outcomes : List Outcome
  /-- The programs started, first to last. -/
  starts : List Start
  /-- Every record handed to the log, first to last. -/
  records : List Log.Record
  log : Log.State
  /-- What was written to standard output. -/
  output : String
  /-- What was written to standard error. -/
  errors : String
  /-- The time, which stands still. -/
  stamp : Log.Stamp

namespace Machine

/-- A machine with a file tree and a current directory, before anything is run. -/
def ofTree (tree : FileTree) (directory : Location) : Machine :=
  { tree, directory := .on directory, outcomes := [], starts := [], records := []
    log := .initial, output := "", errors := "", stamp := .epoch }

def fileError (p : Path) (cause : FileCause) : FileError := ⟨cause, p.text⟩

def directoryPath (w : Machine) : Except FileError Path :=
  if w.directory.lost > 0 then .error (fileError .here .missing)
  else .ok (Path.resolve .top (.parse (Text.join "/" w.directory.location)))

/-- Is there a node at the path that `test` holds of? -/
def testNode (w : Machine) (p : Path) (test : FileNode → Bool) : Except FileError Bool :=
  match w.tree.find w.directory p with
  | .ok node => .ok (test node)
  | .error .missing => .ok false
  | .error .notDirectory => .ok false
  | .error cause => .error (fileError p cause)

def withTree (w : Machine) (p : Path) :
    Except FileCause FileTree → Except FileError Unit × Machine
  | .ok tree => (.ok (), { w with tree })
  | .error cause => (.error (fileError p cause), w)

/-- Starts a program, taking the next outcome. -/
def runProgram (w : Machine) (s : Start) : Outcome × Machine :=
  (w.outcomes.head?.getD .silent,
    { w with outcomes := w.outcomes.tail, starts := w.starts ++ [s] })

/-- The machine after a handler took a record. A broken line is not written to a file. -/
def handle (r : Log.Record) (w : Machine) (h : Log.Handler) : Machine :=
  let line := h.line w.stamp r
  match h.sink with
  | .console => { w with errors := w.errors ++ line.shown }
  | .file path => match line.string? with
    | none => w
    | some text => (w.withTree path (w.tree.append w.directory path text.toUTF8)).2

/-- The machine after a record was handed to the log. -/
def takeRecord (w : Machine) (r : Log.Record) : Machine :=
  (w.log.takers r).foldl (handle r) { w with records := w.records ++ [r] }

end Machine

/-- What a machine does. -/
abbrev OnMachine := StateM Machine

instance : Host OnMachine where
  currentDirectory := do return (← get).directoryPath
  isFile p := do return (← get).testNode p FileNode.isFile
  isDirectory p := do return (← get).testNode p FileNode.isDirectory
  readBytes p := do
    let w ← get
    return (w.tree.read w.directory p).mapError (Machine.fileError p)
  makeDirectory p := fun w => w.withTree p (w.tree.makeDirectory w.directory p)
  writeBytes p bytes := fun w => w.withTree p (w.tree.write w.directory p bytes)
  openForAppend p := fun w => w.withTree p (w.tree.append w.directory p ByteArray.empty)
  start s := fun w => w.runProgram s
  record r := fun w => ((), w.takeRecord r)
  logState := do return (← get).log
  setLogState log := modify fun w => { w with log }
  print text := modify fun w => { w with output := w.output ++ text }
  complain text := modify fun w => { w with errors := w.errors ++ text }

end DeployScript
