import DeployScript.Config.Basic
import DeployScript.Files.Access
import DeployScript.Yaml.Value

/-!
# Loading configurations

A configuration is read from a file that is named, or from the nearest one above the current
directory; without any the defaults hold. The paths in a file are meant from the directory that the
file is in.
-/

namespace DeployScript.Config

variable {m : Type → Type} [Monad m] [Host m] [Depths]

def logger : String := "deployer_kit.core.config.loader"

def fileName : String := "deployer-kit.yml"

/-- How many directories are looked into. -/
def searchLimit : Nat := 20

/-- The first path that a file is at. -/
def firstFile : List Path → Action m (Option Path)
  | [] => return none
  | p :: rest => do
    if ← Action.isFile p then return some p else firstFile rest

/-- The places where a configuration for a directory may be, nearest first. -/
def candidates (directory : Path) : List Path :=
  (directory.ancestors searchLimit).map fun p => p.child fileName

/-- The nearest configuration file above a directory, by default the current one. -/
def find? (start : Option Path) : Action m (Option Path) := do
  let start := start.getD .here
  Action.checkPath start
  firstFile (candidates (← Action.absolute start))

def fail {α : Type} (e : Error) : Action m α := Action.fail (.config e)

/-- The configuration in a document; `path` is where it was read, for errors. -/
def ofContent (path : Text) (d : Document) : Except Error Config :=
  match d with
  | .mapping _ | .null =>
    match Config.ofDocument (match d with | .null => .mapping [] | d => d) with
    | .ok c => .ok c
    | .error issues => .error (.invalid path issues)
  | d => .error (.notMapping path d.kindName)

/-- The configuration that a text writes; `path` is where it was read, for errors. -/
def ofText (path : Text) (text : String) : Except Abort Config :=
  match Yaml.read Config.depth text with
  | .error (.problem what place) => .error (.failure (.config (.invalidYaml path what place)))
  | .error (.crash c) => .error (.crash c)
  | .ok d => (ofContent path d).mapError fun e => .failure (.config e)

def loadFile (p : Path) : Action m Config := do
  Action.record (.debug logger ("Loading config from " ++ p.text))
  match ← Action.readText p with
  | .error e => fail (.unreadable p.text e)
  | .ok text =>
    let c ← ExceptT.mk (pure (ofText p.text text))
    return c.anchor (← Action.absolute p.parent)

/-- The configuration in the file `path`, or if none is named, in the nearest one where `search`
allows to look for it. -/
def load (path : Option Path) (search : Bool) : Action m Config := do
  match path with
  | some p =>
    if ← Action.isFile p then loadFile p else fail (.notFound p.text)
  | none =>
    match ← if search then find? none else pure none with
    | some p => loadFile p
    | none =>
      Action.record (.debug logger s!"No {fileName} found, using defaults")
      return .default

end DeployScript.Config
