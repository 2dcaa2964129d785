import DeployScript.Environment
import DeployScript.Log.Record
import DeployScript.Path
import DeployScript.Text.Encoding

/-!
# Where records go

The log has a threshold and handlers, which write to the console or to a file. A record passes if
its level reaches the threshold, and is then told to the handlers one after another, each of which
takes those of its own level and above.

`Plan.make` reads the settings: the console level decides how much a line shows, the log file may
be named by the caller or the environment, and its level is its own or that of the console. The
threshold is low enough for both.
-/

namespace DeployScript.Log

/-! ### Handlers -/

/-- Where a handler writes. -/
inductive Sink where
  | console
  | file (path : Path)
deriving DecidableEq

def Sink.path? : Sink → Option Path
  | .console => none
  | .file path => some path

/-- Takes records from a level on and writes them as lines. -/
structure Handler where
  sink : Sink
  level : Level
  layout : Layout
  clock : Clock
deriving DecidableEq

def Handler.takes (h : Handler) (r : Record) : Bool := h.level ≤ r.level

def Handler.line (h : Handler) (stamp : Stamp) (r : Record) : Text :=
  r.line h.layout h.clock stamp

/-- The threshold of the log and its handlers, in the order in which they are told. -/
structure State where
  threshold : Level
  handlers : List Handler
deriving DecidableEq

namespace State

def initial : State := ⟨.warning, []⟩

def clear (s : State) : State := { s with handlers := [] }

def add (h : Handler) (s : State) : State := { s with handlers := s.handlers ++ [h] }

def setThreshold (level : Level) (s : State) : State := { s with threshold := level }

/-- The file that records are written to, if they are written to any. -/
def file (s : State) : Option Path := s.handlers.findSome? fun h => h.sink.path?

/-- Does a record reach the handlers? One of level zero never does. -/
def passes (s : State) (r : Record) : Bool := 0 < r.level && s.threshold ≤ r.level

def takers (s : State) (r : Record) : List Handler :=
  if s.passes r then s.handlers.filter fun h => h.takes r else []

/-- A record is written to no file as long as every handler is one for the console. -/
theorem file_eq_none_iff {s : State} : s.file = none ↔ ∀ h ∈ s.handlers, h.sink = .console := by
  rw [file, List.findSome?_eq_none_iff]
  refine forall₂_congr fun h _ => ?_
  cases h.sink <;> simp [Sink.path?]

theorem mem_handlers_of_mem_takers {s : State} {r : Record} {h : Handler} (hh : h ∈ s.takers r) :
    h ∈ s.handlers := by
  rw [takers] at hh
  split at hh
  · exact (List.mem_filter.1 hh).1
  · simp at hh

end State

/-! ### Settings -/

structure Settings where
  level : Option String
  file : Option String
  fileLevel : Option String
deriving DecidableEq, Repr

def Settings.default : Settings := ⟨some "WARNING", none, none⟩

/-- What settings ask for: a handler for the console, and the level and the path, as it was given,
of one for a file. -/
structure Plan where
  console : Handler
  file : Option (Level × String)
deriving DecidableEq

/-- The console handler at a level: the lower the level, the more a line shows. -/
def consoleHandler (level : Level) : Handler :=
  if level ≤ .debug then ⟨.console, level, .full, .time⟩
  else if level ≤ .info then ⟨.console, level, .timed, .time⟩
  else ⟨.console, level, .plain, .time⟩

def fileHandler (level : Level) (path : Path) : Handler := ⟨.file path, level, .full, .dateTime⟩

/-- The handlers that the settings ask for, the environment standing in for those not given. -/
def Plan.make (settings : Settings) (env : Environment) : Plan :=
  let level := Level.ofSetting settings.level
  let file := (settings.file.filter (· != "")) <|> env.nonEmpty? logFileVariable
  let fileLevel := (settings.fileLevel.filter (· != "")) <|> env.nonEmpty? logFileLevelVariable
  { console := consoleHandler level
    file := file.map fun path =>
      (match fileLevel with | some name => .ofSetting (some name) | none => level, path) }

/-- The threshold that keeps nothing from the handlers. -/
def Plan.threshold (plan : Plan) : Level :=
  match plan.file with
  | some (level, _) => min plan.console.level level
  | none => plan.console.level

/-! ### Console level -/

/-- The options that set the console level. -/
structure Verbosity where
  debug : Bool
  verbose : Bool
  quiet : Bool
deriving DecidableEq, Repr

/-- The name of the console level: that of the strongest option, else that of the environment. -/
def Verbosity.levelName (v : Verbosity) (env : Environment) : String :=
  if v.debug then "DEBUG"
  else if v.verbose then "INFO"
  else if v.quiet then "ERROR"
  else (env.get? logLevelVariable).getD "WARNING"

end DeployScript.Log
