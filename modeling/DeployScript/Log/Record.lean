import DeployScript.Text.Basic

/-!
# Log records

A record is a message with a level and the name of the logger that it came through. Levels are
numbers, of which five are named. A line of the log shows a record in one of three layouts, with
the time at which it was made.
-/

namespace DeployScript.Log

/-! ### Levels -/

/-- How much a record matters. -/
abbrev Level := Nat

def Level.debug : Level := 10
def Level.info : Level := 20
def Level.warning : Level := 30
def Level.error : Level := 40
def Level.critical : Level := 50

/-- The names of levels that a setting may give, some levels having two. -/
def levelNames : List (String × Level) :=
  [("DEBUG", .debug), ("INFO", .info), ("WARNING", .warning), ("WARN", .warning),
    ("ERROR", .error), ("CRITICAL", .critical), ("FATAL", .critical), ("NOTSET", 0)]

/-- The capital letter of a letter, as far as an ASCII capital can come out: the dotless `ı` and the
long `ſ` have one too. -/
def capital (c : Char) : Char :=
  if c = 'ı' then 'I' else if c = 'ſ' then 'S' else c.toUpper

/-- The level that a setting names, in any letter case; a warning if it names none. -/
def Level.ofSetting (setting : Option String) : Level :=
  match setting with
  | none => .warning
  | some name => (levelNames.lookup (String.ofList (name.toList.map capital))).getD .warning

def Level.label (level : Level) : String :=
  if level = .debug then "DEBUG"
  else if level = .info then "INFO"
  else if level = .warning then "WARNING"
  else if level = .error then "ERROR"
  else if level = .critical then "CRITICAL"
  else if level = 0 then "NOTSET"
  else s!"Level {level}"

/-! ### Records -/

/-- A message with its level and the name of its logger. -/
structure Record where
  level : Level
  logger : String
  message : Text
deriving DecidableEq, Repr

def Record.debug (logger : String) (message : Text) : Record := ⟨.debug, logger, message⟩
def Record.info (logger : String) (message : Text) : Record := ⟨.info, logger, message⟩
def Record.warning (logger : String) (message : Text) : Record := ⟨.warning, logger, message⟩

/-! ### Lines -/

/-- A moment, as its date and its time of day. -/
structure Stamp where
  date : String
  time : String
deriving DecidableEq, Repr

/-- The first moment of the calendar that clocks count from. -/
def Stamp.epoch : Stamp := ⟨"1970-01-01", "00:00:00"⟩

/-- What a line shows of a record. -/
inductive Layout where
  /-- The message alone. -/
  | plain
  /-- The time, the logger and the message. -/
  | timed
  /-- The time, the level, the logger and the message. -/
  | full
deriving DecidableEq, Repr

/-- Does a line tell the date before the time? -/
inductive Clock where
  | time
  | dateTime
deriving DecidableEq, Repr

def Clock.text (clock : Clock) (stamp : Stamp) : String :=
  match clock with
  | .time => stamp.time
  | .dateTime => stamp.date ++ " " ++ stamp.time

/-- `text` with blanks behind it up to five characters. -/
def padToFive (text : String) : String :=
  text ++ String.ofList (List.replicate (5 - text.length) ' ')

def Record.line (r : Record) (layout : Layout) (clock : Clock) (stamp : Stamp) : Text :=
  let moment := clock.text stamp
  match layout with
  | .plain => r.message ++ "\n"
  | .timed => s!"{moment} [{r.logger}] " ++ r.message ++ "\n"
  | .full => s!"{moment} {padToFive r.level.label} {r.logger}:0 — " ++ r.message ++ "\n"

end DeployScript.Log
