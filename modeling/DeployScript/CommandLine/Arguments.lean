import DeployScript.Text.Quoted

/-!
# Command line arguments

A command line is options and arguments in any order. An option has one spelling or more; a long one
may take its value after an equals sign, short ones may be written together, and the last of them
may have its value written right behind it. Two hyphens end the options.

`Given.parse` sorts the arguments out. What an option means, and which values are acceptable, is
settled afterwards.
-/

namespace DeployScript.CommandLine

/-- What an option is about. -/
inductive Setting where
  | version
  | output
  | name
  | config
  | noBuild
  | noFormat
  | json
  | verbose
  | quiet
  | debug
  | help
deriving DecidableEq, Repr

namespace Setting

def all : List Setting :=
  [.version, .output, .name, .config, .noBuild, .noFormat, .json, .verbose, .quiet, .debug, .help]

def spellings : Setting → List String
  | .version => ["-v", "--version"]
  | .output => ["-o", "--output"]
  | .name => ["-n", "--name"]
  | .config => ["--config"]
  | .noBuild => ["--no-build"]
  | .noFormat => ["--no-format"]
  | .json => ["--json-output", "--json"]
  | .verbose => ["--verbose"]
  | .quiet => ["--quiet"]
  | .debug => ["--debug"]
  | .help => ["-h", "--help"]

def takesValue : Setting → Bool
  | .output | .name | .config => true
  | _ => false

def ofSpelling? (spelling : String) : Option Setting :=
  all.find? fun s => s.spellings.contains spelling

/-- The option as it is named in an error: all its spellings. -/
def label (s : Setting) : String :=
  " / ".intercalate (s.spellings.map fun (spelling : String) => Text.quoted spelling)

end Setting

/-- What is wrong with a command line. -/
inductive UsageError where
  | unknownOption (spelling : String)
  | missingValue (spelling : String)
  | unexpectedValue (spelling : String)
  /-- The value of an option is not acceptable. -/
  | badValue (setting : Setting) (reason : String)
  | extraArguments (arguments : List String)
deriving DecidableEq, Repr

def UsageError.message : UsageError → String
  | .unknownOption spelling => s!"No such option {Text.quoted spelling}."
  | .missingValue spelling => s!"Option {Text.quoted spelling} requires an argument."
  | .unexpectedValue spelling => s!"Option {Text.quoted spelling} does not take a value."
  | .badValue setting reason => s!"Invalid value for {setting.label}: {reason}"
  | .extraArguments [argument] => s!"Got unexpected extra argument ({argument})"
  | .extraArguments arguments =>
    "Got unexpected extra arguments (" ++ " ".intercalate arguments ++ ")"

def UsageError.showsUsage : UsageError → Bool
  | .missingValue _ | .unexpectedValue _ => false
  | _ => true

/-! ### Options in one argument -/

/-- An option with its value, if it takes one. -/
abbrev Occurrence := Setting × Option String

/-- What one argument that starts with a hyphen holds. -/
structure OptionText where
  /-- The options that are complete. -/
  complete : List Occurrence
  /-- An option at the end whose value is the next argument, and its spelling. -/
  open? : Option (Setting × String)
deriving DecidableEq, Repr

/-- Is the argument made of options: a hyphen and something after it? -/
def isOption (argument : String) : Bool :=
  match argument.toList with
  | '-' :: _ :: _ => true
  | _ => false

/-- The text before the first equals sign, and the one after it if there is one. -/
def splitEquals (argument : String) : String × Option String :=
  let cs := argument.toList
  if cs.contains '=' then
    (String.ofList (cs.takeWhile (· != '=')),
      some (String.ofList ((cs.dropWhile (· != '=')).drop 1)))
  else (argument, none)

def longOption? (spelling : String) : Option Setting :=
  if "--".toList.isPrefixOf spelling.toList then Setting.ofSpelling? spelling else none

/-- What an argument holds that is the long option `s`. -/
def longText (s : Setting) (spelling : String) (value : Option String) :
    Except UsageError OptionText :=
  if s.takesValue then
    match value with
    | some v => .ok ⟨[(s, some v)], none⟩
    | none => .ok ⟨[], some (s, spelling)⟩
  else match value with
    | some _ => .error (.unexpectedValue spelling)
    | none => .ok ⟨[(s, none)], none⟩

def shortSpelling (c : Char) : String := String.ofList ['-', c]

/-- What the short options of one argument hold. -/
def shortTexts : List Char → Except UsageError OptionText
  | [] => .ok ⟨[], none⟩
  | c :: rest =>
    match Setting.ofSpelling? (shortSpelling c) with
    | none => .error (.unknownOption (shortSpelling c))
    | some s =>
      if s.takesValue then
        if rest.isEmpty then .ok ⟨[], some (s, shortSpelling c)⟩
        else .ok ⟨[(s, some (String.ofList rest))], none⟩
      else (shortTexts rest).map fun t => { t with complete := (s, none) :: t.complete }

def optionText (argument : String) : Except UsageError OptionText :=
  let (spelling, value) := splitEquals argument
  match longOption? spelling with
  | some s => longText s spelling value
  | none =>
    if "--".toList.isPrefixOf argument.toList then .error (.unknownOption spelling)
    else shortTexts (argument.toList.drop 1)

/-! ### Whole command lines -/

/-- A command line, sorted out. -/
structure Given where
  /-- The options in order. -/
  options : List Occurrence
  /-- The other arguments in order. -/
  arguments : List String
deriving DecidableEq, Repr

namespace Given

def withOptions (options : List Occurrence) (g : Given) : Given :=
  { g with options := options ++ g.options }

def withArgument (argument : String) (g : Given) : Given :=
  { g with arguments := argument :: g.arguments }

/-- Sorts a command line out. The first error in it counts. -/
def parse : List String → Except UsageError Given
  | [] => .ok ⟨[], []⟩
  | [argument] =>
    if argument = "--" then .ok ⟨[], []⟩
    else if isOption argument then
      (optionText argument).bind fun t =>
        match t.open? with
        | none => .ok ⟨t.complete, []⟩
        | some (_, spelling) => .error (.missingValue spelling)
    else .ok ⟨[], [argument]⟩
  | argument :: next :: rest =>
    if argument = "--" then .ok ⟨[], next :: rest⟩
    else if isOption argument then
      (optionText argument).bind fun t =>
        match t.open? with
        | none => (parse (next :: rest)).map (withOptions t.complete)
        | some (s, _) => (parse rest).map (withOptions (t.complete ++ [(s, some next)]))
    else (parse (next :: rest)).map (withArgument argument)

def has (g : Given) (s : Setting) : Bool := g.options.any fun o => o.1 == s

/-- The value of an option, the last one if it is given more than once. -/
def value? (g : Given) (s : Setting) : Option String :=
  (g.options.reverse.find? fun o => o.1 == s).bind (·.2)

/-- The options that are given, each where it comes up first. -/
def settings (g : Given) : List Setting := (g.options.map (·.1)).eraseDups

/-- The first of the options that only ask for a text to be shown. -/
def request? (g : Given) : Option Setting :=
  g.settings.find? fun s => s == .version || s == .help

end Given

end DeployScript.CommandLine
