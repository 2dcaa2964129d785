import DeployScript.Text.Basic
import DeployScript.Text.Digit

/-!
# YAML tags

A tag says what a node stands for. A plain scalar without one has the tag that its text looks like,
and everything without a tag has the one of its shape.

What a text looks like is decided by small patterns over its characters. Each pattern is a function
from the text to the texts that may be left behind it; a text looks like the pattern if nothing may
be left.
-/

namespace DeployScript.Yaml

/-- What a node stands for. -/
inductive Tag where
  | null
  | bool
  | int
  | float
  | binary
  | timestamp
  | orderedMap
  | pairs
  | set
  | text
  | sequence
  | mapping
  | merge
  | value
  | other (name : String)
deriving DecidableEq, Repr

/-- What the names of the standard tags start with. -/
def standardStart : String := "tag:yaml.org,2002:"

def standardTags : List (String × Tag) :=
  [("null", .null), ("bool", .bool), ("int", .int), ("float", .float), ("binary", .binary),
    ("timestamp", .timestamp), ("omap", .orderedMap), ("pairs", .pairs), ("set", .set),
    ("str", .text), ("seq", .sequence), ("map", .mapping), ("merge", .merge), ("value", .value)]

def Tag.ofName (name : String) : Tag :=
  (standardTags.findSome? fun (short, tag) =>
    if name = standardStart ++ short then some tag else none).getD (.other name)

/-! ### Patterns -/

/-- A pattern: from a text to what may be left of it. -/
abbrev Pattern := List Char → List (List Char)

namespace Pattern

def one (p : Char → Bool) : Pattern
  | c :: rest => if p c then [rest] else []
  | [] => []

def many (p : Char → Bool) : Pattern
  | c :: rest => (c :: rest) :: if p c then many p rest else []
  | [] => [[]]

def andThen (a b : Pattern) : Pattern := fun cs => (a cs).flatMap b

def maybe (a : Pattern) : Pattern := fun cs => a cs ++ [cs]

def either (a b : Pattern) : Pattern := fun cs => a cs ++ b cs

def all (ps : List Pattern) : Pattern := ps.foldr andThen fun cs => [cs]

/-- At least one time, at most `fuel` times. -/
def repeated (a : Pattern) : Nat → Pattern
  | 0 => fun _ => []
  | fuel + 1 => fun cs => (a cs).flatMap fun rest => rest :: repeated a fuel rest

def char (c : Char) : Pattern := one (· == c)

def digit : Pattern := one Char.isDigit

def sign : Pattern := maybe (one fun c => c == '-' || c == '+')

def matchesAll (a : Pattern) (cs : List Char) : Bool := (a cs).any List.isEmpty

end Pattern

open Pattern

def isLooseDigit (c : Char) : Bool := c.isDigit || c == '_'

def isLeadingDigit (c : Char) : Bool := c.isDigit && c != '0'

/-- A colon and a number below sixty. -/
def sixtieth : Pattern :=
  all [char ':', maybe (one fun c => '0' ≤ c && c ≤ '5'), digit]

def signedExponent : Pattern :=
  all [one fun c => c == 'e' || c == 'E', one fun c => c == '-' || c == '+', digit,
    many Char.isDigit]

def intForms (size : Nat) : List Pattern :=
  [ all [sign, char '0', char 'b', one isBit, many isBit],
    all [sign, char '0', one isOctal, many isOctal],
    all [sign, char '0'],
    all [sign, one isLeadingDigit, many isLooseDigit],
    all [sign, char '0', char 'x', one isHex, many isHex],
    all [sign, one isLeadingDigit, many isLooseDigit, repeated sixtieth size] ]
where
  isBit c := c == '0' || c == '1' || c == '_'
  isOctal c := ('0' ≤ c && c ≤ '7') || c == '_'
  isHex c := (Text.hexValue? c).isSome || c == '_'

def floatForms (size : Nat) : List Pattern :=
  [ all [sign, digit, many isLooseDigit, char '.', many isLooseDigit, maybe signedExponent],
    all [char '.', digit, many isLooseDigit, maybe signedExponent],
    all [sign, digit, many isLooseDigit, repeated sixtieth size, char '.', many isLooseDigit] ]

def twoDigits : Pattern := all [digit, digit]

def oneOrTwoDigits : Pattern := all [digit, maybe digit]

/-- A space or a tab. -/
def isTimeBlank (c : Char) : Bool := c == ' ' || c == '\t'

/-- What stands between a date and a time. -/
def dateTimeGap : Pattern :=
  either (one fun c => c == 'T' || c == 't') (all [one isTimeBlank, many isTimeBlank])

def timeZone : Pattern :=
  all [many isTimeBlank,
    either (char 'Z') (all [one fun c => c == '-' || c == '+', oneOrTwoDigits,
      maybe (all [char ':', twoDigits])])]

def timestampForms : List Pattern :=
  [ all [twoDigits, twoDigits, char '-', twoDigits, char '-', twoDigits],
    all [twoDigits, twoDigits, char '-', oneOrTwoDigits, char '-', oneOrTwoDigits, dateTimeGap,
      oneOrTwoDigits, char ':', twoDigits, char ':', twoDigits,
      maybe (all [char '.', many Char.isDigit]), maybe timeZone] ]

def flagWords : List String :=
  ["yes", "Yes", "YES", "no", "No", "NO", "true", "True", "TRUE", "false", "False", "FALSE", "on",
    "On", "ON", "off", "Off", "OFF"]

def nullWords : List String := ["~", "null", "Null", "NULL", ""]

def specialNumbers : List String :=
  [".inf", ".Inf", ".INF", "+.inf", "+.Inf", "+.INF", "-.inf", "-.Inf", "-.INF", ".nan", ".NaN",
    ".NAN"]

/-- The words that look like a part of YAML itself, which is the value of nothing. -/
def indicatorWords : List String := ["!", "&", "*"]

/-- The tag that a text without a line end looks like. -/
def Tag.ofLine (cs : List Char) : Tag :=
  let word := String.ofList cs
  if indicatorWords.contains word then .other (standardStart ++ "yaml")
  else if flagWords.contains word then .bool
  else if nullWords.contains word then .null
  else if specialNumbers.contains word then .float
  else if word = "<<" then .merge
  else if word = "=" then .value
  else if (floatForms cs.length).any (matchesAll · cs) then .float
  else if (intForms cs.length).any (matchesAll · cs) then .int
  else if timestampForms.any (matchesAll · cs) then .timestamp
  else .text

/-- The text without a line end at its end, if there is one. -/
def dropFinalLineEnd (cs : List Char) : List Char :=
  if cs.getLast? = some '\n' then cs.dropLast else cs

/-- The tag that the text of a scalar looks like. One line end after it does not count, but a line
end alone looks like a text, and so does a broken text. -/
def Tag.ofPlain (t : Text) : Tag :=
  match t.chars? with
  | some cs => if cs = ['\n'] then .text else .ofLine (dropFinalLineEnd cs)
  | none => .text

end DeployScript.Yaml
