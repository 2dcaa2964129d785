import DeployScript.Depths
import DeployScript.Json.Basic
import DeployScript.Text.Digit
import DeployScript.Text.Literal

/-!
# Reading JSON

`Json.read` reads a whole text as one JSON value. What goes wrong is a `Problem` at a place, and a
place is told by its line, its column and its offset, all counted in characters. Beyond the
standard, `NaN`, `Infinity` and `-Infinity` are numbers.

The readers below take what is left of the text and return what is left after them; an error keeps
how many characters were left at its place. Values that are nested too deeply are refused as soon as
the bracket of the innermost one is met.
-/

namespace DeployScript.Json

open DeployScript.Numeric (Binary64)
open DeployScript.Text (dropWord? ofDigits ofHex?)

inductive Problem where
  | byteOrderMark
  | value
  | memberName
  | colon
  | comma
  | extraData
  | openString
  | controlCharacter
  | escape
  | unicodeEscape
deriving DecidableEq, Repr

def Problem.message : Problem → String
  | .byteOrderMark => "Unexpected UTF-8 BOM (decode using utf-8-sig)"
  | .value => "Expecting value"
  | .memberName => "Expecting property name enclosed in double quotes"
  | .colon => "Expecting ':' delimiter"
  | .comma => "Expecting ',' delimiter"
  | .extraData => "Extra data"
  | .openString => "Unterminated string starting at"
  | .controlCharacter => "Invalid control character at"
  | .escape => "Invalid \\escape"
  | .unicodeEscape => "Invalid \\uXXXX escape"

/-- Why a text is not read: a problem with `left` characters after its place, an integer with more
digits than are converted, or more values inside each other than are read. -/
inductive Fault where
  | problem (what : Problem) (left : Nat)
  | longInteger
  | nestedTooDeeply
deriving DecidableEq, Repr

/-- What a reader gives back: what it read and what is left of the text. -/
abbrev Read (α : Type) := α × List Char

/-- Fails at the place where `rest` is what is left. -/
def fail {α : Type} (what : Problem) (rest : List Char) : Except Fault α :=
  .error (.problem what rest.length)

def isSpace (c : Char) : Bool := c == ' ' || c == '\t' || c == '\n' || c == '\r'

def skipSpace (cs : List Char) : List Char := cs.dropWhile isSpace

/-! ### Strings -/

def unit? (cs : List Char) : Option (Nat × List Char) :=
  if (cs.take 4).length = 4 then (ofHex? (cs.take 4)).map (·, cs.drop 4) else none

/-- Does the unit open a surrogate pair? -/
def isHighSurrogate (n : Nat) : Bool := 0xd800 ≤ n && n ≤ 0xdbff

/-- Does the unit close a surrogate pair? -/
def isLowSurrogate (n : Nat) : Bool := 0xdc00 ≤ n && n ≤ 0xdfff

/-- The character after a backslash other than `u`. -/
def simpleEscape? : Char → Option Char
  | '"' => some '"'
  | '\\' => some '\\'
  | '/' => some '/'
  | 'b' => some '\x08'
  | 'f' => some '\x0c'
  | 'n' => some '\n'
  | 'r' => some '\r'
  | 't' => some '\t'
  | _ => none

/-- The number of the code point after `\u`, `rest` being what follows the `u`. A high surrogate
takes the low one written after it; one that is left alone stands for itself. At least one character
has to follow. -/
def unicodeEscape (rest : List Char) : Except Fault (Read Nat) :=
  let here := 'u' :: rest
  match unit? rest with
  | none => fail .unicodeEscape here
  | some (_, []) => fail .unicodeEscape here
  | some (n, after) =>
    match after with
    | '\\' :: 'u' :: low =>
      if isHighSurrogate n && decide (after.length > 6) then
        match unit? low with
        | none => fail .unicodeEscape ('u' :: low)
        | some (m, done) =>
          if isLowSurrogate m then
            .ok (0x10000 + (n - 0xd800) * 0x400 + (m - 0xdc00), done)
          else .ok (n, after)
      else .ok (n, after)
    | _ => .ok (n, after)

/-- The rest of a string up to its closing quote, `points` being what stands before it, in reverse.
`opening` is what was left before the opening quote. -/
def readPoints (opening : List Char) : Nat → Text → List Char → Except Fault (Read Text)
  | 0, _, _ => fail .openString opening
  | _ + 1, _, [] => fail .openString opening
  | fuel + 1, points, c :: rest =>
    if c = '"' then .ok (points.reverse, rest)
    else if c = '\\' then
      match rest with
      | [] => fail .openString opening
      | 'u' :: digits => do
        let (n, after) ← unicodeEscape digits
        match CodePoint.ofNumber? n with
        | some point => readPoints opening fuel (point :: points) after
        | none => fail .unicodeEscape rest
      | e :: after =>
        match simpleEscape? e with
        | some d => readPoints opening fuel (d :: points) after
        | none => fail .escape (c :: rest)
    else if c.toNat ≤ 0x1f then fail .controlCharacter (c :: rest)
    else readPoints opening fuel (c :: points) rest

def readString (fuel : Nat) (rest : List Char) : Except Fault (Read Text) :=
  readPoints ('"' :: rest) fuel [] rest

/-! ### Numbers -/

/-- Integers with more digits are not converted. -/
def maxIntegerDigits : Nat := 4300

def spanDigits (cs : List Char) : List Char × List Char := cs.span Char.isDigit

/-- The digits of the integer part: a zero stands alone. -/
def integerPart (cs : List Char) : List Char × List Char :=
  match cs with
  | '0' :: rest => (['0'], rest)
  | _ => spanDigits cs

/-- The digits after a point, if at least one follows it. -/
def fractionPart (cs : List Char) : List Char × List Char :=
  match cs with
  | '.' :: rest => if (spanDigits rest).1.isEmpty then ([], cs) else spanDigits rest
  | _ => ([], cs)

/-- The exponent after an `e`, if at least one digit follows it. -/
def exponentPart (cs : List Char) : Option Int × List Char :=
  match cs with
  | e :: rest =>
    if e = 'e' ∨ e = 'E' then
      let (negative, digits) := match rest with
        | '-' :: r => (true, r)
        | '+' :: r => (false, r)
        | r => (false, r)
      let (ds, after) := spanDigits digits
      if ds.isEmpty then (none, cs)
      else (some (if negative then -(ofDigits ds : Int) else ofDigits ds), after)
    else (none, cs)
  | [] => (none, cs)

def readNumber (start : List Char) : Except Fault (Read Json) :=
  let (negative, unsigned) := match start with
    | '-' :: rest => (true, rest)
    | _ => (false, start)
  let (whole, afterWhole) := integerPart unsigned
  if whole.isEmpty then fail .value start
  else
    let (fraction, afterFraction) := fractionPart afterWhole
    let (exponent?, rest) := exponentPart afterFraction
    if fraction.isEmpty && exponent?.isNone then
      if whole.length > maxIntegerDigits then .error .longInteger
      else
        let n : Int := ofDigits whole
        .ok (.int (if negative then -n else n), rest)
    else
      let exponent := exponent?.getD 0 - fraction.length
      .ok (.number (.ofDecimal negative (ofDigits (whole ++ fraction)) exponent), rest)

/-! ### Values -/

def words : List (String × Json) :=
  [("null", .null), ("true", .bool true), ("false", .bool false), ("NaN", .number .nan),
    ("Infinity", .number (.infinite false)), ("-Infinity", .number (.infinite true))]

def word? (cs : List Char) : Option (Json × List Char) :=
  words.findSome? fun (w, value) => (dropWord? w.toList cs).map (value, ·)

/-- What is inside an array or an object, read with one less of the `room` for more of them. -/
def enter {α : Type} (room : Nat) (inside : Nat → Except Fault α) : Except Fault α :=
  match room with
  | 0 => .error .nestedTooDeeply
  | room + 1 => inside room

mutual

/-- One value at the front of the text, with `room` for so many arrays and objects inside each
other. -/
def readValue : Nat → Nat → List Char → Except Fault (Read Json)
  | 0, _, cs => fail .value cs
  | fuel + 1, room, cs =>
    match cs with
    | [] => fail .value cs
    | '"' :: rest => do
      let (text, after) ← readString fuel rest
      return (.string text, after)
    | '{' :: rest => enter room fun room =>
      match skipSpace rest with
      | '}' :: after => .ok (.object [], after)
      | inside => readMembers fuel room [] inside
    | '[' :: rest => enter room fun room =>
      match skipSpace rest with
      | ']' :: after => .ok (.array [], after)
      | inside => readItems fuel room [] inside
    | _ =>
      match word? cs with
      | some found => .ok found
      | none => readNumber cs

/-- The items of an array from one of them on, `items` being those before it, in reverse. -/
def readItems : Nat → Nat → List Json → List Char → Except Fault (Read Json)
  | 0, _, _, cs => fail .value cs
  | fuel + 1, room, items, cs => do
    let (item, after) ← readValue fuel room cs
    match skipSpace after with
    | ']' :: rest => .ok (.array (item :: items).reverse, rest)
    | ',' :: rest => readItems fuel room (item :: items) (skipSpace rest)
    | rest => fail .comma rest

/-- The members of an object from one of them on, `members` being those before it. -/
def readMembers : Nat → Nat → List (Text × Json) → List Char → Except Fault (Read Json)
  | 0, _, _, cs => fail .memberName cs
  | fuel + 1, room, members, cs =>
    match cs with
    | '"' :: quoted => do
      let (name, afterName) ← readString fuel quoted
      match skipSpace afterName with
      | ':' :: afterColon =>
        let (value, after) ← readValue fuel room (skipSpace afterColon)
        let members := setMember name value members
        match skipSpace after with
        | '}' :: rest => .ok (.object members, rest)
        | ',' :: rest => readMembers fuel room members (skipSpace rest)
        | rest => fail .comma rest
      | rest => fail .colon rest
    | _ => fail .memberName cs

end

/-! ### Whole texts -/

/-- Where a problem is, counted in characters: the offset from zero, line and column from one. -/
structure Place where
  line : Nat
  column : Nat
  offset : Nat
deriving DecidableEq, Repr

/-- The place with `left` characters of `cs` after it. -/
def placeOf (cs : List Char) (left : Nat) : Place :=
  let before := cs.take (cs.length - left)
  { line := before.count '\n' + 1
    column := (before.reverse.takeWhile (· != '\n')).length + 1
    offset := before.length }

/-- Why a text is not a JSON value. -/
inductive ReadError where
  | malformed (what : Problem) (place : Place)
  | longInteger
  | nestedTooDeeply
deriving DecidableEq, Repr

def malformedMessage (what : Problem) (place : Place) : String :=
  s!"{what.message}: line {place.line} column {place.column} (char {place.offset})"

/-- The value that all of `cs` writes, with `room` for so many arrays and objects inside each
other. -/
def readAll (room : Nat) (cs : List Char) : Except Fault Json := do
  if cs.head? = some '\uFEFF' then fail .byteOrderMark cs
  else
    let (value, after) ← readValue (2 * cs.length + 2) room (skipSpace cs)
    match skipSpace after with
    | [] => .ok value
    | rest => fail .extraData rest

/-- Reads a text as one JSON value, with `room` for so many arrays and objects inside each other. -/
def readWithin (room : Nat) (text : String) : Except ReadError Json :=
  match readAll room text.toList with
  | .ok value => .ok value
  | .error (.problem what left) => .error (.malformed what (placeOf text.toList left))
  | .error .longInteger => .error .longInteger
  | .error .nestedTooDeeply => .error .nestedTooDeeply

def read [Depths] (text : String) : Except ReadError Json := readWithin Depths.json text

end DeployScript.Json
