import DeployScript.Json.Basic
import DeployScript.Numeric.Shortest
import DeployScript.Text.Digit

/-!
# Writing JSON

`Json.render` writes a value over several lines, each level indented by two blanks, and in ASCII
alone: any other character, and every control character, is written by its UTF-16 units.
-/

namespace DeployScript.Json

open DeployScript.Text (toHex)

def escapeUnit (n : Nat) : List Char := '\\' :: 'u' :: toHex 4 n

def escapeChar (c : Char) : List Char :=
  if c = '"' then ['\\', '"']
  else if c = '\\' then ['\\', '\\']
  else if c = '\n' then ['\\', 'n']
  else if c = '\r' then ['\\', 'r']
  else if c = '\t' then ['\\', 't']
  else if c = '\x08' then ['\\', 'b']
  else if c = '\x0c' then ['\\', 'f']
  else if 0x20 ≤ c.toNat ∧ c.toNat < 0x7f then [c]
  else if c.toNat < 0x10000 then escapeUnit c.toNat
  else
    let n := c.toNat - 0x10000
    escapeUnit (0xd800 + n / 0x400) ++ escapeUnit (0xdc00 + n % 0x400)

/-- A code point inside a string. Half of a surrogate pair is a unit by itself. -/
def escapePoint : CodePoint → List Char
  | .char c => escapeChar c
  | .half offset => escapeUnit (CodePoint.half offset).number

def quote (text : Text) : String := String.ofList ('"' :: (text.flatMap escapePoint ++ ['"']))

/-- The start of a line at a depth. -/
def newLine (depth : Nat) : String := String.ofList ('\n' :: List.replicate (2 * depth) ' ')

/-- The items of a bracket, each on a line of its own. -/
def bracketed (opening closing : String) (depth : Nat) (items : List String) : String :=
  if items.isEmpty then opening ++ closing
  else
    opening ++ newLine (depth + 1) ++ (("," ++ newLine (depth + 1)).intercalate items) ++
      newLine depth ++ closing

def numberText : Numeric.Binary64 → String
  | .nan => "NaN"
  | .infinite negative => if negative then "-Infinity" else "Infinity"
  | x => x.toText

mutual

def renderAt (depth : Nat) : Json → String
  | .null => "null"
  | .bool b => if b then "true" else "false"
  | .int i => toString i
  | .number x => numberText x
  | .string text => quote text
  | .array items => bracketed "[" "]" depth (renderItems (depth + 1) items)
  | .object members => bracketed "\x7b" "\x7d" depth (renderMembers (depth + 1) members)

def renderItems (depth : Nat) : List Json → List String
  | [] => []
  | item :: rest => renderAt depth item :: renderItems depth rest

def renderMembers (depth : Nat) : List (Text × Json) → List String
  | [] => []
  | (name, value) :: rest =>
    (quote name ++ ": " ++ renderAt depth value) :: renderMembers depth rest

end

/-- A value over several lines, in ASCII. -/
def render (value : Json) : String := renderAt 0 value

end DeployScript.Json
