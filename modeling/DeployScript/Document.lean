import DeployScript.Json.Basic

/-!
# Documents

What a file in one of the data formats says once it is read: a tree of scalars, lists and mappings.
JSON gives a part of it, with texts as keys; YAML gives all of it.
-/

namespace DeployScript

open Numeric (Binary64)

/-- A tree of data. -/
inductive Document where
  | null
  | bool (value : Bool)
  | int (value : Int)
  | number (value : Binary64)
  | text (value : Text)
  | bytes (value : ByteArray)
  /-- A day, counted from the first one of the calendar on. -/
  | date (day : Nat)
  /-- A moment, in microseconds of universal time if it is `zoned`, else of no known zone. -/
  | dateTime (zoned : Bool) (microsecond : Int)
  | list (items : List Document)
  /-- The members of a set. -/
  | set (members : List Document)
  | mapping (entries : List (Document × Document))
  /-- A collection that lies deeper than was looked. -/
  | unseen

namespace Document

mutual

def ofJson : Json → Document
  | .null => .null
  | .bool b => .bool b
  | .int i => .int i
  | .number x => .number x
  | .string s => .text s
  | .array items => .list (ofJsonItems items)
  | .object members => .mapping (ofJsonMembers members)

def ofJsonItems : List Json → List Document
  | [] => []
  | item :: rest => ofJson item :: ofJsonItems rest

/-- The members of a JSON object as entries with texts as keys. -/
def ofJsonMembers : List (Text × Json) → List (Document × Document)
  | [] => []
  | (name, value) :: rest => (.text name, ofJson value) :: ofJsonMembers rest

end

def isText (name : Text) : Document → Bool
  | .text s => s == name
  | _ => false

/-- The value under the key `name`, the last one if there are several. -/
def lookup? (name : Text) (entries : List (Document × Document)) : Option Document :=
  (entries.reverse.find? fun entry => entry.1.isText name).map (·.2)

/-- The number that a document is, integers being told apart from other numbers. A flag is one or
zero. -/
def number? : Document → Option (Int ⊕ Binary64)
  | .bool b => some (.inl b.toNat)
  | .int i => some (.inl i)
  | .number .nan => none
  | .number x => some (x.toInt?.elim (.inr x) .inl)
  | _ => none

/-- Are the documents the same as keys? Numbers are if they are equal, whatever their kind; what is
no number is the same as nothing else. -/
def isSameKey : Document → Document → Bool
  | .null, .null => true
  | .text a, .text b => a == b
  | .bytes a, .bytes b => a == b
  | .date a, .date b => a == b
  | .dateTime zoned a, .dateTime zoned' b => zoned == zoned' && a == b
  | a, b => match number? a, number? b with
    | some x, some y => x == y
    | _, _ => false

def kindName : Document → String
  | .null => "NoneType"
  | .bool _ => "bool"
  | .int _ => "int"
  | .number _ => "float"
  | .text _ => "str"
  | .bytes _ => "bytes"
  | .date _ => "date"
  | .dateTime .. => "datetime"
  | .list _ => "list"
  | .set _ => "set"
  | .mapping _ => "dict"
  | .unseen => "list"

end Document

end DeployScript
