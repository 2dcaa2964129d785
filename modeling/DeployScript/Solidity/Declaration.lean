import DeployScript.Abi.Basic
import DeployScript.Text.Digit
import DeployScript.Text.Literal

/-!
# Parameter declarations

How a parameter is declared in a function signature. The compiler's name for a type is changed by
the first rule that applies to it: the keyword of a user-defined type goes, and a type that lives in
memory says so. The order of the rules matters, since most types meet several: an array of enums is
an array first and an enum after that.
-/

namespace DeployScript.Solidity

open DeployScript.Text (isDecimalDigit)

/-- What a type that lives in memory says. -/
def memoryQualifier : String := " memory"

/-- Does the type end in brackets with nothing but digits between them? One line end may follow. -/
def isArray (type : Text) : Bool :=
  let back := match type.reverse with
    | .char '\n' :: rest => rest
    | other => other
  match back with
  | .char ']' :: rest => (rest.dropWhile (CodePoint.is isDecimalDigit)).head? == some (.char '[')
  | _ => false

def startsWith (word : String) (type : Text) : Bool := (Text.ofString word).isPrefixOf type

/-- The type without its first code points, as many as `word` has and one more for a blank. -/
def dropKeyword (word : String) (type : Text) : Text := type.drop (word.length + 1)

/-- The rules for types, in the order in which they are tried. -/
inductive TypeRule where
  | string
  | bytes
  | contract
  | structArray
  | enumArray
  | array
  | enum
  | struct
deriving DecidableEq, Repr

namespace TypeRule

def all : List TypeRule :=
  [.string, .bytes, .contract, .structArray, .enumArray, .array, .enum, .struct]

def applies (type : Text) : TypeRule → Bool
  | .string => startsWith "string" type
  | .bytes => startsWith "bytes" type
  | .contract => startsWith "contract" type
  | .structArray => startsWith "struct" type && isArray type
  | .enumArray => startsWith "enum" type && isArray type
  | .array => isArray type
  | .enum => startsWith "enum" type
  | .struct => startsWith "struct" type

def format (type : Text) : TypeRule → Text
  | .string | .bytes | .array => type ++ memoryQualifier
  | .contract => dropKeyword "contract" type
  | .structArray | .struct => dropKeyword "struct" type ++ memoryQualifier
  | .enumArray => dropKeyword "enum" type ++ memoryQualifier
  | .enum => dropKeyword "enum" type

end TypeRule

/-- The type as a declaration gives it: what the first rule makes of it. -/
def formatType (type : Text) : Text :=
  match TypeRule.all.find? (TypeRule.applies type) with
  | some rule => rule.format type
  | none => type

structure Declared where
  name : Text
  declaration : Text
deriving DecidableEq, Repr

def declare (p : Abi.Parameter) : Declared := ⟨p.name, formatType p.type ++ " " ++ p.name⟩

end DeployScript.Solidity
