import DeployScript.Numeric.Binary64
import DeployScript.Text.Basic

/-!
# JSON values

A JSON value with integers kept apart from other numbers, and objects as lists of members in the
order of their first appearance, each name once. A string may be broken.
-/

namespace DeployScript

open Numeric (Binary64)

inductive Json where
  | null
  | bool (value : Bool)
  | int (value : Int)
  | number (value : Binary64)
  | string (text : Text)
  | array (items : List Json)
  | object (members : List (Text × Json))
deriving Repr

namespace Json

/-- The members with `name` set to `value`: in its place if the name is there, else at the end. -/
def setMember (name : Text) (value : Json) : List (Text × Json) → List (Text × Json)
  | [] => [(name, value)]
  | (n, v) :: rest =>
    if n = name then (n, value) :: rest else (n, v) :: setMember name value rest

end Json

end DeployScript
