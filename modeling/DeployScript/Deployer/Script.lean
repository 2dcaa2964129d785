import DeployScript.Abi.Arguments
import DeployScript.Deployer.Template
import DeployScript.Request
import DeployScript.Solidity.Declaration
import DeployScript.Template.Render

/-!
# Deploy scripts

A deploy script is a template filled for one contract: `holeValues` gives the text of every hole
that a template may have, and `script` renders the built-in template or another one and says where
the result belongs.
-/

namespace DeployScript.Deployer

open DeployScript.Abi (Arguments)
open DeployScript.Solidity (Declared declare)

/-- What the name of a script adds to that of its contract. -/
def scriptSuffix : String := "Deployer.s.sol"

/-- An ASCII letter or digit. -/
def isPlain (c : Char) : Bool := c.isAlphanum

def lowerFirst : Text → Text
  | [] => []
  | first :: rest => first.map Char.toLower :: rest

/-- The variable name for a contract: its letters and digits, the first in lower case. -/
def instanceName (contract : Text) : Text := lowerFirst (contract.filter (CodePoint.is isPlain))

/-- Where the script for a contract is written. -/
def scriptPath (outputDir contract : Text) : Path :=
  (Path.parse outputDir).child (contract ++ scriptSuffix)

/-! ### Values -/

/-- Texts with a comma and a blank between them. -/
def commaSeparated (texts : List Text) : Text := Text.join ", " texts

/-- The declarations after others in a signature: with a separator in front, if there are any. -/
def furtherDeclarations (params : List Declared) : Text :=
  if params.isEmpty then [] else ", " ++ commaSeparated (params.map Declared.declaration)

/-- The names of parameters, as a call passes them. -/
def argumentNames (params : List Declared) : Text := commaSeparated (params.map Declared.name)

/-- The call of the initializer as data; without an initializer a statement that reverts. -/
def initData (contract : Text) (init : Option (List Declared)) : Text :=
  match init with
  | none => "\"\";\n        revert(\"" ++ contract ++ " is not initializable\")"
  | some params =>
    "abi.encodeCall(" ++ contract ++ ".initialize, (" ++ argumentNames params ++ "))"

/-- The holes and their values. -/
def holeValues (r : Request) (a : Arguments) : List (String × Text) :=
  let contract := r.contractName
  let constructor := a.constructor.map declare
  let init := a.init.map (List.map declare)
  [ ("CONTRACT", contract),
    ("INSTANCE", instanceName contract),
    ("CONSTRUCTOR_ARGS", furtherDeclarations constructor),
    ("CONSTRUCTOR_PARAMS", commaSeparated (constructor.map Declared.declaration)),
    ("CONSTRUCTOR_ARG_NAMES", argumentNames constructor),
    ("INIT_ARGS", furtherDeclarations (init.getD [])),
    ("INIT_ARG_NAMES", argumentNames (init.getD [])),
    ("INIT_DATA", initData contract init),
    ("SOURCE_PATH", r.source) ]

/-- The only feature of a template: whether the contract has an initializer. -/
def features (a : Arguments) (feature : String) : Bool :=
  feature == "initializable" && a.initializable

/-! ### Scripts -/

/-- A script before it is written. -/
structure Script where
  path : Path
  content : Text
  reason : Text
deriving DecidableEq

/-- The script for a request; `template` stands in for the built-in one. -/
def script (r : Request) (a : Arguments) (outputDir : Text) (template : Option String) :
    Except Template.Error Script :=
  let values := holeValues r a
  match Template.render (features a) (values.lookup ·) (template.getD builtInTemplate) with
  | .error e => .error e
  | .ok content =>
    .ok {
      path := scriptPath outputDir r.contractName
      content
      reason := "Deployer for " ++ r.contractName ++ " (" ++ r.source ++ ")" }

end DeployScript.Deployer
