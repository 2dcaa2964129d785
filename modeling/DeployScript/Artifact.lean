import DeployScript.Abi.Basic
import DeployScript.Files.Error
import DeployScript.Json.Reader

/-!
# Compiler artifacts

The file that the compiler writes for a contract holds its interface. What can be wrong with one is
that it cannot be read, that it is not JSON, that it has no interface, or that the interface is not
one.
-/

namespace DeployScript.Artifact

def logger : String := "deployer_kit.core.services.artifacts"

/-- Why an artifact gives no interface. -/
inductive Error where
  | notFound (path : Text)
  | invalidJson (path : Text) (what : Json.Problem) (place : Json.Place)
  | noInterface (path : Text)
  | malformed (path : Text) (issues : List Validation.Issue)
deriving DecidableEq, Repr

def Error.message : Error → Text
  | .notFound path =>
    "Contract not found. Did you provide the correct contract name? (looked for " ++ path ++ ")"
  | .invalidJson path what place =>
    "Invalid JSON in " ++ path ++ ": " ++ Json.malformedMessage what place
  | .noInterface path => "No 'abi' field in " ++ path
  | .malformed path issues => "Malformed ABI in " ++ path ++ ": " ++ Validation.messages issues

def hasInterface : Document → Bool
  | .mapping entries => (Document.lookup? "abi" entries).isSome
  | _ => false

/-- The interface in a document, `path` being where it was read. -/
def interfaceOf (path : Text) (d : Document) : Except Error (List Abi.Entry) :=
  if hasInterface d then
    match Abi.Entry.listOfArtifact d with
    | .ok entries => .ok entries
    | .error issues => .error (.malformed path issues)
  else .error (.noInterface path)

end DeployScript.Artifact
