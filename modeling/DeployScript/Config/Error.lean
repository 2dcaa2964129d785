import DeployScript.Files.Error
import DeployScript.Validation
import DeployScript.Yaml.Error

/-!
# Errors in configurations

Why a configuration file gives no configuration.
-/

namespace DeployScript.Config

/-- Why there is no configuration. -/
inductive Error where
  /-- The file that was named is not there. -/
  | notFound (path : Text)
  | unreadable (path : Text) (error : FileError)
  | invalidYaml (path : Text) (what : Yaml.Problem) (place : Yaml.Mark)
  /-- The file holds something else than a mapping; `kind` says what. -/
  | notMapping (path : Text) (kind : String)
  | invalid (path : Text) (issues : List Validation.Issue)
deriving DecidableEq, Repr

def Error.message : Error → Text
  | .notFound path => "Config file not found: " ++ path
  | .unreadable path error => "Cannot read " ++ path ++ ": " ++ error.message
  | .invalidYaml path what place =>
    "Invalid YAML in " ++ path ++ ": " ++ Yaml.problemMessage what place
  | .notMapping path kind => "Expected a YAML mapping in " ++ path ++ ", got " ++ kind
  | .invalid path issues =>
    "Invalid configuration in " ++ path ++ ": " ++ Validation.messages issues

end DeployScript.Config
