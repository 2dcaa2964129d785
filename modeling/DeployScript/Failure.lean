import DeployScript.Artifact
import DeployScript.Config.Error
import DeployScript.Crash
import DeployScript.Template.Render

/-!
# Failures

Every way in which a run can fail, each with a kind, which is a stable label, and a message.
-/

namespace DeployScript

/-- Why a run failed. -/
inductive Failure where
  | config (error : Config.Error)
  /-- The build command failed, for a reason that its receipt gives. -/
  | build (reason : Text)
  | artifact (error : Artifact.Error)
  | template (error : Template.Error)
  /-- The script cannot be written. -/
  | write (path : Text) (error : FileError)
deriving DecidableEq, Repr

def Failure.kind : Failure → String
  | .config _ => "config"
  | .build _ => "build"
  | .artifact (.notFound _) => "artifact_not_found"
  | .artifact _ => "parse"
  | .template _ => "template"
  | .write _ _ => "write"

def Failure.message : Failure → Text
  | .config error => error.message
  | .build reason => "Build failed: " ++ reason
  | .artifact error => error.message
  | .template error => error.message
  | .write path error => "Cannot write " ++ path ++ ": " ++ error.message

/-- How a run can end early: by a failure or by a crash. -/
inductive Abort where
  | failure (failure : Failure)
  | crash (crash : Crash)
deriving DecidableEq, Repr

end DeployScript
