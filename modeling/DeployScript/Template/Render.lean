import DeployScript.Files.Error
import DeployScript.Template.Block
import DeployScript.Template.Hole

/-!
# Rendering templates

A template is rendered in three steps: its blocks are settled, its holes are filled, all at once so
that a value is never read for holes, and runs of empty lines are shortened.
-/

namespace DeployScript.Template

/-- Why a template is not rendered. -/
inductive Error where
  /-- A marker has no partner. -/
  | unbalanced (marker : String)
  /-- Some holes have no value. -/
  | missingValues (names : List String)
  /-- The file with the template cannot be read. -/
  | unreadable (path : Text) (error : FileError)
deriving DecidableEq, Repr

def Error.message : Error → Text
  | .unbalanced marker => s!"Unbalanced conditional marker: {marker}"
  | .missingValues names => "Template holes without a value: " ++ ", ".intercalate names
  | .unreadable path error => "Cannot read template " ++ path ++ s!": {error.message}"

/-- Settles the blocks, `on` telling which features are on. -/
def processBlocks (on : String → Bool) (cs : List Char) : Except Error (List Char) :=
  match firstMarker? (settleBlocks on cs) with
  | some marker => .error (.unbalanced (String.ofList marker))
  | none => .ok (settleBlocks on cs)

def fillHoles (values : String → Option Text) (cs : List Char) : Except Error Text :=
  match missingValues values cs with
  | [] => .ok ((pieces cs).flatMap (Piece.fill values))
  | names => .error (.missingValues names)

/-- Shortens every run of more than two line ends to two, `before` of them standing just before. -/
def shortenRuns : Nat → Text → Text
  | _, [] => []
  | before, c :: rest =>
    if c = '\n' then
      if before < 2 then c :: shortenRuns (before + 1) rest else shortenRuns before rest
    else c :: shortenRuns 0 rest

def render (on : String → Bool) (values : String → Option Text) (content : String) :
    Except Error Text :=
  match processBlocks on content.toList with
  | .error e => .error e
  | .ok settled =>
    match fillHoles values settled with
    | .error e => .error e
    | .ok filled => .ok (shortenRuns 0 filled)

end DeployScript.Template
