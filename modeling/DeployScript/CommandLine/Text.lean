import DeployScript.CommandLine.Arguments
import DeployScript.Text.Styling

/-!
# Texts of the command line

What the command says about itself.
-/

namespace DeployScript.CommandLine

def programName : String := "deployer-kit"

def versionText : String := programName ++ ", version 0.1.0\n"

def usageLine : String := "Usage: " ++ programName ++ " [OPTIONS] PATH_TO_CONTRACT"

def helpLines : List String :=
  [ usageLine,
    "",
    "  Generate a Foundry deployer script for a compiled contract.",
    "",
    "  Reads the contract's ABI from the build output, wires its constructor and",
    "  initialize arguments, and writes <Contract>Deployer.s.sol.",
    "",
    "Options:",
    "  -v, --version          Show the version and exit.",
    "  -o, --output TEXT      Output directory (default: script/deployers).",
    "  -n, --name TEXT        Name of the contract in case it differs from the file",
    "                         name (default: name of the contract file).",
    "  --config FILE          Path to deployer-kit.yml (default: auto-detect).",
    "  --no-build             Skip the build step; use existing artifacts.",
    "  --no-format            Skip formatting the generated file.",
    "  --json-output, --json  Output as JSON.",
    "  --verbose              Enable verbose output.",
    "  --quiet                Suppress non-essential output.",
    "  --debug                Enable debug logging (very verbose).",
    "  -h, --help             Show this message and exit.",
    "",
    "  Documentation can be found at https://github.com/0xPolygon/deployer-kit" ]

def helpText : String := String.join (helpLines.map (· ++ "\n"))

def UsageError.text (e : UsageError) : String :=
  (if e.showsUsage then
    usageLine ++ "\nTry '" ++ programName ++ " --help' for help.\n\n"
  else "") ++ (Text.withoutStyle s!"Error: {e.message}\n").shown

end DeployScript.CommandLine
