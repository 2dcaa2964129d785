import DeployScript.Abi.Arguments
import DeployScript.Abi.Basic
import DeployScript.Artifact
import DeployScript.Command
import DeployScript.CommandLine.Arguments
import DeployScript.CommandLine.Run
import DeployScript.CommandLine.Text
import DeployScript.Config.Basic
import DeployScript.Config.Error
import DeployScript.Config.Load
import DeployScript.Crash
import DeployScript.Depths
import DeployScript.Deployer.Script
import DeployScript.Deployer.Template
import DeployScript.Document
import DeployScript.Environment
import DeployScript.Failure
import DeployScript.Files.Access
import DeployScript.Files.Error
import DeployScript.Files.Tree
import DeployScript.Generate
import DeployScript.Host
import DeployScript.Host.Machine
import DeployScript.Host.System
import DeployScript.Json.Basic
import DeployScript.Json.Printer
import DeployScript.Json.Reader
import DeployScript.Log.Install
import DeployScript.Log.Record
import DeployScript.Log.Setup
import DeployScript.Main
import DeployScript.Numeric.Arithmetic
import DeployScript.Numeric.Binary64
import DeployScript.Numeric.Reader
import DeployScript.Numeric.Shortest
import DeployScript.Path
import DeployScript.Path.Lemmas
import DeployScript.Program
import DeployScript.Proofs.Abi.Renaming
import DeployScript.Proofs.Template.Line
import DeployScript.Proofs.Template.Marker
import DeployScript.Proofs.Template.Nesting
import DeployScript.Proofs.Template.Rendering
import DeployScript.Proofs.Template.Run
import DeployScript.Proofs.Template.Segment
import DeployScript.Proofs.Template.Writing
import DeployScript.Request
import DeployScript.Solidity.Declaration
import DeployScript.Template.Block
import DeployScript.Template.Hole
import DeployScript.Template.Render
import DeployScript.Text.Base64
import DeployScript.Text.Basic
import DeployScript.Text.Digit
import DeployScript.Text.Encoding
import DeployScript.Text.Lines
import DeployScript.Text.Literal
import DeployScript.Text.Printable
import DeployScript.Text.Quoted
import DeployScript.Text.Ranges
import DeployScript.Text.Space
import DeployScript.Text.Styling
import DeployScript.Text.Word
import DeployScript.Validation
import DeployScript.Yaml.Cursor
import DeployScript.Yaml.Error
import DeployScript.Yaml.Merge
import DeployScript.Yaml.Node
import DeployScript.Yaml.Node.Reader
import DeployScript.Yaml.Scalar
import DeployScript.Yaml.Tag
import DeployScript.Yaml.Timestamp
import DeployScript.Yaml.Token
import DeployScript.Yaml.Token.Lexer
import DeployScript.Yaml.Token.Property
import DeployScript.Yaml.Token.Scalar
import DeployScript.Yaml.Value
import DeployScript.Proofs.Files.Kind
import DeployScript.Proofs.Files.Locate
import DeployScript.Proofs.Solidity.Qualifier
import DeployScript.Proofs.Files.Effect
import DeployScript.Proofs.Files.Directories
import DeployScript.Proofs.Files.Texts
import DeployScript.Proofs.Generate.Stage
import DeployScript.Proofs.Generate.Course
import DeployScript.Proofs.Generate.FileEffect
import DeployScript.Proofs.Generate.Again
import DeployScript.Proofs.Config.Escape
import DeployScript.Proofs.Generate.Escape
import DeployScript.Proofs.Template.Quote
import DeployScript.Proofs.Template.Partner
import DeployScript.Proofs.Template.Balance
import DeployScript.Proofs.Template.Deletion
import DeployScript.Proofs.Template.Passes
import DeployScript.Proofs.Template.HoleName
import DeployScript.Proofs.Template.Shortening
import DeployScript.Proofs.Deployer.BuiltIn
import DeployScript.Proofs.Deployer.InstanceName
import DeployScript.Proofs.Deployer.Signature
import DeployScript.Proofs.Deployer.Bracket
import DeployScript.Proofs.Host.Closed
import DeployScript.Proofs.Generate.Report
import DeployScript.Proofs.Host.Alike
import DeployScript.Proofs.Generate.Independence
import DeployScript.Proofs.Command.Starts
import DeployScript.Proofs.Generate.Selection
import DeployScript.Proofs.Json.Members
import DeployScript.Proofs.Validation.Checked
import DeployScript.Proofs.Abi.Spelling
import DeployScript.Proofs.Files.Climb
import DeployScript.Proofs.Config.Anchoring
import DeployScript.Proofs.Config.Designation
import DeployScript.Proofs.Json.Reading
import DeployScript.Proofs.Config.Loading
import DeployScript.Proofs.Host.Abreast
import DeployScript.Proofs.Generate.Uniformity
import DeployScript.Proofs.Text.Styling
import DeployScript.Proofs.Text.Bracket
import DeployScript.Proofs.CommandLine.Course
import DeployScript.Proofs.CommandLine.MachineReadable
import DeployScript.Proofs.CommandLine.Presentation
import DeployScript.Proofs.Solidity.Keyword
import DeployScript.Proofs.Solidity.Shape
import DeployScript.Proofs.CommandLine.Sorting
import DeployScript.Proofs.Pairs
import DeployScript.Proofs.CommandLine.Order
import DeployScript.Proofs.CommandLine.Parts
import DeployScript.Proofs.Host.Watched
import DeployScript.Proofs.CommandLine.Misuse
import DeployScript.Proofs.Files.Append
import DeployScript.Proofs.Log.Delivery
import DeployScript.Proofs.Request.SourceName
import DeployScript.Proofs.Deployer.Placement
import DeployScript.Proofs.Config.Omission
import DeployScript.Proofs.Command.Receipts
import DeployScript.Proofs.Generate.Starts
import DeployScript.Proofs.Files.Reach
import DeployScript.Proofs.Config.Search
import DeployScript.Proofs.Files.OneMore
import DeployScript.Proofs.Host.Beside
import DeployScript.Proofs.Generate.Counterparts
import DeployScript.Proofs.CommandLine.EmptyFile
