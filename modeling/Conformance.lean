import Conformance.Catalogue
import Conformance.Catalogue.Builtin
import Conformance.Catalogue.Loading
import Conformance.Choice
import Conformance.Clock
import Conformance.CommandLine
import Conformance.Config
import Conformance.Config.Reader
import Conformance.Console
import Conformance.Csv
import Conformance.Decimal.Reader
import Conformance.Decimal.Rounded
import Conformance.Decimal.Shortest
import Conformance.Failure
import Conformance.FileTree
import Conformance.Group
import Conformance.Json
import Conformance.Json.Error
import Conformance.Json.Number
import Conformance.Json.Printer
import Conformance.Json.Reader
import Conformance.Json.Text
import Conformance.Launcher
import Conformance.Log
import Conformance.Main
import Conformance.Mismatch
import Conformance.Page
import Conformance.Path
import Conformance.Plan
import Conformance.Process
import Conformance.Report
import Conformance.Result
import Conformance.Run
import Conformance.Selection
import Conformance.Session
import Conformance.Shell.Batch
import Conformance.Shell.Builtin
import Conformance.Shell.Calculation
import Conformance.Shell.CharacterClass
import Conformance.Shell.Characters
import Conformance.Shell.Command
import Conformance.Shell.Directories
import Conformance.Shell.Editing
import Conformance.Shell.Evaluation
import Conformance.Shell.Expression
import Conformance.Shell.Field
import Conformance.Shell.Format
import Conformance.Shell.Formula
import Conformance.Shell.Interpreter
import Conformance.Shell.Lines
import Conformance.Shell.Number
import Conformance.Shell.Octets
import Conformance.Shell.Pattern
import Conformance.Shell.Search
import Conformance.Shell.Setting
import Conformance.Shell.Signal
import Conformance.Shell.State
import Conformance.Shell.Test
import Conformance.Shell.Utility
import Conformance.Shell.Word
import Conformance.Sink
import Conformance.Suite
import Conformance.Suite.Reader
import Conformance.Summary
import Conformance.Table
import Conformance.Text.Blank
import Conformance.Text.CodePoints
import Conformance.Text.Columns
import Conformance.Text.Composites
import Conformance.Text.Direction
import Conformance.Text.Emoji
import Conformance.Text.Folding
import Conformance.Text.Folding.Letters
import Conformance.Text.Folding.Words
import Conformance.Text.Joining
import Conformance.Text.Marks
import Conformance.Text.NormalForm
import Conformance.Text.Quoted
import Conformance.Text.Ranges
import Conformance.Text.Sequence
import Conformance.Text.Utf8
import Conformance.Text.Width
import Conformance.Toml.Reader
import Conformance.Toml.Scalar
import Conformance.Toml.Value
import Conformance.Transport
import Conformance.Transport.Configured
import Conformance.Transport.Connected
import Conformance.Transport.Curl
import Conformance.Transport.Http
import Conformance.Url
import Conformance.Url.Address
import Conformance.Url.Domain
import Conformance.Url.Host
import Conformance.Url.Path
import Conformance.Url.Percent
import Conformance.Url.Punycode
import Conformance.Verdict
import Conformance.Yaml.Cursor
import Conformance.Yaml.Document
import Conformance.Yaml.Event
import Conformance.Yaml.Reader
import Conformance.Yaml.Scalar
import Conformance.Yaml.Tag
import Conformance.Yaml.Token
import Conformance.Proofs.Except
import Conformance.Proofs.Distinct
import Conformance.Proofs.FileTree
import Conformance.Proofs.Csv
import Conformance.Proofs.Csv.Rendering
import Conformance.Proofs.Sink
import Conformance.Proofs.Sink.History
import Conformance.Proofs.Execution
import Conformance.Proofs.Execution.Oracle
import Conformance.Proofs.Catalogue
import Conformance.Proofs.Plan
import Conformance.Proofs.Catalogue.Insertion
import Conformance.Proofs.FileTree.Walk
import Conformance.Proofs.Catalogue.Loading
import Conformance.Proofs.Path.Name
import Conformance.Proofs.Catalogue.Files
import Conformance.Proofs.Report
import Conformance.Proofs.Summary
import Conformance.Proofs.Outcome
import Conformance.Proofs.Json.Meaning
import Conformance.Proofs.Json.Text
import Conformance.Proofs.Json.Number
import Conformance.Proofs.Json.Reader
import Conformance.Proofs.Json.Printer
import Conformance.Proofs.Json.Rendering
import Conformance.Proofs.Verdict
import Conformance.Proofs.FileTree.Place
import Conformance.Proofs.Effects
import Conformance.Proofs.Stages
import Conformance.Proofs.Clock
import Conformance.Proofs.Page
import Conformance.Proofs.Page.Tags
import Conformance.Proofs.Page.Name
import Conformance.Proofs.Containment
import Conformance.Proofs.Artifacts
import Conformance.Proofs.Execution.Remembering
import Conformance.Proofs.Independence
import Conformance.Proofs.Catalogue.Groups
import Conformance.Proofs.Console
import Conformance.Proofs.Csv.Positions
import Conformance.Proofs.Csv.Torn
import Conformance.Proofs.Sink.Altered
import Conformance.Proofs.Selection
import Conformance.Proofs.Catalogue.Clash
import Conformance.Proofs.Catalogue.Lookup
import Conformance.Proofs.Plan.Targets
import Conformance.Proofs.Json.Continued
import Conformance.Proofs.Json.Grammar
import Conformance.Proofs.Judgement
import Conformance.Proofs.Transport
import Conformance.Proofs.Plan.Unordered
import Conformance.Proofs.Console.Listing
import Conformance.Proofs.Toml
import Conformance.Proofs.Config
import Conformance.Proofs.Settings
import Conformance.Proofs.Config
import Conformance.Proofs.Settings
import Conformance.Proofs.Execution.Matching
