import TestCoverage.Artifact
import TestCoverage.Artifact.Stream
import TestCoverage.Awk.Evaluation
import TestCoverage.Awk.Layout
import TestCoverage.Awk.Machine
import TestCoverage.Awk.Parser
import TestCoverage.Awk.Pattern
import TestCoverage.Awk.Syntax
import TestCoverage.Awk.Table
import TestCoverage.Awk.Token
import TestCoverage.Awk.Value
import TestCoverage.Call
import TestCoverage.Command
import TestCoverage.CommandLine
import TestCoverage.CoverageRun
import TestCoverage.Datum
import TestCoverage.Decimal.Arithmetic
import TestCoverage.Decimal.Binary64
import TestCoverage.Decimal.Function
import TestCoverage.Decimal.Places
import TestCoverage.Decimal.Power
import TestCoverage.Decimal.Reading
import TestCoverage.Decimal.Shortest
import TestCoverage.Decimal.Written
import TestCoverage.Dialogue
import TestCoverage.Entries
import TestCoverage.Environment
import TestCoverage.Failure
import TestCoverage.Files
import TestCoverage.Files.Executable
import TestCoverage.Files.Rights
import TestCoverage.Filter.Arguments
import TestCoverage.Filter.Difference
import TestCoverage.Filter.Dump
import TestCoverage.Filter.Edit
import TestCoverage.Filter.EditScript
import TestCoverage.Filter.Evaluation
import TestCoverage.Filter.Exchange
import TestCoverage.Filter.Items
import TestCoverage.Filter.Lines
import TestCoverage.Filter.Numbering
import TestCoverage.Filter.Order
import TestCoverage.Filter.Quoting
import TestCoverage.Filter.Regex
import TestCoverage.Filter.Report
import TestCoverage.Filter.Search
import TestCoverage.Filter.Sequence
import TestCoverage.Filter.Tabs
import TestCoverage.Filter.Version
import TestCoverage.Filter.Width
import TestCoverage.Ini.Document
import TestCoverage.Json.Document
import TestCoverage.Json.Fault
import TestCoverage.Json.Ignored
import TestCoverage.Json.Record
import TestCoverage.Json.Token
import TestCoverage.Json5.Document
import TestCoverage.Json5.Trail
import TestCoverage.Main
import TestCoverage.Path
import TestCoverage.Proofs.Artifact.Acceptance
import TestCoverage.Proofs.Artifact.Concatenation
import TestCoverage.Proofs.Artifact.Items
import TestCoverage.Proofs.Artifact.Line
import TestCoverage.Proofs.Artifact.Padding
import TestCoverage.Proofs.Artifact.Records
import TestCoverage.Proofs.Artifact.Stream
import TestCoverage.Proofs.Artifact.Truncation
import TestCoverage.Proofs.Call
import TestCoverage.Proofs.Command
import TestCoverage.Proofs.CommandLine
import TestCoverage.Proofs.CoverageRun.Accounting
import TestCoverage.Proofs.CoverageRun.Calls
import TestCoverage.Proofs.CoverageRun.Collection
import TestCoverage.Proofs.CoverageRun.Course
import TestCoverage.Proofs.CoverageRun.KeepGoing
import TestCoverage.Proofs.CoverageRun.Outcome
import TestCoverage.Proofs.CoverageRun.Output
import TestCoverage.Proofs.CoverageRun.Places
import TestCoverage.Proofs.CoverageRun.SearchPath
import TestCoverage.Proofs.CoverageRun.Session
import TestCoverage.Proofs.CoverageRun.Shown
import TestCoverage.Proofs.CoverageRun.Stages
import TestCoverage.Proofs.Except
import TestCoverage.Proofs.Host
import TestCoverage.Proofs.Json.Grammar
import TestCoverage.Proofs.Json.Ignored
import TestCoverage.Proofs.Json.Members
import TestCoverage.Proofs.Json.Objects
import TestCoverage.Proofs.Json.Readers
import TestCoverage.Proofs.Json.Record
import TestCoverage.Proofs.Json.Scalars
import TestCoverage.Proofs.Json.Spelling
import TestCoverage.Proofs.Json.Steps
import TestCoverage.Proofs.Json.Strings
import TestCoverage.Proofs.Json.Tokens
import TestCoverage.Proofs.Json.Unambiguous
import TestCoverage.Proofs.Json.Writable
import TestCoverage.Proofs.Path
import TestCoverage.Proofs.Play
import TestCoverage.Proofs.Settings.Additions
import TestCoverage.Proofs.Settings.Alike
import TestCoverage.Proofs.Settings.Decoding
import TestCoverage.Proofs.Settings.Defaults
import TestCoverage.Proofs.Settings.Document
import TestCoverage.Proofs.Settings.Foreign
import TestCoverage.Proofs.Settings.Json
import TestCoverage.Proofs.Settings.Loading
import TestCoverage.Proofs.Settings.Malformed
import TestCoverage.Proofs.Settings.Overlay
import TestCoverage.Proofs.Settings.Precedence
import TestCoverage.Proofs.Settings.Refusal
import TestCoverage.Proofs.Settings.RoundTrip
import TestCoverage.Proofs.Settings.Section
import TestCoverage.Proofs.Settings.Sources
import TestCoverage.Proofs.Settings.Unrelated
import TestCoverage.Proofs.Settings.Variable
import TestCoverage.Proofs.Settings.Writing
import TestCoverage.Proofs.Text.Blank
import TestCoverage.Proofs.Text.Lines
import TestCoverage.Proofs.Text.LowerCase
import TestCoverage.Proofs.Text.Pieces
import TestCoverage.Proofs.Text.Utf8
import TestCoverage.Proofs.Workspace
import TestCoverage.Ron.Document
import TestCoverage.Ron.Source
import TestCoverage.Ron.Token
import TestCoverage.Ron.Value
import TestCoverage.Sandbox
import TestCoverage.Settings
import TestCoverage.Settings.Decode
import TestCoverage.Settings.Error
import TestCoverage.Settings.Format
import TestCoverage.Settings.Item
import TestCoverage.Settings.Json
import TestCoverage.Settings.Layers
import TestCoverage.Settings.Place
import TestCoverage.Shell.Arithmetic
import TestCoverage.Shell.BuiltIn
import TestCoverage.Shell.Columns
import TestCoverage.Shell.Comparison
import TestCoverage.Shell.Condition
import TestCoverage.Shell.Descriptor
import TestCoverage.Shell.Editing
import TestCoverage.Shell.Execution
import TestCoverage.Shell.Fields
import TestCoverage.Shell.FileProgram
import TestCoverage.Shell.Filters
import TestCoverage.Shell.Find
import TestCoverage.Shell.Format
import TestCoverage.Shell.Listing
import TestCoverage.Shell.Numbers
import TestCoverage.Shell.OptionLetters
import TestCoverage.Shell.Parameter
import TestCoverage.Shell.Pattern
import TestCoverage.Shell.Program
import TestCoverage.Shell.Query
import TestCoverage.Shell.Reader
import TestCoverage.Shell.Records
import TestCoverage.Shell.Searching
import TestCoverage.Shell.State
import TestCoverage.Shell.Syntax
import TestCoverage.Shell.Transfer
import TestCoverage.Shell.Utility
import TestCoverage.Text.Blank
import TestCoverage.Text.CaseData
import TestCoverage.Text.CharSet
import TestCoverage.Text.Hex
import TestCoverage.Text.Hidden
import TestCoverage.Text.Letter
import TestCoverage.Text.LowerCase
import TestCoverage.Text.Octets
import TestCoverage.Text.Pieces
import TestCoverage.Text.Quoted
import TestCoverage.Text.Spot
import TestCoverage.Text.Utf8
import TestCoverage.Toml.Document
import TestCoverage.Toml.Moment
import TestCoverage.Toml.Number
import TestCoverage.Toml.Quoted
import TestCoverage.Toml.Statement
import TestCoverage.Toml.Value
import TestCoverage.Toolchain
import TestCoverage.Workspace
import TestCoverage.Yaml.Cursor
import TestCoverage.Yaml.Document
import TestCoverage.Yaml.Node
import TestCoverage.Yaml.Reader
import TestCoverage.Yaml.Scalar
import TestCoverage.Yaml.Scanner
import TestCoverage.Yaml.Tag
import TestCoverage.Yaml.Token
