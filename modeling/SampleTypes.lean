import SampleTypes.Assoc
import SampleTypes.Binary64
import SampleTypes.Binary64.Shortest
import SampleTypes.CommandLine.Choice
import SampleTypes.CommandLine.Command
import SampleTypes.CommandLine.Execution
import SampleTypes.CommandLine.Failure
import SampleTypes.CommandLine.Help
import SampleTypes.CommandLine.Inputs
import SampleTypes.CommandLine.Option
import SampleTypes.CommandLine.Program
import SampleTypes.CommandLine.Session
import SampleTypes.Declaration
import SampleTypes.Diagnostic
import SampleTypes.Document
import SampleTypes.FieldType
import SampleTypes.Files.Change
import SampleTypes.Files.Disk
import SampleTypes.Files.Error
import SampleTypes.Generation
import SampleTypes.Haskell.Declaration
import SampleTypes.Haskell.Literal
import SampleTypes.Haskell.Module
import SampleTypes.Haskell.TypeNames
import SampleTypes.Json.Parser
import SampleTypes.Json.Printer
import SampleTypes.Log
import SampleTypes.Main
import SampleTypes.ModuleName
import SampleTypes.Naming
import SampleTypes.OrderedMap
import SampleTypes.Output.Delivery
import SampleTypes.Output.Target
import SampleTypes.Patch.Coloured
import SampleTypes.Patch.Hunk
import SampleTypes.Patch.Matching
import SampleTypes.Patch.Script
import SampleTypes.Path
import SampleTypes.Report.Markdown
import SampleTypes.Report.Summary
import SampleTypes.Schema
import SampleTypes.Settings.Basic
import SampleTypes.Settings.Default
import SampleTypes.Settings.Discovery
import SampleTypes.Settings.FromTable
import SampleTypes.Settings.Layer
import SampleTypes.Settings.Load
import SampleTypes.Settings.Overrides
import SampleTypes.Shape
import SampleTypes.Survey
import SampleTypes.Terminal.Style
import SampleTypes.Text.Alphanumeric
import SampleTypes.Text.Blank
import SampleTypes.Text.Digit
import SampleTypes.Text.Half
import SampleTypes.Text.Lines
import SampleTypes.Text.Pieces
import SampleTypes.Text.Printable
import SampleTypes.Text.Quoted
import SampleTypes.Text.Reading
import SampleTypes.Text.Substitution
import SampleTypes.Text.Uppercase
import SampleTypes.Text.Utf8
import SampleTypes.Toml.Assignment
import SampleTypes.Toml.Bracketed
import SampleTypes.Toml.Date
import SampleTypes.Toml.DateText
import SampleTypes.Toml.Document
import SampleTypes.Toml.Fault
import SampleTypes.Toml.Flat
import SampleTypes.Toml.Header
import SampleTypes.Toml.Key
import SampleTypes.Toml.Nesting
import SampleTypes.Toml.Number
import SampleTypes.Toml.Printer
import SampleTypes.Toml.StringText
import SampleTypes.Toml.Styled.Date
import SampleTypes.Toml.Styled.Document
import SampleTypes.Toml.Styled.Entry
import SampleTypes.Toml.Styled.Line
import SampleTypes.Toml.Styled.Literal
import SampleTypes.Toml.Styled.Placing
import SampleTypes.Toml.Styled.Printer
import SampleTypes.Toml.Value
import SampleTypes.Toml.ValueText
import SampleTypes.Url
import SampleTypes.Url.Address
import SampleTypes.Value
import SampleTypes.Value.Display
import SampleTypes.Value.Sorted
import SampleTypes.Proofs.FirstOfKey
import SampleTypes.Proofs.Survey.Visits
import SampleTypes.Proofs.Survey.Walk
import SampleTypes.Proofs.Schema.Typing
import SampleTypes.Proofs.Schema.Findings
import SampleTypes.Proofs.Schema.Pipeline
import SampleTypes.Proofs.Schema.Skeleton
import SampleTypes.Proofs.Schema.Samples
import SampleTypes.Proofs.Schema.References
import SampleTypes.Proofs.Schema.Root
import SampleTypes.Proofs.Value.Reordered
import SampleTypes.Proofs.Survey.Reordered
import SampleTypes.Proofs.Schema.Reordered
import SampleTypes.Proofs.Schema.SharedShapes
import SampleTypes.Proofs.Schema.Unresolved
import SampleTypes.Proofs.Schema.ElementPolicy
import SampleTypes.Proofs.Json.DistinctKeys
import SampleTypes.Proofs.Binary64.Shortest
import SampleTypes.Proofs.Binary64.Text
import SampleTypes.Proofs.Json.StringText
import SampleTypes.Proofs.Json.Injective
import SampleTypes.Proofs.Value.Canonical
import SampleTypes.Proofs.Schema.Collisions
import SampleTypes.Proofs.Files.Growth
import SampleTypes.Proofs.Output.Writing
import SampleTypes.Proofs.Settings.Field
import SampleTypes.Proofs.Settings.FromTable
import SampleTypes.Proofs.Settings.Reporting
import SampleTypes.Proofs.Settings.Discovery
import SampleTypes.Proofs.Settings.Loading
import SampleTypes.Proofs.CommandLine.Precedence
import SampleTypes.Proofs.Text.Avoids
import SampleTypes.Proofs.Text.Uppercase
import SampleTypes.Proofs.Naming
import SampleTypes.Proofs.Haskell.Literal
import SampleTypes.Proofs.Haskell.Lines
import SampleTypes.Proofs.Haskell.Breaks
import SampleTypes.Proofs.Haskell.Bytes
import SampleTypes.Proofs.Haskell.Columns
import SampleTypes.Proofs.Haskell.Decoder
import SampleTypes.Proofs.Haskell.FieldLines
import SampleTypes.Proofs.Haskell.Module
import SampleTypes.Proofs.Survey.Names
import SampleTypes.Proofs.Output.Delivering
import SampleTypes.Proofs.Files.Refusals
import SampleTypes.Proofs.CommandLine.Reading
import SampleTypes.Proofs.CommandLine.Generating
import SampleTypes.Proofs.CommandLine.DryRun
import SampleTypes.Proofs.CommandLine.Inference
import SampleTypes.Proofs.Path
import SampleTypes.Proofs.Output.Placement
import SampleTypes.Proofs.Settings.Editing
import SampleTypes.Proofs.Schema.NestedFirst
import SampleTypes.Proofs.Survey.Revisits
import SampleTypes.Proofs.Haskell.Comments
import SampleTypes.Proofs.ModuleName
import SampleTypes.Proofs.Settings.Merging
import SampleTypes.Proofs.Files.Limits
import SampleTypes.Proofs.Settings.Visiting
import SampleTypes.Proofs.CommandLine.NamedFiles
import SampleTypes.Proofs.Patch.Unchanged
import SampleTypes.Proofs.Output.Detecting
import SampleTypes.Proofs.TypeName
import SampleTypes.Proofs.Output.Distinct
import SampleTypes.Proofs.Schema.TypeNames
import SampleTypes.Proofs.Text.Lines
import SampleTypes.Proofs.Text.Unbroken
import SampleTypes.Proofs.Terminal.Style
import SampleTypes.Proofs.Patch.Script
import SampleTypes.Proofs.Patch.Hunk
import SampleTypes.Proofs.Patch.Coloured
import SampleTypes.Proofs.Output.Preview
import SampleTypes.Proofs.ModuleName.Paths
import SampleTypes.Proofs.Text.Digit
import SampleTypes.Proofs.Log
import SampleTypes.Proofs.CommandLine.SettingUp
import SampleTypes.Proofs.Survey.Steps
import SampleTypes.Proofs.Schema.NotEntered
import SampleTypes.Proofs.Report.Table
