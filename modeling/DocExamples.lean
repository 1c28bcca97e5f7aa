import DocExamples.Text.Basic
import DocExamples.Text.Blank
import DocExamples.Text.Segments
import DocExamples.Text.Ranges
import DocExamples.Text.Word
import DocExamples.Text.Printable
import DocExamples.Text.Numeral
import DocExamples.Decimal.Places
import DocExamples.Text.Quoted
import DocExamples.Text.Control
import DocExamples.Text.Utf8
import DocExamples.Example
import DocExamples.Export
import DocExamples.Json.Reader
import DocExamples.Json.Writer
import DocExamples.Program
import DocExamples.Disk.RealPath
import DocExamples.Disk.Source
import DocExamples.Disk.Edit
import DocExamples.Service
import DocExamples.Run.Report
import DocExamples.Tool
import DocExamples.CommandLine
import DocExamples.Run.Workspace
import DocExamples.Machine.Octet
import DocExamples.Machine.Glob
import DocExamples.Machine.Regex
import DocExamples.Machine.Utility.Streams
import DocExamples.Machine.Utility.Order
import DocExamples.Machine.Utility.Search
import DocExamples.Machine.Utility.Editor
import DocExamples.Machine.Utility.Folders
import DocExamples.Machine.Utility.Escape
import DocExamples.Machine.Utility.Format
import DocExamples.Machine.Utility.Condition
import DocExamples.Machine.Utility.Words
import DocExamples.Machine.Utility.Table
import DocExamples.Machine.Shell.Syntax
import DocExamples.Machine.Shell.Lexeme
import DocExamples.Machine.Shell.Grammar
import DocExamples.Machine.Shell.Arithmetic
import DocExamples.Machine.Shell.State
import DocExamples.Machine.Shell.Expansion
import DocExamples.Machine.Shell.Signals
import DocExamples.Machine.Shell.Builtin
import DocExamples.Machine.Shell.Surroundings
import DocExamples.Machine.Program
import DocExamples.Machine.Shell.Run
import DocExamples.Machine.Computer
import DocExamples.Main
import DocExamples.Decimal.Extended
import DocExamples.Machine.Utility.Printing
import DocExamples.Proofs.ReadBack
import DocExamples.Proofs.Batch
import DocExamples.Proofs.Division
import DocExamples.Proofs.Scope
import DocExamples.Proofs.Junction
import DocExamples.Proofs.PathText
import DocExamples.Proofs.Agreement
import DocExamples.Proofs.Discovery
import DocExamples.Proofs.Distinction
import DocExamples.Proofs.Raising
import DocExamples.Proofs.Verdict
import DocExamples.Proofs.Traces
import DocExamples.Proofs.Reporting
import DocExamples.Proofs.Cutting
import DocExamples.Proofs.Openings
import DocExamples.Proofs.Escapes
import DocExamples.Proofs.Answers
import DocExamples.Proofs.Indentation
import DocExamples.Proofs.Provenance
import DocExamples.Proofs.Census
import DocExamples.Proofs.Clauses
import DocExamples.Proofs.Ambient
import DocExamples.Proofs.Declarations
import DocExamples.Proofs.Exports
import DocExamples.Proofs.Anchoring
import DocExamples.Proofs.Mentions
import DocExamples.Proofs.Straight
import DocExamples.Proofs.Origin
import DocExamples.Proofs.Literal
import DocExamples.Proofs.Sources
import DocExamples.Proofs.Templates
import DocExamples.Proofs.Targets
import DocExamples.Proofs.Footprint
import DocExamples.Proofs.EmptyBlocks
import DocExamples.Proofs.Naming
import DocExamples.Proofs.Owners
import DocExamples.Proofs.Bindable
import DocExamples.Proofs.Unspaced
import DocExamples.Proofs.Obstacles
import DocExamples.Proofs.Deadlines
import DocExamples.Proofs.Relinking
import DocExamples.Proofs.Remains
import DocExamples.Proofs.Revisits
import DocExamples.Proofs.FirstValue
