import Playbook.Browser.Bench
import Playbook.Browser.Call
import Playbook.Browser.Rehearsal
import Playbook.Browser.Session
import Playbook.CommandLine.Arguments
import Playbook.CommandLine.Program
import Playbook.Condition
import Playbook.Discovery
import Playbook.Disk.Basic
import Playbook.Disk.Path
import Playbook.Environment.Basic
import Playbook.Environment.Substitute
import Playbook.Failure
import Playbook.Glob.NamePattern
import Playbook.Glob.Search
import Playbook.Input
import Playbook.Json.Reader
import Playbook.Json.Writer
import Playbook.Log
import Playbook.Main
import Playbook.Moment
import Playbook.Number.Basic
import Playbook.Number.Binary64
import Playbook.Number.Fixed
import Playbook.Number.Shortest
import Playbook.Proofs.Run.Contract
import Playbook.Proofs.Run.Dispatch
import Playbook.Proofs.Run.Moves
import Playbook.Proofs.Run.Performing
import Playbook.Proofs.Script.Acceptance
import Playbook.Proofs.Script.Faithfulness
import Playbook.Proofs.Script.Grammar
import Playbook.Proofs.Script.Layout
import Playbook.Proofs.Script.Placement
import Playbook.Proofs.Script.Printer
import Playbook.Proofs.Script.Reading
import Playbook.Proofs.Script.RoundTrip
import Playbook.Proofs.Script.Saying
import Playbook.Proofs.Script.Shape
import Playbook.Proofs.Script.Template
import Playbook.Proofs.Script.Tree
import Playbook.Proofs.Text.Lines
import Playbook.Proofs.Text.Trimmed
import Playbook.Run.Cases
import Playbook.Run.Interpreter
import Playbook.Run.Recorder
import Playbook.Run.Report
import Playbook.Run.Result
import Playbook.Run.Summary
import Playbook.Script.Keyword
import Playbook.Script.Line
import Playbook.Script.Literal
import Playbook.Script.LoopHeader
import Playbook.Script.Parser
import Playbook.Script.Step
import Playbook.Settings.Basic
import Playbook.Settings.File
import Playbook.Settings.Schema
import Playbook.Shop.Action
import Playbook.Shop.Pages
import Playbook.Shop.Performance
import Playbook.Shop.Rule
import Playbook.Stage
import Playbook.Text.Aligned
import Playbook.Text.Blank
import Playbook.Text.Digit
import Playbook.Text.Lines
import Playbook.Text.Lowercase
import Playbook.Text.Order
import Playbook.Text.Printable
import Playbook.Text.Quoted
import Playbook.Text.Range
import Playbook.Text.Search
import Playbook.Text.Split
import Playbook.Text.Word
import Playbook.Value.Basic
import Playbook.Value.Display
import Playbook.Proofs.Run.Journal
import Playbook.Proofs.Run.FailFast
import Playbook.Proofs.Run.Simulation
import Playbook.Proofs.Run.Isolation
import Playbook.Proofs.Run.Looping
import Playbook.Proofs.Browser.Held
import Playbook.Proofs.Browser.Session
import Playbook.Proofs.Browser.Closing
import Playbook.Proofs.Shop.Orderly
import Playbook.Proofs.Run.Lasting
import Playbook.Proofs.Shop.OneBrowser
import Playbook.Proofs.Browser.Reach
import Playbook.Proofs.Browser.Ledger
import Playbook.Proofs.Browser.Course
import Playbook.Proofs.Shop.Usage
import Playbook.Proofs.CommandLine.Loading
import Playbook.Proofs.CommandLine.LogFile
import Playbook.Proofs.CommandLine.Exit
import Playbook.Proofs.Script.Spelling
import Playbook.Proofs.Script.Surface
import Playbook.Proofs.Shop.Acting
import Playbook.Proofs.Shop.Keeping
import Playbook.Proofs.Disk.Growth
import Playbook.Proofs.Shop.Records
import Playbook.Proofs.CommandLine.Outputs
import Playbook.Proofs.Shop.Titles
import Playbook.Proofs.Browser.Time
import Playbook.Proofs.Browser.Videos
import Playbook.Proofs.Shop.Evidence
import Playbook.Proofs.Environment.References
import Playbook.Proofs.Environment.Staging
import Playbook.Proofs.Run.Variables
import Playbook.Proofs.Script.Joining
import Playbook.Proofs.Script.Pieces
import Playbook.Proofs.Script.Extraction
import Playbook.Proofs.Script.Leftover
import Playbook.Proofs.Script.Replacement
import Playbook.Proofs.Shop.Failing
import Playbook.Proofs.Shop.Binding
import Playbook.Proofs.Shop.Filming
import Playbook.Proofs.Script.Header
import Playbook.Proofs.Script.HeaderReading
import Playbook.Proofs.Run.Splitting
import Playbook.Proofs.Run.Branching
import Playbook.Proofs.Browser.Launching
import Playbook.Proofs.Browser.Teardown
import Playbook.Proofs.Browser.Attempts
import Playbook.Proofs.Text.Lowercase
import Playbook.Proofs.Shop.Specificity
import Playbook.Proofs.Condition
import Playbook.Proofs.Shop.Remembering
import Playbook.Proofs.Text.Decimal
import Playbook.Proofs.Shop.Counting
import Playbook.Proofs.Json.RoundTrip
import Playbook.Proofs.Run.Entries
import Playbook.Proofs.Run.Telling
import Playbook.Proofs.Run.Recording
import Playbook.Proofs.Run.Tables
import Playbook.Proofs.Number
import Playbook.Proofs.Value
import Playbook.Proofs.Settings.Conformance
import Playbook.Proofs.Settings.Merging
import Playbook.Proofs.Settings.Independence
import Playbook.Proofs.Script.OnDisk
import Playbook.Proofs.Run.Sequence
import Playbook.Proofs.Except
import Playbook.Proofs.Text.Order
import Playbook.Proofs.Disk.Location
import Playbook.Proofs.Glob.Search
import Playbook.Proofs.Discovery.Contribution
import Playbook.Proofs.Discovery.Stability
import Playbook.Proofs.Discovery.Spellings
import Playbook.Proofs.Number.Rounding
import Playbook.Proofs.Moment.Text
import Playbook.Proofs.Moment.Duration
import Playbook.Proofs.Run.Durations
import Playbook.Proofs.Value.Equality
import Playbook.Proofs.Environment.Operations
import Playbook.Proofs.Environment.History
