import Runbook.Bindings
import Runbook.CommandLine.Assignment
import Runbook.CommandLine.Invocation
import Runbook.CommandLine.Options
import Runbook.CommandLine.Program
import Runbook.Configuration.Basic
import Runbook.Configuration.Conversion
import Runbook.Configuration.DotEnv
import Runbook.Configuration.Layer
import Runbook.Configuration.Load
import Runbook.Configuration.Path
import Runbook.Device.Codec
import Runbook.Device.Replay
import Runbook.Device.Script
import Runbook.Device.Session
import Runbook.Digest.Sha256
import Runbook.Document.Decoder
import Runbook.Document.Encoder
import Runbook.Document.Fault
import Runbook.Document.JsonPrinter
import Runbook.Document.JsonText
import Runbook.Document.Reading
import Runbook.Document.Toml.Edition
import Runbook.Document.Toml.Lexeme
import Runbook.Document.Toml.Reader
import Runbook.Document.Toml.Scalar
import Runbook.Document.Toml.Table
import Runbook.Document.Value
import Runbook.Error
import Runbook.Execution.Condition
import Runbook.Execution.Evaluate
import Runbook.Execution.Orchestrate
import Runbook.Execution.Procedure
import Runbook.Execution.Rehearsal
import Runbook.Execution.StageRun
import Runbook.Files.Basic
import Runbook.Files.Tree
import Runbook.Main
import Runbook.Name
import Runbook.Notification.Channel
import Runbook.Notification.Error
import Runbook.Notification.Event
import Runbook.Notification.Webhook
import Runbook.Number.Binary64
import Runbook.Number.Interval
import Runbook.Number.Numeral
import Runbook.Number.Real
import Runbook.Number.Shortest
import Runbook.Pattern.Bracket
import Runbook.Pattern.Compiled
import Runbook.Pattern.Encoding
import Runbook.Pattern.Escape
import Runbook.Pattern.Expression
import Runbook.Pattern.Flags
import Runbook.Pattern.Parser
import Runbook.Pattern.Program
import Runbook.Pattern.Search
import Runbook.Pattern.Size
import Runbook.Run.Codec
import Runbook.Run.Id
import Runbook.Run.Record
import Runbook.Run.Request
import Runbook.Run.Status
import Runbook.Run.Step
import Runbook.Service.Basic
import Runbook.Service.Timeline
import Runbook.Store.Error
import Runbook.Store.Outages
import Runbook.Store.Runs
import Runbook.Store.Workflows
import Runbook.Table
import Runbook.Template
import Runbook.Text.Blank
import Runbook.Text.Quoted
import Runbook.Text.Search
import Runbook.Time.Codec
import Runbook.Time.Instant
import Runbook.Time.Rfc3339
import Runbook.Unicode.Addition
import Runbook.Unicode.Age
import Runbook.Unicode.CaseFolding
import Runbook.Unicode.CaseMapping
import Runbook.Unicode.CharClass
import Runbook.Unicode.Composition
import Runbook.Unicode.DerivedProperty
import Runbook.Unicode.Direction
import Runbook.Unicode.GeneralCategory
import Runbook.Unicode.HostMapping
import Runbook.Unicode.Joining
import Runbook.Unicode.Property
import Runbook.Unicode.PropertyName
import Runbook.Unicode.RangeSet
import Runbook.Unicode.Script
import Runbook.Unicode.ScriptExtension
import Runbook.Unicode.Segmentation
import Runbook.Url.Address
import Runbook.Url.Basic
import Runbook.Url.Domain
import Runbook.Url.Host
import Runbook.Url.Parse
import Runbook.Url.Percent
import Runbook.Url.Punycode
import Runbook.Url.Request
import Runbook.Workflow.Codec
import Runbook.Workflow.Command
import Runbook.Workflow.Definition
import Runbook.Workflow.Id
import Runbook.Workflow.Load
import Runbook.Workflow.Matching
import Runbook.Workflow.Operator
import Runbook.Workflow.Source
import Runbook.Workflow.Stage
import Runbook.Workflow.Validation
import Runbook.Proofs.Execution.Action
import Runbook.Proofs.Execution.History
import Runbook.Proofs.Execution.Course
import Runbook.Proofs.Execution.Evaluation
import Runbook.Proofs.Execution.Shape
import Runbook.Proofs.Execution.Conclusion
import Runbook.Proofs.Execution.FailStop
import Runbook.Proofs.Execution.Bench
import Runbook.Proofs.Execution.Verdict
import Runbook.Proofs.Execution.Reconstruction
import Runbook.Proofs.Execution.Explanation
import Runbook.Proofs.Execution.Walk
import Runbook.Proofs.Execution.Likeness
import Runbook.Proofs.Execution.Cancellation
import Runbook.Proofs.Execution.Moment
import Runbook.Proofs.Execution.Ledger
import Runbook.Proofs.Execution.Outage
import Runbook.Proofs.Execution.Advance
import Runbook.Proofs.Execution.Itinerary
import Runbook.Proofs.Execution.Conduct
import Runbook.Proofs.Execution.Chronicle
import Runbook.Proofs.Execution.Transcript
import Runbook.Proofs.Execution.Acceptance
import Runbook.Proofs.Execution.Announcement
import Runbook.Proofs.Device.Occupation
import Runbook.Proofs.Device.Recording
import Runbook.Proofs.Execution.Replay
import Runbook.Proofs.Template.Resolution
import Runbook.Proofs.Workflow.Validation
import Runbook.Proofs.Pattern.Literal
import Runbook.Proofs.Pattern.Meaning
import Runbook.Proofs.Pattern.Machine
import Runbook.Proofs.Pattern.Threads
import Runbook.Proofs.Pattern.Search
import Runbook.Proofs.Execution.Provenance
import Runbook.Proofs.Execution.Cause
import Runbook.Proofs.Execution.Assurance
import Runbook.Proofs.Run.Operation
import Runbook.Proofs.Execution.Indifference
import Runbook.Proofs.Service.Interleaving
import Runbook.Proofs.Service.Biography
import Runbook.Proofs.Service.Tenancy
import Runbook.Proofs.Service.Schedule
import Runbook.Proofs.Service.Bookkeeping
import Runbook.Proofs.Service.Retention
import Runbook.Proofs.Service.Refusal
import Runbook.Proofs.Execution.Assignment
import Runbook.Proofs.Service.Cancellation
import Runbook.Proofs.Service.Isolation
import Runbook.Proofs.Device.Pool
import Runbook.Proofs.Document.Conveyance
import Runbook.Proofs.Document.Spelling
import Runbook.Proofs.Template.Division
import Runbook.Proofs.Time.Calendar
import Runbook.Proofs.Time.Timestamp
import Runbook.Proofs.Workflow.Conveyance
import Runbook.Proofs.Number.Decimal
import Runbook.Proofs.Run.Conveyance
import Runbook.Proofs.Execution.Upkeep
import Runbook.Proofs.Execution.Archive
import Runbook.Proofs.Workflow.Matching
import Runbook.Proofs.Execution.Judgement
import Runbook.Proofs.Execution.Condition
import Runbook.Proofs.Execution.Effect
import Runbook.Proofs.Execution.Coherence
import Runbook.Proofs.Device.Succession
import Runbook.Proofs.Device.Listing
import Runbook.Proofs.Document.Assembly
import Runbook.Proofs.Document.Rearrangement
import Runbook.Proofs.Workflow.Rearrangement
import Runbook.Proofs.Workflow.Branching
import Runbook.Proofs.Execution.Branching
import Runbook.Proofs.Store.Contents
import Runbook.Proofs.Run.Discipline
import Runbook.Proofs.Configuration.Overlay
import Runbook.Proofs.Configuration.Setting
import Runbook.Proofs.Workflow.Naming
import Runbook.Proofs.Run.Identifier
