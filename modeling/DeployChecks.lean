import DeployChecks.Bench.Step
import DeployChecks.Bench.World
import DeployChecks.CheckGroup
import DeployChecks.Decimal.Binary64
import DeployChecks.Decimal.Layout
import DeployChecks.Decimal.Power
import DeployChecks.Decimal.Reading
import DeployChecks.Decimal.Shortest
import DeployChecks.DefinitionRegistry
import DeployChecks.Engine.Pass
import DeployChecks.Engine.World
import DeployChecks.EventChannel
import DeployChecks.EventSink
import DeployChecks.ItemStatus
import DeployChecks.Json.Basic
import DeployChecks.Json.Decode
import DeployChecks.Json.Number
import DeployChecks.Json.Parser
import DeployChecks.Json.Printer
import DeployChecks.Json.Raw
import DeployChecks.Keyed
import DeployChecks.Log.Console
import DeployChecks.Log.Filter
import DeployChecks.Log.Record
import DeployChecks.Log.TaskOperation
import DeployChecks.PhaseEvent
import DeployChecks.PhaseItem
import DeployChecks.Reconciliation
import DeployChecks.Settings.Basic
import DeployChecks.Settings.File
import DeployChecks.Settings.Key
import DeployChecks.Settings.Layers
import DeployChecks.Settings.Override
import DeployChecks.Settings.Tree
import DeployChecks.Settings.Variables
import DeployChecks.SpanRegistry
import DeployChecks.StatusSummary
import DeployChecks.StringMap
import DeployChecks.Task
import DeployChecks.Task.Name
import DeployChecks.Task.Stamp
import DeployChecks.TaskDefinition
import DeployChecks.TaskState
import DeployChecks.TaskStore
import DeployChecks.Telemetry.Basic
import DeployChecks.Telemetry.Endpoint
import DeployChecks.Text.Blank
import DeployChecks.Text.CaseTable
import DeployChecks.Text.Hex
import DeployChecks.Text.Lowercase
import DeployChecks.Text.Percent
import DeployChecks.Text.PrintableTable
import DeployChecks.Text.Quoted
import DeployChecks.Text.Range
import DeployChecks.Timestamp.Basic
import DeployChecks.Timestamp.Reader
import DeployChecks.Toml.Basic
import DeployChecks.Toml.Document
import DeployChecks.Toml.Moment
import DeployChecks.Toml.Number
import DeployChecks.Toml.Statement
import DeployChecks.Toml.Text
import DeployChecks.Trace.Baggage
import DeployChecks.Trace.Context
import DeployChecks.Trace.State
import DeployChecks.Trace.Tracer
import DeployChecks.Proofs.Codec.Digits
import DeployChecks.Proofs.Codec.Grammar
import DeployChecks.Proofs.Codec.Timestamps
import DeployChecks.Proofs.Codec.Shape
import DeployChecks.Proofs.Codec.Records
import DeployChecks.Proofs.Codec.Models
import DeployChecks.Proofs.Codec.Survival
import DeployChecks.Proofs.Engine.Scene
import DeployChecks.Proofs.Engine.Course
import DeployChecks.Proofs.Engine.Invariant
import DeployChecks.Proofs.Engine.News
import DeployChecks.Proofs.Engine.Once
import DeployChecks.Proofs.Engine.Declared
import DeployChecks.Proofs.Engine.Failure
import DeployChecks.Proofs.Engine.Lockstep
import DeployChecks.Proofs.Engine.Script
import DeployChecks.Proofs.Host.Memory
import DeployChecks.Proofs.Host.Run
import DeployChecks.Proofs.Host.Entries
import DeployChecks.Proofs.Host.Ownership
import DeployChecks.Proofs.Host.Watch
import DeployChecks.Proofs.Host.Bindings
import DeployChecks.Proofs.Host.Work
import DeployChecks.Proofs.Host.Repeat
import DeployChecks.Proofs.Host.Renaming
import DeployChecks.Proofs.Host.Resumption
import DeployChecks.Proofs.Host.FixedPoint
import DeployChecks.Proofs.Rounds.Announcements
import DeployChecks.Proofs.Rounds.Basic
import DeployChecks.Proofs.Rounds.Frozen
import DeployChecks.Proofs.Rounds.Shape
import DeployChecks.Proofs.Rounds.Onlookers
import DeployChecks.Proofs.Rounds.Verdict
import DeployChecks.Proofs.Rounds.Independence
import DeployChecks.Proofs.Rounds.Bookkeeping
import DeployChecks.Proofs.Shared.Weave
import DeployChecks.Proofs.Shared.Stitches
import DeployChecks.Proofs.Shared.Counts
import DeployChecks.Proofs.Shared.Retelling
import DeployChecks.Proofs.Shared.Separation
import DeployChecks.Proofs.Shared.Interleaving
import DeployChecks.Proofs.Lists
import DeployChecks.Proofs.Spans.Account
import DeployChecks.Proofs.Spans.Replay
import DeployChecks.Proofs.Spans.Findings
import DeployChecks.Proofs.Spans.Exports
import DeployChecks.Proofs.Keyed
import DeployChecks.Proofs.Definitions.History
import DeployChecks.Proofs.Tasks.History
import DeployChecks.Proofs.Spans.Conservation
import DeployChecks.Proofs.Trace.Headers
import DeployChecks.Proofs.Tasks.Names
import DeployChecks.Proofs.Tasks.NameParts
import DeployChecks.Proofs.Trace.Stamping
import DeployChecks.Proofs.Text.Lowercase
import DeployChecks.Proofs.StatusSummary
import DeployChecks.Proofs.Events.Delivery
import DeployChecks.Proofs.Settings.Validity
import DeployChecks.Proofs.Settings.Leaves
import DeployChecks.Proofs.Settings.Paths
import DeployChecks.Proofs.Settings.Keys
import DeployChecks.Proofs.Settings.Variables
import DeployChecks.Proofs.Settings.Rendering
import DeployChecks.Proofs.Settings.Written
import DeployChecks.Proofs.Settings.Layering
