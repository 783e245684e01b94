import Lockstep.CommandLine.Arguments
import Lockstep.CommandLine.Program
import Lockstep.Display.Bridge
import Lockstep.Display.Dashboard
import Lockstep.Display.Screen
import Lockstep.Display.Session
import Lockstep.Display.Signal
import Lockstep.Field.Basic
import Lockstep.Field.Motion
import Lockstep.Field.Server
import Lockstep.Journal.Directive
import Lockstep.Journal.Filter
import Lockstep.Journal.Line
import Lockstep.Journal.Narration
import Lockstep.Journal.Pattern
import Lockstep.Json.Codec
import Lockstep.Json.Document
import Lockstep.Json.Lexeme
import Lockstep.Json.Reader
import Lockstep.Json.Value
import Lockstep.Main
import Lockstep.Number.Binary64
import Lockstep.Number.Decimal
import Lockstep.Number.Hex
import Lockstep.Number.Numeral
import Lockstep.Number.Power
import Lockstep.Number.Rounding
import Lockstep.Number.Shortest
import Lockstep.Proofs.CommandLine.Sessions
import Lockstep.Proofs.Display.Header
import Lockstep.Proofs.Display.Threads
import Lockstep.Proofs.Display.Waiters
import Lockstep.Proofs.Display.Window
import Lockstep.Proofs.Field.Isolation
import Lockstep.Proofs.Field.Order
import Lockstep.Proofs.Field.Parties
import Lockstep.Proofs.Field.Schedules
import Lockstep.Proofs.Field.Server
import Lockstep.Proofs.Field.Stages
import Lockstep.Proofs.Json.RoundTrip
import Lockstep.Proofs.Run.Areas
import Lockstep.Proofs.Run.Budget
import Lockstep.Proofs.Run.Calls
import Lockstep.Proofs.Run.Delivery
import Lockstep.Proofs.Run.EarlyExit
import Lockstep.Proofs.Run.Errors
import Lockstep.Proofs.Run.Guards
import Lockstep.Proofs.Run.Law
import Lockstep.Proofs.Run.Ledger
import Lockstep.Proofs.Run.Notes
import Lockstep.Proofs.Run.Panel
import Lockstep.Proofs.Run.Turns
import Lockstep.Proofs.Shared.Scripts
import Lockstep.Proofs.Time.Sharing
import Lockstep.Proofs.Trial.Accounting
import Lockstep.Proofs.Trial.Checks
import Lockstep.Proofs.Trial.Endings
import Lockstep.Proofs.Trial.Faults
import Lockstep.Proofs.Trial.Panics
import Lockstep.Proofs.Trial.Recording
import Lockstep.Proofs.Validation.Breaking
import Lockstep.Proofs.Validation.History
import Lockstep.Proofs.Validation.Independence
import Lockstep.Proofs.Validation.Matching
import Lockstep.Proofs.Validation.Probes
import Lockstep.Proofs.Validation.Progress
import Lockstep.Proofs.Validation.Repeats
import Lockstep.Proofs.Validation.Replies
import Lockstep.Proofs.Validation.Standing
import Lockstep.Random.Keystream
import Lockstep.Random.Normal
import Lockstep.Random.Uniform
import Lockstep.Random.Ziggurat
import Lockstep.Run.Destination
import Lockstep.Run.Driver
import Lockstep.Run.Export
import Lockstep.Run.Observer
import Lockstep.Run.Orchestrator
import Lockstep.Run.Outcome
import Lockstep.Run.Rig
import Lockstep.Run.RunId
import Lockstep.Shared
import Lockstep.Text.Alphanumeric
import Lockstep.Text.Blank
import Lockstep.Text.Escaped
import Lockstep.Text.Ranges
import Lockstep.Text.Unprintable
import Lockstep.Time.Clock
import Lockstep.Time.Span
import Lockstep.Time.Timing
import Lockstep.Trial.Basic
import Lockstep.Trial.Check
import Lockstep.Trial.Config
import Lockstep.Trial.Scenario
import Lockstep.Validation.Engine
import Lockstep.Validation.Predicate
import Lockstep.Validation.Report
import Lockstep.Validation.Script
import Lockstep.Validation.Sequence
import Lockstep.Validation.Verdict
import Lockstep.World.Point
import Lockstep.World.Region
import Lockstep.World.Snapshot
