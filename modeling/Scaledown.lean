import Scaledown.Accelerator.Command
import Scaledown.Accelerator.Deletion
import Scaledown.Batch.Request
import Scaledown.Batch.Response
import Scaledown.CommandLine.Arguments
import Scaledown.CommandLine.Failure
import Scaledown.CommandLine.LogFilter
import Scaledown.CommandLine.Outcome
import Scaledown.CommandLine.Pattern
import Scaledown.CommandLine.Run
import Scaledown.Compute.Account
import Scaledown.Compute.Answer
import Scaledown.Compute.Client
import Scaledown.Compute.Error
import Scaledown.Compute.Instance
import Scaledown.Compute.Inventory
import Scaledown.Compute.Operation
import Scaledown.Compute.Outcome
import Scaledown.Compute.Service
import Scaledown.Compute.Throttling
import Scaledown.Compute.Token
import Scaledown.Config.Basic
import Scaledown.Config.Reader
import Scaledown.Deletion.Drain
import Scaledown.Deletion.RetryQueue
import Scaledown.Deletion.Round
import Scaledown.Deletion.Selection
import Scaledown.Duration
import Scaledown.Http.Message
import Scaledown.Http.Network
import Scaledown.Json.Reader
import Scaledown.Json.Record
import Scaledown.Json.Token
import Scaledown.Json.Value
import Scaledown.Json.Writer
import Scaledown.Location
import Scaledown.Main
import Scaledown.Node
import Scaledown.OperatingSystem.File
import Scaledown.OperatingSystem.Program
import Scaledown.Placement.Cleanup
import Scaledown.Placement.Group
import Scaledown.Reply
import Scaledown.Scheduler.Basic
import Scaledown.Scheduler.Command
import Scaledown.Scheduler.NodeStates
import Scaledown.Session
import Scaledown.Simulation.Machine
import Scaledown.Simulation.Network
import Scaledown.Simulation.Script
import Scaledown.Simulation.Site
import Scaledown.Suspend.Error
import Scaledown.Suspend.Report
import Scaledown.Suspend.Run
import Scaledown.Suspend.Summary
import Scaledown.Table
import Scaledown.Text.Alphanumeric
import Scaledown.Text.Blank
import Scaledown.Text.Case
import Scaledown.Text.CodeTable
import Scaledown.Text.Composition
import Scaledown.Text.Decimal
import Scaledown.Text.Direction
import Scaledown.Text.Hex
import Scaledown.Text.Joining
import Scaledown.Text.Mark
import Scaledown.Text.Percent
import Scaledown.Text.Quoted
import Scaledown.Text.Split
import Scaledown.Text.Unprintable
import Scaledown.Text.Utf8
import Scaledown.Toml.Document
import Scaledown.Toml.Number
import Scaledown.Toml.Quoted
import Scaledown.Toml.Record
import Scaledown.Toml.Scan
import Scaledown.Toml.Value
import Scaledown.Trigger
import Scaledown.Url.Basic
import Scaledown.Url.Domain
import Scaledown.Url.Domain.Label
import Scaledown.Url.Domain.Mapping
import Scaledown.Url.Escape
import Scaledown.Url.Host
import Scaledown.Url.Path
import Scaledown.Url.Punycode
import Scaledown.Url.Reader
import Scaledown.Waiting
import Scaledown.Proofs.Deletion.RetryQueue
import Scaledown.Proofs.Deletion.Round
import Scaledown.Proofs.Deletion.Drain
import Scaledown.Proofs.Deletion.Resubmission
import Scaledown.Proofs.Scheduler.NodeStates
import Scaledown.Proofs.Waiting
import Scaledown.Proofs.Accelerator.Deletion
import Scaledown.Proofs.Location
import Scaledown.Proofs.Suspend.Selection
import Scaledown.Proofs.Placement.Cleanup
import Scaledown.Proofs.Suspend.Location
import Scaledown.Proofs.Suspend.Stages
import Scaledown.Proofs.Suspend.Conservation
import Scaledown.Proofs.Suspend.Readmission
import Scaledown.Proofs.Session.Locality
import Scaledown.Proofs.Deletion.Locality
import Scaledown.Proofs.Session.Ending
import Scaledown.Proofs.Waiting.Locality
import Scaledown.Proofs.Suspend.Progress
import Scaledown.Proofs.Suspend.Disposition
import Scaledown.Proofs.Suspend.Isolation
import Scaledown.Proofs.Suspend.Failure
import Scaledown.Proofs.Suspend.Placement
import Scaledown.Proofs.Suspend.Exclusivity
import Scaledown.Proofs.Deletion.Pacing
import Scaledown.Proofs.Deletion.Transparency
import Scaledown.Proofs.Scheduler.Lifecycle
import Scaledown.Proofs.Scheduler.Legality
import Scaledown.Proofs.Config.Validation
import Scaledown.Proofs.Text.Decimal
import Scaledown.Proofs.Text.Case
import Scaledown.Proofs.Batch.Message
import Scaledown.Proofs.Suspend.Expansion
import Scaledown.Proofs.Location.Lookup
import Scaledown.Proofs.Location.Presence
import Scaledown.Proofs.Compute.Page
import Scaledown.Proofs.Compute.Listing
import Scaledown.Proofs.Session.Pace
import Scaledown.Proofs.Suspend.Groups
import Scaledown.Proofs.Waiting.Polling
import Scaledown.Proofs.CommandLine.Environment
import Scaledown.Proofs.Batch.Calls
import Scaledown.Proofs.Suspend.Naming
import Scaledown.Proofs.Duration
import Scaledown.Proofs.Compute.Token
import Scaledown.Proofs.Json.Spacing
import Scaledown.Proofs.Json.Writer
import Scaledown.Proofs.Json.Edit
import Scaledown.Proofs.Compute.Operation
import Scaledown.Proofs.Compute.Throttling
