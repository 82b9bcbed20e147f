import ImportDispatch.Text.Blank
import ImportDispatch.Text.Lowercase
import ImportDispatch.Text.Quoted
import ImportDispatch.Text.Utf8
import ImportDispatch.Json.Reader
import ImportDispatch.Json.Printer
import ImportDispatch.Calendar.TimeText
import ImportDispatch.Zone.Names
import ImportDispatch.Import.Normal
import ImportDispatch.Import.Rules
import ImportDispatch.CommandLine
import ImportDispatch.Workflow
import ImportDispatch.Coordinator
import ImportDispatch.Workflow.Shapes
import ImportDispatch.Storage.Disk
import ImportDispatch.Storage.Shelf
import ImportDispatch.Http
import ImportDispatch.Engine.Ledger
import ImportDispatch.Engine.Remote
import ImportDispatch.Wire.Requests
import ImportDispatch.Engine.Reply
import ImportDispatch.Proofs.Workflow.Paths
import ImportDispatch.Proofs.JobId.Run
import ImportDispatch.Proofs.Service.Traffic
import ImportDispatch.Proofs.Service.Planning
import ImportDispatch.Proofs.Storage.Confinement
import ImportDispatch.Proofs.Storage.Removal
import ImportDispatch.Proofs.Text.Lowercase
import ImportDispatch.Proofs.Schedule.Placement
import ImportDispatch.Proofs.Coordinator.Build
import ImportDispatch.Proofs.Schedule.CalendarEnd
import ImportDispatch.Proofs.Service.Leavings
import ImportDispatch.Proofs.Service.OneDirectory
import ImportDispatch.Proofs.Storage.Creation
import ImportDispatch.Proofs.Markup.Reading
import ImportDispatch.Proofs.Workflow.Reading
import ImportDispatch.Proofs.Text.Replacement
import ImportDispatch.Proofs.Import.NormalForm
import ImportDispatch.Proofs.CommandLine.Arguments
import ImportDispatch.Proofs.CommandLine.Masking
import ImportDispatch.Proofs.Import.Modes
import ImportDispatch.Proofs.Workflow.Runs
import ImportDispatch.Proofs.Workflow.SavedJob
import ImportDispatch.Proofs.Wire.RoundTrip
import ImportDispatch.Proofs.Coordinator.Document
import ImportDispatch.Proofs.Coordinator.Window
import ImportDispatch.Proofs.Import.Verdict
import ImportDispatch.Proofs.JobId.Isolation
import ImportDispatch.Proofs.Import.Changes
import ImportDispatch.Proofs.Markup.Layout
import ImportDispatch.Proofs.Schedule.Gaps
import ImportDispatch.Proofs.Workflow.Cycles
import ImportDispatch.Proofs.CommandLine.Reading
import ImportDispatch.Proofs.JobId.Rounds
import ImportDispatch.Proofs.Schedule.Period
import ImportDispatch.Proofs.Import.Separators
import ImportDispatch.Proofs.Service.FlagFile
import ImportDispatch.Proofs.Markup.Conformance
import ImportDispatch.Proofs.Markup.WellFormed
import ImportDispatch.Proofs.Service.Documents
import ImportDispatch.Proofs.JobId.Reading
import ImportDispatch.Proofs.Import.Rules
import ImportDispatch.Proofs.Http.Recurring
