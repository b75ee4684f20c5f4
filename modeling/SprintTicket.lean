import SprintTicket.Logic.Transition
import SprintTicket.Logic.AppendLog
import SprintTicket.Logic.OptimisticUpdate
import SprintTicket.Logic.Checks
import SprintTicket.Logic.JsonSyntax
import SprintTicket.Logic.JsonDump
import SprintTicket.Logic.Latest
import SprintTicket.Logic.Effects
import SprintTicket.Logic.Canonical
import SprintTicket.Logic.PrefixCode
import SprintTicket.Logic.Substitution
import SprintTicket.Logic.Records
import SprintTicket.Logic.Digits
import SprintTicket.Logic.Calendar
import SprintTicket.Text
import SprintTicket.Errors
import SprintTicket.Datetimes
import SprintTicket.Timestamps
import SprintTicket.Models
import SprintTicket.Json
import SprintTicket.TaskResults
import SprintTicket.AgentExecution
import SprintTicket.ExecutionEvidence
import SprintTicket.GitSafety
import SprintTicket.AtomicWrite
import SprintTicket.Attempts.Record
import SprintTicket.Attempts.Update
import SprintTicket.Attempts.Concurrent
import SprintTicket.Attempts.Ledger
import SprintTicket.Attempts.ProcessStart
import SprintTicket.Runs
import SprintTicket.RunDirectory
import SprintTicket.ReadJson
import SprintTicket.WriteJson
import SprintTicket.Attempts.Codec
import SprintTicket.Attempts.RoundTrip
import SprintTicket.Attempts.Surrogates
import SprintTicket.Attempts.Directory
import SprintTicket.Attempts.Log
import SprintTicket.VerificationEvidence
import SprintTicket.HandoffAcceptance
import SprintTicket.HandoffSoundness
import SprintTicket.WorkspaceGuard
import SprintTicket.Guarded.Outcome
import SprintTicket.Guarded.Tracker
import SprintTicket.Guarded.Operation
import SprintTicket.Guarded.Success
import SprintTicket.Guarded.Failure
import SprintTicket.Guarded.Totality
import SprintTicket.Guarded.Stages
import SprintTicket.Lifecycle.Contracts
import SprintTicket.Lifecycle.Handlers
import SprintTicket.Lifecycle.Resume
import SprintTicket.CorrectionPlanner
import SprintTicket.Lifecycle.Store
import SprintTicket.Lifecycle.Dispatch
import SprintTicket.Lifecycle.Drive
import SprintTicket.Lifecycle.PassEffect
import SprintTicket.Lifecycle.Bounded
import SprintTicket.Lifecycle.FailureHandling
import SprintTicket.Lifecycle.Sessions
import SprintTicket.Lifecycle.AtMostOnce
import SprintTicket.Lifecycle.History
import SprintTicket.Lifecycle.StateEvidence
import SprintTicket.Lifecycle.PendingCorrection
import SprintTicket.Verification.Round
import SprintTicket.Workspace.Snapshot
import SprintTicket.Workspace.Fingerprint
import SprintTicket.Workspace.Scan
import SprintTicket.Prompts
import SprintTicket.Codex.EventObserver
import SprintTicket.Codex.StreamWorker
import SprintTicket.Codex.Monitor
import SprintTicket.Codex.Publication
import SprintTicket.Codex.PublishedOutput
import SprintTicket.Codex.CapturedOutput
import SprintTicket.Codex.Runner
import SprintTicket.Codex.Adapter
import SprintTicket.Codex.UnconfirmedCleanup
import SprintTicket.Codex.SuccessSoundness
import SprintTicket.Workspace.Git
import SprintTicket.Workspace.Capture
import SprintTicket.PatchCounts
import SprintTicket.Workspace.NewEnvironments
import SprintTicket.Workspace.Markers
import SprintTicket.Policy.Resolved
import SprintTicket.Policy.Codec
import SprintTicket.Config
import SprintTicket.Policy.Resolve
import SprintTicket.RunCodec
import SprintTicket.RunListing
import SprintTicket.RunReservation
import SprintTicket.EvidenceCodec
import SprintTicket.Logic.Utf8
import SprintTicket.Logic.Utf8Stream
import SprintTicket.Audit
import SprintTicket.Baseline
import SprintTicket.Locking.Metadata
import SprintTicket.Locking.Protocol
import SprintTicket.Locking.Ownership
import SprintTicket.CorruptFiles
