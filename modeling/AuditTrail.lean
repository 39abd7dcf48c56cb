import AuditTrail.Main
import AuditTrail.Metrics
import AuditTrail.Simulation.Serve
import AuditTrail.Proofs.Lines
import AuditTrail.Proofs.Dispatch
import AuditTrail.Proofs.Files.Basic
import AuditTrail.Proofs.Files.Find
import AuditTrail.Proofs.Files.Content
import AuditTrail.Proofs.Rotation
import AuditTrail.Proofs.Site.Basic
import AuditTrail.Proofs.Site.Conservation
import AuditTrail.Proofs.Backup
import AuditTrail.Proofs.Path
import AuditTrail.Proofs.Sweep
import AuditTrail.Proofs.Directory
import AuditTrail.Proofs.Site.Suffixes
import AuditTrail.Proofs.Site.Backups
import AuditTrail.Proofs.SharedLog.Basic
import AuditTrail.Proofs.SharedLog.Exact
import AuditTrail.Proofs.Listing
import AuditTrail.Proofs.Site.Order
import AuditTrail.Proofs.Site.Retention
import AuditTrail.Proofs.JobSystem.Basic
import AuditTrail.Proofs.JobSystem.Forever
import AuditTrail.Proofs.JobSystem.Watched
import AuditTrail.Proofs.JobSystem.Unread
import AuditTrail.Proofs.Json.Spelling
import AuditTrail.Proofs.Json.Text
import AuditTrail.Proofs.Json.Layout
import AuditTrail.Proofs.Record.RoundTrip
import AuditTrail.Proofs.Record.Tolerance
import AuditTrail.Proofs.JobRuntime.Basic
import AuditTrail.Proofs.JobRuntime.Automaton
import AuditTrail.Proofs.JobRuntime.Ticks
import AuditTrail.Proofs.Text
import AuditTrail.Proofs.Config.Accepted
import AuditTrail.Proofs.Directives
import AuditTrail.Proofs.Startup
import AuditTrail.Proofs.Duration
import AuditTrail.Proofs.Toml.Text
import AuditTrail.Proofs.Toml.Document
import AuditTrail.Proofs.Config.RoundTrip
import AuditTrail.Proofs.Config.Layers
import AuditTrail.Proofs.Undisturbed
import AuditTrail.Proofs.Utf8
import AuditTrail.Proofs.Expiry
import AuditTrail.Proofs.Counters
import AuditTrail.Proofs.CallSession
import AuditTrail.Proofs.Json.Quoted
import AuditTrail.Proofs.Record.Seen
import AuditTrail.Proofs.Record.Illegible
import AuditTrail.Proofs.Interruption
import AuditTrail.Proofs.Ownership
import AuditTrail.Proofs.Agreement
import AuditTrail.Proofs.Uri.Escape
import AuditTrail.Proofs.Uri.Target
import AuditTrail.Proofs.Config.Variables
import AuditTrail.Proofs.Directives.Text
import AuditTrail.Proofs.Record.Slots
import AuditTrail.Proofs.Record.Forms
import AuditTrail.Proofs.Json.Integer
import AuditTrail.Proofs.Record.Exact
import AuditTrail.Proofs.JobRuntime.Service
import AuditTrail.Proofs.Naming
import AuditTrail.Proofs.Lossy
import AuditTrail.Proofs.Uri.Encoding
