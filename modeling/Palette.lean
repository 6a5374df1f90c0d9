import Palette.Foundation.Transition
import Palette.Foundation.Watermark
import Palette.Foundation.Sql
import Palette.Foundation.KeyedTable
import Palette.Foundation.Mirroring
import Palette.Lock.RWLock
import Palette.Lock.Holders
import Palette.Lock.Wakeup
import Palette.Lock.Misuse
import Palette.Load.Revisions
import Palette.Load.RevisionRuns
import Palette.Load.Extracts
import Palette.Load.NoLoss
import Palette.Load.Owners
import Palette.Sync.Tables
import Palette.Load.Queries
import Palette.Events.Generation
import Palette.Load.Jobs
import Palette.Http.Alerts
import Palette.Http.Load
import Palette.Http.Testing
import Palette.Sync.Exactness
import Palette.Sync.Users
import Palette.Sync.Frame
import Palette.Sync.Identities
import Palette.Foundation.Dictionary
import Palette.Foundation.History
import Palette.Status.MainState
import Palette.Status.Transitions
import Palette.Status.Settled
import Palette.Status.Repeated
import Palette.Status.Control
import Palette.Status.Freshness
import Palette.Status.Presence
import Palette.Agents.Manager
import Palette.Agents.Registration
import Palette.Agents.Connections
import Palette.Agents.Liveness
import Palette.Agents.Tracking
import Palette.Agents.Lookups
import Palette.Foundation.Script
import Palette.Foundation.Outcome
import Palette.Foundation.Exclusion
import Palette.Commands.Reply
import Palette.Commands.Scene
import Palette.Commands.Controller
import Palette.Commands.Handler
import Palette.Commands.Answers
import Palette.Commands.Robust
import Palette.Commands.Calm
import Palette.Commands.Restore
import Palette.Status.Leading
import Palette.Status.Degraded
import Palette.Commands.RestoreUrl
import Palette.Commands.Others
import Palette.Commands.Robustness
import Palette.Commands.Stopped
import Palette.Commands.Agreement
import Palette.Commands.RestoreAgreement
import Palette.Commands.Exclusion
import Palette.Cli.Json
import Palette.Cli.Wire
import Palette.Cli.SafeCommand
import Palette.Cli.Command
import Palette.Cli.Ends
import Palette.Cli.Harmless
import Palette.Cli.Starting
import Palette.Cli.Finishing
import Palette.Cli.Verdict
import Palette.Cli.Totality
import Palette.Foundation.Session
import Palette.Processes.Table
import Palette.Processes.Systeminfo
import Palette.Processes.Entries
import Palette.Processes.Reading
import Palette.Processes.Tabadmin
import Palette.Processes.Check
import Palette.Processes.Fidelity
import Palette.Processes.Atomicity
import Palette.Processes.StatusLines
import Palette.Processes.Unambiguous
import Palette.Foundation.SlidingWindow
import Palette.Alerts.Email
import Palette.Alerts.Limit
import Palette.Foundation.Shlex
import Palette.Foundation.JsonTokens
import Palette.Foundation.Json
import Palette.Telnet.Parsing
import Palette.Telnet.Totality
import Palette.Telnet.Encoding
import Palette.Telnet.Arrival
import Palette.Telnet.Quoting
import Palette.Telnet.Reporting
import Palette.Telnet.Decoding
import Palette.Telnet.Session
import Palette.Telnet.InStep
import Palette.Load.Pruning
import Palette.Load.Examinations
import Palette.Load.Thresholds
import Palette.Load.Outcomes
import Palette.Settings.Defaults
import Palette.Settings.Table
import Palette.Settings.Typed
import Palette.Files.Catalogue
import Palette.Files.PlaceFile
import Palette.Files.Truthful
import Palette.Files.Rotation
import Palette.Files.Kept
import Palette.Files.Rotations
import Palette.Foundation.Purge
import Palette.Metrics.Levels
import Palette.Metrics.Isolation
import Palette.Metrics.Colors
import Palette.Metrics.ColorRuns
import Palette.Alerts.Muting
import Palette.Alerts.Reconnects
import Palette.Foundation.Template
import Palette.Events.Values
import Palette.Events.Gen
import Palette.Events.Complete
import Palette.Foundation.SqlText
import Palette.Web.Statements
import Palette.Web.Lockout
import Palette.Web.Csrf
import Palette.Web.Login
import Palette.Foundation.Numerals
import Palette.Web.Archive
import Palette.Web.Revisions
import Palette.Foundation.Paging
import Palette.Web.ArchivePages
import Palette.Web.Monitor
import Palette.Web.MonitorColors
import Palette.Foundation.Newest
import Palette.Foundation.Superseded
import Palette.Load.PrunedRuns
import Palette.Archives.Tables
import Palette.Archives.Retention
import Palette.Archives.Retained
import Palette.Archives.Pruning
import Palette.Foundation.Alternation
import Palette.Alerts.Disks
import Palette.Alerts.DiskRuns
import Palette.Alerts.DiskArchives
import Palette.Alerts.DiskPasses
import Palette.Alerts.DiskRejections
import Palette.Alerts.Ports
import Palette.Metrics.Notified
import Palette.Alerts.Alternating
import Palette.Status.Maintenance
import Palette.Status.MaintenanceRuns
import Palette.Archives.Updates
import Palette.Licensing.Entries
import Palette.Licensing.Verdicts
import Palette.Files.Space
import Palette.Sync.Merging
import Palette.Foundation.Words
import Palette.Sched.Crontab
import Palette.Sched.Expansion
import Palette.Foundation.Recurrence
import Palette.Sched.LocalTime
import Palette.Agents.WorkerNames
import Palette.Status.CombinedBodies
import Palette.Foundation.Pieces
import Palette.Archives.FileNames
import Palette.Cli.Passwords
import Palette.Sync.Yml
import Palette.Files.SourcePaths
import Palette.Archives.Batch
import Palette.Foundation.Lines
import Palette.Logging.StreamLogger
import Palette.Logging.Chunks
import Palette.Http.Uris
import Palette.Upgrades.DefaultRows
import Palette.Upgrades.Versions
import Palette.ProcessManager.Prun
import Palette.ProcessManager.Requests
import Palette.ProcessManager.Replies
import Palette.ProcessManager.Results
import Palette.ProcessManager.Directories
import Palette.Foundation.Calendar
import Palette.Foundation.Cycle
import Palette.Foundation.Leaping
import Palette.Sched.Croniter
import Palette.Sched.CronDays
import Palette.Sched.CronFields
import Palette.Sched.CronFirst
import Palette.Sched.Scheduler
import Palette.Sched.Occurrences
import Palette.Sched.TimesOfDay
