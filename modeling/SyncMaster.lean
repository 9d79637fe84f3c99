import SyncMaster.Library.Machine
import SyncMaster.Library.Table
import SyncMaster.Library.Program
import SyncMaster.Library.TwoRuns
import SyncMaster.Library.Assoc
import SyncMaster.Library.Validation
import SyncMaster.Library.Python
import SyncMaster.Library.Words
import SyncMaster.Library.Templates
import SyncMaster.Library.Stretches
import SyncMaster.Library.SqlLexer
import SyncMaster.Library.SqlGrammar
import SyncMaster.Library.SqlDialects
import SyncMaster.Library.Watermark
import SyncMaster.Library.Paging
import SyncMaster.Library.TextQueries
import SyncMaster.Library.Partitions
import SyncMaster.Db.Columns
import SyncMaster.Db.Models
import SyncMaster.Schemas
import SyncMaster.Schemas.Values
import SyncMaster.Schemas.FileFormats
import SyncMaster.Schemas.Transformations
import SyncMaster.Schemas.TransferParams
import SyncMaster.Schemas.Transfers
import SyncMaster.Schemas.ReadTransfer
import SyncMaster.Schemas.Auth
import SyncMaster.Schemas.Connections
import SyncMaster.Db.Repositories
import SyncMaster.Db.Writes
import SyncMaster.Server.Endpoints
import SyncMaster.Server.Reads
import SyncMaster.Server.Api
import SyncMaster.Server.Permissions
import SyncMaster.Server.Outcomes
import SyncMaster.Server.Effects
import SyncMaster.Server.Failures
import SyncMaster.Server.Driver
import SyncMaster.Server.Runs
import SyncMaster.Tenancy.Isolation
import SyncMaster.Tenancy.Escalation
import SyncMaster.Queues.Names
import SyncMaster.Queues.Slugs
import SyncMaster.Server.FailedRequests
import SyncMaster.Transfers.Types
import SyncMaster.Credentials.Secrets
import SyncMaster.Credentials.Stored
import SyncMaster.Credentials.Update
import SyncMaster.Credentials.NonInterference
import SyncMaster.Transfers.Copy
import SyncMaster.Scheduler.Convergence
import SyncMaster.Scheduler.Polling
import SyncMaster.Scheduler.BadSchedules
import SyncMaster.Scheduler.FireTimes
import SyncMaster.Run.Once
import SyncMaster.Run.Stop
import SyncMaster.Run.Terminal
import SyncMaster.Run.Settled
import SyncMaster.Worker.ConnectionDTO
import SyncMaster.Worker.TransferDTO
import SyncMaster.Worker.Controller
import SyncMaster.Worker.Hwm
import SyncMaster.Worker.FileHandlers
import SyncMaster.Worker.FileReaders
import SyncMaster.Worker.FileNames
import SyncMaster.Worker.FileMoves
import SyncMaster.Worker.FileRuns
import SyncMaster.Worker.RowFilters
import SyncMaster.Run.Dump
import SyncMaster.Worker.Overwrites
import SyncMaster.Server.TransferBodies
import SyncMaster.Tenancy.Roles
import SyncMaster.Listings.Names
import SyncMaster.Listings.Repositories
import SyncMaster.Listings.Pages
import SyncMaster.Listings.Groups
import SyncMaster.Listings.Search
import SyncMaster.Listings.SearchPages
import SyncMaster.Server.ReadRoutes
import SyncMaster.Tenancy.ReadIsolation
import SyncMaster.Tenancy.Promotion
import SyncMaster.Server.Answers
import SyncMaster.Server.ReadAnswers
import SyncMaster.Server.Continuity
import SyncMaster.Server.Starts
import SyncMaster.Tenancy.Provenance
import SyncMaster.Credentials.Copies
import SyncMaster.Transfers.ReadBack
import SyncMaster.Auth.Providers
import SyncMaster.Auth.Identities
import SyncMaster.Auth.Refinement
import SyncMaster.Auth.Tokens
import SyncMaster.Auth.Certificates
import SyncMaster.Worker.Interruptions
