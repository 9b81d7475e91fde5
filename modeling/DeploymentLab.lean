import DeploymentLab.Library.Interaction
import DeploymentLab.Library.Script
import DeploymentLab.Library.Trace
import DeploymentLab.Library.Play
import DeploymentLab.Library.Table
import DeploymentLab.Library.Transactions
import DeploymentLab.Library.Reading
import DeploymentLab.Model.Json
import DeploymentLab.Model.Vocabulary
import DeploymentLab.Model.Tasks
import DeploymentLab.Model.Database
import DeploymentLab.Model.Migrations
import DeploymentLab.Model.TaskService
import DeploymentLab.Model.Url
import DeploymentLab.Model.Persistence
import DeploymentLab.Model.Worker
import DeploymentLab.Model.Providers
import DeploymentLab.Model.Handler
import DeploymentLab.Model.World
import DeploymentLab.Model.Coordination
import DeploymentLab.Model.Runner
import DeploymentLab.Model.Fleet
import DeploymentLab.Model.Slack
import DeploymentLab.Model.Policy
import DeploymentLab.Model.Workflow
import DeploymentLab.Model.Config
import DeploymentLab.Model.Connectors
import DeploymentLab.Model.Catalog
import DeploymentLab.Model.Http
import DeploymentLab.Model.SlackClient
import DeploymentLab.Model.Delays
import DeploymentLab.Model.PyValue
import DeploymentLab.Model.PyJson
import DeploymentLab.Model.Requests
import DeploymentLab.Proofs.TaskRecord
import DeploymentLab.Proofs.TaskTransactions
import DeploymentLab.Proofs.Ledger
import DeploymentLab.Proofs.TaskLifecycle
import DeploymentLab.Proofs.TaskInvariant
import DeploymentLab.Proofs.MigrationRoundTrip
import DeploymentLab.Proofs.Fencing
import DeploymentLab.Proofs.RunnerScript
import DeploymentLab.Proofs.RunnerCauses
import DeploymentLab.Proofs.Cancellation
import DeploymentLab.Proofs.TaskRows
import DeploymentLab.Proofs.AttemptLimit
import DeploymentLab.Proofs.ScopeTrace
import DeploymentLab.Proofs.SlackScript
import DeploymentLab.Proofs.SlackCustody
import DeploymentLab.Proofs.SlackReceipt
import DeploymentLab.Proofs.SlackDelay
import DeploymentLab.Proofs.Footprint
import DeploymentLab.Proofs.PolicyOrder
import DeploymentLab.Proofs.History
import DeploymentLab.Proofs.Chronicle
import DeploymentLab.Proofs.Checkpoints
import DeploymentLab.Proofs.RowAlone
import DeploymentLab.Proofs.Reconciliation
import DeploymentLab.Proofs.CommentAuthors
import DeploymentLab.Proofs.CommentContent
import DeploymentLab.Proofs.CanonicalJson
import DeploymentLab.Proofs.ScopeKeys
import DeploymentLab.Proofs.SlackUnsent
import DeploymentLab.Proofs.Redaction
import DeploymentLab.Proofs.CatalogPolicy
import DeploymentLab.Proofs.CatalogRecords
import DeploymentLab.Proofs.Snapshots
import DeploymentLab.Proofs.MarkerSearch
import DeploymentLab.Proofs.Escaping
import DeploymentLab.Proofs.MessageTemplate
import DeploymentLab.Proofs.MarkerScopes
import DeploymentLab.Proofs.SourceUrls
import DeploymentLab.Proofs.WriteOutcomes
import DeploymentLab.Proofs.SlackIdentity
import DeploymentLab.Proofs.Raised
import DeploymentLab.Proofs.ProviderErrors
import DeploymentLab.Proofs.RetryDelays
import DeploymentLab.Proofs.EvidenceStrictness
import DeploymentLab.Proofs.IdempotentCreation
import DeploymentLab.Proofs.JsonRoundTrip
import DeploymentLab.Proofs.HandlerResults
import DeploymentLab.Proofs.RequestPaths
import DeploymentLab.Proofs.TrustedUrls
import DeploymentLab.Proofs.RequestConfinement
import DeploymentLab.Proofs.LedgerWrite
import DeploymentLab.Proofs.Convergence
import DeploymentLab.Proofs.RowWalk
import DeploymentLab.Proofs.Resumption
import DeploymentLab.Proofs.LedgerTruth
import DeploymentLab.Library.Flight
import DeploymentLab.Proofs.CommentGrounds
import DeploymentLab.Proofs.PostedComments
import DeploymentLab.Proofs.TrackedRows
import DeploymentLab.Proofs.SingleComment
import DeploymentLab.Model.TaskApi
import DeploymentLab.Proofs.TaskCreation
