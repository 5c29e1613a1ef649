import TaskQueQue.KeyedTable
import TaskQueQue.Histories
import TaskQueQue.FencedLease
import TaskQueQue.QueueValues
import TaskQueQue.QueueTables
import TaskQueQue.GreedyAssignment
import TaskQueQue.TaskLife
import TaskQueQue.SyncQueue
import TaskQueQue.LeaseFence
import TaskQueQue.ResultProjection
import TaskQueQue.Cancellation
import TaskQueQue.Idempotency
import TaskQueQue.Retention
import TaskQueQue.WorkerProtocol
import TaskQueQue.QueueRuns
import TaskQueQue.QueueInvariants
import TaskQueQue.LeaseSafety
import TaskQueQue.TerminalStates
import TaskQueQue.BoundedAdmission
import TaskQueQue.WorkerCapacity
import TaskQueQue.CoordinatorRuns
import TaskQueQue.GatewayValues
import TaskQueQue.AgentDirect
import TaskQueQue.TaskQuery
import TaskQueQue.SharedDatabase
import TaskQueQue.ClaimOwnership
import TaskQueQue.StatusVocabulary
import TaskQueQue.ResultFormats
import TaskQueQue.HiddenState
import TaskQueQue.Capabilities
import TaskQueQue.CapabilityAuth
import TaskQueQue.CapabilityAccess
import TaskQueQue.LocalApi
import TaskQueQue.TaskFacade
import TaskQueQue.WorkflowFacade
import TaskQueQue.GatewayRouter
import TaskQueQue.UnauthenticatedRequests
import TaskQueQue.ChunkedReading
import TaskQueQue.HttpFraming
import TaskQueQue.RequestRendering
import TaskQueQue.SubmissionRoute
import TaskQueQue.AdmissionLanguage
import TaskQueQue.JsonStrings
import TaskQueQue.JsonText
import TaskQueQue.CapabilitySessions
import TaskQueQue.CimdDiscovery
import TaskQueQue.ExpiringStores
import TaskQueQue.OAuthRequests
import TaskQueQue.OAuthRedirects
import TaskQueQue.PendingConsents
import TaskQueQue.AuthorizationCodes
import TaskQueQue.ClientPolicies
import TaskQueQue.OAuthStages
import TaskQueQue.OAuthTokens
import TaskQueQue.OAuthFlow
import TaskQueQue.OAuthLog
import TaskQueQue.OAuthSafety
import TaskQueQue.MetricsAgreement
import TaskQueQue.OrderedSelections
import TaskQueQue.TerminalPruning
import TaskQueQue.BatchDispatch
import TaskQueQue.SessionRegistry
import TaskQueQue.WorkConservation
import TaskQueQue.AgentPolling
import TaskQueQue.WorkflowDags
import TaskQueQue.RustAgents
import TaskQueQue.ProviderIsolation
import TaskQueQue.McpAgreement
import TaskQueQue.ScopeGrants
import TaskQueQue.TokenBuckets
import TaskQueQue.RequestFingerprints
import TaskQueQue.CanonicalJson
import TaskQueQue.ResultReferences
import TaskQueQue.ProjectionReads
import TaskQueQue.LostApprovals
import TaskQueQue.AddressSpellings
import TaskQueQue.WebUrls
import TaskQueQue.Utf8Decoding
import TaskQueQue.AuthorizationResponses
import TaskQueQue.CanonicalClientIds
import TaskQueQue.JsonSchemas
import TaskQueQue.McpSchemas
import TaskQueQue.LabelledRuns
import TaskQueQue.WorkflowExecution
import TaskQueQue.AcceptedReferences
import TaskQueQue.AcceptedDefinitions
import TaskQueQue.WorkflowRuns
import TaskQueQue.KeyedSubmissions
import TaskQueQue.WorkflowWorlds
import TaskQueQue.WorkflowReplay
import TaskQueQue.ReplaySafety
import TaskQueQue.FormattedJson
import TaskQueQue.WorkerApi
import TaskQueQue.Utf16Texts
import TaskQueQue.StrictPaths
import TaskQueQue.PathValidators
import TaskQueQue.ProcessLaunch
import TaskQueQue.FaultyDirectories
import TaskQueQue.FilesystemMutation
import TaskQueQue.JsonReading
import TaskQueQue.MutationReports
import TaskQueQue.ProcessRuns
import TaskQueQue.FlatJson
import TaskQueQue.CurlMetadata
import TaskQueQue.SerializedResults
import TaskQueQue.RemoteAgents
import TaskQueQue.ClaimHandling
import TaskQueQue.TaskOrigins
import TaskQueQue.SessionDelegation
import TaskQueQue.WorkerRoutes
import TaskQueQue.ProviderSnapshots
import TaskQueQue.WorkerDaemon
import TaskQueQue.WorkerAuthority
import TaskQueQue.IssuedSessions
import TaskQueQue.HeldTasks
import TaskQueQue.RegisteredWorkers
import TaskQueQue.AvailableTasks
import TaskQueQue.SymlinkTrees
import TaskQueQue.FilesystemReads
import TaskQueQue.ListedEntries
import TaskQueQue.ClientCalls
import TaskQueQue.WorkerClient
import TaskQueQue.AgreedRegistrations
import TaskQueQue.WorkerAgreement
import TaskQueQue.DeclaredOutputs
import TaskQueQue.AcceptedOutputs
import TaskQueQue.EscapedTexts
import TaskQueQue.PresentableResults
import TaskQueQue.PresentedResults
import TaskQueQue.McpTransport
import TaskQueQue.McpMessages
import TaskQueQue.CapabilitySessionApi
