import A2A.Library.OrderedMap
import A2A.Library.Transition
import A2A.Library.Register
import A2A.Library.Inbox
import A2A.Library.Service
import A2A.Library.Recency
import A2A.Library.EventTarget
import A2A.Library.AsyncIteration
import A2A.Library.EventLoop
import A2A.Server.WriteLocks
import A2A.Server.Semantics.Chains
import A2A.Server.Semantics.ChainTurns
import A2A.Server.Semantics.ChainProgress
import A2A.Server.Properties.FairChains
import A2A.Server.Transports.Streams
import A2A.Server.Properties.PeekedStreams
import A2A.Server.Transports.EventStreams
import A2A.Library.Base64
import A2A.Library.Percent
import A2A.Library.Codec
import A2A.Library.Decimal
import A2A.Library.Precedence
import A2A.Library.Delimited
import A2A.Library.Pages
import A2A.Library.Overlay
import A2A.Types
import A2A.Server.Events
import A2A.Server.Stores
import A2A.Server.NestedStores
import A2A.Server.ResultManager
import A2A.Server.ExecutionEventQueue
import A2A.Server.PushNotificationSender
import A2A.Server.RequestHandler.Call
import A2A.Server.RequestHandler.Steps
import A2A.Server.System
import A2A.Server.ManagerPool
import A2A.Server.Semantics.Commit
import A2A.Server.Semantics.Resume
import A2A.Server.Semantics.Frame
import A2A.Server.Semantics.Shape
import A2A.Server.Semantics.Listeners
import A2A.Server.Scenario
import A2A.Server.Semantics.Buses
import A2A.Server.Semantics.Rows
import A2A.Server.Semantics.Locks
import A2A.Server.Semantics.Serial
import A2A.Server.Semantics.Consumers
import A2A.Server.Semantics.Inboxes
import A2A.Server.Properties.LockScopes
import A2A.Server.Properties.QueueDelivery
import A2A.Server.Properties.PushOrder
import A2A.Server.Properties.BusLeaks
import A2A.Server.Properties.TerminalStates
import A2A.Server.Properties.LostUpdates
import A2A.Server.Properties.MonotoneWrites
import A2A.Server.Properties.RejectedRequests
import A2A.Server.Properties.DetachedQueues
import A2A.Server.Properties.UniqueMessages
import A2A.Server.Semantics.Writes
import A2A.Server.Semantics.SoleWriter
import A2A.Server.Semantics.Answers
import A2A.Server.Semantics.Synced
import A2A.Server.Semantics.Settlement
import A2A.Server.Properties.SettledCallers
import A2A.Server.Semantics.Engagement
import A2A.Server.Properties.OverlappingExecutions
import A2A.Library.Feed
import A2A.Server.Semantics.Absorption
import A2A.Server.Properties.MergedOnce
import A2A.Server.Semantics.Records
import A2A.Server.Semantics.Replay
import A2A.Server.Semantics.Drained
import A2A.Server.Properties.ReturnedTasks
import A2A.Server.Properties.MergedArtifacts
import A2A.Server.Semantics.Contexts
import A2A.Server.Properties.FailureHistory
import A2A.Server.Properties.FailureRecords
import A2A.Server.Properties.AbandonedStreams
import A2A.Server.Semantics.Awaited
import A2A.Server.Semantics.Twins
import A2A.Server.Properties.HistoryLength
import A2A.Server.Properties.StoreIsolation
import A2A.Server.Properties.LiveConfigs
import A2A.Server.ExecutionEventBus
import A2A.Server.Properties.ListenerRegistry
import A2A.Server.Semantics.Listing
import A2A.Server.Semantics.Opening
import A2A.Server.Properties.PageWalks
import A2A.Server.Properties.Chronology
import A2A.Compat.Types
import A2A.Compat.Converters
import A2A.Compat.Properties.StreamViews
import A2A.Compat.Translate
import A2A.Compat.Properties.PartContents
import A2A.Compat.Transports
import A2A.Compat.Properties.Histories
import A2A.Errors.Base
import A2A.Errors.Wire
import A2A.Errors.Properties.RoundTrips
import A2A.Errors.Properties.Subclasses
import A2A.Errors.Properties.Totality
import A2A.Server.CallContext
import A2A.Server.Transports.JsonRpc
import A2A.Server.Transports.Http
import A2A.Server.Properties.TenantDispatch
import A2A.Server.Properties.ExtensionEcho
import A2A.Compat.JsonRpc
import A2A.Compat.Properties.Envelopes
import A2A.Compat.Errors
import A2A.Compat.Properties.ErrorBodies
import A2A.Compat.Properties.CoreRoundTrips
import A2A.Compat.Properties.DataParts
import A2A.Compat.Cards
import A2A.Compat.Properties.ReadableCards
import A2A.Compat.Properties.LegacyInterfaces
import A2A.Library.Emission
import A2A.Json
import A2A.Library.Readable
import A2A.Library.Router
import A2A.Json.Readable
import A2A.Sse.Base
import A2A.Sse.Dispatch
import A2A.Sse.Suspensions
import A2A.Sse.Properties.Chunking
import A2A.Sse.Properties.RoundTrips
import A2A.Sse.Properties.Blocks
import A2A.Sse.Properties.Dispatching
import A2A.Sse.Properties.BoundedMemory
import A2A.Signature.Base
import A2A.Signature.Leaves
import A2A.Signature.Scenario
import A2A.Signature.Properties.Signers
import A2A.Signature.Properties.CanonicalForms
import A2A.Signature.Properties.EqualValues
import A2A.Server.Transports.Rest
import A2A.Client.RestTransport
import A2A.Card
import A2A.Client.Factory
import A2A.Client.Properties.Selection
import A2A.Client.ServiceParameters
import A2A.Client.Properties.Headers
import A2A.Library.Chain
import A2A.Client.Interceptors
import A2A.Client.Properties.Interception
import A2A.Client.MultitransportClient
import A2A.Client.Properties.SharedObjects
import A2A.Client.Properties.Routes
import A2A.Compat.PushNotifications
import A2A.Compat.Properties.ResourceNames
import A2A.Compat.RestHandler
import A2A.Compat.Properties.PathTargets
import A2A.Compat.Properties.VersionGrammar
import A2A.Server.Semantics.Configs
import A2A.Compat.JsonRpcHandler
import A2A.Compat.EventStreams
import A2A.Compat.Properties.ClosedStreams
import A2A.Compat.Methods
import A2A.Compat.Properties.MethodNames
import A2A.Compat.Properties.WireVersions
import A2A.Compat.Properties.ConfigNames
import A2A.Library.Exhaustion
import A2A.Server.Semantics.LockQueues
import A2A.Server.Semantics.Workload
import A2A.Server.Properties.ComesToRest
import A2A.Server.Semantics.Replicas
import A2A.Server.Properties.CoherentSubscriptions
import A2A.Types.Codec
import A2A.Types.Properties.CodecRoundTrips
import A2A.Server.Transports.JsonRpcMethods
import A2A.Client.JsonRpcTransport
import A2A.Client.Properties.JsonRpcCalls
import A2A.Library.ListedIteration
import A2A.Server.Properties.ListedStreams
import A2A.Client.Properties.JsonRpcStreams
import A2A.Server.Transports.RestMethods
import A2A.Client.RestExchanges
import A2A.Client.Properties.RestQueries
import A2A.Client.Properties.RestCalls
import A2A.Client.Properties.OpenStreams
import A2A.Client.Properties.RestStreams
import A2A.Client.Properties.RelayedErrors
import A2A.Server.Semantics.Divisions
import A2A.Server.Semantics.Shares
import A2A.Server.Properties.SeparateParties
