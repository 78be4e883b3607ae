import RtsNotebook.Library.Runs
import RtsNotebook.Library.OrderedMap
import RtsNotebook.Otel.Attrs
import RtsNotebook.Renderers.Components.Reports
import RtsNotebook.Llmnb.BlobResolver
import RtsNotebook.Notebook.ControllerLifecycle
import RtsNotebook.Notebook.Attribution
import RtsNotebook.Notebook.MetadataApplier
import RtsNotebook.Activation
import RtsNotebook.LlmClient.TcpLive
import RtsNotebook.LlmClient.DriverReply
import RtsNotebook.LlmClient.TcpConnect
import RtsNotebook.LlmClient.TcpDelivery
import RtsNotebook.LlmClient.StubReplay
import RtsNotebook.LlmClient.LiveReplay
import RtsNotebook.Renderers.Components.Approval
import RtsNotebook.Renderers.Components.AgentEmit
import RtsNotebook.Renderers.Components.Conversational
import RtsNotebook.Renderers.Components.Proxied
import RtsNotebook.Renderers.RunRenderer
import RtsNotebook.Renderers.Injection
import RtsNotebook.Notebook.DataPlane
import RtsNotebook.Library.TrackedMap
import RtsNotebook.Notebook.Snapshots
import RtsNotebook.Notebook.HeaderChips
import RtsNotebook.Notebook.CellBadge
import RtsNotebook.Notebook.Contamination
import RtsNotebook.Notebook.MetadataObservers
import RtsNotebook.Library.LiveArray
import RtsNotebook.Messaging.Router
import RtsNotebook.Notebook.DataPlaneDispatch
import RtsNotebook.Dispatch.Envelopes
import RtsNotebook.Notebook.Outbound
import RtsNotebook.LlmClient.TcpGate
import RtsNotebook.LlmClient.Receiving
import RtsNotebook.Library.CheckedCalls
import RtsNotebook.LlmClient.LiveEnding
import RtsNotebook.LlmClient.LiveChecks
import RtsNotebook.LlmClient.LiveSurvival
import RtsNotebook.Js.Members
import RtsNotebook.Llmnb.CellMetadata
import RtsNotebook.Js.Unicode
import RtsNotebook.Js.Uri
import RtsNotebook.Sidebar.AgentUri
import RtsNotebook.Sidebar.InFlight
import RtsNotebook.Js.NumberText
import RtsNotebook.Js.JsonText
import RtsNotebook.Js.TextDecoder
import RtsNotebook.Library.MappedLists
import RtsNotebook.Llmnb.Serializer
import RtsNotebook.Llmnb.SerializerStability
import RtsNotebook.Llmnb.DocumentFidelity
import RtsNotebook.Library.Ledger
import RtsNotebook.Notebook.SectionCell
import RtsNotebook.Library.Infixes
import RtsNotebook.Notebook.PrivilegeMenu
import RtsNotebook.Notebook.ContinueForms
import RtsNotebook.Notebook.SpawnForms
import RtsNotebook.Library.StableSort
import RtsNotebook.Inspect.RunFrames
import RtsNotebook.Inspect.RunQueries
import RtsNotebook.Js.UtcStamp
import RtsNotebook.Inspect.Chronology
import RtsNotebook.Sidebar.AgentLineage
import RtsNotebook.Library.Scanner
import RtsNotebook.Library.Collapsing
import RtsNotebook.Js.RegExp.Lexer
import RtsNotebook.Js.RegExp.Parser
import RtsNotebook.Js.RegExp.Matcher
import RtsNotebook.Js.RegExp.Progress
import RtsNotebook.Js.RegExp.Literals
import RtsNotebook.Js.RegExp.Continued
import RtsNotebook.Js.RegExp.Guarded
import RtsNotebook.Sidebar.Search.Scope
import RtsNotebook.Sidebar.Search.MatchFinder
import RtsNotebook.Sidebar.Search.Snippets
import RtsNotebook.Sidebar.Search.Scanning
import RtsNotebook.Sidebar.Search.Totals
import RtsNotebook.Sidebar.Search.LiteralSearch
import RtsNotebook.Sidebar.Search.WholeWord
import RtsNotebook.Notebook.LineMagics
import RtsNotebook.Notebook.SectionMagicArgs
import RtsNotebook.Notebook.SecretScan
import RtsNotebook.Library.Machines
import RtsNotebook.Library.Timers
import RtsNotebook.Notebook.HydrateWatchdog
import RtsNotebook.Messaging.HeartbeatConsumer
import RtsNotebook.Js.IntegerText
import RtsNotebook.Otel.Encoding
import RtsNotebook.Otel.RoundTrips
import RtsNotebook.Notebook.AttributeReaders
import RtsNotebook.Llmnb.BlobIntegrity
import RtsNotebook.Otel.Undecodable
import RtsNotebook.Sidebar.OutputKindLens.Extractor
import RtsNotebook.Sidebar.OutputKindLens.MalformedSpans
import RtsNotebook.Library.Lookups
import RtsNotebook.Library.Tiling
import RtsNotebook.Library.Updates
import RtsNotebook.Webviews.MapView
import RtsNotebook.Webviews.MapPlaces
import RtsNotebook.Webviews.MapSiblings
import RtsNotebook.Webviews.MapContainment
import RtsNotebook.Notebook.InterruptButton
import RtsNotebook.Notebook.CellMetadataReaders
import RtsNotebook.Python.TextFiles
import RtsNotebook.LlmClient.Auth
import RtsNotebook.LlmClient.AuthRotation
import RtsNotebook.Library.Latest
import RtsNotebook.Library.Traced
import RtsNotebook.Webviews.MapHints
import RtsNotebook.Webviews.MapMoves
import RtsNotebook.Webviews.MapDrag
import RtsNotebook.Webviews.MapPanel
import RtsNotebook.Sidebar.AgentCondition
import RtsNotebook.Sidebar.AgentDecorations
import RtsNotebook.Sidebar.MetadataSource
import RtsNotebook.Sidebar.Search.SearchSession
import RtsNotebook.Notebook.KernelLifecycle
import RtsNotebook.Notebook.KernelShutdown
import RtsNotebook.LlmClient.RunNotebook
import RtsNotebook.LlmClient.FailedEnvelopes
import RtsNotebook.LlmClient.ExecuteCommand
import RtsNotebook.Sidebar.ActivityTree
import RtsNotebook.Notebook.SectionDialogs
import RtsNotebook.Notebook.NotebookSessions
import RtsNotebook.Notebook.KernelTerminal
import RtsNotebook.Sidebar.AgentsTree
import RtsNotebook.Sidebar.InterruptAgent
import RtsNotebook.Js.RegExp.Locality
import RtsNotebook.Sidebar.Search.SearchScopes
import RtsNotebook.Library.Conversations
import RtsNotebook.Notebook.PinMenu
