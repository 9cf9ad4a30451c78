import WinInspect.Transition.Core
import WinInspect.Transition.Composite
import WinInspect.Transition.Simulation
import WinInspect.Effect.Program
import WinInspect.Effect.Loop
import WinInspect.Effect.Trace
import WinInspect.Data.Bytes
import WinInspect.Data.Double
import WinInspect.Data.Assoc
import WinInspect.Data.Map
import WinInspect.Data.Diff
import WinInspect.Data.Sweep
import WinInspect.Data.Rfc4648
import WinInspect.Data.Framing
import WinInspect.Data.Names
import WinInspect.Data.Recency
import WinInspect.Data.Unicode
import WinInspect.Data.Enumeration
import WinInspect.Data.Parents
import WinInspect.Data.Loop
import WinInspect.Data.Fields
import WinInspect.Data.Chain
import WinInspect.Json.Value
import WinInspect.Json.Parser
import WinInspect.Json.Dump
import WinInspect.Json.RoundTrip
import WinInspect.Json.Grammar
import WinInspect.Json.Soundness
import WinInspect.Json.Recognition
import WinInspect.Json.Canonical
import WinInspect.Json.Strict
import WinInspect.Json.Unicode
import WinInspect.Json.Cursor
import WinInspect.Json.Progress
import WinInspect.Core.Types
import WinInspect.Core.Base64
import WinInspect.Core.Codec
import WinInspect.Core.Hwnd
import WinInspect.Core.Integers
import WinInspect.Core.Version
import WinInspect.Core.VersionTags
import WinInspect.Core.Backend
import WinInspect.Core.FakeBackend
import WinInspect.Core.Protocol
import WinInspect.Core.Render
import WinInspect.Core.Dispatch
import WinInspect.Core.Engine
import WinInspect.Core.Signatures
import WinInspect.Core.Payloads
import WinInspect.Core.Handles
import WinInspect.Core.Numbers
import WinInspect.Core.Mutation
import WinInspect.Core.Events
import WinInspect.Core.Reads
import WinInspect.Core.Desired
import WinInspect.Core.Inspection
import WinInspect.Core.Redaction
import WinInspect.Core.Failures
import WinInspect.Core.WindowForest
import WinInspect.Core.WindowTree
import WinInspect.Core.TreeCodec
import WinInspect.Core.UiElements
import WinInspect.Core.Win32Windows
import WinInspect.Core.Win32Styles
import WinInspect.Core.Win32Screen
import WinInspect.Core.Download
import WinInspect.Core.Win32Text
import WinInspect.Core.Win32Registry
import WinInspect.Core.Win32Environment
import WinInspect.Core.Win32Backend
import WinInspect.Core.Win32RoundTrip
import WinInspect.Crypto.Session
import WinInspect.Crypto.SshKey
import WinInspect.Crypto.Channel
import WinInspect.Crypto.Recorded
import WinInspect.Crypto.Identity
import WinInspect.Crypto.KeyLines
import WinInspect.Crypto.Nonce
import WinInspect.Crypto.Delivery
import WinInspect.Daemon.ServerState
import WinInspect.Daemon.Connection
import WinInspect.Daemon.Framing
import WinInspect.Daemon.Handshake
import WinInspect.Daemon.System
import WinInspect.Daemon.Turn
import WinInspect.Daemon.Buffers
import WinInspect.Daemon.Requests
import WinInspect.Daemon.Connections
import WinInspect.Daemon.Store
import WinInspect.Daemon.Names
import WinInspect.Daemon.Recency
import WinInspect.Daemon.Inspection
import WinInspect.Daemon.Compare
import WinInspect.Daemon.Transports
import WinInspect.Daemon.Sessions
import WinInspect.Daemon.Expiry
import WinInspect.Daemon.Subscriptions
import WinInspect.Daemon.Pins
import WinInspect.Daemon.Eviction
import WinInspect.Daemon.Evicted
import WinInspect.Daemon.Baselines
import WinInspect.Daemon.Responses
import WinInspect.Daemon.ReadOnly
import WinInspect.Daemon.Polling
import WinInspect.Daemon.Startup
import WinInspect.Daemon.Authentication
import WinInspect.Daemon.Unauthenticated
import WinInspect.Daemon.Encryption
import WinInspect.Daemon.Log
import WinInspect.Daemon.RecentLogs
import WinInspect.Daemon.Reproducible
import WinInspect.Daemon.Renaming
import WinInspect.Daemon.Mirror
import WinInspect.Daemon.Isolation
import WinInspect.Daemon.Progress
import WinInspect.Daemon.Exchanges
import WinInspect.Clients.Handshake
import WinInspect.Clients.Framing
import WinInspect.Clients.Commands
import WinInspect.Clients.Agreement
import WinInspect.Clients.Texts
import WinInspect.Clients.ViewModel
import WinInspect.Clients.Watch
import WinInspect.Core.Win32Desired
