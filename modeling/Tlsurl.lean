import Tlsurl.Library.AssocMap
import Tlsurl.Library.Boundary
import Tlsurl.Library.Run
import Tlsurl.Library.Table
import Tlsurl.Library.Lru
import Tlsurl.Library.SparseMap
import Tlsurl.Library.SwapRemove
import Tlsurl.Library.SwapErase
import Tlsurl.Library.FairLock
import Tlsurl.Library.KeyGuards
import Tlsurl.Library.SortedMap
import Tlsurl.Library.Overlay
import Tlsurl.Library.Alternate
import Tlsurl.Library.Hashing
import Tlsurl.Library.Sorting
import Tlsurl.Library.Incremental
import Tlsurl.Library.Traced
import Tlsurl.Library.Lines
import Tlsurl.Library.Joined
import Tlsurl.Library.Shuffle
import Tlsurl.Library.Queue
import Tlsurl.Http.Str
import Tlsurl.Http.HeaderMap
import Tlsurl.Http.HeaderEdits
import Tlsurl.Http.Uri
import Tlsurl.Http.Url
import Tlsurl.Http.UrlText
import Tlsurl.Http.Message
import Tlsurl.Http.HeaderOrder
import Tlsurl.Http.HeaderStability
import Tlsurl.Http.Utf8
import Tlsurl.Http.Percent
import Tlsurl.Http.Urlencoded
import Tlsurl.Http.Disposition
import Tlsurl.Http.Tokens
import Tlsurl.Redirect.Referrer
import Tlsurl.Redirect.Policy
import Tlsurl.Redirect.Future
import Tlsurl.Redirect.Exchange
import Tlsurl.Redirect.PollCases
import Tlsurl.Redirect.SchemeSafety
import Tlsurl.Redirect.OriginBound
import Tlsurl.Redirect.HistoryRecord
import Tlsurl.Redirect.Payload
import Tlsurl.Redirect.BodyEvolution
import Tlsurl.Redirect.Disclosure
import Tlsurl.Redirect.ReferrerChain
import Tlsurl.Redirect.Limit
import Tlsurl.Retry.Policy
import Tlsurl.Retry.Driver
import Tlsurl.Retry.Scope
import Tlsurl.Retry.Fidelity
import Tlsurl.Tls.SessionCache
import Tlsurl.Tls.SingleUse
import Tlsurl.Tls.Capacity
import Tlsurl.Tls.Alpn
import Tlsurl.Tls.KeyLogPath
import Tlsurl.Tls.KeyLog
import Tlsurl.Cookie.Store
import Tlsurl.Cookie.Jar
import Tlsurl.Cookie.Lookup
import Tlsurl.Cookie.Matching
import Tlsurl.Cookie.Retrieval
import Tlsurl.Cookie.SecureIntegrity
import Tlsurl.Cookie.Queries
import Tlsurl.Cookie.Expiry
import Tlsurl.Cookie.LazyExpiry
import Tlsurl.Cookie.Versions
import Tlsurl.Cookie.Representation
import Tlsurl.Cookie.Snapshots
import Tlsurl.Cookie.Provenance
import Tlsurl.Pool.Inner
import Tlsurl.Pool.System
import Tlsurl.Pool.Operations
import Tlsurl.Pool.Locked
import Tlsurl.Pool.Connections
import Tlsurl.Pool.Queues
import Tlsurl.Pool.Handout
import Tlsurl.Pool.Keys
import Tlsurl.Pool.Uses
import Tlsurl.Pool.Exclusive
import Tlsurl.Pool.IdleLists
import Tlsurl.Pool.SizeLimit
import Tlsurl.Pool.Parties
import Tlsurl.Pool.Served
import Tlsurl.Pool.Waiting
import Tlsurl.Pool.Discards
import Tlsurl.Pool.Custody
import Tlsurl.Pool.Returned
import Tlsurl.Pool.ConnectLocks
import Tlsurl.Pool.Shared
import Tlsurl.Pool.IdleOrder
import Tlsurl.Pool.Fairness
import Tlsurl.Client.Connect
import Tlsurl.Client.Failures
import Tlsurl.Client.ConnectLock
import Tlsurl.Client.Handover
import Tlsurl.Client.Config
import Tlsurl.Proxy.Matcher
import Tlsurl.Proxy.Tunnel
import Tlsurl.Proxy.NoProxy
import Tlsurl.Proxy.Intercept
import Tlsurl.Proxy.Builder
import Tlsurl.Proxy.Credentials
import Tlsurl.Proxy.Windows
import Tlsurl.Proxy.Bypass
import Tlsurl.Route.BindOptions
import Tlsurl.Route.Connector
import Tlsurl.Route.Resolve
import Tlsurl.Route.ResolverPorts
import Tlsurl.Route.Channel
import Tlsurl.Identity.Group
import Tlsurl.Identity.Descriptor
import Tlsurl.Identity.Isolation
import Tlsurl.Identity.Riding
import Tlsurl.Identity.Hashing
import Tlsurl.Send.Attempt
import Tlsurl.Send.Resend
import Tlsurl.Send.ProxyHeaders
import Tlsurl.Send.Session
import Tlsurl.Net.Race
import Tlsurl.Net.RaceOrder
import Tlsurl.Net.RaceRuns
import Tlsurl.Net.RaceRoom
import Tlsurl.Net.IpText
import Tlsurl.Net.Ipv4Octets
import Tlsurl.Timeout.Body
import Tlsurl.Timeout.Service
import Tlsurl.Timeout.Deadline
import Tlsurl.Timeout.Reads
import Tlsurl.Multipart.Form
import Tlsurl.Multipart.Framing
import Tlsurl.Multipart.Length
import Tlsurl.Multipart.Decoding
import Tlsurl.Request.Builder
import Tlsurl.Request.Query
import Tlsurl.Request.Userinfo
import Tlsurl.Core.Stream
import Tlsurl.Core.StreamOwner
import Tlsurl.Core.StreamClose
import Tlsurl.Core.StreamEnd
import Tlsurl.Core.StreamSpent
import Tlsurl.Core.WebSocket
import Tlsurl.Core.SocketLocks
import Tlsurl.Core.SocketRelease
import Tlsurl.Core.ClosingHandshake
import Tlsurl.Core.Collect
import Tlsurl.Core.Request
import Tlsurl.Core.Authorization
import Tlsurl.Core.RandomTls
import Tlsurl.Ws.Handshake
import Tlsurl.Bindings.Payload
import Tlsurl.Bindings.Cancellation
import Tlsurl.Bindings.Listeners
import Tlsurl.Bindings.Aborted
import Tlsurl.Core.SocketShut
import Tlsurl.Bindings.Socket
import Tlsurl.Bindings.SocketSignal
import Tlsurl.Failure.Cause
import Tlsurl.Failure.Report
import Tlsurl.Failure.Connect
import Tlsurl.Failure.Codes
import Tlsurl.Failure.Messages
import Tlsurl.Library.Codes
import Tlsurl.Net.Verbose
