import Tlsurl.Http.Uri

/-! Errors and the errors behind them (`error.rs`, and the `Error` of `layer/client.rs`).
An error type decides what it shows of the error it was made from: whether its `source` leads
there, and whether its text goes on with the text of that error.
-/

namespace Tlsurl.Failure

/-- `error::Kind`, without the status of `error_for_status`, which has no source -/
inductive Kind where
  | builder
  | request
  | tls
  | redirect
  | body
  | decode
  | upgrade
  | webSocket
  deriving DecidableEq

/-- `layer::client::ErrorKind` -/
inductive ErrorKind where
  | canceled
  | channelClosed
  | connect
  | proxyConnect
  | userUnsupportedRequestMethod
  | userUnsupportedVersion
  | userAbsoluteUriRequired
  | sendRequest
  deriving DecidableEq

/-- `io::ErrorKind`, as far as anything asks for it -/
inductive IoKind where
  | timedOut
  | other
  deriving DecidableEq

/-- The variants of `TunnelError` without a source -/
inductive TunnelFailure where
  | missingHost
  | proxyAuthRequired
  | tunnelUnexpectedEof
  | tunnelUnsuccessful
  deriving DecidableEq

/-- The variants of `TunnelError` with a source -/
inductive TunnelCause where
  | connectFailed
  | io
  | parse
  deriving DecidableEq

/-- The variants of `SocksError` that hold no error -/
inductive SocksFailure where
  | dnsFailure
  | missingHost
  deriving DecidableEq

/-- The variants of `SocksError` that hold one -/
inductive SocksCause where
  | connectFailed
  | dnsResolveFailure
  | socks
  | io
  | utf8
  deriving DecidableEq

/-- `BoxError`: an error of one of these types, with the error it was made from -/
inductive Cause where
  /-- `wreq::Error` -/
  | error (kind : Kind) (source : Cause) (uri : Option Uri)
  /-- `layer::client::Error` -/
  | client (kind : ErrorKind) (source : Cause)
  /-- `e!(kind)` -/
  | clientAlone (kind : ErrorKind)
  | timedOut
  | badScheme
  | tooManyRedirects
  | dns (source : Cause)
  | proxyConnect (source : Cause)
  | tunnel (failure : TunnelFailure)
  | tunnelOver (failure : TunnelCause) (source : Cause)
  | socks (failure : SocksFailure)
  | socksOver (failure : SocksCause) (held : Cause)
  /-- `ConnectError` -/
  | connect (msg : String) (source : Cause)
  | connectAlone (msg : String)
  /-- `io::Error`, alone or around another error -/
  | io (kind : IoKind) (text : String)
  | ioOver (kind : IoKind) (inner : Cause)
  /-- An error of another crate; `late` is `is_timeout` of a
  `wreq_proto::Error`. -/
  | foreign (late : Bool) (text : String)
  | foreignOver (late : Bool) (text : String) (source : Cause)
  deriving DecidableEq

/-- `wreq::Error` -/
structure Error where
  kind : Kind
  source : Cause
  uri : Option Uri := none
  deriving DecidableEq

-----------------------------------------------------------------------------------------
-- Sources
-----------------------------------------------------------------------------------------

namespace Cause

/-- `StdError::source`. An `io::Error` passes on the source of what it is around, and a
`SocksError` has none.
-/
def source : Cause → Option Cause
  | .error _ source _ => some source
  | .client _ source => some source
  | .dns source => some source
  | .proxyConnect source => some source
  | .tunnelOver _ source => some source
  | .connect _ source => some source
  | .foreignOver _ _ source => some source
  | .ioOver _ inner => inner.source
  | _ => none

/-- The errors that following `source` from an error leads through -/
def sources : Cause → List Cause
  | .error _ source _ => source :: source.sources
  | .client _ source => source :: source.sources
  | .dns source => source :: source.sources
  | .proxyConnect source => source :: source.sources
  | .tunnelOver _ source => source :: source.sources
  | .connect _ source => source :: source.sources
  | .foreignOver _ _ source => source :: source.sources
  | .ioOver _ inner => inner.sources
  | _ => []

/-- The loop over the sources goes from one source to the next. -/
theorem sources_eq (cause : Cause)
    : cause.sources
      = match cause.source with
        | none => []
        | some source => source :: source.sources := by
  induction cause with
  | ioOver kind inner ih => exact ih
  | _ => rfl

/-- What makes `is_timeout` stop at an error -/
def timed : Cause → Bool
  | .timedOut => true
  | .io kind _ => kind = .timedOut
  | .ioOver kind _ => kind = .timedOut
  | .foreign late _ => late
  | .foreignOver late _ _ => late
  | _ => false

/-- `layer::client::Error::is_connect` of an error of that type -/
def connects : Cause → Bool
  | .client kind _ => kind = .connect
  | .clientAlone kind => kind = .connect
  | _ => false

/-- Whether an error is a `DnsError` -/
def resolves : Cause → Bool
  | .dns _ => true
  | _ => false

/-- Whether an error is a `TunnelError` -/
def ofTunnel : Cause → Bool
  | .tunnel _ => true
  | .tunnelOver _ _ => true
  | _ => false

/-- Whether an error is a `SocksError` -/
def ofSocks : Cause → Bool
  | .socks _ => true
  | .socksOver _ _ => true
  | _ => false

/-- Whether an error is a `ProxyConnect` -/
def ofProxyConnect : Cause → Bool
  | .proxyConnect _ => true
  | _ => false

/-- Whether an error is one of a proxy, as `layer::client::Error::new` tells them -/
def ofProxy (cause : Cause) : Bool :=
  cause.ofTunnel || cause.ofProxyConnect || cause.ofSocks

/-- Whether an error passes a test or one of the errors behind it does -/
def shows (test : Cause → Bool) (cause : Cause) : Bool := test cause || cause.sources.any test

end Cause

/-- `layer::client::Error::new`, boxed -/
def clientError (kind : ErrorKind) (error : Cause) : Cause :=
  .client (if error.ofProxy then .proxyConnect else kind) error

namespace Error

/-- `Error::new` with a source, boxed -/
def box (self : Error) : Cause := .error self.kind self.source self.uri

/-- `downcast::<Error>` -/
def downcast : Cause → Option Error
  | .error kind source uri => some { kind, source, uri }
  | _ => none

/-- `Error::request` -/
def request (source : Cause) : Error := { kind := .request, source }

/-- `Error::with_uri` -/
def withUri (self : Error) (uri : Uri) : Error := { self with uri := some uri }

/-- `Error::without_uri` -/
def withoutUri (self : Error) : Error := { self with uri := none }

/-- `Error::is_builder` -/
def isBuilder (self : Error) : Bool := self.kind = .builder

/-- `Error::is_tls` -/
def isTls (self : Error) : Bool := self.kind = .tls

/-- `Error::is_timeout` -/
def isTimeout (self : Error) : Bool := self.source.shows Cause.timed

/-- `Error::is_connect` -/
def isConnect (self : Error) : Bool := self.source.shows Cause.connects

/-- `Error::is_dns` -/
def isDns (self : Error) : Bool := self.source.shows Cause.resolves

end Error

-----------------------------------------------------------------------------------------
-- Texts
-----------------------------------------------------------------------------------------

/-- A piece of the text of an error -/
inductive Piece where
  | text (text : String)
  | uri (uri : Uri)

/-- The text of a piece; a URI is ASCII. -/
def Piece.render : Piece → String
  | .text shown => shown
  | .uri shown => String.ofList (shown.toStr.map (fun byte => Char.ofNat byte.toNat))

/-- The URIs in a text -/
def uris (pieces : List Piece) : List Uri :=
  pieces.filterMap (fun piece =>
    match piece with
    | .text _ => none
    | .uri shown => some shown)

/-- `Display for Error`, of a kind -/
def Kind.display : Kind → String
  | .builder => "builder error"
  | .request => "error sending request"
  | .body => "request or response body error"
  | .tls => "tls error"
  | .decode => "error decoding response body"
  | .redirect => "error following redirect"
  | .upgrade => "error upgrading connection"
  | .webSocket => "websocket error"

/-- `Debug for ErrorKind` -/
def ErrorKind.debug : ErrorKind → String
  | .canceled => "Canceled"
  | .channelClosed => "ChannelClosed"
  | .connect => "Connect"
  | .proxyConnect => "ProxyConnect"
  | .userUnsupportedRequestMethod => "UserUnsupportedRequestMethod"
  | .userUnsupportedVersion => "UserUnsupportedVersion"
  | .userAbsoluteUriRequired => "UserAbsoluteUriRequired"
  | .sendRequest => "SendRequest"

/-- `Display for TunnelError` without a source -/
def TunnelFailure.display : TunnelFailure → String
  | .missingHost => "tunnel error: missing destination host"
  | .proxyAuthRequired => "tunnel error: proxy authorization required"
  | .tunnelUnexpectedEof => "tunnel error: unexpected end of file"
  | .tunnelUnsuccessful => "tunnel error: unsuccessful"

/-- `Display for TunnelError` with a source, whose text is left out -/
def TunnelCause.display : TunnelCause → String
  | .connectFailed => "tunnel error: failed to create underlying connection"
  | .io => "tunnel error: io error establishing tunnel"
  | .parse => "tunnel error: invalid proxy response"

/-- `Display for SocksError` that holds no error -/
def SocksFailure.display : SocksFailure → String
  | .dnsFailure => "SOCKS error: could not resolve to acceptable address type"
  | .missingHost => "SOCKS error: missing destination host"

/-- `Display for SocksError` up to the text of the error it holds -/
def SocksCause.display : SocksCause → String
  | .connectFailed => "SOCKS error: failed to create underlying connection: "
  | .dnsResolveFailure => "SOCKS error: failed to resolve DNS for SOCKS target: "
  | .socks => "SOCKS error: error during SOCKS handshake: "
  | .io => "SOCKS error: io error during SOCKS handshake: "
  | .utf8 => "SOCKS error: invalid UTF-8 during SOCKS authentication: "

/-- ` for uri (...)`, if there is one -/
def displayUri : Option Uri → List Piece
  | none => []
  | some uri => [.text " for uri (", .uri uri, .text ")"]

/-- `Display` of an error -/
def Cause.display : Cause → List Piece
  | .error kind source uri => .text kind.display :: displayUri uri ++ .text ": " :: source.display
  | .client kind _ => [.text ("client error (" ++ kind.debug ++ ")")]
  | .clientAlone kind => [.text ("client error (" ++ kind.debug ++ ")")]
  | .timedOut => [.text "operation timed out"]
  | .badScheme => [.text "URI scheme is not allowed"]
  | .tooManyRedirects => [.text "too many redirects"]
  | .dns source => .text "dns resolution error: " :: source.display
  | .proxyConnect source => .text "proxy connect error: " :: source.display
  | .tunnel failure => [.text failure.display]
  | .tunnelOver failure _ => [.text failure.display]
  | .socks failure => [.text failure.display]
  | .socksOver failure held => .text failure.display :: held.display
  | .connect msg _ => [.text msg]
  | .connectAlone msg => [.text msg]
  | .io _ text => [.text text]
  | .ioOver _ inner => inner.display
  | .foreign _ text => [.text text]
  | .foreignOver _ text _ => [.text text]

/-- `Display for Error` -/
def Error.display (self : Error) : List Piece := self.box.display

@[simp]
theorem uris_append (first second : List Piece)
    : uris (first ++ second) = uris first ++ uris second :=
  List.filterMap_append

@[simp]
theorem uris_text (text : String) (rest : List Piece) : uris (.text text :: rest) = uris rest := rfl

@[simp]
theorem uris_nil : uris [] = [] := rfl

@[simp]
theorem uris_displayUri (uri : Option Uri) : uris (displayUri uri) = uri.toList := by
  cases uri <;> rfl

/-- The URIs that the text of an error discloses, its own first -/
theorem uris_display_error (kind : Kind) (source : Cause) (uri : Option Uri)
    : uris (Cause.error kind source uri).display = uri.toList ++ uris source.display := by
  simp [Cause.display]

end Tlsurl.Failure
